import JobShell.Machine.System
import JobShell.Proofs.Recorder.Bookkeeping
import Mathlib.Logic.Basic

/-!
# The window for a second press

A session that has asked for a confirmation has one timer on its way, and any other
session has none.  The timer is pending in the system, or its signal has been recorded,
or its expiry is among the deliveries that are being served; serving them moves it from
one place to the next, and signals may come in at any time.  So no window stays open
without a timer, and no timer of an earlier window cuts a later one short.
-/

namespace JobShell

/-- What there is of signals in a system. -/
structure Signals where
  recorder : Recorder
  /-- The alarm has been set and is still to go off. -/
  pending : Bool

namespace Signals

/-- Signals come in.  An alarm is only the one that has been pending, which is over
with it. -/
inductive Comes (before : Signals) : Signals → Prop where
  | nothing : Comes before before
  | signal {after : Signals} {signal : Signal} (hcomes : Comes before after)
      (hsignal : signal ≠ .alarm) :
      Comes before { after with recorder := after.recorder.record signal }
  | alarm {after : Signals} (hcomes : Comes before after) (hpending : after.pending = true) :
      Comes before { recorder := after.recorder.record .alarm, pending := false }

theorem Comes.trans {before between after : Signals} (hearlier : before.Comes between)
    (hlater : between.Comes after) : before.Comes after := by
  induction hlater with
  | nothing => exact hearlier
  | signal _ hsignal ih => exact ih.signal hsignal
  | alarm _ hpending ih => exact ih.alarm hpending

end Signals

variable {σ : Type}

/-- An operation does one step of the recorder, when signals may have come in. -/
def Recorder.Serves {α : Type} (signals : σ → Signals) (operation : σ → α × σ)
    (step : Recorder → α × Recorder) : Prop :=
  ∀ state, ∃ met, (signals state).Comes met ∧ (operation state).1 = (step met.recorder).1 ∧
    signals (operation state).2 = { met with recorder := (step met.recorder).2 }

/-- A kernel has one alarm, which is pending from when it is set until it goes off or is
cancelled.  Nothing is said about setting it for no time at all. -/
structure Kernel.KeepsAlarm (kernel : Kernel σ) (signals : σ → Signals) : Prop where
  readWakeups : Recorder.Serves signals kernel.readWakeups Recorder.readWakeups
  takeAlarm : Recorder.Serves signals kernel.takeAlarm Recorder.takeAlarm
  takeQuits : Recorder.Serves signals kernel.takeQuits Recorder.takeQuits
  takeInterrupt : Recorder.Serves signals kernel.takeInterrupt Recorder.takeInterrupt
  print : ∀ bytes state, (signals state).Comes (signals (kernel.print bytes state).2)
  interruptGroup : ∀ group state,
    (signals state).Comes (signals (kernel.interruptGroup group state))
  setAlarm : ∀ seconds state, 0 < seconds → ∃ met, (signals state).Comes met ∧
    signals (kernel.setAlarm seconds state) = { met with pending := true }
  cancelAlarm : ∀ state, ∃ met, (signals state).Comes met ∧
    signals (kernel.cancelAlarm state) = { met with pending := false }

/-- A timer is on its way exactly if a quit can be confirmed, and then it is in one place
only. -/
structure Quit.State.Times (quit : Quit.State) (signals : Signals)
    (unserved : List Quit.Delivery) : Prop where
  timer : signals.pending.toNat + signals.recorder.alarmed.toNat
    + unserved.count .timerExpired = quit.armed.toNat
  presses : quit.presses = quit.armed.toNat

namespace Quit

variable (timeout : Duration)

theorem handle_of_idle {quit : State} (hidle : quit.armed = false) :
    handle timeout .quit quit =
      { state := { armed := true, presses := 1 }
        effects := [.announce timeout, .arm timeout]
        exitCode := none } := by
  simp [handle, State.press, hidle]

end Quit

namespace Quit.State.Times

variable {quit : Quit.State} {before after : Signals} {unserved : List Quit.Delivery}

theorem comes (htimes : quit.Times before unserved) (hcomes : before.Comes after) :
    quit.Times after unserved := by
  refine ⟨?_, htimes.presses⟩
  induction hcomes with
  | nothing => exact htimes.timer
  | signal _ hsignal ih =>
      rw [Recorder.alarmed_record, beq_false_of_ne hsignal]
      exact ih
  | alarm _ hpending ih =>
      -- There is one timer at most, so its signal raises a flag that is not up.
      have hone := Bool.toNat_le quit.armed
      rw [hpending, Bool.toNat_true] at ih
      rw [Recorder.alarmed_record]
      simp only [beq_self_eq_true, Bool.true_or, Bool.toNat_true, Bool.toNat_false]
      omega

/-- The second press finds the first one counted. -/
theorem handle_of_armed (htimes : quit.Times before unserved) (harmed : quit.armed = true)
    (timeout : Duration) :
    handle timeout .quit quit =
      { state := { armed := true, presses := 2 }, effects := [.cancel], exitCode := some 0 } := by
  have hpresses := htimes.presses
  rw [harmed] at hpresses
  simp [handle, press, harmed, hpresses]

end Quit.State.Times

/-! ## The machine -/

namespace Machine

def signals (machine : Machine) : Signals where
  recorder := machine.recorder
  pending := machine.alarm.isSome

@[simp]
theorem signals_update (machine : Machine) (member : Member) :
    (machine.update member).signals = machine.signals := by
  rw [update]
  split <;> rfl

theorem comes_noteSignal (machine : Machine) {signal : Signal} (hsignal : signal ≠ .alarm) :
    machine.signals.Comes (machine.noteSignal signal).signals :=
  Signals.Comes.nothing.signal hsignal

/-- Time passes, and the alarm goes off when it is due. -/
theorem comes_passTo (machine : Machine) (time : Nat) :
    machine.signals.Comes (machine.passTo time).signals := by
  rw [passTo]
  dsimp only
  split
  · next due hdue =>
      split
      · exact Signals.Comes.nothing.alarm (congrArg Option.isSome hdue)
      · exact .nothing
  · exact .nothing

theorem comes_tellParent (machine : Machine) (parent : Pid) :
    machine.signals.Comes (machine.tellParent parent).signals := by
  rw [tellParent]
  split
  · exact machine.comes_noteSignal nofun
  · split
    · split
      · rw [signals_update]
        exact .nothing
      · exact .nothing
    · exact .nothing

theorem comes_deliver_interrupt (machine : Machine) (member : Member) :
    machine.signals.Comes (machine.deliver .interrupt member).signals := by
  simp only [deliver]
  split
  · exact machine.comes_noteSignal nofun
  · split
    · exact .nothing
    · split
      · rw [signals_update]
        exact .nothing
      · split
        · exact .nothing
        · have htold := comes_tellParent (machine.update
            { member with descriptors := [], activity := .ended (.signaled .interrupt false) })
            member.identity.parent
          rwa [signals_update] at htold

theorem comes_kill_interrupt (machine : Machine) (sender : Identity) (pid : Pid) :
    machine.signals.Comes (machine.kill sender pid (some .interrupt)).2.signals := by
  rw [kill.eq_def]
  generalize machine.addressees sender pid = members
  cases members with
  | nil => exact .nothing
  | cons first rest =>
      dsimp only
      generalize first :: rest = members
      induction members generalizing machine with
      | nil => exact .nothing
      | cons member rest ih => exact (comes_deliver_interrupt machine member).trans (ih _)

theorem signals_writeTo (machine : Machine) (member : Member) (target : Descriptor)
    (bytes : Bytes) {answer : Except Errno Nat} {next : Machine}
    (hwrite : machine.writeTo member target bytes = some (answer, next)) :
    next.signals = machine.signals := by
  rw [writeTo] at hwrite
  split at hwrite
  · cases hwrite
    rfl
  · split at hwrite
    · cases hwrite
      rfl
    · split at hwrite
      · split at hwrite <;> cases hwrite <;> rfl
      · cases hwrite
        rfl
      · dsimp only at hwrite
        split at hwrite
        · cases hwrite
          rfl
        · split at hwrite <;> cases hwrite
          rfl

theorem signals_print (machine : Machine) (target : Descriptor) (bytes : Bytes) :
    (machine.print target bytes).2.signals = machine.signals := by
  rw [print]
  split
  case h_4 => rfl
  all_goals exact machine.signals_writeTo _ _ _ ‹_›

theorem kernel_keepsAlarm (account : Account) :
    (kernel account).KeepsAlarm signals where
  readWakeups machine := ⟨machine.signals, .nothing, rfl, rfl⟩
  takeAlarm machine := ⟨machine.signals, .nothing, rfl, rfl⟩
  takeQuits machine := ⟨machine.signals, .nothing, rfl, rfl⟩
  takeInterrupt machine := ⟨machine.signals, .nothing, rfl, rfl⟩
  print bytes machine := by
    have hprinted := machine.signals_print Action.output bytes
    exact hprinted ▸ .nothing
  interruptGroup group machine := machine.comes_kill_interrupt _ _
  setAlarm seconds machine _ := ⟨machine.signals, .nothing, rfl⟩
  cancelAlarm machine := ⟨machine.signals, .nothing, rfl⟩

end Machine

/-! ## Serving -/

namespace Collector

theorem count_quit_deliveries (alarmed interrupted : Bool) (quits : Nat) :
    (deliveries alarmed quits interrupted).count .quit = quits := by
  cases alarmed <;> cases interrupted <;> simp [deliveries, List.count_append]

theorem count_timerExpired_deliveries (alarmed interrupted : Bool) (quits : Nat) :
    (deliveries alarmed quits interrupted).count .timerExpired = alarmed.toNat := by
  cases alarmed <;> cases interrupted <;>
    simp [deliveries, List.count_append, List.count_replicate]

end Collector

namespace Session

variable {kernel : Kernel σ} {signals : σ → Signals}

theorem times_drain (hkernel : kernel.KeepsAlarm signals) {quit : Quit.State} (limit : Nat)
    (state : σ) (htimes : quit.Times (signals state) []) :
    quit.Times (signals (kernel.drain limit state)) [] := by
  induction limit generalizing state with
  | zero => exact htimes
  | succ limit ih =>
      obtain ⟨met, hcomes, -, hread⟩ := hkernel.readWakeups state
      have hmet := htimes.comes hcomes
      have htimes : quit.Times (signals (kernel.readWakeups state).2) [] := by
        rw [hread]
        exact ⟨hmet.timer, hmet.presses⟩
      dsimp only [Collector.drain]
      split
      · exact htimes
      · exact ih _ htimes

/-- Collecting moves a timer that has expired among the deliveries. -/
theorem times_takePending (hkernel : kernel.KeepsAlarm signals) {quit : Quit.State}
    (limit : Nat) {state next : σ} {deliveries : List Quit.Delivery}
    (htimes : quit.Times (signals state) [])
    (hpending : kernel.takePending limit state = (deliveries, next)) :
    quit.Times (signals next) deliveries := by
  have hdrained := times_drain hkernel limit state htimes
  obtain ⟨alarmed, afterAlarm, quits, afterQuits, interrupted, halarm, hquit, hinterrupt, rfl⟩ :=
    kernel.takePending_steps hpending
  have htimes : quit.Times (signals afterAlarm)
      (Collector.deliveries alarmed quits interrupted) := by
    obtain ⟨met, hcomes, hanswer, htaken⟩ := hkernel.takeAlarm (kernel.drain limit state)
    rw [halarm] at hanswer htaken
    dsimp only at hanswer htaken
    have hmet := hdrained.comes hcomes
    refine ⟨?_, hmet.presses⟩
    rw [Collector.count_timerExpired_deliveries, hanswer, htaken]
    exact hmet.timer
  obtain ⟨met, hcomes, -, htaken⟩ := hkernel.takeQuits afterAlarm
  obtain ⟨last, hlater, -, hfinal⟩ := hkernel.takeInterrupt afterQuits
  rw [hquit] at htaken
  rw [hinterrupt] at hfinal
  have hmet := htimes.comes hcomes
  have hquits : quit.Times (signals afterQuits)
      (Collector.deliveries alarmed quits interrupted) := by
    rw [htaken]
    exact ⟨hmet.timer, hmet.presses⟩
  have hlast := hquits.comes hlater
  rw [hfinal]
  exact ⟨hlast.timer, hlast.presses⟩

/-- One delivery either confirms a quit and leaves no alarm, or the timer is still where
it should be. -/
theorem times_handle (hkernel : kernel.KeepsAlarm signals) (timeout : Duration)
    {quit : Quit.State} {delivery : Quit.Delivery} {rest : List Quit.Delivery} {state : σ}
    (htimes : quit.Times (signals state) (delivery :: rest)) :
    let response := Quit.handle timeout delivery quit
    let performed := performEffects kernel response.effects state
    response.exitCode = some 0 ∧ (signals performed).pending = false ∨
      response.exitCode = none ∧ response.state.Times (signals performed) rest := by
  have htimer := htimes.timer
  have hone := Bool.toNat_le quit.armed
  cases delivery with
  | quit =>
      cases harmed : quit.armed with
      | true =>
          obtain ⟨met, -, hcancelled⟩ := hkernel.cancelAlarm state
          rw [htimes.handle_of_armed harmed]
          exact .inl ⟨rfl, congrArg Signals.pending hcancelled⟩
      | false =>
          have hannounced := hkernel.print (Text.encode (Quit.announcement timeout)) state
          obtain ⟨met, hcomes, hset⟩ := hkernel.setAlarm (Quit.alarmSeconds timeout)
            (kernel.say (Quit.announcement timeout) state).2 (Quit.alarmSeconds_pos timeout)
          have hmet := ((htimes.comes hannounced).comes hcomes).timer
          rw [harmed, List.count_cons_of_ne (by decide), Bool.toNat_false] at hmet
          rw [Quit.handle_of_idle timeout harmed]
          refine .inr ⟨rfl, ?_, rfl⟩
          simp only [performEffects, List.foldl_cons, List.foldl_nil, performEffect, hset,
            Bool.toNat_true]
          omega
  | timerExpired =>
      rw [List.count_cons_self] at htimer
      refine .inr ⟨rfl, ?_, rfl⟩
      simp only [Quit.handle, Quit.State.expire, performEffects, List.foldl_nil,
        Bool.toNat_false]
      omega
  | interrupt =>
      refine .inr ⟨rfl, ?_, htimes.presses⟩
      simpa [Quit.handle, performEffects] using htimer

/-- What serving signals leaves behind. -/
structure Leaves (signals : σ → Signals) (result : Serviced × Session × σ) : Prop where
  confirmed : ∀ code, result.1 = .exit code → (signals result.2.2).pending = false
  goesOn : (∀ code, result.1 ≠ .exit code) →
    result.2.1.quit.Times (signals result.2.2) []

theorem leaves_serveAll (hkernel : kernel.KeepsAlarm signals)
    (deliveries : List Quit.Delivery) (serviced : Serviced) (session : Session) (state : σ)
    (htimes : session.quit.Times (signals state) deliveries)
    (hserviced : ∀ code, serviced ≠ .exit code) :
    Leaves signals (serveAll kernel deliveries serviced session state) := by
  fun_induction serveAll kernel deliveries serviced session state with
  | case1 serviced session state =>
      exact ⟨fun code hexit => absurd hexit (hserviced code), fun _ => htimes⟩
  | case2 rest serviced session state group hforeground ih =>
      have hforwarded := htimes.comes (hkernel.interruptGroup group state)
      refine ih ⟨?_, hforwarded.presses⟩ hserviced
      simpa using hforwarded.timer
  | case3 rest serviced session state hforeground ih =>
      refine ih ⟨?_, htimes.presses⟩ (fun code hexit => by cases hexit)
      simpa using htimes.timer
  | case4 delivery rest serviced session state _ response performed served code hexit =>
      obtain ⟨-, hcancelled⟩ | ⟨hopen, -⟩ :=
        times_handle hkernel session.settings.quitTimeout htimes
      · exact ⟨fun _ _ => hcancelled, fun hgoes => absurd rfl (hgoes code)⟩
      · cases hexit.symm.trans hopen
  | case5 delivery rest serviced session state _ response performed served hopen shown ih =>
      have hshown : ∀ code, shown ≠ .exit code := shown_ne_exit _ hserviced
      obtain ⟨hexit, -⟩ | ⟨-, htimer⟩ :=
        times_handle hkernel session.settings.quitTimeout htimes
      · cases hopen.symm.trans hexit
      · exact ih htimer hshown

theorem leaves_serviceSignals (hkernel : kernel.KeepsAlarm signals) {session : Session}
    {state : σ} (htimes : session.quit.Times (signals state) []) :
    Leaves signals (session.serviceSignals kernel state) := by
  rw [serviceSignals]
  generalize hpending : kernel.takePending kernel.patience state = pending
  obtain ⟨deliveries, taken⟩ := pending
  have hcollected := times_takePending hkernel kernel.patience htimes hpending
  exact leaves_serveAll hkernel deliveries .quiet session taken hcollected nofun

/-! ## Whole sessions -/

/-- The states of a session between its rounds of serving signals, from one that has
just begun to the last before a quit is confirmed. -/
inductive Ongoing (kernel : Kernel σ) (signals : σ → Signals) : Session → σ → Prop where
  | begins {session : Session} {state : σ} (hquit : session.quit = {})
      (hpending : (signals state).pending = false)
      (halarmed : (signals state).recorder.alarmed = false) :
      Ongoing kernel signals session state
  | goesOn {session next : Session} {state final : σ}
      (hongoing : Ongoing kernel signals session state) (hquit : next.quit = session.quit)
      (hcomes : (signals state).Comes (signals final)) :
      Ongoing kernel signals next final
  | serves {session next : Session} {state final : σ} {served : Serviced}
      (hongoing : Ongoing kernel signals session state)
      (hserve : session.serviceSignals kernel state = (served, next, final))
      (hopen : ∀ code, served ≠ .exit code) :
      Ongoing kernel signals next final

theorem times_ongoing (hkernel : kernel.KeepsAlarm signals) {session : Session} {state : σ}
    (hongoing : Ongoing kernel signals session state) :
    session.quit.Times (signals state) [] := by
  induction hongoing with
  | begins hquit hpending halarmed =>
      rw [hquit]
      exact ⟨by simp [hpending, halarmed], rfl⟩
  | goesOn _ hquit hcomes ih =>
      rw [hquit]
      exact ih.comes hcomes
  | serves _ hserve hopen ih =>
      have hleaves := leaves_serviceSignals hkernel ih
      rw [hserve] at hleaves
      exact hleaves.goesOn hopen

/-- Whatever the timeout and whenever signals come, a session is armed exactly if its
alarm is pending or has gone off without being collected, one of the two, and idle
exactly if neither is so.  A confirmed quit leaves no alarm pending. -/
theorem armed_iff_timer (hkernel : kernel.KeepsAlarm signals) {session : Session} {state : σ}
    (hongoing : Ongoing kernel signals session state) :
    (session.quit.armed = true ↔
        Xor ((signals state).pending = true) ((signals state).recorder.alarmed = true)) ∧
      (session.quit.armed = false ↔
        (signals state).pending = false ∧ (signals state).recorder.alarmed = false) ∧
      ∀ code next final, session.serviceSignals kernel state = (.exit code, next, final) →
        (signals final).pending = false := by
  have htimes := times_ongoing hkernel hongoing
  have htimer := htimes.timer
  refine ⟨?_, ?_, ?_⟩
  · cases harmed : session.quit.armed <;> cases hpending : (signals state).pending <;>
      cases hexpired : (signals state).recorder.alarmed <;>
      simp [harmed, hpending, hexpired, Xor] at htimer ⊢
  · cases harmed : session.quit.armed <;> cases hpending : (signals state).pending <;>
      cases hexpired : (signals state).recorder.alarmed <;>
      simp [harmed, hpending, hexpired] at htimer ⊢
  · intro code next final hserve
    have hleaves := leaves_serviceSignals hkernel htimes
    rw [hserve] at hleaves
    exact hleaves.confirmed code rfl

/-- A machine with nothing but a shell on it. -/
def loneShell : Machine where
  files := .empty
  opened := #[]
  pipes := #[]
  members := []
  shell :=
    { identity := { pid := 2, parent := 1, group := 2 }
      descriptors := []
      directory := Machine.Files.rootInode
      mask := 0
      activity := .ready (.exit 0) }
  nextPid := 3
  clock := 0
  alarm := none
  recorder := {}
  account := { name := none, home := none, isSuperuser := false }
  programs _ := none

theorem armed_iff_timer_without_timeout :
    ∃ (session : Session) (machine : Machine),
      Ongoing (Machine.kernel loneShell.account) Machine.signals session machine ∧
      session.settings.quitTimeout = .ofSeconds 0 ∧ session.quit.armed = true ∧
      machine.recorder.alarmed = true ∧ machine.alarm = none ∧
      (session.quit.armed = true ↔
        Xor (machine.signals.pending = true) (machine.signals.recorder.alarmed = true)) := by
  let session : Session := { settings := { quitTimeout := .ofSeconds 0 } }
  let pressed := loneShell.noteSignal .quit
  let served := session.serviceSignals (Machine.kernel loneShell.account) pressed
  have hserve : session.serviceSignals (Machine.kernel loneShell.account) pressed =
      (.redraw, served.2.1, served.2.2) :=
    Prod.ext (by decide +kernel) rfl
  have harmed : served.2.1.quit.armed = true := by decide +kernel
  have hpressed : Ongoing (Machine.kernel loneShell.account) Machine.signals session pressed :=
    (Ongoing.begins rfl rfl rfl).goesOn rfl (loneShell.comes_noteSignal nofun)
  have hserved := hpressed.serves hserve nofun
  have hexpired := hserved.goesOn rfl (served.2.2.comes_passTo Machine.nanosecondsPerSecond)
  refine ⟨_, _, hexpired, by decide +kernel, harmed, by decide +kernel, by decide +kernel, ?_⟩
  exact (armed_iff_timer (Machine.kernel_keepsAlarm _) hexpired).1

end Session

end JobShell
