import JobShell.Machine.System
import JobShell.Proofs.Quit.Window
import JobShell.Proofs.Session.Serving

/-!
# What signals come to all in all

Signals are counted as they are recorded, so the order in which they have come is lost by
the time they are served.  A tally is what is left of them: how many quits there were, and
whether there was an alarm or an interrupt.  What serving does can be told from the tally,
the state of the confirmation and the group in the foreground, and from nothing else.
-/

namespace JobShell

/-- What is known of recorded signals. -/
structure Tally where
  alarmed : Bool
  quits : Nat
  interrupted : Bool
  deriving DecidableEq, Repr

namespace Tally

def deliveries (tally : Tally) : List Quit.Delivery :=
  Collector.deliveries tally.alarmed tally.quits tally.interrupted

/-- The tally when more signals have been recorded, in whatever order. -/
def more (tally : Tally) (signals : List Signal) : Tally where
  alarmed := tally.alarmed || signals.contains .alarm
  quits := tally.quits + signals.count .quit
  interrupted := tally.interrupted || signals.contains .interrupt

theorem more_cons (tally : Tally) (signal : Signal) (rest : List Signal) :
    tally.more (signal :: rest) = (tally.more [signal]).more rest := by
  simp [more, List.count_cons, Bool.or_assoc, Nat.add_comm, Nat.add_left_comm]

theorem more_perm (tally : Tally) {arrived signals : List Signal} (hperm : arrived.Perm signals) :
    tally.more arrived = tally.more signals := by
  simp only [more, hperm.count_eq, List.contains_eq_mem, hperm.mem_iff]

/-- The signals confirm a quit: two of them do, and one does if it answers a request that
has not run out. -/
def Confirms (tally : Tally) (quit : Quit.State) : Prop :=
  2 ≤ tally.quits ∨ 1 ≤ tally.quits ∧ quit.armed = true ∧ tally.alarmed = false

end Tally

/-! ## Recording -/

def Recorder.tally (recorder : Recorder) : Tally where
  alarmed := recorder.alarmed
  quits := recorder.quits
  interrupted := recorder.interrupted

theorem Recorder.tally_record (recorder : Recorder) (signal : Signal) :
    (recorder.record signal).tally = recorder.tally.more [signal] := by
  simp only [tally, Tally.more, quits_record, alarmed_record, interrupted_record]
  cases signal <;> simp

theorem Recorder.tally_foldl_record (recorder : Recorder) (signals : List Signal) :
    (signals.foldl record recorder).tally = recorder.tally.more signals := by
  induction signals generalizing recorder with
  | nil => simp [Tally.more, tally]
  | cons signal rest ih => rw [List.foldl_cons, ih, tally_record, ← Tally.more_cons]

variable {σ : Type}

/-- While no handler runs, a collector does to a recorder what its operations do. -/
structure Collector.Reads (collector : Collector σ) (view : σ → Recorder) : Prop where
  readWakeups : ∀ state,
    (collector.readWakeups state).map id view = (view state).readWakeups
  takeAlarm : ∀ state, (collector.takeAlarm state).map id view = (view state).takeAlarm
  takeQuits : ∀ state, (collector.takeQuits state).map id view = (view state).takeQuits
  takeInterrupt : ∀ state,
    (collector.takeInterrupt state).map id view = (view state).takeInterrupt

namespace Collector.Reads

variable {collector : Collector σ} {view : σ → Recorder}

theorem tally_drain (hreads : collector.Reads view) (limit : Nat) (state : σ) :
    (view (collector.drain limit state)).tally = (view state).tally := by
  refine drain_related (fun before after => (view after).tally = (view before).tally)
    (fun _ => rfl) (fun hearlier hlater => hlater.trans hearlier) (fun state => ?_) limit state
  have hread : view (collector.readWakeups state).2 = (view state).readWakeups.2 :=
    congrArg Prod.snd (hreads.readWakeups state)
  rw [hread]
  rfl

/-- A collection reports the tally of what has been recorded. -/
theorem takePending (hreads : collector.Reads view) (limit : Nat) (state : σ) :
    (collector.takePending limit state).1 = (view state).tally.deliveries := by
  generalize hpending : collector.takePending limit state = pending
  obtain ⟨alarmed, afterAlarm, quits, afterQuits, interrupted, halarm, hquit, hinterrupt,
    hreturned⟩ := collector.takePending_steps hpending
  have hdrained := hreads.tally_drain limit state
  have hfirst := hreads.takeAlarm (collector.drain limit state)
  have hsecond := hreads.takeQuits afterAlarm
  have hthird := hreads.takeInterrupt afterQuits
  rw [halarm] at hfirst
  rw [hquit] at hsecond
  rw [hinterrupt] at hthird
  simp only [Prod.map_apply, id_eq, Recorder.takeAlarm, Recorder.takeQuits,
    Recorder.takeInterrupt, Prod.mk.injEq] at hfirst hsecond hthird
  rw [hreturned, hfirst.1, hsecond.1, hthird.1, hsecond.2, hfirst.2, ← hdrained]
  rfl

end Collector.Reads

/-! ## Serving -/

namespace Quit.State

theorem Sound.eq {quit : Quit.State} (hsound : quit.Sound) :
    quit = {} ∨ quit = { armed := true, presses := 1 } := by
  obtain ⟨armed, presses⟩ := quit
  cases armed with
  | false =>
      obtain rfl : presses = 0 := hsound.idle.mp rfl
      exact .inl rfl
  | true =>
      obtain rfl : presses = 1 := hsound.armed.mp rfl
      exact .inr rfl

theorem sound_idle : ({} : Quit.State).Sound := by
  constructor <;> simp

theorem sound_armed : ({ armed := true, presses := 1 } : Quit.State).Sound := by
  constructor <;> simp

/-- What is left of a request for confirmation when the alarm has been served. -/
def unexpired (quit : Quit.State) (alarmed : Bool) : Quit.State :=
  if alarmed then {} else quit

theorem armed_unexpired (quit : Quit.State) (alarmed : Bool) :
    (quit.unexpired alarmed).armed = true ↔ quit.armed = true ∧ alarmed = false := by
  cases alarmed <;> simp [unexpired]

theorem Sound.unexpired {quit : Quit.State} (hsound : quit.Sound) (alarmed : Bool) :
    (quit.unexpired alarmed).Sound := by
  cases alarmed with
  | false => exact hsound
  | true => exact sound_idle

end Quit.State

namespace Session

/-- Asks for a confirmation and starts the timer. -/
def ask (kernel : Kernel σ) (timeout : Duration) (state : σ) : σ :=
  kernel.setAlarm (Quit.alarmSeconds timeout) (kernel.say (Quit.announcement timeout) state).2

/-- Passes an interrupt on to the group in the foreground. -/
def forward (kernel : Kernel σ) (interrupted : Bool) (foreground : Option Pid) (state : σ) : σ :=
  match foreground with
  | some group => if interrupted then kernel.interruptGroup group state else state
  | none => state

section Serving

variable (kernel : Kernel σ) (rest : List Quit.Delivery) (serviced : Serviced) (session : Session)
  (state : σ)

theorem serveAll_expired (alarmed : Bool) :
    session.serveAll kernel ((if alarmed then [.timerExpired] else []) ++ rest) serviced state =
      { session with quit := session.quit.unexpired alarmed }.serveAll kernel rest serviced
        state := by
  cases alarmed with
  | false => rfl
  | true =>
      simp [serveAll, Quit.handle, Quit.State.expire, Quit.State.unexpired, performEffects]

theorem serveAll_quit_of_idle (hidle : session.quit.armed = false) :
    session.serveAll kernel (.quit :: rest) serviced state =
      { session with quit := { armed := true, presses := 1 } }.serveAll kernel rest .redraw
        (ask kernel session.settings.quitTimeout state) := by
  simp [serveAll, Quit.handle_of_idle _ hidle, hidle, performEffects, performEffect, ask]

theorem serveAll_quit_of_armed (hquit : session.quit = { armed := true, presses := 1 }) :
    session.serveAll kernel (.quit :: rest) serviced state =
      (.exit 0, { session with quit := { armed := true, presses := 2 } },
        kernel.cancelAlarm state) := by
  simp [serveAll, Quit.handle, Quit.State.press, hquit, performEffects, performEffect]

theorem serveAll_interrupted (interrupted : Bool) :
    session.serveAll kernel (if interrupted then [.interrupt] else []) serviced state =
      (if interrupted = true ∧ session.foreground = none then .redraw else serviced, session,
        forward kernel interrupted session.foreground state) := by
  cases interrupted with
  | false => cases hforeground : session.foreground <;> simp [serveAll, forward]
  | true => cases hforeground : session.foreground <;> simp [serveAll, forward, hforeground]

end Serving

/-- What serving a tally comes to, when it has been collected. -/
structure ComesTo (kernel : Kernel σ) (session : Session) (tally : Tally) (collected : σ)
    (result : Serviced × Session × σ) : Prop where
  exits : ∀ code, result.1 = .exit code ↔ code = 0 ∧ tally.Confirms session.quit
  frame : result.2.1 = { session with quit := result.2.1.quit }
  armed : ¬ tally.Confirms session.quit →
    (result.2.1.quit.armed = true ↔
      tally.quits = 1 ∨ session.quit.armed = true ∧ tally.alarmed = false)
  sound : ¬ tally.Confirms session.quit → result.2.1.quit.Sound
  /-- The confirmation is asked for once or not at all, and an interrupt is passed on once
  or not at all. -/
  effects : ¬ tally.Confirms session.quit →
    result.2.2 = forward kernel tally.interrupted session.foreground
      (if tally.quits = 1 then ask kernel session.settings.quitTimeout collected else collected)
  redraws : ¬ tally.Confirms session.quit →
    (result.1 = .redraw ↔
      tally.quits = 1 ∨ tally.interrupted = true ∧ session.foreground = none)
  quiet : ¬ tally.Confirms session.quit → result.1 ≠ .redraw → result.1 = .quiet
  /-- Two quits confirm themselves: the first is asked about as any other. -/
  cancels : tally.Confirms session.quit →
    result.2.2 = kernel.cancelAlarm
      (if session.quit.armed = true ∧ tally.alarmed = false then collected
        else ask kernel session.settings.quitTimeout collected)

namespace ComesTo

variable {kernel : Kernel σ} {session : Session} {tally : Tally} {collected final : σ}
  {quit : Quit.State}

theorem of_confirms (hconfirms : tally.Confirms session.quit)
    (hfinal : final = kernel.cancelAlarm
      (if session.quit.armed = true ∧ tally.alarmed = false then collected
        else ask kernel session.settings.quitTimeout collected)) :
    ComesTo kernel session tally collected (.exit 0, { session with quit }, final) where
  exits code := by simp [hconfirms, eq_comm]
  frame := rfl
  armed hopen := absurd hconfirms hopen
  sound hopen := absurd hconfirms hopen
  effects hopen := absurd hconfirms hopen
  redraws hopen := absurd hconfirms hopen
  quiet hopen := absurd hconfirms hopen
  cancels _ := hfinal

theorem of_open (hopen : ¬ tally.Confirms session.quit) (hquit : quit.Sound)
    (harmed : quit.armed = true ↔
      tally.quits = 1 ∨ session.quit.armed = true ∧ tally.alarmed = false)
    (hfinal : final = forward kernel tally.interrupted session.foreground
      (if tally.quits = 1 then ask kernel session.settings.quitTimeout collected
        else collected)) :
    ComesTo kernel session tally collected
      (if tally.quits = 1 ∨ tally.interrupted = true ∧ session.foreground = none then .redraw
        else .quiet, { session with quit }, final) where
  exits code := by
    have hgoes : ∀ condition : Prop, [Decidable condition] →
        (if condition then Serviced.redraw else .quiet) ≠ .exit code := by
      intro condition hdecidable
      split <;> exact nofun
    simp [hopen, hgoes]
  frame := rfl
  armed _ := harmed
  sound _ := hquit
  effects _ := hfinal
  redraws _ := by
    dsimp only
    split
    · next hshown => exact iff_of_true rfl hshown
    · next hquiet => exact iff_of_false nofun hquiet
  quiet _ hquiet := by
    dsimp only at hquiet ⊢
    split
    · next hshown => exact absurd (if_pos hshown) hquiet
    · rfl
  cancels hconfirms := absurd hconfirms hopen

end ComesTo

theorem serves_tally (kernel : Kernel σ) {session : Session} (hquit : session.quit.Sound)
    (tally : Tally) (collected : σ) :
    ComesTo kernel session tally collected
      (session.serveAll kernel tally.deliveries .quiet collected) := by
  obtain ⟨alarmed, quits, interrupted⟩ := tally
  have harmed := session.quit.armed_unexpired alarmed
  have hleft := hquit.unexpired alarmed
  simp only [Tally.deliveries, Collector.deliveries, List.append_assoc, serveAll_expired]
  generalize session.quit.unexpired alarmed = left at harmed hleft ⊢
  cases quits with
  | zero =>
      have hopen : ¬ Tally.Confirms ⟨alarmed, 0, interrupted⟩ session.quit := by
        simp [Tally.Confirms]
      rw [List.replicate_zero, List.nil_append, serveAll_interrupted]
      simpa using ComesTo.of_open hopen hleft (by simpa using harmed) rfl
  | succ others =>
      rw [List.replicate_succ, List.cons_append]
      obtain rfl | rfl := hleft.eq
      · have hidle : ¬ (session.quit.armed = true ∧ alarmed = false) := by simp [← harmed]
        rw [serveAll_quit_of_idle _ _ _ _ _ rfl]
        cases others with
        | zero =>
            have hopen : ¬ Tally.Confirms ⟨alarmed, 1, interrupted⟩ session.quit := by
              simpa [Tally.Confirms] using hidle
            rw [List.replicate_zero, List.nil_append, serveAll_interrupted]
            simpa using ComesTo.of_open hopen Quit.State.sound_armed (by simp) rfl
        | succ others =>
            rw [List.replicate_succ, List.cons_append, serveAll_quit_of_armed _ _ _ _ _ rfl]
            exact ComesTo.of_confirms (.inl (Nat.le_add_left 2 others)) (by rw [if_neg hidle])
      · have hstanding : session.quit.armed = true ∧ alarmed = false := harmed.mp rfl
        rw [serveAll_quit_of_armed _ _ _ _ _ rfl]
        exact ComesTo.of_confirms (.inr ⟨Nat.le_add_left 1 others, hstanding⟩)
          (by rw [if_pos hstanding])

/-- What serving comes to is told by the tally of what has been collected.  While no
handler runs that is the tally of what has been recorded, in whatever order it has come. -/
theorem serviceSignals_comesTo (kernel : Kernel σ) (session : Session) (state : σ)
    (hquit : session.quit.Sound) :
    let collected := (kernel.takePending kernel.patience state).2
    (∃ tally : Tally, (kernel.takePending kernel.patience state).1 = tally.deliveries ∧
      ComesTo kernel session tally collected (session.serviceSignals kernel state)) ∧
    ∀ view : σ → Recorder, kernel.Reads view →
      ∀ (earlier : Recorder) (arrived signals : List Signal), arrived.Perm signals →
        view state = arrived.foldl Recorder.record earlier →
        ComesTo kernel session (earlier.tally.more signals) collected
          (session.serviceSignals kernel state) := by
  intro collected
  have hserves (tally : Tally)
      (htally : (kernel.takePending kernel.patience state).1 = tally.deliveries) :
      ComesTo kernel session tally collected (session.serviceSignals kernel state) := by
    dsimp only [serviceSignals]
    rw [htally]
    exact serves_tally kernel hquit tally collected
  refine ⟨⟨⟨_, _, _⟩, rfl, hserves _ rfl⟩, ?_⟩
  intro view hreads earlier arrived signals hperm hrecorded
  refine hserves _ ?_
  rw [hreads.takePending, hrecorded, Recorder.tally_foldl_record, Tally.more_perm _ hperm]

end Session

theorem Machine.kernel_reads (account : Account) :
    (Machine.kernel account).Reads Machine.recorder where
  readWakeups _ := rfl
  takeAlarm _ := rfl
  takeQuits _ := rfl
  takeInterrupt _ := rfl

namespace Session

/-- An alarm is served before a quit that has come before it. -/
theorem serviceSignals_comesTo_belated_alarm :
    let kernel := Machine.kernel loneShell.account
    let session : Session :=
      { quit := { armed := true, presses := 1 }, foreground := some 3 }
    let machine : Machine :=
      { loneShell with recorder := [.quit, .interrupt, .alarm].foldl Recorder.record {} }
    let collected := (kernel.takePending kernel.patience machine).2
    let result := session.serviceSignals kernel machine
    session.quit.Sound ∧
      ComesTo kernel session { alarmed := true, quits := 1, interrupted := true } collected
        result ∧
      result.1 = .redraw ∧ result.2.1.quit.armed = true ∧
      result.2.2 = kernel.interruptGroup 3 (ask kernel session.settings.quitTimeout collected) := by
  intro kernel session machine collected result
  have hperm : [Signal.quit, .interrupt, .alarm].Perm [.alarm, .quit, .interrupt] := by decide
  have hcomes := (serviceSignals_comesTo kernel session machine Quit.State.sound_armed).2
    Machine.recorder (Machine.kernel_reads _) {} _ _ hperm rfl
  have hopen : ¬ Tally.Confirms { alarmed := true, quits := 1, interrupted := true }
      session.quit := by
    simp [Tally.Confirms]
  exact ⟨Quit.State.sound_armed, hcomes, (hcomes.redraws hopen).mpr (.inl rfl),
    (hcomes.armed hopen).mpr (.inl rfl), hcomes.effects hopen⟩

end Session

end JobShell
