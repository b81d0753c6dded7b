import JobShell.Proofs.Quit.Window
import JobShell.Proofs.Session.Serving
import Mathlib.Data.List.Induction
import Mathlib.Data.List.Infix

/-!
# What a confirmation depends on

Handlers may run before every operation of a session, those of a collection included.
Which signals they have recorded, in which order, and when the notes have been taken,
makes up a past.  A recorder keeps less than that: it counts the presses and knows
whether the alarm has come, but not which came first.
-/

namespace JobShell

/-- What the window of a confirmation depends on. -/
inductive Moment where
  | recorded (signal : Signal)
  /-- The alarm is looked for, and its flag is taken. -/
  | alarmTaken
  | quitsTaken
  deriving DecidableEq, Repr

/-- Moments, earliest first. -/
abbrev Past := List Moment

namespace Past

def recorded (signals : List Signal) : Past :=
  signals.map .recorded

/-- Two quits have been recorded with no alarm between them. -/
def Paired (past : Past) : Prop :=
  ∃ before between after,
    past = before ++ .recorded .quit :: (between ++ .recorded .quit :: after) ∧
      .recorded .alarm ∉ between

/-- How many quits have been recorded since the last alarm. -/
def sinceAlarm (past : Past) : Nat :=
  past.foldl (fun count moment =>
    match moment with
    | .recorded .quit => count + 1
    | .recorded .alarm => 0
    | _ => count) 0

theorem sinceAlarm_quit (past : Past) :
    sinceAlarm (past ++ [.recorded .quit]) = sinceAlarm past + 1 := by
  simp [sinceAlarm]

theorem sinceAlarm_alarm (past : Past) : sinceAlarm (past ++ [.recorded .alarm]) = 0 := by
  simp [sinceAlarm]

theorem sinceAlarm_other (past : Past) {moment : Moment} (hquit : moment ≠ .recorded .quit)
    (halarm : moment ≠ .recorded .alarm) : sinceAlarm (past ++ [moment]) = sinceAlarm past := by
  simp only [sinceAlarm, List.foldl_append, List.foldl_cons, List.foldl_nil]

theorem sinceAlarm_marks (past : Past) {marks : Past}
    (hmarks : ∀ signal, .recorded signal ∉ marks) :
    sinceAlarm (past ++ marks) = sinceAlarm past := by
  induction marks using List.reverseRecOn with
  | nil => rw [List.append_nil]
  | append_singleton marks moment ih =>
      have hmoment (signal : Signal) : moment ≠ .recorded signal := by
        rintro rfl
        exact hmarks signal List.mem_concat_self
      rw [← List.append_assoc, sinceAlarm_other _ (hmoment _) (hmoment _)]
      exact ih fun signal => mt (List.mem_append_left _) (hmarks signal)

theorem Paired.append {past : Past} (hpaired : past.Paired) (later : Past) :
    Paired (past ++ later) := by
  obtain ⟨before, between, after, rfl, halarm⟩ := hpaired
  exact ⟨before, between, after ++ later, by simp, halarm⟩

theorem stands_of_sinceAlarm_pos {past : Past} (hpos : 0 < past.sinceAlarm) :
    Stands (.recorded .quit) (.recorded .alarm) past := by
  induction past using List.reverseRecOn with
  | nil => cases hpos
  | append_singleton past moment ih =>
      rw [stands_concat]
      by_cases hquit : moment = .recorded .quit
      · exact .inl hquit
      · by_cases halarm : moment = .recorded .alarm
        · rw [halarm, sinceAlarm_alarm] at hpos
          cases hpos
        · rw [sinceAlarm_other past hquit halarm] at hpos
          exact .inr ⟨halarm, ih hpos⟩

/-- Of two quits since the last alarm, the later one is paired with one before it. -/
theorem paired_of_one_lt_sinceAlarm {past : Past} (hmore : 1 < past.sinceAlarm) :
    past.Paired := by
  induction past using List.reverseRecOn with
  | nil => cases hmore
  | append_singleton past moment ih =>
      by_cases hquit : moment = .recorded .quit
      · subst hquit
        rw [sinceAlarm_quit] at hmore
        obtain ⟨before, between, rfl, halarm⟩ :=
          stands_of_sinceAlarm_pos (Nat.lt_of_succ_lt_succ hmore)
        exact ⟨before, between, [], by simp, halarm⟩
      · by_cases halarm : moment = .recorded .alarm
        · rw [halarm, sinceAlarm_alarm] at hmore
          cases hmore
        · rw [sinceAlarm_other past hquit halarm] at hmore
          exact (ih hmore).append [moment]

theorem sinceAlarm_append_pos {past : Past} (hpos : 0 < past.sinceAlarm) {later : Past}
    (halarm : .recorded .alarm ∉ later) : 0 < sinceAlarm (past ++ later) := by
  induction later using List.reverseRecOn with
  | nil => rwa [List.append_nil]
  | append_singleton later moment ih =>
      rw [← List.append_assoc]
      have hearlier := ih (mt (List.mem_append_left _) halarm)
      by_cases hquit : moment = .recorded .quit
      · rw [hquit, sinceAlarm_quit]
        exact Nat.succ_pos _
      · rwa [sinceAlarm_other _ hquit]
        rintro rfl
        exact halarm List.mem_concat_self

theorem paired_iff (past : Past) :
    past.Paired ↔ ∃ earlier ∈ past.inits, 1 < sinceAlarm earlier := by
  constructor
  · rintro ⟨before, between, after, rfl, halarm⟩
    refine ⟨before ++ [.recorded .quit] ++ between ++ [.recorded .quit], ?_, ?_⟩
    · exact (List.mem_inits _ _).mpr ⟨after, by simp⟩
    · rw [sinceAlarm_quit]
      refine Nat.succ_lt_succ (sinceAlarm_append_pos ?_ halarm)
      rw [sinceAlarm_quit]
      exact Nat.succ_pos _
  · rintro ⟨earlier, hearlier, hmore⟩
    obtain ⟨later, rfl⟩ := (List.mem_inits _ _).mp hearlier
    exact (paired_of_one_lt_sinceAlarm hmore).append later

instance (past : Past) : Decidable past.Paired :=
  decidable_of_iff _ past.paired_iff.symm

/-- An alarm has come and a quit behind it. -/
def Overtaken (signals : List Signal) : Prop :=
  ∃ earlier later, signals = earlier ++ .alarm :: later ∧ .quit ∈ later

/-- A quit since the last alarm comes behind every alarm among the last signals. -/
theorem overtaken_of_sinceAlarm_pos (before : Past) {signals : List Signal}
    (hpos : 0 < sinceAlarm (before ++ recorded signals)) (halarm : .alarm ∈ signals) :
    Overtaken signals := by
  induction signals using List.reverseRecOn with
  | nil => cases halarm
  | append_singleton signals last ih =>
      rw [recorded, List.map_append, List.map_singleton, ← List.append_assoc] at hpos
      by_cases hlast : last = .alarm
      · rw [hlast, sinceAlarm_alarm] at hpos
        cases hpos
      · have hearlier : .alarm ∈ signals := by
          simpa [Ne.symm hlast] using halarm
        by_cases hquit : last = .quit
        · obtain ⟨earlier, later, rfl⟩ := List.append_of_mem hearlier
          exact ⟨earlier, later ++ [last], by simp, by simp [hquit]⟩
        · rw [sinceAlarm_other _ (by simpa using hquit) (by simpa using hlast)] at hpos
          obtain ⟨earlier, later, rfl, hlater⟩ := ih hpos hearlier
          exact ⟨earlier, later ++ [last], by simp, by simp [hlater]⟩

end Past

/-- The signals in a system, and its past. -/
structure Vigil where
  signals : Signals
  past : Past := []

namespace Vigil

/-- Signals come in and are recorded.  An alarm is only the one that has been pending. -/
inductive Comes (before : Vigil) : Vigil → Prop where
  | nothing : Comes before before
  | signal {after : Vigil} {signal : Signal} (hcomes : Comes before after)
      (hsignal : signal ≠ .alarm) :
      Comes before
        { signals := { after.signals with recorder := after.signals.recorder.record signal }
          past := after.past ++ [.recorded signal] }
  | alarm {after : Vigil} (hcomes : Comes before after)
      (hpending : after.signals.pending = true) :
      Comes before
        { signals := { recorder := after.signals.recorder.record .alarm, pending := false }
          past := after.past ++ [.recorded .alarm] }

/-- Nothing has been added to the past but signals. -/
def Records (before after : Vigil) (signals : List Signal) : Prop :=
  after.past = before.past ++ Past.recorded signals

theorem Records.refl (vigil : Vigil) : vigil.Records vigil [] :=
  (List.append_nil _).symm

theorem Records.trans {before between after : Vigil} {earlier later : List Signal}
    (hearlier : before.Records between earlier) (hlater : between.Records after later) :
    before.Records after (earlier ++ later) := by
  rw [Records, hlater, hearlier, Past.recorded, Past.recorded, Past.recorded,
    List.map_append, List.append_assoc]

theorem Records.concat {before after final : Vigil} {signals : List Signal} {signal : Signal}
    (hrecords : before.Records after signals)
    (hpast : final.past = after.past ++ [.recorded signal]) :
    before.Records final (signals ++ [signal]) :=
  hrecords.trans hpast

/-- Of the quits since the last alarm, as many as are counted or to be served are still
to be heeded, and one more if an alarm has been set for it. -/
def Balanced (vigil : Vigil) (unserved : List Quit.Delivery) : Prop :=
  ¬ vigil.past.Paired →
    vigil.signals.recorder.quits + unserved.count .quit + vigil.signals.pending.toNat =
      vigil.past.sinceAlarm

/-- The notes that are taken are to be served, or the alarm has been set for one. -/
theorem Balanced.marked {vigil : Vigil} {unserved remaining : List Quit.Delivery}
    (hbalanced : vigil.Balanced unserved) {signals : Signals} {marks : Past}
    (hmarks : ∀ signal, .recorded signal ∉ marks)
    (hcount : signals.recorder.quits + remaining.count .quit + signals.pending.toNat =
      vigil.signals.recorder.quits + unserved.count .quit + vigil.signals.pending.toNat) :
    Balanced { signals, past := vigil.past ++ marks } remaining := by
  intro hunpaired
  rw [Past.sinceAlarm_marks _ hmarks]
  exact hcount.trans (hbalanced (mt (Past.Paired.append · marks) hunpaired))

theorem Balanced.recount {vigil : Vigil} {unserved remaining : List Quit.Delivery}
    (hbalanced : vigil.Balanced unserved) (hcount : unserved.count .quit = remaining.count .quit) :
    vigil.Balanced remaining := by
  rwa [Balanced, ← hcount]

theorem Balanced.le_one {vigil : Vigil} {unserved : List Quit.Delivery}
    (hbalanced : vigil.Balanced unserved) (hunpaired : ¬ vigil.past.Paired) :
    vigil.signals.recorder.quits + unserved.count .quit + vigil.signals.pending.toNat ≤ 1 := by
  rw [hbalanced hunpaired]
  exact Nat.le_of_not_lt (mt Past.paired_of_one_lt_sinceAlarm hunpaired)

namespace Comes

variable {before after : Vigil}

theorem signals (hcomes : before.Comes after) : before.signals.Comes after.signals := by
  induction hcomes with
  | nothing => exact .nothing
  | signal _ hsignal ih => exact ih.signal hsignal
  | alarm _ hpending ih => exact ih.alarm hpending

/-- The alarm's flag is up only if it was before or an alarm has come. -/
theorem records (hcomes : before.Comes after) :
    ∃ signals, before.Records after signals ∧
      (after.signals.recorder.alarmed = true →
        before.signals.recorder.alarmed = true ∨ .alarm ∈ signals) := by
  induction hcomes with
  | nothing => exact ⟨[], .refl before, .inl⟩
  | @signal _ signal _ hsignal ih =>
      obtain ⟨signals, hrecords, halarm⟩ := ih
      refine ⟨signals ++ [signal], hrecords.concat rfl, ?_⟩
      rw [Recorder.alarmed_record, beq_false_of_ne hsignal, Bool.false_or]
      intro halarmed
      exact (halarm halarmed).imp_right (List.mem_append_left [signal])
  | alarm _ _ ih =>
      obtain ⟨signals, hrecords, -⟩ := ih
      exact ⟨signals ++ [.alarm], hrecords.concat rfl, fun _ => .inr List.mem_concat_self⟩

theorem balanced (hcomes : before.Comes after) {unserved : List Quit.Delivery}
    (hbalanced : before.Balanced unserved) : after.Balanced unserved := by
  induction hcomes with
  | nothing => exact hbalanced
  | @signal after signal _ hsignal ih =>
      intro hunpaired
      have hearlier := ih (mt (Past.Paired.append · _) hunpaired)
      dsimp only
      rw [Recorder.quits_record]
      by_cases hquit : signal = .quit
      · rw [hquit, Past.sinceAlarm_quit, if_pos rfl]
        omega
      · rw [Past.sinceAlarm_other _ (by simpa using hquit) (by simpa using hsignal),
          if_neg hquit]
        exact hearlier
  | @alarm after _ hpending ih =>
      intro hunpaired
      have hone := ih.le_one (mt (Past.Paired.append · _) hunpaired)
      rw [hpending, Bool.toNat_true] at hone
      dsimp only
      rw [Recorder.quits_record, Past.sinceAlarm_alarm, if_neg (by decide), Bool.toNat_false]
      omega

end Comes

end Vigil

variable {σ : Type}

/-- An operation does one step of the recorder, when signals may have come in, and leaves
its mark in the past. -/
def Recorder.Marks {α : Type} (view : σ → Vigil) (operation : σ → α × σ)
    (step : Recorder → α × Recorder) (marks : Past) : Prop :=
  ∀ state, ∃ met, (view state).Comes met ∧
    (operation state).1 = (step met.signals.recorder).1 ∧
    view (operation state).2 =
      { signals := { met.signals with recorder := (step met.signals.recorder).2 }
        past := met.past ++ marks }

/-- A kernel has one alarm and a past: signals may be recorded before any operation, an
alarm only while one is pending. -/
structure Kernel.KeepsVigil (kernel : Kernel σ) (view : σ → Vigil) : Prop where
  readWakeups : Recorder.Marks view kernel.readWakeups Recorder.readWakeups []
  takeAlarm : Recorder.Marks view kernel.takeAlarm Recorder.takeAlarm [.alarmTaken]
  takeQuits : Recorder.Marks view kernel.takeQuits Recorder.takeQuits [.quitsTaken]
  takeInterrupt : Recorder.Marks view kernel.takeInterrupt Recorder.takeInterrupt []
  print : ∀ bytes state, (view state).Comes (view (kernel.print bytes state).2)
  interruptGroup : ∀ group state, (view state).Comes (view (kernel.interruptGroup group state))
  setAlarm : ∀ seconds state, 0 < seconds → ∃ met, (view state).Comes met ∧
    view (kernel.setAlarm seconds state) =
      { met with signals := { met.signals with pending := true } }
  cancelAlarm : ∀ state, ∃ met, (view state).Comes met ∧
    view (kernel.cancelAlarm state) =
      { met with signals := { met.signals with pending := false } }

theorem Recorder.Marks.serves {α : Type} {view : σ → Vigil} {operation : σ → α × σ}
    {step : Recorder → α × Recorder} {marks : Past}
    (hmarks : Recorder.Marks view operation step marks) :
    Recorder.Serves (fun state => (view state).signals) operation step := by
  intro state
  obtain ⟨met, hcomes, hanswer, hnext⟩ := hmarks state
  exact ⟨met.signals, hcomes.signals, hanswer, congrArg Vigil.signals hnext⟩

theorem Kernel.KeepsVigil.keepsAlarm {kernel : Kernel σ} {view : σ → Vigil}
    (hkernel : kernel.KeepsVigil view) :
    kernel.KeepsAlarm fun state => (view state).signals where
  readWakeups := hkernel.readWakeups.serves
  takeAlarm := hkernel.takeAlarm.serves
  takeQuits := hkernel.takeQuits.serves
  takeInterrupt := hkernel.takeInterrupt.serves
  print bytes state := (hkernel.print bytes state).signals
  interruptGroup group state := (hkernel.interruptGroup group state).signals
  setAlarm seconds state hseconds := by
    obtain ⟨met, hcomes, hset⟩ := hkernel.setAlarm seconds state hseconds
    exact ⟨met.signals, hcomes.signals, congrArg Vigil.signals hset⟩
  cancelAlarm state := by
    obtain ⟨met, hcomes, hcancelled⟩ := hkernel.cancelAlarm state
    exact ⟨met.signals, hcomes.signals, congrArg Vigil.signals hcancelled⟩

/-! ## Rehearsals -/

namespace Vigil

/-- Records a signal.  An alarm that is not pending does not come. -/
def receive (vigil : Vigil) (signal : Signal) : Vigil :=
  if signal ≠ .alarm then
    { signals := { vigil.signals with recorder := vigil.signals.recorder.record signal }
      past := vigil.past ++ [.recorded signal] }
  else if vigil.signals.pending then
    { signals := { recorder := vigil.signals.recorder.record .alarm, pending := false }
      past := vigil.past ++ [.recorded .alarm] }
  else vigil

theorem Comes.receive {before after : Vigil} (hcomes : before.Comes after) (signal : Signal) :
    before.Comes (after.receive signal) := by
  rw [Vigil.receive]
  split
  · next hsignal => exact hcomes.signal hsignal
  · split
    · next hpending => exact hcomes.alarm hpending
    · exact hcomes

theorem comes_receiveAll (vigil : Vigil) (signals : List Signal) :
    vigil.Comes (signals.foldl receive vigil) := by
  induction signals using List.reverseRecOn with
  | nil => exact .nothing
  | append_singleton signals signal ih =>
      rw [List.foldl_append]
      exact ih.receive signal

end Vigil

/-- A system in which it is settled beforehand when signals come. -/
structure Rehearsal where
  vigil : Vigil := { signals := { recorder := {}, pending := false } }
  /-- The signals before each of the operations to come, next first. -/
  arrivals : List (List Signal)

namespace Rehearsal

def arrive (rehearsal : Rehearsal) : Rehearsal where
  vigil := (rehearsal.arrivals.headD []).foldl Vigil.receive rehearsal.vigil
  arrivals := rehearsal.arrivals.tail

def perform {α : Type} (step : Recorder → α × Recorder) (marks : Past)
    (rehearsal : Rehearsal) : α × Rehearsal :=
  let met := rehearsal.arrive
  let (answer, recorder) := step met.vigil.signals.recorder
  let signals := { met.vigil.signals with recorder }
  (answer, { met with vigil := { signals, past := met.vigil.past ++ marks } })

def setPending (pending : Bool) (rehearsal : Rehearsal) : Rehearsal :=
  let met := rehearsal.arrive
  { met with vigil.signals.pending := pending }

def kernel : Kernel Rehearsal where
  patience := 10
  account := { name := none, home := none, isSuperuser := false }
  enter _ rehearsal := (.ok (), rehearsal.arrive)
  directory _ := .error .noEntry
  print _ rehearsal := (.ok (), rehearsal.arrive)
  complain _ rehearsal := (.ok (), rehearsal.arrive)
  openTarget _ _ rehearsal := (.ok (), rehearsal.arrive)
  openScript _ rehearsal := (.error .noEntry, rehearsal.arrive)
  readScript _ rehearsal := (.ok [], rehearsal.arrive)
  closeScript _ rehearsal := rehearsal.arrive
  openPipe rehearsal := (.ok { readEnd := 3, writeEnd := 4 }, rehearsal.arrive)
  closePipes _ rehearsal := rehearsal.arrive
  blockSignals rehearsal := (.ok (), rehearsal.arrive)
  unblockSignals rehearsal := rehearsal.arrive
  spawn _ _ rehearsal := (.ok 1, rehearsal.arrive)
  terminateGroup _ rehearsal := rehearsal.arrive
  waitFor _ rehearsal := (.error .noChild, rehearsal.arrive)
  readWakeups := perform Recorder.readWakeups []
  takeAlarm := perform Recorder.takeAlarm [.alarmTaken]
  takeQuits := perform Recorder.takeQuits [.quitsTaken]
  takeInterrupt := perform Recorder.takeInterrupt []
  await rehearsal := (.ok false, rehearsal.arrive)
  read rehearsal := (.ok [], rehearsal.arrive)
  poll _ rehearsal := (.error .noChild, rehearsal.arrive)
  interruptGroup _ rehearsal := rehearsal.arrive
  sleep rehearsal := rehearsal.arrive
  setAlarm _ rehearsal := rehearsal.setPending true
  cancelAlarm rehearsal := rehearsal.setPending false

theorem comes_arrive (rehearsal : Rehearsal) : rehearsal.vigil.Comes rehearsal.arrive.vigil :=
  rehearsal.vigil.comes_receiveAll _

theorem marks_perform {α : Type} (step : Recorder → α × Recorder) (marks : Past) :
    Recorder.Marks vigil (perform step marks) step marks :=
  fun rehearsal => ⟨rehearsal.arrive.vigil, rehearsal.comes_arrive, rfl, rfl⟩

theorem kernel_keepsVigil : kernel.KeepsVigil vigil where
  readWakeups := marks_perform _ _
  takeAlarm := marks_perform _ _
  takeQuits := marks_perform _ _
  takeInterrupt := marks_perform _ _
  print _ rehearsal := rehearsal.comes_arrive
  interruptGroup _ rehearsal := rehearsal.comes_arrive
  setAlarm _ rehearsal _ := ⟨rehearsal.arrive.vigil, rehearsal.comes_arrive, rfl⟩
  cancelAlarm rehearsal := ⟨rehearsal.arrive.vigil, rehearsal.comes_arrive, rfl⟩

end Rehearsal

end JobShell
