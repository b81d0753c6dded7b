import JobShell.Recorder
import JobShell.Proofs.Quit.Confirmation
import Mathlib.Data.List.Basic

/-!
# Keeping the books of a recorder

A log says what has happened around a recorder: the signals that have been recorded,
the reads from its pipe, and what has been collected.  From the log alone it can be
told what the recorder holds.  Quits are counted, so that every one of them is
collected in the end; an alarm or an interrupt is held if one has come since the last
was collected.
-/

namespace JobShell

/-- The signal that is reported as the delivery. -/
def Quit.Delivery.signal : Quit.Delivery → Signal
  | .quit => .quit
  | .timerExpired => .alarm
  | .interrupt => .interrupt

/-- Something that happens around a recorder. -/
inductive Occurrence where
  | recorded (signal : Signal)
  /-- A read from the pipe. -/
  | read
  | collected (delivery : Quit.Delivery)
  deriving DecidableEq, Repr

/-- Occurrences, earliest first. -/
abbrev Log := List Occurrence

namespace Recorder

variable (recorder : Recorder) (signal : Signal)

/-- Something has been noted that is to be collected as the delivery. -/
def Holds : Quit.Delivery → Prop
  | .quit => 0 < recorder.quits
  | .timerExpired => recorder.alarmed = true
  | .interrupt => recorder.interrupted = true

/-! ## The handler -/

@[simp]
theorem quits_wake : recorder.wake.quits = recorder.quits := by
  rw [wake]
  split <;> rfl

@[simp]
theorem alarmed_wake : recorder.wake.alarmed = recorder.alarmed := by
  rw [wake]
  split <;> rfl

@[simp]
theorem interrupted_wake : recorder.wake.interrupted = recorder.interrupted := by
  rw [wake]
  split <;> rfl

@[simp]
theorem capacity_wake : recorder.wake.capacity = recorder.capacity := by
  rw [wake]
  split <;> rfl

/-- A byte that is dropped finds others in the pipe. -/
theorem wakeups_wake_pos (hcapacity : 0 < recorder.capacity) : 0 < recorder.wake.wakeups := by
  rw [wake]
  split
  · exact Nat.succ_pos _
  · next hfull => exact Nat.lt_of_lt_of_le hcapacity (Nat.le_of_not_lt hfull)

@[simp]
theorem capacity_note : (recorder.note signal).capacity = recorder.capacity := by
  cases signal <;> rfl

theorem quits_record :
    (recorder.record signal).quits = recorder.quits + if signal = .quit then 1 else 0 := by
  rw [record, quits_wake]
  cases signal <;> rfl

theorem alarmed_record :
    (recorder.record signal).alarmed = (signal == .alarm || recorder.alarmed) := by
  rw [record, alarmed_wake]
  cases signal <;> rfl

theorem interrupted_record :
    (recorder.record signal).interrupted = (signal == .interrupt || recorder.interrupted) := by
  rw [record, interrupted_wake]
  cases signal <;> rfl

@[simp]
theorem capacity_record : (recorder.record signal).capacity = recorder.capacity := by
  rw [record, capacity_wake, capacity_note]

theorem holds_record (delivery : Quit.Delivery) :
    (recorder.record signal).Holds delivery ↔
      signal = delivery.signal ∨ recorder.Holds delivery := by
  cases delivery with
  | quit =>
      rw [Holds, quits_record, Holds, Quit.Delivery.signal]
      split <;> simp [*]
  | timerExpired => simp [Holds, alarmed_record, Quit.Delivery.signal]
  | interrupt => simp [Holds, interrupted_record, Quit.Delivery.signal]

theorem wakeups_record_pos (hcapacity : 0 < recorder.capacity) :
    0 < (recorder.record signal).wakeups := by
  apply wakeups_wake_pos
  rwa [capacity_note]

variable (signals : List Signal)

theorem capacity_foldl_record :
    (signals.foldl record recorder).capacity = recorder.capacity := by
  induction signals generalizing recorder with
  | nil => rfl
  | cons signal rest ih => rw [List.foldl_cons, ih, capacity_record]

theorem holds_foldl_record {delivery : Quit.Delivery} (hholds : recorder.Holds delivery) :
    (signals.foldl record recorder).Holds delivery := by
  induction signals generalizing recorder with
  | nil => exact hholds
  | cons signal rest ih => exact ih _ ((holds_record _ _ _).mpr (.inr hholds))

/-- What one occurrence does to a recorder. -/
inductive Steps : Recorder → Occurrence → Recorder → Prop where
  | recorded (recorder : Recorder) (signal : Signal) :
      Steps recorder (.recorded signal) (recorder.record signal)
  | read (recorder : Recorder) : Steps recorder .read recorder.readWakeups.2
  | timerExpired {recorder : Recorder} (halarmed : recorder.alarmed = true) :
      Steps recorder (.collected .timerExpired) { recorder with alarmed := false }
  | quit {recorder : Recorder} {others : Nat} (hquits : recorder.quits = others + 1) :
      Steps recorder (.collected .quit) { recorder with quits := others }
  | interrupt {recorder : Recorder} (hinterrupted : recorder.interrupted = true) :
      Steps recorder (.collected .interrupt) { recorder with interrupted := false }

end Recorder

/-! ## The log -/

namespace Log

/-- Something has been recorded and not been collected as the delivery. -/
def Untaken (log : Log) : Quit.Delivery → Prop
  | .quit => log.count (.collected .quit) < log.count (.recorded .quit)
  | .timerExpired => Stands (.recorded .alarm) (.collected .timerExpired) log
  | .interrupt => Stands (.recorded .interrupt) (.collected .interrupt) log

/-- What has been collected. -/
def deliveries (log : Log) : List Quit.Delivery :=
  log.filterMap fun
    | .collected delivery => some delivery
    | _ => none

theorem deliveries_append (earlier later : Log) :
    deliveries (earlier ++ later) = deliveries earlier ++ deliveries later :=
  List.filterMap_append

@[simp]
theorem deliveries_recorded (signals : List Signal) :
    deliveries (signals.map .recorded) = [] := by
  simp [deliveries]

@[simp]
theorem deliveries_collected (returned : List Quit.Delivery) :
    deliveries (returned.map .collected) = returned := by
  simp [deliveries, List.filterMap_map]

theorem count_deliveries (log : Log) (delivery : Quit.Delivery) :
    log.deliveries.count delivery = log.count (.collected delivery) := by
  induction log with
  | nil => rfl
  | cons occurrence rest ih =>
      cases occurrence <;> simpa [deliveries, List.count_cons] using ih

/-- The log tells how a new recorder has become the given one. -/
inductive Tells : Log → Recorder → Prop where
  | new {capacity : Nat} (hcapacity : 0 < capacity) : Tells [] { capacity }
  | step {log : Log} {recorder next : Recorder} {occurrence : Occurrence}
      (htells : Tells log recorder) (hstep : recorder.Steps occurrence next) :
      Tells (log ++ [occurrence]) next

namespace Tells

variable {log : Log} {recorder : Recorder}

theorem capacity_pos (htells : log.Tells recorder) : 0 < recorder.capacity := by
  induction htells with
  | new hcapacity => exact hcapacity
  | step _ hstep ih =>
      cases hstep with
      | recorded => rwa [Recorder.capacity_record]
      | _ => exact ih

/-- Every quit has been collected or is still counted. -/
theorem quits (htells : log.Tells recorder) :
    log.count (.collected .quit) + recorder.quits = log.count (.recorded .quit) := by
  induction htells with
  | new => rfl
  | step _ hstep ih =>
      rw [List.count_append, List.count_append, ← ih]
      cases hstep with
      | recorded signal => cases signal <;> simp [Recorder.quits_record, Nat.add_assoc]
      | quit hquits => simp [hquits, Nat.add_assoc, Nat.add_comm]
      | _ => simp [Recorder.readWakeups]

/-- An alarm or an interrupt is held if one has come since the last was collected. -/
theorem holds_iff_stands (htells : log.Tells recorder) {delivery : Quit.Delivery}
    (hflag : delivery ≠ .quit) :
    recorder.Holds delivery ↔
      Stands (.recorded delivery.signal) (.collected delivery) log := by
  induction htells with
  | new => cases delivery <;> simp [Recorder.Holds, not_stands_nil]
  | step _ hstep ih =>
      rw [stands_concat, ← ih]
      cases hstep with
      | recorded signal => simp [Recorder.holds_record]
      | _ => cases delivery <;> simp [Recorder.Holds, Recorder.readWakeups] at hflag ⊢

theorem holds_iff (htells : log.Tells recorder) (delivery : Quit.Delivery) :
    recorder.Holds delivery ↔ log.Untaken delivery := by
  cases delivery with
  | quit =>
      have hquits := htells.quits
      rw [Recorder.Holds, Untaken]
      omega
  | timerExpired => exact htells.holds_iff_stands nofun
  | interrupt => exact htells.holds_iff_stands nofun

/-- Nothing is collected that has not been recorded since it was last collected. -/
theorem untaken_of_collected (htells : log.Tells recorder) {delivery : Quit.Delivery}
    {before after : Log} (hlog : log = before ++ .collected delivery :: after) :
    before.Untaken delivery := by
  induction htells generalizing after with
  | new => simp at hlog
  | step hearlier hstep ih =>
      rcases after.eq_nil_or_concat with rfl | ⟨middle, last, rfl⟩
      · obtain ⟨rfl, hlast⟩ := List.append_inj' hlog rfl
        obtain rfl := List.singleton_inj.mp hlast
        rw [← hearlier.holds_iff]
        cases hstep with
        | timerExpired halarmed => exact halarmed
        | quit hquits => exact Nat.lt_of_lt_of_eq (Nat.succ_pos _) hquits.symm
        | interrupt hinterrupted => exact hinterrupted
      · rw [List.concat_eq_append, ← List.cons_append, ← List.append_assoc] at hlog
        exact ih (List.append_inj' hlog rfl).1

/-- A signal that has come since the last read has left a byte in the pipe. -/
theorem wakeups_pos (htells : log.Tells recorder) {signal : Signal}
    (hunread : Stands (.recorded signal) .read log) : 0 < recorder.wakeups := by
  induction htells with
  | new => exact absurd hunread (not_stands_nil _ _)
  | step hearlier hstep ih =>
      have hunread := (stands_concat _ _ _ _).mp hunread
      cases hstep with
      | recorded other => exact Recorder.wakeups_record_pos _ other hearlier.capacity_pos
      | read => simp at hunread
      | _ => exact ih (by simpa using hunread)

theorem arrive (htells : log.Tells recorder) (signals : List Signal) :
    Tells (log ++ signals.map .recorded) (signals.foldl Recorder.record recorder) := by
  induction signals generalizing log recorder with
  | nil => simpa using htells
  | cons signal rest ih =>
      rw [List.map_cons, List.append_cons]
      exact ih (htells.step (.recorded recorder signal))

end Tells

end Log

/-! ## Taking notes -/

namespace Recorder

/-- All that is held for one delivery is taken, and nothing else. -/
structure Takes (delivery : Quit.Delivery) (recorder : Recorder)
    (returned : List Quit.Delivery) (next : Recorder) : Prop where
  tells : ∀ log : Log, log.Tells recorder → Log.Tells (log ++ returned.map .collected) next
  reported : recorder.Holds delivery → delivery ∈ returned
  emptied : ¬ next.Holds delivery
  others : ∀ other, other ≠ delivery → (next.Holds other ↔ recorder.Holds other)
  wakeups : next.wakeups = recorder.wakeups

variable (recorder : Recorder)

theorem takes_takeAlarm :
    Takes .timerExpired recorder (Collector.deliveries recorder.takeAlarm.1 0 false)
      recorder.takeAlarm.2 where
  tells log htells := by
    obtain ⟨quits, alarmed, interrupted, wakeups, capacity⟩ := recorder
    cases alarmed with
    | false => simpa [takeAlarm, Collector.deliveries] using htells
    | true => exact htells.step (.timerExpired rfl)
  reported halarmed := by
    simp only [Holds] at halarmed
    simp [takeAlarm, Collector.deliveries, halarmed]
  emptied := nofun
  others other hother := by
    cases other with
    | timerExpired => exact absurd rfl hother
    | _ => rfl
  wakeups := rfl

theorem takes_takeQuits :
    Takes .quit recorder (Collector.deliveries false recorder.takeQuits.1 false)
      recorder.takeQuits.2 where
  tells log htells := by
    obtain ⟨quits, alarmed, interrupted, wakeups, capacity⟩ := recorder
    simp only [takeQuits, Collector.deliveries, Bool.false_eq_true, if_false,
      List.nil_append, List.append_nil, List.map_replicate]
    induction quits generalizing log with
    | zero => simpa using htells
    | succ others ih =>
        rw [List.replicate_succ, List.append_cons]
        exact ih _ (htells.step (.quit rfl))
  reported hquits := by
    simp only [Holds] at hquits
    simpa [takeQuits, Collector.deliveries] using Nat.ne_of_gt hquits
  emptied := Nat.lt_irrefl 0
  others other hother := by
    cases other with
    | quit => exact absurd rfl hother
    | _ => rfl
  wakeups := rfl

theorem takes_takeInterrupt :
    Takes .interrupt recorder (Collector.deliveries false 0 recorder.takeInterrupt.1)
      recorder.takeInterrupt.2 where
  tells log htells := by
    obtain ⟨quits, alarmed, interrupted, wakeups, capacity⟩ := recorder
    cases interrupted with
    | false => simpa [takeInterrupt, Collector.deliveries] using htells
    | true => exact htells.step (.interrupt rfl)
  reported hinterrupted := by
    simp only [Holds] at hinterrupted
    simp [takeInterrupt, Collector.deliveries, hinterrupted]
  emptied := nofun
  others other hother := by
    cases other with
    | interrupt => exact absurd rfl hother
    | _ => rfl
  wakeups := rfl

end Recorder

/-- A collection takes the notes one kind after the other, when the pipe is empty. -/
theorem Collector.takePending_steps {σ : Type} (collector : Collector σ) {limit : Nat}
    {state next : σ} {returned : List Quit.Delivery}
    (hpending : collector.takePending limit state = (returned, next)) :
    ∃ alarmed afterAlarm quits afterQuits interrupted,
      collector.takeAlarm (collector.drain limit state) = (alarmed, afterAlarm) ∧
      collector.takeQuits afterAlarm = (quits, afterQuits) ∧
      collector.takeInterrupt afterQuits = (interrupted, next) ∧
      returned = deliveries alarmed quits interrupted := by
  cases hpending
  exact ⟨_, _, _, _, _, rfl, rfl, rfl, rfl⟩

end JobShell
