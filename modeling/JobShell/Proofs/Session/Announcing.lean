import JobShell.Proofs.Recorder.Bookkeeping
import JobShell.Proofs.Session.Timetable

/-!
# The ends of children

A child that ends can be reaped from then on, and a signal says so.  One signal may stand
for several ends, and it leaves a byte in the wakeup pipe as every signal does.
-/

namespace JobShell

/-- What wakes a session, and which children could be reaped. -/
@[ext]
structure Watch where
  recorder : Recorder
  /-- The children that have ended and have not been reaped. -/
  ended : Finset Pid
  deriving DecidableEq

namespace Watch

/-- Signals arrive and children end.  One signal may tell of several ends, and signals
may come without an end. -/
inductive Meets (before : Watch) : Watch → Prop where
  | nothing : Meets before before
  | signal {after : Watch} (signal : Signal) (hmeets : Meets before after) :
      Meets before { after with recorder := after.recorder.record signal }
  | ends {after : Watch} (children : Finset Pid) (hmeets : Meets before after) :
      Meets before
        { recorder := after.recorder.record .child, ended := after.ended ∪ children }

/-- Children that have ended stay so, and the pipe stays as it is. -/
structure Grows (before after : Watch) : Prop where
  capacity : after.recorder.capacity = before.recorder.capacity
  ended : before.ended ⊆ after.ended

theorem Grows.refl (watch : Watch) : watch.Grows watch :=
  ⟨rfl, Finset.Subset.refl _⟩

theorem Grows.trans {first second third : Watch} (hfirst : first.Grows second)
    (hsecond : second.Grows third) : first.Grows third :=
  ⟨hsecond.capacity.trans hfirst.capacity, hfirst.ended.trans hsecond.ended⟩

/-- If a child could be reaped, the session would not sleep. -/
def Awake (watch : Watch) (pid : Pid) : Prop :=
  pid ∈ watch.ended → 0 < watch.recorder.wakeups

namespace Meets

variable {before after : Watch}

theorem grows (hmeets : before.Meets after) : before.Grows after := by
  induction hmeets with
  | nothing => exact .refl before
  | signal signal _ ih => exact ih.trans ⟨Recorder.capacity_record _ signal, Finset.Subset.refl _⟩
  | ends children _ ih =>
      exact ih.trans ⟨Recorder.capacity_record _ .child, Finset.subset_union_left⟩

theorem trans {between : Watch} (hearlier : before.Meets between)
    (hlater : between.Meets after) : before.Meets after := by
  induction hlater with
  | nothing => exact hearlier
  | signal signal _ ih => exact ih.signal signal
  | ends children _ ih => exact ih.ends children

theorem signals (hmeets : before.Meets after) (signals : List Signal) :
    before.Meets
      { after with recorder := signals.foldl Recorder.record after.recorder } := by
  induction signals generalizing after with
  | nil => exact hmeets
  | cons signal rest ih => exact ih (hmeets.signal signal)

/-- Whatever happens, a child that ends leaves a byte in the pipe. -/
theorem awake (hmeets : before.Meets after) (hcapacity : 0 < before.recorder.capacity)
    {pid : Pid} (hawake : before.Awake pid) : after.Awake pid := by
  cases hmeets with
  | nothing => exact hawake
  | signal signal hmeets =>
      intro _
      apply Recorder.wakeups_record_pos
      rwa [hmeets.grows.capacity]
  | ends children hmeets =>
      intro _
      apply Recorder.wakeups_record_pos
      rwa [hmeets.grows.capacity]

end Meets

end Watch

variable {σ : Type}

/-- An operation does one step of the recorder after something has been met. -/
def Recorder.StepsAfter {α : Type} (watch : σ → Watch) (operation : σ → α × σ)
    (step : Recorder → α × Recorder) : Prop :=
  ∀ state, ∃ met, (watch state).Meets met ∧ (operation state).1 = (step met.recorder).1 ∧
    watch (operation state).2 = { met with recorder := (step met.recorder).2 }

/-- A kernel announces the ends of children: they may come before any operation, and a
signal comes with them.  A process that is said to be alive has not ended, asking for a
process reaps no other, and no sleep begins while there is a byte in the pipe. -/
structure Kernel.Announces (kernel : Kernel σ) (watch : σ → Watch) : Prop where
  readWakeups : Recorder.StepsAfter watch kernel.readWakeups Recorder.readWakeups
  takeAlarm : Recorder.StepsAfter watch kernel.takeAlarm Recorder.takeAlarm
  takeQuits : Recorder.StepsAfter watch kernel.takeQuits Recorder.takeQuits
  takeInterrupt : Recorder.StepsAfter watch kernel.takeInterrupt Recorder.takeInterrupt
  print : ∀ bytes state, (watch state).Meets (watch (kernel.print bytes state).2)
  interruptGroup : ∀ group state, (watch state).Meets (watch (kernel.interruptGroup group state))
  setAlarm : ∀ seconds state, (watch state).Meets (watch (kernel.setAlarm seconds state))
  cancelAlarm : ∀ state, (watch state).Meets (watch (kernel.cancelAlarm state))
  poll : ∀ {pid state answer next}, kernel.poll pid state = (answer, next) →
    ∃ met, (watch state).Meets met ∧ (answer = .ok .alive → pid ∉ met.ended) ∧
      (watch next = met ∨
        answer ≠ .error .interrupted ∧
          watch next = { met with ended := met.ended.erase pid })
  sleep : ∀ state, (watch state).Meets (watch (kernel.sleep state))
  sleepless : ∀ state, 0 < (watch state).recorder.wakeups → kernel.sleep state = state

theorem Recorder.StepsAfter.grows {α : Type} {watch : σ → Watch} {operation : σ → α × σ}
    {step : Recorder → α × Recorder} (hsteps : StepsAfter watch operation step)
    (hcapacity : ∀ recorder, (step recorder).2.capacity = recorder.capacity) (state : σ) :
    (watch state).Grows (watch (operation state).2) := by
  obtain ⟨met, hmeets, -, hnext⟩ := hsteps state
  rw [hnext]
  exact hmeets.grows.trans ⟨hcapacity _, Finset.Subset.refl _⟩

namespace Kernel.Announces

variable {kernel : Kernel σ} {watch : σ → Watch}

/-- Serving signals reaps no child. -/
theorem servesWithin (hkernel : kernel.Announces watch) :
    kernel.ServesWithin fun state next => (watch state).Grows (watch next) where
  refl _ := .refl _
  trans hfirst hsecond := hfirst.trans hsecond
  print bytes state := (hkernel.print bytes state).grows
  interruptGroup group state := (hkernel.interruptGroup group state).grows
  setAlarm seconds state _ := (hkernel.setAlarm seconds state).grows
  cancelAlarm state := (hkernel.cancelAlarm state).grows
  readWakeups := hkernel.readWakeups.grows fun _ => rfl
  takeAlarm := hkernel.takeAlarm.grows fun _ => rfl
  takeQuits := hkernel.takeQuits.grows fun _ => rfl
  takeInterrupt := hkernel.takeInterrupt.grows fun _ => rfl

/-- What asking for a process does to what could be reaped. -/
structure Asks (watch : σ → Watch) (pid : Pid) (answer : Except Errno WaitStatus)
    (state asked : σ) : Prop where
  capacity : (watch asked).recorder.capacity = (watch state).recorder.capacity
  awake : 0 < (watch state).recorder.capacity → ∀ other,
    (watch state).Awake other → (watch asked).Awake other
  alive : answer = .ok .alive → pid ∉ (watch state).ended ∧ pid ∉ (watch asked).ended
  ended : ∀ other ∈ (watch state).ended,
    other ≠ pid ∨ answer = .error .interrupted → other ∈ (watch asked).ended

theorem asks (hkernel : kernel.Announces watch) {pid : Pid}
    {answer : Except Errno WaitStatus} {state asked : σ}
    (hpoll : kernel.poll pid state = (answer, asked)) : Asks watch pid answer state asked := by
  obtain ⟨met, hmeets, hrunning, hsame | ⟨hanswer, hreaped⟩⟩ := hkernel.poll hpoll
  · rw [← hsame] at hmeets hrunning
    refine ⟨hmeets.grows.capacity, ?_, ?_, ?_⟩
    · intro hcapacity other hawake
      exact hmeets.awake hcapacity hawake
    · intro halive
      exact ⟨mt (hmeets.grows.ended ·) (hrunning halive), hrunning halive⟩
    · intro other hended _
      exact hmeets.grows.ended hended
  · refine ⟨?_, ?_, ?_, ?_⟩
    · rw [hreaped]
      exact hmeets.grows.capacity
    · intro hcapacity other hawake hended
      rw [hreaped] at hended ⊢
      exact hmeets.awake hcapacity hawake (Finset.mem_of_mem_erase hended)
    · intro halive
      rw [hreaped]
      exact ⟨mt (hmeets.grows.ended ·) (hrunning halive), Finset.notMem_erase _ _⟩
    · intro other hended hother
      rw [hreaped]
      exact Finset.mem_erase_of_ne_of_mem (hother.resolve_right hanswer)
        (hmeets.grows.ended hended)

end Kernel.Announces

/-! ## Announcing by a timetable -/

namespace Timetable

variable (course : Course)

def watch (table : Timetable) : Watch where
  recorder := table.recorder
  ended := table.history.unreaped.filter fun pid => (course.ends pid).1 ≤ table.clock

def endingAt (time : Nat) (table : Timetable) : Finset Pid :=
  table.history.unreaped.filter fun pid => (course.ends pid).1 = time

theorem watch_tick (table : Timetable) :
    (table.tick course).watch course =
      { recorder := (signalsAt course (table.clock + 1) table.history.unreaped).foldl
          Recorder.record table.recorder
        ended := (table.watch course).ended ∪ table.endingAt course (table.clock + 1) } := by
  ext pid
  · rfl
  · simp only [watch, tick, endingAt, Finset.mem_filter, Finset.mem_union, ← and_or_left,
      Nat.le_add_one_iff]

theorem meets_tick (table : Timetable) :
    (table.watch course).Meets ((table.tick course).watch course) := by
  have hbegun : (table.watch course).Meets (table.watch course) := .nothing
  have harrived := hbegun.signals (course.arrivals (table.clock + 1))
  rw [watch_tick, signalsAt, ← endingAt]
  by_cases hending : (table.endingAt course (table.clock + 1)).Nonempty
  · rw [if_pos hending, List.foldl_append]
    exact harrived.ends _
  · rw [if_neg hending, List.append_nil, Finset.not_nonempty_iff_eq_empty.mp hending,
      Finset.union_empty]
    exact harrived

theorem meets_sleep (limit : Nat) (table : Timetable) :
    (table.watch course).Meets ((table.sleep course limit).watch course) := by
  induction limit generalizing table with
  | zero => exact .nothing
  | succ limit ih =>
      rw [sleep]
      split
      · exact .nothing
      · exact (table.meets_tick course).trans (ih _)

theorem stepsAfter_collect {α : Type} (take : Recorder → α × Recorder)
    (deliveries : α → List Quit.Delivery) :
    Recorder.StepsAfter (watch course) (fun table => (table.tick course).collect take deliveries)
      take := by
  intro table
  refine ⟨(table.tick course).watch course, table.meets_tick course, rfl, ?_⟩
  simp only [watch, collect, History.unreaped_collected]

theorem poll_announces {table next : Timetable} {pid : Pid} {answer : Except Errno WaitStatus}
    (hpoll : table.poll course pid = (answer, next)) :
    (answer = .ok .alive → pid ∉ (table.watch course).ended) ∧
      (next.watch course = table.watch course ∨
        answer ≠ .error .interrupted ∧
          next.watch course =
            { table.watch course with ended := (table.watch course).ended.erase pid }) := by
  by_cases hpid : pid ∈ table.history.unreaped
  · by_cases hrunning : table.clock < (course.ends pid).1
    · simp only [poll, hpid, hrunning, not_true, if_true, if_false] at hpoll
      cases hpoll
      refine ⟨fun _ hended => ?_, .inl rfl⟩
      exact absurd (Finset.mem_filter.mp hended).2 (Nat.not_le.mpr hrunning)
    · simp only [poll, hpid, hrunning, not_true, if_false] at hpoll
      cases hpoll
      refine ⟨fun halive => absurd halive (Ending.answer_ne_alive _),
        .inr ⟨Ending.answer_ne_interrupted _, ?_⟩⟩
      simp only [watch, History.unreaped_concat, History.follow, Finset.filter_erase]
  · simp only [poll, hpid, not_false_eq_true, if_true] at hpoll
    cases hpoll
    refine ⟨fun halive => ?_, .inl rfl⟩
    cases halive

theorem kernel_announces : (kernel course).Announces (watch course) where
  readWakeups table := ⟨(table.tick course).watch course, table.meets_tick course, rfl, rfl⟩
  takeAlarm := stepsAfter_collect course _ _
  takeQuits := stepsAfter_collect course _ _
  takeInterrupt := stepsAfter_collect course _ _
  print _ table := table.meets_tick course
  interruptGroup _ table := table.meets_tick course
  setAlarm _ table := table.meets_tick course
  cancelAlarm table := table.meets_tick course
  poll hpoll := ⟨_, meets_tick course _, poll_announces course hpoll⟩
  sleep table := table.meets_sleep course 100
  sleepless _ hwakeups := if_pos hwakeups

end Timetable

end JobShell
