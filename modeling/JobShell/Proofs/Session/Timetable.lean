import JobShell.Proofs.Session.History
import Mathlib.Data.Finset.Card
import Mathlib.Data.Finset.Fold

/-!
# Children by a timetable

A small kernel on which it is settled beforehand when each child ends and how, and
when which signal arrives.  Time goes on by one with every operation, so ends and
signals fall between any two of them.  It keeps the history that it writes.
-/

namespace JobShell

structure Timetable where
  clock : Nat := 0
  recorder : Recorder := {}
  history : History := []
  deriving DecidableEq, Repr

namespace Timetable

/-- What is settled beforehand. -/
structure Course where
  /-- When a child ends, and how. -/
  ends : Pid → Nat × Ending
  /-- The signals that arrive at a time. -/
  arrivals : Nat → List Signal := fun _ => []
  /-- How many children there may be at a time. -/
  room : Nat := 100

variable (course : Course)

/-- The signals at a time, with one for the children that end then. -/
def signalsAt (time : Nat) (children : Finset Pid) : List Signal :=
  let ending := children.filter fun pid => (course.ends pid).1 = time
  course.arrivals time ++ if ending.Nonempty then [.child] else []

def tick (table : Timetable) : Timetable :=
  let clock := table.clock + 1
  let signals := signalsAt course clock table.history.unreaped
  { table with clock, recorder := signals.foldl Recorder.record table.recorder }

/-- Lets time pass up to the next wakeup; `limit` bounds how long. -/
def sleep : Nat → Timetable → Timetable
  | 0, table => table
  | limit + 1, table =>
      if table.recorder.wakeups > 0 then table else sleep limit (table.tick course)

/-- The least number above those of all children. -/
def freshPid (children : Finset Pid) : Pid :=
  children.fold max 0 id + 1

def spawn (table : Timetable) : Except Errno Pid × Timetable :=
  let children := table.history.unreaped
  if course.room ≤ children.card then (.error .tryAgain, table)
  else
    let pid := freshPid children
    (.ok pid, { table with history := table.history ++ [.created pid] })

def poll (pid : Pid) (table : Timetable) : Except Errno WaitStatus × Timetable :=
  let (time, ending) := course.ends pid
  if pid ∉ table.history.unreaped then (.error .noChild, table)
  else if table.clock < time then (.ok .alive, table)
  else (ending.answer, { table with history := table.history ++ [.reaped pid ending] })

/-- Lets time pass. -/
def pass : Nat → Timetable → Timetable
  | 0, table => table
  | times + 1, table => pass times (table.tick course)

/-- Lets time pass until a child has ended. -/
def waitFor (pid : Pid) (table : Timetable) : Except Errno WaitStatus × Timetable :=
  let (time, ending) := course.ends pid
  if pid ∉ table.history.unreaped then (.error .noChild, table)
  else
    let table := table.pass course (time - table.clock)
    (ending.answer, { table with history := table.history ++ [.reaped pid ending] })

/-- Collects what the recorder gives, as the deliveries that it stands for. -/
def collect {α : Type} (take : Recorder → α × Recorder) (deliveries : α → List Quit.Delivery)
    (table : Timetable) : α × Timetable :=
  let (taken, recorder) := take table.recorder
  (taken, { table with recorder, history := table.history ++ .collected (deliveries taken) })

def kernel : Kernel Timetable where
  patience := 100
  account := { name := none, home := none, isSuperuser := false }
  enter _ table := (.ok (), table.tick course)
  directory _ := .error .noEntry
  print _ table := (.ok (), table.tick course)
  complain _ table := (.ok (), table.tick course)
  openTarget _ _ table := (.ok (), table.tick course)
  openScript _ table := (.error .noEntry, table.tick course)
  readScript _ table := (.ok [], table.tick course)
  closeScript _ table := table.tick course
  openPipe table := (.ok { readEnd := 3, writeEnd := 4 }, table.tick course)
  closePipes _ table := table.tick course
  blockSignals table := (.ok (), table.tick course)
  unblockSignals table := table.tick course
  spawn _ _ table := (table.tick course).spawn course
  terminateGroup _ table := table.tick course
  waitFor pid table := table.waitFor course pid
  readWakeups table :=
    let table := table.tick course
    let (count, recorder) := table.recorder.readWakeups
    (count, { table with recorder })
  takeAlarm table :=
    (table.tick course).collect Recorder.takeAlarm fun alarmed =>
      Collector.deliveries alarmed 0 false
  takeQuits table :=
    (table.tick course).collect Recorder.takeQuits fun quits =>
      Collector.deliveries false quits false
  takeInterrupt table :=
    (table.tick course).collect Recorder.takeInterrupt fun interrupted =>
      Collector.deliveries false 0 interrupted
  await table := (.ok false, table.tick course)
  read table := (.ok [], table.tick course)
  poll pid table := (table.tick course).poll course pid
  interruptGroup _ table := table.tick course
  sleep table := table.sleep course 100
  setAlarm _ table := table.tick course
  cancelAlarm table := table.tick course

theorem history_sleep (limit : Nat) (table : Timetable) :
    (table.sleep course limit).history = table.history := by
  induction limit generalizing table with
  | zero => rfl
  | succ limit ih =>
      rw [sleep]
      split
      · rfl
      · exact ih (table.tick course)

theorem history_pass (times : Nat) (table : Timetable) :
    (table.pass course times).history = table.history := by
  induction times generalizing table with
  | zero => rfl
  | succ times ih => exact ih (table.tick course)

theorem freshPid_notMem (children : Finset Pid) : freshPid children ∉ children := by
  intro hmem
  have hle : freshPid children ≤ children.fold max 0 id :=
    (Finset.le_fold_max (freshPid children)).mpr (.inr ⟨_, hmem, le_rfl⟩)
  exact absurd hle (Int.not_le.mpr (Int.lt_succ _))

theorem poll_cases (table : Timetable) {pid : Pid} (hpid : pid ∈ table.history.unreaped) :
    table.poll course pid = (.ok .alive, table) ∨
      table.poll course pid = ((course.ends pid).2.answer,
        { table with history := table.history ++ [.reaped pid (course.ends pid).2] }) := by
  simp only [poll, hpid, not_true, if_false]
  split
  · exact .inl rfl
  · exact .inr rfl

theorem spawn_cases (table : Timetable) :
    table.spawn course = (.error .tryAgain, table) ∨
      table.spawn course = (.ok (freshPid table.history.unreaped),
        { table with
          history := table.history ++ [.created (freshPid table.history.unreaped)] }) := by
  rw [spawn]
  split
  · exact .inl rfl
  · exact .inr rfl

theorem waitFor_eq (table : Timetable) {pid : Pid} (hpid : pid ∈ table.history.unreaped) :
    ((table.waitFor course pid).1 = (course.ends pid).2.answer ∧
      (table.waitFor course pid).2.history =
        table.history ++ [.reaped pid (course.ends pid).2]) := by
  simp only [waitFor, hpid, not_true, if_false, history_pass, and_self]

theorem kernel_keeps : (kernel course).Keeps history where
  spawn _ _ table := by
    rcases (table.tick course).spawn_cases course with hfull | hspawned
    · exact .inr ⟨_, congrArg Prod.fst hfull, congrArg (history ∘ Prod.snd) hfull⟩
    · exact .inl ⟨_, congrArg Prod.fst hspawned, freshPid_notMem _,
        congrArg (history ∘ Prod.snd) hspawned⟩
  poll pid table hpid := by
    rcases (table.tick course).poll_cases course hpid with halive | hended
    · exact .inl ⟨.inl (congrArg Prod.fst halive), congrArg (history ∘ Prod.snd) halive⟩
    · exact .inr ⟨_, congrArg Prod.fst hended, congrArg (history ∘ Prod.snd) hended⟩
  waitFor _ table hpid := .inr ⟨_, table.waitFor_eq course hpid⟩
  patient pid table hpid := by
    rintro ⟨hinterrupted, -⟩
    exact (course.ends pid).2.answer_ne_interrupted
      ((table.waitFor_eq course hpid).1.symm.trans hinterrupted)
  takeAlarm _ := rfl
  takeQuits _ := rfl
  takeInterrupt _ := rfl
  readWakeups _ := rfl
  sleep table := history_sleep course 100 table
  interruptGroup _ _ := rfl
  setAlarm _ _ := rfl
  cancelAlarm _ := rfl
  openPipe _ := rfl
  closePipes _ _ := rfl
  blockSignals _ := rfl
  unblockSignals _ := rfl
  terminateGroup _ _ := rfl
  openTarget _ _ _ := rfl
  enter _ _ := rfl
  print _ _ := rfl
  complain _ _ := rfl

theorem kernel_tellsEnds (hends : ∀ pid, (course.ends pid).2.answer ≠ .error .invalid) :
    (kernel course).TellsEnds history := by
  intro pid table hpid
  change ((table.tick course).poll course pid).1 ≠ _
  rcases (table.tick course).poll_cases course hpid with halive | hended
  · rw [halive]
    nofun
  · rw [hended]
    exact hends pid

end Timetable

end JobShell
