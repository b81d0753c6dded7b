import JobShell.Machine.Child
import JobShell.Machine.State
import Mathlib.Logic.Function.Basic

/-!
# From fork to program

What a new process of a pipeline does with its descriptors until its program begins.
Nothing is assumed of the system but what each call does to the table of the process
that makes it: any call may be refused, and the process may end at any time.

Whatever happens, a program that begins has its standard streams where the wiring puts
them, and apart from them what is left of the shell's own table once the pipes are
closed.
-/

namespace JobShell.Machine

open Launch (Wiring takeInput takeOutput closeAll wiring)

/-! ## Tables -/

/-- The descriptors of a process: what is open under each number. -/
abbrev Table := Descriptor → Option Slot

namespace Table

def empty : Table := fun _ => none

def set (table : Table) (descriptor : Descriptor) (slot : Slot) : Table :=
  Function.update table descriptor (some slot)

def close (table : Table) (descriptor : Descriptor) : Table :=
  Function.update table descriptor none

/-- Closes several descriptors. -/
def without (table : Table) (descriptors : List Descriptor) : Table :=
  fun descriptor => if descriptor ∈ descriptors then none else table descriptor

/-- What is left when the process becomes another program. -/
def onExecute (table : Table) : Table :=
  fun descriptor => (table descriptor).filter fun slot => !slot.closesOnExecute

/-- Some descriptor leads to the open file. -/
def Holds (table : Table) (file : FileId) : Prop :=
  ∃ descriptor slot, table descriptor = some slot ∧ slot.file = file

variable {table : Table} {descriptor other : Descriptor} {slot : Slot}

@[simp]
theorem set_self (table : Table) (descriptor : Descriptor) (slot : Slot) :
    table.set descriptor slot descriptor = some slot :=
  Function.update_self ..

theorem set_of_ne (hne : other ≠ descriptor) : table.set descriptor slot other = table other :=
  Function.update_of_ne hne ..

@[simp]
theorem close_self (table : Table) (descriptor : Descriptor) :
    table.close descriptor descriptor = none :=
  Function.update_self ..

theorem close_of_ne (hne : other ≠ descriptor) : table.close descriptor other = table other :=
  Function.update_of_ne hne ..

theorem set_eq_self (hslot : table descriptor = some slot) : table.set descriptor slot = table := by
  rw [set, ← hslot]
  exact Function.update_eq_self ..

@[simp]
theorem set_set (table : Table) (descriptor : Descriptor) (first second : Slot) :
    (table.set descriptor first).set descriptor second = table.set descriptor second :=
  Function.update_idem ..

theorem set_comm (table : Table) (hne : descriptor ≠ other) (first second : Slot) :
    (table.set descriptor first).set other second =
      (table.set other second).set descriptor first :=
  Function.update_comm hne ..

theorem set_set_again (hne : descriptor ≠ other) (first second third fourth : Slot) :
    (((table.set descriptor first).set other second).set descriptor third).set other fourth =
      (table.set descriptor third).set other fourth := by
  rw [set_comm _ hne.symm, set_set, set_set]

/-- A descriptor that was free is free again once it has been closed, whatever has been
done to another one in the meantime. -/
theorem close_set_set (hfree : table descriptor = none) (hne : other ≠ descriptor)
    (first second : Slot) :
    ((table.set descriptor first).set other second).close descriptor =
      table.set other second := by
  funext position
  by_cases hposition : position = descriptor
  · rw [hposition, close_self, set_of_ne hne.symm, hfree]
  · rw [close_of_ne hposition, set_comm table hne.symm, set_of_ne hposition]

@[simp]
theorem without_nil (table : Table) : table.without [] = table := by
  funext descriptor
  simp [without]

theorem without_apply_of_notMem {descriptors : List Descriptor}
    (hmem : descriptor ∉ descriptors) : table.without descriptors descriptor = table descriptor :=
  if_neg hmem

theorem without_append (table : Table) (first second : List Descriptor) :
    table.without (first ++ second) = (table.without second).without first := by
  funext descriptor
  by_cases hfirst : descriptor ∈ first <;> simp [without, hfirst]

theorem close_without (table : Table) (descriptor : Descriptor) (descriptors : List Descriptor) :
    (table.close descriptor).without descriptors = table.without (descriptor :: descriptors) := by
  funext position
  by_cases hposition : position = descriptor <;>
    simp [without, close, Function.update, hposition]

theorem set_without {descriptors : List Descriptor} (hmem : descriptor ∉ descriptors) :
    (table.set descriptor slot).without descriptors =
      (table.without descriptors).set descriptor slot := by
  funext position
  by_cases hposition : position = descriptor
  · rw [hposition, without_apply_of_notMem hmem, set_self, set_self]
  · rw [set_of_ne hposition, without, without, set_of_ne hposition]

theorem onExecute_eq_some_iff :
    table.onExecute descriptor = some slot ↔
      table descriptor = some slot ∧ slot.closesOnExecute = false := by
  simp [onExecute, Option.filter_eq_some_iff]

theorem not_holds_empty (file : FileId) : ¬ empty.Holds file := by
  rintro ⟨descriptor, slot, hslot, -⟩
  cases hslot

end Table

/-- A slot of a standard stream, which programs are started with. -/
def Slot.handedOn (file : FileId) : Slot where
  file := file
  closesOnExecute := false

/-- A program that is started with two streams holds what they lead to, and what the
shell hands on. -/
theorem Table.holds_started_iff {table : Table} {input output file : FileId}
    (hnot : ¬ table.Holds file) :
    (((table.set 0 (.handedOn input)).set 1 (.handedOn output)).onExecute).Holds file ↔
      file = input ∨ file = output := by
  constructor
  · rintro ⟨descriptor, slot, hslot, rfl⟩
    obtain ⟨hslot, -⟩ := Table.onExecute_eq_some_iff.mp hslot
    by_cases hone : descriptor = 1
    · rw [hone, Table.set_self] at hslot
      cases hslot
      exact .inr rfl
    · rw [Table.set_of_ne hone] at hslot
      by_cases hzero : descriptor = 0
      · rw [hzero, Table.set_self] at hslot
        cases hslot
        exact .inl rfl
      · rw [Table.set_of_ne hzero] at hslot
        exact absurd ⟨descriptor, slot, hslot, rfl⟩ hnot
  · rintro (rfl | rfl)
    · exact ⟨0, .handedOn file, Table.onExecute_eq_some_iff.mpr
        ⟨(Table.set_of_ne Nat.zero_ne_one).trans (Table.set_self ..), rfl⟩, rfl⟩
    · exact ⟨1, .handedOn file, Table.onExecute_eq_some_iff.mpr ⟨Table.set_self .., rfl⟩, rfl⟩

/-! ## Courses -/

/-- A file that a process has opened by its path. -/
structure Opening where
  path : Bytes
  mode : OpenMode
  file : FileId
  deriving DecidableEq, Repr, Inhabited

/-- What has become of a new process. -/
inductive Outcome where
  /-- Its program begins, and has these descriptors. -/
  | executed (table : Table)
  | ended

/-- What a process has left. -/
def Outcome.table : Outcome → Table
  | .executed table => table
  | .ended => .empty

/-- A course of a new process up to its program or its end, and the files that it opens
on the way, which are new ones.  Calls may be refused for any reason, and a process may
end at any time: by its last call, by a signal, or because its program is over. -/
inductive Course (isNew : FileId → Prop) : Table → Behavior → List Opening → Outcome → Prop where
  | ended {table behavior} : Course isNew table behavior [] .ended
  | write {table target bytes next openings outcome} (answer : Except Errno Nat)
      (hrest : Course isNew table (next answer) openings outcome) :
      Course isNew table (.write target bytes next) openings outcome
  | openPath {table path mode permissions next openings outcome} (descriptor : Descriptor)
      (file : FileId) (hfree : table descriptor = none) (hnew : isNew file)
      (hrest : Course isNew (table.set descriptor { file }) (next (.ok descriptor)) openings
        outcome) :
      Course isNew table (.openPath path mode permissions next) (⟨path, mode, file⟩ :: openings)
        outcome
  | openPath_refused {table path mode permissions next openings outcome} (errno : Errno)
      (hrest : Course isNew table (next (.error errno)) openings outcome) :
      Course isNew table (.openPath path mode permissions next) openings outcome
  | close {table descriptor next openings outcome}
      (hrest : Course isNew (table.close descriptor) next openings outcome) :
      Course isNew table (.close descriptor next) openings outcome
  | duplicate {table source target next openings outcome} {slot : Slot}
      (hslot : table source = some slot)
      (hrest : Course isNew
        (table.set target
          (if source = target then slot else { slot with closesOnExecute := false }))
        (next (.ok ())) openings outcome) :
      Course isNew table (.duplicate source target next) openings outcome
  | duplicate_refused {table source target next openings outcome} (errno : Errno)
      (hrest : Course isNew table (next (.error errno)) openings outcome) :
      Course isNew table (.duplicate source target next) openings outcome
  | execute {table path argv environment next} :
      Course isNew table (.execute path argv environment next) [] (.executed table.onExecute)
  | execute_refused {table path argv environment next openings outcome} (errno : Errno)
      (hrest : Course isNew table (next errno) openings outcome) :
      Course isNew table (.execute path argv environment next) openings outcome

section Behaviors

variable {isNew : FileId → Prop} {table final : Table} {openings : List Opening}
  {environment : Environment}

/-- No program can begin any more. -/
def Doomed (isNew : FileId → Prop) (behavior : Behavior) : Prop :=
  ∀ table openings final, ¬ Course isNew table behavior openings (.executed final)

/-- A program that begins has the descriptors that the behavior finds. -/
def HandsOver (isNew : FileId → Prop) (behavior : Behavior) : Prop :=
  ∀ table openings final, Course isNew table behavior openings (.executed final) →
    openings = [] ∧ final = table.onExecute

theorem Doomed.handsOver {behavior : Behavior} (hdoomed : Doomed isNew behavior) :
    HandsOver isNew behavior :=
  fun _ _ _ hcourse => (hdoomed _ _ _ hcourse).elim

/-! ## Reports -/

theorem doomed_exit (code : Nat) : Doomed isNew (.exit code) := by
  intro table openings final hcourse
  cases hcourse

theorem doomed_write {target : Descriptor} {bytes : Bytes} {next : Except Errno Nat → Behavior}
    (hnext : ∀ answer, Doomed isNew (next answer)) : Doomed isNew (.write target bytes next) := by
  intro table openings final hcourse
  cases hcourse with
  | write answer hrest => exact hnext answer _ _ _ hrest

theorem doomed_writeFrom {next : Except Errno Unit → Behavior}
    (hnext : ∀ answer, Doomed isNew (next answer)) (target : Descriptor) (limit : Nat)
    (bytes : Bytes) : Doomed isNew (Action.writeFrom target limit bytes next) := by
  induction limit generalizing bytes with
  | zero => exact hnext _
  | succ limit ih =>
      cases bytes with
      | nil => exact hnext _
      | cons byte bytes =>
          refine doomed_write fun answer => ?_
          cases answer with
          | ok count => exact ih _
          | error errno => exact hnext _

theorem doomed_say {next : Unit → Behavior} (hnext : Doomed isNew (next ()))
    (target : Descriptor) (text : String) : Doomed isNew (Action.say target text next) :=
  doomed_writeFrom (fun _ => hnext) target _ _

/-! ## Becoming a program -/

theorem handsOver_execute {path : Bytes} {argv : List Bytes} {next : Errno → Behavior}
    (hnext : ∀ errno, HandsOver isNew (next errno)) :
    HandsOver isNew (.execute path argv environment next) := by
  intro table openings final hcourse
  cases hcourse with
  | execute => exact ⟨rfl, rfl⟩
  | execute_refused errno hrest => exact hnext errno _ _ _ hrest

theorem handsOver_ite {α : Type} {condition : Prop} [Decidable condition]
    {first second : Action α} {next : α → Behavior} (hfirst : HandsOver isNew (first next))
    (hsecond : HandsOver isNew (second next)) :
    HandsOver isNew ((if condition then first else second) next) := by
  split
  · exact hfirst
  · exact hsecond

theorem handsOver_executeOne {next : Errno → Behavior}
    (hnext : ∀ errno, HandsOver isNew (next errno)) (environment : Environment)
    (argv : List Bytes) (path : Bytes) :
    HandsOver isNew (executeOne environment argv path next) := by
  refine handsOver_execute fun errno => ?_
  exact handsOver_ite (handsOver_execute hnext) (hnext errno)

theorem handsOver_executeFirst {next : Errno → Behavior}
    (hnext : ∀ errno, HandsOver isNew (next errno)) (environment : Environment)
    (argv : List Bytes) (paths : List Bytes) (denied : Bool) (last : Errno) :
    HandsOver isNew (executeFirst environment argv paths denied last next) := by
  induction paths generalizing denied last with
  | nil => exact hnext _
  | cons path paths ih =>
      refine handsOver_executeOne (fun errno => ?_) environment argv path
      exact handsOver_ite (ih _ _) (hnext errno)

theorem handsOver_executeProgram {next : Errno → Behavior}
    (hnext : ∀ errno, HandsOver isNew (next errno)) (environment : Environment)
    (argv : List Bytes) : HandsOver isNew (executeProgram environment argv next) := by
  refine handsOver_ite (hnext _) (handsOver_ite ?_ ?_)
  · exact handsOver_executeOne hnext environment argv _
  · exact handsOver_executeFirst hnext environment argv _ _ _

end Behaviors

/-! ## Wiring -/

/-- Every descriptor of some pipes. -/
def endsOf (pipes : List PipeEnds) : List Descriptor :=
  pipes.flatMap fun ends => [ends.readEnd, ends.writeEnd]

theorem readEnd_mem_endsOf {pipes : List PipeEnds} {ends : PipeEnds} (hmem : ends ∈ pipes) :
    ends.readEnd ∈ endsOf pipes :=
  List.mem_flatMap.mpr ⟨ends, hmem, by simp⟩

theorem writeEnd_mem_endsOf {pipes : List PipeEnds} {ends : PipeEnds} (hmem : ends ∈ pipes) :
    ends.writeEnd ∈ endsOf pipes :=
  List.mem_flatMap.mpr ⟨ends, hmem, by simp⟩

/-- The pipe before a command. -/
def pipeBefore? (pipes : List PipeEnds) : Nat → Option PipeEnds
  | 0 => none
  | index + 1 => pipes[index]?

/-- The descriptor from which a command has its standard input, redirections apart. -/
def inputSource (pipes : List PipeEnds) (index : Nat) : Descriptor :=
  ((pipeBefore? pipes index).map PipeEnds.readEnd).getD 0

/-- The descriptor from which a command has its standard output, redirections apart. -/
def outputSource (pipes : List PipeEnds) (index : Nat) : Descriptor :=
  (pipes[index]?.map PipeEnds.writeEnd).getD 1

theorem takeInput_eq (pipes : List PipeEnds) (index : Nat) :
    takeInput pipes index =
      ((pipeBefore? pipes index).map fun ends => Wiring.duplicate ends.readEnd 0).toList := by
  cases index <;> rfl

theorem redirects_eq (command : Command) :
    (command.targets.map fun target => Wiring.redirect target.1 target.2) =
      (command.input.map (Wiring.redirect .input)).toList ++
        (command.output.map (Wiring.redirect .output)).toList := by
  obtain ⟨argv, input, output⟩ := command
  cases input <;> cases output <;> rfl

theorem mem_of_pipeBefore? {pipes : List PipeEnds} {index : Nat} {ends : PipeEnds}
    (hbefore : pipeBefore? pipes index = some ends) : ends ∈ pipes := by
  cases index with
  | zero => cases hbefore
  | succ index => exact List.mem_of_getElem? hbefore

/-- The open file behind a stream of a command: its target, or what it would be without
a redirection. -/
def Redirects (isNew : FileId → Prop) (direction : Direction) (target : Option String)
    (openings : List Opening) (without file : FileId) : Prop :=
  match target with
  | none => file = without
  | some path => isNew file ∧ ⟨Text.encode path, direction.openMode, file⟩ ∈ openings

section Wiring

variable {isNew : FileId → Prop} {table final : Table} {openings : List Opening}
  {next : Except Fault Unit → Behavior} {rest : List Wiring}

theorem course_wire_duplicate (hfault : ∀ fault, Doomed isNew (next (.error fault)))
    {source target : Descriptor} {slot : Slot} (hslot : table source = some slot)
    (hne : source ≠ target)
    (hcourse : Course isNew table (wire (.duplicate source target :: rest) next) openings
      (.executed final)) :
    Course isNew (table.set target (.handedOn slot.file)) (wire rest next) openings
      (.executed final) := by
  cases hcourse with
  | duplicate hfound hrest =>
      cases hslot.symm.trans hfound
      rwa [if_neg hne] at hrest
  | duplicate_refused errno hrest => exact (hfault _ _ _ _ hrest).elim

/-- A stream that is taken from a pipe if there is one. -/
theorem course_wire_take (hfault : ∀ fault, Doomed isNew (next (.error fault)))
    {ends? : Option PipeEnds} {side : PipeEnds → Descriptor} {target : Descriptor}
    {standard slot : Slot} (hstandard : table target = some standard)
    (hhanded : standard.closesOnExecute = false)
    (hslot : table ((ends?.map side).getD target) = some slot)
    (hne : ∀ ends, ends? = some ends → side ends ≠ target)
    (hcourse : Course isNew table
      (wire ((ends?.map fun ends => Wiring.duplicate (side ends) target).toList ++ rest) next)
      openings (.executed final)) :
    Course isNew (table.set target (.handedOn slot.file)) (wire rest next) openings
      (.executed final) := by
  cases ends? with
  | none =>
      cases hstandard.symm.trans hslot
      have hself : Slot.handedOn standard.file = standard := by
        rw [Slot.handedOn, ← hhanded]
      rwa [hself, Table.set_eq_self hstandard]
  | some ends => exact course_wire_duplicate hfault hslot (hne ends rfl) hcourse

theorem course_wire_closeAll {pipes : List PipeEnds}
    (hcourse : Course isNew table (wire (closeAll pipes ++ rest) next) openings
      (.executed final)) :
    Course isNew (table.without (endsOf pipes)) (wire rest next) openings (.executed final) := by
  induction pipes generalizing table with
  | nil => rwa [endsOf, List.flatMap_nil, Table.without_nil]
  | cons ends pipes ih =>
      cases hcourse with
      | close hcourse =>
          cases hcourse with
          | close hcourse =>
              have hclosed := ih hcourse
              rwa [Table.close_without, Table.close_without] at hclosed

/-- A file that is opened for a stream gets a free descriptor, which is closed again. -/
theorem course_wire_redirect (hfault : ∀ fault, Doomed isNew (next (.error fault)))
    {direction : Direction} {path : String} {slot : Slot}
    (hstream : table direction.stream = some slot)
    (hcourse : Course isNew table (wire (.redirect direction path :: rest) next) openings
      (.executed final)) :
    ∃ file others, isNew file ∧
      openings = ⟨Text.encode path, direction.openMode, file⟩ :: others ∧
      Course isNew (table.set direction.stream (.handedOn file)) (wire rest next) others
        (.executed final) := by
  cases hcourse with
  | openPath_refused errno hrest => exact (hfault _ _ _ _ hrest).elim
  | openPath descriptor file hfree hnew hrest =>
      have hne : descriptor ≠ direction.stream := by
        rintro rfl
        rw [hfree] at hstream
        cases hstream
      cases hrest with
      | duplicate_refused errno hrest =>
          cases hrest with
          | close hrest => exact (hfault _ _ _ _ hrest).elim
      | duplicate hslot hrest =>
          rw [Table.set_self] at hslot
          cases hslot
          cases hrest with
          | close hrest =>
              rw [if_neg hne, Table.close_set_set hfree hne.symm] at hrest
              exact ⟨file, _, hnew, rfl, hrest⟩

theorem course_wire_target (hfault : ∀ fault, Doomed isNew (next (.error fault)))
    (direction : Direction) {target : Option String} {file : FileId}
    (hstream : table direction.stream = some (.handedOn file))
    (hcourse : Course isNew table
      (wire ((target.map (Wiring.redirect direction)).toList ++ rest) next) openings
      (.executed final)) :
    ∃ opened others after, openings = opened ++ others ∧
      Redirects isNew direction target opened file after ∧
      Course isNew (table.set direction.stream (.handedOn after)) (wire rest next) others
        (.executed final) := by
  cases target with
  | none =>
      refine ⟨[], openings, file, rfl, rfl, ?_⟩
      rwa [Table.set_eq_self hstream]
  | some path =>
      obtain ⟨after, others, hnew, rfl, hrest⟩ := course_wire_redirect hfault hstream hcourse
      exact ⟨[_], others, after, rfl, ⟨hnew, List.mem_singleton_self _⟩, hrest⟩

theorem Redirects.mono {direction : Direction} {target : Option String} {without file : FileId}
    {before after : List Opening} (hsubset : before ⊆ after)
    (hredirects : Redirects isNew direction target before without file) :
    Redirects isNew direction target after without file := by
  cases target with
  | none => exact hredirects
  | some path => exact ⟨hredirects.1, hsubset hredirects.2⟩

/-- A file that is not new is behind a stream only if there is no redirection. -/
theorem Redirects.eq_iff {direction : Direction} {target : Option String}
    {without file old : FileId} (hold : ¬ isNew old)
    (hredirects : Redirects isNew direction target openings without file) :
    old = file ↔ target = none ∧ without = old := by
  cases target with
  | none =>
      obtain rfl : file = without := hredirects
      exact ⟨fun hsame => ⟨rfl, hsame.symm⟩, fun hsame => hsame.2.symm⟩
  | some path =>
      refine iff_of_false ?_ (fun hnone => nomatch hnone.1)
      rintro rfl
      exact hold hredirects.1

/-- What the wiring of a command leaves its program with. -/
theorem course_wire_wiring (hfault : ∀ fault, Doomed isNew (next (.error fault)))
    {pipes : List PipeEnds} {index : Nat} {command : Command}
    {stdin stdout : FileId} {input output : Slot}
    (hzero : 0 ∉ endsOf pipes) (hone : 1 ∉ endsOf pipes)
    (hstdin : table 0 = some (.handedOn stdin)) (hstdout : table 1 = some (.handedOn stdout))
    (hinput : table (inputSource pipes index) = some input)
    (houtput : table (outputSource pipes index) = some output)
    (hcourse : Course isNew table (wire (wiring pipes index command) next) openings
      (.executed final)) :
    ∃ first second opened others, openings = opened ++ others ∧
      Redirects isNew .input command.input opened input.file first ∧
      Redirects isNew .output command.output opened output.file second ∧
      Course isNew
        (((table.without (endsOf pipes)).set 0 (.handedOn first)).set 1 (.handedOn second))
        (next (.ok ())) others (.executed final) := by
  rw [wiring, takeInput_eq, takeOutput, redirects_eq, List.append_assoc, List.append_assoc]
    at hcourse
  -- the ends of the pipes, while all of them are open
  have htaken := course_wire_take hfault hstdin rfl hinput (fun ends hbefore =>
    ne_of_mem_of_not_mem (readEnd_mem_endsOf (mem_of_pipeBefore? hbefore)) hzero) hcourse
  have hsource : outputSource pipes index ≠ 0 := by
    rw [outputSource]
    cases hends : pipes[index]? with
    | none => exact Nat.one_ne_zero
    | some ends =>
        exact ne_of_mem_of_not_mem (writeEnd_mem_endsOf (List.mem_of_getElem? hends)) hzero
  have hwired := course_wire_closeAll <| course_wire_take hfault
    ((Table.set_of_ne Nat.one_ne_zero).trans hstdout) rfl
    ((Table.set_of_ne hsource).trans houtput)
    (fun ends hat =>
      ne_of_mem_of_not_mem (writeEnd_mem_endsOf (List.mem_of_getElem? hat)) hone) htaken
  rw [Table.set_without hone, Table.set_without hzero] at hwired
  -- the targets, over what the pipes have put there
  obtain ⟨opened, openings, first, rfl, hfirst, hrest⟩ := course_wire_target hfault
    .input ((Table.set_of_ne Nat.zero_ne_one).trans (Table.set_self ..)) hwired
  rw [← List.append_nil (Option.toList _)] at hrest
  obtain ⟨reopened, others, second, rfl, hsecond, hrest⟩ := course_wire_target hfault
    .output ((Table.set_of_ne Nat.one_ne_zero).trans (Table.set_self ..)) hrest
  refine ⟨first, second, opened ++ reopened, others, (List.append_assoc ..).symm,
    hfirst.mono (List.subset_append_left ..), hsecond.mono (List.subset_append_right ..), ?_⟩
  simp only [Direction.stream, Table.set_set_again Nat.zero_ne_one] at hrest
  exact hrest

end Wiring

/-- The program of a command finds the standard streams of the command in their place,
and otherwise what the shell hands on, less the pipes. -/
theorem course_childAction {isNew : FileId → Prop} {table final : Table}
    {openings : List Opening} {environment : Environment} {group : Option Pid}
    {pipes : List PipeEnds} {index : Nat} {command : Command} {stdin stdout : FileId}
    {input output : Slot} (hzero : 0 ∉ endsOf pipes) (hone : 1 ∉ endsOf pipes)
    (hstdin : table 0 = some (.handedOn stdin)) (hstdout : table 1 = some (.handedOn stdout))
    (hinput : table (inputSource pipes index) = some input)
    (houtput : table (outputSource pipes index) = some output)
    (hcourse : Course isNew table
      (childAction environment { group, wiring := wiring pipes index command, argv := command.argv }
        Behavior.exit)
      openings (.executed final)) :
    ∃ first second,
      Redirects isNew .input command.input openings input.file first ∧
      Redirects isNew .output command.output openings output.file second ∧
      final = (((table.without (endsOf pipes)).set 0 (.handedOn first)).set 1
        (.handedOn second)).onExecute := by
  have hfault : ∀ fault : Fault, Doomed isNew
      (Action.say Action.errors (report fault.message) fun _ => Behavior.exit 1) :=
    fun fault => doomed_say (doomed_exit 1) Action.errors _
  obtain ⟨first, second, opened, others, rfl, hfirst, hsecond, hrest⟩ :=
    course_wire_wiring hfault hzero hone hstdin hstdout hinput houtput hcourse
  have hbegins : others = [] ∧ final = (((table.without (endsOf pipes)).set 0
      (.handedOn first)).set 1 (.handedOn second)).onExecute := by
    refine handsOver_executeProgram (fun errno => ?_) environment _ _ _ _ hrest
    cases errno with
    | noEntry => exact (doomed_say (doomed_exit 127) Action.errors _).handsOver
    | _ => exact (doomed_say (doomed_exit 126) Action.errors _).handsOver
  obtain ⟨rfl, hfinal⟩ := hbegins
  rw [List.append_nil]
  exact ⟨first, second, hfirst, hsecond, hfinal⟩

end JobShell.Machine
