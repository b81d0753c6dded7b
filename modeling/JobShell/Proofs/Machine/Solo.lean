import JobShell.Proofs.Machine.Launching
import JobShell.Proofs.Machine.Printing

/-!
# A process by itself

A machine gives its processes turns.  If all others have to wait, the one that has been
started last makes its calls one after the other, until it has to wait as well or the
machine is to stop.  What happens meanwhile can be told from the calls alone.
-/

namespace JobShell.Machine

/-! ## The newest process -/

/-- The machine with one more process. -/
def beside (machine : Machine) (member : Member) : Machine :=
  { machine with members := machine.members ++ [member], nextPid := machine.nextPid + 1 }

/-- Neither the shell nor another process has the number. -/
structure Unused (machine : Machine) (pid : Pid) : Prop where
  shell : machine.shell.pid ≠ pid
  members : ∀ member ∈ machine.members, member.pid ≠ pid

section Beside

variable {machine : Machine} {member moved : Member}

theorem find?_beside (hunused : machine.Unused member.pid) :
    (machine.beside member).members.find? (fun other => other.pid = member.pid) =
      some member := by
  have hothers : machine.members.find? (fun other => other.pid = member.pid) = none := by
    simpa using hunused.members
  simp [beside, hothers]

theorem update_beside (hunused : machine.Unused member.pid) (hpid : moved.pid = member.pid) :
    (machine.beside member).update moved = machine.beside moved := by
  have hothers : (machine.members.map fun other =>
      if other.pid = member.pid then moved else other) = machine.members :=
    (List.map_congr_left fun other hother => if_neg (hunused.members other hother)).trans
      (List.map_id _)
  simp [update, beside, hunused.shell.symm, hothers, hpid]

theorem proceed_beside (hunused : machine.Unused member.pid) (hpid : moved.pid = member.pid)
    (next : Behavior) :
    (machine.beside member).proceed moved next =
      machine.beside { moved with activity := .ready next } :=
  update_beside hunused hpid

/-- The end of a child of the shell is noted. -/
theorem finish_beside (hunused : machine.Unused member.pid)
    (hparent : member.identity.parent = machine.shell.pid) (status : WaitStatus) :
    (machine.beside member).finish member status =
      (machine.noteSignal .child).beside
        { member with descriptors := [], activity := .ended status } := by
  have hended : (machine.beside member).update
        { member with descriptors := [], activity := .ended status } =
      machine.beside { member with descriptors := [], activity := .ended status } :=
    update_beside hunused rfl
  simp only [finish, tellParent, hended, hparent]
  exact if_pos rfl

end Beside

/-! ## Waiting beside the newest process -/

section Waiting

variable {machine : Machine} {member other : Member} {recorder : Recorder}

theorem isHeld_beside {target : Target} (hheld : machine.isHeld target) :
    isHeld { machine.beside member with recorder } target := by
  obtain ⟨holder, hholder, hany⟩ := List.any_eq_true.mp hheld
  refine List.any_eq_true.mpr ⟨holder, ?_, hany⟩
  rcases List.mem_cons.mp hholder with hshell | hmember
  · exact List.mem_cons.mpr (.inl hshell)
  · exact List.mem_cons_of_mem _ (List.mem_append_left _ hmember)

theorem readFrom_beside_of_waits {source : Descriptor} {count : Nat}
    (hwaits : machine.readFrom other source count = none) :
    readFrom { machine.beside member with recorder } other source count = none := by
  have hopen : openFile? { machine.beside member with recorder } other source =
      machine.openFile? other source := rfl
  simp only [readFrom, hopen] at hwaits ⊢
  cases hfile : machine.openFile? other source with
  | none => simp [hfile] at hwaits
  | some found =>
      obtain ⟨id, file⟩ := found
      simp only [hfile] at hwaits ⊢
      split at hwaits
      · cases hwaits
      · next hreads =>
          rw [if_neg hreads]
          cases htarget : file.target with
          | node inode =>
              simp only [htarget] at hwaits
              split at hwaits <;> cases hwaits
          | pipeWriter pipe => simp [htarget] at hwaits
          | pipeReader pipe =>
              simp only [htarget] at hwaits ⊢
              split at hwaits
              · next hempty =>
                  split at hwaits
                  · next hheld => exact (if_pos hempty).trans (if_pos (isHeld_beside hheld))
                  · cases hwaits
              · cases hwaits

theorem writeTo_beside_of_waits {target : Descriptor} {bytes : Bytes}
    (hwaits : machine.writeTo other target bytes = none) :
    writeTo { machine.beside member with recorder } other target bytes = none := by
  have hopen : openFile? { machine.beside member with recorder } other target =
      machine.openFile? other target := rfl
  simp only [writeTo, hopen] at hwaits ⊢
  cases hfile : machine.openFile? other target with
  | none => simp [hfile] at hwaits
  | some found =>
      obtain ⟨id, file⟩ := found
      simp only [hfile] at hwaits ⊢
      split at hwaits
      · cases hwaits
      · next hwrites =>
          rw [if_neg hwrites]
          cases htarget : file.target with
          | node inode =>
              simp only [htarget] at hwaits
              split at hwaits <;> cases hwaits
          | pipeReader pipe => simp [htarget] at hwaits
          | pipeWriter pipe =>
              simp only [htarget] at hwaits ⊢
              split at hwaits
              · cases hwaits
              · next hheld =>
                  have hstill : machine.isHeld (.pipeReader pipe) = true := by simpa using hheld
                  split at hwaits
                  · next hfull =>
                      have hbeside : isHeld { machine.beside member with recorder }
                          (.pipeReader pipe) = true := isHeld_beside hstill
                      exact (if_neg (by simp [hbeside])).trans (if_pos hfull)
                  · cases hwaits

theorem fst_askFor_beside (hparent : member.identity.parent ≠ other.pid) (pid : Pid) :
    (askFor { machine.beside member with recorder } other.identity pid).1 =
      (machine.askFor other.identity pid).1 := by
  have hparent : ¬ member.identity.parent = other.identity.pid := hparent
  have hchildren : children { machine.beside member with recorder } other.identity pid =
      machine.children other.identity pid := by
    simp [children, beside, hparent]
  simp only [askFor, hchildren]
  split
  · rfl
  · split
    · rfl
    · split
      · rfl
      · split <;> rfl

/-- A process that has to wait still does when another process has been started, of which it
is not the parent. -/
theorem step_beside_of_waits (hwaits : machine.step other = none)
    (hparent : member.identity.parent ≠ other.pid) :
    step { machine.beside member with recorder } other = none := by
  simp only [step] at hwaits ⊢
  cases hactivity : other.activity with
  | ended status => rfl
  | sleeping time next =>
      rw [hactivity] at hwaits
      dsimp only at hwaits ⊢
      split at hwaits
      · cases hwaits
      · next hearly => exact if_neg hearly
  | ready behavior =>
      rw [hactivity] at hwaits
      dsimp only at hwaits ⊢
      cases behavior with
      | read source count next =>
          simp only [call, interrupt] at hwaits ⊢
          split at hwaits
          · cases hwaits
          · next hread =>
              rw [readFrom_beside_of_waits hread]
              split at hwaits
              · next hpending => exact if_pos hpending
              · cases hwaits
      | write target bytes next =>
          rw [call, Option.map_eq_none_iff] at hwaits
          exact Option.map_eq_none_iff.mpr (writeTo_beside_of_waits hwaits)
      | wait pid blocks next =>
          have hanswer : (askFor { machine.beside member with recorder } other.identity pid).1 =
              (machine.askFor other.identity pid).1 := fst_askFor_beside hparent pid
          simp only [call, interrupt] at hwaits ⊢
          split at hwaits
          · next halive =>
              rcases hasked : askFor { machine.beside member with recorder } other.identity pid with
                ⟨answer, asked⟩
              rw [hasked, halive] at hanswer
              obtain rfl : answer = .ok .alive := hanswer
              split at hwaits
              · next hblocks =>
                  split at hwaits
                  · next hpending => exact (if_pos hblocks).trans (if_pos hpending)
                  · cases hwaits
              · cases hwaits
          · cases hwaits
      | _ =>
        simp only [call] at hwaits
        repeat' split at hwaits
        all_goals cases hwaits

end Waiting

/-! ## Calls in a row -/

/-- A process makes calls one after the other, none of them where the machine is to stop. -/
inductive MakesUntil (stop : Machine → Bool) (pid : Pid) :
    Machine → List Behavior → Machine → Prop where
  | nothing {machine} : MakesUntil stop pid machine [] machine
  | call {machine next after member behavior calls} (hstop : stop machine = false)
      (hmember : machine.members.find? (fun member => member.pid = pid) = some member)
      (hready : member.activity = .ready behavior)
      (hcall : machine.call member behavior = some next)
      (hrest : MakesUntil stop pid next calls after) :
      MakesUntil stop pid machine (behavior :: calls) after

abbrev Makes : Pid → Machine → List Behavior → Machine → Prop :=
  MakesUntil fun _ => false

section Turns

variable {stop : Machine → Bool} {pid : Pid} {machine between after : Machine} {member : Member}
  {calls later : List Behavior}

theorem MakesUntil.append (hmakes : MakesUntil stop pid machine calls between)
    (hlater : MakesUntil stop pid between later after) :
    MakesUntil stop pid machine (calls ++ later) after := by
  induction hmakes with
  | nothing => exact hlater
  | call hstop hmember hready hcall _ ih => exact .call hstop hmember hready hcall (ih hlater)

/-- The newest process makes one call. -/
theorem MakesUntil.beside {behavior : Behavior} (hpid : member.pid = pid)
    (hunused : machine.Unused pid) (hstop : stop (machine.beside member) = false)
    (hready : member.activity = .ready behavior)
    (hcall : (machine.beside member).call member behavior = some after) :
    MakesUntil stop pid (machine.beside member) [behavior] after := by
  subst hpid
  exact .call hstop (find?_beside hunused) hready hcall .nothing

theorem turn_of_stop (hstop : stop machine = true) (steps : Nat) :
    turn stop pid steps machine = (true, machine) := by
  cases steps <;> simp [turn, hstop]

/-- In its turn a process makes the calls that lead to a stop. -/
theorem turn_of_makes (hmakes : MakesUntil stop pid machine calls after)
    (hafter : stop after = true) {steps : Nat} (hsteps : calls.length ≤ steps) :
    turn stop pid steps machine = (true, after) := by
  induction hmakes generalizing steps with
  | nothing => exact turn_of_stop hafter steps
  | call hstop hmember hready hcall _ ih =>
      obtain ⟨steps, rfl⟩ := Nat.exists_eq_add_of_le' (Nat.lt_of_lt_of_le (Nat.succ_pos _) hsteps)
      have hrest := ih hafter (Nat.le_of_succ_le_succ hsteps)
      simp [turn, hstop, hmember, step, hready, hcall, hrest]

theorem turn_of_waits (hstop : stop machine = false)
    (hmember : machine.members.find? (fun member => member.pid = pid) = some member)
    (hwaits : machine.step member = none) (steps : Nat) :
    turn stop pid (steps + 1) machine = (false, machine) := by
  simp [turn, hstop, hmember, hwaits]

/-- Of a round no more is left than the last turn, if all others have to wait. -/
theorem round_of_waits {pids : List Pid}
    (hwaits : ∀ other ∈ pids, turn stop other turnLength machine = (false, machine)) :
    round stop (pids ++ [pid]) machine = turn stop pid turnLength machine := by
  induction pids with
  | nil => simp [round]
  | cons first rest ih =>
      rw [List.forall_mem_cons] at hwaits
      simp [round, hwaits.1, ih hwaits.2]

/-- A machine runs until the newest process has led it to a stop. -/
theorem runUntil_of_makes
    (hothers : ∀ other ∈ machine.members, (machine.beside member).step other = none)
    (hmakes : MakesUntil stop member.pid (machine.beside member) calls after)
    (hlength : calls.length ≤ turnLength) (hstop : stop (machine.beside member) = false)
    (hafter : stop after = true) {rounds : Nat} (hrounds : 2 ≤ rounds) :
    (machine.beside member).runUntil stop rounds = after := by
  obtain ⟨rounds, rfl⟩ := Nat.exists_eq_add_of_le' hrounds
  have hwaits : ∀ other ∈ machine.members.map Member.pid,
      turn stop other turnLength (machine.beside member) = (false, machine.beside member) := by
    intro pid hpid
    obtain ⟨other, hother, rfl⟩ := List.mem_map.mp hpid
    obtain ⟨found, hfound⟩ : ∃ found, machine.members.find? (fun member => member.pid = other.pid) =
        some found :=
      Option.isSome_iff_exists.mp (List.find?_isSome.mpr ⟨other, hother, by simp⟩)
    have hbeside : (machine.beside member).members.find? (fun member => member.pid = other.pid) =
        some found := by
      simp [Machine.beside, hfound]
    exact turn_of_waits hstop hbeside (hothers found (List.mem_of_find?_eq_some hfound)) 31
  have hround : round stop ((machine.beside member).members.map Member.pid)
      (machine.beside member) = (true, after) := by
    rw [Machine.beside, List.map_append, List.map_singleton]
    exact (round_of_waits hwaits).trans (turn_of_makes hmakes hafter hlength)
  simp [runUntil, hstop, hround, hafter]

end Turns

/-! ## Calls of the newest process -/

section Calls

variable {machine : Machine} {member : Member}

theorem call_openPath_refused {path : Bytes} {mode : OpenMode} {permissions : Nat}
    {next : Except Errno Descriptor → Behavior} {errno : Errno}
    (hunused : machine.Unused member.pid)
    (hrefused : machine.destination member path mode permissions = .error errno) :
    (machine.beside member).call member (.openPath path mode permissions next) =
      some (machine.beside { member with activity := .ready (next (.error errno)) }) := by
  have hbeside : (machine.beside member).destination member path mode permissions = _ := hrefused
  simp only [call, Machine.openPath, hbeside]
  exact congrArg some (proceed_beside hunused rfl _)

/-- The machine when a file has been opened. -/
def withOpened (machine : Machine) (files : Files) (file : OpenFile) : Machine :=
  { machine with files, opened := machine.opened.push file }

theorem call_openPath {path : Bytes} {mode : OpenMode} {permissions : Nat}
    {next : Except Errno Descriptor → Behavior} {target : Target} {files : Files}
    (hunused : machine.Unused member.pid)
    (hfound : machine.destination member path mode permissions = .ok (target, files)) :
    (machine.beside member).call member (.openPath path mode permissions next) =
      some ((machine.withOpened files { target, mode }).beside
        { member with
          descriptors := member.descriptors.set member.descriptors.free
            { file := machine.opened.size }
          activity := .ready (next (.ok member.descriptors.free)) }) := by
  let slot : Slot := { file := machine.opened.size }
  let moved : Member :=
    { member with descriptors := member.descriptors.set member.descriptors.free slot }
  have hopened : (machine.withOpened files { target, mode }).Unused member.pid :=
    ⟨hunused.shell, hunused.members⟩
  have hmoved : moved.pid = member.pid := rfl
  have hproceeds := proceed_beside hopened hmoved (next (.ok member.descriptors.free))
  have hbeside : (machine.beside member).destination member path mode permissions = _ := hfound
  simp only [call, Machine.openPath, hbeside]
  exact congrArg some hproceeds

theorem call_duplicate {source target : Descriptor} {next : Except Errno Unit → Behavior}
    {slot : Slot} (hunused : machine.Unused member.pid)
    (hslot : member.descriptors.get? source = some slot) :
    (machine.beside member).call member (.duplicate source target next) =
      some (machine.beside
        { member with
          descriptors := member.descriptors.set target
            (if source = target then slot else { slot with closesOnExecute := false })
          activity := .ready (next (.ok ())) }) := by
  simp only [call, hslot]
  exact congrArg some (update_beside hunused rfl)

theorem call_close {descriptor : Descriptor} {next : Behavior}
    (hunused : machine.Unused member.pid) :
    (machine.beside member).call member (.close descriptor next) =
      some (machine.beside
        { member with
          descriptors := member.descriptors.close descriptor, activity := .ready next }) :=
  congrArg some (update_beside hunused rfl)

/-- What the shell writes to the descriptor goes to no pipe. -/
def Unpiped (machine : Machine) (descriptor : Descriptor) : Prop :=
  ∀ slot, machine.shell.descriptors.get? descriptor = some slot →
    ∃ file, machine.opened[slot.file]? = some file ∧ ∀ pipe, file.target ≠ .pipeWriter pipe

/-- What the newest process writes is what the shell would write, if the descriptor is the
same and leads to no pipe. -/
theorem writeTo_beside {target : Descriptor}
    (hsame : member.descriptors.get? target = machine.shell.descriptors.get? target)
    (hunpiped : machine.Unpiped target) (bytes : Bytes) :
    ∃ answer written, machine.writeTo machine.shell target bytes = some (answer, written) ∧
      (machine.beside member).writeTo member target bytes =
        some (answer, written.beside member) ∧
      answer ≠ .error .brokenPipe ∧ ∀ count, answer = .ok count → count = bytes.length := by
  have hopen : (machine.beside member).openFile? member target =
      machine.openFile? machine.shell target := by
    simp only [openFile?, hsame]
    rfl
  simp only [writeTo, hopen]
  cases hslot : machine.shell.descriptors.get? target with
  | none =>
      have hclosed : machine.openFile? machine.shell target = none := by simp [openFile?, hslot]
      rw [hclosed]
      exact ⟨_, _, rfl, rfl, by simp, by simp⟩
  | some slot =>
      obtain ⟨file, hfile, hpipe⟩ := hunpiped slot hslot
      have hopened : machine.openFile? machine.shell target = some (slot.file, file) := by
        simp [openFile?, hslot, hfile]
      rw [hopened]
      dsimp only
      split
      · exact ⟨_, _, rfl, rfl, by simp, by simp⟩
      · cases htarget : file.target with
        | node inode =>
            dsimp only
            by_cases hfull : machine.files.isFull inode
            · exact ⟨_, _, if_pos hfull, if_pos hfull, by simp, by simp⟩
            · refine ⟨_, _, if_neg hfull, if_neg hfull, by simp, ?_⟩
              rintro count ⟨⟩
              rfl
        | pipeReader pipe => exact ⟨_, _, rfl, rfl, by simp, by simp⟩
        | pipeWriter pipe => exact absurd htarget (hpipe pipe)

theorem call_write (target : Descriptor) (bytes : Bytes) (next : Except Errno Nat → Behavior)
    (hunused : machine.Unused member.pid)
    (hsame : member.descriptors.get? target = machine.shell.descriptors.get? target)
    (hunpiped : machine.Unpiped target) :
    ∃ answer : Except Errno Nat, (∀ count, answer = .ok count → count = bytes.length) ∧
      (machine.beside member).call member (.write target bytes next) =
        some ((machine.print target bytes).2.beside
          { member with activity := .ready (next answer) }) := by
  obtain ⟨answer, written, hwrite, hbeside, hheard, hcount⟩ := writeTo_beside hsame hunpiped bytes
  obtain ⟨hmembers, hshell⟩ := writeTo_members hwrite
  have hwritten : written.Unused member.pid :=
    ⟨hshell ▸ hunused.shell, hmembers ▸ hunused.members⟩
  have hproceeds := proceed_beside hwritten rfl (next answer)
  have hprinted : (machine.print target bytes).2 = written := by
    rw [print, hwrite]
    split
    all_goals simp_all
  refine ⟨answer, hcount, ?_⟩
  rw [hprinted, ← hproceeds]
  simp only [call, hbeside, Option.map_some]

end Calls

end JobShell.Machine
