import JobShell.Proofs.Machine.Solo

/-!
# Opening redirection targets

A builtin's targets are opened by the shell, a program's by the process that is to become
it.  Both stop at the first target that cannot be used.  The process opens what the shell
would open, in the same order and with the same answers, and leaves the same files; if it
fails, it reports what the shell would report and ends with status one, without having
become a program.

What a path leads to depends on the files and on the directory and mask that the process
has from the shell.  Some paths, `/dev/stdin` for one, lead to what the process has under a
descriptor.  The process replaces its standard input before it opens the second target and
the shell does not, so such a path must not come second.
-/

namespace JobShell

/-- The targets that are tried: all up to the first that cannot be used. -/
def Kernel.attempts {σ : Type} (kernel : Kernel σ) :
    List (Direction × String) → σ → List (Direction × String)
  | [], _ => []
  | (direction, path) :: rest, state =>
      (direction, path) ::
        match kernel.openTarget direction (Text.encode path) state with
        | (.error _, _) => []
        | (.ok (), state) => kernel.attempts rest state

namespace Machine

/-- What a call does that others can see before a program begins: it opens a file by its
path, or tries to become the program. -/
inductive Deed where
  | opens (path : Bytes) (mode : OpenMode) (permissions : Nat)
  | executes (path : Bytes)
  deriving DecidableEq, Repr

def Behavior.deed? : Behavior → Option Deed
  | .openPath path mode permissions _ => some (.opens path mode permissions)
  | .execute path _ _ _ => some (.executes path)
  | _ => none

def Deed.ofTarget (target : Direction × String) : Deed :=
  .opens (Text.encode target.2) target.1.openMode redirectPermissions

/-- The wiring of a process that only redirects. -/
def redirects (targets : List (Direction × String)) : List Launch.Wiring :=
  targets.map fun target => .redirect target.1 target.2

/-! ## One target -/

/-- The descriptor that a file is opened under is closed again, so that no other one than
the standard stream has changed. -/
theorem Table.redirected {table : Table} {descriptor stream other : Descriptor}
    (hfree : table descriptor = none) (hother : other ≠ stream) (first second : Slot) :
    ((table.set descriptor first).set stream second).close descriptor other = table other := by
  by_cases hsame : other = descriptor
  · rw [hsame, close_self, hfree]
  · rw [close_of_ne hsame, set_of_ne hother, set_of_ne hsame]

/-- A process that has been started has from the shell what opening a target and reporting
a failure depend on. -/
structure Inherits (machine : Machine) (member : Member) : Prop where
  unused : machine.Unused member.pid
  parent : member.identity.parent = machine.shell.pid
  directory : member.directory = machine.shell.directory
  mask : member.mask = machine.shell.mask
  errors : member.descriptors.get? Action.errors = machine.shell.descriptors.get? Action.errors

theorem Inherits.ready {machine : Machine} {member : Member} (hinherits : machine.Inherits member)
    (behavior : Behavior) : machine.Inherits { member with activity := .ready behavior } :=
  ⟨hinherits.unused, hinherits.parent, hinherits.directory, hinherits.mask, hinherits.errors⟩

/-- By some calls the process comes to a behavior, and the machine to another state. -/
structure Comes (stop : Machine → Bool) (machine : Machine) (member : Member)
    (calls : List Behavior) (behavior : Behavior) (after : Machine) (moved : Member) : Prop where
  inherits : after.Inherits moved
  pid : moved.pid = member.pid
  ready : moved.activity = .ready behavior
  makes : MakesUntil stop member.pid (machine.beside member) calls (after.beside moved)

theorem Comes.trans {stop : Machine → Bool} {machine between after : Machine}
    {member moved last : Member} {calls later : List Behavior} {behavior final : Behavior}
    (hcomes : Comes stop machine member calls behavior between moved)
    (hlater : Comes stop between moved later final after last) :
    Comes stop machine member (calls ++ later) final after last where
  inherits := hlater.inherits
  pid := hlater.pid.trans hcomes.pid
  ready := hlater.ready
  makes := hcomes.makes.append (hcomes.pid ▸ hlater.makes)

/-- Where a target leads when the shell opens it, and the files then. -/
def openedBy (machine : Machine) (direction : Direction) (path : String) :
    Except Errno (Target × Files) :=
  machine.destination machine.shell (Text.encode path) direction.openMode redirectPermissions

/-- The descriptor that a target leads to, if opening it opens once more what the process
has there. -/
def borrowed? (machine : Machine) (direction : Direction) (path : String) : Option Descriptor :=
  let granted := redirectPermissions - (redirectPermissions &&& machine.shell.mask)
  match machine.files.openPath machine.shell.directory (Text.encode path) direction.openMode
      granted with
  | .ok (inode, files) =>
      match files.content? inode with
      | some (.device (.descriptor descriptor)) => some descriptor
      | _ => none
  | .error _ => none

/-- A process opens what the shell would open, if the two agree on the descriptor that the
target leads to. -/
theorem destination_eq_openedBy {machine : Machine} {member : Member} {direction : Direction}
    {path : String} (hdirectory : member.directory = machine.shell.directory)
    (hmask : member.mask = machine.shell.mask)
    (hsame : ∀ descriptor, machine.borrowed? direction path = some descriptor →
      member.descriptors.get? descriptor = machine.shell.descriptors.get? descriptor) :
    machine.destination member (Text.encode path) direction.openMode redirectPermissions =
      machine.openedBy direction path := by
  simp only [borrowed?] at hsame
  simp only [openedBy, destination, hdirectory, hmask]
  split
  · rfl
  · next inode files hfiles =>
      rw [hfiles] at hsame
      dsimp only at hsame
      split
      · next descriptor hcontent =>
          rw [hcontent] at hsame
          simp only [destinationBehind, openFile?, hsame descriptor rfl]
      · rfl

section Target

variable {stop : Machine → Bool} {machine : Machine} {member : Member} {direction : Direction}
  {path : String} {rest : List (Direction × String)} {next : Except Fault Unit → Behavior}

theorem openTarget_of_error {errno : Errno}
    (hfiles : machine.openedBy direction path = .error errno) :
    machine.openTarget direction (Text.encode path) = (.error errno, machine) := by
  rw [openedBy] at hfiles
  simp only [openTarget, Machine.openPath, hfiles]
  rfl

/-- The machine when a target has been opened. -/
def withTarget (machine : Machine) (direction : Direction) (found : Target × Files) : Machine :=
  machine.withOpened found.2 { target := found.1, mode := direction.openMode }

theorem openTarget_of_ok {found : Target × Files}
    (hfiles : machine.openedBy direction path = .ok found) :
    machine.openTarget direction (Text.encode path) =
      (.ok (), machine.withTarget direction found) := by
  rw [openedBy] at hfiles
  simp only [openTarget, Machine.openPath, hfiles]
  rfl

theorem openTargets_of_error {account : Account} {errno : Errno}
    (hfiles : machine.openedBy direction path = .error errno) :
    (kernel account).openTargets ((direction, path) :: rest) machine =
      (.error (.resource (Text.encode path) errno), machine) := by
  have hrefused : (kernel account).openTarget direction (Text.encode path) machine = _ :=
    openTarget_of_error hfiles
  rw [Kernel.openTargets, hrefused]

theorem openTargets_of_ok {account : Account} {found : Target × Files}
    (hfiles : machine.openedBy direction path = .ok found) :
    (kernel account).openTargets ((direction, path) :: rest) machine =
      (kernel account).openTargets rest (machine.withTarget direction found) := by
  have hopened : (kernel account).openTarget direction (Text.encode path) machine = _ :=
    openTarget_of_ok hfiles
  rw [Kernel.openTargets, hopened]

theorem attempts_of_error {account : Account} {errno : Errno}
    (hfiles : machine.openedBy direction path = .error errno) :
    (kernel account).attempts ((direction, path) :: rest) machine = [(direction, path)] := by
  have hrefused : (kernel account).openTarget direction (Text.encode path) machine = _ :=
    openTarget_of_error hfiles
  rw [Kernel.attempts, hrefused]

theorem attempts_of_ok {account : Account} {found : Target × Files}
    (hfiles : machine.openedBy direction path = .ok found) :
    (kernel account).attempts ((direction, path) :: rest) machine =
      (direction, path) :: (kernel account).attempts rest (machine.withTarget direction found) := by
  have hopened : (kernel account).openTarget direction (Text.encode path) machine = _ :=
    openTarget_of_ok hfiles
  rw [Kernel.attempts, hopened]

theorem comes_of_error {errno : Errno} (hinherits : machine.Inherits member)
    (hstop : stop (machine.beside member) = false)
    (hready : member.activity = .ready (wire (redirects ((direction, path) :: rest)) next))
    (hfound : machine.destination member (Text.encode path) direction.openMode
      redirectPermissions = .error errno) :
    ∃ calls moved, calls.filterMap Behavior.deed? = [.ofTarget (direction, path)] ∧
      calls.length = 1 ∧
      Comes stop machine member calls (next (.error (.resource (Text.encode path) errno))) machine
        moved := by
  have hmoved := hinherits.ready (next (.error (.resource (Text.encode path) errno)))
  exact ⟨_, _, rfl, rfl, hmoved, rfl, rfl,
    .beside rfl hinherits.unused hstop hready (call_openPath_refused hinherits.unused hfound)⟩

/-- What is left to do when a file has been put in the place of a standard stream. -/
def closing (descriptor : Descriptor) (rest : List (Direction × String))
    (next : Except Fault Unit → Behavior) (answer : Except Errno Unit) : Behavior :=
  .close descriptor ((match answer with
    | .ok () => wire (redirects rest)
    | .error errno => pure (.error (.launch "cannot redirect descriptor" errno))) next)

/-- The process when a new open file has been put in the place of a standard stream. -/
def Member.redirected (member : Member) (direction : Direction) (file : FileId)
    (behavior : Behavior) : Member :=
  let descriptor := member.descriptors.free
  let slot : Slot :=
    if descriptor = direction.stream then { file } else { file, closesOnExecute := false }
  let descriptors := (member.descriptors.set descriptor { file }).set direction.stream slot
  { member with descriptors := descriptors.close descriptor, activity := .ready behavior }

/-- No other descriptor has changed. -/
theorem get?_redirected_of_ne (member : Member) {other : Descriptor}
    (hother : other ≠ direction.stream) (file : FileId) (behavior : Behavior) :
    (member.redirected direction file behavior).descriptors.get? other =
      member.descriptors.get? other := by
  change Descriptors.toTable _ other = member.descriptors.toTable other
  rw [Member.redirected, Descriptors.toTable_close, Descriptors.toTable_set,
    Descriptors.toTable_set]
  exact Table.redirected (Descriptors.toTable_free _) hother _ _

/-- Three calls put a file in the place of a standard stream. -/
theorem comes_of_ok {found : Target × Files} (hinherits : machine.Inherits member)
    (hstop : ∀ after : Machine, after.recorder = machine.recorder → stop after = false)
    (hready : member.activity = .ready (wire (redirects ((direction, path) :: rest)) next))
    (hfound : machine.destination member (Text.encode path) direction.openMode
      redirectPermissions = .ok found) :
    ∃ calls, calls.filterMap Behavior.deed? = [.ofTarget (direction, path)] ∧
      calls.length = 3 ∧
      Comes stop machine member calls (wire (redirects rest) next)
        (machine.withTarget direction found)
        (member.redirected direction machine.opened.size (wire (redirects rest) next)) := by
  let opened := machine.withTarget direction found
  have hunused : opened.Unused member.pid := ⟨hinherits.unused.shell, hinherits.unused.members⟩
  let descriptor := member.descriptors.free
  let slot : Slot := { file := machine.opened.size }
  let standard : Slot :=
    if descriptor = direction.stream then slot else { slot with closesOnExecute := false }
  let first : Member :=
    { member with
      descriptors := member.descriptors.set descriptor slot
      activity := .ready (.duplicate descriptor direction.stream (closing descriptor rest next)) }
  let second : Member :=
    { member with
      descriptors := first.descriptors.set direction.stream standard
      activity := .ready (closing descriptor rest next (.ok ())) }
  let third := member.redirected direction machine.opened.size (wire (redirects rest) next)
  have hslot : first.descriptors.get? descriptor = some slot := by
    change first.descriptors.toTable descriptor = _
    rw [Descriptors.toTable_set, Table.set_self]
  have hopen : MakesUntil stop member.pid (machine.beside member) [_] (opened.beside first) :=
    .beside rfl hinherits.unused (hstop _ rfl) hready (call_openPath hinherits.unused hfound)
  have hduplicate : MakesUntil stop member.pid (opened.beside first) [_] (opened.beside second) :=
    .beside rfl hunused (hstop _ rfl) rfl (call_duplicate hunused hslot)
  have hclose : MakesUntil stop member.pid (opened.beside second) [_] (opened.beside third) :=
    .beside rfl hunused (hstop _ rfl) rfl (call_close hunused)
  have herrors : Action.errors ≠ direction.stream := by cases direction <;> decide
  have hthird : opened.Inherits third :=
    ⟨hunused, hinherits.parent, hinherits.directory, hinherits.mask,
      (get?_redirected_of_ne member herrors _ _).trans hinherits.errors⟩
  exact ⟨_, rfl, rfl, hthird, rfl, rfl, hopen.append (hduplicate.append hclose)⟩

end Target

/-! ## All targets -/

/-- Files have been opened, and nothing else has changed than what that does to them. -/
structure Opened (before after : Machine) : Prop where
  frame : after = { before with files := after.files, opened := after.opened }
  opened : ∀ (id : FileId) file, before.opened[id]? = some file → after.opened[id]? = some file

theorem Opened.recorder {before after : Machine} (hopened : before.Opened after) :
    after.recorder = before.recorder := by
  rw [hopened.frame]

theorem Opened.refl (machine : Machine) : machine.Opened machine :=
  ⟨rfl, fun _ _ hfile => hfile⟩

theorem Opened.trans {before between after : Machine} (hearlier : before.Opened between)
    (hlater : between.Opened after) : before.Opened after where
  frame := by
    rw [hlater.frame, hearlier.frame]
  opened id file hfile := hlater.opened id file (hearlier.opened id file hfile)

theorem opened_withOpened (machine : Machine) (files : Files) (file : OpenFile) :
    machine.Opened (machine.withOpened files file) where
  frame := rfl
  opened id other hother := by
    obtain ⟨hid, -⟩ := Array.getElem?_eq_some_iff.mp hother
    rw [withOpened, Array.getElem?_push_lt hid, ← hother, Array.getElem?_eq_getElem hid]

theorem opened_openTargets (account : Account) (targets : List (Direction × String))
    (machine : Machine) : machine.Opened ((kernel account).openTargets targets machine).2 := by
  induction targets generalizing machine with
  | nil => exact .refl machine
  | cons target rest ih =>
      obtain ⟨direction, path⟩ := target
      cases hfiles : machine.openedBy direction path with
      | error errno =>
          rw [openTargets_of_error hfiles]
          exact .refl machine
      | ok found =>
          rw [openTargets_of_ok hfiles]
          exact (machine.opened_withOpened _ _).trans (ih _)

theorem attempts_of_openTargets {account : Account} {targets : List (Direction × String)}
    {machine opened : Machine}
    (hopen : (kernel account).openTargets targets machine = (.ok (), opened)) :
    (kernel account).attempts targets machine = targets := by
  induction targets generalizing machine with
  | nil => rfl
  | cons target rest ih =>
      obtain ⟨direction, path⟩ := target
      cases hfiles : machine.openedBy direction path with
      | error errno =>
          rw [openTargets_of_error hfiles] at hopen
          cases hopen
      | ok found =>
          rw [openTargets_of_ok hfiles] at hopen
          rw [attempts_of_ok hfiles, ih hopen]

/-- The first target that cannot be used is the fault, and those before it have been
opened. -/
theorem openTargets_eq_error {account : Account} {targets : List (Direction × String)}
    {machine opened : Machine} {fault : Fault}
    (hopen : (kernel account).openTargets targets machine = (.error fault, opened)) :
    ∃ before failed after errno, targets = before ++ failed :: after ∧
      (kernel account).attempts targets machine = before ++ [failed] ∧
      (kernel account).openTargets before machine = (.ok (), opened) ∧
      opened.openTarget failed.1 (Text.encode failed.2) = (.error errno, opened) ∧
      fault = .resource (Text.encode failed.2) errno := by
  induction targets generalizing machine with
  | nil => cases hopen
  | cons target rest ih =>
      obtain ⟨direction, path⟩ := target
      cases hfiles : machine.openedBy direction path with
      | error errno =>
          rw [openTargets_of_error hfiles] at hopen
          cases hopen
          exact ⟨[], (direction, path), rest, errno, rfl, attempts_of_error hfiles, rfl,
            openTarget_of_error hfiles, rfl⟩
      | ok found =>
          rw [openTargets_of_ok hfiles] at hopen
          obtain ⟨before, failed, after, errno, rfl, hattempts, hbefore, hfailed, hfault⟩ :=
            ih hopen
          refine ⟨(direction, path) :: before, failed, after, errno, rfl, ?_, ?_, hfailed, hfault⟩
          · rw [attempts_of_ok hfiles, hattempts]
            rfl
          · rw [openTargets_of_ok hfiles, hbefore]

/-- What the recorder holds does not matter. -/
theorem openTargets_recorder (account : Account) (targets : List (Direction × String))
    (machine : Machine) (recorder : Recorder) :
    (kernel account).openTargets targets { machine with recorder } =
      (((kernel account).openTargets targets machine).1,
        { ((kernel account).openTargets targets machine).2 with recorder }) := by
  induction targets generalizing machine with
  | nil => rfl
  | cons target rest ih =>
      obtain ⟨direction, path⟩ := target
      have hsame : openedBy { machine with recorder } direction path =
          machine.openedBy direction path := rfl
      cases hfiles : machine.openedBy direction path with
      | error errno =>
          rw [openTargets_of_error hfiles, openTargets_of_error (hsame.trans hfiles)]
      | ok found =>
          rw [openTargets_of_ok hfiles, openTargets_of_ok (hsame.trans hfiles)]
          exact ih (machine.withTarget direction found)

/-- No target leads to a descriptor that is the shell's no longer when the target is
opened: one of those that have been replaced before, or the stream of an earlier target. -/
def Apart (machine : Machine) (replaced : List Descriptor) : List (Direction × String) → Prop
  | [] => True
  | (direction, path) :: rest =>
      (∀ descriptor ∈ replaced, machine.borrowed? direction path ≠ some descriptor) ∧
        ∀ found, machine.openedBy direction path = .ok found →
          (machine.withTarget direction found).Apart (direction.stream :: replaced) rest

/-- The wiring of a process tries the targets that the shell would try, and goes on with
what that would come to, in the same files. -/
theorem comes_wire {stop : Machine → Bool} (account : Account)
    (targets : List (Direction × String)) {machine : Machine} {member : Member}
    {replaced : List Descriptor} {next : Except Fault Unit → Behavior}
    (hinherits : machine.Inherits member)
    (hkept : ∀ descriptor, descriptor ∉ replaced →
      member.descriptors.get? descriptor = machine.shell.descriptors.get? descriptor)
    (hapart : machine.Apart replaced targets)
    (hstop : ∀ after : Machine, after.recorder = machine.recorder → stop after = false)
    (hready : member.activity = .ready (wire (redirects targets) next)) :
    let tried := (kernel account).openTargets targets machine
    ∃ calls moved,
      calls.filterMap Behavior.deed? =
        ((kernel account).attempts targets machine).map Deed.ofTarget ∧
      calls.length ≤ 3 * targets.length ∧
      Comes stop machine member calls (next tried.1) tried.2 moved := by
  induction targets generalizing machine member replaced with
  | nil => exact ⟨[], member, rfl, Nat.zero_le _, hinherits, rfl, hready, .nothing⟩
  | cons target rest ih =>
      obtain ⟨direction, path⟩ := target
      obtain ⟨hborrowed, hrest⟩ := hapart
      have hsame : machine.destination member (Text.encode path) direction.openMode
          redirectPermissions = machine.openedBy direction path :=
        destination_eq_openedBy hinherits.directory hinherits.mask fun descriptor hleads =>
          hkept descriptor fun hreplaced => hborrowed descriptor hreplaced hleads
      rw [List.length_cons]
      cases hfiles : machine.openedBy direction path with
      | error errno =>
          obtain ⟨calls, moved, hdeeds, hlength, hcomes⟩ :=
            comes_of_error hinherits (hstop _ rfl) hready (hsame.trans hfiles)
          rw [openTargets_of_error hfiles, attempts_of_error hfiles]
          exact ⟨calls, moved, hdeeds, by omega, hcomes⟩
      | ok found =>
          obtain ⟨calls, hdeeds, hlength, hcomes⟩ :=
            comes_of_ok hinherits hstop hready (hsame.trans hfiles)
          let moved := member.redirected direction machine.opened.size (wire (redirects rest) next)
          have hstill (descriptor : Descriptor)
              (hfree : descriptor ∉ direction.stream :: replaced) :
              moved.descriptors.get? descriptor = machine.shell.descriptors.get? descriptor := by
            rw [List.mem_cons, not_or] at hfree
            exact (get?_redirected_of_ne member hfree.1 _ _).trans (hkept descriptor hfree.2)
          obtain ⟨others, last, hothers, hcount, hlast⟩ :=
            ih hcomes.inherits hstill (hrest found hfiles) hstop hcomes.ready
          rw [openTargets_of_ok hfiles, attempts_of_ok hfiles]
          refine ⟨calls ++ others, last, ?_, ?_, hcomes.trans hlast⟩
          · rw [List.filterMap_append, hdeeds, hothers]
            rfl
          · rw [List.length_append]
            omega

/-! ## A failure -/

/-- The processes and the recorder are as before. -/
structure SameProcesses (before after : Machine) : Prop where
  members : after.members = before.members
  shell : after.shell = before.shell
  nextPid : after.nextPid = before.nextPid
  recorder : after.recorder = before.recorder

theorem SameProcesses.unused {before after : Machine} {pid : Pid}
    (hsame : before.SameProcesses after) (hunused : before.Unused pid) : after.Unused pid :=
  ⟨hsame.shell ▸ hunused.shell, hsame.members ▸ hunused.members⟩

theorem Opened.sameProcesses_print {before after : Machine} (hopened : before.Opened after)
    (descriptor : Descriptor) (bytes : Bytes) :
    before.SameProcesses (after.print descriptor bytes).2 := by
  have hprints := after.prints_print descriptor bytes
  have hframe := hopened.frame
  exact ⟨hprints.members.trans (by rw [hframe]), hprints.shell.trans (by rw [hframe]),
    hprints.nextPid.trans (by rw [hframe]), hprints.recorder.trans (by rw [hframe])⟩

theorem Unpiped.opened {before after : Machine} {descriptor : Descriptor}
    (hunpiped : before.Unpiped descriptor) (hopened : before.Opened after) :
    after.Unpiped descriptor := by
  intro slot hslot
  rw [hopened.frame] at hslot
  obtain ⟨file, hfile, hpipe⟩ := hunpiped slot hslot
  exact ⟨file, hopened.opened _ file hfile, hpipe⟩

theorem Inherits.print {machine : Machine} {member : Member} (hinherits : machine.Inherits member)
    (bytes : Bytes) : (machine.print Action.errors bytes).2.Inherits member := by
  have hprints := machine.prints_print Action.errors bytes
  refine ⟨⟨?_, ?_⟩, ?_, ?_, ?_, ?_⟩
  · exact hprints.shell ▸ hinherits.unused.shell
  · exact hprints.members ▸ hinherits.unused.members
  · exact hprints.shell ▸ hinherits.parent
  · exact hprints.shell ▸ hinherits.directory
  · exact hprints.shell ▸ hinherits.mask
  · exact hprints.shell ▸ hinherits.errors

theorem encode_ne_nil {text : String} (htext : text ≠ "") : Text.encode text ≠ [] := by
  intro hnil
  apply htext
  rw [Text.encode, Array.toList_eq_nil_iff] at hnil
  exact String.toByteArray_inj.mp (ByteArray.ext hnil)

/-- What is left to do when a text has been written in part. -/
def heard (bytes : Bytes) (next : Unit → Behavior) (answer : Except Errno Nat) : Behavior :=
  (match answer with
    | .ok count => Action.writeFrom Action.errors bytes.length (bytes.drop count)
    | .error errno => pure (.error errno)) fun _ => next ()

theorem heard_of_length {bytes : Bytes} {next : Unit → Behavior} {answer : Except Errno Nat}
    (hcount : ∀ count, answer = .ok count → count = bytes.length) :
    heard bytes next answer = next () := by
  cases answer with
  | error errno => rfl
  | ok count =>
      obtain rfl := hcount count rfl
      simp only [heard, List.drop_length]
      cases bytes <;> rfl

/-- A text is written by one call, whether or not there is room for it. -/
theorem comes_say {stop : Machine → Bool} {machine : Machine} {member : Member}
    {next : Unit → Behavior} {text : String} (hinherits : machine.Inherits member)
    (hstop : stop (machine.beside member) = false) (hunpiped : machine.Unpiped Action.errors)
    (hready : member.activity = .ready (Action.say Action.errors text next))
    (htext : text ≠ "") :
    ∃ call moved, Behavior.deed? call = none ∧
      Comes stop machine member [call] (next ())
        (machine.print Action.errors (Text.encode text)).2 moved := by
  obtain ⟨byte, bytes, hbytes⟩ := List.exists_cons_of_ne_nil (encode_ne_nil htext)
  have hwrites : member.activity = .ready (Action.writeFrom Action.errors
      ((byte :: bytes).length + 1) (byte :: bytes) fun _ => next ()) := by
    rw [← hbytes]
    exact hready
  obtain ⟨answer, hcount, hcall⟩ := call_write Action.errors (byte :: bytes)
    (heard (byte :: bytes) next) hinherits.unused hinherits.errors hunpiped
  have hmoved := (hinherits.print (byte :: bytes)).ready (next ())
  rw [heard_of_length hcount] at hcall
  rw [hbytes]
  exact ⟨_, _, rfl, hmoved, rfl, rfl, .beside rfl hinherits.unused hstop hwrites hcall⟩

theorem makes_exit {stop : Machine → Bool} {machine : Machine} {member : Member} {code : Nat}
    (hinherits : machine.Inherits member) (hstop : stop (machine.beside member) = false)
    (hready : member.activity = .ready (.exit code)) :
    ∃ ended, ended.identity = member.identity ∧
      ended.activity = .ended (.exited (code % 256 : Nat)) ∧
      MakesUntil stop member.pid (machine.beside member) [.exit code]
        ((machine.noteSignal .child).beside ended) :=
  ⟨{ member with descriptors := [], activity := .ended (.exited (code % 256 : Nat)) }, rfl, rfl,
    .beside rfl hinherits.unused hstop hready
      (congrArg some (finish_beside hinherits.unused hinherits.parent _))⟩

/-! ## A process that is started -/

/-- The process that is started for a command. -/
def newcomer (machine : Machine) (environment : Environment) (child : Launch.Child) : Member :=
  { machine.shell with
    identity :=
      { pid := machine.nextPid, parent := machine.shell.pid
        group := child.group.getD machine.nextPid }
    pending := []
    activity := .ready (childAction environment child .exit) }

theorem inherits_newcomer {machine : Machine} (hunused : machine.Unused machine.nextPid)
    (environment : Environment) (child : Launch.Child) :
    machine.Inherits (machine.newcomer environment child) :=
  ⟨hunused, rfl, rfl, rfl, rfl⟩

/-- What the process does when it has been wired. -/
def afterWiring (environment : Environment) (child : Launch.Child) : Except Fault Unit → Behavior
  | .error fault => Action.say Action.errors (report fault.message) fun _ => .exit 1
  | .ok () =>
      executeProgram environment (child.argv.map Text.encode) fun
        | .noEntry =>
            Action.say Action.errors (report (child.program ++ ": command not found"))
              fun _ => .exit 127
        | errno =>
            Action.say Action.errors (report (Fault.exec child.program errno).message)
              fun _ => .exit 126

theorem childAction_eq (environment : Environment) (child : Launch.Child) :
    childAction environment child .exit = wire child.wiring (afterWiring environment child) := by
  refine congrArg (wire child.wiring) (funext fun outcome => ?_)
  cases outcome with
  | error fault => rfl
  | ok _ =>
      refine congrArg (executeProgram environment _) (funext fun errno => ?_)
      cases errno <;> rfl

/-- The process of a command that runs alone. -/
def loneChild (command : Command) : Launch.Child where
  group := none
  wiring := Launch.wiring [] 0 command
  argv := command.argv

/-- A command that runs alone is started without pipes. -/
theorem launch_lone (account : Account) (environment : Environment) {command : Command}
    (harguments : Launch.badArgument? [command] = none) (machine : Machine) :
    Launch.launch (kernel account).toStarter environment [command] machine =
      (.ok { leader := machine.nextPid, others := [] },
        machine.beside (machine.newcomer environment (loneChild command))) := by
  rw [Launch.launch, harguments]
  rfl

/-- The output target leads to the standard input of whoever opens it, once the input has
been opened: a process has replaced it by then, and the shell has not. -/
def Borrows (machine : Machine) (command : Command) : Prop :=
  ∃ input output found, command.input = some input ∧ command.output = some output ∧
    machine.openedBy .input input = .ok found ∧
    (machine.withTarget .input found).borrowed? .output output = some Direction.input.stream

theorem apart_of_not_borrows {machine : Machine} {command : Command}
    (hborrows : ¬ machine.Borrows command) : machine.Apart [] command.targets := by
  obtain ⟨argv, input, output⟩ := command
  cases input with
  | none => cases output <;> simp [Command.targets, Apart]
  | some input =>
      cases output with
      | none => simp [Command.targets, Apart]
      | some output =>
          have hnever (found : Target × Files)
              (hfiles : machine.openedBy .input input = .ok found) :
              (machine.withTarget .input found).borrowed? .output output ≠
                some Direction.input.stream :=
            fun hleads => hborrows ⟨input, output, found, rfl, rfl, hfiles, hleads⟩
          simpa [Command.targets, Apart] using fun target files => hnever (target, files)

section Newcomer

variable {stop : Machine → Bool} {machine : Machine}

theorem comes_newcomer (account : Account) (environment : Environment) {command : Command}
    (hborrows : ¬ machine.Borrows command) (hunused : machine.Unused machine.nextPid)
    (hstop : ∀ after : Machine, after.recorder = machine.recorder → stop after = false) :
    let tried := (kernel account).openTargets command.targets machine
    let member := machine.newcomer environment (loneChild command)
    ∃ calls moved,
      calls.filterMap Behavior.deed? =
        ((kernel account).attempts command.targets machine).map Deed.ofTarget ∧
      calls.length ≤ 3 * command.targets.length ∧
      Comes stop machine member calls (afterWiring environment (loneChild command) tried.1) tried.2
        moved :=
  comes_wire account command.targets (inherits_newcomer hunused environment _) (fun _ _ => rfl)
    (apart_of_not_borrows hborrows) hstop
    (congrArg Activity.ready (childAction_eq environment _))

theorem length_targets_le (command : Command) : command.targets.length ≤ 2 := by
  obtain ⟨argv, input, output⟩ := command
  cases input <;> cases output <;> simp [Command.targets]

/-- If a target cannot be used, the process says so and ends. -/
theorem makes_newcomer_of_fault {account : Account} {command : Command} {fault : Fault}
    {opened : Machine} (environment : Environment) (hborrows : ¬ machine.Borrows command)
    (hunused : machine.Unused machine.nextPid) (hunpiped : machine.Unpiped Action.errors)
    (hstop : ∀ after : Machine, after.recorder = machine.recorder → stop after = false)
    (hopen : (kernel account).openTargets command.targets machine = (.error fault, opened)) :
    ∃ calls ended,
      calls.filterMap Behavior.deed? =
        ((kernel account).attempts command.targets machine).map Deed.ofTarget ∧
      calls.length ≤ turnLength ∧ ended.pid = machine.nextPid ∧
      ended.identity.parent = machine.shell.pid ∧ ended.activity = .ended (.exited 1) ∧
      MakesUntil stop machine.nextPid
        (machine.beside (machine.newcomer environment (loneChild command))) calls
        (((opened.print Action.errors (Text.encode (report fault.message))).2.noteSignal
          .child).beside ended) := by
  have hopened := opened_openTargets account command.targets machine
  obtain ⟨calls, failing, hdeeds, hlength, hcomes⟩ :=
    comes_newcomer account environment hborrows hunused hstop
  rw [hopen] at hopened hcomes
  obtain ⟨call, exiting, hsilent, hsays⟩ := comes_say hcomes.inherits
    (hstop (opened.beside failing) hopened.recorder) (hunpiped.opened hopened) hcomes.ready
    (by simp [report])
  have hlast := hcomes.trans hsays
  have hsame := hopened.sameProcesses_print Action.errors (Text.encode (report fault.message))
  obtain ⟨ended, hidentity, hended, hexit⟩ := makes_exit hlast.inherits
    (hstop (Machine.beside _ exiting) hsame.recorder) hlast.ready
  have hcount := length_targets_le command
  have hparent : exiting.identity.parent = machine.shell.pid :=
    hlast.inherits.parent.trans (congrArg Member.pid hsame.shell)
  refine ⟨(calls ++ [call]) ++ [.exit 1], ended, ?_, ?_, ?_, ?_, hended,
    hlast.makes.append (hlast.pid ▸ hexit)⟩
  · have hexits : (Behavior.exit 1).deed? = none := rfl
    simp [hdeeds, hsilent, hexits]
  · simp only [List.length_append, List.length_singleton, turnLength]
    omega
  · exact (congrArg Identity.pid hidentity).trans hlast.pid
  · rw [hidentity, hparent]

end Newcomer

end Machine

end JobShell
