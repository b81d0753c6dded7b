import JobShell.Machine.Setup
import JobShell.Proofs.Launch.Processes
import Mathlib.Data.List.Perm.Subperm

/-!
# Starting pipelines on the machine

The tables of the machine are lists; looked at through `get?` they are the tables of
which the laws of starting pipelines speak, and the machine obeys the laws as long as
the shell keeps its standard streams.  New descriptors are above those, because the
least free number is taken.

What the machine does with the calls that a process makes before its program begins is
what courses allow.
-/

namespace JobShell.Machine

/-! ## Descriptor lists -/

namespace Descriptors

/-- The list as a table. -/
def toTable (table : Descriptors) : Table :=
  fun descriptor => table.get? descriptor

variable (table : Descriptors) (descriptor : Descriptor)

theorem toTable_apply : table.toTable descriptor = List.lookup descriptor table := rfl

theorem toTable_close : toTable (table.close descriptor) = table.toTable.close descriptor := by
  funext other
  by_cases hother : other = descriptor
  · rw [hother, Table.close_self, toTable_apply, List.lookup_eq_none_iff]
    intro entry hentry
    obtain ⟨-, hkept⟩ := List.mem_filter.mp hentry
    exact bne_iff_ne.mpr (of_decide_eq_true hkept).symm
  · rw [Table.close_of_ne hother]
    induction table with
    | nil => rfl
    | cons entry table ih =>
        rw [toTable_apply, close, List.filter_cons]
        rw [toTable_apply, toTable_apply, close] at ih
        by_cases hentry : entry.1 = descriptor
        · have hne : (other == entry.1) = false := by simpa [hentry] using hother
          rw [if_neg (by simpa using hentry), ih, toTable_apply, List.lookup_cons, hne]
        · rw [if_pos (by simpa using hentry), toTable_apply, List.lookup_cons, List.lookup_cons, ih]

theorem toTable_set (slot : Slot) :
    toTable (table.set descriptor slot) = table.toTable.set descriptor slot := by
  funext other
  rw [toTable_apply, set, List.lookup_append, ← toTable_apply, toTable_close]
  by_cases hother : other = descriptor
  · rw [hother, Table.close_self, Table.set_self, Option.none_or, List.lookup_cons_self]
  · have hne : (other == descriptor) = false := beq_eq_false_iff_ne.mpr hother
    rw [Table.close_of_ne hother, Table.set_of_ne hother, List.lookup_cons, hne,
      List.lookup_nil, Option.or_none]

theorem mem_of_isSome (hsome : (table.get? descriptor).isSome) :
    descriptor ∈ table.map Prod.fst := by
  obtain ⟨entry, hentry, hkey⟩ := List.lookup_isSome_iff.mp hsome
  exact List.mem_map.mpr ⟨entry, hentry, (beq_iff_eq.mp hkey).symm⟩

theorem get?_freeFrom (limit first : Nat) :
    table.get? (table.freeFrom limit first) = none ∨
      ∀ descriptor, first ≤ descriptor → descriptor < first + limit →
        descriptor ∈ table.map Prod.fst := by
  induction limit generalizing first with
  | zero => exact .inr fun descriptor hle hlt => absurd hlt (Nat.not_lt_of_le hle)
  | succ limit ih =>
      rw [freeFrom]
      cases hfirst : table.get? first with
      | none => exact .inl hfirst
      | some slot =>
          refine (ih (first + 1)).imp_right fun hmem descriptor hle hlt => ?_
          rcases Nat.eq_or_lt_of_le hle with rfl | hlater
          · exact table.mem_of_isSome _ (hfirst ▸ rfl)
          · exact hmem descriptor hlater (by omega)

/-- One of the first numbers is free, as there are more of them than entries. -/
theorem toTable_free : table.toTable table.free = none := by
  refine (table.get?_freeFrom (table.length + 1) 0).resolve_right fun hall => ?_
  have hsubset : List.range (table.length + 1) ⊆ table.map Prod.fst := fun descriptor hmem =>
    hall descriptor (Nat.zero_le _) (by simpa using hmem)
  have hlength := (List.subperm_of_subset List.nodup_range hsubset).length_le
  rw [List.length_range, List.length_map] at hlength
  exact Nat.not_succ_le_self _ hlength

theorem free_above {table : Descriptors}
    (hstreams : ∀ descriptor ≤ 2, (table.toTable descriptor).isSome) : 2 < table.free := by
  refine Nat.lt_of_not_le fun hle => ?_
  have hsome := hstreams _ hle
  rw [toTable_free] at hsome
  cases hsome

/-- No descriptor is in the list twice. -/
def Distinct (table : Descriptors) : Prop :=
  (table.map Prod.fst).Nodup

theorem toTable_eq_some_iff {table : Descriptors} (hdistinct : table.Distinct)
    {descriptor : Descriptor} {slot : Slot} :
    table.toTable descriptor = some slot ↔ (descriptor, slot) ∈ table := by
  induction table with
  | nil => exact iff_of_false nofun (List.not_mem_nil)
  | cons entry table ih =>
      obtain ⟨hnot, hrest⟩ := List.nodup_cons.mp hdistinct
      obtain ⟨key, value⟩ := entry
      rw [toTable_apply, List.lookup_cons, List.mem_cons, Prod.mk.injEq]
      by_cases hkey : descriptor = key
      · have hmem : (descriptor, slot) ∉ table := fun hmem =>
          hnot (List.mem_map.mpr ⟨_, hmem, hkey⟩)
        rw [beq_iff_eq.mpr hkey, or_iff_left hmem, and_iff_right hkey, eq_comm]
        exact Option.some_inj
      · rw [beq_eq_false_iff_ne.mpr hkey, or_iff_right fun hsame => hkey hsame.1]
        exact ih hrest

theorem toTable_onExecute {table : Descriptors} (hdistinct : table.Distinct) :
    table.onExecute.toTable = table.toTable.onExecute := by
  have hkept : table.onExecute.Distinct :=
    hdistinct.sublist (List.filter_sublist.map Prod.fst)
  funext descriptor
  refine Option.ext fun slot => ?_
  rw [toTable_eq_some_iff hkept, Table.onExecute_eq_some_iff, toTable_eq_some_iff hdistinct,
    onExecute, List.mem_filter]
  simp

/-- A number that is taken next is another one, and was free before as well. -/
theorem free_set (slot : Slot) :
    (table.set table.free slot).free ≠ table.free ∧
      table.toTable (table.set table.free slot).free = none := by
  have hfree := toTable_free (table.set table.free slot)
  rw [toTable_set] at hfree
  have hne : (table.set table.free slot).free ≠ table.free := by
    intro hsame
    rw [hsame, Table.set_self] at hfree
    cases hfree
  rw [Table.set_of_ne hne] at hfree
  exact ⟨hne, hfree⟩

theorem toTable_closeAll (descriptors : List Descriptor) :
    toTable (descriptors.foldl Descriptors.close table) = table.toTable.without descriptors := by
  induction descriptors generalizing table with
  | nil => exact (Table.without_nil _).symm
  | cons descriptor rest ih => rw [List.foldl_cons, ih, toTable_close, Table.close_without]

end Descriptors

/-! ## What the machine shows -/

def Member.table (member : Member) : Table :=
  member.descriptors.toTable

/-- A process that is about to make its next call. -/
def Member.process? (isOpened : FileId → Prop) (member : Member) : Option Launch.Process :=
  match member.activity with
  | .ready behavior => some { table := member.table, behavior, isOpened }
  | _ => none

/-- Open files are numbered, and processes do not move while a pipeline is started. -/
def view : Launch.View Machine where
  shell machine := machine.shell.table
  isOpened machine file := file < machine.opened.size
  process? machine pid :=
    (machine.members.find? fun member => member.pid = pid).bind
      (Member.process? (· < machine.opened.size))

/-- The shell has its standard streams, what it has is open, and numbers of processes are
not used twice. -/
structure Sound (machine : Machine) : Prop where
  streams : ∀ descriptor ≤ 2, (machine.shell.table descriptor).isSome
  files : ∀ descriptor slot, machine.shell.table descriptor = some slot →
    slot.file < machine.opened.size
  pids : ∀ member ∈ machine.members, member.pid < machine.nextPid

/-- The shell of a machine to start with has its standard streams and nothing else. -/
theorem sound_start (setup : Setup) : setup.start.Sound where
  streams := by
    rintro (_ | _ | _ | descriptor) hle
    · rfl
    · rfl
    · rfl
    · exact absurd hle (Nat.not_le_of_lt (Nat.lt_add_left descriptor (Nat.lt_succ_self 2)))
  files := by
    intro descriptor slot hslot
    have hdistinct : setup.start.shell.descriptors.Distinct := by
      change [0, 1, 2].Nodup
      decide
    have hsize : setup.start.opened.size = 3 := by
      rw [Setup.start]
      cases setup.input <;> rfl
    have hentry := (Descriptors.toTable_eq_some_iff hdistinct).mp hslot
    rw [hsize]
    change _ ∈ [(0, Slot.handedOn 0), (1, Slot.handedOn 1), (2, Slot.handedOn 2)] at hentry
    simp only [List.mem_cons, Prod.mk.injEq, List.not_mem_nil, or_false] at hentry
    rcases hentry with ⟨-, rfl⟩ | ⟨-, rfl⟩ | ⟨-, rfl⟩ <;> decide
  pids _ hmember := (List.not_mem_nil hmember).elim

namespace Sound

variable {machine : Machine}

theorem addDescriptor (hsound : machine.Sound) (file : OpenFile) (closesOnExecute : Bool) :
    let added := machine.addDescriptor machine.shell file closesOnExecute
    Sound { added.2.2 with shell := added.2.1 } where
  streams := by
    intro descriptor hle
    have hne : descriptor ≠ machine.shell.descriptors.free :=
      Nat.ne_of_lt (Nat.lt_of_le_of_lt hle (Descriptors.free_above hsound.streams))
    simp only [Machine.addDescriptor, Member.table, Descriptors.toTable_set,
      Table.set_of_ne hne]
    exact hsound.streams descriptor hle
  files := by
    intro descriptor slot hslot
    simp only [Machine.addDescriptor, Member.table, Descriptors.toTable_set,
      Array.size_push] at hslot ⊢
    by_cases hdescriptor : descriptor = machine.shell.descriptors.free
    · rw [hdescriptor, Table.set_self] at hslot
      cases hslot
      exact Nat.lt_succ_self _
    · rw [Table.set_of_ne hdescriptor] at hslot
      exact Nat.lt_succ_of_lt (hsound.files descriptor slot hslot)
  pids := hsound.pids

theorem openPipe (hsound : machine.Sound) (account : Account) :
    Sound ((kernel account).openPipe machine).2 :=
  have hpiped : Sound { machine with pipes := machine.pipes.push [] } :=
    ⟨hsound.streams, hsound.files, hsound.pids⟩
  (hpiped.addDescriptor _ true).addDescriptor _ true

theorem spawn (hsound : machine.Sound) (environment : Environment) (child : Launch.Child) :
    Sound (Machine.spawn environment child machine).2 where
  streams := hsound.streams
  files := hsound.files
  pids := by
    intro member hmem
    rcases List.mem_append.mp hmem with hold | hnew
    · exact Int.lt_add_one_of_le (Int.le_of_lt (hsound.pids member hold))
    · rw [List.mem_singleton.mp hnew]
      exact Int.lt_succ _

end Sound

/-! ## The machine obeys the laws -/

section Laws

variable {machine : Machine}

theorem opensPipe (hsound : machine.Sound) (account : Account) :
    view.OpensPipe machine (machine.openPipe machine.shell).1
      { reader := machine.opened.size, writer := machine.opened.size + 1 }
      ((kernel account).openPipe machine).2 := by
  let table := machine.shell.descriptors
  obtain ⟨hne, hfree⟩ := table.free_set { file := machine.opened.size }
  have hfirst := hsound.addDescriptor { target := default, mode := {} } true
  have hsize : ((kernel account).openPipe machine).2.opened.size = machine.opened.size + 1 + 1 := by
    simp [kernel, Machine.openPipe, Machine.addDescriptor]
  exact {
    above := ⟨Descriptors.free_above hsound.streams, Descriptors.free_above hfirst.streams⟩
    free := ⟨table.toTable_free, hfree⟩
    distinct := hne.symm
    shell := by
      change Descriptors.toTable (Descriptors.set _ _ _) = _
      rw [Descriptors.toTable_set, Descriptors.toTable_set]
      simp only [Array.size_push]
      rfl
    new := ⟨Nat.lt_irrefl _, Nat.not_lt_of_le (Nat.le_succ _)⟩
    apart := Nat.ne_of_lt (Nat.lt_succ_self _)
    opened := by
      constructor <;> change _ < Array.size _ <;> rw [hsize]
      · exact Nat.lt_succ_of_lt (Nat.lt_succ_self _)
      · exact Nat.lt_succ_self _
    keeps := by
      intro file hfile
      change file < Array.size _
      rw [hsize]
      exact Nat.lt_succ_of_lt (Nat.lt_succ_of_lt hfile) }

theorem startsProcess (hsound : machine.Sound) (environment : Environment)
    (child : Launch.Child) :
    view.StartsProcess environment child machine machine.nextPid
      (spawn environment child machine).2 := by
  obtain ⟨started, hpid, hprocess, hmembers⟩ : ∃ started : Member,
      started.pid = machine.nextPid ∧
      started.process? (· < machine.opened.size) = some
        { table := machine.shell.table, behavior := childAction environment child Behavior.exit
          isOpened := (· < machine.opened.size) } ∧
      (spawn environment child machine).2.members = machine.members ++ [started] :=
    ⟨_, rfl, rfl, rfl⟩
  have hnew : machine.members.find? (fun member => member.pid = machine.nextPid) = none := by
    refine List.find?_eq_none.mpr fun member hmem hsame => ?_
    exact absurd (of_decide_eq_true hsame) (Int.ne_of_lt (hsound.pids member hmem))
  have hfound : (spawn environment child machine).2.members.find?
      (fun member => member.pid = machine.nextPid) = some started := by
    rw [hmembers, List.find?_append, hnew, Option.none_or,
      List.find?_cons_of_pos (by simpa using hpid)]
  have hothers : ∀ other, other ≠ machine.nextPid →
      (spawn environment child machine).2.members.find? (fun member => member.pid = other) =
        machine.members.find? fun member => member.pid = other := by
    intro other hother
    have hne : ¬ started.pid = other := fun hsame => hother (hsame.symm.trans hpid)
    rw [hmembers, List.find?_append, List.find?_cons_of_neg (by simpa using hne), List.find?_nil,
      Option.or_none]
  exact {
    new := congrArg (Option.bind · _) hnew
    started :=
      ⟨_, (congrArg (Option.bind · _) hfound).trans hprocess, rfl, rfl, fun _ hfile => hfile⟩
    others := fun other hother => congrArg (Option.bind · _) (hothers other hother)
    shell := rfl
    keeps := fun _ hfile => hfile }

/-- The machine starts pipelines as the laws have it. -/
theorem kernel_lawful (account : Account) : (kernel account).toStarter.Lawful view Sound where
  opened hsound hslot := hsound.files _ _ hslot
  openPipe hsound hopen := by
    cases hopen
    exact ⟨hsound.openPipe account, _, opensPipe hsound account⟩
  blockSignals hsound hblock := by
    cases hblock
    exact ⟨hsound, rfl, rfl, fun _ hfile => hfile⟩
  spawn environment child hsound hspawn := by
    cases hspawn
    exact ⟨hsound.spawn environment child, startsProcess hsound environment child⟩
  closePipes pipes _ := ⟨Descriptors.toTable_closeAll _ (endsOf pipes), rfl⟩
  unblockSignals _ := ⟨rfl, rfl, fun _ hfile => hfile⟩

end Laws

/-! ## The end of input -/

/-- A reader of a pipe meets the end of its input once what has been written is read, if
no process holds the other end. -/
theorem readFrom_of_not_holds {machine : Machine} {member : Member} {source : Descriptor}
    {id : FileId} {file : OpenFile} {pipe : PipeId}
    (hfile : machine.openFile? member source = some (id, file)) (hreads : file.mode.reads = true)
    (htarget : file.target = .pipeReader pipe) (hempty : machine.pipes[pipe]? = some [])
    (hdistinct : ∀ other ∈ machine.everyone, other.descriptors.Distinct)
    (hholds : ∀ other ∈ machine.everyone, ∀ writer, ∀ entry : OpenFile,
      machine.opened[writer]? = some entry → entry.target = .pipeWriter pipe →
        ¬ other.table.Holds writer)
    (count : Nat) : machine.readFrom member source count = some (.ok [], machine) := by
  have hheld : machine.isHeld (.pipeWriter pipe) = false := by
    rw [isHeld, List.any_eq_false]
    intro other hother hany
    obtain ⟨⟨descriptor, slot⟩, hentry, hleads⟩ := List.any_eq_true.mp hany
    cases hopened : machine.opened[slot.file]? with
    | none => simp [hopened] at hleads
    | some entry =>
        refine hholds other hother slot.file entry hopened (by simpa [hopened] using hleads) ?_
        exact ⟨descriptor, slot,
          (Descriptors.toTable_eq_some_iff (hdistinct other hother)).mpr hentry, rfl⟩
  simp [readFrom, hfile, hreads, htarget, hempty, hheld]

/-! ## Calls -/

section Calls

variable {machine after : Machine}

/-- The process that is found after a change of it. -/
theorem find?_update (member : Member) (hshell : member.pid ≠ machine.shell.pid)
    (hmember : ∃ old ∈ machine.members, old.pid = member.pid) :
    (machine.update member).members.find? (fun other => other.pid = member.pid) =
      some member := by
  rw [update, if_neg hshell]
  obtain ⟨old, hold, hpid⟩ := hmember
  dsimp only
  generalize machine.members = members at hold
  induction members with
  | nil => cases hold
  | cons first members ih =>
      rw [List.map_cons]
      by_cases hfirst : first.pid = member.pid
      · rw [if_pos hfirst, List.find?_cons_of_pos (by simp)]
      · rw [if_neg hfirst, List.find?_cons_of_neg (by simpa using hfirst)]
        exact ih ((List.mem_cons.mp hold).resolve_left fun hsame => hfirst (hsame ▸ hpid))

theorem writeTo_members {member : Member} {target : Descriptor} {bytes : Bytes}
    {answer : Except Errno Nat}
    (hwrite : machine.writeTo member target bytes = some (answer, after)) :
    after.members = machine.members ∧ after.shell = machine.shell := by
  simp only [writeTo] at hwrite
  repeat' split at hwrite
  all_goals first | cases hwrite; exact ⟨rfl, rfl⟩ | cases hwrite

/-- A path that can be opened leads to an open file of its own, wherever that leads to. -/
theorem openPath_cases (machine : Machine) (member : Member) (path : Bytes) (mode : OpenMode)
    (permissions : Nat) :
    (∃ errno, machine.openPath member path mode permissions = (.error errno, member, machine)) ∨
      ∃ target files, machine.openPath member path mode permissions =
        (.ok member.descriptors.free,
          { member with
            descriptors := member.descriptors.set member.descriptors.free
              { file := machine.opened.size } },
          { machine with files, opened := machine.opened.push { target, mode } }) := by
  rw [Machine.openPath]
  split
  · exact .inl ⟨_, rfl⟩
  · exact .inr ⟨_, _, rfl⟩

/-- The calls of a process before its program begins. -/
def Prepares : Behavior → Prop
  | .exit _ | .write _ _ _ | .openPath _ _ _ _ | .close _ _ | .duplicate _ _ _
  | .execute _ _ _ _ => True
  | _ => False

/-- A process on which the machine has made a call goes on in a way that leaves all its
courses among those that it had. -/
def GoesOn (isNew : FileId → Prop) (member : Member) (behavior : Behavior) (after : Machine) :
    Prop :=
  ∃ moved next, after.members.find? (fun other => other.pid = member.pid) = some moved ∧
    moved.activity = .ready next ∧
    ((∃ path argv environment fallback, behavior = .execute path argv environment fallback ∧
        moved.table = member.table.onExecute) ∨
      ∀ openings outcome, Course isNew moved.table next openings outcome →
        ∃ all, Course isNew member.table behavior all outcome)

theorem goesOn_of_proceed {isNew : FileId → Prop} {member moved : Member}
    {behavior next : Behavior} {reached : Machine} (hpid : moved.pid = member.pid)
    (hshell : member.pid ≠ reached.shell.pid) (hmember : member ∈ reached.members)
    (hcourses : ∀ openings outcome, Course isNew moved.table next openings outcome →
      ∃ all, Course isNew member.table behavior all outcome) :
    GoesOn isNew member behavior (reached.proceed moved next) := by
  refine ⟨{ moved with activity := .ready next }, next, ?_, rfl, .inr hcourses⟩
  rw [← hpid] at hshell ⊢
  exact find?_update { moved with activity := .ready next } hshell ⟨member, hmember, hpid.symm⟩

/-- Writing to a pipe without readers ends a process, unless it catches the signal; then
it is to make its call again. -/
theorem goesOn_of_brokenPipe {isNew : FileId → Prop} {member : Member} {behavior : Behavior}
    (hready : member.activity = .ready behavior) (hshell : member.pid ≠ machine.shell.pid)
    (hmember : member ∈ machine.members) (hheeds : .pipe ∉ member.ignored) :
    (∃ reached status, machine.deliver .pipe member = finish reached member status) ∨
      GoesOn isNew member behavior (machine.deliver .pipe member) := by
  have hruns : member.hasEnded = false := by rw [Member.hasEnded, hready]
  by_cases hcaught : .pipe ∈ member.caught
  · have hdelivered : machine.deliver .pipe member = machine.update (member.keep .pipe) := by
      simp [deliver, hshell, hruns, hcaught]
    have hkeeps : (member.keep .pipe).pid = member.pid ∧
        (member.keep .pipe).table = member.table ∧
        (member.keep .pipe).activity = member.activity := by
      rw [Member.keep]
      split <;> exact ⟨rfl, rfl, rfl⟩
    obtain ⟨hpid, htable, hactivity⟩ := hkeeps
    refine .inr ⟨member.keep .pipe, behavior, ?_, hactivity.trans hready, .inr ?_⟩
    · rw [hdelivered, ← hpid]
      rw [← hpid] at hshell
      exact find?_update _ hshell ⟨member, hmember, hpid.symm⟩
    · intro openings outcome hcourse
      rw [htable] at hcourse
      exact ⟨openings, hcourse⟩
  · refine .inl ⟨machine, .signaled .pipe false, ?_⟩
    simp [deliver, hshell, hruns, hcaught, hheeds, isHarmless]

/-- What the machine does with a call is what a course does, up to the end of the process
or the begin of its program. -/
theorem goesOn_of_call {isNew : FileId → Prop} {member : Member} {behavior : Behavior}
    (hprepares : Prepares behavior) (hready : member.activity = .ready behavior)
    (hshell : member.pid ≠ machine.shell.pid) (hmember : member ∈ machine.members)
    (hdistinct : member.descriptors.Distinct)
    (hnew : ∀ file, machine.opened.size ≤ file → isNew file)
    (hcall : machine.call member behavior = some after) :
    (∃ reached status, after = finish reached member status) ∨
      GoesOn isNew member behavior after := by
  cases behavior with
  | exit code =>
      cases hcall
      exact .inl ⟨_, _, rfl⟩
  | write target bytes next =>
      obtain ⟨⟨answer, written⟩, hwrite, hanswer⟩ := Option.map_eq_some_iff.mp hcall
      obtain ⟨hmembers, hsame⟩ := writeTo_members hwrite
      rw [← hmembers] at hmember
      rw [← hsame] at hshell
      have hwritten : GoesOn isNew member (.write target bytes next)
          (written.proceed member (next answer)) :=
        goesOn_of_proceed rfl hshell hmember fun openings outcome hcourse =>
          ⟨openings, .write answer hcourse⟩
      dsimp only at hanswer
      split at hanswer
      · split at hanswer
        · exact .inr (hanswer ▸ hwritten)
        · rw [← hanswer]
          exact goesOn_of_brokenPipe hready hshell hmember
            (by simpa using ‹¬ member.ignored.contains .pipe = true›)
      · exact .inr (hanswer ▸ hwritten)
  | openPath path mode permissions next =>
      obtain ⟨errno, hopen⟩ | ⟨target, files, hopen⟩ :=
        openPath_cases machine member path mode permissions
      · simp only [call, hopen] at hcall
        cases hcall
        exact .inr (goesOn_of_proceed rfl hshell hmember fun openings outcome hcourse =>
          ⟨openings, .openPath_refused _ hcourse⟩)
      · simp only [call, hopen] at hcall
        cases hcall
        refine .inr (goesOn_of_proceed rfl hshell hmember fun openings outcome hcourse => ?_)
        rw [Member.table, Descriptors.toTable_set] at hcourse
        exact ⟨_, .openPath _ _ member.descriptors.toTable_free (hnew _ (Nat.le_refl _)) hcourse⟩
  | close descriptor next =>
      cases hcall
      refine .inr (goesOn_of_proceed rfl hshell hmember fun openings outcome hcourse => ?_)
      rw [Member.table, Descriptors.toTable_close] at hcourse
      exact ⟨openings, .close hcourse⟩
  | duplicate source target next =>
      simp only [call] at hcall
      split at hcall
      · cases hcall
        exact .inr (goesOn_of_proceed rfl hshell hmember fun openings outcome hcourse =>
          ⟨openings, .duplicate_refused _ hcourse⟩)
      case _ slot hslot =>
        cases hcall
        refine .inr (goesOn_of_proceed rfl hshell hmember fun openings outcome hcourse => ?_)
        rw [Member.table, Descriptors.toTable_set] at hcourse
        exact ⟨openings, .duplicate hslot hcourse⟩
  | execute path argv environment next =>
      simp only [call] at hcall
      split at hcall
      · cases hcall
        exact .inr (goesOn_of_proceed rfl hshell hmember fun openings outcome hcourse =>
          ⟨openings, .execute_refused _ hcourse⟩)
      case _ begun _ =>
        cases hcall
        let moved : Member :=
          { member with
            descriptors := member.descriptors.onExecute, caught := [], pending := []
            activity := .ready begun }
        exact .inr ⟨moved, begun, find?_update moved hshell ⟨member, hmember, rfl⟩, rfl,
          .inl ⟨path, argv, environment, next, rfl, Descriptors.toTable_onExecute hdistinct⟩⟩
  | _ => exact hprepares.elim

end Calls

end JobShell.Machine
