import JobShell.Proofs.Machine.Walking
import JobShell.Proofs.Session.Reaping

/-!
# Lines with redirections

A builtin and a program whose redirections name the same targets find the same files when
they begin to run.  If a target cannot be used, neither of them runs, the same report is
printed, and both lines have status one.

There is one exception.  A builtin leaves the streams of the shell as they are, and only
opens its targets; a program has taken its input by the time its output target is opened.
An output target that leads to the standard input of whoever opens it is therefore one file
for the builtin and another for the program.
-/

namespace JobShell.Session

open Machine (Behavior Deed Member Makes executeProgram loneChild)

variable {account : Account} {session : Session} {builtin : Builtin} {inner program : Command}
  {machine opened : Machine} {fault : Fault} {line : String} {pipeline : Pipeline}

/-- All targets can be used: the builtin and the program begin to run, in the same files. -/
structure Begins (kernel : Kernel Machine) (session : Session) (builtin : Builtin)
    (inner program : Command) (machine opened : Machine) (moved : Member) : Prop where
  all : kernel.attempts inner.targets machine = inner.targets
  builtin : ∀ line pipeline,
    session.read kernel line = .ok (some (pipeline, .builtin builtin inner)) →
    session.execute kernel line machine =
      some (session.runBuiltin kernel builtin { inner with input := none, output := none } opened)
  program : ∃ refused, moved.activity =
    .ready (executeProgram session.environment (program.argv.map Text.encode) refused)

/-- A target cannot be used: the same report is printed, and neither the builtin nor the
program runs. -/
structure Fails (kernel : Kernel Machine) (session : Session) (builtin : Builtin)
    (inner program : Command) (machine opened : Machine) (fault : Fault) (moved : Member) :
    Prop where
  /-- The targets before the one that cannot be used have been opened. -/
  first : ∃ before failed after errno, inner.targets = before ++ failed :: after ∧
    kernel.attempts inner.targets machine = before ++ [failed] ∧
    kernel.openTargets before machine = (.ok (), opened) ∧
    opened.openTarget failed.1 (Text.encode failed.2) = (.error errno, opened) ∧
    fault = .resource (Text.encode failed.2) errno
  input : ∀ path errno, inner.input = some path →
    (machine.openTarget .input (Text.encode path)).1 = .error errno →
    opened = machine ∧ fault = .resource (Text.encode path) errno
  /-- A shell whose report cannot be written comes down over it. -/
  builtin : ∀ line pipeline,
    session.read kernel line = .ok (some (pipeline, .builtin builtin inner)) →
    session.processLine kernel line machine =
      (Kernel.written (kernel.complain (report fault.message) opened)).map fun reported =>
        (.proceed 1, { session with lastStatus := 1 }, reported)
  reports : moved.activity =
    .ready (Machine.Action.say Machine.Action.errors (report fault.message) fun _ => .exit 1)
  /-- The process never tries to become the program. -/
  ends : machine.Unpiped Machine.Action.errors → ∃ calls ended,
    calls.filterMap Behavior.deed? =
      (kernel.attempts inner.targets machine).map Deed.ofTarget ∧
    ended.activity = .ended (.exited 1) ∧
    Makes machine.nextPid
      (machine.beside (machine.newcomer session.environment (loneChild program))) calls
      (((kernel.complain (report fault.message) opened).2.noteSignal .child).beside ended)
  program : machine.Quiet → ∀ line pipeline, pipeline.commands = [program] →
    session.read kernel line = .ok (some (pipeline, .foreground)) →
    session.processLine kernel line machine =
      some (.proceed 1, { session with foreground := none, lastStatus := 1 },
        (kernel.complain (report fault.message) opened).2.emptied.forgotten)

theorem processLine_of_builtin_fault
    (hread : session.read (Machine.kernel account) line =
      .ok (some (pipeline, .builtin builtin inner)))
    (hopen : (Machine.kernel account).openTargets inner.targets machine =
      (.error fault, opened)) :
    session.processLine (Machine.kernel account) line machine =
      (Kernel.written ((Machine.kernel account).complain (report fault.message) opened)).map
        fun reported => (.proceed fault.status, { session with lastStatus := fault.status },
          reported) := by
  simp only [processLine, execute, hread, runBuiltin, hopen, settle, Option.bind_some,
    Option.map_map]
  rfl

theorem processLine_of_program_fault (hquiet : machine.Quiet) (hborrows : ¬ machine.Borrows program)
    (hunused : machine.Unused machine.nextPid) (hcommands : pipeline.commands = [program])
    (harguments : Launch.badArgument? [program] = none)
    (hread : session.read (Machine.kernel account) line = .ok (some (pipeline, .foreground)))
    (hopen : (Machine.kernel account).openTargets program.targets machine =
      (.error fault, opened)) :
    session.processLine (Machine.kernel account) line machine =
      some (.proceed 1, { session with foreground := none, lastStatus := 1 },
        ((Machine.kernel account).complain (report fault.message) opened).2.emptied.forgotten) := by
  have hlaunch := Machine.launch_lone account session.environment harguments machine
  have hwait := Machine.waitForeground_of_fault hquiet hborrows hunused session.environment hopen
    { session with foreground := some machine.nextPid }
  have hlaunched : session.launchForeground (Machine.kernel account) pipeline machine =
      some (.ok (.proceed 1), { session with foreground := none },
        ((Machine.kernel account).complain (report fault.message) opened).2.emptied.forgotten) := by
    simp only [launchForeground, hcommands, hlaunch, Launch.Job.group, hwait]
    rfl
  simp only [processLine, execute, hread, hlaunched]
  rfl

theorem begins_of_opened {moved : Member}
    (hopen : (Machine.kernel account).openTargets inner.targets machine = (.ok (), opened))
    (hready : moved.activity =
      .ready (Machine.afterWiring session.environment (loneChild program) (.ok ()))) :
    Begins (Machine.kernel account) session builtin inner program machine opened moved where
  all := Machine.attempts_of_openTargets hopen
  builtin line pipeline hread := by
    simp only [execute, hread, runBuiltin, hopen]
    rfl
  program := ⟨_, hready⟩

theorem opened_eq_of_refused_input {path : String} {errno : Errno}
    (hopen : (Machine.kernel account).openTargets inner.targets machine = (.error fault, opened))
    (hpath : inner.input = some path)
    (hrefused : (machine.openTarget .input (Text.encode path)).1 = .error errno) :
    opened = machine ∧ fault = .resource (Text.encode path) errno := by
  have htargets : inner.targets =
      (.input, path) :: (inner.output.map fun path => (Direction.output, path)).toList := by
    rw [Command.targets, hpath]
    rfl
  rw [htargets] at hopen
  cases hfiles : machine.openedBy .input path with
  | error found =>
      rw [Machine.openTargets_of_error hfiles] at hopen
      rw [Machine.openTarget_of_error hfiles] at hrefused
      cases hopen
      cases hrefused
      exact ⟨rfl, rfl⟩
  | ok found =>
      rw [Machine.openTarget_of_ok hfiles] at hrefused
      cases hrefused

theorem fails_of_fault {moved : Member} (htargets : program.targets = inner.targets)
    (harguments : Launch.badArgument? [program] = none) (hborrows : ¬ machine.Borrows program)
    (hunused : machine.Unused machine.nextPid)
    (hopen : (Machine.kernel account).openTargets inner.targets machine = (.error fault, opened))
    (hready : moved.activity =
      .ready (Machine.afterWiring session.environment (loneChild program) (.error fault))) :
    Fails (Machine.kernel account) session builtin inner program machine opened fault moved where
  first := Machine.openTargets_eq_error hopen
  input path errno hpath hrefused := opened_eq_of_refused_input hopen hpath hrefused
  builtin line pipeline hread := by
    obtain ⟨before, failed, after, errno, -, -, -, -, rfl⟩ := Machine.openTargets_eq_error hopen
    exact processLine_of_builtin_fault hread hopen
  reports := hready
  ends hunpiped := by
    rw [← htargets] at hopen
    obtain ⟨calls, ended, hdeeds, -, -, -, hended, hmakes⟩ :=
      Machine.makes_newcomer_of_fault session.environment hborrows hunused hunpiped
        (fun _ _ => rfl) hopen
    exact ⟨calls, ended, htargets ▸ hdeeds, hended, hmakes⟩
  program hquiet line pipeline hcommands hread :=
    processLine_of_program_fault hquiet hborrows hunused hcommands harguments hread
      (htargets ▸ hopen)

/-- A machine with one file in its directory, and one for reports. -/
def oneFile : Machine :=
  { loneShell with
    files :=
      { nodes := #[
          { content := .directory Machine.Files.rootInode [(Text.encode "out", 1)] false
            permissions := 0o755 },
          { content := .file (Text.encode "kept\n"), permissions := 0o644 },
          { content := .file [], permissions := 0o644 }] }
    opened := #[{ target := .node 2, mode := { writes := true } }]
    shell := { loneShell.shell with descriptors := [(Machine.Action.errors, { file := 0 })] } }

theorem oneFile_quiet : oneFile.Quiet where
  waits _ hmember := absurd hmember List.not_mem_nil
  apart _ hmember := absurd hmember List.not_mem_nil
  unnoted := rfl
  capacity := by decide
  wakeups := by decide
  positive := by decide
  errors := by
    intro slot hslot
    cases hslot
    exact ⟨_, rfl, nofun⟩

/-- A machine that has a file in its directory, beside a path that leads to the standard
input of whoever opens it. -/
def borrowing : Machine :=
  { oneFile with
    files :=
      { nodes := #[
          { content := .directory Machine.Files.rootInode
              [(Text.encode "in", 1), (Text.encode "stdin", 3)] false
            permissions := 0o755 },
          { content := .file (Text.encode "kept\n"), permissions := 0o644 },
          { content := .file [], permissions := 0o644 },
          { content := .device (.descriptor 0), permissions := 0o777 }] }
    opened := #[{ target := .node 2, mode := { reads := true, writes := true } }]
    shell :=
      { loneShell.shell with
        descriptors := [(0, { file := 0 }), (Machine.Action.errors, { file := 0 })] } }

theorem borrowing_locates_stdin :
    borrowing.files.locate { createsFile := Direction.output.openMode.creates }
      Machine.Files.rootInode (Text.encode "stdin") = .ok (.found 3) := by
  rw [Machine.Files.locate_name (by decide +kernel), Machine.Files.walk]
  rfl

theorem borrowing_reads :
    borrowing.openedBy .input "in" = .ok (.node 1, borrowing.files) := by
  have hlocate : borrowing.files.locate { createsFile := Direction.input.openMode.creates }
      Machine.Files.rootInode (Text.encode "in") = .ok (.found 1) := by
    rw [Machine.Files.locate_name (by decide +kernel), Machine.Files.walk]
    rfl
  rw [Machine.openedBy, Machine.destination, Machine.Files.openPath,
    show borrowing.shell.directory = Machine.Files.rootInode from rfl, hlocate]
  rfl

/-- The shell has what its own standard input stands for emptied, not what it reads. -/
theorem borrowing_writes :
    (borrowing.withTarget .input (.node 1, borrowing.files)).openedBy .output "stdin" =
      .ok (.node 2, borrowing.files.setContent 2 (.file [])) := by
  let read := borrowing.withTarget .input (.node 1, borrowing.files)
  rw [Machine.openedBy, Machine.destination, Machine.Files.openPath,
    show read.files = borrowing.files from rfl,
    show read.shell.directory = Machine.Files.rootInode from rfl, borrowing_locates_stdin]
  rfl

/-- A builtin leaves alone the file that it is to read. -/
theorem processLine_setenv_borrowing :
    let kernel := Machine.kernel borrowing.account
    let read := borrowing.withTarget .input (.node 1, borrowing.files)
    ({} : Session).processLine kernel "setenv X < in > stdin" borrowing =
      some (.proceed 0, { environment := ⟨[("X", [])]⟩, lastStatus := 0 },
        read.withTarget .output (.node 2, borrowing.files.setContent 2 (.file []))) := by
  intro kernel read
  let inner : Command := { argv := ["setenv", "X"], input := some "in", output := some "stdin" }
  let opened := read.withTarget .output (.node 2, borrowing.files.setContent 2 (.file []))
  have hopened : kernel.openTargets inner.targets borrowing = (.ok (), opened) :=
    (Machine.openTargets_of_ok borrowing_reads).trans
      (Machine.openTargets_of_ok borrowing_writes)
  have hinner : ({} : Session).read kernel "setenv X < in > stdin" =
      .ok (some ({ commands := [inner], background := false }, .builtin .setenv inner)) := rfl
  have hbuiltin : ({} : Session).runBuiltin kernel .setenv inner borrowing =
      (.ok (.proceed 0), { environment := ⟨[("X", [])]⟩ }, opened) := by
    rw [runBuiltin, hopened]
    rfl
  simp only [processLine, execute, hinner, hbuiltin]
  rfl

end JobShell.Session
