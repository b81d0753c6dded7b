import JobShell.Proofs.Machine.Launching
import JobShell.Proofs.Pipeline.Expansion

/-!
# Who holds the ends of a pipe

All pipes of a pipeline exist before its first process does, so each process starts with
a copy of every end, and one copy that is left open keeps a reader waiting for ever.
Once the pipeline has been launched and every process has become its program or ended,
the standard streams lead where the line says, and an end of a pipe is held by the one
program that it is meant for, or by none.
-/

namespace JobShell.Launch

open Machine (Table FileId Behavior Opening Outcome Course childAction endsOf Slot Redirects)

/-! ## Where the streams of a command lead -/

/-- The standard input of a command: its target, else the pipe before it, else the
shell's. -/
def InputIs (shell : Table) (pipes : List Pipe) (openings : List Opening) (index : Nat)
    (command : Command) (slot : Option Slot) : Prop :=
  match command.input, index with
  | some path, _ => ∃ file,
      ⟨Text.encode path, Direction.input.openMode, file⟩ ∈ openings ∧
        slot = some (.handedOn file)
  | none, 0 => slot = shell 0
  | none, index + 1 => ∃ pipe, pipes[index]? = some pipe ∧ slot = some (.handedOn pipe.reader)

/-- The standard output of a command: its target, else the pipe after it, else the
shell's. -/
def OutputIs (shell : Table) (pipes : List Pipe) (openings : List Opening) (index : Nat)
    (command : Command) (slot : Option Slot) : Prop :=
  match command.output, pipes[index]? with
  | some path, _ => ∃ file,
      ⟨Text.encode path, Direction.output.openMode, file⟩ ∈ openings ∧
        slot = some (.handedOn file)
  | none, some pipe => slot = some (.handedOn pipe.writer)
  | none, none => slot = shell 1

section Streams

variable {isNew : FileId → Prop} {shell : Table} {pipes : List Pipe} {openings : List Opening}
  {index : Nat} {command : Command} {standard file : FileId}

theorem inputIs_of_redirects (hstdin : shell 0 = some (.handedOn standard))
    (hindex : index ≤ pipes.length)
    (hredirects : Redirects isNew .input command.input openings
      (plainInput standard pipes index) file) :
    InputIs shell pipes openings index command (some (.handedOn file)) := by
  obtain ⟨argv, target, output⟩ := command
  cases target with
  | some path => exact ⟨file, hredirects.2, rfl⟩
  | none =>
      obtain rfl : file = plainInput standard pipes index := hredirects
      cases index with
      | zero => exact hstdin.symm
      | succ index =>
          refine ⟨pipes[index], List.getElem?_eq_getElem hindex, ?_⟩
          rw [plainInput, List.getElem?_map, List.getElem?_eq_getElem hindex]
          rfl

theorem outputIs_of_redirects (hstdout : shell 1 = some (.handedOn standard))
    (hredirects : Redirects isNew .output command.output openings
      (plainOutput standard pipes index) file) :
    OutputIs shell pipes openings index command (some (.handedOn file)) := by
  obtain ⟨argv, input, target⟩ := command
  cases target with
  | some path => exact ⟨file, hredirects.2, rfl⟩
  | none =>
      obtain rfl : file = plainOutput standard pipes index := hredirects
      rw [OutputIs, plainOutput, List.getElem?_map]
      cases pipes[index]? with
      | none => exact hstdout.symm
      | some pipe => rfl

end Streams

/-! ## Programs of a pipeline -/

/-- The process of a command has ended, or has begun its program with the streams of the
command and what else the shell hands on. -/
def Settles (isNew : FileId → Prop) (shell : Table) (plainInput plainOutput : FileId)
    (command : Command) (openings : List Opening) (outcome : Outcome) : Prop :=
  outcome = .ended ∨ ∃ input output,
    Redirects isNew .input command.input openings plainInput input ∧
    Redirects isNew .output command.output openings plainOutput output ∧
    outcome = .executed ((shell.set 0 (.handedOn input)).set 1 (.handedOn output)).onExecute

section Programs

variable {isNew : FileId → Prop} {shell table : Table} {input output file : FileId}
  {command : Command} {openings : List Opening} {outcome : Outcome}

/-- An open file that is neither new nor the shell's is held for the sake of a stream. -/
theorem Settles.holds_iff (hsettles : Settles isNew shell input output command openings outcome)
    (hold : ¬ isNew file) (hshell : ¬ shell.Holds file) :
    outcome.table.Holds file ↔
      (command.input = none ∧ input = file ∨ command.output = none ∧ output = file) ∧
        outcome ≠ .ended := by
  rcases hsettles with rfl | ⟨first, second, hfirst, hsecond, rfl⟩
  · exact iff_of_false (Table.not_holds_empty file) (fun hends => hends.2 rfl)
  · rw [Outcome.table, Table.holds_started_iff hshell, hfirst.eq_iff hold, hsecond.eq_iff hold]
    exact (and_iff_left nofun).symm

theorem Settles.redirects (hsettles : Settles isNew shell input output command openings
    (.executed table)) :
    ∃ first second, Redirects isNew .input command.input openings input first ∧
      Redirects isNew .output command.output openings output second ∧
      table 0 = some (.handedOn first) ∧ table 1 = some (.handedOn second) := by
  rcases hsettles with hended | ⟨first, second, hfirst, hsecond, hexecuted⟩
  · cases hended
  · cases hexecuted
    refine ⟨first, second, hfirst, hsecond, ?_, ?_⟩
    · exact Table.onExecute_eq_some_iff.mpr
        ⟨(Table.set_of_ne Nat.zero_ne_one).trans (Table.set_self ..), rfl⟩
    · exact Table.onExecute_eq_some_iff.mpr ⟨Table.set_self .., rfl⟩

variable {σ : Type} {view : View σ} {before piped started : σ} {ends : List PipeEnds}
  {pipes : List Pipe} {stdin stdout : FileId} {environment : Environment}

theorem settles_of_becomes (hopens : view.OpensPipes before ends pipes piped)
    (hstdin : view.shell before 0 = some (.handedOn stdin))
    (hstdout : view.shell before 1 = some (.handedOn stdout)) {group : Option Pid} {index : Nat}
    {process : Process} (htable : process.table = view.shell piped)
    (hbehavior : process.behavior = childAction environment
      { group, wiring := wiring ends index command, argv := command.argv } Behavior.exit)
    (hbecomes : process.Becomes openings outcome) :
    Settles (fun file => ¬ process.isOpened file) (view.shell before)
      (plainInput stdin pipes index) (plainOutput stdout pipes index) command openings
      outcome := by
  cases outcome with
  | ended => exact .inl rfl
  | executed table =>
      rw [Process.Becomes, htable, hbehavior] at hbecomes
      have hlow : ∀ descriptor, descriptor ≤ 2 → descriptor ∉ endsOf ends :=
        fun descriptor hle hmem => Nat.not_lt_of_le hle (hopens.above descriptor hmem)
      obtain ⟨first, hfirst, hinput⟩ := hopens.inputSource hstdin index
      obtain ⟨second, hsecond, houtput⟩ := hopens.outputSource hstdout index
      obtain ⟨input, output, htaken, hgiven, rfl⟩ := Machine.course_childAction
        (hlow 0 (Nat.zero_le 2)) (hlow 1 (Nat.le_succ 1)) (hopens.shell_of_some hstdin)
        (hopens.shell_of_some hstdout) hfirst hsecond hbecomes
      rw [hinput] at htaken
      rw [houtput] at hgiven
      rw [hopens.elsewhere]
      exact .inr ⟨input, output, htaken, hgiven, rfl⟩

variable {position : Nat} {pipe : Pipe} {index : Nat}

theorem ne_of_not_holds {descriptor : Descriptor} {standard : FileId}
    (hslot : shell descriptor = some (.handedOn standard)) (hnot : ¬ shell.Holds file) :
    standard ≠ file := by
  rintro rfl
  exact hnot ⟨descriptor, _, hslot, rfl⟩

/-- A reading end is held by the program behind the pipe. -/
theorem Settles.holds_reader_iff (hopens : view.OpensPipes before ends pipes piped)
    (hstdin : shell 0 = some (.handedOn stdin)) (hstdout : shell 1 = some (.handedOn stdout))
    (hpipe : pipes[position]? = some pipe) (hold : ¬ isNew pipe.reader)
    (hshell : ¬ shell.Holds pipe.reader)
    (hinput : ∀ earlier, index = earlier + 1 → command.input = none)
    (hsettles : Settles isNew shell (plainInput stdin pipes index) (plainOutput stdout pipes index)
      command openings outcome) :
    outcome.table.Holds pipe.reader ↔ index = position + 1 ∧ outcome ≠ .ended := by
  have houtput := hopens.plainOutput_ne_reader (List.mem_of_getElem? hpipe)
    (ne_of_not_holds hstdout hshell) index
  rw [hsettles.holds_iff hold hshell,
    hopens.plainInput_eq_reader_iff hpipe (ne_of_not_holds hstdin hshell) index,
    or_iff_left fun hwrites => houtput hwrites.2]
  exact and_congr_left' ⟨fun hreads => hreads.2, fun hindex => ⟨hinput position hindex, hindex⟩⟩

/-- A writing end is held by the program before the pipe, unless it writes to a file. -/
theorem Settles.holds_writer_iff (hopens : view.OpensPipes before ends pipes piped)
    (hstdin : shell 0 = some (.handedOn stdin)) (hstdout : shell 1 = some (.handedOn stdout))
    (hpipe : pipes[position]? = some pipe) (hold : ¬ isNew pipe.writer)
    (hshell : ¬ shell.Holds pipe.writer)
    (hsettles : Settles isNew shell (plainInput stdin pipes index) (plainOutput stdout pipes index)
      command openings outcome) :
    outcome.table.Holds pipe.writer ↔
      index = position ∧ command.output = none ∧ outcome ≠ .ended := by
  have hinput := hopens.plainInput_ne_writer (List.mem_of_getElem? hpipe)
    (ne_of_not_holds hstdin hshell) index
  rw [hsettles.holds_iff hold hshell,
    hopens.plainOutput_eq_writer_iff hpipe (ne_of_not_holds hstdout hshell) index,
    or_iff_right fun hreads => hinput hreads.2, and_assoc, and_left_comm]

end Programs

/-- The processes of a pipeline are connected by its pipes: the streams of the programs
lead where they should, nobody holds an end that is not meant for it, and so a program
meets the end of its input when the one before it is done. -/
structure Connected (before after : Table) (commands : List Command) (pipes : List Pipe)
    (openings : Nat → List Opening) (outcomes : Nat → Outcome) : Prop where
  input : ∀ index command table, commands[index]? = some command →
    outcomes index = .executed table →
    InputIs before pipes (openings index) index command (table 0)
  output : ∀ index command table, commands[index]? = some command →
    outcomes index = .executed table →
    OutputIs before pipes (openings index) index command (table 1)
  shell : ∀ pipe ∈ pipes, ¬ after.Holds pipe.reader ∧ ¬ after.Holds pipe.writer
  reader : ∀ position pipe index command, pipes[position]? = some pipe →
    commands[index]? = some command →
    ((outcomes index).table.Holds pipe.reader ↔
      index = position + 1 ∧ outcomes index ≠ .ended)
  writer : ∀ position pipe index command, pipes[position]? = some pipe →
    commands[index]? = some command →
    ((outcomes index).table.Holds pipe.writer ↔
      index = position ∧ command.output = none ∧ outcomes index ≠ .ended)
  inputEnds : ∀ position pipe command, pipes[position]? = some pipe →
    commands[position]? = some command →
    outcomes position = .ended ∨ command.output ≠ none →
    ¬ after.Holds pipe.writer ∧
      ∀ index < commands.length, ¬ (outcomes index).table.Holds pipe.writer

section Launched

variable {σ : Type} {view : View σ} {before piped started : σ} {ends : List PipeEnds}
  {pipes : List Pipe} {stdin stdout : FileId} {environment : Environment}
  {commands : List Command} {pids : List Pid} {openings : Nat → List Opening}
  {outcomes : Nat → Outcome}

theorem settles_of_starts (hopens : view.OpensPipes before ends pipes piped)
    (hstdin : view.shell before 0 = some (.handedOn stdin))
    (hstdout : view.shell before 1 = some (.handedOn stdout))
    (hstarts : view.Starts environment ends 0 commands piped pids started)
    (hbecomes : ∀ index pid, pids[index]? = some pid → ∃ process,
      view.process? started pid = some process ∧
        process.Becomes (openings index) (outcomes index))
    {index : Nat} {command : Command} (hcommand : commands[index]? = some command) :
    ∃ isNew, (∀ file, view.isOpened piped file → ¬ isNew file) ∧
      Settles isNew (view.shell before) (plainInput stdin pipes index)
        (plainOutput stdout pipes index) command (openings index) (outcomes index) := by
  obtain ⟨hindex, -⟩ := List.getElem?_eq_some_iff.mp hcommand
  rw [← hstarts.length] at hindex
  obtain ⟨process, hprocess, hbecomes⟩ :=
    hbecomes index pids[index] (List.getElem?_eq_getElem hindex)
  obtain ⟨group, found, hfound, htable, hbehavior, hold⟩ :=
    hstarts.started index command _ hcommand (List.getElem?_eq_getElem hindex)
  cases hprocess.symm.trans hfound
  rw [Nat.zero_add] at hbehavior
  exact ⟨_, fun file hfile hnew => hnew (hold file hfile),
    settles_of_becomes hopens hstdin hstdout htable hbehavior hbecomes⟩

theorem connected_of_settles (hopens : view.OpensPipes before ends pipes piped)
    (hopened : ∀ descriptor slot, view.shell before descriptor = some slot →
      view.isOpened before slot.file)
    (hstdin : view.shell before 0 = some (.handedOn stdin))
    (hstdout : view.shell before 1 = some (.handedOn stdout))
    (hlength : pipes.length + 1 = commands.length)
    (hfirst : ∀ index command, commands[index + 1]? = some command → command.input = none)
    (hsettles : ∀ index command, commands[index]? = some command →
      ∃ isNew, (∀ file, view.isOpened piped file → ¬ isNew file) ∧
        Settles isNew (view.shell before) (plainInput stdin pipes index)
          (plainOutput stdout pipes index) command (openings index) (outcomes index)) :
    Connected (view.shell before) (view.shell before) commands pipes openings outcomes := by
  have hshell : ∀ file, ¬ view.isOpened before file → ¬ (view.shell before).Holds file := by
    rintro file hnew ⟨descriptor, slot, hslot, rfl⟩
    exact hnew (hopened descriptor slot hslot)
  have hreaders : ∀ pipe ∈ pipes, ¬ (view.shell before).Holds pipe.reader :=
    fun pipe hmem => hshell _ (hopens.new pipe hmem).1
  have hwriters : ∀ pipe ∈ pipes, ¬ (view.shell before).Holds pipe.writer :=
    fun pipe hmem => hshell _ (hopens.new pipe hmem).2
  have hwriter : ∀ position pipe index command, pipes[position]? = some pipe →
      commands[index]? = some command → ((outcomes index).table.Holds pipe.writer ↔
        index = position ∧ command.output = none ∧ outcomes index ≠ .ended) := by
    intro position pipe index command hpipe hcommand
    obtain ⟨isNew, hold, hsettled⟩ := hsettles index command hcommand
    have hmem := List.mem_of_getElem? hpipe
    exact hsettled.holds_writer_iff hopens hstdin hstdout hpipe
      (hold _ (hopens.opened pipe hmem).2) (hwriters pipe hmem)
  exact {
    input := by
      intro index command table hcommand hexecuted
      obtain ⟨isNew, -, hsettled⟩ := hsettles index command hcommand
      rw [hexecuted] at hsettled
      obtain ⟨first, -, hredirects, -, htable, -⟩ := hsettled.redirects
      obtain ⟨hindex, -⟩ := List.getElem?_eq_some_iff.mp hcommand
      rw [← hlength] at hindex
      rw [htable]
      exact inputIs_of_redirects hstdin (Nat.le_of_lt_succ hindex) hredirects
    output := by
      intro index command table hcommand hexecuted
      obtain ⟨isNew, -, hsettled⟩ := hsettles index command hcommand
      rw [hexecuted] at hsettled
      obtain ⟨-, second, -, hredirects, -, htable⟩ := hsettled.redirects
      rw [htable]
      exact outputIs_of_redirects hstdout hredirects
    shell := fun pipe hmem => ⟨hreaders pipe hmem, hwriters pipe hmem⟩
    reader := by
      intro position pipe index command hpipe hcommand
      obtain ⟨isNew, hold, hsettled⟩ := hsettles index command hcommand
      have hmem := List.mem_of_getElem? hpipe
      refine hsettled.holds_reader_iff hopens hstdin hstdout hpipe
        (hold _ (hopens.opened pipe hmem).1) (hreaders pipe hmem) ?_
      rintro earlier rfl
      exact hfirst earlier command hcommand
    writer := hwriter
    inputEnds := by
      intro position pipe command hpipe hcommand hdone
      refine ⟨hwriters pipe (List.mem_of_getElem? hpipe), fun index hindex hholds => ?_⟩
      have hat := List.getElem?_eq_getElem hindex
      obtain ⟨rfl, houtput, hruns⟩ := (hwriter position pipe index _ hpipe hat).mp hholds
      cases hcommand.symm.trans hat
      exact hdone.elim hruns fun hredirected => hredirected houtput }

end Launched

variable {σ : Type} {starter : Starter σ} {view : View σ} {sound : σ → Prop} {state : σ}

/-- A pipeline that passes the check is refused for an argument that no program can be
given, and then nothing has happened; or a call of the system fails, for which it is given
up; or it is launched, and its processes are connected as soon as each has begun its program
or ended. -/
theorem launch_connects (hlawful : starter.Lawful view sound) (hsound : sound state)
    {stdin stdout : FileId} (hstdin : view.shell state 0 = some (.handedOn stdin))
    (hstdout : view.shell state 1 = some (.handedOn stdout)) {bindings : Bindings}
    {tokens : List Token} {pipeline : Pipeline} (hparse : parse bindings tokens = .ok pipeline)
    (environment : Environment) :
    (∃ argument, badArgument? pipeline.commands = some argument ∧
      launch starter environment pipeline.commands state =
        (.error (.invalidArgument argument), state)) ∨
    (∃ reason errno failed, starter.Fails environment pipeline.commands state errno ∧
      launch starter environment pipeline.commands state =
        (.error (.launch reason errno), failed)) ∨
    ∃ job after ends pipes piped,
      launch starter environment pipeline.commands state = (.ok job, after) ∧
      job.pids.length = pipeline.commands.length ∧
      pipes.length + 1 = pipeline.commands.length ∧
      openPipes starter (pipeline.commands.length - 1) state = (.ok (), ends, piped) ∧
      view.OpensPipes state ends pipes piped ∧
      ∀ (openings : Nat → List Opening) (outcomes : Nat → Outcome),
        (∀ index pid, job.pids[index]? = some pid → ∃ process,
          view.process? after pid = some process ∧
            process.Becomes (openings index) (outcomes index)) →
        Connected (view.shell state) (view.shell after) pipeline.commands pipes openings
          outcomes := by
  obtain ⟨hnonempty, hfirst⟩ := commands_of_parse hparse
  refine (hlawful.launch environment hnonempty hsound).imp_right (Or.imp_right ?_)
  rintro ⟨job, ends, pipes, piped, started, after, hlaunch, hlength, hopen, hopens, hstarts,
    hcloses⟩
  refine ⟨job, after, ends, pipes, piped, hlaunch, hstarts.length, hlength, hopen, hopens, ?_⟩
  intro openings outcomes hbecomes
  have hshell : view.shell after = view.shell state := by
    rw [hcloses.shell, hstarts.shell, hopens.elsewhere]
  rw [hcloses.process?] at hbecomes
  rw [hshell]
  exact connected_of_settles hopens (fun _ _ => hlawful.opened hsound) hstdin hstdout hlength
    hfirst fun _ _ hcommand => settles_of_starts hopens hstdin hstdout hstarts hbecomes hcommand

/-- The programs of `cat | wc > out` have begun. -/
theorem launch_connects_counting :
    let tokens : List Token :=
      [.word ⟨[.literal "cat"]⟩, .pipe, .word ⟨[.literal "wc"]⟩, .redirect .output,
        .word ⟨[.literal "out"]⟩]
    let machine := Machine.Setup.start default
    let opened : List Opening := [⟨Text.encode "out", Direction.output.openMode, 5⟩]
    ∃ pipeline job after pipes first second,
      parse ⟨fun _ => none, none⟩ tokens = .ok pipeline ∧
      launch (Machine.kernel default).toStarter {} pipeline.commands machine = (.ok job, after) ∧
      pipes.length = 1 ∧
      Connected machine.shell.table after.shell.table pipeline.commands pipes
        (fun index => if index = 0 then [] else opened)
        (fun index => .executed (if index = 0 then first else second)) := by
  intro tokens machine opened
  have hparse : parse ⟨fun _ => none, none⟩ tokens = .ok
      { commands := [{ argv := ["cat"] }, { argv := ["wc"], output := some "out" }]
        background := false } := rfl
  rcases launch_connects (Machine.kernel_lawful default) (Machine.sound_start default)
      (show Machine.view.shell machine 0 = some (.handedOn 0) from rfl)
      (show Machine.view.shell machine 1 = some (.handedOn 1) from rfl) hparse {} with
    ⟨argument, hargument, -⟩ | ⟨reason, errno, failed, -, hfailed⟩ |
      ⟨job, after, ends, pipes, piped, hlaunch, -, hlength, -, -, hconnected⟩
  · cases hargument
  · cases congrArg Prod.fst hfailed
  · obtain rfl : job = ⟨1001, [1002]⟩ := Except.ok.inj (congrArg Prod.fst hlaunch).symm
    have hafter : after = _ := (congrArg Prod.snd hlaunch).symm
    -- every process has both ends of the pipe, behind the descriptors 3 and 4
    let process (child : Child) : Process :=
      { table := Machine.Descriptors.toTable
          [(0, .handedOn 0), (1, .handedOn 1), (2, .handedOn 2), (3, { file := 3 }),
            (4, { file := 4 })]
        behavior := childAction {} child Behavior.exit
        isOpened := (· < 5) }
    let cat : Child := ⟨none, [.duplicate 4 1, .close 3, .close 4], ["cat"]⟩
    let wc : Child :=
      ⟨some 1001, [.duplicate 3 0, .close 3, .close 4, .redirect .output "out"], ["wc"]⟩
    have hfirst : Machine.view.process? after 1001 = some (process cat) := by
      rw [hafter]
      rfl
    have hsecond : Machine.view.process? after 1002 = some (process wc) := by
      rw [hafter]
      rfl
    have hbegins : ∃ table, (process cat).Becomes [] (.executed table) := by
      refine ⟨?first, ?cat⟩
      case cat =>
        refine Course.duplicate rfl ?_
        refine .close (.close ?_)
        exact .execute
    have hfollows : ∃ table, (process wc).Becomes opened (.executed table) := by
      refine ⟨?second, ?wc⟩
      case wc =>
        refine Course.duplicate rfl ?_
        refine .close (.close ?_)
        refine .openPath 3 5 rfl (Nat.lt_irrefl 5) ?_
        refine .duplicate rfl ?_
        refine .close ?_
        exact .execute
    obtain ⟨first, hfirstBegins⟩ := hbegins
    obtain ⟨second, hsecondBegins⟩ := hfollows
    refine ⟨_, _, _, pipes, first, second, hparse, hlaunch, Nat.add_right_cancel hlength,
      hconnected _ _ ?_⟩
    rintro (_ | _ | index) pid hpid
    · cases hpid
      exact ⟨process cat, hfirst, hfirstBegins⟩
    · cases hpid
      exact ⟨process wc, hsecond, hsecondBegins⟩
    · cases hpid

end JobShell.Launch
