import JobShell.Proofs.Builtin.Directories
import JobShell.Proofs.Launch.Redirecting
import JobShell.Proofs.Session.Leaving

/-!
# Where a line is run

A line that parses is launched, run by a builtin in the shell, or refused for where it names
a builtin.  Which of these it is depends on the names of its programs after expansion, so it
does not matter how they were written.

That something is never asked of the system is said by replacing it: whatever another system
does where it is asked, the line comes to the same.
-/

namespace JobShell

variable {σ : Type}

/-! ## Systems that differ in little -/

/-- Starters that do the same but for children with the name of a builtin. -/
structure Launch.Starter.AlikeForPrograms (starter other : Starter σ) : Prop where
  patience : starter.patience = other.patience
  openPipe : starter.openPipe = other.openPipe
  spawn : ∀ environment child, Builtin.ofName? child.program = none →
    starter.spawn environment child = other.spawn environment child
  closePipes : starter.closePipes = other.closePipes
  blockSignals : starter.blockSignals = other.blockSignals
  unblockSignals : starter.unblockSignals = other.unblockSignals
  terminateGroup : starter.terminateGroup = other.terminateGroup
  waitFor : starter.waitFor = other.waitFor

namespace Launch.Starter.AlikeForPrograms

variable {starter other : Launch.Starter σ}

theorem openPipes (halike : starter.AlikeForPrograms other) (count : Nat) (state : σ) :
    Launch.openPipes starter count state = Launch.openPipes other count state := by
  induction count generalizing state with
  | zero => rfl
  | succ count ih => simp only [Launch.openPipes, halike.openPipe, ih]

theorem spawnFrom (halike : starter.AlikeForPrograms other) (environment : Environment)
    (pipes : List PipeEnds) {commands : List Command}
    (hprograms : ∀ command ∈ commands, Builtin.ofName? command.program = none)
    (group : Option Pid) (index : Nat) (state : σ) :
    Launch.spawnFrom starter environment pipes group index commands state =
      Launch.spawnFrom other environment pipes group index commands state := by
  induction commands generalizing group index state with
  | nil => rfl
  | cons command rest ih =>
      obtain ⟨hprogram, hrest⟩ := List.forall_mem_cons.mp hprograms
      have hspawn := halike.spawn environment
        { group, wiring := Launch.wiring pipes index command, argv := command.argv } hprogram
      simp only [Launch.spawnFrom, hspawn, ih hrest]

theorem abandon (halike : starter.AlikeForPrograms other) (pids : List Pid) (state : σ) :
    Launch.abandon starter pids state = Launch.abandon other pids state := by
  have hawait : Launch.awaitEnd starter = Launch.awaitEnd other := by
    funext turns pid state
    induction turns generalizing state with
    | zero => rfl
    | succ turns ih => simp only [Launch.awaitEnd, halike.waitFor, ih]
  simp only [Launch.abandon, hawait, halike.terminateGroup, halike.patience]

theorem launch (halike : starter.AlikeForPrograms other) (environment : Environment)
    {commands : List Command}
    (hprograms : ∀ command ∈ commands, Builtin.ofName? command.program = none) (state : σ) :
    Launch.launch starter environment commands state =
      Launch.launch other environment commands state := by
  simp only [Launch.launch, halike.openPipes, halike.spawnFrom environment _ hprograms,
    halike.closePipes, halike.blockSignals, halike.unblockSignals, halike.abandon]

end Launch.Starter.AlikeForPrograms

/-- Kernels that do the same for a line, but for changing directories and starting processes. -/
structure Kernel.Alike (kernel other : Kernel σ) : Prop where
  account : kernel.account = other.account
  patience : kernel.patience = other.patience
  print : kernel.print = other.print
  openTarget : kernel.openTarget = other.openTarget
  toCollector : kernel.toCollector = other.toCollector
  poll : kernel.poll = other.poll
  interruptGroup : kernel.interruptGroup = other.interruptGroup
  sleep : kernel.sleep = other.sleep
  setAlarm : kernel.setAlarm = other.setAlarm
  cancelAlarm : kernel.cancelAlarm = other.cancelAlarm

theorem Kernel.alike_withStarter (kernel : Kernel σ) {starter : Launch.Starter σ}
    (hpatience : starter.patience = kernel.patience) :
    Kernel.Alike { kernel with toStarter := starter } kernel := by
  constructor <;> first | exact hpatience | rfl

theorem Kernel.alike_withDirectories (kernel : Kernel σ)
    (enter : Bytes → σ → Except Errno Unit × σ) (directory : σ → Except Errno Bytes) :
    Kernel.Alike { kernel with enter, directory } kernel := by
  constructor <;> rfl

namespace Kernel.Alike

variable {kernel other : Kernel σ}

theorem say (halike : kernel.Alike other) (text : String) (state : σ) :
    kernel.say text state = other.say text state := by
  rw [Kernel.say, Kernel.say, halike.print]

theorem performEffects (halike : kernel.Alike other) (effects : List Quit.Effect) (state : σ) :
    Session.performEffects kernel effects state = Session.performEffects other effects state := by
  have heffect : Session.performEffect kernel = Session.performEffect other := by
    funext effect state
    cases effect with
    | announce timeout => simp only [Session.performEffect, halike.say]
    | arm timeout => simp only [Session.performEffect, halike.setAlarm]
    | cancel => simp only [Session.performEffect, halike.cancelAlarm]
  simp only [Session.performEffects, heffect]

theorem serveAll (halike : kernel.Alike other) (deliveries : List Quit.Delivery)
    (serviced : Serviced) (session : Session) (state : σ) :
    session.serveAll kernel deliveries serviced state =
      session.serveAll other deliveries serviced state := by
  induction deliveries generalizing serviced session state with
  | nil => rfl
  | cons delivery rest ih =>
      cases delivery <;>
        simp only [Session.serveAll, halike.interruptGroup, halike.performEffects, ih]

theorem serviceSignals (halike : kernel.Alike other) (session : Session) (state : σ) :
    session.serviceSignals kernel state = session.serviceSignals other state := by
  simp only [Session.serviceSignals, halike.toCollector, halike.patience, halike.serveAll]

theorem turn (halike : kernel.Alike other) (last : Pid) (wait : Wait σ) :
    wait.turn kernel last = wait.turn other last := by
  obtain ⟨alive, waiting, status, session, state⟩ := wait
  match alive, waiting with
  | _, _ :: _ => simp only [Wait.turn, halike.poll]
  | [], [] => rfl
  | _ :: _, [] => simp only [Wait.turn, halike.sleep, halike.serviceSignals]

theorem run (halike : kernel.Alike other) (last : Pid) (turns : Nat) (wait : Wait σ) :
    wait.run kernel last turns = wait.run other last turns := by
  induction turns generalizing wait with
  | zero => rfl
  | succ turns ih => simp only [Wait.run, halike.turn, ih]

theorem waitForeground (halike : kernel.Alike other) (job : Launch.Job) (session : Session)
    (state : σ) :
    session.waitForeground kernel job state = session.waitForeground other job state := by
  rw [Session.waitForeground, Session.waitForeground, halike.patience, halike.run]

end Kernel.Alike

/-! ## The three ways -/

/-- What a session does after a builtin. -/
def Builtin.Outcome.flow : Builtin.Outcome → Flow
  | .status value => .proceed value
  | .exit code => .exit code

namespace Session

variable {kernel : Kernel σ} {line : String} {session : Session} {tokens : List Token}
  {pipeline : Pipeline}

theorem runBuiltin_of_opened {builtin : Builtin} {command : Command} {state opened final : σ}
    {outcome : Except Fault Builtin.Outcome} {environment : Environment}
    (hopen : kernel.openTargets command.targets state = (.ok (), opened))
    (hrun : builtin.run kernel.toHost command.argv.tail session.environment opened =
      (outcome, environment, final)) :
    session.runBuiltin kernel builtin command state =
      (outcome.map Builtin.Outcome.flow, { session with environment }, final) := by
  simp only [runBuiltin, hopen, hrun]
  rcases outcome with fault | status | code <;> rfl

/-- The line is launched, and no builtin runs: the environment stays as it is, and changing
the directory is not asked for. -/
structure Launches (kernel : Kernel σ) (session : Session) (line : String)
    (pipeline : Pipeline) (state : σ) : Prop where
  launch : session.execute kernel line state =
    if pipeline.background then session.launchBackground kernel pipeline state
    else session.launchForeground kernel pipeline state
  environment : ∀ {outcome next final},
    session.execute kernel line state = some (outcome, next, final) →
    next.environment = session.environment
  directory : ∀ enter directory,
    session.execute { kernel with enter, directory } line state =
      session.execute kernel line state

/-- A builtin runs in the shell once the targets have been opened, and nothing else is done.
No process is asked for, whether or not they can be opened. -/
structure RunsInside (kernel : Kernel σ) (session : Session) (line : String)
    (builtin : Builtin) (command : Command) (arguments : List String) (state : σ) : Prop where
  runs : ∀ {opened outcome environment final},
    kernel.openTargets command.targets state = (.ok (), opened) →
    builtin.run kernel.toHost arguments session.environment opened =
      (outcome, environment, final) →
    session.execute kernel line state =
      some (outcome.map Builtin.Outcome.flow, { session with environment }, final)
  refused : ∀ {fault opened},
    kernel.openTargets command.targets state = (.error fault, opened) →
    session.execute kernel line state = some (.error fault, session, opened)
  processes : ∀ starter : Launch.Starter σ,
    session.execute { kernel with toStarter := starter } line state =
      session.execute kernel line state

theorem execute_of_parse (state : σ) (hlex : lex line = .ok tokens)
    (hparse : parse (session.environment.bindings kernel.account) tokens = .ok pipeline) :
    session.execute kernel line state =
      match dispatch pipeline with
      | .error error => some (.error (.malformed error), session, state)
      | .ok (.builtin builtin command) =>
          some (session.runBuiltin kernel builtin command state)
      | .ok .background => session.launchBackground kernel pipeline state
      | .ok .foreground => session.launchForeground kernel pipeline state := by
  rw [execute, read_of_parse hlex hparse]
  cases dispatch pipeline with
  | error error => rfl
  | ok dispatched => cases dispatched <;> rfl

theorem execute_of_programs (state : σ) (hlex : lex line = .ok tokens)
    (hparse : parse (session.environment.bindings kernel.account) tokens = .ok pipeline)
    (hprograms : ∀ command ∈ pipeline.commands, Builtin.ofName? command.program = none) :
    session.execute kernel line state =
      if pipeline.background then session.launchBackground kernel pipeline state
      else session.launchForeground kernel pipeline state := by
  rw [execute_of_parse state hlex hparse, dispatch_of_programs hprograms]
  cases pipeline.background <;> rfl

theorem execute_of_builtin {command : Command} {builtin : Builtin} (state : σ)
    (hlex : lex line = .ok tokens)
    (hparse : parse (session.environment.bindings kernel.account) tokens =
      .ok { commands := [command], background := false })
    (hbuiltin : Builtin.ofName? command.program = some builtin) :
    session.execute kernel line state =
      some (session.runBuiltin kernel builtin command state) := by
  have hdispatch := (dispatch_eq_builtin_iff _ builtin command).mpr ⟨rfl, hbuiltin⟩
  rw [execute_of_parse state hlex hparse, hdispatch]

/-- A pipeline that is to be launched names no builtin. -/
theorem programs_of_read {dispatched : Dispatch}
    (hread : session.read kernel line = .ok (some (pipeline, dispatched)))
    (hdispatched : ∀ builtin command, dispatched ≠ .builtin builtin command) :
    ∀ command ∈ pipeline.commands, Builtin.ofName? command.program = none := by
  obtain ⟨tokens, -, -, hdispatch⟩ := (read_eq_some_iff pipeline dispatched).mp hread
  rw [← List.findSome?_eq_none_iff]
  cases hfind : findBuiltin? pipeline with
  | none => exact hfind
  | some builtin =>
      rw [dispatch, hfind] at hdispatch
      dsimp only at hdispatch
      split at hdispatch
      · split at hdispatch
        · cases hdispatch
        · cases hdispatch
          exact absurd rfl (hdispatched _ _)
      · cases hdispatch

theorem environment_of_launchForeground {outcome : Except Fault Flow} {next : Session}
    {state final : σ}
    (hlaunched : session.launchForeground kernel pipeline state = some (outcome, next, final)) :
    next.environment = session.environment := by
  rw [launchForeground] at hlaunched
  split at hlaunched
  · cases hlaunched
    rfl
  · obtain ⟨⟨flow, waited, rest⟩, hwait, hresult⟩ := Option.map_eq_some_iff.mp hlaunched
    obtain ⟨quit, rfl⟩ := Wait.session_of_waitForeground hwait
    cases hresult
    rfl

theorem read_alike {other : Kernel σ} (halike : kernel.Alike other) (line : String)
    (session : Session) : session.read kernel line = session.read other line := by
  rw [read, read, halike.account]

/-- A line is launched alike by kernels that start its processes alike. -/
theorem launch_alike {other : Kernel σ} (halike : kernel.Alike other) (session : Session)
    (pipeline : Pipeline) (state : σ)
    (hlaunch : ∀ state,
      Launch.launch kernel.toStarter session.environment pipeline.commands state =
        Launch.launch other.toStarter session.environment pipeline.commands state) :
    session.launchBackground kernel pipeline state =
        session.launchBackground other pipeline state ∧
      session.launchForeground kernel pipeline state =
        session.launchForeground other pipeline state := by
  constructor
  · simp only [launchBackground, hlaunch, halike.say]
  · simp only [launchForeground, hlaunch, halike.waitForeground]

/-- A builtin asks for no process. -/
theorem runBuiltin_withStarter (kernel : Kernel σ) (starter : Launch.Starter σ)
    (builtin : Builtin) (command : Command) (session : Session) (state : σ) :
    session.runBuiltin { kernel with toStarter := starter } builtin command state =
      session.runBuiltin kernel builtin command state := by
  have hopen (targets : List (Direction × String)) (state : σ) :
      Kernel.openTargets { kernel with toStarter := starter } targets state =
        kernel.openTargets targets state := by
    induction targets generalizing state with
    | nil => rfl
    | cons target rest ih => simp only [Kernel.openTargets, ih]
  simp only [runBuiltin, hopen]

theorem launches (state : σ) (hlex : lex line = .ok tokens)
    (hparse : parse (session.environment.bindings kernel.account) tokens = .ok pipeline)
    (hprograms : ∀ command ∈ pipeline.commands, Builtin.ofName? command.program = none) :
    session.Launches kernel line pipeline state where
  launch := execute_of_programs state hlex hparse hprograms
  environment := by
    intro outcome next final hexecute
    rw [execute_of_programs state hlex hparse hprograms] at hexecute
    split at hexecute
    · obtain ⟨⟨jobs, rfl⟩, -⟩ := session_launchBackground hexecute
      rfl
    · exact environment_of_launchForeground hexecute
  directory enter directory := by
    have halike := kernel.alike_withDirectories enter directory
    obtain ⟨hbackground, hforeground⟩ :=
      launch_alike halike session pipeline state fun _ => rfl
    have hother : session.execute { kernel with enter, directory } line state = _ :=
      execute_of_programs state hlex hparse hprograms
    rw [hother, execute_of_programs state hlex hparse hprograms, hbackground, hforeground]

theorem runsInside {command : Command} {builtin : Builtin} {arguments : List String} (state : σ)
    (hlex : lex line = .ok tokens)
    (hparse : parse (session.environment.bindings kernel.account) tokens =
      .ok { commands := [command], background := false })
    (hbuiltin : Builtin.ofName? command.program = some builtin)
    (hargv : command.argv = builtin.name :: arguments) :
    session.RunsInside kernel line builtin command arguments state := by
  have hexecute := execute_of_builtin state hlex hparse hbuiltin
  constructor
  · intro opened outcome environment final hopen hrun
    have htail : command.argv.tail = arguments := by rw [hargv, List.tail_cons]
    rw [hexecute, runBuiltin_of_opened hopen (htail ▸ hrun)]
  · intro fault opened hopen
    rw [hexecute, runBuiltin, hopen]
  · intro starter
    have hother : session.execute { kernel with toStarter := starter } line state = _ :=
      execute_of_builtin state hlex hparse hbuiltin
    rw [hother, hexecute, runBuiltin_withStarter]

theorem execute_of_misplaced (state : σ) (hlex : lex line = .ok tokens)
    (hparse : parse (session.environment.bindings kernel.account) tokens = .ok pipeline)
    (hnamed : ¬ ∀ command ∈ pipeline.commands, Builtin.ofName? command.program = none)
    (hplace : ¬ ∃ command, pipeline = { commands := [command], background := false }) :
    ∃ before command after builtin, pipeline.commands = before ++ command :: after ∧
      (∀ earlier ∈ before, Builtin.ofName? earlier.program = none) ∧
      Builtin.ofName? command.program = some builtin ∧
      session.execute kernel line state =
        some (.error (.malformed (.builtinNotAllowed builtin.name
          (if 1 < pipeline.commands.length then "in a pipeline" else "in the background"))),
          session, state) := by
  cases hfind : findBuiltin? pipeline with
  | none =>
      rw [findBuiltin?, List.findSome?_eq_none_iff] at hfind
      exact absurd hfind hnamed
  | some builtin =>
      obtain ⟨before, command, after, hcommands, hbuiltin, hbefore⟩ :=
        List.findSome?_eq_some_iff.mp hfind
      have hmisplaced : 1 < pipeline.commands.length ∨ pipeline.background = true := by
        obtain ⟨commands, background⟩ := pipeline
        rcases commands with _ | ⟨only, _ | ⟨second, others⟩⟩
        · cases hfind
        · refine .inr (Bool.of_not_eq_false ?_)
          rintro rfl
          exact hplace ⟨only, rfl⟩
        · exact .inl (Nat.one_lt_succ_succ _)
      refine ⟨before, command, after, builtin, hcommands, hbefore, hbuiltin, ?_⟩
      rw [execute_of_parse state hlex hparse, dispatch_of_found hfind hmisplaced, notAllowed]

/-- What a line comes to does not depend on what would become of a process with the name of a
builtin. -/
theorem execute_alikeForPrograms {starter : Launch.Starter σ}
    (halike : starter.AlikeForPrograms kernel.toStarter) (line : String) (session : Session)
    (state : σ) :
    session.execute { kernel with toStarter := starter } line state =
      session.execute kernel line state := by
  have hkernel := kernel.alike_withStarter halike.patience
  have hlaunched {pipeline : Pipeline} {dispatched : Dispatch}
      (hread : session.read kernel line = .ok (some (pipeline, dispatched)))
      (hdispatched : ∀ builtin command, dispatched ≠ .builtin builtin command) :=
    launch_alike hkernel session pipeline state
      (halike.launch session.environment (programs_of_read hread hdispatched))
  rw [execute, execute, read_alike hkernel]
  cases hline : session.read kernel line with
  | error error => rfl
  | ok found =>
      rcases found with _ | ⟨pipeline, ⟨builtin, command⟩ | _ | _⟩
      · rfl
      · exact congrArg some (runBuiltin_withStarter kernel starter builtin command session state)
      · exact (hlaunched hline (by simp)).2
      · exact (hlaunched hline (by simp)).1

/-- A line that parses is launched if none of its programs is a builtin.  A builtin that
stands alone in the foreground runs in the shell with the other arguments, once its targets
have been opened, and no process is asked for.  Any other line is refused for the first
builtin in it, because of the pipeline before because of the background.  So no process is
asked for that has the name of a builtin. -/
theorem execute_dispatches (state : σ) (hlex : lex line = .ok tokens)
    (hparse : parse (session.environment.bindings kernel.account) tokens = .ok pipeline) :
    ((∀ command ∈ pipeline.commands, Builtin.ofName? command.program = none) →
      session.Launches kernel line pipeline state) ∧
    (∀ command builtin, pipeline = { commands := [command], background := false } →
      Builtin.ofName? command.program = some builtin →
      ∃ arguments, command.argv = builtin.name :: arguments ∧
        session.RunsInside kernel line builtin command arguments state) ∧
    (¬ (∀ command ∈ pipeline.commands, Builtin.ofName? command.program = none) →
      (¬ ∃ command, pipeline = { commands := [command], background := false }) →
      ∃ before command after builtin, pipeline.commands = before ++ command :: after ∧
        (∀ earlier ∈ before, Builtin.ofName? earlier.program = none) ∧
        Builtin.ofName? command.program = some builtin ∧
        session.execute kernel line state =
          some (.error (.malformed (.builtinNotAllowed builtin.name
            (if 1 < pipeline.commands.length then "in a pipeline" else "in the background"))),
            session, state)) ∧
    ∀ starter : Launch.Starter σ, starter.AlikeForPrograms kernel.toStarter →
      session.execute { kernel with toStarter := starter } line state =
        session.execute kernel line state := by
  refine ⟨launches state hlex hparse, ?_, execute_of_misplaced state hlex hparse,
    fun starter halike => execute_alikeForPrograms halike line session state⟩
  rintro command builtin rfl hbuiltin
  have hargv := (program_eq_some_iff command builtin).mp hbuiltin
  exact ⟨command.argv.tail, hargv, runsInside state hlex hparse hbuiltin hargv⟩

/-- A builtin is known by its name from a variable and through quotes and backslashes, but
not as an argument. -/
theorem execute_dispatches_spellings :
    let account : Account := { name := none, home := none, isSuperuser := false }
    let kernel := Machine.kernel account
    let session : Session := { environment := ⟨[("X", Text.encode "exit")]⟩ }
    session.execute kernel "ls exit" Builtin.linkedTree =
        session.launchForeground kernel
          { commands := [{ argv := ["ls", "exit"] }], background := false } Builtin.linkedTree ∧
      session.execute kernel "$X 7" Builtin.linkedTree =
        some (.ok (.exit 7), session, Builtin.linkedTree) ∧
      session.execute kernel "ls | \"c\"\\d | $X &" Builtin.linkedTree =
        some (.error (.malformed (.builtinNotAllowed "cd" "in a pipeline")), session,
          Builtin.linkedTree) := by
  intro account kernel session
  refine ⟨?_, ?_, ?_⟩
  · let tokens : List Token := [.word (.literal "ls"), .word (.literal "exit")]
    let pipeline : Pipeline := { commands := [{ argv := ["ls", "exit"] }], background := false }
    have hlex : lex "ls exit" = .ok tokens := rfl
    have hparse : parse (session.environment.bindings kernel.account) tokens = .ok pipeline := rfl
    obtain ⟨hlaunches, -⟩ := execute_dispatches Builtin.linkedTree hlex hparse
    exact (hlaunches (by decide)).launch
  · let tokens : List Token := [.word ⟨[.reference "X"]⟩, .word (.literal "7")]
    let pipeline : Pipeline := { commands := [{ argv := ["exit", "7"] }], background := false }
    have hlex : lex "$X 7" = .ok tokens := rfl
    have hparse : parse (session.environment.bindings kernel.account) tokens = .ok pipeline := rfl
    obtain ⟨-, hinside, -⟩ := execute_dispatches Builtin.linkedTree hlex hparse
    obtain ⟨arguments, hargv, hruns⟩ := hinside _ .exit rfl rfl
    cases hargv
    exact hruns.runs rfl rfl
  · let tokens : List Token :=
      [.word (.literal "ls"), .pipe, .word (.literal "cd"), .pipe, .word ⟨[.reference "X"]⟩,
        .background]
    let pipeline : Pipeline :=
      { commands := [{ argv := ["ls"] }, { argv := ["cd"] }, { argv := ["exit"] }]
        background := true }
    have hlex : lex "ls | \"c\"\\d | $X &" = .ok tokens := rfl
    have hparse : parse (session.environment.bindings kernel.account) tokens = .ok pipeline := rfl
    obtain ⟨-, -, hmisplaced, -⟩ := execute_dispatches Builtin.linkedTree hlex hparse
    obtain ⟨before, command, after, builtin, hcommands, hbefore, hbuiltin, hexecute⟩ :=
      hmisplaced (by decide) (by simp [pipeline])
    rcases before with _ | ⟨first, _ | ⟨second, before⟩⟩
    · cases hcommands
      cases hbuiltin
    · cases hcommands
      cases hbuiltin
      exact hexecute
    · injection hcommands with _ hcommands
      injection hcommands with hsecond _
      cases hsecond
      cases hbefore _ (List.mem_cons_of_mem _ List.mem_cons_self)

/-- A builtin whose targets cannot be opened does not run, although it would have succeeded. -/
theorem execute_unopened :
    let account : Account := { name := none, home := none, isSuperuser := false }
    let kernel := Machine.kernel account
    let command : Command := { argv := ["cd", "/"], input := some "missing" }
    ({} : Session).read kernel "cd / < missing" =
        .ok (some ({ commands := [command], background := false }, .builtin .cd command)) ∧
      (∃ environment, Builtin.cd.run kernel.toHost ["/"] {} Builtin.linkedTree =
        (.ok (.status 0), environment, Builtin.linkedTree.inDirectory Machine.Files.rootInode)) ∧
      ({} : Session).execute kernel "cd / < missing" Builtin.linkedTree =
        some (.error (.resource (Text.encode "missing") .noEntry), {}, Builtin.linkedTree) := by
  intro account kernel command
  have hfiles : Builtin.linkedTree.files.enter Builtin.linkedTree.shell.directory
      (Text.encode "/") = .ok Machine.Files.rootInode :=
    Machine.Files.enter_of_leads (by decide +kernel) (.here _ _) rfl rfl
  refine ⟨rfl, ⟨_, Builtin.run_cd_of_enter account rfl hfiles⟩, ?_⟩
  have hmissing : Builtin.linkedTree.files.locate
      { createsFile := Direction.input.openMode.creates } Builtin.linkedTree.shell.directory
      (Text.encode "missing") = .ok (.free 1 (Text.encode "missing")) := by
    rw [Machine.Files.locate_name (by decide +kernel), Machine.Files.walk]
    rfl
  have hopened : Builtin.linkedTree.openedBy .input "missing" = .error .noEntry := by
    rw [Machine.openedBy, Machine.destination, Machine.Files.openPath, hmissing]
    rfl
  have hopen : kernel.openTargets command.targets Builtin.linkedTree =
      (.error (.resource (Text.encode "missing") .noEntry), Builtin.linkedTree) :=
    Machine.openTargets_of_error hopened
  have hinside : ({} : Session).RunsInside kernel "cd / < missing" .cd command ["/"]
      Builtin.linkedTree :=
    runsInside Builtin.linkedTree rfl rfl rfl rfl
  exact hinside.refused hopen

end Session

end JobShell
