import JobShell.Proofs.Checked.Variables
import JobShell.Proofs.Pipeline.Expansion
import JobShell.Proofs.Session.Dispatching
import JobShell.Proofs.Session.Registered

/-!
# Lines within bounds

A line takes apart what it was read as: it indexes the commands of a pipeline, their
arguments, the pipes between them and the processes that it has started.  The way of a line
is written here once more with every index checked.  No line leaves the bounds, because
every command that is read has a word, a pipeline of programs has one pipe less than
commands, and a builtin is only run where it is the first word of the only command.
-/

namespace JobShell

variable {σ : Type}

namespace Checked

/-! ## Checked operations -/

def item {α : Type} (list : List α) (index : Nat) : Except Misuse α :=
  match list[index]? with
  | some found => .ok found
  | none => .error .index

/-- What follows the first of a list. -/
def behindFirst {α : Type} : List α → Except Misuse (List α)
  | [] => .error .index
  | _ :: rest => .ok rest

def last (job : Launch.Job) : Except Misuse Pid :=
  item job.pids (job.pids.length - 1)

/-! ## Starting pipelines -/

def takeInput (pipes : List PipeEnds) (index : Nat) : Except Misuse (List Launch.Wiring) :=
  if 0 < index then do
    let ends ← item pipes (index - 1)
    pure [.duplicate ends.readEnd 0]
  else pure []

def takeOutput (pipes : List PipeEnds) (index : Nat) : Except Misuse (List Launch.Wiring) :=
  if index < pipes.length then do
    let ends ← item pipes index
    pure [.duplicate ends.writeEnd 1]
  else pure []

/-- The process for a command, whose program is the first of its arguments. -/
def child (pipes : List PipeEnds) (argvs : List (List String)) (group : Option Pid) (index : Nat)
    (command : Command) : Except Misuse Launch.Child := do
  let argv ← item argvs index
  let _program ← item argv 0
  let input ← takeInput pipes index
  let output ← takeOutput pipes index
  let redirects := command.targets.map fun target => Launch.Wiring.redirect target.1 target.2
  pure { group, wiring := input ++ output ++ Launch.closeAll pipes ++ redirects, argv }

def spawnFrom (starter : Launch.Starter σ) (environment : Environment) (pipes : List PipeEnds)
    (argvs : List (List String)) :
    Option Pid → Nat → List Command → σ → Except Misuse (Except Errno Unit × List Pid × σ)
  | _, _, [], state => .ok (.ok (), [], state)
  | group, index, command :: rest, state => do
      let child ← child pipes argvs group index command
      match starter.spawn environment child state with
      | (.error errno, state) => pure (.error errno, [], state)
      | (.ok pid, state) =>
          let (answer, pids, state) ← spawnFrom starter environment pipes argvs
            (group.or (some pid)) (index + 1) rest state
          pure (answer, pid :: pids, state)

def launch (starter : Launch.Starter σ) (environment : Environment) (commands : List Command)
    (state : σ) : Except Misuse (Except Fault Launch.Job × σ) :=
  match Launch.badArgument? commands with
  | some argument => .ok (.error (.invalidArgument argument), state)
  | none =>
      match Launch.openPipes starter (commands.length - 1) state with
      | (.error errno, pipes, state) =>
          .ok (.error (.launch "cannot create pipe" errno), starter.closePipes pipes state)
      | (.ok (), pipes, state) =>
          match starter.blockSignals state with
          | (.error errno, state) =>
              .ok (.error (.launch "cannot block signals" errno), starter.closePipes pipes state)
          | (.ok (), state) => do
              let (answer, pids, state) ← spawnFrom starter environment pipes
                (commands.map Command.argv) none 0 commands state
              let state := starter.unblockSignals (starter.closePipes pipes state)
              match answer, pids with
              | .error errno, pids =>
                  pure (.error (.launch "cannot create process" errno),
                    Launch.abandon starter pids state)
              | .ok (), [] => pure (.error (.launch "empty pipeline" .invalid), state)
              | .ok (), leader :: others => pure (.ok { leader, others }, state)

/-! ## Lines -/

def runBuiltin (kernel : Kernel σ) (builtin : Builtin) (pipeline : Pipeline) (session : Session)
    (state : σ) : Except Misuse (Except Fault Flow × Session × σ) := do
  let command ← item pipeline.commands 0
  match kernel.openTargets command.targets state with
  | (.error fault, state) => pure (.error fault, session, state)
  | (.ok (), state) =>
      let arguments ← behindFirst command.argv
      let (outcome, environment, state) ←
        run kernel.toHost builtin arguments session.environment state
      let session := { session with environment }
      match outcome with
      | .error fault => pure (.error fault, session, state)
      | .ok (.status status) => pure (.ok (.proceed status), session, state)
      | .ok (.exit code) => pure (.ok (.exit code), session, state)

/-- The number of the last process is what the notice is about. -/
def startedNotice (jobs : Registry) (job : Launch.Job) : Except Misuse String := do
  let last ← last job
  pure ("[" ++ toString jobs.size ++ "] " ++ toString last ++ "\n")

/-- A shell that comes down over what it cannot write has not left any bounds either. -/
def launchBackground (kernel : Kernel σ) (pipeline : Pipeline) (session : Session) (state : σ) :
    Except Misuse (Option (Except Fault Flow × Session × σ)) := do
  match ← launch kernel.toStarter session.environment pipeline.commands state with
  | (.error fault, state) => pure (some (.error fault, session, state))
  | (.ok job, state) =>
      let session := { session with jobs := job.pids.foldl Registry.push session.jobs }
      let notice ← startedNotice session.jobs job
      pure ((Kernel.written (kernel.say notice state)).map fun state =>
        (.ok (.proceed 0), session, state))

/-- Nor has a wait that does not return. -/
def launchForeground (kernel : Kernel σ) (pipeline : Pipeline) (session : Session) (state : σ) :
    Except Misuse (Option (Except Fault Flow × Session × σ)) := do
  match ← launch kernel.toStarter session.environment pipeline.commands state with
  | (.error fault, state) => pure (some (.error fault, session, state))
  | (.ok job, state) =>
      let last ← last job
      let waited := (Wait.start job { session with foreground := some job.group } state).run
        kernel last kernel.patience
      pure (waited.map fun (flow, session, state) =>
        (.ok flow, { session with foreground := none }, state))

def execute (kernel : Kernel σ) (line : String) (session : Session) (state : σ) :
    Except Misuse (Option (Except Fault Flow × Session × σ)) :=
  match session.read kernel line with
  | .error error => pure (some (.error (.malformed error), session, state))
  | .ok none => pure (some (.ok (.proceed session.lastStatus), session, state))
  | .ok (some (pipeline, .builtin builtin _)) => do
      let result ← runBuiltin kernel builtin pipeline session state
      pure (some result)
  | .ok (some (pipeline, .background)) => launchBackground kernel pipeline session state
  | .ok (some (pipeline, .foreground)) => launchForeground kernel pipeline session state

def processLine (kernel : Kernel σ) (line : String) (session : Session) (state : σ) :
    Except Misuse (Option (Flow × Session × σ)) := do
  let executed ← execute kernel line session state
  pure (executed.bind fun (outcome, session, state) =>
    (Session.settle kernel outcome state).map fun (flow, state) =>
      (flow, session.remember flow, state))

/-! ## Within bounds -/

theorem item_eq {α : Type} {list : List α} {index : Nat} {found : α}
    (hfound : list[index]? = some found) : item list index = .ok found := by
  rw [item, hfound]

theorem behindFirst_eq {α : Type} {list : List α} (hnonempty : list ≠ []) :
    behindFirst list = .ok list.tail := by
  cases list with
  | nil => exact absurd rfl hnonempty
  | cons first rest => rfl

theorem last_eq (job : Launch.Job) : last job = .ok job.last := by
  apply item_eq
  rw [← List.getLast?_eq_getElem?, Launch.Job.last, Launch.Job.pids,
    List.getLast?_cons, List.getLastD_eq_getLast?]

theorem takeInput_eq {pipes : List PipeEnds} {index : Nat} (hindex : index ≤ pipes.length) :
    takeInput pipes index = .ok (Launch.takeInput pipes index) := by
  cases index with
  | zero => rfl
  | succ index =>
      have hpipe : pipes[index]? = some pipes[index] := List.getElem?_eq_getElem hindex
      rw [takeInput, if_pos index.succ_pos, Nat.add_sub_cancel, bind_of_ok (item_eq hpipe),
        Launch.takeInput, hpipe]
      rfl

theorem takeOutput_eq (pipes : List PipeEnds) (index : Nat) :
    takeOutput pipes index = .ok (Launch.takeOutput pipes index) := by
  rw [takeOutput, Launch.takeOutput]
  by_cases hindex : index < pipes.length
  · have hpipe : pipes[index]? = some pipes[index] := List.getElem?_eq_getElem hindex
    rw [if_pos hindex, bind_of_ok (item_eq hpipe), hpipe]
    rfl
  · have hpipe : pipes[index]? = none := List.getElem?_eq_none (Nat.le_of_not_lt hindex)
    rw [if_neg hindex, hpipe]
    rfl

theorem child_eq {pipes : List PipeEnds} {argvs : List (List String)} {index : Nat}
    {command : Command} (hpipes : index ≤ pipes.length) (hargv : argvs[index]? = some command.argv)
    (hnamed : command.argv ≠ []) (group : Option Pid) :
    child pipes argvs group index command =
      .ok { group, wiring := Launch.wiring pipes index command, argv := command.argv } := by
  obtain ⟨program, arguments, hprogram⟩ := List.exists_cons_of_ne_nil hnamed
  have hfirst : command.argv[0]? = some program := by
    rw [hprogram, List.getElem?_cons_zero]
  rw [child, bind_of_ok (item_eq hargv), bind_of_ok (item_eq hfirst),
    bind_of_ok (takeInput_eq hpipes), bind_of_ok (takeOutput_eq pipes index)]
  rfl

/-- Commands from a position on, with their arguments where they are looked up and with no
command beyond the last pipe but one. -/
theorem spawnFrom_eq (starter : Launch.Starter σ) (environment : Environment)
    {pipes : List PipeEnds} (argvs : List (List String)) (group : Option Pid) {index : Nat}
    {commands : List Command} (hpipes : index + commands.length ≤ pipes.length + 1)
    (hargvs : argvs.drop index = commands.map Command.argv)
    (hnamed : ∀ command ∈ commands, command.argv ≠ []) (state : σ) :
    spawnFrom starter environment pipes argvs group index commands state =
      .ok (Launch.spawnFrom starter environment pipes group index commands state) := by
  induction commands generalizing group index state with
  | nil => rfl
  | cons command rest ih =>
      rw [List.forall_mem_cons] at hnamed
      rw [List.length_cons] at hpipes
      have hargv : argvs[index]? = some command.argv := by
        rw [← List.head?_drop, hargvs]
        rfl
      have hrest : argvs.drop (index + 1) = rest.map Command.argv := by
        rw [← List.tail_drop, hargvs]
        rfl
      have hfits : index + 1 + rest.length ≤ pipes.length + 1 := by
        omega
      rw [spawnFrom, bind_of_ok (child_eq (by omega) hargv hnamed.1 group), Launch.spawnFrom]
      dsimp only
      rcases starter.spawn environment
          { group, wiring := Launch.wiring pipes index command, argv := command.argv } state with
        ⟨errno | pid, spawned⟩
      · rfl
      · dsimp only
        rw [bind_of_ok (ih _ hfits hrest hnamed.2 _)]
        rfl

/-- There are as many pipes as are asked for, if each of them can be had. -/
theorem length_of_openPipes {starter : Launch.Starter σ} {count : Nat} {state piped : σ}
    {pipes : List PipeEnds}
    (hopen : Launch.openPipes starter count state = (.ok (), pipes, piped)) :
    pipes.length = count := by
  induction count generalizing state pipes with
  | zero =>
      cases hopen
      rfl
  | succ count ih =>
      rw [Launch.openPipes] at hopen
      split at hopen
      · cases hopen
      · next ends opened _ =>
          rcases hrest : Launch.openPipes starter count opened with ⟨answer, others, final⟩
          rw [hrest] at hopen
          cases hopen
          exact congrArg Nat.succ (ih hrest)

theorem launch_eq (starter : Launch.Starter σ) (environment : Environment)
    {commands : List Command} (hnamed : ∀ command ∈ commands, command.argv ≠ []) (state : σ) :
    launch starter environment commands state =
      .ok (Launch.launch starter environment commands state) := by
  rw [launch, Launch.launch]
  cases Launch.badArgument? commands with
  | some argument => rfl
  | none =>
      rcases hopen : Launch.openPipes starter (commands.length - 1) state with
        ⟨_ | _, pipes, piped⟩
      · rfl
      dsimp only
      rcases starter.blockSignals piped with ⟨_ | _, blocked⟩
      · rfl
      have hpipes := length_of_openPipes hopen
      have hfits : 0 + commands.length ≤ pipes.length + 1 := by
        omega
      have hspawned := spawnFrom_eq starter environment (commands.map Command.argv) none hfits
        rfl hnamed blocked
      dsimp only
      rw [bind_of_ok hspawned]
      rcases Launch.spawnFrom starter environment pipes none 0 commands blocked with
        ⟨_ | _, _ | ⟨leader, others⟩, started⟩ <;> rfl

/-! ## Lines within bounds -/

theorem runBuiltin_eq {kernel : Kernel σ} (hpaths : kernel.toHost.TellsPaths) (builtin : Builtin)
    {command : Command} (background : Bool) (hargv : command.argv ≠ []) (session : Session)
    (state : σ) :
    runBuiltin kernel builtin { commands := [command], background } session state =
      .ok (session.runBuiltin kernel builtin command state) := by
  have hfirst : ([command] : List Command)[0]? = some command := rfl
  rw [runBuiltin, bind_of_ok (item_eq hfirst), Session.runBuiltin]
  rcases kernel.openTargets command.targets state with ⟨fault | _, opened⟩
  · rfl
  · dsimp only
    rw [bind_of_ok (behindFirst_eq hargv), bind_of_ok (run_eq hpaths _ _ _ opened)]
    rcases builtin.run kernel.toHost command.argv.tail session.environment opened with
      ⟨_ | _ | _, environment, final⟩ <;> rfl

theorem startedNotice_eq (jobs : Registry) (job : Launch.Job) :
    startedNotice jobs job = .ok (Session.startedNotice jobs job) :=
  bind_of_ok (last_eq job) _

theorem launchBackground_eq (kernel : Kernel σ) {pipeline : Pipeline}
    (hnamed : ∀ command ∈ pipeline.commands, command.argv ≠ []) (session : Session) (state : σ) :
    launchBackground kernel pipeline session state =
      .ok (session.launchBackground kernel pipeline state) := by
  rw [launchBackground, bind_of_ok (launch_eq kernel.toStarter _ hnamed state),
    Session.launchBackground]
  rcases Launch.launch kernel.toStarter session.environment pipeline.commands state with
    ⟨fault | job, started⟩
  · rfl
  · exact bind_of_ok (startedNotice_eq _ job) _

theorem launchForeground_eq (kernel : Kernel σ) {pipeline : Pipeline}
    (hnamed : ∀ command ∈ pipeline.commands, command.argv ≠ []) (session : Session) (state : σ) :
    launchForeground kernel pipeline session state =
      .ok (session.launchForeground kernel pipeline state) := by
  rw [launchForeground, bind_of_ok (launch_eq kernel.toStarter _ hnamed state),
    Session.launchForeground]
  rcases Launch.launch kernel.toStarter session.environment pipeline.commands state with
    ⟨fault | job, started⟩
  · rfl
  · exact bind_of_ok (last_eq job) _

theorem execute_eq {kernel : Kernel σ} (hpaths : kernel.toHost.TellsPaths) (line : String)
    (session : Session) (state : σ) :
    execute kernel line session state = .ok (session.execute kernel line state) := by
  have hnamed {pipeline : Pipeline} {dispatched : Session.Dispatch}
      (hread : session.read kernel line = .ok (some (pipeline, dispatched))) :
      ∀ command ∈ pipeline.commands, command.argv ≠ [] := by
    obtain ⟨tokens, -, hparse, -⟩ := (Session.read_eq_some_iff pipeline dispatched).mp hread
    exact argv_ne_nil_of_parse hparse
  rw [execute, Session.execute]
  rcases hread : session.read kernel line with error | _ | ⟨pipeline, dispatched⟩
  · rfl
  · rfl
  · cases dispatched with
    | builtin builtin command =>
        obtain ⟨-, -, -, hdispatch⟩ := (Session.read_eq_some_iff _ _).mp hread
        obtain ⟨rfl, -⟩ := (Session.dispatch_eq_builtin_iff _ _ _).mp hdispatch
        have hargv := hnamed hread command List.mem_cons_self
        exact bind_of_ok (runBuiltin_eq hpaths builtin false hargv session state) _
    | background => exact launchBackground_eq kernel (hnamed hread) session state
    | foreground => exact launchForeground_eq kernel (hnamed hread) session state

theorem processLine_eq {kernel : Kernel σ} (hpaths : kernel.toHost.TellsPaths) (line : String)
    (session : Session) (state : σ) :
    processLine kernel line session state = .ok (session.processLine kernel line state) :=
  bind_of_ok (execute_eq hpaths line session state) _

end Checked

namespace Session

variable {kernel : Kernel σ} {line : String} {session : Session} {state : σ}

/-! ## What sessions add to their environment -/

theorem acquires_runBuiltin (hpaths : kernel.toHost.TellsPaths) (builtin : Builtin)
    (command : Command) (session : Session) (state : σ) :
    session.environment.Acquires
      (session.runBuiltin kernel builtin command state).2.1.environment := by
  rw [runBuiltin]
  rcases kernel.openTargets command.targets state with ⟨fault | _, opened⟩
  · exact .refl _
  · have hran := Builtin.acquires_run hpaths builtin command.argv.tail session.environment opened
    dsimp only
    generalize builtin.run kernel.toHost command.argv.tail session.environment opened =
      ran at hran ⊢
    obtain ⟨_ | _ | _, environment, final⟩ := ran <;> exact hran

theorem acquires_execute (hpaths : kernel.toHost.TellsPaths) {outcome : Except Fault Flow}
    {next : Session} {final : σ}
    (hexecute : session.execute kernel line state = some (outcome, next, final)) :
    session.environment.Acquires next.environment := by
  rw [execute] at hexecute
  split at hexecute
  · cases hexecute
    exact .refl _
  · cases hexecute
    exact .refl _
  · next builtin command _ =>
      have hran := acquires_runBuiltin hpaths builtin command session state
      rwa [Option.some.inj hexecute] at hran
  · obtain ⟨⟨jobs, rfl⟩, -⟩ := session_launchBackground hexecute
    exact .refl _
  · rw [environment_of_launchForeground hexecute]
    exact .refl _

theorem acquires_processLine (hpaths : kernel.toHost.TellsPaths) {flow : Flow} {next : Session}
    {final : σ} (hreturns : session.processLine kernel line state = some (flow, next, final)) :
    session.environment.Acquires next.environment := by
  obtain ⟨done, ⟨flow, executed, hexecute, hresult⟩ | ⟨fault, executed, _, hexecute, -, hresult⟩⟩ :=
    (processLine_eq_some_iff _ _ _ _ _).mp hreturns
  · cases hresult
    have hdone := acquires_execute hpaths hexecute
    cases flow <;> exact hdone
  · cases hresult
    have hdone := acquires_execute hpaths hexecute
    exact hdone

theorem acquires_reaches (hpaths : kernel.toHost.TellsPaths) {first session : Session}
    {start state : σ} (hreaches : Reaches kernel first start session state) :
    first.environment.Acquires session.environment := by
  induction hreaches with
  | start => exact .refl _
  | line _ line hline ih => exact ih.trans (acquires_processLine hpaths hline)
  | report _ ih => exact ih
  | @service session state _ ih =>
      obtain ⟨_, quit, _, hserved, -⟩ := session.serviceSignals_session kernel state
      rw [hserved]
      exact ih

/-- No line leaves the bounds of what it uses, in any session and on any system, whether it
returns or not; and whatever variables a session has acquired, each of them has a name and
a value that an environment can hold. -/
theorem processLine_within_bounds (hpaths : kernel.toHost.TellsPaths) :
    (∀ (line : String) (session : Session) (state : σ),
      Checked.processLine kernel line session state =
        .ok (session.processLine kernel line state)) ∧
    (∀ (line : String) (session : Session) (state : σ) (flow : Flow) (next : Session) (final : σ),
      session.processLine kernel line state = some (flow, next, final) →
        session.environment.Acquires next.environment) ∧
    ∀ (first : Session) (start : σ) (session : Session) (state : σ),
      Reaches kernel first start session state →
      first.environment.Acquires session.environment := by
  refine ⟨Checked.processLine_eq hpaths, ?_, ?_⟩
  · intro line session state flow next final hreturns
    exact acquires_processLine hpaths hreturns
  · intro first start session state hreaches
    exact acquires_reaches hpaths hreaches

/-- A timetable in which the shell is at home until time goes on. -/
def travelling : Kernel Timetable :=
  { Timetable.kernel { ends := fun _ => (4, .exited 0) } with
    directory := fun table => .ok (Text.encode (if table.clock = 0 then "/home" else "/tmp")) }

theorem processLine_within_bounds_travelling :
    travelling.toHost.TellsPaths ∧
      (∀ line, Checked.processLine travelling line {} {} =
        .ok (processLine travelling line {} {})) ∧
      ∃ (next : Session) (final : Timetable),
        processLine travelling "cd /tmp" {} {} = some (.proceed 0, next, final) ∧
        next.environment.entries = [("OLDPWD", Text.encode "/home"), ("PWD", Text.encode "/tmp")] ∧
        Environment.Acquires {} next.environment := by
  have hpaths : travelling.toHost.TellsPaths := by
    rintro table path ⟨⟩
    apply Text.zero_notMem_encode
    split <;> decide
  obtain ⟨hchecked, hacquires, -⟩ := processLine_within_bounds hpaths
  have hline : (processLine travelling "cd /tmp" {} {}).map
      (fun result => (result.1, result.2.1.environment.entries)) =
        some (.proceed 0, [("OLDPWD", Text.encode "/home"), ("PWD", Text.encode "/tmp")]) := by
    decide +kernel
  obtain ⟨⟨flow, next, final⟩, hreturns, hresult⟩ := Option.map_eq_some_iff.mp hline
  simp only [Prod.mk.injEq] at hresult
  obtain ⟨rfl, hentries⟩ := hresult
  exact ⟨hpaths, fun line => hchecked line {} {}, next, final, hreturns, hentries,
    hacquires _ _ _ _ _ _ hreturns⟩

end Session

end JobShell
