import JobShell.Proofs.Builtin.ExitCode
import JobShell.Proofs.Session.Reading
import JobShell.Proofs.Session.Timetable
import JobShell.Proofs.Session.Turning

/-!
# How a session ends

A line ends its session in two ways: it is `exit` alone, with an argument that it can
take, or a quit is confirmed while its pipeline is waited for.  Every other line that is
done with leaves a status, whatever has gone wrong in it.  A line is not done with if it
waits for a pipeline without an end, or if it has to print something that cannot be
written, over which the shell comes down.
-/

namespace JobShell

variable {σ : Type}

/-! ## Waiting -/

/-- Serving signals ends the session exactly if those that are collected confirm a
quit, and otherwise changes no more than what is known of quits. -/
theorem Session.serviceSignals_session (kernel : Kernel σ) (session : Session) (state : σ) :
    ∃ served quit final,
      session.serviceSignals kernel state = (served, { session with quit }, final) ∧
      ∀ code, served = .exit code ↔ code = 0 ∧
        Quit.Confirms session.settings.quitTimeout session.quit
          (kernel.takePending kernel.patience state).1 := by
  obtain ⟨served, quit, final, hserved, ⟨hconfirms, rfl⟩ | ⟨hopen, hgoes, -⟩⟩ :=
    session.serveAll_session kernel (kernel.takePending kernel.patience state).1 .quiet
      (kernel.takePending kernel.patience state).2 nofun
  · refine ⟨_, quit, final, hserved, fun code => ?_⟩
    simp [hconfirms, eq_comm]
  · refine ⟨served, quit, final, hserved, fun code => ?_⟩
    simp [hopen, hgoes code]

namespace Wait

variable {kernel : Kernel σ} {last : Pid} {first wait : Wait σ}

/-- Where a wait has come to after a number of turns, if none of them has ended it. -/
def after (kernel : Kernel σ) (last : Pid) : Nat → Wait σ → Option (Wait σ)
  | 0, wait => some wait
  | turns + 1, wait =>
      match wait.turn kernel last with
      | .inl _ => none
      | .inr next => after kernel last turns next

/-- A wait that returns has come to a turn that ends it, and it returns what that comes
to. -/
theorem run_eq_some_iff (turns : Nat) (first : Wait σ) (result : Flow × Session × σ) :
    first.run kernel last turns = some result ↔
      ∃ taken < turns, ∃ wait, first.after kernel last taken = some wait ∧
        wait.turn kernel last = .inl result := by
  induction turns generalizing first with
  | zero =>
      refine ⟨nofun, ?_⟩
      rintro ⟨taken, htaken, -⟩
      cases htaken
  | succ turns ih =>
      rw [run]
      cases hturn : first.turn kernel last with
      | inl ended =>
          constructor
          · rintro ⟨⟩
            exact ⟨0, Nat.succ_pos turns, first, rfl, hturn⟩
          · rintro ⟨_ | taken, -, wait, hafter, hlast⟩
            · cases hafter
              exact congrArg some (Sum.inl.inj (hturn.symm.trans hlast))
            · simp [after, hturn] at hafter
      | inr next =>
          refine (ih next).trans ⟨?_, ?_⟩
          · rintro ⟨taken, htaken, wait, hafter, hlast⟩
            exact ⟨taken + 1, Nat.succ_lt_succ htaken, wait, by rwa [after, hturn], hlast⟩
          · rintro ⟨_ | taken, htaken, wait, hafter, hlast⟩
            · cases hafter
              cases hturn.symm.trans hlast
            · rw [after, hturn] at hafter
              exact ⟨taken, Nat.lt_of_succ_lt_succ htaken, wait, hafter, hlast⟩

theorem run_eq_none_iff (turns : Nat) (first : Wait σ) :
    first.run kernel last turns = none ↔
      ∃ wait, first.after kernel last turns = some wait := by
  induction turns generalizing first with
  | zero => exact ⟨fun _ => ⟨first, rfl⟩, fun _ => rfl⟩
  | succ turns ih =>
      rw [run, after]
      cases hturn : first.turn kernel last with
      | inl ended => simp
      | inr next => exact ih next

/-- Turns change nothing in a session but what is known of quits. -/
theorem session_of_turn {next : Wait σ} (hturn : wait.turn kernel last = .inr next) :
    ∃ quit, next.session = { wait.session with quit } := by
  cases turns_of_turn hturn with
  | stillAlive hpoll => exact ⟨_, rfl⟩
  | done hpoll halive hinterrupted => exact ⟨_, rfl⟩
  | interrupted hpoll => exact ⟨_, rfl⟩
  | @sleeps _ _ _ session _ state _ halive hserve hgoes =>
      obtain ⟨_, quit, _, hserved, -⟩ := session.serviceSignals_session kernel (kernel.sleep state)
      rw [hserve] at hserved
      cases hserved
      exact ⟨quit, rfl⟩

theorem session_of_after {turns : Nat} (hafter : first.after kernel last turns = some wait) :
    ∃ quit, wait.session = { first.session with quit } := by
  induction turns generalizing first with
  | zero =>
      cases hafter
      exact ⟨_, rfl⟩
  | succ turns ih =>
      rw [after] at hafter
      cases hturn : first.turn kernel last with
      | inl ended =>
          rw [hturn] at hafter
          cases hafter
      | inr next =>
          rw [hturn] at hafter
          obtain ⟨_, hnext⟩ := session_of_turn hturn
          obtain ⟨quit, hwait⟩ := ih hafter
          exact ⟨quit, by rw [hwait, hnext]⟩

/-- At the end of a round of a wait the signals that are collected confirm a quit. -/
structure Confirmed (kernel : Kernel σ) (wait : Wait σ) : Prop where
  round : wait.waiting = []
  alive : wait.alive ≠ []
  confirms : Quit.Confirms wait.session.settings.quitTimeout wait.session.quit
    (kernel.takePending kernel.patience (kernel.sleep wait.state)).1

/-- A turn that ends a wait ends the session too if it confirms a quit. -/
theorem turn_eq_inl {flow : Flow} {next : Session} {final : σ}
    (hturn : wait.turn kernel last = .inl (flow, next, final)) :
    (∃ quit, next = { wait.session with quit }) ∧
      ∀ code, flow = .exit code ↔ code = 0 ∧ wait.Confirmed kernel := by
  cases stops_of_turn hturn with
  | finished =>
      refine ⟨⟨next.quit, rfl⟩, fun code => ⟨?_, ?_⟩⟩
      · rintro ⟨⟩
      · rintro ⟨-, hconfirmed⟩
        exact absurd rfl hconfirmed.alive
  | @quits alive status code session next state served halive hserve =>
      obtain ⟨_, quit, _, hserved, hexit⟩ :=
        session.serviceSignals_session kernel (kernel.sleep state)
      rw [hserve] at hserved
      cases hserved
      obtain ⟨rfl, hconfirms⟩ := (hexit code).mp rfl
      refine ⟨⟨quit, rfl⟩, fun other => ⟨?_, ?_⟩⟩
      · rintro ⟨⟩
        exact ⟨rfl, rfl, halive, hconfirms⟩
      · rintro ⟨rfl, -⟩
        rfl

theorem Confirmed.turn (hconfirmed : wait.Confirmed kernel) (last : Pid) :
    ∃ next final, wait.turn kernel last = .inl (.exit 0, next, final) := by
  obtain ⟨served, quit, final, hserved, hexit⟩ :=
    wait.session.serviceSignals_session kernel (kernel.sleep wait.state)
  obtain rfl := (hexit 0).mpr ⟨rfl, hconfirmed.confirms⟩
  rw [turn_of_round kernel last hconfirmed.alive hconfirmed.round, hserved]
  exact ⟨_, _, rfl⟩

/-- A wait ends the session exactly if it confirms a quit while there is patience. -/
theorem waitForeground_exit_iff (job : Launch.Job) (session : Session) (state : σ) (code : Int) :
    (∃ next final, session.waitForeground kernel job state = some (.exit code, next, final)) ↔
      code = 0 ∧ ∃ turns < kernel.patience, ∃ wait,
        (start job session state).after kernel job.last turns = some wait ∧
          wait.Confirmed kernel := by
  simp only [Session.waitForeground, run_eq_some_iff]
  constructor
  · rintro ⟨next, final, turns, hpatience, wait, hafter, hturn⟩
    obtain ⟨rfl, hconfirmed⟩ := ((turn_eq_inl hturn).2 code).mp rfl
    exact ⟨rfl, turns, hpatience, wait, hafter, hconfirmed⟩
  · rintro ⟨rfl, turns, hpatience, wait, hafter, hconfirmed⟩
    obtain ⟨next, final, hturn⟩ := hconfirmed.turn job.last
    exact ⟨next, final, turns, hpatience, wait, hafter, hturn⟩

theorem session_of_waitForeground {job : Launch.Job} {session next : Session} {state final : σ}
    {flow : Flow} (hreturns : session.waitForeground kernel job state = some (flow, next, final)) :
    ∃ quit, next = { session with quit } := by
  rw [Session.waitForeground, run_eq_some_iff] at hreturns
  obtain ⟨turns, -, wait, hafter, hturn⟩ := hreturns
  obtain ⟨quit, rfl⟩ := (turn_eq_inl hturn).1
  obtain ⟨_, hsession⟩ := session_of_after hafter
  exact ⟨quit, by rw [hsession]; rfl⟩

end Wait

/-! ## Targets -/

/-- Targets are opened one after the other, and each of them can be. -/
inductive Kernel.Opens (kernel : Kernel σ) : List (Direction × String) → σ → σ → Prop where
  | nothing (state : σ) : Opens kernel [] state state
  | opens {direction : Direction} {path : String} {rest : List (Direction × String)}
      {state opened final : σ}
      (hopen : kernel.openTarget direction (Text.encode path) state = (.ok (), opened))
      (hrest : Opens kernel rest opened final) :
      Opens kernel ((direction, path) :: rest) state final

theorem Kernel.openTargets_eq_ok_iff (kernel : Kernel σ) (targets : List (Direction × String))
    (state final : σ) :
    kernel.openTargets targets state = (.ok (), final) ↔ kernel.Opens targets state final := by
  induction targets generalizing state with
  | nil =>
      constructor
      · rintro ⟨⟩
        exact .nothing _
      · rintro ⟨⟩
        rfl
  | cons target rest ih =>
      obtain ⟨direction, path⟩ := target
      constructor
      · intro hopened
        rw [openTargets] at hopened
        split at hopened
        · cases hopened
        · next opened hopen => exact .opens hopen ((ih opened).mp hopened)
      · rintro (_ | ⟨hopen, hrest⟩)
        rw [openTargets, hopen]
        exact (ih _).mpr hrest

namespace Session

variable {kernel : Kernel σ} {line : String} {session : Session}

/-- The line is `exit` alone and in the foreground, its targets can be opened, and its
arguments are for a code. -/
inductive Exits (kernel : Kernel σ) (line : String) (session : Session) (state : σ)
    (code : Int) : Prop where
  | intro {tokens : List Token} {command : Command} {arguments : List String} {opened : σ}
      (hlex : lex line = .ok tokens)
      (hparse : parse (session.environment.bindings kernel.account) tokens =
        .ok { commands := [command], background := false })
      (hargv : command.argv = "exit" :: arguments)
      (hopens : kernel.Opens command.targets state opened)
      (harguments : Builtin.ExitArguments arguments code)

/-- The line starts a pipeline of programs in the foreground. -/
inductive Starts (kernel : Kernel σ) (line : String) (session : Session) (state : σ)
    (job : Launch.Job) (started : σ) : Prop where
  | intro {tokens : List Token} {pipeline : Pipeline} (hlex : lex line = .ok tokens)
      (hparse : parse (session.environment.bindings kernel.account) tokens = .ok pipeline)
      (hforeground : pipeline.background = false)
      (hprograms : ∀ command ∈ pipeline.commands, Builtin.ofName? command.program = none)
      (hlaunch : Launch.launch kernel.toStarter session.environment pipeline.commands state =
        (.ok job, started))

/-- The line starts a pipeline, and it is waited for so many turns without an end. -/
inductive Awaits (kernel : Kernel σ) (line : String) (session : Session) (state : σ)
    (turns : Nat) (wait : Wait σ) : Prop where
  | intro {job : Launch.Job} {started : σ} (hstarts : session.Starts kernel line state job started)
      (hafter : (Wait.start job { session with foreground := some job.group } started).after
        kernel job.last turns = some wait)

/-! ## Builtins -/

theorem program_eq_some_iff (command : Command) (builtin : Builtin) :
    Builtin.ofName? command.program = some builtin ↔
      command.argv = builtin.name :: command.argv.tail := by
  rw [Builtin.ofName?_eq_some_iff, Command.program]
  cases command.argv with
  | nil => cases builtin <;> simp [Builtin.name]
  | cons name arguments => simp

theorem session_runBuiltin (kernel : Kernel σ) (builtin : Builtin) (command : Command)
    (session : Session) (state : σ) :
    ∃ environment,
      (session.runBuiltin kernel builtin command state).2.1 = { session with environment } := by
  rw [runBuiltin]
  split
  · exact ⟨_, rfl⟩
  · dsimp only
    split <;> exact ⟨_, rfl⟩

/-- A builtin changes nothing of a session but its environment, and ends it only if it is
`exit`. -/
theorem runBuiltin_exit_iff {builtin : Builtin} {command : Command} {state final : σ}
    {outcome : Except Fault Flow} {next : Session}
    (hrun : session.runBuiltin kernel builtin command state = (outcome, next, final)) :
    next.lastStatus = session.lastStatus ∧
      ∀ code, outcome = .ok (.exit code) ↔
        builtin = .exit ∧ Builtin.ExitArguments command.argv.tail code ∧
          ∃ opened, kernel.Opens command.targets state opened := by
  rw [runBuiltin] at hrun
  split at hrun
  · next fault failed hfailed =>
      cases hrun
      refine ⟨rfl, fun code => ⟨nofun, ?_⟩⟩
      rintro ⟨-, -, opened, hopens⟩
      cases hfailed.symm.trans ((kernel.openTargets_eq_ok_iff _ _ _).mpr hopens)
  · next opened hopened =>
      have hopens := (kernel.openTargets_eq_ok_iff _ _ _).mp hopened
      have hexit (code : Int) : (builtin.run kernel.toHost command.argv.tail session.environment
          opened).1 = .ok (.exit code) ↔ builtin = .exit ∧
            Builtin.ExitArguments command.argv.tail code ∧
              ∃ opened, kernel.Opens command.targets state opened := by
        rw [Builtin.run_eq_exit_iff]
        exact and_congr_right' (and_iff_left ⟨opened, hopens⟩).symm
      generalize builtin.run kernel.toHost command.argv.tail session.environment opened = result
        at hrun hexit
      obtain ⟨_ | status | code, environment, changed⟩ := result <;> cases hrun
      all_goals exact ⟨rfl, fun code => by rw [← hexit]; simp⟩

/-! ## Lines -/

theorem exits_iff (state : σ) (code : Int) :
    session.Exits kernel line state code ↔
      ∃ pipeline command opened,
        session.read kernel line = .ok (some (pipeline, .builtin .exit command)) ∧
        Builtin.ExitArguments command.argv.tail code ∧
        kernel.Opens command.targets state opened := by
  constructor
  · rintro ⟨hlex, hparse, hargv, hopens, harguments⟩
    refine ⟨_, _, _, (read_eq_some_iff _ _).mpr ⟨_, hlex, hparse, ?_⟩, ?_, hopens⟩
    · refine (dispatch_eq_builtin_iff _ _ _).mpr ⟨rfl, (program_eq_some_iff _ _).mpr ?_⟩
      rw [hargv, List.tail_cons, Builtin.name]
    · rwa [hargv]
  · rintro ⟨pipeline, command, opened, hread, harguments, hopens⟩
    obtain ⟨tokens, hlex, hparse, hdispatch⟩ := (read_eq_some_iff _ _).mp hread
    obtain ⟨rfl, hexit⟩ := (dispatch_eq_builtin_iff _ _ _).mp hdispatch
    exact ⟨hlex, hparse, (program_eq_some_iff command .exit).mp hexit, hopens, harguments⟩

theorem starts_iff (state : σ) (job : Launch.Job) (started : σ) :
    session.Starts kernel line state job started ↔
      ∃ pipeline, session.read kernel line = .ok (some (pipeline, .foreground)) ∧
        Launch.launch kernel.toStarter session.environment pipeline.commands state =
          (.ok job, started) := by
  constructor
  · rintro ⟨hlex, hparse, hforeground, hprograms, hlaunch⟩
    refine ⟨_, (read_eq_some_iff _ _).mpr ⟨_, hlex, hparse, ?_⟩, hlaunch⟩
    exact (dispatch_eq_foreground_iff _).mpr ⟨hforeground, hprograms⟩
  · rintro ⟨pipeline, hread, hlaunch⟩
    obtain ⟨tokens, hlex, hparse, hdispatch⟩ := (read_eq_some_iff _ _).mp hread
    obtain ⟨hforeground, hprograms⟩ := (dispatch_eq_foreground_iff _).mp hdispatch
    exact ⟨hlex, hparse, hforeground, hprograms, hlaunch⟩

theorem awaits_iff {pipeline : Pipeline}
    (hread : session.read kernel line = .ok (some (pipeline, .foreground))) (state : σ)
    (turns : Nat) (wait : Wait σ) :
    session.Awaits kernel line state turns wait ↔
      ∃ job started, Launch.launch kernel.toStarter session.environment pipeline.commands state =
          (.ok job, started) ∧
        (Wait.start job { session with foreground := some job.group } started).after
          kernel job.last turns = some wait := by
  constructor
  · rintro ⟨hstarts, hafter⟩
    obtain ⟨other, hother, hlaunch⟩ := (starts_iff _ _ _).mp hstarts
    cases hread.symm.trans hother
    exact ⟨_, _, hlaunch, hafter⟩
  · rintro ⟨job, started, hlaunch, hafter⟩
    exact ⟨(starts_iff _ _ _).mpr ⟨pipeline, hread, hlaunch⟩, hafter⟩

theorem Awaits.read {state : σ} {turns : Nat} {wait : Wait σ}
    (hawaits : session.Awaits kernel line state turns wait) :
    ∃ pipeline, session.read kernel line = .ok (some (pipeline, .foreground)) := by
  obtain ⟨hstarts, -⟩ := hawaits
  obtain ⟨pipeline, hread, -⟩ := (starts_iff _ _ _).mp hstarts
  exact ⟨pipeline, hread⟩

/-- A pipeline in the background changes nothing of a session but its jobs, and does not end
it. -/
theorem session_launchBackground {pipeline : Pipeline} {state final : σ}
    {outcome : Except Fault Flow} {next : Session}
    (hreturns : session.launchBackground kernel pipeline state = some (outcome, next, final)) :
    (∃ jobs, next = { session with jobs }) ∧ ∀ code, outcome ≠ .ok (.exit code) := by
  rw [launchBackground] at hreturns
  split at hreturns
  · cases hreturns
    exact ⟨⟨_, rfl⟩, by simp⟩
  · obtain ⟨said, -, hresult⟩ := Option.map_eq_some_iff.mp hreturns
    cases hresult
    exact ⟨⟨_, rfl⟩, by simp⟩

theorem launchForeground_exit_iff {pipeline : Pipeline}
    (hread : session.read kernel line = .ok (some (pipeline, .foreground))) (state : σ)
    (code : Int) :
    (∃ next final, session.launchForeground kernel pipeline state =
        some (.ok (.exit code), next, final)) ↔
      code = 0 ∧ ∃ turns < kernel.patience, ∃ wait,
        session.Awaits kernel line state turns wait ∧ wait.Confirmed kernel := by
  simp only [awaits_iff hread]
  rw [launchForeground]
  split
  · next fault failed hlaunch =>
      refine ⟨by simp, ?_⟩
      rintro ⟨-, _, -, _, ⟨job, started, hjob, -⟩, -⟩
      cases hlaunch.symm.trans hjob
  · next job started hlaunch =>
      calc
        _ ↔ ∃ next final, Session.waitForeground kernel job
              { session with foreground := some job.group } started =
                some (.exit code, next, final) := by
          constructor
          · rintro ⟨_, _, hwaits⟩
            obtain ⟨⟨flow, _, _⟩, hwait, hresult⟩ := Option.map_eq_some_iff.mp hwaits
            cases hresult
            exact ⟨_, _, hwait⟩
          · rintro ⟨next, final, hwait⟩
            rw [hwait]
            exact ⟨_, _, rfl⟩
        _ ↔ _ := Wait.waitForeground_exit_iff _ _ _ _
        _ ↔ _ := by simp [hlaunch, and_assoc]

/-- A line keeps the status that is remembered until it is settled. -/
theorem lastStatus_of_execute {state final : σ} {outcome : Except Fault Flow} {next : Session}
    (hexecute : session.execute kernel line state = some (outcome, next, final)) :
    next.lastStatus = session.lastStatus := by
  rw [execute] at hexecute
  split at hexecute
  · cases hexecute
    rfl
  · cases hexecute
    rfl
  · exact (runBuiltin_exit_iff (Option.some.inj hexecute)).1
  · obtain ⟨⟨jobs, rfl⟩, -⟩ := session_launchBackground hexecute
    rfl
  · rw [launchForeground] at hexecute
    split at hexecute
    · cases hexecute
      rfl
    · obtain ⟨⟨flow, waited, _⟩, hwait, hresult⟩ := Option.map_eq_some_iff.mp hexecute
      cases hresult
      obtain ⟨quit, rfl⟩ := Wait.session_of_waitForeground hwait
      rfl

theorem execute_exit_iff (kernel : Kernel σ) (line : String) (session : Session) (state : σ)
    (code : Int) :
    (∃ next final, session.execute kernel line state = some (.ok (.exit code), next, final)) ↔
      session.Exits kernel line state code ∨
        code = 0 ∧ ∃ turns < kernel.patience, ∃ wait,
          session.Awaits kernel line state turns wait ∧ wait.Confirmed kernel := by
  constructor
  · rintro ⟨next, final, hexecute⟩
    rw [execute] at hexecute
    split at hexecute
    · cases hexecute
    · cases hexecute
    · next pipeline builtin command hread =>
        obtain ⟨rfl, harguments, opened, hopens⟩ :=
          ((runBuiltin_exit_iff (Option.some.inj hexecute)).2 code).mp rfl
        exact .inl ((exits_iff _ _).mpr ⟨pipeline, command, opened, hread, harguments, hopens⟩)
    · exact absurd rfl ((session_launchBackground hexecute).2 code)
    · next pipeline hread =>
        exact .inr ((launchForeground_exit_iff hread state code).mp ⟨next, final, hexecute⟩)
  · rintro (hexits | ⟨hcode, turns, hpatience, wait, hawaits, hconfirmed⟩)
    · obtain ⟨pipeline, command, opened, hread, harguments, hopens⟩ := (exits_iff _ _).mp hexits
      have hexit : (session.runBuiltin kernel .exit command state).1 = .ok (.exit code) :=
        ((runBuiltin_exit_iff rfl).2 code).mpr ⟨rfl, harguments, opened, hopens⟩
      rw [execute, hread]
      exact ⟨_, _, congrArg some (Prod.ext hexit rfl)⟩
    · obtain ⟨pipeline, hread⟩ := hawaits.read
      rw [execute, hread]
      exact (launchForeground_exit_iff hread state code).mpr
        ⟨hcode, turns, hpatience, wait, hawaits, hconfirmed⟩

/-- Something that a line has to print cannot be written: the notice of the pipeline that it
starts in the background, or the report of the fault that it comes to. -/
inductive Mutes (kernel : Kernel σ) (line : String) (session : Session) (state : σ) : Prop where
  | notice {pipeline : Pipeline} {job : Launch.Job} {started : σ} {failure : StreamFailure}
      (hread : session.read kernel line = .ok (some (pipeline, .background)))
      (hlaunch : Launch.launch kernel.toStarter session.environment pipeline.commands state =
        (.ok job, started))
      (hsay : (kernel.say (startedNotice (job.pids.foldl Registry.push session.jobs) job)
        started).1 = .error failure)
  | report {fault : Fault} {next : Session} {executed : σ} {failure : StreamFailure}
      (hexecute : session.execute kernel line state = some (.error fault, next, executed))
      (hcomplain : (kernel.complain (JobShell.report fault.message) executed).1 = .error failure)

theorem launchBackground_eq_none_iff (kernel : Kernel σ) (pipeline : Pipeline)
    (session : Session) (state : σ) :
    session.launchBackground kernel pipeline state = none ↔
      ∃ job started failure,
        Launch.launch kernel.toStarter session.environment pipeline.commands state =
          (.ok job, started) ∧
        (kernel.say (startedNotice (job.pids.foldl Registry.push session.jobs) job)
          started).1 = .error failure := by
  rw [launchBackground]
  split
  · next fault failed hlaunch => simp [hlaunch]
  · next job started hlaunch => simp [hlaunch]

theorem launchForeground_eq_none_iff {pipeline : Pipeline}
    (hread : session.read kernel line = .ok (some (pipeline, .foreground))) (state : σ) :
    session.launchForeground kernel pipeline state = none ↔
      ∃ wait, session.Awaits kernel line state kernel.patience wait := by
  simp only [awaits_iff hread]
  rw [launchForeground]
  split
  · next fault failed hlaunch => simp [hlaunch]
  · next job started hlaunch => simp [hlaunch, waitForeground, Wait.run_eq_none_iff]

/-- A line comes to nothing exactly if it waits for a pipeline without an end, or has a
notice to print that cannot be written. -/
theorem execute_eq_none_iff (kernel : Kernel σ) (line : String) (session : Session) (state : σ) :
    session.execute kernel line state = none ↔
      (∃ wait, session.Awaits kernel line state kernel.patience wait) ∨
        ∃ pipeline job started failure,
          session.read kernel line = .ok (some (pipeline, .background)) ∧
          Launch.launch kernel.toStarter session.environment pipeline.commands state =
            (.ok job, started) ∧
          (kernel.say (startedNotice (job.pids.foldl Registry.push session.jobs) job)
            started).1 = .error failure := by
  have hnever (hother : ∀ pipeline, session.read kernel line ≠ .ok (some (pipeline, .foreground))) :
      ¬ ∃ wait, session.Awaits kernel line state kernel.patience wait := by
    rintro ⟨wait, hawaits⟩
    obtain ⟨pipeline, hread⟩ := hawaits.read
    exact hother pipeline hread
  rw [execute]
  split
  · next error hread => simp [hread, hnever]
  · next hread => simp [hread, hnever]
  · next pipeline builtin command hread => simp [hread, hnever]
  · next pipeline hread =>
      rw [launchBackground_eq_none_iff]
      simp [hread, hnever]
  · next pipeline hread =>
      rw [launchForeground_eq_none_iff hread]
      simp [hread]

theorem processLine_eq_none_iff (kernel : Kernel σ) (line : String) (session : Session)
    (state : σ) :
    session.processLine kernel line state = none ↔
      (∃ wait, session.Awaits kernel line state kernel.patience wait) ∨
        session.Mutes kernel line state := by
  rw [processLine, Option.bind_eq_none_iff]
  constructor
  · intro hnone
    cases hexecute : session.execute kernel line state with
    | none =>
        obtain hawaits | ⟨pipeline, job, started, failure, hread, hlaunch, hsay⟩ :=
          (execute_eq_none_iff kernel line session state).mp hexecute
        · exact .inl hawaits
        · exact .inr (.notice hread hlaunch hsay)
    | some result =>
        obtain ⟨outcome, next, executed⟩ := result
        have hsettle := Option.map_eq_none_iff.mp (hnone _ hexecute)
        cases outcome with
        | ok flow => cases hsettle
        | error fault =>
            obtain ⟨failure, hcomplain⟩ :=
              Kernel.written_eq_none_iff.mp (Option.map_eq_none_iff.mp hsettle)
            exact .inr (.report hexecute hcomplain)
  · intro hmutes result hresult
    have hexecutes (hnone : session.execute kernel line state = none) : False := by
      cases hnone.symm.trans hresult
    rcases hmutes with hawaits | ⟨hread, hlaunch, hsay⟩ | ⟨hexecute, hcomplain⟩
    · exact (hexecutes ((execute_eq_none_iff _ _ _ _).mpr (.inl hawaits))).elim
    · exact (hexecutes ((execute_eq_none_iff _ _ _ _).mpr
        (.inr ⟨_, _, _, _, hread, hlaunch, hsay⟩))).elim
    · cases hexecute.symm.trans hresult
      rw [Option.map_eq_none_iff, settle, Option.map_eq_none_iff]
      exact Kernel.written_eq_none_iff.mpr ⟨_, hcomplain⟩

/-- A line that is done with has come to an outcome, and to a report of it that has been
written if that is a fault. -/
theorem processLine_eq_some_iff (kernel : Kernel σ) (line : String) (session : Session)
    (state : σ) (result : Flow × Session × σ) :
    session.processLine kernel line state = some result ↔
      ∃ next, (∃ flow final, session.execute kernel line state = some (.ok flow, next, final) ∧
          result = (flow, next.remember flow, final)) ∨
        ∃ fault executed final,
          session.execute kernel line state = some (.error fault, next, executed) ∧
          kernel.complain (JobShell.report fault.message) executed = (.ok (), final) ∧
          result = (.proceed fault.status, { next with lastStatus := fault.status }, final) := by
  rw [processLine, Option.bind_eq_some_iff]
  constructor
  · rintro ⟨⟨outcome, next, executed⟩, hexecute, hresult⟩
    obtain ⟨⟨flow, final⟩, hsettle, rfl⟩ := Option.map_eq_some_iff.mp hresult
    cases outcome with
    | ok flow =>
        cases hsettle
        exact ⟨next, .inl ⟨_, _, hexecute, rfl⟩⟩
    | error fault =>
        obtain ⟨reported, hcomplain, hreported⟩ := Option.map_eq_some_iff.mp hsettle
        cases hreported
        exact ⟨next, .inr ⟨_, _, _, hexecute, Kernel.written_eq_some_iff.mp hcomplain, rfl⟩⟩
  · rintro ⟨next, ⟨flow, final, hexecute, rfl⟩ | ⟨fault, executed, final, hexecute, hcomplain, rfl⟩⟩
    · exact ⟨_, hexecute, rfl⟩
    · refine ⟨_, hexecute, ?_⟩
      simp [settle, Kernel.written_eq_some_iff.mpr hcomplain, remember]

/-- The status that a line leaves is remembered, unless it ends the session. -/
theorem lastStatus_of_processLine {state final : σ} {flow : Flow} {next : Session}
    (hline : session.processLine kernel line state = some (flow, next, final)) :
    (∀ status, flow = .proceed status → next.lastStatus = status) ∧
      ∀ code, flow = .exit code → next.lastStatus = session.lastStatus := by
  obtain ⟨kept, ⟨flow, final, hexecute, hresult⟩ | ⟨fault, _, _, -, -, hresult⟩⟩ :=
    (processLine_eq_some_iff _ _ _ _ _).mp hline
  · cases hresult
    refine ⟨?_, ?_⟩
    · rintro status rfl
      rfl
    · rintro code rfl
      exact lastStatus_of_execute hexecute
  · cases hresult
    exact ⟨fun status hstatus => Flow.proceed.inj hstatus, nofun⟩

/-- A line ends its session in exactly two ways: it is `exit` alone with an argument that
it can take, or a quit is confirmed while its pipeline is waited for.  Every other line
that is done with leaves the status that is remembered, and a blank one the status before
it.  A line is not done with in exactly two cases: it waits for its pipeline without an
end, or what it has to print cannot be written. -/
theorem processLine_exit_iff (kernel : Kernel σ) (line : String) (session : Session)
    (state : σ) :
    (∀ code, (∃ next final,
        session.processLine kernel line state = some (.exit code, next, final)) ↔
      session.Exits kernel line state code ∨
        code = 0 ∧ ∃ turns < kernel.patience, ∃ wait,
          session.Awaits kernel line state turns wait ∧ wait.Confirmed kernel) ∧
    (∀ flow next final, session.processLine kernel line state = some (flow, next, final) →
      (∀ status, flow = .proceed status → next.lastStatus = status) ∧
      (∀ code, flow = .exit code → next.lastStatus = session.lastStatus)) ∧
    (lex line = .ok [] →
      session.processLine kernel line state =
        some (.proceed session.lastStatus, session, state)) ∧
    (session.processLine kernel line state = none ↔
      (∃ wait, session.Awaits kernel line state kernel.patience wait) ∨
        session.Mutes kernel line state) := by
  refine ⟨fun code => ?_, fun flow next final => lastStatus_of_processLine, ?_,
    processLine_eq_none_iff kernel line session state⟩
  · rw [← execute_exit_iff]
    constructor
    · rintro ⟨_, _, hline⟩
      obtain ⟨next, ⟨flow, final, hexecute, hresult⟩ | ⟨fault, _, _, _, -, hresult⟩⟩ :=
        (processLine_eq_some_iff _ _ _ _ _).mp hline
      · cases hresult
        exact ⟨_, _, hexecute⟩
      · cases hresult
    · rintro ⟨next, final, hexecute⟩
      exact ⟨_, _, (processLine_eq_some_iff _ _ _ _ _).mpr ⟨next, .inl ⟨_, _, hexecute, rfl⟩⟩⟩
  · intro hblank
    have hread : session.read kernel line = .ok none := by
      simp [read, hblank, bind, Except.bind, pure, Except.pure]
    rw [processLine, execute, hread]
    rfl

/-- No process ends, and the user loses patience. -/
def quittingCourse : Timetable.Course where
  ends _ := (100, .exited 0)
  arrivals
    | 20 => [.quit]
    | 40 => [.quit]
    | _ => []

theorem processLine_exit_quitting :
    let kernel := Timetable.kernel quittingCourse
    (∃ next final, ({} : Session).processLine kernel "\"ex\"\\it -7 > log" {} =
      some (.exit (-7), next, final)) ∧
    ∃ turns < kernel.patience, ∃ wait,
      ({} : Session).Awaits kernel "cat | sort" {} turns wait ∧ wait.Confirmed kernel := by
  intro kernel
  constructor
  · let command : Command := { argv := ["exit", "-7"], output := some "log" }
    have hread : ({} : Session).read kernel "\"ex\"\\it -7 > log" =
        .ok (some ({ commands := [command], background := false }, .builtin .exit command)) := by
      decide +kernel
    have hdigits : Text.Denotes ['7'] 7 := ⟨List.cons_ne_nil _ _, by simp, rfl⟩
    have hnumeral : Builtin.Numeral "-7".toList (-7) := .minus hdigits
    refine ((processLine_exit_iff kernel _ _ _).1 _).mpr (.inl ((exits_iff _ _).mpr ?_))
    exact ⟨_, command, _, hread, .code hnumeral (by decide) (by decide), .opens rfl (.nothing _)⟩
  · have hreturned : (({} : Session).processLine kernel "cat | sort" {}).map Prod.fst =
        some (.exit 0) := by
      decide +kernel
    obtain ⟨⟨flow, next, final⟩, hreturns, hflow⟩ := Option.map_eq_some_iff.mp hreturned
    obtain rfl : flow = .exit 0 := hflow
    obtain hexits | ⟨-, hquits⟩ :=
      ((processLine_exit_iff kernel "cat | sort" {} {}).1 0).mp ⟨next, final, hreturns⟩
    · obtain ⟨pipeline, command, -, hread, -⟩ := (exits_iff _ _).mp hexits
      have hforeground : (({} : Session).read kernel "cat | sort").map
          (Option.map Prod.snd) = .ok (some .foreground) := by
        decide +kernel
      rw [hread] at hforeground
      cases hforeground
    · exact hquits

end Session

end JobShell
