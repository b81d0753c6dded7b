import JobShell.Kernel
import JobShell.Registry
import JobShell.Settings
import JobShell.Token.Lexer

/-!
# Sessions

A session takes one line after the other.  A line that fails is reported and
leaves a status; only `exit` and a confirmed quit end the session.

While a pipeline runs in the foreground the session sleeps on the wakeup pipe
between rounds of asking for its processes, and serves the signals that have been
recorded whenever it wakes.

A line may have no result.  Waiting may never end, and is given up when the kernel's
patience runs out; and a report or a notice that cannot be written brings the whole
shell down.
-/

namespace JobShell

/-- What becomes of the session after a line. -/
inductive Flow where
  | proceed (status : Int)
  | exit (code : Int)
  deriving DecidableEq, Repr, Inhabited

/-- What has come of serving the recorded signals. -/
inductive Serviced where
  | quiet
  /-- Something was printed over the prompt, or the line was interrupted. -/
  | redraw
  | exit (code : Int)
  deriving DecidableEq, Repr, Inhabited

structure Session where
  settings : Settings := {}
  environment : Environment := {}
  jobs : Registry := {}
  quit : Quit.State := {}
  /-- The group of the pipeline that is being waited for. -/
  foreground : Option Pid := none
  lastStatus : Int := 0
  deriving DecidableEq, Repr, Inhabited

namespace Session

variable {σ : Type}

/-! ## Signals -/

/-- An announcement that cannot be written is passed over. -/
def performEffect (kernel : Kernel σ) : Quit.Effect → σ → σ
  | .announce timeout, state => (kernel.say (Quit.announcement timeout) state).2
  | .arm timeout, state => kernel.setAlarm (Quit.alarmSeconds timeout) state
  | .cancel, state => kernel.cancelAlarm state

def performEffects (kernel : Kernel σ) (effects : List Quit.Effect) (state : σ) : σ :=
  effects.foldl (fun state effect => performEffect kernel effect state) state

/-- Serves deliveries in order.  An interrupt goes to the pipeline in the
foreground, and to the user where there is none. -/
def serveAll (kernel : Kernel σ) :
    List Quit.Delivery → Serviced → Session → σ → Serviced × Session × σ
  | [], serviced, session, state => (serviced, session, state)
  | .interrupt :: rest, serviced, session, state =>
      match session.foreground with
      | some group => serveAll kernel rest serviced session (kernel.interruptGroup group state)
      | none => serveAll kernel rest .redraw session state
  | delivery :: rest, serviced, session, state =>
      let response := Quit.handle session.settings.quitTimeout delivery session.quit
      let state := performEffects kernel response.effects state
      let served := { session with quit := response.state }
      match response.exitCode with
      | some code => (.exit code, served, state)
      | none =>
          let serviced := if !session.quit.armed && response.state.armed then .redraw else serviced
          serveAll kernel rest serviced served state

/-- Serves every signal recorded since the last time. -/
def serviceSignals (kernel : Kernel σ) (session : Session) (state : σ) :
    Serviced × Session × σ :=
  let (deliveries, state) := kernel.takePending kernel.patience state
  serveAll kernel deliveries .quiet session state

end Session

/-! ## Waiting in the foreground -/

/-- Where waiting for a pipeline has come to.  `waiting` holds the processes that are
still to be asked for in this round, `alive` those that were running when they were
asked for; `status` is that of the pipeline as far as it is known. -/
structure Wait (σ : Type) where
  alive : List Pid
  waiting : List Pid
  status : Int
  session : Session
  state : σ

namespace Wait

variable {σ : Type}

def start (job : Launch.Job) (session : Session) (state : σ) : Wait σ where
  alive := []
  waiting := job.pids
  status := 0
  session := session
  state := state

/-- One turn, which asks for one process or, at the end of a round, sleeps.  A process
that is done with gives its place to the one that would be asked for last.  The wait
comes to its result or goes on; its status is that of the process `last`. -/
def turn (kernel : Kernel σ) (last : Pid) : Wait σ → (Flow × Session × σ) ⊕ Wait σ
  | { alive, waiting := pid :: waiting, status, session, state } =>
      match kernel.poll pid state with
      | (.ok .alive, state) => .inr { alive := alive ++ [pid], waiting, status, session, state }
      | (.ok ended, state) =>
          let status := if pid = last then ended.exitStatus else status
          .inr { alive, waiting := waiting.rotateRight, status, session, state }
      | (.error .interrupted, state) =>
          .inr { alive, waiting := pid :: waiting, status, session, state }
      | (.error _, state) =>
          .inr { alive, waiting := waiting.rotateRight, status, session, state }
  | { alive := [], waiting := [], status, session, state } =>
      .inl (.proceed status, session, state)
  | { alive := pid :: alive, waiting := [], status, session, state } =>
      match session.serviceSignals kernel (kernel.sleep state) with
      | (.exit code, session, state) => .inl (.exit code, session, state)
      | (_, session, state) => .inr { alive := [], waiting := pid :: alive, status, session, state }

def run (kernel : Kernel σ) (last : Pid) : Nat → Wait σ → Option (Flow × Session × σ)
  | 0, _ => none
  | turns + 1, wait =>
      match wait.turn kernel last with
      | .inl result => some result
      | .inr next => run kernel last turns next

end Wait

namespace Session

variable {σ : Type}

/-- Waits until every process of a job has ended, or a quit is confirmed. -/
def waitForeground (kernel : Kernel σ) (job : Launch.Job) (session : Session) (state : σ) :
    Option (Flow × Session × σ) :=
  (Wait.start job session state).run kernel job.last kernel.patience

/-! ## Lines -/

/-- The builtin of the first command that names one. -/
def findBuiltin? (pipeline : Pipeline) : Option Builtin :=
  pipeline.commands.findSome? fun command => Builtin.ofName? command.program

/-- How a pipeline is to be run. -/
inductive Dispatch where
  | builtin (builtin : Builtin) (command : Command)
  | foreground
  | background
  deriving DecidableEq, Repr

def notAllowed (builtin : Builtin) (context : String) : SyntaxError :=
  .builtinNotAllowed builtin.name context

/-- A builtin runs alone and in the foreground. -/
def dispatch (pipeline : Pipeline) : Except SyntaxError Dispatch :=
  match findBuiltin? pipeline with
  | none => .ok (if pipeline.background then .background else .foreground)
  | some builtin =>
      match pipeline.commands with
      | [command] =>
          if pipeline.background then .error (notAllowed builtin "in the background")
          else .ok (.builtin builtin command)
      | _ => .error (notAllowed builtin "in a pipeline")

/-- What a line comes to before anything is done: nothing for a blank line. -/
def read (kernel : Kernel σ) (line : String) (session : Session) :
    Except SyntaxError (Option (Pipeline × Dispatch)) := do
  let tokens ← lex line
  if tokens.isEmpty then pure none
  else
    let pipeline ← parse (session.environment.bindings kernel.account) tokens
    pure (some (pipeline, ← dispatch pipeline))

/-- Runs a builtin in the shell.  Its targets are opened for the effect of that; what
it prints goes to the standard output stream all the same. -/
def runBuiltin (kernel : Kernel σ) (builtin : Builtin) (command : Command)
    (session : Session) (state : σ) : Except Fault Flow × Session × σ :=
  match kernel.openTargets command.targets state with
  | (.error fault, state) => (.error fault, session, state)
  | (.ok (), state) =>
      let (outcome, environment, state) :=
        builtin.run kernel.toHost command.argv.tail session.environment state
      let session := { session with environment }
      match outcome with
      | .error fault => (.error fault, session, state)
      | .ok (.status status) => (.ok (.proceed status), session, state)
      | .ok (.exit code) => (.ok (.exit code), session, state)

/-- What is said of a job that has been started in the background. -/
def startedNotice (jobs : Registry) (job : Launch.Job) : String :=
  "[" ++ toString jobs.size ++ "] " ++ toString job.last ++ "\n"

def launchBackground (kernel : Kernel σ) (pipeline : Pipeline) (session : Session)
    (state : σ) : Option (Except Fault Flow × Session × σ) :=
  match Launch.launch kernel.toStarter session.environment pipeline.commands state with
  | (.error fault, state) => some (.error fault, session, state)
  | (.ok job, state) =>
      let session := { session with jobs := job.pids.foldl Registry.push session.jobs }
      (Kernel.written (kernel.say (startedNotice session.jobs job) state)).map fun state =>
        (.ok (.proceed 0), session, state)

def launchForeground (kernel : Kernel σ) (pipeline : Pipeline) (session : Session)
    (state : σ) : Option (Except Fault Flow × Session × σ) :=
  match Launch.launch kernel.toStarter session.environment pipeline.commands state with
  | (.error fault, state) => some (.error fault, session, state)
  | (.ok job, state) =>
      (waitForeground kernel job { session with foreground := some job.group } state).map
        fun (flow, session, state) => (.ok flow, { session with foreground := none }, state)

/-- Runs a line, up to a fault. -/
def execute (kernel : Kernel σ) (line : String) (session : Session) (state : σ) :
    Option (Except Fault Flow × Session × σ) :=
  match session.read kernel line with
  | .error error => some (.error (.malformed error), session, state)
  | .ok none => some (.ok (.proceed session.lastStatus), session, state)
  | .ok (some (_, .builtin builtin command)) =>
      some (runBuiltin kernel builtin command session state)
  | .ok (some (pipeline, .background)) => launchBackground kernel pipeline session state
  | .ok (some (pipeline, .foreground)) => launchForeground kernel pipeline session state

/-- Turns a fault into a report and a status. -/
def settle (kernel : Kernel σ) (outcome : Except Fault Flow) (state : σ) : Option (Flow × σ) :=
  match outcome with
  | .ok flow => some (flow, state)
  | .error fault =>
      (Kernel.written (kernel.complain (report fault.message) state)).map fun state =>
        (.proceed fault.status, state)

/-- Remembers the status of a line that does not end the session. -/
def remember (session : Session) : Flow → Session
  | .proceed status => { session with lastStatus := status }
  | .exit _ => session

/-- Runs one line of input. -/
def processLine (kernel : Kernel σ) (line : String) (session : Session) (state : σ) :
    Option (Flow × Session × σ) :=
  (execute kernel line session state).bind fun (outcome, session, state) =>
    (settle kernel outcome state).map fun (flow, state) => (flow, session.remember flow, state)

/-! ## Between lines -/

def doneNotice (finished : Pid × Int) : String :=
  "[" ++ toString finished.1 ++ "] done (status " ++ toString finished.2 ++ ")\n"

/-- Reports the background processes that have ended, up to a notice that cannot be
written. -/
def printFinishedJobs (kernel : Kernel σ) (session : Session) (state : σ) :
    Except StreamFailure Unit × Session × σ :=
  let (finished, jobs, state) := session.jobs.reap kernel.poll state
  let (answer, state) := kernel.sayAll (finished.map doneNotice) state
  (answer, { session with jobs }, state)

/-- What reporting them leaves, whether or not it could be written. -/
def reportFinishedJobs (kernel : Kernel σ) (session : Session) (state : σ) : Session × σ :=
  (printFinishedJobs kernel session state).2

/-- Forgets all background processes. -/
def shutdown (kernel : Kernel σ) (session : Session) (state : σ) : Session × σ :=
  let (_, jobs, state) := session.jobs.drain kernel.poll state
  ({ session with jobs }, state)

def colored (color : String) (text : String) : String :=
  "\x1b[38;5;" ++ color ++ "m" ++ text ++ "\x1b[39m"

/-- User, working directory, and a mark for the superuser. -/
def prompt (kernel : Kernel σ) (state : σ) : String :=
  let user := kernel.account.name.getD "(none)"
  let directory := match kernel.directory state with
    | .ok path => Text.lossy path
    | .error errno => "(error: " ++ errno.fileMessage ++ ")"
  let mark := if kernel.account.isSuperuser then "#" else "$"
  colored "1" user ++ "@" ++ colored "2" directory ++ mark ++ " "

/-- What printing the prompt leaves, whether or not it could be written. -/
def printPrompt (kernel : Kernel σ) (state : σ) : σ :=
  (kernel.say (prompt kernel state) state).2

end Session

end JobShell
