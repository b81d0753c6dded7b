import JobShell.Programs.Scripting.Jobs
import JobShell.Programs.Scripting.Utility.Basic

/-!
# Processes and signals

The utilities that send signals, answer them and wait for processes.
-/

namespace JobShell.Programs.Scripting

open JobShell.Machine

/-! ## Names of signals -/

/-- The largest number of a signal. -/
def lastSignal : Nat := 64

/-- The name of a signal by its number, with a given one for the end of a script.  Those
without a meaning of their own count from both ends of their range. -/
def signalName (ending : String) (number : Nat) : String :=
  if number = 0 then ending
  else if number = 16 || number = 32 || number = 33 then toString number
  else if number = 34 then "RTMIN"
  else if number = lastSignal then "RTMAX"
  else if 34 < number && number < 50 then "RTMIN+" ++ toString (number - 34)
  else if 50 ≤ number && number < lastSignal then "RTMAX-" ++ toString (lastSignal - number)
  else ((Signal.ofNumber? number).map Signal.name).getD ""

def signalNumber? (text : String) : Option Nat :=
  (Text.digitsValue? text.toList).filter (· ≤ lastSignal)

/-- The number that a text stands for, if it is not less than the first one. -/
def signalOf? (first : Nat) (text : String) : Option Nat :=
  let upper (text : String) : String := String.ofList (text.toList.map Char.toUpper)
  match signalNumber? text with
  | some number => some number
  | none =>
      (List.range' first (lastSignal + 1 - first)).find? fun number =>
        signalName "EXIT" number = upper text

/-! ## Jobs -/

/-- The job that a text with a percent sign stands for. -/
def jobOf (text : String) : Shell Job := do
  let jobs := (← get).jobs
  let choose (job : Option Job) (otherwise : String) : Shell Job :=
    match job with
    | some job => pure job
    | none => Shell.fail otherwise
  match text.toList.tail with
  | [] | ['+'] | ['%'] => choose jobs.head? "No current job"
  | ['-'] => choose jobs.tail.head? "No previous job"
  | digits =>
      choose (jobs.find? fun job => some job.number = Text.digitsValue? digits)
        ("No such job: " ++ text)

/-- The line that a listing has about a job, given all jobs that are left. -/
def jobLine (jobs : List Job) (withPid : Bool) (job : Job) : String :=
  let isAt (place : Option Job) : Bool := place.any fun other => other.number = job.number
  let mark := if isAt jobs.head? then "+" else if isAt jobs.tail.head? then "-" else " "
  let pid := if withPid then
      String.join ((job.members.take 1).map fun member => toString member.1 ++ " ")
    else ""
  padRight 33 ("[" ++ toString job.number ++ "] " ++ mark ++ " " ++ pid ++ job.stateText)
    ++ String.join (job.members.tail.map fun _ => " | ") ++ "\n"

/-- Lists jobs one after another; those that have ended are forgotten then. -/
def listedFrom (withPid : Bool) (jobs : List Job) : List Job → String
  | [] => ""
  | job :: rest =>
      let left := if job.end?.isSome then jobs.filter fun other => other.number ≠ job.number
        else jobs
      jobLine jobs withPid job ++ listedFrom withPid left rest

def listJobs : Utility := fun arguments => do
  let (found, _) ← options "lp" "" arguments
  Shell.pollJobs
  let state ← get
  set { state with jobs := state.jobs.filter fun job => job.end?.isNone }
  if hasOption 'p' found then
    printText (String.join (state.jobs.flatMap fun job =>
      (job.members.take 1).map fun member => toString member.1 ++ "\n"))
  else printText (listedFrom (hasOption 'l' found) state.jobs state.jobs)

/-- Jobs cannot be moved between the foreground and the background. -/
def resume : Utility := fun arguments => do
  let name := arguments.headD "%"
  if name.toList.head? ≠ some '%' then Shell.fail ("No such job: " ++ name)
  let _ ← jobOf name
  Shell.fail ("job " ++ arguments.headD "(null)" ++ " not created under job control")

/-! ## kill -/

def killUsage : String :=
  "Usage: kill [-s sigspec | -signum | -sigspec] [pid | job]... or\nkill -l [exitstatus]"

/-- The names of all signals, or of the one that a status tells of. -/
def listSignals : List String → Shell Nat
  | [] =>
      printText (String.join ((List.range (lastSignal + 1)).map fun number =>
        signalName "0" number ++ "\n"))
  | text :: _ => do
      let status ← count text
      let number := if status > 128 then status - 128 else status
      if number = 0 || number > lastSignal then
        Shell.fail ("invalid signal number or exit status: " ++ text)
      else printText (signalName "0" number ++ "\n")

/-- The process or group that an argument stands for. -/
def killTarget (text : String) : Shell Pid :=
  match text.toList with
  | '%' :: _ => do
      match (← jobOf text).members with
      | (pid, _) :: _ => pure (-pid)
      | [] => pure 0
  | '-' :: rest => do
      pure (-((← count (String.ofList rest)) : Int))
  | _ => do
      pure ((← count text) : Int)

/-- Sends a signal to each process; the number zero only asks whether there is one. -/
def killAll (number : Nat) : Nat → List String → Shell Nat
  | status, [] => pure status
  | status, text :: rest => do
      let pid ← killTarget text
      match ← Shell.act (Action.kill pid (Signal.ofNumber? number)) with
      | .ok () => killAll number status rest
      | .error errno => do
          Shell.report (errno.systemText ++ "\n")
          killAll number 1 rest

/-- What the options of `kill` ask for. -/
structure KillRequest where
  number : Option Nat := none
  lists : Bool := false
  operands : List String

def killRequest (arguments : List String) : Shell KillRequest :=
  match arguments with
  | [] => Shell.fail killUsage
  | first :: rest =>
      match first.toList with
      | '-' :: name =>
          match signalOf? 1 (String.ofList name) with
          | some number => pure { number := some number, operands := rest }
          | none => do
              let (found, operands) ← options "l" "s" arguments
              let number ← found.foldlM
                (fun number (letter, value) =>
                  if letter ≠ 's' then pure number
                  else
                    match signalOf? 1 value with
                    | some number => pure (some number)
                    | none => Shell.fail ("invalid signal number or name: " ++ value))
                none
              pure { number, lists := hasOption 'l' found, operands }
      | _ => pure { operands := arguments }

def sendSignal : Utility := fun arguments => do
  let request ← killRequest arguments
  if request.lists then
    if request.number.isSome && !request.operands.isEmpty then Shell.fail killUsage
    else listSignals request.operands
  else if request.operands.isEmpty then Shell.fail killUsage
  else killAll (request.number.getD Signal.terminate.number) 0 request.operands

/-! ## wait -/

/-- The status of a wait that a signal has ended. -/
def interruptedStatus : Shell Nat := do
  Shell.takeCaught
  pure (128 + (((← get).caught.getLast?).map Signal.number).getD 0)

/-- Waits until processes have ended; a status is returned if a signal comes before. -/
def awaitEnds (tells : Bool) : List Pid → Shell (Option Nat)
  | [] => pure none
  | pid :: rest => do
      match ← Shell.act (Action.wait pid) with
      | .ok status => do
          if tells then Shell.tellEnd status
          modify fun state => state.note pid status
          awaitEnds tells rest
      | .error .interrupted => do
          let status ← interruptedStatus
          pure (some status)
      | .error _ => do
          modify fun state => state.note pid (.exited 127)
          awaitEnds tells rest

/-- The job that an argument of `wait` stands for, if it is known. -/
def awaitedJob? (text : String) : Shell (Option Job) := do
  if text.toList.head? = some '%' then
    let job ← jobOf text
    pure (some job)
  else
    let pid : Int := (← count text)
    pure ((← get).jobs.find? fun job => (job.members.getLast?.map Prod.fst) = some pid)

/-- Waits for one job after another, and returns the status of the last one. -/
def awaitJobs : Nat → List String → Shell Nat
  | status, [] => pure status
  | status, text :: rest => do
      match ← awaitedJob? text with
      | none => awaitJobs status rest
      | some job => do
          match ← awaitEnds true job.running with
          | some status => pure status
          | none => do
              let jobs := (← get).jobs.map fun other =>
                if other.number = job.number then { other with told := true } else other
              modify fun state => { state with jobs }
              let ended := (jobs.find? fun other => other.number = job.number).bind Job.end?
              awaitJobs ((ended.map fun ended => ended.exitStatus.toNat).getD status) rest

def awaitChildren : Utility := fun arguments => do
  let (_, operands) ← options "" "" arguments
  if operands.isEmpty then
    match ← awaitEnds false ((← get).jobs.flatMap Job.running) with
    | some status => pure status
    | none => do
        modify fun state =>
          { state with jobs := state.jobs.map fun job => { job with told := true } }
        pure 0
  else awaitJobs 127 operands

/-! ## trap -/

/-- Does about a signal what its answer asks for, if that can be changed. -/
def heedSignal (number : Nat) (answer : Option String) : Shell Unit := do
  match Signal.ofNumber? number with
  | none => pure ()
  | some signal => do
      let state ← get
      if !state.settled.contains signal then
        let reaction : Reaction := match answer with
          | none => .byDefault
          | some "" => .ignores
          | some _ => .catches
        let before ← Shell.act (Action.react signal reaction)
        if before = .ignores && !state.chosen.contains signal then
          let _ ← Shell.act (Action.react signal .ignores)
          set { state with settled := signal :: state.settled }
        else set { state with chosen := signal :: state.chosen }

/-- Sets or takes away the answers to signals, up to one that does not exist. -/
def setTraps (answer : Option String) : List String → Shell Nat
  | [] => pure 0
  | text :: rest => do
      match signalOf? 0 text with
      | none => do
          mutter ("trap: " ++ text ++ ": bad trap")
          pure 1
      | some number => do
          modify fun state =>
            { state with
              traps := state.traps.filter (fun entry => entry.1 ≠ number)
                ++ answer.toList.map fun answer => (number, answer) }
          heedSignal number answer
          setTraps answer rest

/-- The answers to signals in the order of their numbers. -/
def listTraps : Shell Nat := do
  let traps := (← get).traps
  let lines := (List.range (lastSignal + 1)).map fun number =>
    match traps.lookup number with
    | some answer => "trap -- " ++ singleQuoted answer ++ " " ++ signalName "EXIT" number ++ "\n"
    | none => ""
  printText (String.join lines)

def changeTraps : Utility := fun arguments => do
  let (_, operands) ← options "" "" arguments
  match operands with
  | [] => listTraps
  | [signal] => setTraps none [signal]
  | answer :: signals =>
      if (signalNumber? answer).isSome then setTraps none operands
      else setTraps (if answer = "-" then none else some answer) signals

/-! ## times, ulimit -/

/-- No time passes while a process computes. -/
def showTimes : Utility := fun _ => do
  let line := "0m0.000000s 0m0.000000s\n"
  printText (line ++ line)

/-- Files may be as large as there is room for. -/
def showLimit : Utility := fun _ =>
  printText "unlimited\n"

end JobShell.Programs.Scripting
