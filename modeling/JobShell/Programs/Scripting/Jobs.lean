import JobShell.Programs.Scripting.State

/-!
# Jobs

What a script knows about the processes that it has started.  It waits for those in the
foreground; signals that are caught meanwhile are answered later.
-/

namespace JobShell.Programs.Scripting

open JobShell.Machine

namespace State

/-- Takes note of the end of a process. -/
def note (state : State) (pid : Pid) (status : WaitStatus) : State :=
  { state with jobs := state.jobs.map fun job => job.note pid status }

/-- Forgets the jobs whose ends have been told. -/
def forgetTold (state : State) : State :=
  { state with jobs := state.jobs.filter fun job => !job.told || job.end?.isNone }

/-- The least number from `first` on that no job has; `limit` bounds the search. -/
def freeJobNumber (state : State) : Nat → Nat → Nat
  | 0, first => first
  | limit + 1, first =>
      if state.jobs.any fun job => job.number = first then state.freeJobNumber limit (first + 1)
      else first

/-- Adds a job with the given processes. -/
def addJob (state : State) (pids : List Pid) : State :=
  let number := state.freeJobNumber (state.jobs.length + 1) 1
  let job : Job := { number, members := pids.map fun pid => (pid, none) }
  { state with jobs := job :: state.jobs, lastBackground := pids.getLast? }

end State

namespace Shell

/-- Takes note of signals that have been caught. -/
def takeCaught : Shell Unit := do
  let found ← act Action.takeCaught
  modify fun state => { state with caught := state.caught ++ found }

/-- How often waiting can be interrupted at most. -/
def waitLimit : Nat := 100000

/-- Waits for a process, whatever signals come. -/
def awaitProcess (pid : Pid) : Nat → Shell (Option WaitStatus)
  | 0 => pure none
  | limit + 1 => do
      match ← act (Action.wait pid) with
      | .ok status => pure (some status)
      | .error .interrupted => do
          takeCaught
          awaitProcess pid limit
      | .error _ => pure none

/-- Reports the end of a process by a signal.  That it was interrupted or that no one
reads what it writes is nothing to report. -/
def tellEnd (status : WaitStatus) : Shell Unit :=
  match status with
  | .signaled signal core =>
      if signal = .interrupt || signal = .pipe then pure ()
      else
        act (print Action.errors
          (signal.systemText ++ (if core then " (core dumped)" else "") ++ "\n"))
  | _ => pure ()

/-- Asks which processes in the background have ended. -/
def pollJobs : Shell Unit := do
  for pid in (← get).jobs.flatMap Job.running do
    match ← act (Action.poll pid) with
    | .ok .alive => pure ()
    | .ok status => modify fun state => state.note pid status
    | .error _ => modify fun state => state.note pid (.exited 127)

/-- Waits for processes in the foreground, and returns the status of the last one. -/
def awaitAll (pids : List Pid) : Shell Nat := do
  let ends ← pids.mapM fun pid => do
    let status := (← awaitProcess pid waitLimit).getD (.exited 127)
    tellEnd status
    pure status
  pollJobs
  pure ((ends.getLast?.map fun status => status.exitStatus.toNat).getD 0)

end Shell

/-- How the state of a job is shown. -/
def Job.stateText (job : Job) : String :=
  match job.end? with
  | none => "Running"
  | some (.exited code) => if code = 0 then "Done" else "Done(" ++ toString code ++ ")"
  | some (.signaled signal core) =>
      signal.systemText ++ (if core then " (core dumped)" else "")
  | some _ => ""

end JobShell.Programs.Scripting
