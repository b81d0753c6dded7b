import JobShell.Environment
import JobShell.Fault
import JobShell.Pipeline
import JobShell.Signal

/-!
# Starting pipelines

A pipeline becomes one process for each command, all in a process group led by
the first one.  The pipes between them exist before the first process does, so
every process inherits all of them; what a process does with its descriptors
before its program begins is the list `wiring`.  It takes its ends of the pipes
next to it, closes all pipe descriptors, and only then opens redirection
targets, which replace what the pipes put there.  The shell closes its own copies
once the last process exists, so that a reader meets the end of its input when
its writer is done.
-/

namespace JobShell

/-- Numbers of open files in one process. -/
abbrev Descriptor := Nat

structure PipeEnds where
  readEnd : Descriptor
  writeEnd : Descriptor
  deriving DecidableEq, Repr, Inhabited

/-- The standard stream that a redirection replaces. -/
def Direction.stream : Direction → Descriptor
  | .input => 0
  | .output => 1

/-- The redirection targets of a command in the order in which they are opened. -/
def Command.targets (command : Command) : List (Direction × String) :=
  (command.input.map fun path => (Direction.input, path)).toList
    ++ (command.output.map fun path => (Direction.output, path)).toList

namespace Launch

/-- One change that a new process makes to its descriptors. -/
inductive Wiring where
  | duplicate (source target : Descriptor)
  | close (descriptor : Descriptor)
  | redirect (direction : Direction) (path : String)
  deriving DecidableEq, Repr, Inhabited

/-- Takes the read end of the pipe before a command. -/
def takeInput (pipes : List PipeEnds) : Nat → List Wiring
  | 0 => []
  | index + 1 => (pipes[index]?.map fun ends => Wiring.duplicate ends.readEnd 0).toList

/-- Takes the write end of the pipe after a command. -/
def takeOutput (pipes : List PipeEnds) (index : Nat) : List Wiring :=
  (pipes[index]?.map fun ends => Wiring.duplicate ends.writeEnd 1).toList

def closeAll (pipes : List PipeEnds) : List Wiring :=
  pipes.flatMap fun ends => [.close ends.readEnd, .close ends.writeEnd]

def wiring (pipes : List PipeEnds) (index : Nat) (command : Command) : List Wiring :=
  takeInput pipes index ++ takeOutput pipes index ++ closeAll pipes
    ++ command.targets.map fun target => .redirect target.1 target.2

/-- A process that is to be started. -/
structure Child where
  /-- The group to join; without one the process leads a new group. -/
  group : Option Pid
  wiring : List Wiring
  argv : List String
  deriving DecidableEq, Repr, Inhabited

def Child.program (child : Child) : String :=
  child.argv.headD ""

/-- A pipeline whose processes have all been started. -/
structure Job where
  leader : Pid
  others : List Pid
  deriving DecidableEq, Repr, Inhabited

namespace Job

def pids (job : Job) : List Pid :=
  job.leader :: job.others

/-- The group has the number of the process that leads it. -/
def group (job : Job) : Pid :=
  job.leader

/-- The process whose status is that of the pipeline. -/
def last (job : Job) : Pid :=
  job.others.getLastD job.leader

end Job

/-- What starting a pipeline needs of the system. -/
structure Starter (σ : Type) where
  /-- How many turns a loop that waits for the world takes before it is given up. -/
  patience : Nat
  openPipe : σ → Except Errno PipeEnds × σ
  closePipes : List PipeEnds → σ → σ
  /-- Holds signals back until they are let through again. -/
  blockSignals : σ → Except Errno Unit × σ
  unblockSignals : σ → σ
  spawn : Environment → Child → σ → Except Errno Pid × σ
  /-- Asks every process of a group to end. -/
  terminateGroup : Pid → σ → σ
  /-- Waits until a child has ended, and forgets it. -/
  waitFor : Pid → σ → Except Errno WaitStatus × σ

variable {σ : Type}

/-- Opens pipes up to one that cannot be had; the list holds those that are open. -/
def openPipes (starter : Starter σ) : Nat → σ → Except Errno Unit × List PipeEnds × σ
  | 0, state => (.ok (), [], state)
  | count + 1, state =>
      match starter.openPipe state with
      | (.error errno, state) => (.error errno, [], state)
      | (.ok ends, state) =>
          let (answer, others, state) := openPipes starter count state
          (answer, ends :: others, state)

/-- Starts the commands from the given position on, up to one that cannot be started;
the list holds the processes that there are. -/
def spawnFrom (starter : Starter σ) (environment : Environment) (pipes : List PipeEnds) :
    Option Pid → Nat → List Command → σ → Except Errno Unit × List Pid × σ
  | _, _, [], state => (.ok (), [], state)
  | group, index, command :: rest, state =>
      let child : Child :=
        { group, wiring := wiring pipes index command, argv := command.argv }
      match starter.spawn environment child state with
      | (.error errno, state) => (.error errno, [], state)
      | (.ok pid, state) =>
          let (answer, pids, state) := spawnFrom starter environment pipes (group.or (some pid))
            (index + 1) rest state
          (answer, pid :: pids, state)

/-- Waits for a process, and once more whenever a signal ends the wait. -/
def awaitEnd (starter : Starter σ) : Nat → Pid → σ → σ
  | 0, _, state => state
  | turns + 1, pid, state =>
      match starter.waitFor pid state with
      | (.error .interrupted, state) => awaitEnd starter turns pid state
      | (_, state) => state

/-- Ends the processes of a pipeline that cannot be completed, and waits for each. -/
def abandon (starter : Starter σ) (pids : List Pid) (state : σ) : σ :=
  let state := match pids with
    | [] => state
    | leader :: _ => starter.terminateGroup leader state
  pids.foldl (fun state pid => awaitEnd starter starter.patience pid state) state

/-- The first argument of a pipeline that holds a zero character. -/
def badArgument? (commands : List Command) : Option String :=
  (commands.flatMap Command.argv).find? fun argument => argument.toList.contains '\x00'

/-- Starts a pipeline and returns without waiting for it.  A bad argument is found
before anything is created; whatever else fails, no pipe is left open and no process
left running. -/
def launch (starter : Starter σ) (environment : Environment) (commands : List Command)
    (state : σ) : Except Fault Job × σ :=
  match badArgument? commands with
  | some argument => (.error (.invalidArgument argument), state)
  | none =>
      match openPipes starter (commands.length - 1) state with
      | (.error errno, pipes, state) =>
          (.error (.launch "cannot create pipe" errno), starter.closePipes pipes state)
      | (.ok (), pipes, state) =>
          match starter.blockSignals state with
          | (.error errno, state) =>
              (.error (.launch "cannot block signals" errno), starter.closePipes pipes state)
          | (.ok (), state) =>
              let (answer, pids, state) :=
                spawnFrom starter environment pipes none 0 commands state
              let state := starter.unblockSignals (starter.closePipes pipes state)
              match answer, pids with
              | .error errno, pids =>
                  (.error (.launch "cannot create process" errno), abandon starter pids state)
              | .ok (), [] => (.error (.launch "empty pipeline" .invalid), state)
              | .ok (), leader :: others => (.ok { leader, others }, state)

/-- What starting a pipeline can come to. -/
inductive ComesTo (starter : Starter σ) (environment : Environment) (commands : List Command)
    (state : σ) : Except Fault Job → σ → Prop where
  | refused {argument : String} (hbad : badArgument? commands = some argument) :
      ComesTo starter environment commands state (.error (.invalidArgument argument)) state
  | unpiped {errno : Errno} {pipes : List PipeEnds} {piped : σ}
      (hgood : badArgument? commands = none)
      (hopen : openPipes starter (commands.length - 1) state = (.error errno, pipes, piped)) :
      ComesTo starter environment commands state (.error (.launch "cannot create pipe" errno))
        (starter.closePipes pipes piped)
  | unblocked {errno : Errno} {pipes : List PipeEnds} {piped blocked : σ}
      (hgood : badArgument? commands = none)
      (hopen : openPipes starter (commands.length - 1) state = (.ok (), pipes, piped))
      (hblock : starter.blockSignals piped = (.error errno, blocked)) :
      ComesTo starter environment commands state (.error (.launch "cannot block signals" errno))
        (starter.closePipes pipes blocked)
  | abandoned {errno : Errno} {pipes : List PipeEnds} {pids : List Pid}
      {piped blocked started : σ}
      (hgood : badArgument? commands = none)
      (hopen : openPipes starter (commands.length - 1) state = (.ok (), pipes, piped))
      (hblock : starter.blockSignals piped = (.ok (), blocked))
      (hspawn : spawnFrom starter environment pipes none 0 commands blocked =
        (.error errno, pids, started)) :
      ComesTo starter environment commands state (.error (.launch "cannot create process" errno))
        (abandon starter pids (starter.unblockSignals (starter.closePipes pipes started)))
  | empty {pipes : List PipeEnds} {piped blocked started : σ}
      (hgood : badArgument? commands = none)
      (hopen : openPipes starter (commands.length - 1) state = (.ok (), pipes, piped))
      (hblock : starter.blockSignals piped = (.ok (), blocked))
      (hspawn : spawnFrom starter environment pipes none 0 commands blocked =
        (.ok (), [], started)) :
      ComesTo starter environment commands state (.error (.launch "empty pipeline" .invalid))
        (starter.unblockSignals (starter.closePipes pipes started))
  | started {job : Job} {pipes : List PipeEnds} {piped blocked started : σ}
      (hgood : badArgument? commands = none)
      (hopen : openPipes starter (commands.length - 1) state = (.ok (), pipes, piped))
      (hblock : starter.blockSignals piped = (.ok (), blocked))
      (hspawn : spawnFrom starter environment pipes none 0 commands blocked =
        (.ok (), job.pids, started)) :
      ComesTo starter environment commands state (.ok job)
        (starter.unblockSignals (starter.closePipes pipes started))

theorem comesTo_launch (starter : Starter σ) (environment : Environment)
    (commands : List Command) (state : σ) :
    ComesTo starter environment commands state
      (launch starter environment commands state).1
      (launch starter environment commands state).2 := by
  rw [launch]
  cases hbad : badArgument? commands with
  | some argument => exact .refused hbad
  | none =>
      rcases hopen : openPipes starter (commands.length - 1) state with ⟨_ | _, pipes, piped⟩
      · exact .unpiped hbad hopen
      rcases hblock : starter.blockSignals piped with ⟨_ | _, blocked⟩
      · simp only [hblock]
        exact .unblocked hbad hopen hblock
      rcases hspawn : spawnFrom starter environment pipes none 0 commands blocked with
        ⟨_ | _, pids, begun⟩
      · simp only [hblock, hspawn]
        exact .abandoned hbad hopen hblock hspawn
      simp only [hblock, hspawn]
      cases pids with
      | nil => exact .empty hbad hopen hblock hspawn
      | cons leader others => exact .started hbad hopen hblock hspawn

end Launch

end JobShell
