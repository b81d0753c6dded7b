import JobShell.Machine.Child
import JobShell.Machine.Run
import JobShell.Script

/-!
# The machine under the shell

The kernel that a session uses when it runs on the machine.  Other processes run
only while the shell sleeps or waits, so a run has one course.
-/

namespace JobShell.Machine

/-- Writes to one of the shell's own descriptors.  If it is closed, nothing is amiss. -/
def print (machine : Machine) (target : Descriptor) (bytes : Bytes) :
    Except StreamFailure Unit × Machine :=
  match machine.writeTo machine.shell target bytes with
  | some (.error .badDescriptor, machine) => (.ok (), machine)
  | some (.error errno, machine) => (.error (.refused errno), machine)
  | some (.ok _, machine) => (.ok (), machine)
  | none => (.ok (), machine)

def openTarget (direction : Direction) (path : Bytes) (machine : Machine) :
    Except Errno Unit × Machine :=
  let (answer, _, opened) :=
    machine.openPath machine.shell path direction.openMode redirectPermissions
  (answer.map fun _ => (), opened)

def openScript (path : Bytes) (machine : Machine) : Except Errno Descriptor × Machine :=
  let (answer, shell, opened) := machine.openPath machine.shell path { reads := true } 0
  (answer, { opened with shell })

/-- Reads from one of the shell's own descriptors. -/
def readOwn (source : Descriptor) (count : Nat) (machine : Machine) :
    Except Errno Bytes × Machine :=
  match machine.readFrom machine.shell source count with
  | some answer => answer
  | none => (.ok [], machine)

def closeEach (descriptors : List Descriptor) (machine : Machine) : Machine :=
  let kept := descriptors.foldl Descriptors.close machine.shell.descriptors
  { machine with shell := { machine.shell with descriptors := kept } }

def spawn (environment : Environment) (child : Launch.Child) (machine : Machine) :
    Except Errno Pid × Machine :=
  let (pid, machine) := machine.addMember machine.shell child.group
    (childAction environment child .exit)
  (.ok pid, machine)

def closePipes (pipes : List PipeEnds) (machine : Machine) : Machine :=
  machine.closeEach (pipes.flatMap fun ends => [ends.readEnd, ends.writeEnd])

/-- Asks for a child's status.  A signal without a name cannot be told, though the
child is forgotten all the same. -/
def poll (pid : Pid) (machine : Machine) : Except Errno WaitStatus × Machine :=
  match machine.askFor machine.shell.identity pid with
  | (.ok (.signaled (.realTime _) _), machine) => (.error .invalid, machine)
  | answer => answer

/-- Waits for a child to end and asks for its status. -/
def waitFor (pid : Pid) (machine : Machine) : Except Errno WaitStatus × Machine :=
  (machine.awaitEnd [pid]).poll pid

def isAwake (machine : Machine) : Bool :=
  machine.recorder.wakeups > 0

/-- Changes the recorder by one of its steps. -/
def withRecorder {α : Type} (action : Recorder → α × Recorder) (machine : Machine) :
    α × Machine :=
  let (answer, recorder) := action machine.recorder
  (answer, { machine with recorder })

def nanosecondsPerSecond : Nat := 1000000000

/-- How many turns a session may wait for the machine. -/
def sessionPatience : Nat := 1000000

/-- Signals reach the shell only while it sleeps or waits, so there is nothing to do for
holding them back. -/
def kernel (account : Account) : Kernel Machine where
  account
  enter path machine :=
    match machine.files.enter machine.shell.directory path with
    | .ok directory => (.ok (), { machine with shell := { machine.shell with directory } })
    | .error errno => (.error errno, machine)
  directory machine := machine.files.pathOf machine.shell.directory
  print bytes machine := machine.print Action.output bytes
  patience := sessionPatience
  openPipe machine :=
    let (ends, shell, machine) := machine.openPipe machine.shell
    (.ok ends, { machine with shell })
  closePipes
  blockSignals machine := (.ok (), machine)
  unblockSignals machine := machine
  spawn
  terminateGroup group machine :=
    (machine.kill machine.shell.identity (-group) (some .terminate)).2
  waitFor
  readWakeups := withRecorder Recorder.readWakeups
  takeAlarm := withRecorder Recorder.takeAlarm
  takeQuits := withRecorder Recorder.takeQuits
  takeInterrupt := withRecorder Recorder.takeInterrupt
  await machine := (.ok machine.isAwake, machine)
  read := readOwn Action.input LineReader.chunkSize
  complain text machine := machine.print Action.errors (Text.encode text)
  openTarget
  openScript
  readScript script := readOwn script Script.chunkSize
  closeScript script := closeEach [script]
  poll
  interruptGroup group machine :=
    (machine.kill machine.shell.identity (-group) (some .interrupt)).2
  sleep machine := machine.runUntil isAwake roundLimit
  setAlarm seconds machine :=
    { machine with alarm := some (machine.clock + seconds * nanosecondsPerSecond) }
  cancelAlarm machine := { machine with alarm := none }

end JobShell.Machine
