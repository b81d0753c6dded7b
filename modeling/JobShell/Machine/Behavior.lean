import JobShell.Environment
import JobShell.Launch
import JobShell.Machine.Files

/-!
# What processes do

A behavior is the sequence of calls that a process makes on the system, each with
what follows its answer.  Programs are written as actions: an action takes what
is to be done with its result and gives a behavior.
-/

namespace JobShell.Machine

/-- A process's numbers. -/
structure Identity where
  pid : Pid
  parent : Pid
  group : Pid
  deriving DecidableEq, Repr, Inhabited

/-- What a process does about a signal.  One that it catches is kept for it until it
asks for it, and ends a call that has to wait. -/
inductive Reaction where
  | byDefault
  | ignores
  | catches
  deriving DecidableEq, Repr, Inhabited

/-- Where an offset in a file is counted from. -/
inductive Origin where
  | start
  | here
  | stop
  deriving DecidableEq, Repr, Inhabited

inductive Behavior where
  | exit (code : Nat)
  | read (source : Descriptor) (count : Nat) (next : Except Errno Bytes → Behavior)
  | write (target : Descriptor) (bytes : Bytes) (next : Except Errno Nat → Behavior)
  | openPath (path : Bytes) (mode : OpenMode) (permissions : Nat)
      (next : Except Errno Descriptor → Behavior)
  | close (descriptor : Descriptor) (next : Behavior)
  | duplicate (source target : Descriptor) (next : Except Errno Unit → Behavior)
  /-- Chooses whether a descriptor is handed on to the next program. -/
  | handOn (descriptor : Descriptor) (allowed : Bool) (next : Behavior)
  | openPipe (next : PipeEnds → Behavior)
  | fork (child : Behavior) (next : Pid → Behavior)
  /-- Joins a group, or leads a new one. -/
  | joinGroup (group : Option Pid) (next : Behavior)
  /-- Becomes another program; what follows only happens if that fails. -/
  | execute (path : Bytes) (argv : List Bytes) (environment : Environment)
      (next : Errno → Behavior)
  /-- Asks for the status of a child, and may wait until it has ended. -/
  | wait (pid : Pid) (blocks : Bool) (next : Except Errno WaitStatus → Behavior)
  | kill (pid : Pid) (signal : Option Signal) (next : Except Errno Unit → Behavior)
  /-- Chooses what is done about a signal, and returns what was done before. -/
  | react (signal : Signal) (reaction : Reaction) (next : Reaction → Behavior)
  /-- Asks for the signals that have been caught, earliest first. -/
  | takeCaught (next : List Signal → Behavior)
  /-- Moves the offset of an open file, and returns the new one. -/
  | seek (source : Descriptor) (origin : Origin) (offset : Int)
      (next : Except Errno Nat → Behavior)
  | sleep (nanoseconds : Nat) (next : Behavior)
  | identify (next : Identity → Behavior)
  | inspect (path : Bytes) (follows : Bool) (next : Except Errno Attributes → Behavior)
  | inspectOpen (source : Descriptor) (next : Except Errno Attributes → Behavior)
  | modeOf (source : Descriptor) (next : Except Errno OpenMode → Behavior)
  | list (path : Bytes) (next : Except Errno (List Bytes) → Behavior)
  | removeDirectory (path : Bytes) (next : Except Errno Unit → Behavior)
  | changeDirectory (path : Bytes) (next : Except Errno Unit → Behavior)
  | workingDirectory (next : Except Errno Bytes → Behavior)
  /-- Sets the permissions that new files do not get, and returns the old ones. -/
  | mask (permissions : Option Nat) (next : Nat → Behavior)

instance : Inhabited Behavior := ⟨.exit 0⟩

/-- A program: what it does with its arguments, the first of which is its name. -/
abbrev Program := List Bytes → Environment → Behavior

def Action (α : Type) : Type :=
  (α → Behavior) → Behavior

namespace Action

variable {α : Type}

instance : Monad Action where
  pure value := fun next => next value
  bind action continuation := fun next => action fun value => continuation value next

/-- Ends the process. -/
def exit (code : Nat) : Action α :=
  fun _ => Behavior.exit code

def read (source : Descriptor) (count : Nat) : Action (Except Errno Bytes) :=
  Behavior.read source count

def write (target : Descriptor) (bytes : Bytes) : Action (Except Errno Nat) :=
  Behavior.write target bytes

def openPath (path : Bytes) (mode : OpenMode) (permissions : Nat) :
    Action (Except Errno Descriptor) :=
  Behavior.openPath path mode permissions

def close (descriptor : Descriptor) : Action Unit :=
  fun next => Behavior.close descriptor (next ())

def duplicate (source target : Descriptor) : Action (Except Errno Unit) :=
  Behavior.duplicate source target

def handOn (descriptor : Descriptor) (allowed : Bool) : Action Unit :=
  fun next => Behavior.handOn descriptor allowed (next ())

def openPipe : Action PipeEnds :=
  Behavior.openPipe

/-- Starts a child that does the action and then exits. -/
def fork (child : Action Nat) : Action Pid :=
  fun next => Behavior.fork (child Behavior.exit) next

def joinGroup (group : Option Pid) : Action Unit :=
  fun next => Behavior.joinGroup group (next ())

def execute (path : Bytes) (argv : List Bytes) (environment : Environment) : Action Errno :=
  Behavior.execute path argv environment

/-- Waits for a child to end. -/
def wait (pid : Pid) : Action (Except Errno WaitStatus) :=
  Behavior.wait pid true

/-- Asks whether a child has ended. -/
def poll (pid : Pid) : Action (Except Errno WaitStatus) :=
  Behavior.wait pid false

def kill (pid : Pid) (signal : Option Signal) : Action (Except Errno Unit) :=
  Behavior.kill pid signal

def react (signal : Signal) (reaction : Reaction) : Action Reaction :=
  Behavior.react signal reaction

def takeCaught : Action (List Signal) :=
  Behavior.takeCaught

def seek (source : Descriptor) (origin : Origin) (offset : Int) : Action (Except Errno Nat) :=
  Behavior.seek source origin offset

def sleep (nanoseconds : Nat) : Action Unit :=
  fun next => Behavior.sleep nanoseconds (next ())

def identify : Action Identity :=
  Behavior.identify

def inspect (path : Bytes) (follows : Bool) : Action (Except Errno Attributes) :=
  Behavior.inspect path follows

/-- The attributes of what a descriptor leads to. -/
def inspectOpen (source : Descriptor) : Action (Except Errno Attributes) :=
  Behavior.inspectOpen source

/-- How the file behind a descriptor was opened. -/
def modeOf (source : Descriptor) : Action (Except Errno OpenMode) :=
  Behavior.modeOf source

def list (path : Bytes) : Action (Except Errno (List Bytes)) :=
  Behavior.list path

def removeDirectory (path : Bytes) : Action (Except Errno Unit) :=
  Behavior.removeDirectory path

def changeDirectory (path : Bytes) : Action (Except Errno Unit) :=
  Behavior.changeDirectory path

def workingDirectory : Action (Except Errno Bytes) :=
  Behavior.workingDirectory

def mask (permissions : Option Nat) : Action Nat :=
  Behavior.mask permissions

/-! ## Whole streams -/

def input : Descriptor := 0

def output : Descriptor := 1

def errors : Descriptor := 2

/-- Writes all bytes; `limit` bounds the calls. -/
def writeFrom (target : Descriptor) : Nat → Bytes → Action (Except Errno Unit)
  | 0, _ => pure (.ok ())
  | _, [] => pure (.ok ())
  | limit + 1, bytes => do
      match ← write target bytes with
      | .ok count => writeFrom target limit (bytes.drop count)
      | .error errno => pure (.error errno)

def writeAll (target : Descriptor) (bytes : Bytes) : Action (Except Errno Unit) :=
  writeFrom target (bytes.length + 1) bytes

/-- Writes text, whether or not it arrives. -/
def say (target : Descriptor) (text : String) : Action Unit := do
  let _ ← writeAll target (Text.encode text)

/-- How many reads a program makes of one stream at most. -/
def readLimit : Nat := 1000000

def readSize : Nat := 65536

def readFrom (source : Descriptor) : Nat → Bytes → Action (Except Errno Bytes)
  | 0, found => pure (.ok found)
  | limit + 1, found => do
      match ← read source readSize with
      | .ok [] => pure (.ok found)
      | .ok bytes => readFrom source limit (found ++ bytes)
      | .error errno => pure (.error errno)

/-- Reads up to the end. -/
def readAll (source : Descriptor) : Action (Except Errno Bytes) :=
  readFrom source readLimit []

end Action

end JobShell.Machine
