import JobShell.Machine.Behavior

/-!
# Between fork and program

What a process of a pipeline does before it becomes its program: it wires its
descriptors and then looks for the program in the directories of `PATH`.  A
failure is reported on the standard error stream and becomes the exit status,
as there is no one left to return it to.
-/

namespace JobShell

/-- How a redirection target is opened. -/
def Direction.openMode : Direction → Machine.OpenMode
  | .input => { reads := true }
  | .output => { writes := true, creates := true, truncates := true }

/-- A new output file belongs to its user alone. -/
def redirectPermissions : Nat := 0o600

namespace Machine

open JobShell.Machine.Action

def wire : List Launch.Wiring → Action (Except Fault Unit)
  | [] => pure (.ok ())
  | .duplicate source target :: rest => do
      match ← duplicate source target with
      | .ok () => wire rest
      | .error errno => pure (.error (.launch "cannot redirect descriptor" errno))
  | .close descriptor :: rest => do
      close descriptor
      wire rest
  | .redirect direction path :: rest => do
      match ← Action.openPath (Text.encode path) direction.openMode redirectPermissions with
      | .error errno => pure (.error (.resource (Text.encode path) errno))
      | .ok descriptor => do
          let answer ← duplicate descriptor direction.stream
          close descriptor
          match answer with
          | .ok () => wire rest
          | .error errno => pure (.error (.launch "cannot redirect descriptor" errno))

/-! ## Looking for programs -/

def colon : UInt8 := 58

/-- The parts of a list between colons. -/
def splitColons (current : Bytes) : Bytes → List Bytes
  | [] => [current]
  | byte :: rest =>
      if byte = colon then current :: splitColons [] rest else splitColons (current ++ [byte]) rest

/-- The search path where none is set. -/
def defaultSearchPath : Bytes := Text.encode "/bin:/usr/bin"

/-- The paths at which a program is looked for. -/
def candidates (environment : Environment) (program : Bytes) : List Bytes :=
  if program.contains Files.slash then [program]
  else
    let directories := splitColons [] ((environment.get? "PATH").getD defaultSearchPath)
    directories.map fun directory =>
      if directory.isEmpty then program else directory ++ Files.slash :: program

def commandInterpreter : Bytes := Text.encode "/bin/sh"

/-- Executes one path; a file that is no program is handed to the command
interpreter. -/
def executeOne (environment : Environment) (argv : List Bytes) (path : Bytes) : Action Errno := do
  let errno ← execute path argv environment
  if errno = .notExecutable then
    execute commandInterpreter (commandInterpreter :: path :: argv.tail) environment
  else pure errno

/-- Reasons for which the search goes on. -/
def isPassedOver : Errno → Bool
  | .accessDenied | .noEntry | .notDirectory => true
  | _ => false

/-- Executes the first path that can be executed.  That access was denied is
remembered and reported in the end. -/
def executeFirst (environment : Environment) (argv : List Bytes) :
    List Bytes → Bool → Errno → Action Errno
  | [], denied, last => pure (if denied then .accessDenied else last)
  | path :: rest, denied, _ => do
      let errno ← executeOne environment argv path
      if isPassedOver errno then
        executeFirst environment argv rest (denied || errno = .accessDenied) errno
      else pure errno

/-- Becomes a program by its name; returns only if that fails. -/
def executeProgram (environment : Environment) (argv : List Bytes) : Action Errno :=
  let program := argv.headD []
  if program.isEmpty then pure .noEntry
  else if program.contains Files.slash then executeOne environment argv program
  else executeFirst environment argv (candidates environment program) false .noEntry

/-- What a new process of a pipeline does. -/
def childAction (environment : Environment) (child : Launch.Child) : Action Nat := do
  match ← wire child.wiring with
  | .error fault => do
      say errors (report fault.message)
      pure 1
  | .ok () => do
      match ← executeProgram environment (child.argv.map Text.encode) with
      | .noEntry => do
          say errors (report (child.program ++ ": command not found"))
          pure 127
      | errno => do
          say errors (report (Fault.exec child.program errno).message)
          pure 126

end Machine

end JobShell
