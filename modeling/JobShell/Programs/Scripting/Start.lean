import JobShell.Programs.Scripting.Evaluation

/-!
# Starting a script

A script is given as an argument, by the name of a file, or on the standard input, which
it is read from as far as it is needed.
-/

namespace JobShell.Programs.Scripting

open JobShell.Machine

/-! ## Variables at the start -/

/-- Variables that are there before any are inherited. -/
def firstVariables : Variables :=
  [("OPTIND", some "1"), ("PS4", some "+ "), ("PS2", some "> "), ("PS1", some "# "),
   ("PATH", some standardPath), ("MAILPATH", none), ("MAIL", none), ("IFS", some " \t\n")].map
    fun (name, value) => (name, { value })

/-- Variables that are not taken over from outside. -/
def ownVariables : List String :=
  ["OPTIND", "IFS"]

/-- Takes over an environment, as far as its names are names of variables. -/
def inherit (environment : Environment) : Variables :=
  environment.entries.foldl
    (fun assigned (name, bytes) =>
      if !isName name.toList then assigned
      else
        let value := if ownVariables.contains name then
            (assigned.find? name).bind Variable.value
          else some (Text.bytewise bytes)
        assigned.put name { value, exported := true })
    firstVariables

/-- Whether a path leads to the working directory. -/
def leadsHere (path : String) : Shell Bool := do
  if path.toList.head? ≠ some '/' then pure false
  else
    match ← Shell.act (Action.inspect (Text.bytesOf path) true),
        ← Shell.act (Action.inspect Files.dot true) with
    | .ok named, .ok here => pure (named.inode = here.inode)
    | _, _ => pure false

/-- Finds out the working directory, by the way that was taken to it if that is known. -/
def findDirectory : Shell Unit := do
  match (← get).value? "PWD" with
  | some path =>
      if ← leadsHere path then noteDirectory (some path)
      else noteDirectory (← physicalDirectory)
  | none => noteDirectory (← physicalDirectory)

/-! ## Sources -/

/-- How much of a script is read at once. -/
def blockSize : Nat := 8191

/-- The script on the standard input. -/
def inputSource : Source where
  more := do
    match ← Shell.act (Action.read Action.input blockSize) with
    | .ok bytes => pure (scriptText bytes).toList
    | .error _ => pure []
  shown := true

/-- The script in a file; there is none in a directory. -/
def fileText (name : String) : Shell String := do
  match ← Shell.act (Action.openPath (Text.bytesOf name) { reads := true } 0) with
  | .error errno => Shell.fail (openingText { reads := true } name errno)
  | .ok descriptor => do
      let found ← Shell.act (Action.readAll descriptor)
      Shell.act (Action.close descriptor)
      match found with
      | .ok bytes => pure (scriptText bytes)
      | .error _ => pure ""

/-! ## Starting -/

def runner : Runner :=
  evaluate depthLimit

/-- Runs the script that the arguments ask for. -/
def runArguments (arguments : List String) : Shell Unit := do
  let after ← turnOptions true (arguments.length + 1) arguments
  if after.operands.isEmpty then
    if after.command then Shell.fail "-c requires an argument" else turn true "stdin"
  let readsInput := (← get).isOn "stdin"
  let operands := after.operands
  let setName (operands : List String) : Shell Unit :=
    modify fun state =>
      { state with name := operands.headD state.name, parameters := operands.tail }
  if after.command then
    setName operands.tail
    let _ ← runText runner { last := !readsInput } false (operands.headD "")
    if readsInput then
      let _ ← runFrom runner {} inputSource commandLimit 0 { rest := [] }
  else if readsInput then
    setParameters operands
    let _ ← runFrom runner {} inputSource commandLimit 0 { rest := [] }
  else
    let text ← fileText (operands.headD "")
    setName operands
    let _ ← runText runner {} true text

/-- The name under which a script complains before it has one. -/
def defaultName : String := "sh"

def start (name : String) (arguments : List String) (environment : Environment) :
    Action Nat := do
  let identity ← Action.identify
  let assigned := (inherit environment).put "PPID"
    { value := some (toString identity.parent)
      exported := ((inherit environment).find? "PPID").any Variable.exported }
  let script : Shell Unit := do
    findDirectory
    modify fun state => { state with name }
    runArguments arguments
  let (_, after) ← (conclude runner script).run.run
    { name := defaultName, line := 0, assigned, identity }
  pure after.status

end JobShell.Programs.Scripting

namespace JobShell.Programs

open JobShell.Machine

def sh : Program :=
  fun argv environment =>
    Scripting.start (nameText argv) (operandTexts argv) environment Behavior.exit

end JobShell.Programs
