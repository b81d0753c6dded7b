import JobShell.Programs.Scripting.Utility.Directory

/-!
# Looking for commands

A name stands for a function, a utility or a program.  Programs are looked for in the
directories of the search path.
-/

namespace JobShell.Programs.Scripting

open JobShell.Machine

/-! ## Programs -/

/-- The search path at the start, and the one on which standard programs are found. -/
def standardPath : String :=
  "/usr/local/sbin:/usr/local/bin:/usr/sbin:/usr/bin:/sbin:/bin"

/-- The search path, or the standard one. -/
def searchPath (standard : Bool) : Shell String := do
  let state ← get
  pure (if standard then standardPath else (state.value? "PATH").getD "")

/-- The paths at which a program is looked for. -/
def candidates (path name : String) : List String :=
  if name.toList.contains '/' then [name]
  else (colonPieces path).map fun directory =>
    if directory = "" then name else directory ++ "/" ++ name

def isExecutable (attributes : Attributes) : Bool :=
  match attributes.content with
  | .file _ | .program _ => attributes.permissions &&& 0o111 ≠ 0
  | _ => false

/-- Reasons for which there is nothing at a path. -/
def isAbsence (errno : Errno) : Bool :=
  errno = .noEntry || errno = .notDirectory

/-- The candidates from the first one on that can be executed, or why there is none. -/
def findFrom : Errno → List String → Shell (Except Errno (List String))
  | reason, [] => pure (.error reason)
  | reason, path :: rest => do
      match ← Shell.act (Action.inspect (Text.bytesOf path) true) with
      | .error errno => findFrom (if isAbsence errno then reason else errno) rest
      | .ok attributes =>
          if isExecutable attributes then pure (.ok (path :: rest))
          else findFrom .accessDenied rest

/-- How it is said that a program cannot be executed. -/
def executionText (errno : Errno) : String :=
  if isAbsence errno then "not found" else errno.systemText

/-- The paths of a program, which is remembered unless another search path is used. -/
def findProgram (standard : Bool) (name : String) : Shell (Except Errno (List String)) := do
  let found := candidates (← searchPath standard) name
  if name.toList.contains '/' then pure (.ok found)
  else
    match ← findFrom .noEntry found with
    | .error errno => do
        if !standard then
          modify fun state =>
            { state with remembered := state.remembered.filter fun entry => entry.1 ≠ name }
        pure (.error errno)
    | .ok paths => do
        if !standard then
          modify fun state =>
            { state with remembered := putEntry name (paths.headD name) state.remembered }
        pure (.ok paths)

/-! ## Descriptions -/

/-- Utilities that are not special. -/
def plainUtilities : List String :=
  ["[", "alias", "bg", "cd", "chdir", "command", "echo", "false", "fg", "getopts", "hash", "jobs",
   "kill", "printf", "pwd", "read", "test", "true", "type", "ulimit", "umask", "unalias", "wait"]

/-- What a name stands for. -/
inductive Meaning where
  | keyword
  | alias (meaning : String)
  | function
  | utility (special : Bool)
  | program (path : String) (remembered : Bool)
  | nothing
  deriving Repr, Inhabited

/-- The program that a name stands for. -/
def programMeaning (standard : Bool) (name : String) : Shell Meaning := do
  if name.toList.contains '/' then
    match ← Shell.act (Action.inspect (Text.bytesOf name) true) with
    | .ok _ => pure (.program name false)
    | .error _ => pure .nothing
  else
    let state ← get
    match if standard then none else state.remembered.lookup name with
    | some path => pure (.program path true)
    | none =>
        match ← findFrom .noEntry (candidates (← searchPath standard) name) with
        | .ok paths => do
            pure (.program (paths.headD name) false)
        | .error _ => pure .nothing

def meaning (standard : Bool) (name : String) : Shell Meaning := do
  let state ← get
  if keywords.contains name then pure .keyword
  else
    match state.aliases.lookup name with
    | some text => pure (.alias text)
    | none =>
        if (state.functions.lookup name).isSome then pure .function
        else if specialUtilities.contains name then pure (.utility true)
        else if plainUtilities.contains name then pure (.utility false)
        else programMeaning standard name

/-- A sentence about a name. -/
def Meaning.sentence (name : String) : Meaning → String
  | .keyword => name ++ " is a shell keyword"
  | .alias text => name ++ " is an alias for " ++ text
  | .function => name ++ " is a shell function"
  | .utility special => name ++ " is a " ++ (if special then "special " else "") ++ "shell builtin"
  | .program path remembered =>
      name ++ " is" ++ (if remembered then " a tracked alias for" else "") ++ " " ++ path
  | .nothing => name ++ ": not found"

/-- How a name can be written to mean the same. -/
def Meaning.brief (name : String) : Meaning → Option String
  | .alias text => some ("alias " ++ name ++ "=" ++ singleQuoted text)
  | .program path _ => some path
  | .nothing => none
  | _ => some name

/-- Describes a name; the status says whether it stands for anything. -/
def describe (standard atLength : Bool) (name : String) : Shell Nat := do
  let found ← meaning standard name
  let line := if atLength then some (found.sentence name) else found.brief name
  let written ← match line with
    | some line => printText (line ++ "\n")
    | none => pure 0
  pure (match found with
    | .nothing => 127
    | _ => written)

def describeAll : Utility := fun names => do
  let statuses ← names.mapM (describe false true)
  pure (statuses.foldl (· ||| ·) 0)

/-- Describes a command; other uses of `command` have been dealt with before. -/
def describeCommand : Utility := fun arguments => do
  let (found, names) ← options "pvV" "" arguments
  let isBrief := hasOption 'v' found
  let isLong := hasOption 'V' found
  match names with
  | name :: _ =>
      if isBrief || isLong then describe (hasOption 'p' found) isLong name else pure 0
  | [] => pure 0

/-! ## hash -/

/-- How many groups there are for programs that are remembered. -/
def programGroups : Nat := 31

def rememberOne (name : String) : Shell Nat := do
  let state ← get
  if (state.functions.lookup name).isSome || specialUtilities.contains name
      || plainUtilities.contains name then pure 0
  else
    match ← findProgram false name with
    | .ok _ => pure 0
    | .error errno => do
        Shell.report (name ++ ": " ++ executionText errno)
        pure 1

def remember : Utility := fun arguments => do
  let (found, names) ← options "r" "" arguments
  if hasOption 'r' found then
    modify fun state => { state with remembered := [] }
    pure 0
  else if names.isEmpty then
    printText (String.join ((inGroups programGroups (← get).remembered).map fun entry =>
      entry.2 ++ "\n"))
  else do
    let statuses ← names.mapM rememberOne
    pure (statuses.foldl max 0)

end JobShell.Programs.Scripting
