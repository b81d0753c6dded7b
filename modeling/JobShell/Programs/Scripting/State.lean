import JobShell.Programs.Basic
import JobShell.Programs.Number.Integer
import JobShell.Programs.Scripting.Composition

/-!
# The state of a running script

What a script has set so far, and the ways in which a command can be left before its
end.
-/

namespace JobShell.Programs.Scripting

open JobShell.Machine

/-! ## Variables -/

structure Variable where
  /-- A variable without a value can still be exported or locked. -/
  value : Option String := none
  exported : Bool := false
  locked : Bool := false
  deriving DecidableEq, Repr, Inhabited

/-- Replaces an entry in its place; a new one comes last. -/
def putEntry {α : Type} (name : String) (value : α) : List (String × α) → List (String × α)
  | [] => [(name, value)]
  | (key, old) :: rest =>
      if key = name then (name, value) :: rest else (key, old) :: putEntry name value rest

/-- The group of a name, which depends on its characters. -/
def groupOf (count : Nat) (name : String) : Nat :=
  let codes := name.toList.map Char.toNat
  (codes.headD 0 * 16 + codes.foldl (· + ·) 0) % count

/-- Entries in the order of their groups, and within a group in their own order. -/
def inGroups {α : Type} (count : Nat) (entries : List (String × α)) : List (String × α) :=
  (List.range count).flatMap fun group =>
    entries.filter fun entry => groupOf count entry.1 = group

/-- How many groups there are for variables and aliases. -/
def groupCount : Nat := 39

/-- Variables in the order in which they were made. -/
abbrev Variables := List (String × Variable)

namespace Variables

def find? (assigned : Variables) (name : String) : Option Variable :=
  assigned.lookup name

/-- Replaces a variable in its place; a new one comes last. -/
def put (assigned : Variables) (name : String) (held : Variable) : Variables :=
  putEntry name held assigned

def erase (assigned : Variables) (name : String) : Variables :=
  assigned.filter fun entry => entry.1 ≠ name

/-- What programs inherit, in its order. -/
def exported (assigned : Variables) : List (String × String) :=
  inGroups groupCount (assigned.filterMap fun (name, held) =>
    if held.exported then held.value.map fun value => (name, value) else none)

end Variables

/-! ## Options -/

/-- An option with its letter, if it has one. -/
def optionNames : List (String × Option Char) :=
  [("errexit", some 'e'), ("noglob", some 'f'), ("ignoreeof", some 'I'), ("interactive", some 'i'),
   ("monitor", some 'm'), ("noexec", some 'n'), ("stdin", some 's'), ("xtrace", some 'x'),
   ("verbose", some 'v'), ("vi", some 'V'), ("emacs", some 'E'), ("noclobber", some 'C'),
   ("allexport", some 'a'), ("notify", some 'b'), ("nounset", some 'u'),
   ("privileged", some 'p'), ("nolog", none), ("debug", none)]

/-! ## Jobs -/

/-- Processes that were started together, each with its end once that is known. -/
structure Job where
  number : Nat
  members : List (Pid × Option WaitStatus)
  /-- Its end has been told to the script. -/
  told : Bool := false
  deriving Repr, Inhabited

namespace Job

/-- The processes that may still run. -/
def running (job : Job) : List Pid :=
  job.members.filterMap fun member => if member.2.isNone then some member.1 else none

/-- The end of the last process, once all have ended. -/
def end? (job : Job) : Option WaitStatus :=
  if job.running.isEmpty then job.members.getLast?.bind Prod.snd else none

/-- Takes note of the end of a process. -/
def note (job : Job) (pid : Pid) (status : WaitStatus) : Job :=
  { job with
    members := job.members.map fun member =>
      if member.1 = pid then (pid, some status) else member }

end Job

/-! ## The state -/

/-- What is restored when something with variables of its own is left. -/
inductive Kept where
  /-- A variable, or that there was none. -/
  | held (name : String) (before : Option Variable)
  | options (names : List String)
  deriving Repr, Inhabited

structure State where
  name : String
  parameters : List String := []
  assigned : Variables := []
  functions : List (String × Command) := []
  aliases : List (String × String) := []
  documents : Array Word := #[]
  /-- The names of the options that are on. -/
  options : List String := []
  status : Nat := 0
  /-- The status of the last script inside of a word. -/
  innerStatus : Nat := 0
  line : Nat := 1
  /-- The utility that is run. -/
  context : Option String := none
  lastBackground : Option Pid := none
  /-- What runs in the background, latest first. -/
  jobs : List Job := []
  /-- What is done about signals; zero stands for the end of the script, and nothing is
  done where the text is empty. -/
  traps : List (Nat × String) := []
  /-- Signals that have been caught and not been answered. -/
  caught : List Signal := []
  /-- The status before an answer to a signal. -/
  statusBefore : Option Nat := none
  /-- How many loops there are around a command. -/
  loops : Nat := 0
  /-- What is restored when what is run now is left, latest first. -/
  locals : List (List Kept) := []
  /-- The parameter that is looked at next for options, and a place inside of it. -/
  optionIndex : Nat := 1
  optionOffset : Option Nat := none
  /-- The working directory by the way that was taken to it. -/
  directory : Option String := none
  /-- Programs that have been found on the search path, with their paths. -/
  remembered : List (String × String) := []
  /-- Streams that are restored, each with the descriptor that keeps it if it was open. -/
  streams : List (List (Descriptor × Option Descriptor)) := []
  /-- The line up to which the script has been read. -/
  readLine : Nat := 1
  /-- What is traced is being expanded. -/
  tracing : Bool := false
  /-- Signals about which the script has chosen what to do. -/
  chosen : List Signal := []
  /-- Signals that were ignored from the start, about which nothing can be changed. -/
  settled : List Signal := []
  identity : Identity
  deriving Inhabited

/-- Reasons to leave a command before its end. -/
inductive Interruption where
  /-- A mistake that has been reported. -/
  | mistake
  /-- The end of the script. -/
  | ended
  /-- A jump to the next turn of a loop or behind it. -/
  | jump (goesOn : Bool) (levels : Nat)
  /-- A jump behind a function or file, which may come with a status. -/
  | returned (decided : Bool)
  deriving DecidableEq, Repr, Inhabited

/-- What a script does. -/
abbrev Shell := ExceptT Interruption (StateT State Action)

namespace State

def isOn (state : State) (option : String) : Bool :=
  state.options.contains option

/-- The value of a variable. -/
def value? (state : State) (name : String) : Option String :=
  (state.assigned.find? name).bind Variable.value

/-- What follows from the change of a variable. -/
def follow (state : State) (name : String) : State :=
  if name = "PATH" then { state with remembered := [] }
  else if name = "OPTIND" then
    let index := (state.value? name).bind fun text => Text.digitsValue? text.toList
    { state with optionIndex := index.getD 1, optionOffset := none }
  else state

/-- Restores one thing that has been kept. -/
def restore (state : State) (kept : Kept) : State :=
  match kept with
  | .held name (some held) =>
      { state with assigned := state.assigned.put name held }.follow name
  | .held name none => { state with assigned := state.assigned.erase name }.follow name
  | .options names => { state with options := names }

def atLine (state : State) (line : Nat) : State :=
  if line = 0 then state else { state with line }

def separators (state : State) : List Char :=
  match state.value? "IFS" with
  | some text => text.toList
  | none => [' ', '\t', '\n']

/-- The letters of the options that are on. -/
def optionLetters (state : State) : String :=
  String.ofList (optionNames.reverse.filterMap fun (name, letter) =>
    if state.isOn name then letter else none)

def environment (state : State) : Environment :=
  ⟨state.assigned.exported.map fun (name, value) => (name, Text.bytesOf value)⟩

/-- Whether a signal is answered by commands. -/
def hasTraps (state : State) : Bool :=
  state.traps.any fun entry => entry.2 ≠ ""

end State

namespace Shell

def act {α : Type} (action : Action α) : Shell α :=
  liftM action

/-- Reports a mistake without leaving the command. -/
def report (message : String) : Shell Unit := do
  let state ← get
  let context := match state.context with
    | some context => context ++ ": "
    | none => ""
  act (print Action.errors
    (state.name ++ ": " ++ toString state.line ++ ": " ++ context ++ message ++ "\n"))

/-- Reports a mistake and leaves the command. -/
def fail {α : Type} (message : String) : Shell α := do
  report message
  modify fun state => { state with status := 2 }
  throw .mistake

def setStatus (status : Nat) : Shell Unit :=
  modify fun state => { state with status }

/-- Does something, and something else behind it in any case. -/
def behind {α : Type} (action : Shell α) (after : Shell Unit) : Shell α := fun state => do
  let (result, state) ← action.run.run state
  let (_, state) ← after.run.run state
  pure (result, state)

/-! ## Variables -/

/-- Gives a value to a variable, or takes it away. -/
def assign (name : String) (value : Option String) (exported locked : Bool) : Shell Unit := do
  let state ← get
  let old := (state.assigned.find? name).getD {}
  if old.locked then fail (name ++ ": is read only")
  else
    let held : Variable :=
      { value, exported := old.exported || exported || (state.isOn "allexport" && value.isSome)
        locked := locked }
    let assigned := if value.isNone && !exported && !locked then state.assigned.erase name
      else state.assigned.put name held
    set ({ state with assigned }.follow name)

/-- Gives a value to a variable whose name may not be one. -/
def setVariable (name : String) (value : Option String) (exported : Bool := false)
    (locked : Bool := false) : Shell Unit :=
  if isName name.toList then assign name value exported locked
  else fail (String.ofList (name.toList.takeWhile (· ≠ '=')) ++ ": bad variable name")

/-- Keeps something, to restore it when what is run now is left. -/
def keep (kept : Kept) : Shell Unit :=
  modify fun state =>
    match state.locals with
    | [] => state
    | current :: outer => { state with locals := (kept :: current) :: outer }

def keepVariable (name : String) : Shell Unit := do
  keep (.held name ((← get).assigned.find? name))

/-- Restores what has been kept. -/
def restore : Shell Unit :=
  modify fun state =>
    let restored := (state.locals.headD []).foldl (State.restore) state
    { restored with locals := state.locals.tail }

/-- Does something with variables of its own. -/
def withLocals {α : Type} (action : Shell α) : Shell α := do
  modify fun state => { state with locals := [] :: state.locals }
  behind action restore

/-! ## Parameters -/

/-- The value of a parameter with a name or number. -/
def parameter? (name : String) : Shell (Option String) := do
  let state ← get
  match Text.digitsValue? name.toList with
  | some 0 => pure (some state.name)
  | some index => pure state.parameters[index - 1]?
  | none => pure (state.value? name)

end Shell

end JobShell.Programs.Scripting
