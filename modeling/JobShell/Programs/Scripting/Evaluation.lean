import JobShell.Machine.Child
import JobShell.Programs.Scripting.Lookup
import JobShell.Programs.Scripting.Streams
import JobShell.Programs.Scripting.Utility.Condition
import JobShell.Programs.Scripting.Utility.Printing
import JobShell.Programs.Scripting.Utility.Process
import JobShell.Programs.Scripting.Utility.Variables

/-!
# Running commands

The functions take the one that runs commands as an argument; `evaluate` closes the
circle.  A program that is the last thing its process does takes the place of the
process.
-/

namespace JobShell.Programs.Scripting

open JobShell.Machine

/-- Where a command stands. -/
structure Place where
  /-- Nothing follows in its process. -/
  last : Bool := false
  /-- Its status is tested, so that a failure does not end the script. -/
  tested : Bool := false
  deriving Repr, Inhabited

abbrev Runner := Place → Command → Shell Unit

variable (run : Runner)

/-! ## Scripts as texts -/

/-- Shows the part of a script that has been read, if that is wanted. -/
def showText (text : List Char) : Shell Unit := do
  if (← get).isOn "verbose" then Shell.act (print Action.errors (String.ofList text))

/-- The part of a script up to the end of a line. -/
def upToLine (line : Nat) (reader : Reader) : List Char :=
  let lines := (String.ofList reader.rest).splitOn "\n"
  ("\n".intercalate (lines.take (line + 1 - reader.line)) ++ "\n").toList

/-- Where a script comes from. -/
structure Source where
  /-- What follows the text that is there; nothing at the end. -/
  more : Shell (List Char) := pure []
  /-- Lines can be shown when they are read. -/
  shown : Bool := false

/-- Whether what has been read could go on behind the end of the text. -/
def goesOn (before : Reader) : Except Misread (Found × Reader) → Bool
  | .error { mistake, .. } =>
      match mistake with
      | .unexpected found _ => found = Token.ended.description
      | .loopVariable | .functionName => false
      | _ => true
  | .ok (.nothing, _) => true
  | .ok (.blank, _) => false
  | .ok (.command _ isLast, after) =>
      isLast || (after.rest.isEmpty && before.documents.size < after.documents.size)

/-- Reads a command, with as much of the script as is needed; `limit` bounds how often
there is more. -/
def readCommand (source : Source) : Nat → Reader → Shell (Reader × Except Misread (Found × Reader))
  | 0, reader => pure (reader, nextCommand.run reader)
  | limit + 1, reader => do
      let result := nextCommand.run reader
      if !goesOn reader result then pure (reader, result)
      else
        match ← source.more with
        | [] => pure (reader, result)
        | more => readCommand source limit { reader with rest := reader.rest ++ more }

/-- How many pieces of a script are read at most. -/
def pieceLimit : Nat := 1000000

/-- Runs the commands of a script up to a mistake, and returns the status of the last
one; `limit` bounds the commands. -/
def runFrom (place : Place) (source : Source) : Nat → Nat → Reader → Shell Nat
  | 0, status, _ => pure status
  | limit + 1, status, reader => do
      let state ← get
      let (reader, result) ← readCommand source pieceLimit
        { reader with documents := state.documents, aliases := state.aliases }
      match result with
      | .error misread => do
          if source.shown then showText (upToLine misread.line reader)
          modify fun state => { state with line := misread.line }
          Shell.fail ("Syntax error: " ++ misread.mistake.message)
      | .ok (found, after) => do
          if source.shown then showText (reader.rest.take (reader.rest.length - after.rest.length))
          modify fun state => { state with documents := after.documents, readLine := after.line }
          match found with
          | .nothing => pure status
          | .blank => runFrom place source limit status after
          | .command command isLast => do
              run { place with last := place.last && isLast } command
              runFrom place source limit (← get).status after

/-- How many commands a script has at most. -/
def commandLimit : Nat := 1000000000

/-- Runs a script as part of another one. -/
def runText (place : Place) (shown : Bool) (text : String) : Shell Nat := do
  let outer := (← get).readLine
  Shell.behind (runFrom run place { shown } commandLimit 0 { rest := text.toList })
    (modify fun state => { state with readLine := outer })

/-! ## Answers to signals -/

/-- Answers signals in the order of their numbers.  The status is the same afterwards,
unless an answer leaves a function with a status of its own. -/
def answerAll (status : Nat) : List Nat → Shell Unit
  | [] => pure ()
  | number :: rest => do
      match (← get).traps.lookup number with
      | none => answerAll status rest
      | some answer => do
          try
            let _ ← runText run {} false answer
            Shell.setStatus status
          catch interruption =>
            match interruption with
            | .returned true => later rest
            | .returned false | .jump _ _ => do
                Shell.setStatus status
                later rest
            | _ => pure ()
            throw interruption
          answerAll status rest
where
  /-- Leaves the other signals to be answered later. -/
  later (numbers : List Nat) : Shell Unit :=
    modify fun state => { state with caught := numbers.filterMap Signal.ofNumber? ++ state.caught }

/-- Answers the signals that have been caught. -/
def answerSignals : Shell Unit := do
  if (← get).hasTraps then
    Shell.takeCaught
    let state ← get
    if !state.caught.isEmpty then
      let before := state.statusBefore
      let status := before.getD state.status
      set { state with caught := [], statusBefore := some status }
      let numbers := (state.caught.map Signal.number).eraseDups.mergeSort
      try
        answerAll run status numbers
      catch interruption =>
        match interruption with
        | .returned _ | .jump _ _ => modify fun state => { state with statusBefore := before }
        | _ => pure ()
        throw interruption
      modify fun state => { state with statusBefore := before }

/-- Answers the end of the script. -/
def answerEnd : Shell Unit := do
  let state ← get
  match state.traps.lookup 0 with
  | none => pure ()
  | some answer => do
      let status := state.status
      set { state with
        traps := state.traps.filter fun entry => entry.1 ≠ 0, statusBefore := some status }
      try
        let _ ← runText run {} false answer
        Shell.setStatus status
      catch
        | .ended | .mistake => pure ()
        | _ => Shell.setStatus status

/-- Does all that a process does, and answers its end. -/
def conclude (body : Shell Unit) : Shell Unit := do
  try body catch _ => pure ()
  answerEnd run

/-! ## Processes -/

/-- Takes back the answers to signals, which are those of another process. -/
def forgetAnswers : Shell Unit := do
  let state ← get
  for (number, answer) in state.traps do
    if answer ≠ "" then
      match Signal.ofNumber? number with
      | some signal =>
          if !state.settled.contains signal then
            let _ ← Shell.act (Action.react signal .byDefault)
      | none => pure ()
  set { state with traps := state.traps.filter fun entry => entry.2 = "" }

/-- Starts a process that goes on with a part of the script. -/
def forkPart (body : Shell Unit) : Shell Pid := fun state => do
  let inherited := { state with caught := [], jobs := [], statusBefore := none }
  let pid ← Action.fork do
    let (_, after) ← (conclude run (do forgetAnswers; body)).run.run inherited
    pure after.status
  pure (.ok pid, state.forgetTold)

/-- How often the output of a script is read at most. -/
def outputLimit : Nat := 1000000

/-- Reads all that a script prints, whatever signals come. -/
def readOutput (source : Descriptor) : Nat → Bytes → Shell Bytes
  | 0, found => pure found
  | limit + 1, found => do
      match ← Shell.act (Action.read source Action.readSize) with
      | .ok [] => pure found
      | .ok bytes => readOutput source limit (found ++ bytes)
      | .error .interrupted => do
          Shell.takeCaught
          readOutput source limit found
      | .error _ => pure found

/-- Runs a script inside of a word, and returns what it prints. -/
def outputOf : InnerRunner
  | none => pure ""
  | some command => do
      let ends ← Shell.act Action.openPipe
      let pid ← forkPart run do
        Shell.act (Action.close ends.readEnd)
        Shell.act (install ends.writeEnd Action.output)
        run { last := true } command
      Shell.act (Action.close ends.writeEnd)
      let bytes ← readOutput ends.readEnd outputLimit []
      Shell.act (Action.close ends.readEnd)
      let status ← Shell.awaitAll [pid]
      modify fun state => { state with innerStatus := status }
      pure (Text.bytewise bytes)

/-! ## Programs -/

/-- Executes the first path that can be executed; a file that is no program is handed to
the command interpreter. -/
def executeFirst (environment : Environment) (arguments : List Bytes) :
    Errno → List String → Action Errno
  | reason, [] => pure reason
  | reason, path :: rest => do
      let errno ← executeOne environment arguments (Text.bytesOf path)
      executeFirst environment arguments (if isAbsence errno then reason else errno) rest

/-- The status of a program that cannot be executed. -/
def failureStatus (errno : Errno) : Nat :=
  if isAbsence errno || errno = .tooManyLinks || errno = .nameTooLong then 127 else 126

/-- Becomes a program; if that is impossible, the script ends. -/
def becomeProgram {α : Type} (paths fields : List String) : Shell α := do
  let environment := (← get).environment
  let errno ← Shell.act (executeFirst environment (fields.map Text.bytesOf) .noEntry paths)
  Shell.report (fields.headD "" ++ ": " ++ executionText errno)
  Shell.setStatus (failureStatus errno)
  throw .ended

/-- Runs a program, in this process if nothing follows. -/
def runProgram (place : Place) (standard : Bool) (fields : List String) : Shell Unit := do
  let name := fields.headD ""
  match ← findProgram standard name with
  | .error errno => do
      Shell.report (name ++ ": " ++ executionText errno)
      Shell.setStatus 127
  | .ok paths => do
      if place.last && !(← get).hasTraps then becomeProgram paths fields
      else
        let pid ← forkPart run (becomeProgram paths fields)
        Shell.setStatus (← Shell.awaitAll [pid])

/-! ## Utilities that run or leave commands -/

def becomeCommand : Utility := fun arguments => do
  let (_, fields) ← options "" "" arguments
  match fields with
  | [] => pure 0
  | name :: _ => becomeProgram (candidates (← searchPath false) name) fields

def evaluateWords (place : Place) : Utility := fun arguments =>
  if arguments.isEmpty then pure 0
  else runText run { tested := place.tested } false (" ".intercalate arguments)

/-- The file with a script that is run as part of this one. -/
def scriptFile (name : String) : Shell String := do
  if name.toList.contains '/' then pure name
  else
    let rec search : List String → Shell String
      | [] => Shell.fail (name ++ ": not found")
      | path :: rest => do
          match ← Shell.act (Action.inspect (Text.bytesOf path) true) with
          | .ok { content := .file _, .. } => pure path
          | _ => search rest
    search (candidates (← searchPath false) name)

/-- A script without zeros. -/
def scriptText (bytes : Bytes) : String :=
  Text.bytewise (bytes.filter (· ≠ 0))

def runFile : Utility := fun arguments => do
  let (_, operands) ← options "" "" arguments
  match operands with
  | [] => pure 0
  | name :: _ => do
      let file ← scriptFile name
      match ← Shell.act (readOperand file) with
      | .error errno => Shell.fail (openingText { reads := true } file errno)
      | .ok bytes => do
          modify fun state => { state with context := some file }
          try
            runText run {} true (scriptText bytes)
          catch
            | .returned _ => pure (← get).status
            | other => throw other

def exitScript : Utility := fun arguments => do
  let status ← match arguments with
    | [] => do
        let state ← get
        pure (state.statusBefore.getD state.status)
    | text :: _ => count text
  Shell.setStatus status
  throw .ended

def returnFrom : Utility := fun arguments => do
  match arguments with
  | [] => throw (.returned false)
  | text :: _ => do
      Shell.setStatus (← count text)
      throw (.returned true)

def leaveLoop (goesOn : Bool) : Utility := fun arguments => do
  let levels ← match arguments with
    | [] => pure 1
    | text :: _ => do
        let levels ← count text
        if levels = 0 then illegalNumber text else pure levels
  let loops := (← get).loops
  if loops = 0 then pure 0
  else do
    Shell.setStatus 0
    throw (.jump goesOn (min levels loops))

def settle (status : Nat) : Utility := fun _ =>
  pure status

/-- A utility by its name. -/
def utility? (place : Place) (name : String) : Option Utility :=
  match name with
  | "." => some (runFile run)
  | ":" | "true" => some (settle 0)
  | "[" => some bracket
  | "alias" => some aliasAll
  | "bg" | "fg" => some resume
  | "break" => some (leaveLoop false)
  | "cd" | "chdir" => some changeDirectory
  | "command" => some describeCommand
  | "continue" => some (leaveLoop true)
  | "echo" => some printWords
  | "eval" => some (evaluateWords run place)
  | "exec" => some becomeCommand
  | "exit" => some exitScript
  | "export" => some (markAll true)
  | "false" => some (settle 1)
  | "getopts" => some getOptions
  | "hash" => some remember
  | "jobs" => some listJobs
  | "kill" => some sendSignal
  | "local" => some localAll
  | "printf" => some printFormatted
  | "pwd" => some printDirectory
  | "read" => some readFields
  | "readonly" => some (markAll false)
  | "return" => some returnFrom
  | "set" => some setAll
  | "shift" => some shift
  | "test" => some test
  | "times" => some showTimes
  | "trap" => some changeTraps
  | "type" => some describeAll
  | "ulimit" => some showLimit
  | "umask" => some changeMask
  | "unalias" => some unalias
  | "unset" => some unset
  | "wait" => some awaitChildren
  | _ => none

/-- Runs a utility.  A mistake in its use only ends the script if it is special. -/
def runUtility (special : Bool) (name : String) (utility : Utility) (arguments : List String) :
    Shell Unit := do
  let outer := (← get).context
  modify fun state => { state with context := some name }
  try
    Shell.setStatus (← utility arguments)
    modify fun state => { state with context := outer }
  catch interruption =>
    modify fun state => { state with context := outer }
    if interruption ≠ .mistake || special then throw interruption

/-! ## Functions -/

/-- Calls a function with parameters of its own. -/
def callFunction (place : Place) (body : Command) (arguments : List String) : Shell Unit := do
  let outer ← get
  set { outer with parameters := arguments, optionIndex := 1, optionOffset := none, loops := 0 }
  let call : Shell Unit := do
    try run { tested := place.tested } body
    catch
      | .returned _ => pure ()
      | other => throw other
  Shell.behind call
    (modify fun state =>
      { state with
        parameters := outer.parameters, optionIndex := outer.optionIndex
        optionOffset := outer.optionOffset, loops := outer.loops })

/-! ## Simple commands -/

/-- What is known of a simple command when its name has been found. -/
structure Naming where
  fields : List String := []
  /-- The words that have not been expanded. -/
  rest : List Word
  /-- Programs are looked for on the standard path. -/
  standard : Bool := false
  /-- Functions are passed over. -/
  passesFunctions : Bool := false
  /-- Whether the first utility is special, if there is one. -/
  special : Option Bool := none
  /-- Variables are set for the command only. -/
  isLocal : Bool := false
  isExec : Bool := false
  /-- Arguments can be assignments. -/
  assigns : Bool := false

/-- Expands words until there is a field. -/
def fill (fields : List String) : List Word → Shell (List String × List Word)
  | [] => pure (fields, [])
  | word :: rest => do
      match ← expandFields (outputOf run) word with
      | [] => fill fields rest
      | found => pure (fields ++ found, rest)

/-- What follows the options of `command`. -/
structure Passed where
  /-- All fields after `command`. -/
  fields : List String
  rest : List Word
  standard : Bool
  /-- The command that is to be run, if there is one. -/
  command : Option (List String)

/-- Passes over the options of `command`; `passed` are the fields before. -/
def passOptions (standard : Bool) :
    Nat → List String → List String → List Word → Shell Passed
  | 0, passed, after, rest => pure { fields := passed ++ after, rest, standard, command := none }
  | limit + 1, passed, after, rest => do
      let (after, rest) ← if after.isEmpty then fill run [] rest else pure (after, rest)
      let nothing : Passed := { fields := passed ++ after, rest, standard, command := none }
      match after with
      | [] => pure nothing
      | word :: others =>
          match word.toList with
          | ['-', '-'] => do
              let (others, rest) ← if others.isEmpty then fill run [] rest else pure (others, rest)
              let fields := passed ++ word :: others
              pure { fields, rest, standard, command := if others.isEmpty then none else some others }
          | '-' :: letter :: letters =>
              if (letter :: letters).all (· = 'p') then
                passOptions true limit (passed ++ [word]) others rest
              else pure nothing
          | _ => pure { nothing with command := some after }

/-- Finds out what a command is, up to the point that decides how its other words are
expanded; `limit` bounds how often `command` is written. -/
def nameCommand : Nat → Naming → Shell Naming
  | 0, naming => pure naming
  | limit + 1, naming => do
      let isFunction (name : String) : Shell Bool := do
        pure (!naming.passesFunctions && ((← get).functions.lookup name).isSome)
      match naming.fields with
      | [] => pure naming
      | name :: after => do
          let special := specialUtilities.contains name
          if (← isFunction name) || !(special || plainUtilities.contains name) then
            pure { naming with isLocal := true }
          else
            let named :=
              { naming with
                special := naming.special.or (some special)
                isLocal := naming.isLocal || !special
                isExec := name = "exec"
                assigns := ["export", "readonly", "local", "alias"].contains name }
            if name ≠ "command" then pure named
            else
              let passed ← passOptions run naming.standard (after.length + naming.rest.length + 2)
                [] after naming.rest
              match passed.command with
              | none => pure { named with fields := name :: passed.fields, rest := passed.rest }
              | some fields =>
                  nameCommand limit
                    { named with
                      fields, rest := passed.rest, standard := passed.standard
                      passesFunctions := true }

/-- Expands the name of a command and what decides about its other words. -/
def naming (words : List Word) : Shell Naming := do
  let (fields, rest) ← fill run [] words
  nameCommand run (words.length + fields.length + 1) { fields, rest }

/-- The fields of a word behind the name of a command. -/
def argumentFields (assigns : Bool) (word : Word) : Shell (List String) := do
  if assigns && isAssignment word then
    let text ← expandAssignment (outputOf run) word
    pure [text]
  else expandFields (outputOf run) word

/-- Gives a value to a variable, and returns the assignment as it is traced. -/
def assignWord (isLocal exports : Bool) (word : Word) : Shell String := do
  let text ← expandAssignment (outputOf run) word
  if isLocal then makeLocal true text
  else
    let (name, value) := splitAssignment text
    Shell.setVariable name value exports
  pure text

/-- The text before a command that is traced. -/
def traceMark : Shell String := do
  let state ← get
  let text := (state.value? "PS4").getD ""
  match quotedText.run { rest := text.toList, documents := state.documents } with
  | .error _ => pure text
  | .ok (word, _) => expandDocument (outputOf run) word

/-- Shows a command before it is run, if that is wanted. -/
def trace (target : Descriptor) (words : List String) : Shell Unit := do
  let state ← get
  if state.isOn "xtrace" && !state.tracing then
    set { state with tracing := true }
    let mark ← Shell.behind (traceMark run) (modify fun state => { state with tracing := false })
    Shell.act (print target (mark ++ " ".intercalate words ++ "\n"))

/-- The stream for what is traced, which is the one from before redirections. -/
def traceTarget (redirections : List Redirection) : Shell Descriptor := do
  if redirections.isEmpty then pure Action.errors
  else
    let kept := ((← get).streams.headD []).lookup Action.errors
    pure ((kept.bind id).getD Action.errors)

/-- Runs what the name of a command stands for. -/
def execute (place : Place) (naming : Naming) (fields : List String) : Shell Unit := do
  let state ← get
  match fields with
  | [] => Shell.setStatus state.innerStatus
  | name :: arguments =>
      let function := if naming.passesFunctions then none else state.functions.lookup name
      match function, utility? run place name with
      | some body, _ => callFunction run place body arguments
      | none, some utility => runUtility (naming.special = some true) name utility arguments
      | none, none => runProgram run place naming.standard fields

def runSimple (place : Place) (assignments words : List Word)
    (redirections : List Redirection) : Shell Unit := do
  modify fun state => { state with innerStatus := 0 }
  let naming ← naming run words
  let others ← naming.rest.mapM (argumentFields run naming.assigns)
  let fields := naming.fields ++ others.flatten
  let exports := naming.isExec && fields.length > 1
  let body : Shell Unit :=
    withStreams (outputOf run) naming.isExec redirections fun connected => do
      if !connected then
        if naming.special = some true then throw .mistake
      else
        let texts ← assignments.mapM (assignWord run naming.isLocal exports)
        trace run (← traceTarget redirections) (texts ++ fields)
        execute run place naming fields
  if naming.isLocal then Shell.withLocals body else body

/-! ## Pipelines and processes -/

/-- Keeps a process in the background away from the keyboard. -/
def ignoreKeyboard : Shell Unit := do
  for signal in [Signal.interrupt, .quit] do
    let _ ← Shell.act (Action.react signal .ignores)
    modify fun state => { state with settled := signal :: state.settled }

/-- Keeps a process in the background away from the input. -/
def detachInput : Shell Unit := do
  Shell.act (Action.close Action.input)
  match ← Shell.act (Action.openPath (Text.encode "/dev/null") { reads := true } 0) with
  | .ok descriptor => Shell.act (install descriptor Action.input)
  | .error _ => Shell.fail "Can't open /dev/null"

/-- Starts the members of a pipeline; `source` is the pipe from the one before. -/
def startMembers (place : Place) (background : Bool) :
    Option Descriptor → List Command → Shell (List Pid)
  | _, [] => pure []
  | source, member :: rest => do
      let ends ← if rest.isEmpty then pure none else some <$> Shell.act Action.openPipe
      let pid ← forkPart run do
        if background then
          ignoreKeyboard
          if source.isNone then detachInput
        ends.forM fun ends => Shell.act (Action.close ends.readEnd)
        source.forM fun source => Shell.act (install source Action.input)
        ends.forM fun ends => Shell.act (install ends.writeEnd Action.output)
        run { place with last := true } member
      source.forM fun source => Shell.act (Action.close source)
      ends.forM fun ends => Shell.act (Action.close ends.writeEnd)
      let others ← startMembers place background (ends.map PipeEnds.readEnd) rest
      pure (pid :: others)

def runPipeline (place : Place) (members : List Command) (background : Bool) : Shell Unit := do
  let pids ← startMembers run place background none members
  if background then
    modify fun state => state.addJob pids
    Shell.setStatus 0
  else Shell.setStatus (← Shell.awaitAll pids)

/-- Runs a command that is not waited for. -/
def runBackground (body : Command) (redirections : List Redirection) : Shell Unit := do
  let connections ← redirections.mapM (connection (outputOf run))
  let pid ← forkPart run do
    ignoreKeyboard
    detachInput
    connectForGood (outputOf run) connections
    run { last := true } body
  modify fun state => state.addJob [pid]
  Shell.setStatus 0

/-- Runs a command in a process of its own, which is this one if nothing follows. -/
def runSubshell (place : Place) (body : Command) (redirections : List Redirection) :
    Shell Unit := do
  let connections ← redirections.mapM (connection (outputOf run))
  let inside : Shell Unit := do
    connectForGood (outputOf run) connections
    run { place with last := true } body
  if place.last && !(← get).hasTraps then
    inside
    throw .ended
  else
    let pid ← forkPart run inside
    Shell.setStatus (← Shell.awaitAll [pid])

/-! ## Loops -/

/-- What follows a turn of a loop. -/
inductive Turn where
  | done
  | goesOn
  | stops
  deriving DecidableEq, Repr, Inhabited

/-- A part of a loop, out of which there can be jumps. -/
def turnOf (action : Shell Unit) : Shell Turn := do
  try
    action
    pure .done
  catch
    | .jump goesOn 0 | .jump goesOn 1 => pure (if goesOn then .goesOn else .stops)
    | .jump goesOn (levels + 1) => throw (.jump goesOn levels)
    | other => throw other

/-- Does something inside of a loop. -/
def inLoop (action : Shell Unit) : Shell Unit := do
  let outer := (← get).loops
  modify fun state => { state with loops := outer + 1 }
  Shell.behind action (modify fun state => { state with loops := outer })

/-- How often the body of a loop is run at most. -/
def loopLimit : Nat := 100000000

/-- Repeats a body as long as a test comes out as wanted; `status` is that of the last
turn. -/
def repeatFrom (tested wanted : Bool) (test body : Command) : Nat → Nat → Shell Unit
  | 0, status => Shell.setStatus status
  | limit + 1, status => do
      match ← turnOf (run { tested := true } test) with
      | .stops => Shell.setStatus status
      | .goesOn => repeatFrom tested wanted test body limit status
      | .done =>
          if ((← get).status == 0) != wanted then Shell.setStatus status
          else
            match ← turnOf (run { tested } body) with
            | .stops => pure ()
            | _ => repeatFrom tested wanted test body limit (← get).status

/-- Runs a body for each of some values of a variable. -/
def eachOf (tested : Bool) (name : String) (body : Command) : List String → Shell Unit
  | [] => pure ()
  | word :: rest => do
      Shell.setVariable name (some word)
      match ← turnOf (run { tested } body) with
      | .stops => pure ()
      | _ => eachOf tested name body rest

/-! ## Choices -/

/-- Whether a text matches one of the patterns. -/
def matchesAny (text : String) : List Word → Shell Bool
  | [] => pure false
  | word :: rest => do
      if Wildcard.covers (← expandPattern (outputOf run) word) text.toList then pure true
      else matchesAny text rest

/-- Runs the first branch with a pattern that a text matches. -/
def runBranch (place : Place) (text : String) :
    List (List Word × Option Command) → Shell Unit
  | [] => Shell.setStatus 0
  | (patterns, body) :: rest => do
      if ← matchesAny run text patterns then
        match body with
        | some body => run place body
        | none => Shell.setStatus 0
      else runBranch place text rest

/-! ## Commands -/

/-- Whether a failure of a command can end the script. -/
def Command.isChecked : Command → Bool
  | .simple .. | .subshell .. | .background .. | .pipeline .. => true
  | _ => false

def Command.line : Command → Nat
  | .simple line _ _ _ | .subshell line _ _ | .background line _ _ | .redirected line _ _
  | .each line _ _ _ | .choose line _ _ => line
  | _ => 0

def runKind (place : Place) : Command → Shell Unit
  | .simple _ assignments words redirections =>
      runSimple run place assignments words redirections
  | .pipeline members background => runPipeline run place members background
  | .negated inner => do
      run { tested := true } inner
      Shell.setStatus (if (← get).status = 0 then 1 else 0)
  | .both first second => do
      run { tested := true } first
      if (← get).status = 0 then run place second
  | .either first second => do
      run { tested := true } first
      if (← get).status ≠ 0 then run place second
  | .sequence first second => do
      run { tested := place.tested } first
      run place second
  | .background _ body redirections => runBackground run body redirections
  | .subshell _ body redirections => runSubshell run place body redirections
  | .redirected _ body redirections =>
      withStreams (outputOf run) false redirections fun connected => do
        if connected then run { tested := place.tested } body
  | .conditional test body other => do
      run { tested := true } test
      if (← get).status = 0 then run place body
      else
        match other with
        | some other => run place other
        | none => Shell.setStatus 0
  | .loop wanted test body =>
      inLoop (repeatFrom run place.tested wanted test body loopLimit 0)
  | .each _ name words body => do
      let values ← expandAll (outputOf run) words
      if values.isEmpty then Shell.setStatus 0
      else inLoop (eachOf run place.tested name body values)
  | .choose _ word branches => do
      let text ← expandText (outputOf run) word
      runBranch run place text branches
  | .define name body => do
      modify fun state => { state with functions := putEntry name body state.functions }
      Shell.setStatus 0

/-- Runs a command between answers to signals.  A failure that is not tested can end the
script. -/
def runCommand (place : Place) (command : Command) : Shell Unit := do
  if !(← get).isOn "noexec" then
    answerSignals run
    modify fun state => state.atLine command.line
    runKind run place command
  answerSignals run
  let state ← get
  if command.isChecked && !place.tested && state.status ≠ 0 && state.isOn "errexit" then
    throw .ended

/-- How deep commands, and the scripts inside of them, can be nested. -/
def depthLimit : Nat := 10000

/-- Runs a command; `depth` bounds how deep commands are nested. -/
def evaluate : Nat → Runner
  | 0 => fun _ _ => pure ()
  | depth + 1 => fun place command => runCommand (evaluate depth) place command

end JobShell.Programs.Scripting
