import JobShell.Programs.Scripting.Utility.Basic

/-!
# Variables, parameters and options

The utilities that set and list them.
-/

namespace JobShell.Programs.Scripting

open JobShell.Machine

/-! ## Listings -/

/-- Lines about variables in the order of their names. -/
def listVariables (start : String) (shows : Variable → Bool) : Shell Nat := do
  let assigned := (← get).assigned.filter fun entry => shows entry.2
  let sorted := assigned.mergeSort fun left right =>
    lessEqual (Text.bytesOf left.1) (Text.bytesOf right.1)
  printText (String.join (sorted.map fun (name, held) =>
    match held.value with
    | some value => start ++ name ++ "=" ++ singleQuoted value ++ "\n"
    | none => start ++ name ++ "\n"))

/-- A name, and the value that an argument gives to it. -/
def splitAssignment (argument : String) : String × Option String :=
  let name := argument.toList.takeWhile (· ≠ '=')
  match argument.toList.drop name.length with
  | [] => (argument, none)
  | _ :: value => (String.ofList name, some (String.ofList value))

/-! ## export, readonly, local, unset -/

/-- Exports or locks a variable. -/
def markVariable (exports : Bool) (argument : String) : Shell Unit := do
  let (name, value) := splitAssignment argument
  match value, (← get).assigned.find? name with
  | none, some held =>
      let marked := if exports then { held with exported := true } else { held with locked := true }
      modify fun state => { state with assigned := state.assigned.put name marked }
  | value, _ => Shell.setVariable name value exports !exports

def markAll (exports : Bool) : Utility := fun arguments => do
  let lists ← match arguments with
    | first :: _ => do
        let (found, _) ← options "p" "" [first]
        pure (hasOption 'p' found)
    | [] => pure false
  let operands := if arguments.head? = some "--" then arguments.tail else arguments
  if lists || operands.isEmpty then
    listVariables (if exports then "export " else "readonly ")
      (if exports then Variable.exported else Variable.locked)
  else do
    operands.forM (markVariable exports)
    pure 0

/-- Makes a variable that is restored when the function is left. -/
def makeLocal (exports : Bool) (argument : String) : Shell Unit := do
  if argument = "-" then Shell.keep (.options (← get).options)
  else
    let (name, value) := splitAssignment argument
    match value, (← get).assigned.find? name with
    | none, some _ => Shell.keepVariable name
    | value, _ => do
        let kept := (← get).assigned.find? name
        Shell.setVariable name value exports
        Shell.keep (.held name kept)
        if value.isNone then
          modify fun state => { state with assigned := state.assigned.put name {} }

def localAll : Utility := fun arguments => do
  if (← get).locals.isEmpty then Shell.fail "not in a function"
  arguments.forM (makeLocal false)
  pure 0

def unset : Utility := fun arguments => do
  let (found, names) ← options "vf" "" arguments
  let isFunction := (found.getLast?.map Prod.fst) = some 'f'
  names.forM fun name =>
    if isFunction then
      modify fun state =>
        { state with functions := state.functions.filter fun entry => entry.1 ≠ name }
    else Shell.setVariable name none
  pure 0

/-! ## set, shift -/

def setParameters (parameters : List String) : Shell Unit :=
  modify fun state => { state with parameters, optionIndex := 1, optionOffset := none }

/-- Turns an option on or off.  The two ways of editing exclude each other. -/
def turn (isOn : Bool) (option : String) : Shell Unit :=
  modify fun state =>
    let excluded := match option with
      | "vi" => "emacs"
      | "emacs" => "vi"
      | _ => ""
    let others := state.options.filter fun other => other ≠ option && !(isOn && other = excluded)
    { state with options := if isOn then option :: others else others }

def turnLetter (isOn : Bool) (letter : Char) : Shell Unit :=
  match optionNames.find? fun option => option.2 = some letter with
  | some (option, _) => turn isOn option
  | none => Shell.fail ("Illegal option -" ++ letter.toString)

def turnNamed (isOn : Bool) (option : String) : Shell Unit :=
  if optionNames.any fun entry => entry.1 = option then turn isOn option
  else Shell.fail ("Illegal option -o " ++ option)

/-- All options, for a reader or as commands.  Before a script has started all are on. -/
def listOptions (asCommands atStart : Bool) : Shell Nat := do
  let state ← get
  let line (option : String) : String :=
    let isOn := atStart || state.isOn option
    if asCommands then "set " ++ (if isOn then "-o " else "+o ") ++ option ++ "\n"
    else padRight 16 option ++ (if isOn then "on" else "off") ++ "\n"
  let start := if asCommands then "" else "Current option settings\n"
  printText (start ++ String.join (optionNames.map fun option => line option.1))

/-- What options at the front of arguments leave. -/
structure OptionEnd where
  operands : List String
  /-- The options have been ended by a mark. -/
  marked : Bool := false
  /-- There is a command among the arguments. -/
  command : Bool := false

/-- Turns the options on and off that letters stand for, and returns what is left of the
arguments. -/
def turnLetters (isOn atStart : Bool) : List Char → List String → Shell (Bool × List String)
  | [], rest => pure (false, rest)
  | 'o' :: letters, option :: rest => do
      turnNamed isOn option
      turnLetters isOn atStart letters rest
  | 'o' :: letters, [] => do
      let _ ← listOptions (!isOn) atStart
      turnLetters isOn atStart letters []
  | letter :: letters, rest => do
      let isCommand := atStart && letter = 'c'
      if !isCommand && !(atStart && letter = 'l') then turnLetter isOn letter
      let (others, rest) ← turnLetters isOn atStart letters rest
      pure (isCommand || others, rest)

/-- Turns options on and off; `atStart` says whether a script is started with them, and
`limit` bounds the arguments. -/
def turnOptions (atStart : Bool) : Nat → List String → Shell OptionEnd
  | 0, operands => pure { operands }
  | _, [] => pure { operands := [] }
  | limit + 1, argument :: rest =>
      match argument.toList with
      | ['-'] => do
          if !atStart then
            turn false "xtrace"
            turn false "verbose"
          pure { operands := rest }
      | ['-', '-'] => pure { operands := rest, marked := true }
      | '-' :: letters => turnSome limit true letters rest
      | '+' :: letters => turnSome limit false letters rest
      | _ => pure { operands := argument :: rest }
where
  turnSome (limit : Nat) (isOn : Bool) (letters : List Char) (rest : List String) :
      Shell OptionEnd := do
    let (command, rest) ← turnLetters isOn atStart letters rest
    let after ← turnOptions atStart limit rest
    pure { after with command := command || after.command }

def setAll : Utility := fun arguments => do
  if arguments.isEmpty then listVariables "" fun held => held.value.isSome
  else do
    let after ← turnOptions false (arguments.length + 1) arguments
    if after.marked || !after.operands.isEmpty then setParameters after.operands
    pure 0

def shift : Utility := fun arguments => do
  let most ← match arguments with
    | [] => pure 1
    | text :: _ => count text
  let parameters := (← get).parameters
  if most > parameters.length then Shell.fail "can't shift that many"
  setParameters (parameters.drop most)
  pure 0

/-! ## getopts -/

/-- What is found at one option letter. -/
structure OptionFound where
  letter : Char
  argument : Option String
  complaint : Option String := none
  /-- What is left of the word. -/
  rest : List Char := []
  index : Nat

/-- Whether a letter is known, and whether it takes an argument. -/
def takesArgument? (letter : Char) : List Char → Option Bool
  | [] => none
  | first :: ':' :: rest => if first = letter then some true else takesArgument? letter rest
  | first :: rest => if first = letter then some false else takesArgument? letter rest

/-- Looks at the letter at a place in the arguments; `index` counts the word behind
that letter. -/
def optionAt (known : List Char) (arguments : List String) (letter : Char) (rest : List Char)
    (index : Nat) : OptionFound :=
  let isQuiet := known.head? = some ':'
  match takesArgument? letter known with
  | none =>
      if isQuiet then { letter := '?', argument := some letter.toString, rest, index }
      else
        { letter := '?', argument := none
          complaint := some ("Illegal option -" ++ letter.toString), rest, index }
  | some false => { letter, argument := some "", rest, index }
  | some true =>
      if !rest.isEmpty then { letter, argument := some (String.ofList rest), index }
      else
        match arguments[index - 1]? with
        | some argument => { letter, argument := some argument, index := index + 1 }
        | none =>
            if isQuiet then { letter := ':', argument := some letter.toString, index }
            else
              { letter := '?', argument := none
                complaint := some ("No arg for -" ++ letter.toString ++ " option"), index }

/-- The next option, or the place behind the options. -/
def nextOption (known : List Char) (arguments : List String) (index : Nat)
    (offset : Option Nat) : Except Nat OptionFound :=
  let begun : List Char := match offset, index with
    | some offset, previous + 2 => ((arguments[previous]?).getD "").toList.drop offset
    | _, _ => []
  match begun with
  | letter :: rest => .ok (optionAt known arguments letter rest index)
  | [] =>
      match (arguments[index - 1]?).map String.toList with
      | some ['-', '-'] => .error (index + 1)
      | some ('-' :: letter :: rest) => .ok (optionAt known arguments letter rest (index + 1))
      | _ => .error index

/-- Keeps where the next option is looked for. -/
def setOptionPlace (index : Nat) (offset : Option Nat) : Shell Unit := do
  Shell.setVariable "OPTIND" (some (toString index))
  modify fun state => { state with optionIndex := index, optionOffset := offset }

def getOptions : Utility := fun arguments => do
  let (_, operands) ← options "" "" arguments
  match operands with
  | known :: name :: given => do
      let state ← get
      let source := if given.isEmpty then state.parameters else given
      let (index, offset) := if state.optionIndex > source.length + 1 then (1, none)
        else (state.optionIndex, state.optionOffset)
      match nextOption known.toList source index offset with
      | .error index => do
          setOptionPlace index none
          Shell.setVariable name (some "?")
          pure 1
      | .ok found => do
          match found.complaint with
          | some complaint => mutter complaint
          | none => pure ()
          Shell.setVariable "OPTARG" found.argument
          let word := (source[found.index - 2]?).getD ""
          setOptionPlace found.index
            (if found.rest.isEmpty then none else some (word.length - found.rest.length))
          Shell.setVariable name (some found.letter.toString)
          pure 0
  | _ => Shell.fail "Usage: getopts optstring var [arg...]"

/-! ## alias, unalias -/

def aliasLine (name meaning : String) : String :=
  name ++ "=" ++ singleQuoted meaning ++ "\n"

/-- Defines or shows one alias. -/
def aliasOne (argument : String) : Shell Bool := do
  let first := argument.toList.take 1
  match splitAssignment (String.ofList (argument.toList.drop 1)) with
  | (rest, some meaning) => do
      let name := String.ofList (first ++ rest.toList)
      modify fun state => { state with aliases := putEntry name meaning state.aliases }
      pure true
  | (_, none) =>
      match (← get).aliases.lookup argument with
      | some meaning => do
          let _ ← printText (aliasLine argument meaning)
          pure true
      | none => do
          mutter ("alias: " ++ argument ++ " not found")
          pure false

def aliasAll : Utility := fun arguments => do
  if arguments.isEmpty then
    printText (String.join ((inGroups groupCount (← get).aliases).map fun (name, meaning) =>
      aliasLine name meaning))
  else do
    let found ← arguments.mapM aliasOne
    pure (if found.all id then 0 else 1)

def unalias : Utility := fun arguments => do
  let (found, names) ← options "a" "" arguments
  if hasOption 'a' found then
    modify fun state => { state with aliases := [] }
    pure 0
  else do
    let known ← names.mapM fun name => do
      let state ← get
      if (state.aliases.lookup name).isSome then
        set { state with aliases := state.aliases.filter fun entry => entry.1 ≠ name }
        pure true
      else
        mutter ("unalias: " ++ name ++ " not found")
        pure false
    pure (if known.all id then 0 else 1)

/-! ## read -/

/-- How much of a line has been read. -/
inductive LineEnd where
  | complete
  | cut
  deriving DecidableEq, Repr, Inhabited

/-- Reads one line byte by byte, so that nothing is lost for others, into pieces of which
those that were escaped are not split.  `begun` is in reverse, as are the pieces. -/
def readPieces (raw : Bool) : Nat → List Glyph → List Piece → Action (List Piece × LineEnd)
  | 0, begun, pieces => pure (finishPiece begun pieces, .cut)
  | limit + 1, begun, pieces => do
      match ← next limit with
      | none => pure (finishPiece begun pieces, .cut)
      | some '\n' => pure (finishPiece begun pieces, .complete)
      | some '\\' =>
          if raw then readPieces raw limit (.char '\\' false :: begun) pieces
          else do
            match ← next limit with
            | none => pure (finishPiece begun pieces, .cut)
            | some '\n' => readPieces raw limit [] (finishPiece begun pieces).reverse
            | some c =>
                let escaped : Piece := { glyphs := [.char c false], region := .fixed }
                readPieces raw limit [] (escaped :: (finishPiece begun pieces).reverse)
      | some c => readPieces raw limit (.char c false :: begun) pieces
where
  finishPiece (begun : List Glyph) (pieces : List Piece) : List Piece :=
    ({ glyphs := begun.reverse, region := .splits } :: pieces).reverse
  /-- The next character that is not a zero. -/
  next : Nat → Action (Option Char)
    | 0 => pure none
    | limit + 1 => do
        match ← Action.read Action.input 1 with
        | .ok [byte] => if byte = 0 then next limit else pure (some (Char.ofNat byte.toNat))
        | _ => pure none

/-- Gives fields to variables; those without a field become empty. -/
def assignFields : List String → List (List Glyph) → Shell Unit
  | [], _ => pure ()
  | name :: names, [] => do
      Shell.setVariable name (some "")
      assignFields names []
  | name :: names, field :: fields => do
      Shell.setVariable name (some (glyphText field))
      assignFields names fields

def readFields : Utility := fun arguments => do
  let (found, names) ← options "r" "p" arguments
  if names.isEmpty then Shell.fail "arg count"
  let (pieces, lineEnd) ←
    Shell.act (readPieces (hasOption 'r' found) Action.readLimit [] [])
  let separators := (← get).separators
  assignFields names (splitPieces separators (some names.length) pieces)
  pure (if lineEnd = .complete then 0 else 1)

end JobShell.Programs.Scripting
