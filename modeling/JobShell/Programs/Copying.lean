import JobShell.Programs.Magnitude

/-!
# Copying files

`cat` copies whole files and can make visible what they hold; `head` copies their
beginnings, and leaves the rest of a shared file to those who read on.
-/

namespace JobShell.Programs

open JobShell.Machine
open JobShell.Machine.Action

/-! ## cat -/

/-- What is shown besides the bytes themselves. -/
structure Display where
  numbers : Bool
  /-- Only lines that are not empty have numbers. -/
  onlyFilled : Bool
  ends : Bool
  /-- Of several empty lines after one another only the first is shown. -/
  squeezes : Bool
  tabs : Bool
  odd : Bool

def Display.ofArguments (arguments : Arguments) : Display where
  numbers := arguments.has "n" || arguments.has "b"
  onlyFilled := arguments.has "b"
  ends := arguments.has "E" || arguments.has "e" || arguments.has "A"
  squeezes := arguments.has "s"
  tabs := arguments.has "T" || arguments.has "t" || arguments.has "A"
  odd := ["v", "e", "t", "A"].any arguments.has

def Display.isPlain (display : Display) : Bool :=
  !(display.numbers || display.ends || display.squeezes || display.tabs || display.odd)

/-- Where in its lines a copy has got to. -/
structure Position where
  number : Nat := 0
  insideLine : Bool := false
  /-- How many line ends in a row stand right before. -/
  lineEnds : Nat := 0
  /-- A carriage return that has not been shown. -/
  heldReturn : Bool := false

/-- A byte in the form of a caret and a letter, or with its highest bit as `M-`. -/
def visibleByte (tabs : Bool) (byte : UInt8) : Bytes :=
  let low (byte : UInt8) : Bytes :=
    if byte < 32 then [94, byte + 64] else if byte = 127 then [94, 63] else [byte]
  if byte = 9 && !tabs then [byte]
  else if byte < 128 then low byte
  else [77, 45] ++ low (byte - 128)

def lineNumber (number : Nat) : Bytes :=
  Text.bytesOf (padLeft 6 (toString number) ++ "\t")

/-- The line end of an empty or a filled line. -/
def showLineEnd (display : Display) (position : Position) : Bytes × Position :=
  let isEmpty := !position.insideLine
  let hidden := display.squeezes && isEmpty && position.lineEnds > 0
  let after := { position with
    insideLine := false, lineEnds := if isEmpty then position.lineEnds + 1 else 0,
    heldReturn := false }
  if hidden then ([], after)
  else
    let numbered := display.numbers && !display.onlyFilled && isEmpty
    let number := if numbered then position.number + 1 else position.number
    let held := if position.heldReturn then [94, 77] else []
    ((if numbered then lineNumber number else []) ++ held
      ++ (if display.ends then [36] else []) ++ [Text.newline], { after with number })

/-- What is shown for one byte. -/
def showByte (display : Display) (position : Position) (byte : UInt8) : Bytes × Position :=
  if byte = Text.newline then showLineEnd display position
  else
    let starts := !position.insideLine && display.numbers
    let number := if starts then position.number + 1 else position.number
    let held := if position.heldReturn then [13] else []
    let holds := byte = 13 && display.ends && !display.odd
    let shown :=
      if holds then []
      else if display.odd then visibleByte display.tabs byte
      else if byte = 9 && display.tabs then [94, 73]
      else [byte]
    ((if starts then lineNumber number else []) ++ held ++ shown,
      { number, insideLine := true, lineEnds := 0, heldReturn := holds })

def showBytes (display : Display) : Position → Bytes → List Bytes → List Bytes × Position
  | position, [], shown => (shown.reverse, position)
  | position, byte :: rest, shown =>
      let (bytes, position) := showByte display position byte
      showBytes display position rest (bytes :: shown)

/-- Copies a descriptor as it is to be shown. -/
def copyShown (name : String) (display : Display) (source : Descriptor) (position : Position) :
    Action (Except Errno Position) :=
  eachChunk source
    (fun position bytes => do
      let (shown, position) :=
        if display.isPlain then ([bytes], position) else showBytes display position bytes []
      emit name 1 shown.flatten
      pure (position, true))
    readLimit position

/-- Whether a file is the one that is written to, with something in it that has been
written already. -/
def isOwnOutput (descriptor : Descriptor) : Action Bool := do
  match ← inspectOpen descriptor, ← inspectOpen output, ← modeOf output with
  | .ok source, .ok written, .ok mode =>
      match written.content with
      | .file bytes =>
          if source.inode ≠ written.inode then pure false
          else
            match ← seek descriptor .here 0, ← seek output .here 0 with
            | .ok start, .ok place =>
                pure (start < if mode.appends then bytes.length else place)
            | _, _ => pure false
      | _ => pure false
  | _, _, _ => pure false

def catAll (name : String) (display : Display) : List String → Position → Nat → Action Nat
  | [], position, code => do
      emit name 1 (if position.heldReturn then [13] else [])
      pure code
  | operand :: rest, position, code => do
      let refuse (errno : Errno) : Action Nat := do
        complain name operand errno
        catAll name display rest position 1
      match ← openOperand operand with
      | .error errno => refuse errno
      | .ok descriptor => do
          if ← isOwnOutput descriptor then
            warn name (quotedIfNeeded operand ++ ": input file is output file")
            closeOperand descriptor
            catAll name display rest position 1
          else
            match ← copyShown name display descriptor position with
            | .ok position => closeOperand descriptor; catAll name display rest position code
            | .error errno => closeOperand descriptor; refuse errno

def catTable : OptionTable where
  flags := "benstuvAET"
  long := longFlags
    [("number-nonblank", "b"), ("number", "n"), ("squeeze-blank", "s"), ("show-nonprinting", "v"),
     ("show-ends", "E"), ("show-tabs", "T"), ("show-all", "A")]

def cat : Program :=
  program fun name arguments =>
    withArguments name 1 catTable arguments fun arguments => do
      match ← modeOf output with
      | .error errno => failWith name (failureText "standard output" errno) 1
      | .ok _ =>
          catAll name (Display.ofArguments arguments) (sources arguments.operands) {} 0

/-! ## head -/

/-- How much of a file is copied. -/
structure Portion where
  byBytes : Bool := false
  count : Nat := 10
  /-- The count is that of what is left out at the end. -/
  fromEnd : Bool := false
  separator : UInt8 := Text.newline

/-- Up to the given number of lines, with their ends, and how many are missing. -/
def takeLines (separator : UInt8) : Nat → Bytes → Bytes → Bytes × Nat
  | missing, [], taken => (taken.reverse, missing)
  | missing, byte :: rest, taken =>
      if missing = 0 then (taken.reverse, 0)
      else
        takeLines separator (if byte = separator then missing - 1 else missing) rest
          (byte :: taken)

def copySize : Nat := 8192

/-- Copies bytes from a descriptor. -/
def copyBytes (name : String) (source : Descriptor) :
    Nat → Nat → Action (Except Errno Unit)
  | 0, _ => pure (.ok ())
  | _, 0 => pure (.ok ())
  | limit + 1, missing => do
      match ← read source (min missing copySize) with
      | .ok [] => pure (.ok ())
      | .ok bytes => do
          emit name 1 bytes
          copyBytes name source limit (missing - bytes.length)
      | .error errno => pure (.error errno)

/-- Copies lines from a descriptor, and gives back what has been read beyond them. -/
def copyLines (name : String) (source : Descriptor) (separator : UInt8) :
    Nat → Nat → Action (Except Errno Unit)
  | 0, _ => pure (.ok ())
  | _, 0 => pure (.ok ())
  | limit + 1, missing => do
      match ← read source copySize with
      | .ok [] => pure (.ok ())
      | .ok bytes => do
          let (taken, left) := takeLines separator missing bytes []
          if left = 0 then
            let _ ← seek source .here (Int.ofNat taken.length - Int.ofNat bytes.length)
          emit name 1 taken
          copyLines name source separator limit left
      | .error errno => pure (.error errno)

/-- What is left without the last lines. -/
def withoutLastLines (separator : UInt8) (count : Nat) (bytes : Bytes) : Bytes :=
  if count = 0 then bytes
  else
    let ended := if bytes.getLast? = some separator then bytes else bytes ++ [separator]
    let total := ended.count separator
    if bytes.isEmpty || total ≤ count then []
    else (takeLines separator (total - count) bytes []).1

/-- Copies all but the end of a descriptor. -/
def copyWithoutEnd (name : String) (source : Descriptor) (portion : Portion) :
    Action (Except Errno Unit) := do
  let start ← seek source .here 0
  match ← readAll source with
  | .error errno => pure (.error errno)
  | .ok bytes => do
      let kept := if portion.byBytes then bytes.take (bytes.length - portion.count)
        else withoutLastLines portion.separator portion.count bytes
      emit name 1 kept
      match start with
      | .ok place =>
          let _ ← seek source .start (place + kept.length)
          pure (.ok ())
      | .error _ => pure (.ok ())

def copyPortion (name : String) (source : Descriptor) (portion : Portion) :
    Action (Except Errno Unit) :=
  if portion.fromEnd then copyWithoutEnd name source portion
  else if portion.byBytes then copyBytes name source readLimit portion.count
  else copyLines name source portion.separator readLimit portion.count

def headAll (name : String) (titled : Bool) (portion : Portion) :
    List String → Bool → Nat → Action Nat
  | [], _, code => pure code
  | operand :: rest, first, code => do
      match ← openOperand operand with
      | .error errno => do
          warn name (failureText ("cannot open " ++ quoted operand ++ " for reading") errno)
          headAll name titled portion rest first 1
      | .ok descriptor => do
          let title := if operand = "-" then "standard input" else operand
          if titled then
            emit name 1
              (Text.bytesOf ((if first then "" else "\n") ++ "==> " ++ title ++ " <==\n"))
          let copied ← copyPortion name descriptor portion
          closeOperand descriptor
          match copied with
          | .ok () => headAll name titled portion rest false code
          | .error errno => do
              warn name (failureText ("error reading " ++ quoted title) errno)
              headAll name titled portion rest false 1

/-- The amount that an option gives. -/
def portionOf (byBytes : Bool) (text : String) : Except Refusal Portion :=
  let (fromEnd, text) := match text.toList with
    | '-' :: rest => (true, String.ofList rest)
    | _ => (false, text)
  let description := if byBytes then "invalid number of bytes" else "invalid number of lines"
  match countOf description text with
  | .ok count => .ok { byBytes, count, fromEnd }
  | .error message => .error { message }

/-- The old way of giving an amount, as in `-3c`: digits and then letters. -/
def expandPlainCount (digits letters : List Char) : Except String (List String) :=
  let step (found : Char × List Char × List String) (letter : Char) :
      Except String (Char × List Char × List String) :=
    let (option, unit, flags) := found
    match letter with
    | 'c' => .ok ('c', [], flags)
    | 'b' | 'k' | 'm' => .ok ('c', [letter], flags)
    | 'l' => .ok ('n', unit, flags)
    | 'q' | 'v' | 'z' => .ok (option, unit, flags ++ [String.ofList ['-', letter]])
    | _ => .error ("invalid trailing option -- " ++ letter.toString)
  (letters.foldlM step ('n', [], [])).map fun (option, unit, flags) =>
    flags ++ [String.ofList (['-', option] ++ digits ++ unit)]

/-- Writes an old amount, which can only be the first argument, as options. -/
def expandFirst : List String → Except String (List String)
  | [] => .ok []
  | argument :: rest =>
      match argument.toList with
      | '-' :: letters =>
          let digits := letters.takeWhile Char.isDigit
          if digits.isEmpty then .ok (argument :: rest)
          else (expandPlainCount digits (letters.drop digits.length)).map (· ++ rest)
      | _ => .ok (argument :: rest)

def headTable : OptionTable where
  flags := "qvz0123456789"
  valued := "cn"
  long := longFlags [("quiet", "q"), ("silent", "q"), ("verbose", "v"), ("zero-terminated", "z")]
    ++ longValues [("bytes", "c"), ("lines", "n")]

/-- Reads one option. -/
def headOption (portion : Portion) (option : String × String) : Except Refusal Portion :=
  match option.1 with
  | "c" => portionOf true option.2
  | "n" => portionOf false option.2
  | key =>
      if key.toList.all Char.isDigit then
        .error { message := "invalid trailing option -- " ++ key, aboutUse := true }
      else .ok portion

def head : Program :=
  program fun name arguments =>
    match expandFirst arguments with
    | .error message => misused name message 1
    | .ok arguments =>
        withOptions name 1 headTable {} headOption arguments fun portion arguments =>
          let separator := if arguments.has "z" then 0 else Text.newline
          let titled := match arguments.last? ["q", "v"] with
            | some option => option = "v"
            | none => arguments.operands.length > 1
          headAll name titled { portion with separator } (sources arguments.operands) true 0

end JobShell.Programs
