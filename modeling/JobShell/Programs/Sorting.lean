import JobShell.Programs.Order.Key

/-!
# Sorting lines

`sort` puts the lines of all its sources in one order, merges sources that are in order
already, or looks whether they are.
-/

namespace JobShell.Programs

open JobShell.Machine
open JobShell.Machine.Action
open JobShell.Programs.Order (Key Manner)

/-- What is asked of a sort. -/
structure SortRequest where
  manner : Manner := {}
  keys : List Key := []
  separator : Option Char := none
  /-- The file that the result is written to. -/
  target : Option String := none
  /-- The letter of the option to look at the order only. -/
  checks : Option Char := none
  stable : Bool := false
  unique : Bool := false
  merges : Bool := false
  lineEnd : UInt8 := Text.newline

def sortWords : List (String × String) :=
  [("general-numeric", "g"), ("human-numeric", "h"), ("month", "M"), ("numeric", "n"),
   ("random", "R"), ("version", "V")]

def checkWords : List (String × Char) :=
  [("quiet", 'C'), ("silent", 'C'), ("diagnose-first", 'c')]

def refuse {α : Type} (message : String) : Except Refusal α :=
  .error { message }

def addSeparator (request : SortRequest) (text : String) : Except Refusal SortRequest :=
  let chosen : Except Refusal Char := match text.toList with
    | [] => refuse "empty tab"
    | [c] => .ok c
    | ['\\', '0'] => .ok '\x00'
    | _ => refuse ("multi-character tab " ++ plainQuoted text)
  match chosen with
  | .error refusal => .error refusal
  | .ok c =>
      if request.separator.any (· ≠ c) then refuse "incompatible tabs"
      else .ok { request with separator := some c }

def addCheck (request : SortRequest) (letter : Char) : Except Refusal SortRequest :=
  if request.checks.any (· ≠ letter) then refuse "options '-cC' are incompatible"
  else .ok { request with checks := some letter }

/-- Reads one option. -/
def sortOption (request : SortRequest) (option : String × String) :
    Except Refusal SortRequest :=
  match option.1, option.2 with
  | "k", text =>
      match Key.read text with
      | .ok key => .ok { request with keys := request.keys ++ [key] }
      | .error message => refuse message
  | "t", text => addSeparator request text
  | "o", text =>
      if request.target.any (· ≠ text) then refuse "multiple output files specified"
      else .ok { request with target := some text }
  | "c", _ => addCheck request 'c'
  | "C", _ => addCheck request 'C'
  | "check", "" => addCheck request 'c'
  | "check", text => (chooseWord "--check" text checkWords).bind (addCheck request)
  | "sort", text =>
      (chooseWord "--sort" text sortWords).map fun letter =>
        { request with manner := (request.manner.addAll true true letter.toList).1 }
  | "s", _ => .ok { request with stable := true }
  | "u", _ => .ok { request with unique := true }
  | "m", _ => .ok { request with merges := true }
  | "z", _ => .ok { request with lineEnd := 0 }
  | letter, _ =>
      .ok { request with manner := (request.manner.addAll true true letter.toList).1 }

def sortTable : OptionTable where
  flags := "bcCdfghimMnrRsuVz"
  valued := "koStTy"
  long := longFlags
      [("ignore-leading-blanks", "b"), ("dictionary-order", "d"), ("ignore-case", "f"),
       ("general-numeric-sort", "g"), ("ignore-nonprinting", "i"), ("merge", "m"),
       ("month-sort", "M"), ("numeric-sort", "n"), ("human-numeric-sort", "h"),
       ("version-sort", "V"), ("random-sort", "R"), ("reverse", "r"), ("stable", "s"),
       ("unique", "u"), ("zero-terminated", "z")]
    ++ [{ name := "check", key := "check", taking := .maybe }]
    ++ longValues
      [("key", "k"), ("output", "o"), ("field-separator", "t"), ("sort", "sort"),
       ("buffer-size", "S"), ("temporary-directory", "T"), ("parallel", "T"),
       ("batch-size", "T"), ("compress-program", "T"), ("random-source", "T")]

/-- The keys with what is said for all of them.  Where no key is given but something is
said, the whole line is the key. -/
def SortRequest.allKeys (request : SortRequest) : List Key :=
  let inherited (key : Key) : Key :=
    if key.manner = ({} : Manner) then { key with manner := request.manner } else key
  if request.keys.isEmpty && !request.manner.isPlain then [{ manner := request.manner }]
  else request.keys.map inherited

/-- What speaks against a request. -/
def SortRequest.conflict? (request : SortRequest) (operands : List String) : Option String :=
  match request.allKeys.find? fun key => key.manner.conflicts with
  | some key => some ("options '-" ++ key.manner.letters ++ "' are incompatible")
  | none =>
      match request.checks, operands with
      | some letter, _ :: extra :: _ =>
          some ("extra operand " ++ plainQuoted extra ++ " not allowed with -" ++ letter.toString)
      | some letter, _ =>
          if request.target.isSome then
            some ("options '-" ++ letter.toString ++ "o' are incompatible")
          else none
      | none, _ => none

/-! ## The order -/

/-- A line, in the form in which it is compared. -/
structure SortLine where
  bytes : Bytes
  chars : List Char

def SortLine.of (bytes : Bytes) : SortLine :=
  { bytes, chars := bytes.map fun byte => Char.ofNat byte.toNat }

/-- The order of two lines.  Lines with equal keys are in the order of their bytes,
unless that does not matter. -/
def SortRequest.compare (request : SortRequest) (keys : List Key) (left right : SortLine) :
    Ordering :=
  let byKeys := Order.compareByKeys request.separator left.chars right.chars keys
  if byKeys ≠ .eq || !keys.isEmpty && (request.unique || request.stable) then byKeys
  else
    let order := Order.compareChars left.chars right.chars
    if request.manner.reverse then order.swap else order

/-- Keeps the first of the lines that are equal. -/
def dropEqual (order : SortLine → SortLine → Ordering) : List SortLine → List SortLine
  | [] => []
  | line :: rest => line :: dropFrom line rest
where
  dropFrom (last : SortLine) : List SortLine → List SortLine
    | [] => []
    | line :: rest =>
        if order last line = .eq then dropFrom last rest else line :: dropFrom line rest

/-- Merges two lists: the first one goes on as long as its line may come first. -/
def mergeTwo (order : SortLine → SortLine → Ordering) :
    List SortLine → List SortLine → List SortLine
  | left, right => List.merge left right fun left right => order left right != .gt

/-- The first line that is out of order, with its number. -/
def firstDisorder? (misplaced : SortLine → SortLine → Bool) :
    Nat → List SortLine → Option (Nat × SortLine)
  | number, first :: second :: rest =>
      if misplaced first second then some (number + 1, second)
      else firstDisorder? misplaced (number + 1) (second :: rest)
  | _, _ => none

/-! ## The program -/

def sortFailure (attempt operand : String) (errno : Errno) : String :=
  failureText (attempt ++ ": " ++ quotedIfNeeded operand) errno

def readSorted (name : String) (request : SortRequest) (operand : String) :
    Action (List SortLine) := do
  match ← openOperand operand with
  | .error errno => do
      warn name (sortFailure "open failed" operand errno)
      Action.exit 2
  | .ok descriptor => do
      match ← inspectOpen descriptor with
      | .error .badDescriptor => do
          warn name (sortFailure "stat failed" operand .badDescriptor)
          Action.exit 2
      | _ => do
          let found ← readAll descriptor
          closeOperand descriptor
          match found with
          | .ok bytes => pure ((splitLines request.lineEnd [] bytes).map SortLine.of)
          | .error errno => do
              warn name (sortFailure "read failed" operand errno)
              Action.exit 2

def readAllSorted (name : String) (request : SortRequest) :
    List String → Action (List (List SortLine))
  | [] => pure []
  | operand :: rest => do
      let lines ← readSorted name request operand
      let others ← readAllSorted name request rest
      pure (lines :: others)

/-- The first source that does not exist. -/
def firstMissing? : List String → Action (Option (String × Errno))
  | [] => pure none
  | operand :: rest => do
      if operand = "-" then firstMissing? rest
      else
        match ← inspect (Text.bytesOf operand) true with
        | .ok _ => firstMissing? rest
        | .error errno => pure (some (operand, errno))

/-- Where the result goes. -/
def openTarget (name : String) : Option String → Action Descriptor
  | none => pure output
  | some target => do
      let mode : OpenMode := { writes := true, creates := true }
      match ← openPath (Text.bytesOf target) mode 0o666 with
      | .ok descriptor => pure descriptor
      | .error errno => do
          warn name (sortFailure "open failed" target errno)
          Action.exit 2

/-- Writes the result in place of what was there. -/
def writeSorted (name : String) (target : Option String) (bytes : Bytes) : Action Nat := do
  let descriptor ← match target with
    | none => pure output
    | some path => do
        match ← openPath (Text.bytesOf path) { writes := true, truncates := true } 0 with
        | .ok descriptor => pure descriptor
        | .error _ => pure output
  match ← writeAll descriptor bytes with
  | .ok () => pure 0
  | .error errno => do
      warn name (sortFailure "fflush failed" (target.getD "standard output") errno)
      failWith name "write error" 2

def checkSorted (name operand : String) (request : SortRequest) : Action Nat := do
  let keys := request.allKeys
  let lines ← readSorted name request operand
  let misplaced (first second : SortLine) : Bool :=
    match request.compare keys first second with
    | .gt => true
    | .eq => request.unique
    | .lt => false
  match firstDisorder? misplaced 1 lines with
  | none => pure 0
  | some (number, line) => do
      if request.checks = some 'c' then
        print errors (name ++ ": " ++ operand ++ ":" ++ toString number ++ ": disorder: ")
        let _ ← writeAll errors (line.bytes ++ [request.lineEnd])
      pure 1

def sortAll (name : String) (request : SortRequest) (operands : List String) : Action Nat := do
  match ← firstMissing? operands with
  | some (operand, errno) => failWith name (sortFailure "cannot read" operand errno) 2
  | none => do
      let descriptor ← openTarget name request.target
      if descriptor ≠ output then close descriptor
      let order := request.compare request.allKeys
      let found ← readAllSorted name request operands
      let sorted :=
        if request.merges then found.foldl (mergeTwo order) []
        else found.flatten.mergeSort fun left right => order left right != .gt
      let kept := if request.unique then dropEqual order sorted else sorted
      writeSorted name request.target (kept.flatMap fun line => line.bytes ++ [request.lineEnd])

def sort : Program :=
  program fun name arguments =>
    withOptions name 2 sortTable {} sortOption arguments fun request arguments =>
      match request.conflict? arguments.operands with
      | some message => failWith name message 2
      | none =>
          if request.checks.isSome then
            checkSorted name (arguments.operands.headD "-") request
          else sortAll name request (sources arguments.operands)

end JobShell.Programs
