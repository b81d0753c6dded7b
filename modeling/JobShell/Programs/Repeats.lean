import JobShell.Programs.Order.Key

/-!
# Repeated lines

`uniq` looks at runs of equal lines.  Fields and characters at the start of a line can
be passed over, and only some characters be compared.
-/

namespace JobShell.Programs

open JobShell.Machine
open JobShell.Machine.Action

/-- Where a line of its own separates runs. -/
inductive RunGap where
  | none
  | before
  | between
  | after
  | around
  deriving DecidableEq, Repr, Inhabited

structure RunRequest where
  counts : Bool := false
  /-- Lines that are not repeated are shown. -/
  single : Bool := true
  /-- The first of repeated lines is shown. -/
  first : Bool := true
  /-- The other repeated lines are shown. -/
  others : Bool := false
  gap : RunGap := .none
  /-- All lines are shown, in groups. -/
  groups : Bool := false
  foldsCase : Bool := false
  fields : Nat := 0
  /-- The number of fields is being given by digits. -/
  byDigits : Bool := false
  characters : Nat := 0
  compared : Option Nat := none
  separator : UInt8 := Text.newline
  /-- Options that do not go with groups have been given. -/
  selects : Bool := false

/-- A number without a sign; one that is too large stands for the largest. -/
def plainCount (mistake text : String) : Except Refusal Nat :=
  let digits := match text.toList.dropWhile fun c => c = ' ' || ('\t' ≤ c && c ≤ '\r') with
    | '+' :: rest => rest
    | rest => rest
  match Text.digitsValue? digits with
  | some value => .ok (min value 18446744073709551615)
  | none => .error { message := text ++ ": " ++ mistake }

def repeatWords : List (String × RunGap) :=
  [("none", .none), ("prepend", .before), ("separate", .between)]

def groupWords : List (String × RunGap) :=
  [("prepend", .before), ("append", .after), ("separate", .between), ("both", .around)]

/-- Reads one option. -/
def runOption (request : RunRequest) (option : String × String) : Except Refusal RunRequest :=
  match option.1, option.2 with
  | "c", _ => .ok { request with counts := true, selects := true }
  | "d", _ => .ok { request with single := false, selects := true }
  | "u", _ => .ok { request with first := false, selects := true }
  | "D", text => do
      let gap ← if text = "" then .ok .none else chooseWord "--all-repeated" text repeatWords
      .ok { request with single := false, others := true, gap, selects := true }
  | "group", text => do
      let gap ← if text = "" then .ok .between else chooseWord "--group" text groupWords
      .ok { request with groups := true, gap }
  | "i", _ => .ok { request with foldsCase := true }
  | "z", _ => .ok { request with separator := 0 }
  | "f", text =>
      (plainCount "invalid number of fields to skip" text).map fun fields =>
        { request with fields, byDigits := false }
  | "s", text =>
      (plainCount "invalid number of bytes to skip" text).map fun characters =>
        { request with characters }
  | "w", text =>
      (plainCount "invalid number of bytes to compare" text).map fun count =>
        { request with compared := some count }
  | digit, _ =>
      let value := (Text.digitsValue? digit.toList).getD 0
      let before := if request.byDigits then request.fields else 0
      .ok { request with fields := before * 10 + value, byDigits := true }

def runTable : OptionTable where
  flags := "0123456789cdDiuz"
  valued := "fsw"
  long := longFlags [("count", "c"), ("repeated", "d"), ("ignore-case", "i"), ("unique", "u"),
      ("zero-terminated", "z")]
    ++ [{ name := "all-repeated", key := "D", taking := .maybe },
        { name := "group", key := "group", taking := .maybe }]
    ++ longValues [("skip-fields", "f"), ("skip-chars", "s"), ("check-chars", "w")]

def RunRequest.conflict? (request : RunRequest) : Option String :=
  if request.groups && request.selects then
    some "--group is mutually exclusive with -c/-d/-D/-u"
  else if request.counts && request.others then
    some "printing all duplicated lines and repeat counts is meaningless"
  else none

/-- What is compared of a line. -/
def RunRequest.compared? (request : RunRequest) (line : Bytes) : List Char :=
  let chars := line.map fun byte => Char.ofNat byte.toNat
  let rest := (Order.dropFields none (min request.fields chars.length) chars).drop
    request.characters
  let rest := match request.compared with
    | some count => rest.take count
    | none => rest
  if request.foldsCase then rest.map Char.toLower else rest

/-! ## Groups -/

/-- A line that is shown, with a gap before the first of a group where one belongs. -/
def showGrouped (request : RunRequest) (last : Option (List Char)) (line : Bytes) :
    Bytes × Option (List Char) :=
  let key := request.compared? line
  let isNew := last ≠ some key
  let hasGap := isNew && (request.gap = .before || request.gap = .around
    || last.isSome && (request.gap = .after || request.gap = .between))
  let isShown := isNew || request.groups
  ((if hasGap then [request.separator] else [])
    ++ (if isShown then line ++ [request.separator] else []), some key)

def showAllGrouped (request : RunRequest) (last : Option (List Char)) :
    List Bytes → Bytes × Option (List Char)
  | [] => ([], last)
  | line :: rest =>
      let (shown, last) := showGrouped request last line
      let (others, last) := showAllGrouped request last rest
      (shown ++ others, last)

/-! ## Selected runs -/

/-- The run that has been begun, and its length so far. -/
structure Run where
  line : Bytes
  key : List Char
  length : Nat
  /-- Whether an earlier run was repeated. -/
  hadRepeats : Bool

/-- The line at which a run is shown, if it is. -/
def showRun (request : RunRequest) (run : Run) (goesOn : Bool) : Bytes :=
  let isShown :=
    if run.length ≤ 1 then request.single
    else if goesOn then request.others else request.first
  if !isShown then []
  else
    (if request.counts then Text.bytesOf (padLeft 7 (toString run.length) ++ " ") else [])
      ++ run.line ++ [request.separator]

/-- Adds a line to the runs, and what is shown at this point. -/
def addToRun (request : RunRequest) (run : Run) (line : Bytes) : Bytes × Run :=
  let key := request.compared? line
  if key = run.key then
    let longer := { run with length := run.length + 1 }
    let hasGap := longer.length = 2 && (request.gap = .before
      || request.gap = .between && run.hadRepeats)
    let gap := if hasGap then [request.separator] else []
    if request.others then (gap ++ showRun request longer true, { longer with line, key })
    else (gap, longer)
  else
    (showRun request run false,
      { line, key, length := 1, hadRepeats := run.hadRepeats || run.length > 1 })

def addAllToRun (request : RunRequest) :
    Option Run → List Bytes → Bytes × Option Run
  | run, [] => ([], run)
  | none, line :: rest =>
      addAllToRun request
        (some { line, key := request.compared? line, length := 1, hadRepeats := false }) rest
  | some run, line :: rest =>
      let (shown, run) := addToRun request run line
      let (others, run) := addAllToRun request (some run) rest
      (shown ++ others, run)

/-! ## The program -/

/-- Whether every line that begins a run is shown at once. -/
def RunRequest.isImmediate (request : RunRequest) : Bool :=
  request.single && request.first && !request.counts

def uniqFrom (name : String) (request : RunRequest) (source : String) (descriptor : Descriptor) :
    Action Nat := do
  let failed (errno : Errno) : Action Nat :=
    failWith name (failureText ("error reading " ++ quoted source) errno) 1
  if request.isImmediate then
    let step (last : Option (List Char)) (lines : List Bytes) :
        Action (Option (List Char) × Bool) := do
      let (shown, last) := showAllGrouped request last lines
      emit name 1 shown
      pure (last, true)
    match ← eachLines descriptor request.separator step none with
    | .error errno => failed errno
    | .ok last =>
        let hasGap := last.isSome && (request.gap = .after || request.gap = .around)
        deliver name 1 (if hasGap then [request.separator] else []) 0
  else
    let step (run : Option Run) (lines : List Bytes) : Action (Option Run × Bool) := do
      let (shown, run) := addAllToRun request run lines
      emit name 1 shown
      pure (run, true)
    match ← eachLines descriptor request.separator step none with
    | .error errno => failed errno
    | .ok none => pure 0
    | .ok (some run) => deliver name 1 (showRun request run false) 0

/-- Sends the standard output to a file. -/
def redirectOutput (name target : String) : Action (Option Nat) := do
  let mode : OpenMode := { writes := true, creates := true, truncates := true }
  match ← openPath (Text.bytesOf target) mode 0o666 with
  | .error errno => do
      complain name target errno
      pure (some 1)
  | .ok descriptor => do
      let _ ← duplicate descriptor output
      close descriptor
      pure none

def uniq : Program :=
  program fun name arguments =>
    withOptions name 1 runTable {} runOption arguments fun request arguments => do
      match request.conflict?, arguments.operands with
      | _, _ :: _ :: extra :: _ => misused name ("extra operand " ++ plainQuoted extra) 1
      | some message, _ => misused name message 1
      | none, operands => do
          let source := operands.headD "-"
          match ← openOperand source with
          | .error errno => do
              complain name source errno
              pure 1
          | .ok descriptor => do
              let failure ← match operands[1]? with
                | some target => if target = "-" then pure none else redirectOutput name target
                | none => pure none
              match failure with
              | some code => pure code
              | none => uniqFrom name request source descriptor

end JobShell.Programs
