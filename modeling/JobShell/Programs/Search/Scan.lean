import JobShell.Programs.Basic
import JobShell.Programs.Search.Pattern

/-!
# Scanning files

Lines are looked at one after the other.  Lines that are selected are shown, with
others around them if that is asked for.  A file with zeros in it is not text: of it
is only told whether it has a match.
-/

namespace JobShell.Programs.Search

open JobShell.Machine
open JobShell.Machine.Action

/-- How files that are not text are treated. -/
inductive BinaryRule where
  | summary
  | asText
  | skip
  deriving DecidableEq, Repr, Inhabited

/-- What is shown of a file. -/
inductive Shown where
  | lines
  | parts
  | count
  /-- The name, if a line is selected or if none is. -/
  | nameIf (selected : Bool)
  | nothing
  deriving DecidableEq, Repr, Inhabited

structure ScanRequest where
  expression : Expression
  folds : Bool := false
  inverted : Bool := false
  wholeLine : Bool := false
  wholeWord : Bool := false
  shown : Shown := .lines
  numbered : Bool := false
  offsets : Bool := false
  tabs : Bool := false
  /-- A zero stands behind names. -/
  zeroAfterName : Bool := false
  colored : Bool := false
  before : Option Nat := none
  after : Option Nat := none
  separator : Option String := some "--"
  limit : Option Nat := none
  binary : BinaryRule := .summary
  lineEnd : UInt8 := Text.newline

/-! ## Matching -/

/-- Whether a match of a part of a line is one. -/
def ScanRequest.accepts (request : ScanRequest) (line : Array Char) (start stop : Nat) : Bool :=
  (!request.wholeLine || (start = 0 && stop = line.size))
    && (!request.wholeWord || (!wordBefore line start && !wordAt line stop))

/-- The longest match that begins at a place. -/
def ScanRequest.matchAt? (request : ScanRequest) (line : Array Char) (start : Nat) :
    Option Nat :=
  let ends := (request.expression.ends request.folds line { position := start }).map
    Place.position
  (ends.filter fun stop => request.accepts line start stop).max?

/-- The first match from a place on, tried at the given number of places. -/
def ScanRequest.firstMatch? (request : ScanRequest) (line : Array Char) :
    Nat → Nat → Option (Nat × Nat)
  | 0, _ => none
  | count + 1, start =>
      match request.matchAt? line start with
      | some stop => some (start, stop)
      | none => request.firstMatch? line count (start + 1)

def charsOf (line : Bytes) : Array Char :=
  (line.map fun byte => Char.ofNat byte.toNat).toArray

def ScanRequest.selects (request : ScanRequest) (line : Bytes) : Bool :=
  let chars := charsOf line
  (request.firstMatch? chars (chars.size + 1) 0).isSome != request.inverted

/-- The parts of a line that match and are not empty; `limit` bounds the places. -/
def ScanRequest.partsFrom (request : ScanRequest) (line : Array Char) :
    Nat → Nat → List (Nat × Nat)
  | 0, _ => []
  | limit + 1, start =>
      match request.firstMatch? line (line.size + 1 - start) start with
      | none => []
      | some (first, stop) =>
          if stop = first then request.partsFrom line limit (first + 1)
          else (first, stop) :: request.partsFrom line limit stop

/-! ## Rows -/

def colorStart (color : String) : String :=
  "\x1b[" ++ color ++ "m\x1b[K"

def colorStop : String :=
  "\x1b[m\x1b[K"

def ScanRequest.paint (request : ScanRequest) (color text : String) : String :=
  if request.colored then colorStart color ++ text ++ colorStop else text

/-- What stands in front of a row. -/
def ScanRequest.head (request : ScanRequest) (label : Option String) (mark : String)
    (number offset : Nat) (isEmpty : Bool) : String :=
  let separator := request.paint "36" mark
  let width := if request.tabs then 2 else 0
  let name := match label with
    | none => ""
    | some label =>
        request.paint "35" label ++ if request.zeroAfterName then "\x00" else separator
  let number := if request.numbered
    then request.paint "32" (padLeft width (toString number)) ++ separator else ""
  let place := if request.offsets
    then request.paint "32" (padLeft width (toString offset)) ++ separator else ""
  let tab := if request.tabs && !isEmpty
    && (label.isSome || request.numbered || request.offsets) then "\t" else ""
  name ++ number ++ place ++ tab

/-- A selected line with its matches painted. -/
def ScanRequest.paintParts (request : ScanRequest) (line : Bytes) : Bytes :=
  let chars := charsOf line
  let parts := if request.inverted then [] else request.partsFrom chars (chars.size + 1) 0
  let (painted, stop) := parts.foldl
    (fun (painted, last) (start, stop) =>
      (painted ++ (line.drop last).take (start - last)
        ++ Text.bytesOf (request.paint "01;31"
          (Text.bytewise ((line.drop start).take (stop - start)))), stop)) (([] : Bytes), 0)
  painted ++ line.drop stop

/-- A line as it is shown, selected or not. -/
def ScanRequest.row (request : ScanRequest) (label : Option String) (selected : Bool)
    (number offset : Nat) (line : Bytes) : Bytes :=
  let mark := if selected then ":" else "-"
  if request.shown = .parts then
    if !selected || request.inverted then []
    else
      let chars := charsOf line
      (request.partsFrom chars (chars.size + 1) 0).flatMap fun (start, stop) =>
        let part := (line.drop start).take (stop - start)
        Text.bytesOf (request.head label mark number (offset + start) false)
          ++ (if request.colored
            then Text.bytesOf (request.paint "01;31" (Text.bytewise part)) else part)
          ++ [request.lineEnd]
  else
    let body := if request.colored && selected then request.paintParts line else line
    Text.bytesOf (request.head label mark number offset line.isEmpty) ++ body
      ++ [request.lineEnd]

/-! ## Progress -/

/-- What has been found in a file so far. -/
structure Scan where
  number : Nat := 0
  offset : Nat := 0
  selected : Nat := 0
  /-- How many lines that follow are still to be shown. -/
  pending : Nat := 0
  /-- Lines that have not been shown, latest first, with their numbers and offsets. -/
  history : List (Nat × Nat × Bytes) := []
  /-- A line has been left out since the last one that was shown. -/
  gap : Bool := false
  /-- Something has been shown, of this file or another. -/
  used : Bool := false
  binary : Bool := false
  /-- Lines selected before the file was known not to be text. -/
  selectedAsText : Nat := 0
  /-- The end of the line that was selected last. -/
  afterLast : Nat := 0

/-- Whether only the first selected line matters. -/
def Scan.stopsAtFirst (scan : Scan) (request : ScanRequest) : Bool :=
  match request.shown with
  | .nameIf _ | .nothing => true
  | .count => false
  | _ => scan.binary

def Scan.isQuiet (scan : Scan) (request : ScanRequest) : Bool :=
  scan.stopsAtFirst request || request.shown = .count

/-- Whether no more lines are selected. -/
def Scan.isFull (scan : Scan) (request : ScanRequest) : Bool :=
  request.limit.any (· ≤ scan.selected) || scan.stopsAtFirst request && scan.selected > 0

/-- Whether nothing more is looked for. -/
def Scan.isDone (scan : Scan) (request : ScanRequest) : Bool :=
  scan.isFull request && scan.pending = 0

/-- Shows a selected line with those before it. -/
def Scan.showSelected (scan : Scan) (request : ScanRequest) (label : Option String)
    (line : Bytes) : Bytes × Scan :=
  let context := scan.history.reverse
  let hasContext := request.before.isSome || request.after.isSome
  let separator := match request.separator with
    | some text =>
        if hasContext && scan.used && scan.gap then
          Text.bytesOf (request.paint "36" text ++ "\n")
        else []
    | none => []
  let rows := context.flatMap fun (number, offset, line) =>
    request.row label false number offset line
  (separator ++ rows ++ request.row label true scan.number scan.offset line,
    { scan with pending := request.after.getD 0, history := [], gap := false, used := true })

/-- Looks at the next line. -/
def Scan.step (request : ScanRequest) (label : Option String) (scan : Scan) (line : Bytes) :
    Bytes × Scan :=
  let next := scan.offset + line.length + 1
  let numbered := { scan with number := scan.number + 1 }
  let (shown, after) :=
    if !scan.isFull request && request.selects line then
      let counted := { numbered with selected := scan.selected + 1, afterLast := next }
      if scan.isQuiet request then ([], { counted with used := true })
      else counted.showSelected request label line
    else if scan.pending > 0 then
      (request.row label false numbered.number scan.offset line,
        { numbered with pending := scan.pending - 1 })
    else
      let kept := (numbered.number, scan.offset, line) :: scan.history
      let wanted := request.before.getD 0
      ([], { numbered with
        history := kept.take wanted, gap := scan.gap || kept.length > wanted })
  (shown, { after with offset := next })

def Scan.steps (request : ScanRequest) (label : Option String) :
    Scan → List Bytes → List Bytes → List Bytes × Scan
  | scan, [], shown => (shown.reverse, scan)
  | scan, line :: rest, shown =>
      if scan.isDone request then (shown.reverse, scan)
      else
        let (bytes, scan) := scan.step request label line
        scan.steps request label rest (bytes :: shown)

/-- How much is read at once. -/
def scanSize : Nat := 98304

/-- Reads and looks at lines until nothing more is looked for; the last result says
whether the end has been reached. -/
def scanFrom (request : ScanRequest) (label : Option String) (source : Descriptor)
    (write : Bytes → Action Unit) :
    Nat → Scan → Bytes → Action (Except Errno (Scan × Bool))
  | 0, scan, _ => pure (.ok (scan, true))
  | limit + 1, scan, begun => do
      match ← Action.read source scanSize with
      | .error errno => pure (.error errno)
      | .ok [] => do
          let (shown, scan) := scan.steps request label
            (if begun.isEmpty then [] else [begun.reverse]) []
          write shown.flatten
          pure (.ok (scan, true))
      | .ok bytes => do
          let isBinary := request.binary ≠ .asText && request.lineEnd ≠ 0 && bytes.contains 0
          let scan := if isBinary && !scan.binary
            then { scan with binary := true, selectedAsText := scan.selected } else scan
          if scan.binary && request.binary = .skip then pure (.ok ({ scan with selected := 0 }, true))
          else
            let cleaned := if scan.binary
              then bytes.map fun byte => if byte = 0 then request.lineEnd else byte else bytes
            let (found, begun) := completeLines request.lineEnd begun cleaned
            let (shown, scan) := scan.steps request label found []
            write shown.flatten
            if scan.isDone request then pure (.ok (scan, false))
            else scanFrom request label source write limit scan begun

end JobShell.Programs.Search
