import JobShell.Programs.Basic

/-!
# Counting lines, words and bytes

The columns of `wc`.  A word is a run between blanks that has something in it that
can be printed.
-/

namespace JobShell.Programs

open JobShell.Machine
open JobShell.Machine.Action

structure Counts where
  lines : Nat := 0
  words : Nat := 0
  bytes : Nat := 0
  /-- The width of the widest line. -/
  widest : Nat := 0

def Counts.add (left right : Counts) : Counts where
  lines := left.lines + right.lines
  words := left.words + right.words
  bytes := left.bytes + right.bytes
  widest := max left.widest right.widest

/-- Where a count has got to. -/
structure Tally where
  counts : Counts := {}
  inWord : Bool := false
  column : Nat := 0

def Tally.endLine (tally : Tally) : Tally :=
  { tally with
    counts := { tally.counts with widest := max tally.counts.widest tally.column }
    inWord := false, column := 0 }

def Tally.step (tally : Tally) (byte : UInt8) : Tally :=
  let tally := { tally with counts := { tally.counts with bytes := tally.counts.bytes + 1 } }
  if byte = Text.newline then
    let ended := tally.endLine
    { ended with counts := { ended.counts with lines := ended.counts.lines + 1 } }
  else if byte = 13 || byte = 12 then tally.endLine
  else if byte = 9 then { tally with inWord := false, column := tally.column + 8 - tally.column % 8 }
  else if byte = 32 then { tally with inWord := false, column := tally.column + 1 }
  else if byte = 11 then { tally with inWord := false }
  else if 32 < byte && byte < 127 then
    let words := tally.counts.words + if tally.inWord then 0 else 1
    { counts := { tally.counts with words }, inWord := true, column := tally.column + 1 }
  else tally

def Tally.addBytes (tally : Tally) (bytes : Bytes) : Tally :=
  bytes.foldl Tally.step tally

/-! ## Options -/

/-- When a row with the sums is printed. -/
inductive TotalRow where
  | ifSeveral
  | always
  | alone
  | never
  deriving DecidableEq, Repr, Inhabited

def totalWords : List (String × TotalRow) :=
  [("auto", .ifSeveral), ("always", .always), ("only", .alone), ("never", .never)]

def countOption (total : TotalRow) (option : String × String) : Except Refusal TotalRow :=
  if option.1 = "total" then chooseWord "--total" option.2 totalWords else .ok total

def countTable : OptionTable where
  flags := "clLmw"
  long := longFlags [("bytes", "c"), ("chars", "m"), ("lines", "l"), ("words", "w"),
      ("max-line-length", "L")]
    ++ longValues [("total", "total")]

/-- Whether a column is shown. -/
def showsColumn (arguments : Arguments) (letter : String) : Bool :=
  let isChosen := ["l", "w", "m", "c", "L"].any arguments.has
  arguments.has letter || !isChosen && ["l", "w", "c"].contains letter

def countColumns (arguments : Arguments) (counts : Counts) : List Nat :=
  [("l", counts.lines), ("w", counts.words), ("m", counts.bytes), ("c", counts.bytes),
   ("L", counts.widest)].filterMap fun column =>
    if showsColumn arguments column.1 then some column.2 else none

def countLine (arguments : Arguments) (width : Nat) (label : Option String) (counts : Counts) :
    String :=
  let columns := (countColumns arguments counts).map fun value => padLeft width (toString value)
  let shown (label : String) : String :=
    if label.toList.contains '\n' then quotedIfNeeded label else label
  " ".intercalate columns ++ (label.elim "" fun label => " " ++ shown label) ++ "\n"

/-! ## Widths -/

/-- What is known about a source before it is read. -/
def sourceAttributes (source : String) : Action (Except Errno Attributes) :=
  if source = "-" then inspectOpen input else inspect (Text.bytesOf source) true

/-- The size of a regular file; other sources have none. -/
def regularSize? (attributes : Attributes) : Option Nat :=
  match attributes.content with
  | .file bytes => some bytes.length
  | _ => none

/-- How wide numbers are, from the sources that exist: as wide as the sum of their
sizes, and wide enough for most numbers where a size is not known. -/
def countWidth (sizes : List (Option Nat)) : Nat :=
  let total := sizes.foldl (fun sum size => sum + size.getD 0) 0
  max (toString total).length (if sizes.all Option.isSome then 1 else 7)

def sourceSizes : List String → Action (List (Option Nat))
  | [] => pure []
  | source :: rest => do
      let found ← sourceAttributes source
      let others ← sourceSizes rest
      match found with
      | .error .invalid => pure (none :: others)
      | .error _ => pure others
      | .ok attributes => pure (regularSize? attributes :: others)

/-! ## Sources -/

/-- The size of a page, of which a file's size is taken with care if it is a
multiple. -/
def pageSize : Nat := 4096

/-- What can be told about the number of bytes from a file's size alone, and whether
there is nothing left to read. -/
def bytesBySize (descriptor : Descriptor) : Action (Nat × Bool) := do
  match ← inspectOpen descriptor, ← seek descriptor .here 0 with
  | .ok attributes, .ok place =>
      match regularSize? attributes with
      | none => pure (0, false)
      | some size =>
          if size % pageSize ≠ 0 then pure (size - place, true)
          else
            let target := size - size % (pageSize + 1)
            if place < target then
              let _ ← seek descriptor .here target
              pure (target - place, false)
            else pure (0, false)
  | _, _ => pure (0, false)

/-- Counts what a descriptor gives, up to its end or a failure. -/
def countDescriptor (arguments : Arguments) (descriptor : Descriptor) :
    Nat → Tally → Action (Tally × Option Errno)
  | 0, tally => pure (tally, none)
  | limit + 1, tally => do
      match ← Action.read descriptor readSize with
      | .ok [] => pure (tally, none)
      | .ok bytes => countDescriptor arguments descriptor limit (tally.addBytes bytes)
      | .error errno => pure (tally, some errno)

def countSource (arguments : Arguments) (descriptor : Descriptor) :
    Action (Counts × Option Errno) := do
  let onlyBytes := (countColumns arguments {}).length = 1 && arguments.has "c"
  let (known, complete) ← if onlyBytes then bytesBySize descriptor else pure (0, false)
  if complete then pure ({ bytes := known }, none)
  else do
    let (tally, failure) ←
      countDescriptor arguments descriptor readLimit { counts := { bytes := known } }
    pure (tally.endLine.counts, failure)

/-- Prints the counts of each source, and adds them up. -/
def countAll (name : String) (arguments : Arguments) (row : Option String → Counts → Action Unit) :
    List (Option String) → Counts → Nat → Action (Counts × Nat)
  | [], total, code => pure (total, code)
  | label :: rest, total, code => do
      let source := label.getD "-"
      match ← openOperand source with
      | .error errno => do
          complain name source errno
          countAll name arguments row rest total 1
      | .ok descriptor => do
          let (counts, failure) ← countSource arguments descriptor
          closeOperand descriptor
          match failure with
          | some errno => complain name (label.getD "standard input") errno
          | none => pure ()
          row label counts
          countAll name arguments row rest (total.add counts)
            (if failure.isSome then 1 else code)

def wc : Program :=
  program fun name arguments =>
    withOptions name 1 countTable .ifSeveral countOption arguments fun totalRow arguments => do
      let labels : List (Option String) :=
        if arguments.operands.isEmpty then [none] else arguments.operands.map some
      let sizes ← sourceSizes (sources arguments.operands)
      let single := labels.length ≤ 1 && (countColumns arguments {}).length = 1
      let width := if single || totalRow = .alone then 1 else countWidth sizes
      let row (label : Option String) (counts : Counts) : Action Unit :=
        if totalRow = .alone then pure ()
        else emit name 1 (Text.bytesOf (countLine arguments width label counts))
      let (total, code) ← countAll name arguments row labels {} 0
      let hasTotal := totalRow = .always || totalRow = .alone
        || (totalRow = .ifSeveral && labels.length > 1)
      let label := if totalRow = .alone then none else some "total"
      deliver name 1
        (if hasTotal then Text.bytesOf (countLine arguments width label total) else []) code

end JobShell.Programs
