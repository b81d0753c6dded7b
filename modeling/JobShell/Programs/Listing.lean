import JobShell.Programs.FileTree
import JobShell.Programs.Order.Version

/-!
# Listing directories

The names that `ls` shows, their order, their marks, and the forms in which they are
laid out.
-/

namespace JobShell.Programs

open JobShell.Machine
open JobShell.Machine.Action

namespace Listing

inductive Form where
  | rows
  | details
  | columns
  | across
  | commas
  deriving DecidableEq, Repr, Inhabited

inductive SortKey where
  | name
  | size
  | ending
  | version
  | width
  | time
  | none
  deriving DecidableEq, Repr, Inhabited

inductive Hiding where
  /-- Names that begin with a dot are hidden. -/
  | dotted
  /-- Only the directory itself and its parent are hidden. -/
  | selfAndParent
  | nothing
  deriving DecidableEq, Repr, Inhabited

/-- Which marks stand behind names. -/
inductive Marking where
  | none
  | slash
  | fileType
  | classify
  deriving DecidableEq, Repr, Inhabited

inductive Spelling where
  | literal
  | double
  | escape
  | shell (always escapes : Bool)
  deriving DecidableEq, Repr, Inhabited

/-- What is asked of a listing. -/
structure Request where
  form : Form := .rows
  key : SortKey := .name
  reverse : Bool := false
  hidden : Hiding := .dotted
  marking : Marking := .none
  spelling : Spelling := .literal
  /-- Bytes that cannot be printed are shown as question marks. -/
  masks : Bool := false
  directories : Bool := false
  recursive : Bool := false
  blocks : Bool := false
  followsOperands : Bool := false
  followsAll : Bool := false
  directoriesFirst : Bool := false
  hidesBackups : Bool := false
  showsGroup : Bool := true
  showsOwner : Bool := true
  lineEnd : Char := '\n'
  width : Nat := 80
  tabSize : Nat := 8

/-! ## Options -/

def sortWords : List (String × SortKey) :=
  [("none", .none), ("time", .time), ("size", .size), ("extension", .ending),
   ("version", .version), ("width", .width)]

def formWords : List (String × Form) :=
  [("verbose", .details), ("long", .details), ("commas", .commas), ("horizontal", .across),
   ("across", .across), ("vertical", .columns), ("single-column", .rows)]

def markingWords : List (String × Marking) :=
  [("none", .none), ("slash", .slash), ("file-type", .fileType), ("classify", .classify)]

def spellingWords : List (String × Spelling) :=
  [("literal", .literal), ("shell", .shell false false), ("shell-always", .shell true false),
   ("shell-escape", .shell false true), ("shell-escape-always", .shell true true),
   ("c", .double), ("escape", .escape)]

/-- Answers to the question when something is done. -/
def whenWords : List (String × Nat) :=
  [("always", 1), ("yes", 1), ("force", 1), ("never", 0), ("no", 0), ("none", 0), ("auto", 2),
   ("tty", 2), ("if-tty", 2)]

def readWidth (description text : String) : Except Refusal Nat :=
  match countOf description text with
  | .ok value => .ok value
  | .error message => .error { message }

/-- Reads one option. -/
def readOption (request : Request) (option : String × String) : Except Refusal Request :=
  match option.1, option.2 with
  | "1", _ => .ok (if request.form = .details then request else { request with form := .rows })
  | "a", _ => .ok { request with hidden := .nothing }
  | "A", _ => .ok { request with hidden := .selfAndParent }
  | "b", _ => .ok { request with spelling := .escape }
  | "B", _ => .ok { request with hidesBackups := true }
  | "C", _ => .ok { request with form := .columns }
  | "d", _ => .ok { request with directories := true }
  | "f", _ => .ok { request with hidden := .nothing, key := .none }
  | "F", text => do
      let choice ← if text = "" then .ok 1 else chooseWord "--classify" text whenWords
      .ok (if choice = 1 then { request with marking := .classify } else request)
  | "file-type", _ => .ok { request with marking := .fileType }
  | "g", _ => .ok { request with form := .details, showsOwner := false }
  | "G", _ => .ok { request with showsGroup := false }
  | "group-directories-first", _ => .ok { request with directoriesFirst := true }
  | "H", _ => .ok { request with followsOperands := true }
  | "l", _ | "n", _ => .ok { request with form := .details }
  | "L", _ => .ok { request with followsAll := true }
  | "m", _ => .ok { request with form := .commas }
  | "N", _ => .ok { request with spelling := .literal }
  | "o", _ => .ok { request with form := .details, showsGroup := false }
  | "p", _ => .ok { request with marking := .slash }
  | "q", _ => .ok { request with masks := true }
  | "show-control-chars", _ => .ok { request with masks := false }
  | "Q", _ => .ok { request with spelling := .double }
  | "r", _ => .ok { request with reverse := true }
  | "R", _ => .ok { request with recursive := true }
  | "s", _ => .ok { request with blocks := true }
  | "S", _ => .ok { request with key := .size }
  | "t", _ => .ok { request with key := .time }
  | "T", text => (readWidth "invalid tab size" text).map fun tabSize => { request with tabSize }
  | "U", _ => .ok { request with key := .none }
  | "v", _ => .ok { request with key := .version }
  | "w", text => (readWidth "invalid line width" text).map fun width => { request with width }
  | "x", _ => .ok { request with form := .across }
  | "X", _ => .ok { request with key := .ending }
  | "zero", _ =>
      .ok { request with
        lineEnd := '\x00', form := if request.form = .details then .details else .rows }
  | "color", text =>
      if text = "" then .ok request
      else (chooseWord "--color" text whenWords).map fun _ => request
  | "sort", text => (chooseWord "--sort" text sortWords).map fun key => { request with key }
  | "format", text => (chooseWord "--format" text formWords).map fun form => { request with form }
  | "indicator-style", text =>
      (chooseWord "--indicator-style" text markingWords).map fun marking =>
        { request with marking }
  | "quoting-style", text =>
      (chooseWord "--quoting-style" text spellingWords).map fun spelling =>
        { request with spelling }
  | _, _ => .ok request

def table : OptionTable where
  flags := "abcdfghiklmnopqrstuvxABCDFGHLNQRSUXZ1"
  valued := "wIT"
  long := longFlags
      [("all", "a"), ("almost-all", "A"), ("author", "author"), ("context", "Z"),
       ("directory", "d"), ("dired", "D"), ("escape", "b"), ("file-type", "file-type"),
       ("full-time", "l"), ("group-directories-first", "group-directories-first"),
       ("human-readable", "h"), ("inode", "i"), ("kibibytes", "k"), ("numeric-uid-gid", "n"),
       ("no-group", "G"), ("hide-control-chars", "q"), ("reverse", "r"), ("size", "s"),
       ("ignore-backups", "B"), ("si", "h"), ("dereference-command-line", "H"),
       ("dereference-command-line-symlink-to-dir", "follow-directories"), ("dereference", "L"),
       ("literal", "N"), ("quote-name", "Q"), ("recursive", "R"),
       ("show-control-chars", "show-control-chars"), ("zero", "zero")]
    ++ longValues
      [("block-size", "block-size"), ("format", "format"), ("hide", "hide"), ("ignore", "I"),
       ("indicator-style", "indicator-style"), ("quoting-style", "quoting-style"),
       ("sort", "sort"), ("tabsize", "T"), ("time", "time"), ("time-style", "time-style"),
       ("width", "w")]
    ++ [{ name := "classify", key := "F", taking := .maybe },
        { name := "color", key := "color", taking := .maybe },
        { name := "hyperlink", key := "hyperlink", taking := .maybe }]

/-! ## Entries -/

structure Entry where
  name : Bytes
  attributes : Attributes
  /-- What a link leads to. -/
  followed : Option Attributes := none

def isDirectory (attributes : Attributes) : Bool :=
  match attributes.content with
  | .directory _ _ _ => true
  | _ => false

def startsWithDot (name : Bytes) : Bool :=
  name.head? = some 46

/-- Whether a name is shown at all. -/
def Request.shows (request : Request) (name : Bytes) : Bool :=
  let visible := match request.hidden with
    | .dotted => !startsWithDot name
    | .selfAndParent => name ≠ Files.dot && name ≠ Files.dotDot
    | .nothing => true
  visible && !(request.hidesBackups && name.getLast? = some 126)

/-- A name from its last dot on. -/
def ending (name : Bytes) : Bytes :=
  let last := name.reverse.takeWhile (· ≠ 46)
  if last.length = name.length then [] else 46 :: last.reverse

def order (left right : Bytes) : Ordering :=
  if left = right then .eq else if lessEqual left right then .lt else .gt

/-- The order of two entries, which falls back to that of their names. -/
def Request.compare (request : Request) (left right : Entry) : Ordering :=
  let chars (name : Bytes) : List Char := (Text.bytewise name).toList
  let size (entry : Entry) : Nat := sizeOf entry.attributes.content
  let first : Ordering := match request.key with
    | .size => Ord.compare (size right) (size left)
    | .ending => order (ending left.name) (ending right.name)
    | .version => Order.compareNames (chars left.name) (chars right.name)
    | .width => Ord.compare left.name.length right.name.length
    | _ => .eq
  let whole := if first = .eq then order left.name right.name else first
  if request.reverse then whole.swap else whole

def Request.sort (request : Request) (entries : List Entry) : List Entry :=
  let sorted := if request.key = .none then entries
    else entries.mergeSort fun left right => request.compare left right != .gt
  if request.directoriesFirst then
    let isFirst (entry : Entry) : Bool := isDirectory (entry.followed.getD entry.attributes)
    sorted.filter isFirst ++ sorted.filter fun entry => !isFirst entry
  else sorted

/-! ## Rows -/

def marker (marking : Marking) (attributes : Attributes) : String :=
  if marking = .none then ""
  else
    match attributes.content with
    | .directory _ _ _ => "/"
    | .link _ => if marking = .slash then "" else "@"
    | .file _ | .program _ =>
        if marking = .classify && attributes.permissions &&& 0o111 ≠ 0 then "*" else ""
    | .device _ => ""

/-- A name as it is spelled. -/
def Request.spell (request : Request) (name : Bytes) : String :=
  let text := Text.bytewise name
  let escapes (also : List Char) : String :=
    String.ofList (text.toList.flatMap fun c =>
      if also.contains c then ['\\', c] else (escaped? c).getD [c])
  let masked (text : String) : String :=
    if request.masks then text.map fun c => if isPrintable c then c else '?' else text
  match request.spelling with
  | .literal => masked text
  | .double => doubleQuoted text
  | .escape => escapes ['\\', ' ']
  | .shell always escapes =>
      if escapes then if always then quoted text else quotedForShell text
      else
        let body := String.join (text.toList.map fun c => if c = '\'' then "'\\''" else c.toString)
        if always || needsQuotes text.toList then masked ("'" ++ body ++ "'") else masked text

def blocksText (attributes : Attributes) : String :=
  toString (blocksOf attributes.content / 2)

/-- A name with its mark, and the size in front of it. -/
def Request.label (request : Request) (blocksWidth : Nat) (entry : Entry) : String :=
  (if request.blocks then padLeft blocksWidth (blocksText entry.attributes) ++ " " else "")
    ++ request.spell entry.name ++ marker request.marking entry.attributes

/-- A row of a long listing, which shows all files as made at one time. -/
def Request.detailRow (request : Request) (entries : List Entry) (blocksWidth : Nat)
    (entry : Entry) : String :=
  let widest (text : Attributes → String) : Nat :=
    ((entries.map fun entry => (text entry.attributes).length).max?).getD 0
  let links (attributes : Attributes) : String := toString attributes.links
  let size (attributes : Attributes) : String := toString (sizeOf attributes.content)
  let leading :=
    if request.blocks then padLeft blocksWidth (blocksText entry.attributes) ++ " " else ""
  let owner := (if request.showsOwner then " root" else "")
    ++ (if request.showsGroup then " root" else "")
  let target := match entry.attributes.content with
    | .link target =>
        " -> " ++ request.spell target
          ++ (entry.followed.elim "" fun followed => marker request.marking followed)
    | _ => marker request.marking entry.attributes
  leading ++ modeText entry.attributes ++ " "
    ++ padLeft (widest links) (links entry.attributes) ++ owner ++ " "
    ++ padLeft (widest size) (size entry.attributes) ++ " Jan  1 00:00 "
    ++ request.spell entry.name ++ target

/-! ## Layout -/

/-- Blanks and tabs from one column to another; `limit` bounds them. -/
def indent (tabSize : Nat) : Nat → Nat → Nat → String
  | 0, _, _ => ""
  | limit + 1, column, goal =>
      if column ≥ goal then ""
      else if tabSize ≠ 0 && goal / tabSize > (column + 1) / tabSize then
        "\t" ++ indent tabSize limit (column + tabSize - column % tabSize) goal
      else " " ++ indent tabSize limit (column + 1) goal

/-- The widths of a number of columns, given the column that each entry falls into. -/
def columnWidths (columns : Nat) (place : Nat → Nat) (lengths : List Nat) : List Nat :=
  let placed := lengths.mapIdx fun index length =>
    let column := place index
    (column, length + if column + 1 = columns then 0 else 2)
  (List.range columns).map fun column =>
    placed.foldl (fun width entry => if entry.1 = column then max width entry.2 else width) 3

/-- The widths of as many columns as fit into a line. -/
def fittingWidths (width : Nat) (place : Nat → Nat → Nat) (lengths : List Nat) : List Nat :=
  let most := min lengths.length ((width + 2) / 3)
  let candidates := ((List.range most).map (most - ·)).map fun columns =>
    columnWidths columns (place columns) lengths
  (candidates.find? fun widths =>
    widths.length ≤ 1 || widths.foldl (· + ·) 0 < width).getD [0]

/-- One row of columns. -/
def columnRow (tabSize : Nat) : Nat → List String → List Nat → String
  | _, [], _ => ""
  | _, [label], _ => label
  | start, label :: rest, widths =>
      let stop := start + widths.headD 0
      label ++ indent tabSize (stop + 1) (start + label.length) stop
        ++ columnRow tabSize stop rest widths.tail

/-- The entries of a row, which are some way apart. -/
def everyNth (step : Nat) : Nat → List String → List String
  | 0, _ => []
  | _, [] => []
  | limit + 1, label :: rest => label :: everyNth step limit (rest.drop (step - 1))

def Request.columnText (request : Request) (labels : List String) : String :=
  let byColumn (columns index : Nat) : Nat := index / ((labels.length + columns - 1) / columns)
  let byRow (columns index : Nat) : Nat := index % columns
  let place := if request.form = .columns then byColumn else byRow
  let widths := fittingWidths request.width place (labels.map String.length)
  let count := max widths.length 1
  let rows := (labels.length + count - 1) / count
  let rowLabels (row : Nat) : List String :=
    if request.form = .columns then everyNth rows labels.length (labels.drop row)
    else (labels.drop (row * count)).take count
  String.join ((List.range rows).map fun row =>
    columnRow request.tabSize 0 (rowLabels row) widths ++ "\n")

/-- Names with commas between them, on lines that are not too long. -/
def commaText (width : Nat) : Nat → List String → String
  | _, [] => ""
  | column, label :: rest =>
      let next := column + label.length
      label ++ (match rest with
        | [] => ""
        | following :: _ =>
            if width = 0 || next + following.length + 2 < width then
              ", " ++ commaText width (next + 2) rest
            else ",\n" ++ commaText width 0 rest)

/-- Names with blanks between them. -/
def Request.layOut (request : Request) (entries : List Entry) : String :=
  let blocksWidth :=
    ((entries.map fun entry => (blocksText entry.attributes).length).max?).getD 0
  let ending := request.lineEnd.toString
  let labels := entries.map (request.label blocksWidth)
  match request.form with
  | .details =>
      String.join (entries.map fun entry =>
        request.detailRow entries blocksWidth entry ++ ending)
  | .rows =>
      String.join (entries.map fun entry =>
        request.label (if request.form = .rows then blocksWidth else 0) entry ++ ending)
  | .commas =>
      if entries.isEmpty then "" else commaText request.width 0 labels ++ "\n"
  | .columns | .across =>
      if entries.isEmpty then ""
      else if request.width = 0 then "  ".intercalate labels ++ "\n"
      else request.columnText labels

/-! ## Reading directories -/

/-- A path with a name added to it. -/
def joinPath (directory name : Bytes) : Bytes :=
  let trimmed := (directory.reverse.dropWhile (· = Files.slash)).reverse
  if trimmed.isEmpty && Files.isAbsolute directory then Files.slash :: name
  else trimmed ++ Files.slash :: name

/-- An entry by its name and path, unless it cannot be looked at. -/
def inspectEntry (request : Request) (name path : Bytes) : Action (Option Entry) := do
  let followed ← inspect path true
  let plain ← inspect path false
  let chosen := if request.followsAll then
      match followed, plain with
      | .ok attributes, _ => some attributes
      | .error _, .ok attributes => some attributes
      | _, _ => none
    else plain.toOption
  pure (chosen.map fun attributes => { name, attributes, followed := followed.toOption })

def inspectAll (request : Request) (directory : Bytes) : List Bytes → Action (List Entry)
  | [] => pure []
  | name :: rest => do
      let entry ← inspectEntry request name (joinPath directory name)
      let others ← inspectAll request directory rest
      pure (entry.toList ++ others)

/-- What has been done so far. -/
structure Progress where
  /-- No directory has been shown yet. -/
  first : Bool := true
  code : Nat := 0

/-- Shows one directory, and returns those below it. -/
def showDirectory (name : String) (request : Request) (titled : Bool) (isOperand : Bool)
    (path : Bytes) (progress : Progress) : Action (List Bytes × Progress) := do
  match ← list path with
  | .error errno => do
      warn name (failureText ("cannot open directory " ++ quoted (Text.bytewise path)) errno)
      pure ([], { progress with code := if isOperand then 2 else max progress.code 1 })
  | .ok names => do
      if titled then
        emit name 2 (Text.bytesOf ((if progress.first then "" else "\n")
          ++ request.spell path ++ ":\n"))
      let entries ← inspectAll request path (names.filter request.shows)
      let sorted := request.sort entries
      if request.form = .details || request.blocks then
        let total := sorted.foldl
          (fun sum entry => sum + blocksOf entry.attributes.content / 2) 0
        emit name 2 (Text.bytesOf ("total " ++ toString total ++ request.lineEnd.toString))
      emit name 2 (Text.bytesOf (request.layOut sorted))
      let below := if request.recursive
        then sorted.filter fun entry => isDirectory entry.attributes
          && entry.name ≠ Files.dot && entry.name ≠ Files.dotDot
        else []
      pure (below.map fun entry => joinPath path entry.name,
        { progress with first := progress.first && !titled })

/-- Shows directories and, if asked, all that is below them, depth first; `limit`
bounds their number. -/
def showAll (name : String) (request : Request) :
    Nat → Bool → List (Bytes × Bool) → Progress → Action Progress
  | 0, _, _, progress => pure progress
  | _, _, [], progress => pure progress
  | limit + 1, titled, (path, isOperand) :: rest, progress => do
      let (below, progress) ←
        showDirectory name request (titled || request.recursive) isOperand path progress
      showAll name request limit true (below.map (fun path => (path, false)) ++ rest) progress

/-- How many directories are shown at most. -/
def directoryLimit : Nat := 100000

/-- Sorts operands into those that are listed by name and directories.  The last
result says whether all of them exist. -/
def sortOperands (name : String) (request : Request) :
    List String → Action (List Entry × List Entry × Bool)
  | [] => pure ([], [], true)
  | operand :: rest => do
      let path := Text.bytesOf operand
      let followed ← inspect path true
      let plain ← inspect path false
      let followsDirectories := !request.directories && request.marking ≠ .classify
        && request.form ≠ .details
      let chosen : Except Errno Attributes := match followed, plain with
        | .ok attributes, _ =>
            if request.followsAll || request.followsOperands
                || followsDirectories && isDirectory attributes then .ok attributes
            else plain
        | .error errno, _ =>
            if request.followsAll || request.followsOperands then .error errno else plain
      let (files, directories, fine) ← match chosen with
        | .error errno => do
            warn name (failureText ("cannot access " ++ quoted operand) errno)
            pure ([], [], false)
        | .ok attributes =>
            let entry : Entry := { name := path, attributes, followed := followed.toOption }
            if isDirectory attributes && !request.directories then pure ([], [entry], true)
            else pure ([entry], [], true)
      let (otherFiles, otherDirectories, othersFine) ← sortOperands name request rest
      pure (files ++ otherFiles, directories ++ otherDirectories, fine && othersFine)

def run (name : String) (request : Request) (operands : List String) : Action Nat := do
  let chosen := if operands.isEmpty then ["."] else operands
  let (files, directories, fine) ← sortOperands name request chosen
  let files := request.sort files
  let directories := request.sort directories
  emit name 2 (Text.bytesOf (request.layOut files))
  if !files.isEmpty && !directories.isEmpty then emit name 2 [Text.newline]
  let titled := !files.isEmpty || operands.length > 1 || directories.length > 1
  let progress ← showAll name request directoryLimit titled
    (directories.map fun entry => (entry.name, true)) { code := if fine then 0 else 2 }
  pure progress.code

/-- The width of a line that a variable gives. -/
def widthFrom (environment : Environment) : Nat :=
  ((environment.get? "COLUMNS").bind fun value =>
    match countOf "" (Text.bytewise value) with
    | .ok width => some width
    | .error _ => none).getD 80

end Listing

def ls : Program :=
  fun argv environment =>
    let name := nameText argv
    let start : Listing.Request := { width := Listing.widthFrom environment }
    withOptions name 2 Listing.table start Listing.readOption (operandTexts argv)
      (fun request arguments => Listing.run name request arguments.operands) Behavior.exit

end JobShell.Programs
