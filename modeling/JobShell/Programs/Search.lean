import JobShell.Programs.Magnitude
import JobShell.Programs.Search.Scan
import JobShell.Programs.Search.Selection

/-!
# Searching files

`grep` looks for lines that match one of its patterns, in files and in directories
with all that is below them.
-/

namespace JobShell.Programs

namespace Search

open JobShell.Machine
open JobShell.Machine.Action

/-! ## Options -/

/-- How patterns are to be understood. -/
inductive Dialect where
  | basic
  | extended
  | fixed
  | scripted
  deriving DecidableEq, Repr, Inhabited

/-- What is done with directories. -/
inductive DirectoryRule where
  | reads
  | descends
  | skips
  deriving DecidableEq, Repr, Inhabited

/-- Where patterns come from. -/
inductive PatternSource where
  | text (text : String)
  | file (name : String)

structure Settings where
  dialect : Option Dialect := none
  patterns : List PatternSource := []
  scan : ScanRequest := { expression := .nothing }
  /-- Only names of files with selected lines, or of those without, are shown. -/
  listing : Option Bool := none
  counts : Bool := false
  parts : Bool := false
  quiet : Bool := false
  silent : Bool := false
  /-- Whether names of files are shown, if that has been asked for. -/
  named : Option Bool := none
  label : String := "(standard input)"
  context : Option Nat := none
  limit : Option Int := none
  directories : DirectoryRule := .reads
  followsLinks : Bool := false
  skipsDevices : Bool := false
  files : List NamePattern := []
  skippedDirectories : List NamePattern := []
  /-- Files with names of files that are left out. -/
  nameFiles : List String := []
  remarks : List String := []

def table : OptionTable where
  flags := "0123456789EFGHILPRTUZabchilnoqrsuvwxyz"
  valued := "ABCDXdefm"
  numbers := true
  long :=
    longFlags
      [("basic-regexp", "G"), ("extended-regexp", "E"), ("fixed-regexp", "F"),
       ("fixed-strings", "F"), ("perl-regexp", "P")]
    ++ longValues
      [("after-context", "A"), ("before-context", "B"), ("binary-files", "binary-files")]
    ++ longFlags [("binary", "U"), ("byte-offset", "b")]
    ++ longValues [("context", "C")]
    ++ [{ name := "color", key := "color", taking := .maybe },
        { name := "colour", key := "color", taking := .maybe }]
    ++ longFlags [("count", "c")]
    ++ longValues
      [("devices", "D"), ("directories", "d"), ("exclude", "exclude"),
       ("exclude-from", "exclude-from"), ("exclude-dir", "exclude-dir"), ("file", "f")]
    ++ longFlags [("files-with-matches", "l"), ("files-without-match", "L")]
    ++ longValues [("group-separator", "separator"), ("include", "include")]
    ++ longFlags [("ignore-case", "i"), ("no-ignore-case", "no-ignore-case"),
       ("initial-tab", "T")]
    ++ longValues [("label", "label")]
    ++ longFlags [("line-buffered", "line-buffered"), ("line-number", "n"),
       ("line-regexp", "x")]
    ++ longValues [("max-count", "m")]
    ++ longFlags
      [("no-filename", "h"), ("no-group-separator", "no-separator"), ("no-messages", "s"),
       ("null", "Z"), ("null-data", "z"), ("only-matching", "o"), ("quiet", "q"),
       ("recursive", "r"), ("dereference-recursive", "R")]
    ++ longValues [("regexp", "e")]
    ++ longFlags
      [("invert-match", "v"), ("silent", "q"), ("text", "a"), ("unix-byte-offsets", "u"),
       ("with-filename", "H"), ("word-regexp", "w")]

/-- A number with an optional sign. -/
def integer? (text : String) : Option Int :=
  match text.toList.dropWhile isBlankChar with
  | '-' :: digits => (Text.digitsValue? digits).map fun value => -Int.ofNat value
  | '+' :: digits => (Text.digitsValue? digits).map Int.ofNat
  | digits => (Text.digitsValue? digits).map Int.ofNat

def contextOf (text : String) : Except Refusal Nat :=
  match integer? text with
  | some (.ofNat count) => .ok count
  | _ => .error { message := text ++ ": invalid context length argument" }

/-- The dialect that a name stands for. -/
def dialectNamed? : String → Option Dialect
  | "grep" => some .basic
  | "egrep" | "awk" | "gawk" | "posixawk" => some .extended
  | "fgrep" => some .fixed
  | "perl" => some .scripted
  | _ => none

def Settings.choose (settings : Settings) (dialect : Dialect) : Except Refusal Settings :=
  if settings.dialect.any (· ≠ dialect) then
    .error { message := "conflicting matchers specified" }
  else .ok { settings with dialect := some dialect }

/-- Whether a word asks for colors; nothing that is written to is a terminal. -/
def asksForColor (text : String) : Bool :=
  ["always", "yes", "force"].contains (text.map Char.toLower)

def withoutTrailingSlashes (text : String) : String :=
  let kept := (text.toList.reverse.dropWhile (· = '/')).reverse
  if kept.isEmpty && text ≠ "" then "/" else String.ofList kept

/-- Reads an option with a value. -/
def readValue (settings : Settings) (key value : String) : Except Refusal Settings :=
  match key with
  | "A" => do
      let count ← contextOf value
      .ok { settings with scan.after := some count }
  | "B" => do
      let count ← contextOf value
      .ok { settings with scan.before := some count }
  | "C" | "number" => do
      let count ← contextOf value
      .ok { settings with context := some count }
  | "D" =>
      if value = "read" then .ok { settings with skipsDevices := false }
      else if value = "skip" then .ok { settings with skipsDevices := true }
      else .error { message := "unknown devices method" }
  | "X" =>
      match dialectNamed? value with
      | some dialect => settings.choose dialect
      | none => .error { message := "invalid matcher " ++ value }
  | "d" =>
      match chooseWord "--directories" value
        [("read", .reads), ("recurse", .descends), ("skip", .skips)] with
      | .ok rule => .ok { settings with directories := rule }
      | .error refusal => .error { refusal with code := some 1 }
  | "e" => .ok { settings with patterns := settings.patterns ++ [.text value] }
  | "f" => .ok { settings with patterns := settings.patterns ++ [.file value] }
  | "m" =>
      match integer? value with
      | some limit => .ok { settings with limit := some limit }
      | none => .error { message := "invalid max count" }
  | "binary-files" =>
      match value with
      | "binary" => .ok { settings with scan.binary := .summary }
      | "text" => .ok { settings with scan.binary := .asText }
      | "without-match" => .ok { settings with scan.binary := .skip }
      | _ => .error { message := "unknown binary-files type" }
  | "color" => .ok { settings with scan.colored := asksForColor value }
  | "include" => .ok { settings with files := settings.files ++ [⟨true, value⟩] }
  | "exclude" => .ok { settings with files := settings.files ++ [⟨false, value⟩] }
  | "exclude-from" => .ok { settings with nameFiles := settings.nameFiles ++ [value] }
  | "exclude-dir" =>
      .ok { settings with
        skippedDirectories :=
          settings.skippedDirectories ++ [⟨false, withoutTrailingSlashes value⟩] }
  | "separator" => .ok { settings with scan.separator := some value }
  | "label" => .ok { settings with label := value }
  | _ => .ok settings

/-- Reads an option without a value. -/
def readFlag (settings : Settings) (key : String) : Except Refusal Settings :=
  match key with
  | "E" => settings.choose .extended
  | "F" => settings.choose .fixed
  | "G" => settings.choose .basic
  | "P" => settings.choose .scripted
  | "H" => .ok { settings with named := some true }
  | "h" => .ok { settings with named := some false }
  | "I" => .ok { settings with scan.binary := .skip }
  | "a" => .ok { settings with scan.binary := .asText }
  | "L" => .ok { settings with listing := some false }
  | "l" => .ok { settings with listing := some true }
  | "R" => .ok { settings with directories := .descends, followsLinks := true }
  | "r" => .ok { settings with directories := .descends }
  | "T" => .ok { settings with scan.tabs := true }
  | "Z" => .ok { settings with scan.zeroAfterName := true }
  | "b" => .ok { settings with scan.offsets := true }
  | "c" => .ok { settings with counts := true }
  | "i" | "y" => .ok { settings with scan.folds := true }
  | "no-ignore-case" => .ok { settings with scan.folds := false }
  | "n" => .ok { settings with scan.numbered := true }
  | "o" => .ok { settings with parts := true }
  | "q" => .ok { settings with quiet := true }
  | "s" => .ok { settings with silent := true }
  | "u" =>
      .ok { settings with
        remarks := settings.remarks
          ++ ["warning: --unix-byte-offsets (-u) is obsolete"] }
  | "v" => .ok { settings with scan.inverted := true }
  | "w" => .ok { settings with scan.wholeWord := true }
  | "x" => .ok { settings with scan.wholeLine := true }
  | "z" => .ok { settings with scan.lineEnd := 0 }
  | "no-separator" => .ok { settings with scan.separator := none }
  | _ => .ok settings

def readOption (settings : Settings) (option : String × String) : Except Refusal Settings :=
  if ["A", "B", "C", "D", "X", "d", "e", "f", "m", "number", "binary-files", "color", "include",
      "exclude", "exclude-from", "exclude-dir", "separator", "label"].contains option.1 then
    readValue settings option.1 option.2
  else readFlag settings option.1

/-! ## Patterns -/

/-- A pattern with where it comes from, if that is a line of a file. -/
structure WrittenPattern where
  text : List Char
  origin : Option String := none

/-- The lines of text in which every line but the last has an end. -/
def linesOf (text : String) : List (List Char) :=
  let (lines, current) := text.toList.foldr
    (fun c (lines, current) => if c = '\n' then (current :: lines, []) else (lines, c :: current))
    (([] : List (List Char)), [])
  current :: lines

def readPatternFile (name file : String) : Action (List WrittenPattern) := do
  match ← readOperand file with
  | .error errno => do
      warn name (failureText file errno)
      Action.exit 2
  | .ok bytes =>
      let texts := (lines bytes).map fun line => (Text.bytewise line).toList
      pure (texts.zipIdx.map fun (text, index) =>
        { text, origin := some (file ++ ":" ++ toString (index + 1)) })

def gatherPatterns (name : String) : List PatternSource → Action (List WrittenPattern)
  | [] => pure []
  | .text text :: rest => do
      let others ← gatherPatterns name rest
      pure ((linesOf text).map (fun line => { text := line }) ++ others)
  | .file file :: rest => do
      let found ← readPatternFile name file
      let others ← gatherPatterns name rest
      pure (found ++ others)

/-- What matches one of several expressions, or nothing if there are none. -/
def anyOf : List Expression → Expression
  | [] => .one fun _ => false
  | [expression] => expression
  | expression :: rest => .either expression (anyOf rest)

/-- Reads all patterns.  What is wrong with any of them is told. -/
def compile (name : String) (settings : Settings) (patterns : List WrittenPattern) :
    Action Expression := do
  let folds := settings.scan.folds
  if settings.dialect = some .fixed then
    pure (anyOf (patterns.map fun pattern => literalExpression folds pattern.text))
  else
    let extended := settings.dialect = some .extended || settings.dialect = some .scripted
    let found := patterns.map fun pattern => (pattern, readPattern { extended, folds } pattern.text)
    let faults := found.filterMap fun (pattern, result) =>
      match result with
      | .error fault => some (fault, pattern.origin)
      | .ok _ => none
    match faults.filter fun fault => fault.1 ≠ .bareClass, faults with
    | [], [] => do
        let results := found.filterMap fun (_, result) => result.toOption
        for warning in results.flatMap Prod.snd do
          warn name ("warning: " ++ warning)
        pure (anyOf (results.map Prod.fst))
    | [], _ => do
        warn name PatternFault.bareClass.message
        Action.exit 2
    | serious, _ => do
        for (fault, origin) in serious do
          warn name (((origin.map (· ++ ": ")).getD "") ++ fault.message)
        Action.exit 2

/-! ## Files -/

/-- What has come of the files so far. -/
structure Progress where
  selected : Bool := false
  failed : Bool := false
  used : Bool := false
  /-- Whether names are shown, if that is known. -/
  named : Option Bool

/-- Complains about a file unless that is not wanted. -/
def Settings.report (settings : Settings) (name file : String) (message : String) :
    Action Unit :=
  if settings.silent then pure () else warn name (file ++ ": " ++ message)

def isDevice (attributes : Attributes) : Bool :=
  match attributes.content with
  | .device _ => true
  | _ => false

def isFolder (attributes : Attributes) : Bool :=
  match attributes.content with
  | .directory _ _ _ => true
  | _ => false

/-- Whether a descriptor leads to the regular file that is written to. -/
def isOutput (attributes : Attributes) : Action Bool := do
  match attributes.content, ← inspectOpen output with
  | .file _, .ok written => pure (attributes.inode = written.inode)
  | _, _ => pure false

/-- Leaves the standard input where those that read on expect it: behind the last line
that was selected, if no more were wanted, or at the end. -/
def leaveInput (settings : Settings) (start : Nat) (scan : Scan) (ended : Bool) :
    Action Unit := do
  if settings.scan.limit.any (· ≤ scan.selected) then
    let _ ← seek input .start (start + scan.afterLast)
  else if !ended then
    match ← seek input .stop 0 with
    | .ok _ => pure ()
    | .error _ =>
        let _ ← readAll input

/-- Scans an open file and shows what is wanted of it. -/
def scanFile (name : String) (settings : Settings) (file : String) (source : Descriptor)
    (progress : Progress) : Action Progress := do
  let request := settings.scan
  let label := if progress.named = some true then some file else none
  let start := (← seek source .here 0).toOption.getD 0
  let scanned ← scanFrom request label source (emit name 2) readLimit
    { used := progress.used, gap := true } []
  let (scan, ended) ← match scanned with
    | .ok result => pure result
    | .error errno => do
        settings.report name file errno.systemText
        pure ({ used := progress.used }, true)
  let failed := progress.failed || (match scanned with | .error _ => true | .ok _ => false)
  if settings.quiet && scan.selected > 0 then Action.exit 0
  if (request.shown = .lines || request.shown = .parts) && scan.binary
      && scan.selected > scan.selectedAsText then
    warn name (file ++ ": binary file matches")
  let isSelected := scan.selected > 0
  match request.shown with
  | .count =>
      let mark := if request.zeroAfterName then "\x00" else request.paint "36" ":"
      let head := if label.isSome then request.paint "35" file ++ mark else ""
      emit name 2 (Text.bytesOf (head ++ toString scan.selected ++ "\n"))
  | .nameIf wanted =>
      if isSelected = wanted then
        emit name 2
          (Text.bytesOf (request.paint "35" file ++ if request.zeroAfterName then "\x00" else "\n"))
  | _ => pure ()
  if source = input && settings.listing.isNone then leaveInput settings start scan ended
  pure { progress with selected := progress.selected || isSelected, failed, used := scan.used }

def joinPath (directory name : String) : String :=
  if directory.toList.getLast? = some '/' then directory ++ name
  else directory ++ "/" ++ name

/-- The name under which a file below the working directory is shown where no operand
was given. -/
def withoutDot (implied : Bool) (path : String) : String :=
  if implied && path.startsWith "./" then String.ofList (path.toList.drop 2) else path

/-- Searches a file by its path. -/
def searchPath (name : String) (settings : Settings) (shown path : String)
    (progress : Progress) : Action Progress := do
  match ← openPath (Text.bytesOf path) { reads := true } 0 with
  | .error errno => do
      settings.report name shown errno.systemText
      pure { progress with failed := true }
  | .ok source => do
      let progress ← scanFile name settings shown source progress
      close source
      pure progress

/-- Searches one entry of a directory; `deeper` is what is done with a directory that
has not been entered on the way to it. -/
def searchEntry (name : String) (settings : Settings) (implied : Bool)
    (deeper : String → List Inode → Progress → Action Progress) (directory : String)
    (ancestors : List Inode) (progress : Progress) (entry : Bytes) : Action Progress := do
  let entryName := Text.bytewise entry
  let path := joinPath directory entryName
  let shown := withoutDot implied path
  match ← inspect (Text.bytesOf path) settings.followsLinks with
  | .error errno => do
      if leavesOut settings.files true entryName then pure progress
      else
        settings.report name shown errno.systemText
        pure { progress with failed := true }
  | .ok attributes =>
      match attributes.content with
      | .directory _ _ _ =>
          if leavesOut settings.skippedDirectories true entryName then pure progress
          else if ancestors.contains attributes.inode then do
            settings.report name shown "warning: recursive directory loop"
            pure progress
          else deeper path (attributes.inode :: ancestors) progress
      | .link _ => pure progress
      | .device _ => pure progress
      | _ =>
          if leavesOut settings.files true entryName then pure progress
          else searchPath name settings shown path progress

/-- Searches all that is below a directory.  `ancestors` are the directories on the way,
with this one; `limit` bounds the depth. -/
def searchBelow (name : String) (settings : Settings) (implied : Bool) :
    Nat → String → List Inode → Progress → Action Progress
  | 0, _, _, progress => pure progress
  | limit + 1, directory, ancestors, progress => do
      match ← list (Text.bytesOf directory) with
      | .error errno => do
          settings.report name (withoutDot implied directory) errno.systemText
          pure { progress with failed := true }
      | .ok entries =>
          let below := entries.filter fun entry => entry ≠ Files.dot && entry ≠ Files.dotDot
          below.foldlM
            (searchEntry name settings implied
              (fun path ancestors progress =>
                searchBelow name settings implied limit path ancestors progress)
              directory ancestors)
            progress

def depthLimit : Nat := 4096

/-- Searches what an operand leads to, which has been opened unless it is the standard
input. -/
def searchOpen (name : String) (settings : Settings) (implied : Bool) (operand shown : String)
    (source : Descriptor) (progress : Progress) : Action Progress := do
  let attributes := (← inspectOpen source).toOption
  let folder := attributes.any isFolder
  let isInput := source = input
  let leftOut :=
    if folder then
      settings.directories = .skips
        || (!implied && leavesOut settings.skippedDirectories false operand)
    else leavesOut settings.files false operand
  if !isInput && ((settings.skipsDevices && attributes.any isDevice) || leftOut) then
    pure progress
  else
    let progress := { progress with named := some (progress.named.getD folder) }
    if !isInput && settings.directories = .descends && folder then
      searchBelow name settings implied depthLimit operand
        (attributes.toList.map Attributes.inode) progress
    else
      let shows := settings.scan.shown = .lines || settings.scan.shown = .parts
      let several := settings.limit.all fun limit => limit > 1 || limit < 0
      let own ← match attributes with
        | some attributes => isOutput attributes
        | none => pure false
      if shows && several && own then
        settings.report name shown "input file is also the output"
        pure { progress with failed := true }
      else scanFile name settings shown source progress

def searchOperand (name : String) (settings : Settings) (implied : Bool) (progress : Progress)
    (operand : String) : Action Progress := do
  if operand = "-" then
    searchOpen name settings implied operand settings.label input progress
  else
    match ← openPath (Text.bytesOf operand) { reads := true } 0 with
    | .error errno => do
        settings.report name operand errno.systemText
        pure { progress with failed := true }
    | .ok source => do
        let progress ← searchOpen name settings implied operand operand source progress
        close source
        pure progress

/-! ## The program -/

/-- What is shown of a file, when no more than the exit code may be needed. -/
def Settings.shown (settings : Settings) (unheard : Bool) : Shown :=
  if settings.quiet || unheard then .nothing
  else
    match settings.listing with
    | some selected => .nameIf selected
    | none => if settings.counts then .count else if settings.parts then .parts else .lines

/-- Whether what is written is lost. -/
def isUnheard : Action Bool := do
  match ← inspectOpen output with
  | .ok { content := .device .null, .. } => pure true
  | _ => pure false

def readNamePatterns (name file : String) : Action (List NamePattern) := do
  match ← readOperand file with
  | .error errno => do
      warn name (failureText file errno)
      Action.exit 2
  | .ok bytes =>
      let texts := (lines bytes).map fun line =>
        ((Text.bytewise line).toList.reverse.dropWhile isSpacing).reverse
      pure ((texts.filter (!·.isEmpty)).map fun text => ⟨false, String.ofList text⟩)

def search (name : String) (settings : Settings) (patterns : List WrittenPattern)
    (operands : List String) : Action Nat := do
  let nameFiles ← settings.nameFiles.mapM (readNamePatterns name)
  let unheard ← isUnheard
  let scan := settings.scan
  let nothingMatches := (patterns.isEmpty && !scan.inverted)
    || (patterns.map WrittenPattern.text = [[]] && scan.inverted && !scan.wholeLine
      && !scan.wholeWord)
  if settings.listing ≠ some false && (settings.limit = some 0 || nothingMatches) then
    pure 1
  else
    let expression ← compile name settings patterns
    let limit := match settings.limit with
      | some (.ofNat limit) => some limit
      | _ => none
    let request : ScanRequest :=
      { scan with
        expression, limit
        wholeLine := scan.wholeLine && !patterns.isEmpty
        wholeWord := scan.wholeWord && !patterns.isEmpty
        shown := settings.shown unheard
        before := scan.before <|> settings.context
        after := scan.after <|> settings.context }
    let settings :=
      { settings with scan := request, files := settings.files ++ nameFiles.flatten
                      listing := if settings.quiet || unheard then none else settings.listing }
    let descends := settings.directories = .descends
    let implied := descends && operands.isEmpty
    let named := match settings.named with
      | some named => some named
      | none => if operands.length ≤ 1 then if descends then none else some false else some true
    let targets := if implied then ["."] else sources operands
    let progress ← targets.foldlM (searchOperand name settings implied) { named }
    pure (if progress.failed then 2 else if progress.selected then 0 else 1)

/-- Where to find help on a program of the given name. -/
def usageText (program : String) : String :=
  "Usage: " ++ program ++ " [OPTION]... PATTERNS [FILE]...
Try '" ++ program
    ++ " --help' for more information.
"

/-- The last name of a path. -/
def lastName (path : String) : String :=
  String.ofList (path.toList.reverse.takeWhile (· ≠ '/')).reverse

/-- Takes the pattern from the operands, if no option has given one.  A dash can be
escaped so that it does not begin an option. -/
def takePattern (settings : Settings) (operands : List String) :
    Option (List PatternSource × List String) :=
  if !settings.patterns.isEmpty then some (settings.patterns, operands)
  else
    match operands with
    | [] => none
    | pattern :: rest =>
        match settings.dialect, pattern.toList with
        | some .fixed, _ => some ([.text pattern], rest)
        | _, '\\' :: '-' :: tail => some ([.text (String.ofList ('-' :: tail))], rest)
        | _, _ => some ([.text pattern], rest)

end Search

open JobShell.Machine
open JobShell.Machine.Action

def grep : Program :=
  program fun name arguments => do
    let usage := Search.usageText (Search.lastName name)
    match readOptions Search.table {} Search.readOption arguments with
    | .error refusal => do
        warn name refusal.message
        if refusal.aboutUse then print errors usage
        pure (refusal.code.getD 2)
    | .ok (settings, arguments) => do
        for remark in settings.remarks do
          warn name remark
        match Search.takePattern settings arguments.operands with
        | none => do
            print errors usage
            pure 2
        | some (patterns, operands) => do
            let patterns ← Search.gatherPatterns name patterns
            Search.search name settings patterns operands

end JobShell.Programs
