import JobShell.Programs.Magnitude

/-!
# Directories and attributes

`pwd`, `rmdir` and `stat`, and how attributes are shown.
-/

namespace JobShell.Programs

open JobShell.Machine
open JobShell.Machine.Action

/-! ## pwd -/

/-- Whether a path is absolute and goes neither through `.` nor through `..`. -/
def isStraight (path : Bytes) : Bool :=
  Files.isAbsolute path
    && (Files.names path).all fun name => name ≠ Files.dot && name ≠ Files.dotDot

/-- The variable that names the working directory, if it does so on a straight way. -/
def logicalDirectory (environment : Environment) : Action (Option Bytes) := do
  match environment.get? "PWD" with
  | none => pure none
  | some path =>
      if !isStraight path then pure none
      else
        match ← inspect path true, ← inspect Files.dot true with
        | .ok named, .ok current =>
            pure (if named.inode = current.inode then some path else none)
        | _, _ => pure none

def pwdAction (name : String) (environment : Environment) (arguments : Arguments) :
    Action Nat := do
  if !arguments.operands.isEmpty then warn name "ignoring non-option arguments"
  let logical ← if arguments.last? ["L", "P"] = some "L" then logicalDirectory environment
    else pure none
  match logical, ← workingDirectory with
  | some path, _ => deliver name 1 (path ++ [Text.newline]) 0
  | none, .ok directory => deliver name 1 (directory ++ [Text.newline]) 0
  | none, .error _ =>
      failWith name "couldn't find directory entry in '..' with matching i-node" 1

def pwdTable : OptionTable where
  flags := "LP"
  long := longFlags [("logical", "L"), ("physical", "P")]

def pwd : Program :=
  fun argv environment =>
    withArguments (nameText argv) 1 pwdTable (operandTexts argv)
      (pwdAction (nameText argv) environment) Behavior.exit

/-! ## rmdir -/

def rmdirTable : OptionTable where
  flags := "pv"
  long := longFlags
    [("parents", "p"), ("path", "p"), ("verbose", "v"), ("ignore-fail-on-non-empty", "ignore")]

/-- The directories above a path, from the innermost on. -/
def parentPaths (path : List Char) : Nat → List (List Char)
  | 0 => []
  | limit + 1 =>
      let trimmed := (path.reverse.dropWhile (· = '/')).reverse
      let above := (trimmed.reverse.dropWhile (· ≠ '/')).reverse
      let parent := (above.reverse.dropWhile (· = '/')).reverse
      if above.isEmpty then []
      else if parent.isEmpty then [['/']]
      else parent :: parentPaths parent limit

/-- Removes one directory.  The first result says whether the next one is tried. -/
def removeOne (name : String) (arguments : Arguments) (attempt path : String) :
    Action (Bool × Bool) := do
  if arguments.has "v" then
    emit name 1 (Text.bytesOf (name ++ ": removing directory, " ++ quoted path ++ "\n"))
  match ← removeDirectory (Text.bytesOf path) with
  | .ok () => pure (true, true)
  | .error errno =>
      if arguments.has "ignore" && errno = .notEmpty then pure (false, true)
      else do
        let directory ← inspect (Text.bytesOf path) true
        let endsInSlash := path.toList.getLast? = some '/'
        let isDirectory := match directory with
          | .ok { content := .directory _ _ _, .. } => true
          | _ => false
        if errno = .notDirectory && endsInSlash && isDirectory then
          warn name (attempt ++ " " ++ quoted path ++ ": Symbolic link not followed")
        else warn name (failureText (attempt ++ " " ++ quoted path) errno)
        pure (false, false)

def removeUp (name : String) (arguments : Arguments) : List (List Char) → Action Bool
  | [] => pure true
  | path :: rest => do
      let (goesOn, fine) ←
        removeOne name arguments "failed to remove directory" (String.ofList path)
      if goesOn then removeUp name arguments rest else pure fine

def removeAll (name : String) (arguments : Arguments) : List String → Nat → Action Nat
  | [], code => pure code
  | operand :: rest, code => do
      let (removed, fine) ← removeOne name arguments "failed to remove" operand
      let fine ←
        if removed && arguments.has "p" then
          removeUp name arguments (parentPaths operand.toList operand.length)
        else pure fine
      removeAll name arguments rest (if fine then code else 1)

def rmdir : Program :=
  program fun name arguments =>
    withArguments name 1 rmdirTable arguments fun arguments =>
      if arguments.operands.isEmpty then misused name "missing operand" 1
      else removeAll name arguments arguments.operands 0

/-! ## Attributes -/

def sizeOf : Content → Nat
  | .file bytes => bytes.length
  | .directory _ _ _ => 4096
  | .link target => target.length
  | .program _ | .device _ => 0

def kindLetter : Content → Char
  | .directory _ _ _ => 'd'
  | .link _ => 'l'
  | .device _ => 'c'
  | .file _ | .program _ => '-'

/-- The kind as the highest bits of a mode. -/
def kindBits : Content → Nat
  | .directory _ _ _ => 0x4000
  | .link _ => 0xA000
  | .device _ => 0x2000
  | .file _ | .program _ => 0x8000

def kindName : Content → String
  | .directory _ _ _ => "directory"
  | .link _ => "symbolic link"
  | .device _ => "character special file"
  | .file [] => "regular empty file"
  | .file _ | .program _ => "regular file"

def permissionTriple (bits : Nat) : List Char :=
  [if bits &&& 4 = 0 then '-' else 'r', if bits &&& 2 = 0 then '-' else 'w',
    if bits &&& 1 = 0 then '-' else 'x']

/-- Kind and permissions as a listing shows them. -/
def modeText (attributes : Attributes) : String :=
  String.ofList (kindLetter attributes.content ::
    (permissionTriple (attributes.permissions / 64) ++ permissionTriple (attributes.permissions / 8)
      ++ permissionTriple attributes.permissions))

/-- Blocks of 512 bytes that a file occupies. -/
def blocksOf : Content → Nat
  | .file bytes => (bytes.length + 4095) / 4096 * 8
  | .directory _ _ _ => 8
  | _ => 0

/-! ## stat -/

def linkTarget (attributes : Attributes) : Option Bytes :=
  match attributes.content with
  | .link target => some target
  | _ => none

/-- Padding of a field. -/
structure FieldStyle where
  left : Bool
  zeros : Bool
  alternate : Bool
  width : Nat
  precision : Option Nat

def FieldStyle.pad (style : FieldStyle) (text : String) : String :=
  if style.left then padRight style.width text else padLeft style.width text

def FieldStyle.text (style : FieldStyle) (text : String) : String :=
  style.pad (match style.precision with
    | some count => String.ofList (text.toList.take count)
    | none => text)

def FieldStyle.digits (style : FieldStyle) (mark digits : String) : String :=
  let least := style.precision.getD 1
  let filled := String.ofList (List.replicate (least - digits.length) '0') ++ digits
  let mark := if style.alternate then mark else ""
  if style.zeros && !style.left && style.precision.isNone then
    mark ++ String.ofList (List.replicate (style.width - filled.length - mark.length) '0') ++ filled
  else style.pad (mark ++ filled)

/-- One field of a format by its letter. -/
def statField (style : FieldStyle) (operand : String) (attributes : Attributes) :
    Char → String
  | 'a' => style.digits "0" (octal attributes.permissions)
  | 'A' => style.text (modeText attributes)
  | 'b' => style.digits "" (toString (blocksOf attributes.content))
  | 'B' => style.digits "" "512"
  | 'f' =>
      style.digits "0x"
        (String.ofList (Nat.toDigits 16 (kindBits attributes.content + attributes.permissions)))
  | 'F' => style.text (kindName attributes.content)
  | 'g' | 'u' => style.digits "" "0"
  | 'G' | 'U' => style.text "root"
  | 'h' => style.digits "" (toString attributes.links)
  | 'n' => style.text operand
  | 'N' =>
      style.text (quoted operand ++
        ((linkTarget attributes).elim "" fun target => " -> " ++ quoted (Text.bytewise target)))
  | 'o' => style.digits "" "4096"
  | 's' => style.digits "" (toString (sizeOf attributes.content))
  | _ => "?"

/-- Reads the style of a field; the letter follows. -/
def readFieldStyle (text : List Char) : FieldStyle × List Char :=
  let flags := text.takeWhile fun c => ['\'', '-', '+', ' ', '#', '0'].contains c
  let rest := text.drop flags.length
  let width := rest.takeWhile Char.isDigit
  let rest := rest.drop width.length
  let (precision, rest) : Option (List Char) × List Char := match rest with
    | '.' :: rest =>
        let digits := rest.takeWhile Char.isDigit
        (some digits, rest.drop digits.length)
    | rest => (none, rest)
  ({ left := flags.contains '-', zeros := flags.contains '0', alternate := flags.contains '#'
     width := (Text.digitsValue? width).getD 0
     precision := precision.map fun digits => (Text.digitsValue? digits).getD 0 }, rest)

/-- A piece of a format. -/
inductive FormatPiece where
  | plain (c : Char)
  | field (style : FieldStyle) (letter : Char)

/-- The pieces of a format, or a directive that means nothing; `limit` bounds them. -/
def formatPieces : Nat → List Char → Except String (List FormatPiece)
  | 0, _ => .ok []
  | _, [] => .ok []
  | limit + 1, '%' :: rest =>
      let (style, after) := readFieldStyle rest
      let directive := '%' :: rest.take (rest.length - after.length)
      match after with
      | [] =>
          if directive.length > 1 then .error (String.ofList directive) else .ok [.plain '%']
      | '%' :: after =>
          if directive.length > 1 then .error (String.ofList (directive ++ ['%']))
          else (formatPieces limit after).map (.plain '%' :: ·)
      | letter :: after => (formatPieces limit after).map (.field style letter :: ·)
  | limit + 1, c :: rest => (formatPieces limit rest).map (.plain c :: ·)

def statText (operand : String) (attributes : Attributes) (pieces : List FormatPiece) : String :=
  String.join (pieces.map fun piece =>
    match piece with
    | .plain c => c.toString
    | .field style letter => statField style operand attributes letter)

def octalValue (digits : List Char) : Nat :=
  digits.foldl (fun value c => value * 8 + (c.toNat - '0'.toNat)) 0

/-- Replaces the escapes of a format. -/
def unescapeFormat : Nat → List Char → List Char
  | 0, _ => []
  | _, [] => []
  | limit + 1, '\\' :: c :: rest =>
      let digits := ((c :: rest).takeWhile fun c => '0' ≤ c && c ≤ '7').take 3
      if digits.isEmpty then
        let simple := [('a', '\x07'), ('b', '\x08'), ('e', '\x1b'), ('f', '\x0c'), ('n', '\n'),
          ('r', '\r'), ('t', '\t'), ('v', '\x0b'), ('\\', '\\'), ('"', '"')].lookup c
        (match simple with
          | some char => [char]
          | none => ['\\', c]) ++ unescapeFormat limit rest
      else
        Char.ofNat (octalValue digits % 256)
          :: unescapeFormat limit ((c :: rest).drop digits.length)
  | limit + 1, c :: rest => c :: unescapeFormat limit rest

def statAll (name : String) (format : List FormatPiece) (ending : String) (follows : Bool) :
    List String → Nat → Action Nat
  | [], code => pure code
  | operand :: rest, code => do
      let found ← if operand = "-" then inspectOpen input
        else inspect (Text.bytesOf operand) follows
      match found with
      | .ok attributes => do
          emit name 1 (Text.bytesOf (statText operand attributes format ++ ending))
          statAll name format ending follows rest code
      | .error errno => do
          warn name (failureText ("cannot statx " ++ quoted operand) errno)
          statAll name format ending follows rest 1

def statTable : OptionTable where
  flags := "fLt"
  valued := "c"
  long := longFlags [("dereference", "L"), ("file-system", "f"), ("terse", "t")]
    ++ longValues [("format", "c"), ("printf", "printf"), ("cached", "cached")]

/-- The format where none is given. -/
def usualFormat : String := "%n %s %a %F"

def stat : Program :=
  program fun name arguments =>
    withArguments name 1 statTable arguments fun arguments =>
      if arguments.operands.isEmpty then misused name "missing operand" 1
      else
        let isExact := arguments.last? ["c", "printf"] = some "printf"
        let written := if isExact then (arguments.value? "printf").getD ""
          else (arguments.value? "c").getD usualFormat
        let text := if isExact then unescapeFormat written.length written.toList
          else written.toList
        match formatPieces (text.length + 1) text with
        | .error directive => failWith name (plainQuoted directive ++ ": invalid directive") 1
        | .ok pieces =>
            statAll name pieces (if isExact then "" else "\n") (arguments.has "L")
              arguments.operands 0

end JobShell.Programs
