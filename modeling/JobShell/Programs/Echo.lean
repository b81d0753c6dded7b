import JobShell.Programs.Format.Directive

/-!
# Programs that print their arguments
-/

namespace JobShell.Programs

open JobShell.Machine
open JobShell.Machine.Action

/-! ## Escapes -/

def simpleEscape? : Char → Option Char
  | 'a' => some '\x07'
  | 'b' => some '\x08'
  | 'e' => some '\x1b'
  | 'f' => some '\x0c'
  | 'n' => some '\n'
  | 'r' => some '\r'
  | 't' => some '\t'
  | 'v' => some '\x0b'
  | '\\' => some '\\'
  | _ => none

/-- Up to the given number of digits as a character, and what follows them. -/
def digitsEscape (base count : Nat) (text : List Char) : Char × List Char :=
  let digits := (text.take count).takeWhile (Number.isDigitOf base)
  (Char.ofNat (Number.valueOf base digits % 256), text.drop digits.length)

/-! ## echo -/

def isEchoOption (argument : String) : Bool :=
  match argument.toList with
  | '-' :: letter :: letters => (letter :: letters).all fun c => ['n', 'e', 'E'].contains c
  | _ => false

/-- Text with escapes replaced, and whether an escape has ended it; `limit` bounds the
characters. -/
def unescapeEcho : Nat → List Char → List Char × Bool
  | 0, _ => ([], false)
  | _, [] => ([], false)
  | limit + 1, '\\' :: c :: rest =>
      let follow (char : Char) (rest : List Char) : List Char × Bool :=
        let (others, ended) := unescapeEcho limit rest
        (char :: others, ended)
      if c = 'c' then ([], true)
      else if c = '0' then
        let (char, rest) := digitsEscape 8 3 rest
        follow char rest
      else if Number.isDigitOf 8 c then
        let (char, rest) := digitsEscape 8 3 (c :: rest)
        follow char rest
      else if c = 'x' && rest.head?.any (Number.isDigitOf 16) then
        let (char, rest) := digitsEscape 16 2 rest
        follow char rest
      else
        match simpleEscape? c with
        | some char => follow char rest
        | none => follow '\\' (c :: rest)
  | limit + 1, c :: rest =>
      let (others, ended) := unescapeEcho limit rest
      (c :: others, ended)

def echo : Program :=
  program fun name arguments =>
    let options := (arguments.takeWhile isEchoOption).flatMap fun option => option.toList.drop 1
    let text := " ".intercalate (arguments.dropWhile isEchoOption)
    let ending := if options.contains 'n' then "" else "\n"
    let shown :=
      if options.reverse.find? (· ≠ 'n') = some 'e' then
        match unescapeEcho (text.length + 1) text.toList with
        | (chars, true) => String.ofList chars
        | (chars, false) => String.ofList chars ++ ending
      else text ++ ending
    deliver name 1 (Text.bytesOf shown) 0

/-! ## yes -/

/-- How often `yes` writes at most. -/
def yesLimit : Nat := 1000000

def repeatWrite (name : String) (bytes : Bytes) : Nat → Action Nat
  | 0 => pure 1
  | limit + 1 => do
      match ← writeAll output bytes with
      | .ok () => repeatWrite name bytes limit
      | .error errno => failWith name (failureText "standard output" errno) 1

def yes : Program :=
  program fun name arguments =>
    withArguments name 1 {} arguments fun arguments =>
      let words := arguments.operands
      let text := if words.isEmpty then "y" else " ".intercalate words
      let line := Text.bytesOf text ++ [Text.newline]
      repeatWrite name (List.replicate (8192 / line.length + 1) line).flatten yesLimit

/-! ## printenv -/

def printenvTable : OptionTable where
  flags := "0"
  long := longFlags [("null", "0")]
  leading := true

/-- All variables, or the values of those that are named. -/
def printenvAction (name : String) (environment : Environment) (arguments : Arguments) :
    Action Nat :=
  let ending : Bytes := if arguments.has "0" then [0] else [Text.newline]
  if arguments.operands.isEmpty then
    deliver name 2 (environment.entries.flatMap fun entry =>
      Text.encode (entry.1 ++ "=") ++ entry.2 ++ ending) 0
  else
    let nameOf (operand : String) : Option String :=
      if operand.toList.contains '=' then none else Text.decode? (Text.bytesOf operand)
    let values := arguments.operands.map fun operand =>
      (nameOf operand).bind environment.get?
    deliver name 2 (values.flatMap fun value => (value.map (· ++ ending)).getD [])
      (if values.all Option.isSome then 0 else 1)

def printenv : Program :=
  fun argv environment =>
    withArguments (nameText argv) 2 printenvTable (operandTexts argv)
      (printenvAction (nameText argv) environment) Behavior.exit

end JobShell.Programs
