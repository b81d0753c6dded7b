import JobShell.Programs.Echo

/-!
# Printing by a format

A format is used again until all arguments have been printed.  Arguments that are
missing are empty; numbers that cannot be read are complained about.
-/

namespace JobShell.Programs

open JobShell.Machine
open JobShell.Machine.Action

namespace Format

/-! ## Reading arguments -/

/-- Complains about what is left of a number. -/
def checkRest (progress : Progress) (argument : String) (rest : List Char) (outOfRange : Bool) :
    Progress :=
  if outOfRange then progress.fail (plainQuoted argument ++ ": Numerical result out of range")
  else if rest.isEmpty then progress
  else if rest.length = argument.length then
    progress.fail (plainQuoted argument ++ ": expected a numeric value")
  else progress.fail (plainQuoted argument ++ ": value not completely converted")

/-- The number of a character after a quote. -/
def quotedCharacter? (argument : String) : Option (Char × List Char) :=
  match argument.toList with
  | quote :: c :: rest => if quote = '"' || quote = '\'' then some (c, rest) else none
  | _ => none

def warnAfterCharacter (progress : Progress) (rest : List Char) : Progress :=
  if rest.isEmpty then progress
  else
    progress.warn ("warning: " ++ String.ofList rest
      ++ ": character(s) following character constant have been ignored")

def signedArgument (progress : Progress) (argument : String) : Int × Progress :=
  match quotedCharacter? argument with
  | some (c, rest) => (c.toNat, warnAfterCharacter progress rest)
  | none =>
      match Number.read? argument.toList with
      | none => (0, checkRest progress argument argument.toList false)
      | some reading =>
          let (value, outOfRange) := Number.clamp reading.value
          (value, checkRest progress argument reading.rest outOfRange)

def unsignedArgument (progress : Progress) (argument : String) : Nat × Progress :=
  match quotedCharacter? argument with
  | some (c, rest) => (c.toNat, warnAfterCharacter progress rest)
  | none =>
      match Number.read? argument.toList with
      | none => (0, checkRest progress argument argument.toList false)
      | some reading =>
          let (value, outOfRange) := reading.unsigned
          (value, checkRest progress argument reading.rest outOfRange)

def realArgument (progress : Progress) (argument : String) : Number.Real × Progress :=
  match quotedCharacter? argument with
  | some (c, rest) =>
      ({ negative := false, magnitude := .finite c.toNat 0 }, warnAfterCharacter progress rest)
  | none =>
      match Number.readReal? Number.extended argument.toList with
      | none =>
          ({ negative := false, magnitude := .finite 0 0 },
            checkRest progress argument argument.toList false)
      | some reading =>
          (reading.value, checkRest progress argument reading.rest reading.outOfRange)

/-! ## Escapes -/

/-- A Unicode character, which the plain locale only has if it is a basic one. -/
def unicodeText (letter : Char) (value : Nat) : List Char :=
  if value < 128 then [Char.ofNat value]
  else
    let digits := (Nat.toDigits 16 value).map Char.toUpper
    if value < 65536 then '\\' :: 'u' :: Number.filled 4 digits
    else
      let _ := letter
      '\\' :: 'U' :: Number.filled 8 digits

/-- Numbers that may not be written as universal characters. -/
def isForbidden (value : Nat) : Bool :=
  (value ≤ 0x9f && value ≠ 0x24 && value ≠ 0x40 && value ≠ 0x60)
    || (0xd800 ≤ value && value ≤ 0xdfff)

def missingHexadecimal : String :=
  "missing hexadecimal number in escape"

def unicodeEscape (progress : Progress) (letter : Char) (rest : List Char) :
    Progress × List Char :=
  let count := if letter = 'u' then 4 else 8
  let digits := (rest.take count).takeWhile (Number.isDigitOf 16)
  let value := Number.valueOf 16 digits
  if digits.length < count then (progress.stopWith missingHexadecimal, [])
  else if isForbidden value then
    let shown := String.ofList (Number.filled count (Nat.toDigits 16 value))
    (progress.stopWith ("invalid universal character name \\" ++ letter.toString ++ shown), [])
  else (progress.print (unicodeText letter value), rest.drop count)

/-- What follows a backslash. -/
def escape (zeroFirst : Bool) (progress : Progress) (text : List Char) : Progress × List Char :=
  match text with
  | [] => (progress.print ['\\'], [])
  | c :: rest =>
      if c = 'x' then
        if rest.head?.any (Number.isDigitOf 16) then
          let (char, rest) := digitsEscape 16 2 rest
          (progress.print [char], rest)
        else (progress.stopWith missingHexadecimal, [])
      else if Number.isDigitOf 8 c then
        let (char, rest) := digitsEscape 8 3 (if zeroFirst && c = '0' then rest else text)
        (progress.print [char], rest)
      else if c = 'c' then (progress.stop, [])
      else if c = 'u' || c = 'U' then unicodeEscape progress c rest
      else if c = '"' then (progress.print ['"'], rest)
      else
        match simpleEscape? c with
        | some char => (progress.print [char], rest)
        | none => (progress.print ['\\', c], rest)

/-- An argument with its escapes replaced; `limit` bounds the characters. -/
def printEscaped : Nat → Progress → List Char → Progress
  | 0, progress, _ => progress
  | _, progress, [] => progress
  | limit + 1, progress, '\\' :: rest =>
      let (progress, rest) := escape true progress rest
      if progress.ended then progress else printEscaped limit progress rest
  | limit + 1, progress, c :: rest => printEscaped limit (progress.print [c]) rest

/-! ## Directives -/

def isFormatFlag (c : Char) : Bool :=
  isFlag c || c = '\'' || c = 'I'

def isLengthLetter (c : Char) : Bool :=
  ['l', 'L', 'h', 'j', 't', 'z'].contains c

/-- Whether a letter goes with flags and a precision. -/
def Directive.isValid (directive : Directive) : Bool :=
  let flags := directive.flags
  match directive.letter with
  | none => false
  | some letter =>
      "aAcdeEfFgGiosuxX".toList.contains letter
        && !((flags.contains '\'' || flags.contains 'I') && "aAceEosxX".toList.contains letter)
        && !(flags.contains '#' && "cdisu".toList.contains letter)
        && !(flags.contains '0' && "cs".toList.contains letter)
        && !(directive.precision ≠ .absent && letter = 'c')

/-- The largest width or precision. -/
def sizeLimit : Int := 2147483647

/-- A size, which may take an argument. -/
def sizeOf (progress : Progress) (description : String) (lowest : Int) :
    Size → Option Int × Progress
  | .absent => (none, progress)
  | .given value => (some value, progress)
  | .argument =>
      match progress.next with
      | (none, progress) => (some 0, progress)
      | (some argument, progress) =>
          let (value, progress) := signedArgument progress argument
          if value > sizeLimit || value < lowest then
            (none, progress.stopWith (description ++ plainQuoted argument))
          else (some value, progress)

/-- Prints the next argument in the way of a directive. -/
def convert (progress : Progress) (directive : Directive) : Progress :=
  let (width, progress) := sizeOf progress "invalid field width: " (-sizeLimit - 1) directive.width
  let (precision, progress) :=
    if progress.ended then (none, progress)
    else sizeOf progress "invalid precision: " Number.smallest directive.precision
  if progress.ended then progress
  else if !directive.isValid then
    progress.stopWith (String.ofList directive.written ++ ": invalid conversion specification")
  else
    let layout := directive.layout width precision
    let letter := directive.letter.getD 's'
    let (argument, progress) := progress.next
    let argument := argument.getD ""
    match letter with
    | 's' => progress.print (layout.text argument.toList)
    | 'c' => progress.print (layout.pad [argument.toList.headD '\x00'])
    | 'd' | 'i' =>
        let (value, progress) := signedArgument progress argument
        progress.print (layout.integer value)
    | 'o' | 'u' | 'x' | 'X' =>
        let (value, progress) := unsignedArgument progress argument
        progress.print (layout.natural letter value)
    | _ =>
        let (value, progress) := realArgument progress argument
        progress.print (layout.real Number.extended letter value)

/-- One pass over a format; `limit` bounds the characters. -/
def once : Nat → Progress → List Char → Progress
  | 0, progress, _ => progress
  | _, progress, [] => progress
  | limit + 1, progress, text =>
      if progress.ended then progress
      else
        match text with
        | '%' :: '%' :: rest => once limit (progress.print ['%']) rest
        | '%' :: 'b' :: rest =>
            match progress.next with
            | (none, progress) => once limit progress rest
            | (some argument, progress) =>
                once limit (printEscaped (argument.length + 1) progress argument.toList) rest
        | '%' :: 'q' :: rest =>
            match progress.next with
            | (none, progress) => once limit progress rest
            | (some argument, progress) =>
                once limit (progress.print (quotedForShell argument).toList) rest
        | '%' :: rest =>
            let (directive, rest) := Directive.read isFormatFlag isLengthLetter rest
            once limit (convert progress directive) rest
        | '\\' :: rest =>
            let (progress, rest) := escape false progress rest
            once limit progress rest
        | c :: rest => once limit (progress.print [c]) rest
        | [] => progress

/-- Uses a format until all arguments have been printed, or one pass has taken none. -/
def run (format : String) : Nat → Progress → Progress
  | 0, progress => progress
  | limit + 1, progress =>
      let after := once (format.length + 1) progress format.toList
      if after.ended || after.arguments.isEmpty then after
      else if after.arguments.length = progress.arguments.length then
        after.warn ("warning: ignoring excess arguments, starting with "
          ++ plainQuoted (after.arguments.headD ""))
      else run format limit after

end Format

def printf : Program :=
  program fun name arguments =>
    match if arguments.head? = some "--" then arguments.tail else arguments with
    | [] => misused name "missing operand" 1
    | format :: arguments => do
        let progress := Format.run format (arguments.length + 1) { arguments }
        Format.perform (emit name 1) (warn name) (Format.joinSteps progress.steps.reverse)
        match progress.mistake with
        | some message => failWith name message 1
        | none => pure (if progress.failed then 1 else 0)

end JobShell.Programs
