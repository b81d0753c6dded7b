import JobShell.Text.Bytewise

/-!
# Names in messages

A name is shown so that it is clear where it begins and ends.  In shell quotes it can
be typed as it is shown: bytes that cannot be printed stand in quotes of their own.
In plain quotes everything odd is shown by an escape.
-/

namespace JobShell.Programs

def isPrintable (c : Char) : Bool :=
  ' ' ≤ c && c ≤ '~'

/-- The letter that stands for a character after a backslash. -/
def escapeLetter? : Char → Option Char
  | '\x07' => some 'a'
  | '\x08' => some 'b'
  | '\x0c' => some 'f'
  | '\n' => some 'n'
  | '\r' => some 'r'
  | '\t' => some 't'
  | '\x0b' => some 'v'
  | _ => none

/-- Three octal digits. -/
def octalTriple (c : Char) : List Char :=
  let digit (value : Nat) : Char := Char.ofNat ('0'.toNat + value % 8)
  [digit (c.toNat / 64), digit (c.toNat / 8), digit c.toNat]

/-- A character by a backslash, if it cannot be printed. -/
def escaped? (c : Char) : Option (List Char) :=
  match escapeLetter? c with
  | some letter => some ['\\', letter]
  | none => if isPrintable c then none else some ('\\' :: octalTriple c)

/-- Characters that mean the same between quotes of either kind. -/
def isPlainInQuotes (c : Char) : Bool :=
  c.isAlphanum || ['%', '+', ',', '-', '.', '/', ':', ']', '_', '\'', ' ', '@'].contains c

/-- Whether double quotes can be used around a text. -/
def fitsDoubleQuotes (text : List Char) : Bool :=
  match text with
  | [] => true
  | first :: rest =>
      (isPlainInQuotes first || first = '#' || first = '~') && rest.all isPlainInQuotes

/-- Text between single quotes.  `escaping` holds within quotes for escapes. -/
def shellQuotedFrom (escaping : Bool) : List Char → List Char
  | [] => ['\'']
  | c :: rest =>
      match escaped? c with
      | some escape =>
          (if escaping then [] else ['\'', '$', '\'']) ++ escape ++ shellQuotedFrom true rest
      | none =>
          if c = '\'' then
            ['\'', '\\', '\'', '\''] ++ shellQuotedFrom false rest
          else
            (if escaping then ['\'', '\''] else []) ++ c :: shellQuotedFrom false rest

/-- A name in shell quotes. -/
def quoted (text : String) : String :=
  let chars := text.toList
  if chars.contains '\'' && fitsDoubleQuotes chars then "\"" ++ text ++ "\""
  else String.ofList ('\'' :: shellQuotedFrom false chars)

/-- Characters that mean something to a shell. -/
def isSpecial (c : Char) : Bool :=
  [' ', '!', '"', '$', '&', '(', ')', '*', ';', '<', '=', '>', '[', '^', '\x60', '|', '?', '\\',
    '\''].contains c

def needsQuotes (name : List Char) : Bool :=
  match name with
  | [] | ['\x7b'] | ['\x7d'] => true
  | first :: _ =>
      first = '#' || first = '~' || name.any fun c => isSpecial c || (escaped? c).isSome

/-- A word, in shell quotes where it would not be a single plain word. -/
def quotedForShell (word : String) : String :=
  if needsQuotes word.toList then quoted word else word

/-- A name in a message, in shell quotes where it would not be a single plain word or
could not be told from what follows a colon. -/
def quotedIfNeeded (name : String) : String :=
  if name.toList.contains ':' then quoted name else quotedForShell name

/-- Text between single quotes, with escapes. -/
def plainQuoted (text : String) : String :=
  let pieces := text.toList.flatMap fun c =>
    if c = '\'' || c = '\\' then ['\\', c] else (escaped? c).getD [c]
  "'" ++ String.ofList pieces ++ "'"

/-- Text between double quotes, with escapes. -/
def doubleQuoted (text : String) : String :=
  let pieces := text.toList.flatMap fun c =>
    if c = '"' || c = '\\' then ['\\', c] else (escaped? c).getD [c]
  "\"" ++ String.ofList pieces ++ "\""

end JobShell.Programs
