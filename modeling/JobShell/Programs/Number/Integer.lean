/-!
# Written integers

An integer as it is written: blanks, a sign, and digits that are decimal, or octal
after a zero, hexadecimal after `0x`, and binary after `0b`.  What does not belong to
it is left.
-/

namespace JobShell.Programs.Number

/-- The value of a digit in bases up to sixteen. -/
def digitValue? (c : Char) : Option Nat :=
  if c.isDigit then some (c.toNat - '0'.toNat)
  else if 'a' ≤ c && c ≤ 'f' then some (c.toNat - 'a'.toNat + 10)
  else if 'A' ≤ c && c ≤ 'F' then some (c.toNat - 'A'.toNat + 10)
  else none

def isDigitOf (base : Nat) (c : Char) : Bool :=
  (digitValue? c).any (· < base)

def valueOf (base : Nat) (digits : List Char) : Nat :=
  digits.foldl (fun value c => value * base + (digitValue? c).getD 0) 0

def isSpace (c : Char) : Bool :=
  c = ' ' || ('\t' ≤ c && c ≤ '\r')

/-- The base that digits are written in, and the digits. -/
def splitBase (text : List Char) : Nat × List Char :=
  match text with
  | '0' :: mark :: digit :: rest =>
      if mark.toLower = 'x' && isDigitOf 16 digit then (16, digit :: rest)
      else if mark.toLower = 'b' && isDigitOf 2 digit then (2, digit :: rest)
      else (8, text)
  | '0' :: _ => (8, text)
  | _ => (10, text)

/-- A sign at the start, and what follows it. -/
def splitSign (text : List Char) : Bool × List Char :=
  match text with
  | '-' :: rest => (true, rest)
  | '+' :: rest => (false, rest)
  | rest => (false, rest)

/-- An integer at the start of a text. -/
structure Reading where
  negative : Bool
  magnitude : Nat
  /-- What follows it. -/
  rest : List Char
  deriving Repr, Inhabited

/-- Reads the integer at the start of a text, if there is one. -/
def read? (text : List Char) : Option Reading :=
  let (negative, unsigned) := splitSign (text.dropWhile isSpace)
  let (base, digits) := splitBase unsigned
  let taken := digits.takeWhile (isDigitOf base)
  if taken.isEmpty then none
  else some { negative, magnitude := valueOf base taken, rest := digits.drop taken.length }

/-- Reads a decimal integer. -/
def readDecimal? (text : List Char) : Option Reading :=
  let (negative, digits) := splitSign (text.dropWhile isSpace)
  let taken := digits.takeWhile Char.isDigit
  if taken.isEmpty then none
  else some { negative, magnitude := valueOf 10 taken, rest := digits.drop taken.length }

def Reading.value (reading : Reading) : Int :=
  if reading.negative then -(reading.magnitude : Int) else reading.magnitude

/-! ## Sixty-four bits -/

/-- How many numbers there are. -/
def span : Nat := 18446744073709551616

def largest : Int := 9223372036854775807

def smallest : Int := -9223372036854775808

/-- The nearest number with a sign, and whether the given one is too large or too
small. -/
def clamp (value : Int) : Int × Bool :=
  if value > largest then (largest, true)
  else if value < smallest then (smallest, true)
  else (value, false)

/-- The number with a sign that has the same bits. -/
def wrap (value : Int) : Int :=
  let bits := value % (span : Int)
  if bits > largest then bits - span else bits

/-- The number without a sign that is read: a negative one counts from the end. -/
def Reading.unsigned (reading : Reading) : Nat × Bool :=
  if reading.magnitude ≥ span then (span - 1, true)
  else if reading.negative then ((span - reading.magnitude) % span, false)
  else (reading.magnitude, false)

end JobShell.Programs.Number
