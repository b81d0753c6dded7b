import JobShell.Programs.Basic

/-!
# Numbers in lines

The number at the beginning of a text, as an exact fraction, in the forms in which
lines can be compared by it.
-/

namespace JobShell.Programs.Order

/-- A fraction. -/
structure Fraction where
  numerator : Int
  denominator : Nat
  deriving Repr, Inhabited

def Fraction.compare (left right : Fraction) : Ordering :=
  Ord.compare (left.numerator * right.denominator) (right.numerator * left.denominator)

def isBlank (c : Char) : Bool :=
  c = ' ' || c = '\t' || c = '\n'

/-- Digits, with a point and more digits if there are any, and what follows. -/
def unsignedDecimal (text : List Char) : Fraction × List Char :=
  let whole := text.takeWhile Char.isDigit
  let rest := text.drop whole.length
  let fraction := match rest with
    | '.' :: rest => rest.takeWhile Char.isDigit
    | _ => []
  let rest := match rest with
    | '.' :: rest => rest.drop fraction.length
    | rest => rest
  ({ numerator := ((Text.digitsValue? (whole ++ fraction)).getD 0 : Nat)
     denominator := Nat.pow 10 fraction.length }, rest)

/-- The number at the beginning of a text, which is zero if there is none. -/
def leadingNumber (text : List Char) : Fraction × List Char :=
  match text.dropWhile isBlank with
  | '-' :: rest =>
      let (value, rest) := unsignedDecimal rest
      ({ value with numerator := -value.numerator }, rest)
  | text => unsignedDecimal text

/-! ## Sizes with units -/

def unitRank : Char → Int
  | 'K' | 'k' => 1
  | 'M' => 2
  | 'G' => 3
  | 'T' => 4
  | 'P' => 5
  | 'E' => 6
  | 'Z' => 7
  | 'Y' => 8
  | 'R' => 9
  | 'Q' => 10
  | _ => 0

/-- The rank of a size by its unit, and then its number. -/
def sizeKey (text : List Char) : Int × Fraction :=
  let (value, rest) := leadingNumber text
  let rank := if value.numerator = 0 then 0 else (rest.head?.map unitRank).getD 0
  (if value.numerator < 0 then -rank else rank, value)

/-! ## General numbers -/

/-- What the beginning of a text is worth. -/
inductive General where
  | notANumber
  | invalid
  | minusInfinity
  | finite (value : Fraction)
  | infinity
  deriving Repr, Inhabited

def General.rank : General → Nat
  | .notANumber => 0
  | .invalid => 1
  | .minusInfinity => 2
  | .finite _ => 3
  | .infinity => 4

def General.compare : General → General → Ordering
  | .finite left, .finite right => left.compare right
  | left, right => Ord.compare left.rank right.rank

def startsWithWord (word : String) (text : List Char) : Bool :=
  word.toList.isPrefixOf (text.map Char.toLower)

/-- A power of a base, which may be negative. -/
def scale (value : Fraction) (base : Nat) (exponent : Int) : Fraction :=
  if exponent ≥ 0 then
    { value with numerator := value.numerator * (Nat.pow base exponent.toNat : Nat) }
  else { value with denominator := value.denominator * Nat.pow base (-exponent).toNat }

/-- The largest exponent that is taken as it is. -/
def exponentLimit : Nat := 20000

/-- The exponent after a letter, if there is one. -/
def exponentAfter (letter : Char) (text : List Char) : Int :=
  match text with
  | c :: rest =>
      if c.toLower ≠ letter then 0
      else
        let (sign, digits) : Int × List Char := match rest with
          | '-' :: rest => (-1, rest)
          | '+' :: rest => (1, rest)
          | rest => (1, rest)
        match Text.digitsValue? (digits.takeWhile Char.isDigit) with
        | some value => sign * (min value exponentLimit : Nat)
        | none => 0
  | [] => 0

def isHexDigit (c : Char) : Bool :=
  c.isDigit || ('a' ≤ c.toLower && c.toLower ≤ 'f')

def hexDigitValue (c : Char) : Nat :=
  if c.isDigit then c.toNat - '0'.toNat else c.toLower.toNat - 'a'.toNat + 10

def hexadecimal (text : List Char) : Fraction × List Char :=
  let whole := text.takeWhile isHexDigit
  let rest := text.drop whole.length
  let fraction := match rest with
    | '.' :: rest => rest.takeWhile isHexDigit
    | _ => []
  let rest := match rest with
    | '.' :: rest => rest.drop fraction.length
    | rest => rest
  let value := (whole ++ fraction).foldl (fun value c => value * 16 + hexDigitValue c) 0
  ({ numerator := (value : Nat), denominator := Nat.pow 16 fraction.length }, rest)

/-- Whether a number begins here: a digit, or a point with a digit behind it. -/
def startsNumber (isDigit : Char → Bool) : List Char → Bool
  | '.' :: c :: _ => isDigit c
  | c :: _ => isDigit c
  | [] => false

def unsignedGeneral (text : List Char) : General :=
  if startsWithWord "inf" text then .infinity
  else if startsWithWord "nan" text then .invalid
  else
    match text with
    | '0' :: x :: rest =>
        if x.toLower = 'x' && startsNumber isHexDigit rest then
          let (value, rest) := hexadecimal rest
          .finite (scale value 2 (exponentAfter 'p' rest))
        else
          let (value, rest) := unsignedDecimal text
          .finite (scale value 10 (exponentAfter 'e' rest))
    | _ =>
        if startsNumber Char.isDigit text then
          let (value, rest) := unsignedDecimal text
          .finite (scale value 10 (exponentAfter 'e' rest))
        else .notANumber

/-- The number at the beginning of a text, with an exponent if there is one. -/
def general (text : List Char) : General :=
  match text.dropWhile fun c => c = ' ' || ('\t' ≤ c && c ≤ '\r') with
  | '-' :: rest =>
      match unsignedGeneral rest with
      | .infinity => .minusInfinity
      | .finite value => .finite { value with numerator := -value.numerator }
      | other => other
  | '+' :: rest => unsignedGeneral rest
  | rest => unsignedGeneral rest

/-! ## Months -/

def monthNames : List String :=
  ["jan", "feb", "mar", "apr", "may", "jun", "jul", "aug", "sep", "oct", "nov", "dec"]

/-- The number of the month that a text begins with, or zero. -/
def month (text : List Char) : Nat :=
  let text := text.dropWhile isBlank
  (monthNames.findIdx? fun name => startsWithWord name text).elim 0 (· + 1)

end JobShell.Programs.Order
