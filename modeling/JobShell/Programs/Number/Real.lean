import JobShell.Programs.Number.Integer

/-!
# Real numbers

Real numbers with a limited number of binary digits, how they are read, and how they
are written in a number of decimal or hexadecimal places.  Both are exact: the result
is the nearest one, and of two that are equally near the one that is even.
-/

namespace JobShell.Programs.Number

/-- How many binary digits there are, and how large exponents can be. -/
structure Precision where
  bits : Nat
  largestExponent : Int
  smallestExponent : Int

/-- Numbers of eighty bits. -/
def extended : Precision :=
  { bits := 64, largestExponent := 16383, smallestExponent := -16382 }

/-- Numbers of sixty-four bits. -/
def double : Precision :=
  { bits := 53, largestExponent := 1023, smallestExponent := -1022 }

/-- The magnitude of a number.  A finite one is a whole number of units, each a power
of two. -/
inductive Magnitude where
  | finite (units : Nat) (exponent : Int)
  | infinity
  | undefined
  deriving DecidableEq, Repr, Inhabited

structure Real where
  negative : Bool
  magnitude : Magnitude
  deriving DecidableEq, Repr, Inhabited

/-- A quotient rounded to a whole number. -/
def roundedQuotient (numerator denominator : Nat) : Nat :=
  let quotient := numerator / denominator
  let twice := 2 * (numerator % denominator)
  if twice > denominator || (twice = denominator && quotient % 2 = 1) then quotient + 1
  else quotient

/-- A fraction times a power of a base. -/
def scaled (numerator denominator base : Nat) (power : Int) : Nat × Nat :=
  if power ≥ 0 then (numerator * Nat.pow base power.toNat, denominator)
  else (numerator, denominator * Nat.pow base (-power).toNat)

/-- The exponent of the highest binary digit of a fraction that is not zero. -/
def binaryExponent (numerator denominator : Nat) : Int :=
  let guess : Int := (Nat.log2 numerator : Int) - (Nat.log2 denominator : Int)
  let (high, low) := scaled numerator denominator 2 (-guess)
  if high < low then guess - 1 else guess

/-- The nearest number to a fraction, and whether it is out of range. -/
def nearest (precision : Precision) (numerator denominator : Nat) : Magnitude × Bool :=
  if numerator = 0 then (.finite 0 0, false)
  else
    let exponent := max (binaryExponent numerator denominator) precision.smallestExponent
    let unit := exponent - (precision.bits : Int) + 1
    let (high, low) := scaled numerator denominator 2 (-unit)
    let units := roundedQuotient high low
    let top : Int := unit + Nat.log2 units
    if top > precision.largestExponent then (.infinity, true)
    else (.finite units unit, units = 0 || top < precision.smallestExponent)

/-! ## Reading -/

/-- Digits around a point: their value, how many stand behind the point, and what
follows them. -/
def splitPoint (base : Nat) (text : List Char) : Option (Nat × Nat × List Char) :=
  let whole := text.takeWhile (isDigitOf base)
  let rest := text.drop whole.length
  let fraction := match rest with
    | '.' :: rest => rest.takeWhile (isDigitOf base)
    | _ => []
  if whole.isEmpty && fraction.isEmpty then none
  else
    let rest := match rest with
      | '.' :: rest => rest.drop fraction.length
      | rest => rest
    some (valueOf base (whole ++ fraction), fraction.length, rest)

/-- Exponents beyond this are as good as endless. -/
def exponentLimit : Nat := 30000

/-- An exponent after its letter, and what follows it. -/
def splitExponent (letter : Char) (text : List Char) : Int × List Char :=
  match text with
  | c :: rest =>
      if c.toLower ≠ letter then (0, text)
      else
        let (negative, unsigned) := splitSign rest
        let digits := unsigned.takeWhile Char.isDigit
        if digits.isEmpty then (0, text)
        else
          let value : Int := min (valueOf 10 digits) exponentLimit
          (if negative then -value else value, unsigned.drop digits.length)
  | [] => (0, [])

/-- A number that is read, what follows it, and whether it is out of range. -/
structure RealReading where
  value : Real
  rest : List Char
  outOfRange : Bool := false

def startsWith (word : String) (text : List Char) : Bool :=
  word.toList.isPrefixOf (text.map Char.toLower)

/-- Reads a magnitude. -/
def readMagnitude? (precision : Precision) (text : List Char) :
    Option ((Magnitude × Bool) × List Char) :=
  if startsWith "infinity" text then some ((.infinity, false), text.drop 8)
  else if startsWith "inf" text then some ((.infinity, false), text.drop 3)
  else if startsWith "nan" text then some ((.undefined, false), text.drop 3)
  else
    let hexadecimal := match text with
      | '0' :: mark :: rest => if mark.toLower = 'x' then splitPoint 16 rest else none
      | _ => none
    match hexadecimal, splitPoint 10 text with
    | some (value, places, rest), _ =>
        let (exponent, rest) := splitExponent 'p' rest
        let (high, low) := scaled value 1 2 (exponent - 4 * (places : Int))
        some (nearest precision high low, rest)
    | none, some (value, places, rest) =>
        let (exponent, rest) := splitExponent 'e' rest
        let (high, low) := scaled value 1 10 (exponent - (places : Int))
        some (nearest precision high low, rest)
    | none, none => none

/-- Reads the real number at the start of a text, if there is one. -/
def readReal? (precision : Precision) (text : List Char) : Option RealReading :=
  let (negative, unsigned) := splitSign (text.dropWhile isSpace)
  (readMagnitude? precision unsigned).map fun ((magnitude, outOfRange), rest) =>
    { value := { negative, magnitude }, rest, outOfRange }

/-! ## Writing -/

def digitsOf (value : Nat) : List Char :=
  (toString value).toList

/-- Digits with zeros in front up to a length. -/
def filled (length : Nat) (digits : List Char) : List Char :=
  List.replicate (length - digits.length) '0' ++ digits

/-- A fraction in decimal places. -/
def fixed (numerator denominator places : Nat) : List Char × List Char :=
  let value := roundedQuotient (numerator * Nat.pow 10 places) denominator
  let digits := filled (places + 1) (digitsOf value)
  (digits.take (digits.length - places), digits.drop (digits.length - places))

/-- Adjusts a decimal exponent to a fraction; `limit` bounds how far. -/
def adjustExponent (numerator denominator : Nat) : Nat → Int → Int
  | 0, exponent => exponent
  | limit + 1, exponent =>
      let (high, low) := scaled numerator denominator 10 (-exponent)
      if high < low then adjustExponent numerator denominator limit (exponent - 1)
      else if high ≥ 10 * low then adjustExponent numerator denominator limit (exponent + 1)
      else exponent

/-- The exponent of the highest decimal digit of a fraction. -/
def decimalExponent (numerator denominator : Nat) : Int :=
  if numerator = 0 then 0
  else
    adjustExponent numerator denominator 8
      (binaryExponent numerator denominator * 30103 / 100000)

/-- A fraction as one digit, some places, and an exponent. -/
def scientific (numerator denominator places : Nat) : List Char × List Char × Int :=
  let exponent := decimalExponent numerator denominator
  let (high, low) := scaled numerator denominator 10 ((places : Int) - exponent)
  let digits := filled (places + 1) (digitsOf (roundedQuotient high low))
  let exponent := if digits.length > places + 1 then exponent + 1 else exponent
  (digits.take 1, (digits.drop 1).take places, exponent)

/-- How a number is written. -/
structure RealStyle where
  /-- One of `f`, `e`, `g` and `a`. -/
  letter : Char
  precision : Option Nat
  /-- The point is always written, and zeros at the end are kept. -/
  alternate : Bool

def withPoint (alternate : Bool) (whole fraction : List Char) : List Char :=
  if fraction.isEmpty && !alternate then whole else whole ++ '.' :: fraction

def exponentText (letter : Char) (least : Nat) (exponent : Int) : List Char :=
  letter :: (if exponent < 0 then '-' else '+') :: filled least (digitsOf exponent.natAbs)

def dropZeros (digits : List Char) : List Char :=
  (digits.reverse.dropWhile (· = '0')).reverse

def hexDigit (value : Nat) : Char :=
  (Nat.toDigits 16 value).headD '0'

/-- A number in hexadecimal places: the leading digit has all the bits it can. -/
def hexadecimal (precision : Precision) (style : RealStyle) (units : Nat) (exponent : Int) :
    List Char :=
  let lead := if precision.bits = 64 then 4 else 1
  let places := (precision.bits - lead + 3) / 4
  let shift := if units = 0 then 0 else precision.bits - 1 - Nat.log2 units
  let whole := units * Nat.pow 2 (shift + (4 * places + lead - precision.bits))
  let exponent := if units = 0 then 0 else
    exponent + (precision.bits : Int) - (lead : Int) - (shift : Int)
  let shown := style.precision.getD places
  let rounded := if shown < places
    then roundedQuotient whole (Nat.pow 16 (places - shown)) else whole
  let kept := min shown places
  let digits := (List.range (kept + 1)).reverse.map fun place =>
    if place = kept then hexDigit (rounded / Nat.pow 16 place)
    else hexDigit (rounded / Nat.pow 16 place % 16)
  let fraction := digits.drop 1 ++ List.replicate (shown - places) '0'
  let fraction := if style.precision.isNone then dropZeros fraction else fraction
  ['0', 'x'] ++ withPoint style.alternate (digits.take 1) fraction
    ++ exponentText 'p' 1 exponent

/-- A finite number in one of the styles. -/
def writeFinite (precision : Precision) (style : RealStyle) (units : Nat) (exponent : Int) :
    List Char :=
  let (high, low) := scaled units 1 2 exponent
  let places := style.precision.getD 6
  match style.letter with
  | 'f' =>
      let (whole, fraction) := fixed high low places
      withPoint style.alternate whole fraction
  | 'e' =>
      let (whole, fraction, power) := scientific high low places
      withPoint style.alternate whole fraction ++ exponentText 'e' 2 power
  | 'a' => hexadecimal precision style units exponent
  | _ =>
      let places := max places 1
      let (whole, fraction, power) := scientific high low (places - 1)
      let keep (digits : List Char) : List Char :=
        if style.alternate then digits else dropZeros digits
      if power < -4 || power ≥ places then
        withPoint style.alternate whole (keep fraction) ++ exponentText 'e' 2 power
      else
        let (whole, fraction) := fixed high low ((places : Int) - 1 - power).toNat
        withPoint style.alternate whole (keep fraction)

/-- The magnitude of a number in one of the styles, in small letters. -/
def writeMagnitude (precision : Precision) (style : RealStyle) : Magnitude → List Char
  | .finite units exponent => writeFinite precision style units exponent
  | .infinity => ['i', 'n', 'f']
  | .undefined => ['n', 'a', 'n']

end JobShell.Programs.Number
