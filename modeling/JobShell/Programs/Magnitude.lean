import JobShell.Programs.Basic

/-!
# Sizes on command lines

A count can be multiplied by a unit, which is a letter: powers of 1024, or of 1000
where a `B` follows the letter.
-/

namespace JobShell.Programs

/-- Which power of its base a letter stands for. -/
def unitPower? : Char → Option Nat
  | 'k' | 'K' => some 1
  | 'M' | 'm' => some 2
  | 'G' => some 3
  | 'T' => some 4
  | 'P' => some 5
  | 'E' => some 6
  | 'Z' => some 7
  | 'Y' => some 8
  | 'R' => some 9
  | 'Q' => some 10
  | _ => none

/-- What a unit multiplies by. -/
def unitFactor? : List Char → Option Nat
  | [] => some 1
  | ['b'] => some 512
  | [letter] => (unitPower? letter).map (Nat.pow 1024)
  | [letter, 'B'] => (unitPower? letter).map (Nat.pow 1000)
  | [letter, 'i', 'B'] => (unitPower? letter).map (Nat.pow 1024)
  | _ => none

inductive Magnitude where
  | count (value : Nat)
  | malformed
  /-- More than the largest number that can be counted to. -/
  | tooLarge
  deriving DecidableEq, Repr, Inhabited

/-- The largest number that can be counted to. -/
def largestCount : Nat := 18446744073709551615

def isBlankChar (c : Char) : Bool :=
  c = ' ' || ('\t' ≤ c && c ≤ '\r')

/-- Reads a count.  Without digits, a unit stands for one of it. -/
def Magnitude.read (text : String) : Magnitude :=
  let unsigned := match text.toList.dropWhile isBlankChar with
    | '+' :: rest => if rest.head?.any Char.isDigit then rest else text.toList
    | rest => if rest.head?.any Char.isDigit then rest else text.toList
  let digits := unsigned.takeWhile Char.isDigit
  match Text.digitsValue? digits, unitFactor? (unsigned.drop digits.length) with
  | _, none => .malformed
  | none, some factor => if text = "" then .malformed else .count factor
  | some value, some factor =>
      if value * factor > largestCount then .tooLarge else .count (value * factor)

/-- A count, or what is wrong with it. -/
def countOf (description text : String) : Except String Nat :=
  match Magnitude.read text with
  | .count value => .ok value
  | .malformed => .error (description ++ ": " ++ plainQuoted text)
  | .tooLarge =>
      .error (description ++ ": " ++ plainQuoted text
        ++ ": Value too large for defined data type")

end JobShell.Programs
