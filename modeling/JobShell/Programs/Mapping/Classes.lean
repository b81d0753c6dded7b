/-!
# Classes of characters

The named classes of the plain locale, which has no letters beyond the basic ones.
-/

namespace JobShell.Programs

def isGraphical (c : Char) : Bool :=
  '!' ≤ c && c ≤ '~'

def isSpacing (c : Char) : Bool :=
  c = ' ' || ('\t' ≤ c && c ≤ '\r')

def isHexadecimal (c : Char) : Bool :=
  c.isDigit || ('a' ≤ c && c ≤ 'f') || ('A' ≤ c && c ≤ 'F')

/-- The characters of a class by its name. -/
def namedClass? : String → Option (Char → Bool)
  | "lower" => some Char.isLower
  | "upper" => some Char.isUpper
  | "digit" => some Char.isDigit
  | "alpha" => some Char.isAlpha
  | "alnum" => some Char.isAlphanum
  | "space" => some isSpacing
  | "blank" => some fun c => c = ' ' || c = '\t'
  | "graph" => some isGraphical
  | "print" => some fun c => c = ' ' || isGraphical c
  | "punct" => some fun c => isGraphical c && !c.isAlphanum
  | "cntrl" => some fun c => c < ' ' || c = '\x7f'
  | "xdigit" => some isHexadecimal
  | _ => none

/-- All characters of the plain locale, in order. -/
def allChars : List Char :=
  (List.range 256).map Char.ofNat

def charsFrom (first last : Char) : List Char :=
  (List.range (last.toNat + 1 - first.toNat)).map fun offset => Char.ofNat (first.toNat + offset)

end JobShell.Programs
