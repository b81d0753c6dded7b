/-!
# Decimal numbers
-/

namespace JobShell.Text

/-- The value of ASCII digits, of which there is at least one. -/
def digitsValue? (digits : List Char) : Option Nat :=
  if digits.isEmpty || !digits.all Char.isDigit then none
  else some (digits.foldl (fun value c => value * 10 + (c.toNat - '0'.toNat)) 0)

end JobShell.Text
