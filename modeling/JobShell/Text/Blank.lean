import JobShell.Text.Ranges

/-!
# Blank characters

The characters that separate words: the `White_Space` property of the Unicode
character database.  The set differs from the ASCII one of `Char.isWhitespace`,
which it contains; zero-width spaces and the byte order mark are not in it.
-/

namespace JobShell.Text

/-- Inclusive ranges of code points with the `White_Space` property. -/
def blankRanges : List (Nat × Nat) :=
  [(0x09, 0x0D), (0x20, 0x20), (0x85, 0x85), (0xA0, 0xA0), (0x1680, 0x1680),
   (0x2000, 0x200A), (0x2028, 0x2029), (0x202F, 0x202F), (0x205F, 0x205F),
   (0x3000, 0x3000)]

def isBlank (c : Char) : Bool :=
  inRanges blankRanges c.toNat

/-- Removes blanks at both ends. -/
def trim (text : String) : String :=
  let kept := (text.toList.dropWhile isBlank).reverse.dropWhile isBlank
  String.ofList kept.reverse

end JobShell.Text
