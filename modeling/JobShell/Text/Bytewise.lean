import JobShell.Text.Utf8

/-!
# Text of single bytes

Programs run in the plain locale, in which every byte is a character.  Their text
has one character for each byte, with the byte as its number.
-/

namespace JobShell.Text

def bytewise (bytes : Bytes) : String :=
  String.ofList (bytes.map fun byte => Char.ofNat byte.toNat)

/-- The bytes of such text. -/
def bytesOf (text : String) : Bytes :=
  text.toList.map fun c => UInt8.ofNat c.toNat

end JobShell.Text
