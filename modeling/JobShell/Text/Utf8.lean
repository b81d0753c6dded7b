/-!
# Bytes and text

Text is kept in files and passed through pipes as UTF-8.  Bytes that are no
UTF-8 have no text; to show them all the same, each longest part that could have
begun a character is replaced by one replacement character.
-/

namespace JobShell

abbrev Bytes := List UInt8

namespace Text

def newline : UInt8 := 10

def encode (text : String) : Bytes :=
  text.toUTF8.data.toList

/-- The text that the bytes encode, if they are valid. -/
def decode? (bytes : Bytes) : Option String :=
  String.fromUTF8? ⟨bytes.toArray⟩

/-- A character of which some bytes are still missing, and the range in which
the next byte must lie. -/
structure Unfinished where
  value : Nat
  missing : Nat
  low : UInt8 := 0x80
  high : UInt8 := 0xBF

def replacement : Char := '\uFFFD'

/-- What a byte at the start of a character gives: a character, or the
beginning of one. -/
def startChar (byte : UInt8) : Char ⊕ Unfinished :=
  let bits := byte.toNat
  if byte < 0x80 then .inl (Char.ofNat bits)
  else if byte < 0xC2 then .inl replacement
  else if byte < 0xE0 then .inr { value := bits - 0xC0, missing := 1 }
  else if byte = 0xE0 then .inr { value := 0, missing := 2, low := 0xA0 }
  else if byte = 0xED then .inr { value := 0xD, missing := 2, high := 0x9F }
  else if byte < 0xF0 then .inr { value := bits - 0xE0, missing := 2 }
  else if byte = 0xF0 then .inr { value := 0, missing := 3, low := 0x90 }
  else if byte < 0xF4 then .inr { value := bits - 0xF0, missing := 3 }
  else if byte = 0xF4 then .inr { value := 4, missing := 3, high := 0x8F }
  else .inl replacement

/-- Characters of the bytes that follow an unfinished character, if there is one. -/
def lossyChars : Option Unfinished → Bytes → List Char
  | none, [] => []
  | some _, [] => [replacement]
  | none, byte :: rest =>
      match startChar byte with
      | .inl c => c :: lossyChars none rest
      | .inr unfinished => lossyChars (some unfinished) rest
  | some unfinished, byte :: rest =>
      if unfinished.low ≤ byte && byte ≤ unfinished.high then
        let value := unfinished.value * 64 + (byte.toNat - 0x80)
        if unfinished.missing ≤ 1 then Char.ofNat value :: lossyChars none rest
        else lossyChars (some { value, missing := unfinished.missing - 1 }) rest
      else
        match startChar byte with
        | .inl c => replacement :: c :: lossyChars none rest
        | .inr next => replacement :: lossyChars (some next) rest

/-- The bytes as text, with replacement characters where they are not valid. -/
def lossy (bytes : Bytes) : String :=
  String.ofList (lossyChars none bytes)

end Text

end JobShell
