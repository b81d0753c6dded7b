import JobShell.Text.Hidden

/-!
# Quoted text

Text between double quotes on one line, with every hidden character written by
an escape.  A backslash stands before quotes and backslashes; tab, newline,
carriage return and the zero character have letters; all other hidden characters
are written with their code points in hexadecimal between braces.
-/

namespace JobShell.Text

/-- The digits of a code point, without leading zeros. -/
def hexDigits (value : Nat) : List Char :=
  Nat.toDigits 16 value

def escapeChar (c : Char) : List Char :=
  if c = '\x00' then ['\\', '0']
  else if c = '\t' then ['\\', 't']
  else if c = '\n' then ['\\', 'n']
  else if c = '\r' then ['\\', 'r']
  else if c = '"' ∨ c = '\\' then ['\\', c]
  else if isHidden c then ['\\', 'u', '\x7b'] ++ hexDigits c.toNat ++ ['\x7d']
  else [c]

def quote (text : String) : String :=
  String.ofList (['"'] ++ text.toList.flatMap escapeChar ++ ['"'])

end JobShell.Text
