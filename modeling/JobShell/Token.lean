import JobShell.Word

/-!
# Tokens

What a line consists of: words, and the four operators that are never part of a
word unless quoted.
-/

namespace JobShell

/-- Which standard stream a redirection replaces. -/
inductive Direction where
  | input
  | output
  deriving DecidableEq, Repr, Inhabited

def Direction.symbol : Direction → Char
  | .input => '<'
  | .output => '>'

inductive Token where
  | word (word : Word)
  | pipe
  | redirect (direction : Direction)
  | background
  deriving DecidableEq, Repr, Inhabited

namespace Token

/-- The operator that a character stands for outside quotes. -/
def ofOperator? : Char → Option Token
  | '|' => some .pipe
  | '<' => some (.redirect .input)
  | '>' => some (.redirect .output)
  | '&' => some .background
  | _ => none

def display : Token → String
  | .word spelled => spelled.display
  | .pipe => "|"
  | .redirect direction => direction.symbol.toString
  | .background => "&"

end Token

/-- A character that ends a word and is a token of its own. -/
def isMetacharacter (c : Char) : Bool :=
  (Token.ofOperator? c).isSome

end JobShell
