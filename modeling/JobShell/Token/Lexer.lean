import JobShell.SyntaxError
import JobShell.Text.Blank
import JobShell.Token

/-!
# From characters to tokens

A line is read from left to right, one character at a time.  What has been read
so far is a `Scan`: the finished tokens, the components of the word that is being
read, and a mode that says how the next character is to be taken.  Nothing is
ever read twice, so what follows a separator does not depend on what stands
before it, and the first defect met is the one reported.

Quotes and escapes end up as literals.  A quote adds an empty literal as it
opens: an empty pair of quotes is a word.
-/

namespace JobShell.Lexer

open JobShell.Text (isBlank)

/-- A character that stands for itself outside quotes. -/
def isBare (c : Char) : Bool :=
  !isBlank c && !isMetacharacter c && !(['"', '\'', '\\', '$'].contains c)

def isNameChar (c : Char) : Bool :=
  c.isAlphanum || c == '_'

/-- A character before which a leading tilde means the home directory. -/
def endsTilde (c : Char) : Bool :=
  c == '/' || isBlank c || isMetacharacter c

/-- What surrounds a reference. -/
inductive Surroundings where
  | bare
  | doubleQuotes
  deriving DecidableEq, Repr, Inhabited

inductive Mode where
  /-- Between words. -/
  | gap
  /-- After a tilde that begins a word. -/
  | tilde
  /-- Inside a word and outside quotes. -/
  | word
  /-- After a backslash outside quotes. -/
  | escape
  | singleQuotes
  | doubleQuotes
  /-- After a backslash inside double quotes. -/
  | doubleQuotesEscape
  | dollar (within : Surroundings)
  /-- After an opening brace and the given part of a name. -/
  | braces (within : Surroundings) (name : List Char)
  /-- In a name without braces. -/
  | name (within : Surroundings) (name : List Char)
  deriving DecidableEq, Repr, Inhabited

/-- What has been read so far.  Tokens and parts stand last first. -/
structure Scan where
  tokens : List Token := []
  parts : List Component := []
  mode : Mode := .gap
  deriving DecidableEq, Repr, Inhabited

namespace Scan

def push (scan : Scan) (component : Component) : Scan :=
  { scan with parts := component :: scan.parts }

def pushChar (scan : Scan) (c : Char) : Scan :=
  scan.push (.literal (String.singleton c))

def pushName (scan : Scan) (name : List Char) : Scan :=
  scan.push (.reference (String.ofList name))

def within (scan : Scan) (mode : Mode) : Scan :=
  { scan with mode }

def emit (scan : Scan) (token : Token) : Scan :=
  { scan with tokens := token :: scan.tokens }

/-- Ends the word that is being read. -/
def close (scan : Scan) : Scan :=
  { tokens := .word (Word.ofComponents scan.parts.reverse) :: scan.tokens }

/-- Takes a character outside quotes, in a word or at its start. -/
def bareStep (scan : Scan) (c : Char) : Scan :=
  if isBlank c then scan.close
  else match Token.ofOperator? c with
    | some token => scan.close.emit token
    | none =>
        if c = '"' then (scan.push (.literal "")).within .doubleQuotes
        else if c = '\'' then (scan.push (.literal "")).within .singleQuotes
        else if c = '\\' then scan.within .escape
        else if c = '$' then scan.within (.dollar .bare)
        else (scan.pushChar c).within .word

/-- Takes a character between words. -/
def gapStep (scan : Scan) (c : Char) : Scan :=
  if isBlank c then scan
  else match Token.ofOperator? c with
    | some token => scan.emit token
    | none => if c = '~' then scan.within .tilde else scan.bareStep c

/-- Takes a character inside double quotes. -/
def quotedStep (scan : Scan) (c : Char) : Scan :=
  if c = '"' then scan.within .word
  else if c = '\\' then scan.within .doubleQuotesEscape
  else if c = '$' then scan.within (.dollar .doubleQuotes)
  else (scan.pushChar c).within .doubleQuotes

/-- Takes a character that a reference has left over. -/
def resume (scan : Scan) : Surroundings → Char → Scan
  | .bare, c => scan.bareStep c
  | .doubleQuotes, c => scan.quotedStep c

def Surroundings.mode : Surroundings → Mode
  | .bare => .word
  | .doubleQuotes => .doubleQuotes

def step (scan : Scan) (c : Char) : Except Defect Scan :=
  match scan.mode with
  | .gap => .ok (scan.gapStep c)
  | .tilde =>
      if endsTilde c then .ok ((scan.push .home).bareStep c)
      else .ok ((scan.pushChar '~').bareStep c)
  | .word => .ok (scan.bareStep c)
  | .escape => .ok ((scan.pushChar c).within .word)
  | .singleQuotes =>
      if c = '\'' then .ok (scan.within .word) else .ok (scan.pushChar c)
  | .doubleQuotes => .ok (scan.quotedStep c)
  | .doubleQuotesEscape => .ok ((scan.pushChar c).within .doubleQuotes)
  | .dollar surroundings =>
      if c = '\x7b' then .ok (scan.within (.braces surroundings []))
      else if isNameChar c then .ok (scan.within (.name surroundings [c]))
      else .ok ((scan.pushChar '$').resume surroundings c)
  | .braces surroundings name =>
      if isNameChar c then .ok (scan.within (.braces surroundings (name ++ [c])))
      else if c = '\x7d' ∧ name ≠ [] then
        .ok ((scan.pushName name).within (Surroundings.mode surroundings))
      else .error .reference
  | .name surroundings name =>
      if isNameChar c then .ok (scan.within (.name surroundings (name ++ [c])))
      else .ok ((scan.pushName name).resume surroundings c)

def steps : Scan → List Char → Except Defect Scan
  | scan, [] => .ok scan
  | scan, c :: rest => do (← scan.step c).steps rest

/-- The tokens of a line that ends here. -/
def finish (scan : Scan) : Except Defect (List Token) :=
  match scan.mode with
  | .gap => .ok scan.tokens.reverse
  | .tilde => .ok (scan.push .home).close.tokens.reverse
  | .word => .ok scan.close.tokens.reverse
  | .escape => .error .escape
  | .singleQuotes => .error .singleQuote
  | .doubleQuotes | .doubleQuotesEscape => .error .doubleQuote
  | .dollar .bare => .ok (scan.pushChar '$').close.tokens.reverse
  | .dollar .doubleQuotes => .error .doubleQuote
  | .braces _ _ => .error .reference
  | .name .bare name => .ok (scan.pushName name).close.tokens.reverse
  | .name .doubleQuotes _ => .error .doubleQuote

end Scan

/-- The tokens of a line of characters, or the first defect in it. -/
def tokens (line : List Char) : Except Defect (List Token) := do
  (← Scan.steps {} line).finish

end JobShell.Lexer

namespace JobShell

/-- Splits a line into tokens; a blank line has none. -/
def lex (line : String) : Except SyntaxError (List Token) :=
  (Lexer.tokens line.toList).mapError SyntaxError.ofDefect

end JobShell
