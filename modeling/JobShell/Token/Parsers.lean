import JobShell.Token.Lexer

/-!
# Lexing with parsers

The same tokens by recursive descent.  A parser reads from the front of its input and
hands on the rest.  Where it cannot, it fails, and alternatives are tried on the same
input unless the failure is final, as it is once something has begun that the line
does not end.  A failure names what had begun; where that is one thing inside another,
the line is rejected for the inner one.
-/

namespace JobShell

/-- Why a parser does not read. -/
structure Parser.Failure where
  /-- No alternative is tried. -/
  isFinal : Bool := false
  /-- What was left of the line. -/
  rest : List Char
  /-- What had begun and was not ended, the innermost first. -/
  contexts : List Defect := []
  deriving DecidableEq, Repr, Inhabited

abbrev Parser (α : Type) :=
  List Char → Except Parser.Failure (α × List Char)

namespace Parser

open Text (isBlank)
open Lexer (isBare isNameChar endsTilde)

variable {α β : Type}

/-! ## Putting parsers together -/

/-- Leaves the input to an alternative. -/
def miss : Parser α := fun input => .error { rest := input }

def succeed (value : α) : Parser α := fun input => .ok (value, input)

def anyChar : Parser Char
  | [] => miss []
  | c :: rest => .ok (c, rest)

def char (expected : Char) : Parser Char
  | [] => miss []
  | c :: rest => if c = expected then .ok (c, rest) else miss (c :: rest)

/-- As many characters as have a property. -/
def charsWhile (property : Char → Bool) : Parser (List Char) := fun input =>
  .ok (input.takeWhile property, input.dropWhile property)

/-- As many characters as have a property, but one at least. -/
def chars1While (property : Char → Bool) : Parser (List Char) := fun input =>
  if input.takeWhile property = [] then miss input else charsWhile property input

def map (f : α → β) (parser : Parser α) : Parser β := fun input =>
  match parser input with
  | .ok (value, rest) => .ok (f value, rest)
  | .error failure => .error failure

def preceded (before : Parser β) (parser : Parser α) : Parser α := fun input =>
  match before input with
  | .ok (_, rest) => parser rest
  | .error failure => .error failure

def terminated (parser : Parser α) (after : Parser β) : Parser α := fun input =>
  match parser input with
  | .ok (value, rest) => map (fun _ => value) after rest
  | .error failure => .error failure

def orElse (parser alternative : Parser α) : Parser α := fun input =>
  match parser input with
  | .ok read => .ok read
  | .error failure => if failure.isFinal then .error failure else alternative input

def optional (parser : Parser α) : Parser (Option α) :=
  orElse (map some parser) (succeed none)

/-- Reads what something that has begun must go on with. -/
def insist (defect : Defect) (parser : Parser α) : Parser α := fun input =>
  match parser input with
  | .ok read => .ok read
  | .error failure =>
      .error { failure with isFinal := true, contexts := failure.contexts ++ [defect] }

/-- Reads as often as can be.  Nothing cannot be read over and over. -/
def many (parser : Parser α) (input : List Char) : Except Failure (List α × List Char) :=
  match parser input with
  | .error failure => if failure.isFinal then .error failure else .ok ([], input)
  | .ok (value, rest) =>
      if rest.length < input.length then
        match many parser rest with
        | .ok (values, rest) => .ok (value :: values, rest)
        | .error failure => .error failure
      else miss input
termination_by input.length

/-- Reads as often as can be, but once at least. -/
def many1 (parser : Parser α) : Parser (List α) := fun input =>
  match parser input with
  | .ok (value, rest) => map (value :: ·) (many parser) rest
  | .error failure => .error failure

/-- Reads the whole input. -/
def all (parser : Parser α) (input : List Char) : Except Failure α :=
  match parser input with
  | .ok (value, []) => .ok value
  | .ok (_, rest) => .error { rest }
  | .error failure => .error failure

/-! ## The grammar -/

def literal (text : List Char) : List Component :=
  [.literal (String.ofList text)]

def name : Parser (List Component) :=
  map (fun name => [.reference (String.ofList name)]) (chars1While isNameChar)

/-- A dollar sign that begins no reference is a text. -/
def reference : Parser (List Component) :=
  preceded (char '$') <|
    orElse (preceded (char '\x7b') (insist .reference (terminated name (char '\x7d')))) <|
      orElse name (succeed (literal ['$']))

def escapedChar : Parser (List Component) :=
  map (fun c => literal [c]) anyChar

def escape : Parser (List Component) :=
  preceded (char '\\') (insist .escape escapedChar)

/-- A part of what stands between double quotes. -/
def quotedPart : Parser (List Component) :=
  orElse (preceded (char '\\') escapedChar) <|
    orElse reference (map literal (chars1While fun c => !(['"', '\\', '$'].contains c)))

/-- Between the quotes there may be nothing, but not no word. -/
def doubleQuoted : Parser (List Component) :=
  preceded (char '"') <| insist .doubleQuote <|
    terminated (map (fun parts => literal [] ++ parts.flatten) (many quotedPart)) (char '"')

def singleQuoted : Parser (List Component) :=
  preceded (char '\'') <| insist .singleQuote <|
    terminated (map literal (charsWhile fun c => c != '\'')) (char '\'')

def bare : Parser (List Component) :=
  map literal (chars1While isBare)

def home : Parser Component := fun input =>
  match char '~' input with
  | .ok (_, rest) => if rest.head?.all endsTilde then .ok (.home, rest) else miss input
  | .error failure => .error failure

def wordPart : Parser (List Component) :=
  orElse bare <| orElse doubleQuoted <| orElse singleQuoted <| orElse escape reference

/-- Behind the home directory a word may end; otherwise it has a part. -/
def word : Parser Word := fun input =>
  match optional home input with
  | .ok (none, rest) => map (fun parts => Word.ofComponents parts.flatten) (many1 wordPart) rest
  | .ok (some first, rest) =>
      map (fun parts => Word.ofComponents (first :: parts.flatten)) (many wordPart) rest
  | .error failure => .error failure

def operator : Parser Token
  | [] => miss []
  | c :: rest =>
      match Token.ofOperator? c with
      | some token => .ok (token, rest)
      | none => miss (c :: rest)

def token : Parser Token :=
  orElse operator (map .word word)

def blanks : Parser (List Char) :=
  charsWhile isBlank

def line : Parser (List Token) :=
  preceded blanks (many (terminated token blanks))

/-! ## Lines -/

/-- Names the innermost of what had begun, or else what was left. -/
def Failure.syntaxError (failure : Failure) : SyntaxError :=
  match failure.contexts with
  | defect :: _ => .ofDefect defect
  | [] => .unexpectedInput (String.ofList failure.rest)

/-- Splits a line into tokens. -/
def lex (text : String) : Except SyntaxError (List Token) :=
  (all line text.toList).mapError Failure.syntaxError

end Parser

end JobShell
