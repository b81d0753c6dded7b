import JobShell.Programs.Scripting.Command

/-!
# Tokens of scripts

A script is read from left to right.  What is a word and what an operator is known at
once; whether a word is a keyword depends on where it stands.
-/

namespace JobShell.Programs.Scripting

/-! ## Mistakes -/

/-- What is wrong with the text of a script. -/
inductive Mistake where
  | unexpected (found : String) (expected : Option String)
  | unterminatedQuotes
  | unterminatedBackquote
  | missingBrace
  | missingParentheses
  | loopVariable
  | functionName
  deriving DecidableEq, Repr, Inhabited

def Mistake.message : Mistake → String
  | .unexpected found none => found ++ " unexpected"
  | .unexpected found (some expected) =>
      found ++ " unexpected (expecting " ++ expected ++ ")"
  | .unterminatedQuotes => "Unterminated quoted string"
  | .unterminatedBackquote => "EOF in backquote substitution"
  | .missingBrace => "Missing '\x7d'"
  | .missingParentheses => "Missing '))'"
  | .loopVariable => "Bad for loop variable"
  | .functionName => "Bad function name"

/-- A mistake with the number of its line. -/
structure Misread where
  line : Nat
  mistake : Mistake
  deriving Repr, Inhabited

/-! ## Tokens -/

/-- A redirection whose target has not been read. -/
inductive RedirectionSign where
  | file (stream : Nat) (opening : Opening)
  | duplicate (stream : Nat)
  | document (stream : Nat) (stripsTabs : Bool)
  deriving DecidableEq, Repr, Inhabited

inductive Token where
  | ended
  | newline
  | operator (symbol : String)
  | redirection (sign : RedirectionSign)
  /-- A word, and whether something in it is quoted. -/
  | word (word : Word) (quoted : Bool)
  | keyword (name : String)
  deriving Inhabited

def inQuotes (text : String) : String :=
  "\"" ++ text ++ "\""

/-- How a token is called in complaints. -/
def Token.description : Token → String
  | .ended => "end of file"
  | .newline => "newline"
  | .operator symbol => inQuotes symbol
  | .redirection _ => "redirection"
  | .word _ _ => "word"
  | .keyword name => inQuotes name

def keywords : List String :=
  ["!", "case", "do", "done", "elif", "else", "esac", "fi", "for", "if", "in", "then", "until",
   "while", "\x7b", "\x7d"]

/-- Whether a list of commands ends before a token. -/
def Token.endsList : Token → Bool
  | .ended => true
  | .operator symbol => symbol = ")" || symbol = ";;"
  | .keyword name =>
      ["do", "done", "elif", "else", "esac", "fi", "then", "\x7d"].contains name
  | _ => false

def Token.isOperator (symbol : String) : Token → Bool
  | .operator other => other = symbol
  | _ => false

def Token.isKeyword (name : String) : Token → Bool
  | .keyword other => other = name
  | _ => false

/-! ## Reading -/

/-- A text that is expected after the line in which it has been asked for. -/
structure PendingDocument where
  number : Nat
  /-- The line that ends it. -/
  mark : List Char
  stripsTabs : Bool
  quoted : Bool
  deriving Repr, Inhabited

/-- How far a script has been read. -/
structure Reader where
  rest : List Char
  line : Nat := 1
  last : Token := .newline
  /-- The last token is going to be read again. -/
  again : Bool := false
  /-- The last word that has been read. -/
  lastWord : Word := []
  pending : List PendingDocument := []
  /-- All texts after lines so far. -/
  documents : Array Word := #[]
  aliases : List (String × String) := []
  /-- Aliases that are being replaced, with what is left of the script behind them. -/
  replaced : List (String × Nat) := []
  deriving Inhabited

abbrev Reading := StateT Reader (Except Misread)

namespace Reading

def fail {α : Type} (mistake : Mistake) : Reading α := fun reader =>
  .error { line := reader.line, mistake }

/-- The last token is not what can follow. -/
def unexpected {α : Type} (expected : Option String) : Reading α := fun reader =>
  .error { line := reader.line, mistake := .unexpected reader.last.description expected }

def nextLine : Reading Unit :=
  modify fun reader => { reader with line := reader.line + 1 }

/-- The next character, if there is one. -/
def next : Reading (Option Char) := do
  let reader ← get
  match reader.rest with
  | [] => pure none
  | c :: rest => do
      set { reader with rest }
      pure (some c)

/-- Passes over line ends that are escaped. -/
def joinLines : List Char → Nat → List Char × Nat
  | '\\' :: '\n' :: rest, line => joinLines rest (line + 1)
  | rest, line => (rest, line)

/-- The next character; lines that end in a backslash are joined. -/
def nextJoined : Reading (Option Char) := do
  modify fun reader =>
    let (rest, line) := joinLines reader.rest reader.line
    { reader with rest, line }
  next

/-- Puts a character back. -/
def giveBack (c : Option Char) : Reading Unit :=
  modify fun reader => { reader with rest := c.toList ++ reader.rest }

/-- More than can be read from here. -/
def limit : Reading Nat := do
  let reader ← get
  pure (reader.rest.length + 2)

end Reading

end JobShell.Programs.Scripting
