import JobShell.Programs.Wildcard

/-!
# Commands of scripts

What a script is made of, once it has been read: commands with words, and words with
parts that are expanded when a command is run.  A script inside of a word has been
read with it.
-/

namespace JobShell.Programs.Scripting

/-- What is made of the value of a parameter. -/
inductive ParameterUse where
  | plain
  | length
  /-- A word takes the place of a missing value. -/
  | byDefault
  /-- A word takes the place of a value that is there. -/
  | instead
  /-- A missing value is a mistake. -/
  | demand
  /-- A missing value is set. -/
  | assign
  | withoutEnd (longest : Bool)
  | withoutStart (longest : Bool)
  /-- What is written is no use that there is. -/
  | unknown
  deriving DecidableEq, Repr, Inhabited

/-- How a redirection opens its file. -/
inductive Opening where
  | reads
  | readsAndWrites
  /-- An existing file may be protected. -/
  | writes
  | overwrites
  | appends
  deriving DecidableEq, Repr, Inhabited

mutual

inductive Part where
  /-- A character, which means nothing but itself if it is `escaped`. -/
  | char (c : Char) (escaped : Bool)
  /-- The beginning or the end of quotes. -/
  | quote
  | parameter (name : String) (use : ParameterUse) (coversEmpty : Bool) (word : List Part)
  /-- What a script prints. -/
  | output (command : Option Command)
  | arithmetic (expression : List Part)

inductive Redirection where
  | file (stream : Nat) (opening : Opening) (name : List Part)
  /-- The stream becomes another name for a stream. -/
  | duplicate (stream : Nat) (source : List Part)
  /-- A text that follows in the script, by its number among such texts. -/
  | document (stream : Nat) (number : Nat)

inductive Command where
  | simple (line : Nat) (assignments words : List (List Part))
      (redirections : List Redirection)
  | pipeline (members : List Command) (background : Bool)
  | negated (inner : Command)
  | both (first second : Command)
  | either (first second : Command)
  | sequence (first second : Command)
  | background (line : Nat) (body : Command) (redirections : List Redirection)
  | subshell (line : Nat) (body : Command) (redirections : List Redirection)
  | redirected (line : Nat) (body : Command) (redirections : List Redirection)
  | conditional (test body : Command) (other : Option Command)
  /-- Repeats the body as long as the test comes out as wanted. -/
  | loop (wanted : Bool) (test body : Command)
  | each (line : Nat) (name : String) (words : List (List Part)) (body : Command)
  /-- Runs the first branch with a pattern that the word matches. -/
  | choose (line : Nat) (word : List Part)
      (branches : List (List (List Part) × Option Command))
  | define (name : String) (body : Command)

end

abbrev Word := List Part

/-- All parameters, each as a field of its own. -/
def allParameters : Word :=
  [.quote, .parameter "@" .plain false [], .quote]

def isNameStart (c : Char) : Bool :=
  c.isAlpha || c = '_'

def isNameChar (c : Char) : Bool :=
  c.isAlphanum || c = '_'

def isName (text : List Char) : Bool :=
  text.head?.any isNameStart && text.all isNameChar

/-- A parameter that is named by one character that no name begins with. -/
def isSpecialParameter (c : Char) : Bool :=
  ['?', '$', '!', '#', '@', '*', '-'].contains c || c.isDigit

/-- The text of a word, if nothing in it is escaped or expanded. -/
def plainText? : Word → Option (List Char)
  | [] => some []
  | .char c false :: rest => (plainText? rest).map (c :: ·)
  | _ => none

/-- The plain characters at the start of a word. -/
def plainStart : Word → List Char
  | .char c false :: rest => c :: plainStart rest
  | _ => []

/-- Whether a word gives a value to a variable. -/
def isAssignment (word : Word) : Bool :=
  let text := plainStart word
  let name := text.takeWhile isNameChar
  isName name && text[name.length]? = some '='

/-- Utilities that are part of the language: no function can have their names, and a
mistake in their use ends a script. -/
def specialUtilities : List String :=
  [".", ":", "break", "continue", "eval", "exec", "exit", "export", "local", "readonly", "return",
   "set", "shift", "times", "trap", "unset"]

end JobShell.Programs.Scripting
