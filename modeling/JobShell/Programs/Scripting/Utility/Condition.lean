import JobShell.Programs.Scripting.Utility.Basic

/-!
# Conditions

A condition is made of words.  Whether a word is an operator depends on the words around
it, and short conditions are read in a way of their own.
-/

namespace JobShell.Programs.Scripting

open JobShell.Machine

namespace Condition

/-! ## Operators -/

inductive Kind where
  | unary
  | binary
  | negation
  | conjunction
  | disjunction
  | opening
  | closing
  deriving DecidableEq, Repr, Inhabited

def unaryOperators : List String :=
  ["-r", "-w", "-x", "-e", "-f", "-d", "-c", "-b", "-p", "-u", "-g", "-k", "-s", "-t", "-z", "-n",
   "-h", "-O", "-G", "-L", "-S"]

def binaryOperators : List String :=
  ["=", "!=", "<", ">", "-eq", "-ne", "-ge", "-gt", "-le", "-lt", "-nt", "-ot", "-ef"]

def kind? (word : String) : Option Kind :=
  if unaryOperators.contains word then some .unary
  else if binaryOperators.contains word then some .binary
  else
    match word with
    | "!" => some .negation
    | "-a" => some .conjunction
    | "-o" => some .disjunction
    | "(" => some .opening
    | ")" => some .closing
    | _ => none

inductive Lexeme where
  | ended
  | operand
  | operator (kind : Kind)
  deriving DecidableEq, Repr, Inhabited

/-- What the first of some words is. -/
def lexeme : List String → Lexeme
  | [] => .ended
  | word :: rest =>
      match kind? word, rest with
      | none, _ => .operand
      | some .unary, [] => .operand
      | some .unary, [_] => .operator .unary
      | some .unary, next :: _ =>
          if kind? next = some .binary then .operand else .operator .unary
      | some .opening, [] => .operand
      | some kind, _ => .operator kind

/-! ## Properties of files -/

def isDirectory : Content → Bool
  | .directory _ _ _ => true
  | _ => false

/-- What a letter says about a file. -/
def fileHolds (operator : String) (attributes : Attributes) : Bool :=
  match operator, attributes.content with
  | "-f", .file _ | "-f", .program _ => true
  | "-f", _ => false
  | "-d", content => isDirectory content
  | "-c", .device _ => true
  | "-c", _ => false
  | "-b", _ | "-p", _ | "-S", _ => false
  | "-h", .link _ | "-L", .link _ => true
  | "-h", _ | "-L", _ => false
  | "-s", .file bytes => !bytes.isEmpty
  | "-s", .device _ => false
  | "-u", _ => attributes.permissions &&& 0o4000 ≠ 0
  | "-g", _ => attributes.permissions &&& 0o2000 ≠ 0
  | "-k", _ => attributes.permissions &&& 0o1000 ≠ 0
  | "-x", content => isDirectory content || attributes.permissions &&& 0o111 ≠ 0
  | _, _ => true

def follows (operator : String) : Bool :=
  operator ≠ "-h" && operator ≠ "-L"

def inspectFile (operator path : String) : Shell (Option Attributes) := do
  match ← Shell.act (Action.inspect (Text.bytesOf path) (follows operator)) with
  | .ok attributes => pure (some attributes)
  | .error _ => pure none

/-! ## Values -/

def unaryHolds (operator operand : String) : Shell Bool :=
  match operator with
  | "-z" => pure (operand = "")
  | "-n" => pure (operand ≠ "")
  | "-t" => do
      let _ ← integer operand
      pure false
  | operator => do
      pure ((← inspectFile operator operand).any (fileHolds operator))

/-- How numbers are compared. -/
def comparison? : String → Option (Int → Int → Bool)
  | "-eq" => some fun left right => left = right
  | "-ne" => some fun left right => left ≠ right
  | "-lt" => some fun left right => left < right
  | "-le" => some fun left right => left ≤ right
  | "-gt" => some fun left right => left > right
  | "-ge" => some fun left right => left ≥ right
  | _ => none

/-- Whether a text comes before another. -/
def precedes (left right : String) : Bool :=
  left ≠ right && lessEqual (Text.bytesOf left) (Text.bytesOf right)

def binaryHolds (left operator right : String) : Shell Bool :=
  match comparison? operator with
  | some compare => do
      let first ← integer left
      let second ← integer right
      pure (compare first second)
  | none =>
      match operator with
      | "=" => pure (left = right)
      | "!=" => pure (left ≠ right)
      | "<" => pure (precedes left right)
      | ">" => pure (precedes right left)
      | "-ef" => do
          match ← inspectFile "-e" left, ← inspectFile "-e" right with
          | some first, some second => pure (first.inode = second.inode)
          | _, _ => pure false
      | _ => pure false

/-! ## Evaluation -/

/-- The words of a condition from the one that is looked at on. -/
abbrev Evaluation := StateT (List String) Shell

inductive Goal where
  | disjunction
  | conjunction
  | negation
  | primary
  deriving Repr, Inhabited

def fail {α : Type} (message : String) : Evaluation α :=
  liftM (Shell.fail (α := α) message)

/-- Passes over words, and says what the next one is. -/
def pass (count : Nat) : Evaluation Lexeme := do
  modify (List.drop count)
  pure (lexeme (← get))

/-- What the word after the current one is. -/
def ahead : Evaluation Lexeme := do
  pure (lexeme (← get).tail)

/-- Evaluates a part of a condition, which ends with the current word; `limit` bounds the
depth. -/
def evaluateFrom : Nat → Goal → Lexeme → Evaluation Bool
  | 0, _, _ => pure false
  | limit + 1, .disjunction, first => do
      let left ← evaluateFrom limit .conjunction first
      if (← ahead) ≠ .operator .disjunction then pure left
      else
        let right ← evaluateFrom limit .disjunction (← pass 2)
        pure (left || right)
  | limit + 1, .conjunction, first => do
      let left ← evaluateFrom limit .negation first
      if (← ahead) ≠ .operator .conjunction then pure left
      else
        let right ← evaluateFrom limit .conjunction (← pass 2)
        pure (left && right)
  | limit + 1, .negation, first => do
      if first ≠ .operator .negation then evaluateFrom limit .primary first
      else
        let next ← ahead
        if next ≠ .ended then
          let _ ← pass 1
        pure (!(← evaluateFrom limit .negation next))
  | limit + 1, .primary, first => do
      let words ← get
      match first, words with
      | .ended, _ | _, [] => pure false
      | .operator .opening, _ => do
          let next ← pass 1
          if next = .operator .closing then pure false
          else
            let holds ← evaluateFrom limit .disjunction next
            if (← pass 1) ≠ .operator .closing then fail "closing paren expected"
            pure holds
      | .operator .unary, operator :: rest =>
          match rest with
          | [] => fail (operator ++ ": argument expected")
          | operand :: _ => do
              let _ ← pass 1
              unaryHolds operator operand
      | _, word :: rest =>
          match lexeme rest, rest with
          | .operator .binary, operator :: right :: _ => do
              let _ ← pass 2
              binaryHolds word operator right
          | .operator .binary, operator :: [] => fail (operator ++ ": argument expected")
          | _, _ => pure (word ≠ "")

/-- Evaluates a whole condition whose first word is known to be something. -/
def evaluate (words : List String) (first : Lexeme) : Shell Bool := do
  let (holds, rest) ← (evaluateFrom (5 * (words.length + 2)) .disjunction first).run words
  match rest with
  | word :: _ :: _ =>
      Shell.fail (if word = "" then "unexpected operator" else word ++ ": unexpected operator")
  | _ => pure holds

/-- Whether a condition holds; conditions of three and four words are read in a way of
their own. -/
def holds : List String → Shell Bool
  | [] => pure false
  | [left, operator, right] =>
      if kind? operator = some .binary then evaluate [left, operator, right] .operand
      else if left = "(" && right = ")" then evaluate [operator] (lexeme [operator])
      else if left = "!" then do
        pure (!(← evaluate [operator, right] (lexeme [operator, right])))
      else evaluate [left, operator, right] (lexeme [left, operator, right])
  | [first, second, third, fourth] =>
      if first = "(" && fourth = ")" then evaluate [second, third] (lexeme [second, third])
      else if first = "!" then do
        pure (!(← holds [second, third, fourth]))
      else evaluate [first, second, third, fourth] (lexeme [first, second, third, fourth])
  | words => evaluate words (lexeme words)
termination_by words => words.length

end Condition

def test : Utility := fun words => do
  pure (if ← Condition.holds words then 0 else 1)

/-- A condition up to a closing bracket. -/
def bracket : Utility := fun words =>
  match words.getLast? with
  | some "]" => test words.dropLast
  | _ => Shell.fail "missing ]"

end JobShell.Programs.Scripting
