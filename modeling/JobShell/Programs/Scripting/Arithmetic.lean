import JobShell.Programs.Scripting.State

/-!
# Arithmetic in scripts

Numbers of sixty-four bits with a sign, variables, and operators in the usual order of
strength.  What does not count for the result is read but not evaluated, so that it
neither sets a variable nor divides by zero.
-/

namespace JobShell.Programs.Scripting

namespace Arithmetic

/-! ## Symbols -/

inductive Symbol where
  | number (value : Int)
  | name (name : String)
  | operator (text : String)
  | other
  deriving DecidableEq, Repr, Inhabited

/-- Operators that an equals sign makes an assignment. -/
def assigning : List String :=
  ["<<", ">>", "*", "/", "%", "+", "-", "&", "^", "|"]

/-- Operators, longer ones before those that they begin with. -/
def operators : List String :=
  assigning.map (· ++ "=")
    ++ ["<<", ">>", "<=", ">=", "==", "!=", "&&", "||", "=", "<", ">", "!", "~", "(", ")", "*", "/",
        "%", "+", "-", "&", "^", "|", "?", ":"]

def operator? (text : List Char) : Option String :=
  operators.find? fun operator => operator.toList.isPrefixOf text

/-- The symbols of an expression; `limit` bounds the characters. -/
def symbolsFrom : Nat → List Char → List Symbol
  | 0, _ => []
  | _, [] => []
  | limit + 1, c :: rest =>
      let text := c :: rest
      if c = ' ' || c = '\t' || c = '\n' then symbolsFrom limit rest
      else if c.isDigit then
        match Number.read? text with
        | some reading =>
            .number (Number.clamp reading.value).1 :: symbolsFrom limit reading.rest
        | none => [.other]
      else if isNameStart c then
        let name := text.takeWhile isNameChar
        .name (String.ofList name) :: symbolsFrom limit (text.drop name.length)
      else
        match operator? text with
        | some operator => .operator operator :: symbolsFrom limit (text.drop operator.length)
        | none => [.other]

/-! ## Values -/

/-- How strongly a binary operator binds; the strongest one binds first. -/
def strength? : String → Option Nat
  | "*" | "/" | "%" => some 8
  | "+" | "-" => some 7
  | "<<" | ">>" => some 6
  | "<" | "<=" | ">" | ">=" => some 5
  | "==" | "!=" => some 4
  | "&" => some 3
  | "^" => some 2
  | "|" => some 1
  | _ => none

def truth (holds : Bool) : Int :=
  if holds then 1 else 0

/-- The bits of a number. -/
def bits (value : Int) : Nat :=
  (value % (Number.span : Int)).toNat

/-- Only the lowest bits of a number say how far is shifted. -/
def shiftCount (value : Int) : Nat :=
  bits value % 64

/-- The value of an operation; nothing for a division by zero. -/
def combine? (operator : String) (left right : Int) : Option Int :=
  match operator with
  | "==" => some (truth (left = right))
  | "!=" => some (truth (left ≠ right))
  | "<" => some (truth (left < right))
  | ">" => some (truth (left > right))
  | "<=" => some (truth (left ≤ right))
  | ">=" => some (truth (left ≥ right))
  | "+" => some (Number.wrap (left + right))
  | "-" => some (Number.wrap (left - right))
  | "*" => some (Number.wrap (left * right))
  | "/" => if right = 0 then none else some (Number.wrap (left.tdiv right))
  | "%" => if right = 0 then none else some (left.tmod right)
  | "<<" => some (Number.wrap (left * Nat.pow 2 (shiftCount right)))
  | ">>" => some (left.fdiv (Nat.pow 2 (shiftCount right)))
  | "&" => some (Number.wrap (bits left &&& bits right))
  | "^" => some (Number.wrap (bits left ^^^ bits right))
  | _ => some (Number.wrap (bits left ||| bits right))

/-! ## Evaluation -/

/-- What is left of an expression. -/
abbrev Evaluation := StateT (List Symbol) Shell

/-- The parts of expressions, from the weakest operators to the strongest. -/
inductive Goal where
  | assignment
  | conditional
  | disjunction
  | conjunction
  /-- Operators of at least the given strength behind a value. -/
  | operations (left : Int) (least : Nat)
  | primary
  deriving Repr, Inhabited

variable (text : String)

def fail {α : Type} (message : String) : Evaluation α :=
  liftM (Shell.fail (α := α) ("arithmetic expression: " ++ message ++ ": " ++ inQuotes text))

/-- The value of a variable, which has to be a number or blank. -/
def valueOf (name : String) : Evaluation Int := do
  let value ← liftM (Shell.parameter? name)
  let chars := (value.getD "").toList
  let refuse : Evaluation Int := liftM (Shell.fail (α := Int) ("Illegal number: " ++ String.ofList chars))
  match Number.read? chars with
  | some reading =>
      let (value, outOfRange) := Number.clamp reading.value
      if outOfRange || !reading.rest.all Number.isSpace then refuse else pure value
  | none => if chars.all Number.isSpace then pure 0 else refuse

def combine (operator : String) (left right : Int) : Evaluation Int :=
  match combine? operator left right with
  | some value => pure value
  | none => fail text "division by zero"

/-- Whether the next symbol is an operator, which is passed over then. -/
def passOver (operator : String) : Evaluation Bool := do
  match ← get with
  | .operator other :: rest =>
      if other = operator then
        set rest
        pure true
      else pure false
  | _ => pure false

/-- The operator that an assignment combines the old value with. -/
def assignment? (operator : String) : Option (Option String) :=
  if operator = "=" then some none
  else (assigning.find? fun other => other ++ "=" = operator).map some

/-- Evaluates a part of an expression, if it is `counted`; `limit` bounds the depth. -/
def evaluateFrom : Nat → Goal → Bool → Evaluation Int
  | 0, _, _ => fail text "expecting primary"
  | limit + 1, .assignment, counted => do
      match ← get with
      | .name name :: .operator operator :: rest =>
          match assignment? operator with
          | none => evaluateFrom limit .conditional counted
          | some combining => do
              set rest
              let value ← evaluateFrom limit .assignment counted
              if !counted then pure value
              else
                let value ← match combining with
                  | none => pure value
                  | some operator => do combine text operator (← valueOf name) value
                liftM (Shell.setVariable name (some (toString value)))
                pure value
      | _ => evaluateFrom limit .conditional counted
  | limit + 1, .conditional, counted => do
      let test ← evaluateFrom limit .disjunction counted
      if !(← passOver "?") then pure test
      else
        let first ← evaluateFrom limit .assignment (counted && test ≠ 0)
        if !(← passOver ":") then fail text "expecting ':'"
        let second ← evaluateFrom limit .conditional (counted && test = 0)
        pure (if test ≠ 0 then first else second)
  | limit + 1, .disjunction, counted => do
      let left ← evaluateFrom limit .conjunction counted
      if !(← passOver "||") then pure left
      else
        let right ← evaluateFrom limit .disjunction (counted && left = 0)
        pure (truth (left ≠ 0 || right ≠ 0))
  | limit + 1, .conjunction, counted => do
      let first ← evaluateFrom limit .primary counted
      let left ← evaluateFrom limit (.operations first 0) counted
      if !(← passOver "&&") then pure left
      else
        let right ← evaluateFrom limit .conjunction (counted && left ≠ 0)
        pure (truth (left ≠ 0 && right ≠ 0))
  | limit + 1, .operations left least, counted => do
      match ← get with
      | .operator operator :: rest =>
          match strength? operator with
          | none => pure left
          | some strength =>
              if strength < least then pure left
              else
                set rest
                let first ← evaluateFrom limit .primary counted
                let right ← evaluateFrom limit (.operations first (strength + 1)) counted
                let value ← if counted then combine text operator left right else pure right
                evaluateFrom limit (.operations value least) counted
      | _ => pure left
  | limit + 1, .primary, counted => do
      match ← get with
      | .number value :: rest => do
          set rest
          pure value
      | .name name :: rest => do
          set rest
          if counted then valueOf name else pure 0
      | .operator operator :: rest => do
          set rest
          match operator with
          | "(" => do
              let value ← evaluateFrom limit .assignment counted
              if !(← passOver ")") then fail text "expecting ')'"
              pure value
          | "+" => evaluateFrom limit .primary counted
          | "-" => do
              let value ← evaluateFrom limit .primary counted
              pure (Number.wrap (-value))
          | "!" => do
              let value ← evaluateFrom limit .primary counted
              pure (truth (value = 0))
          | "~" => do
              let value ← evaluateFrom limit .primary counted
              pure (-value - 1)
          | _ => fail text "expecting primary"
      | _ => fail text "expecting primary"

/-- The value of a whole expression. -/
def evaluate : Shell Int := do
  let symbols := symbolsFrom (text.length + 1) text.toList
  let (value, rest) ← (evaluateFrom text (8 * (symbols.length + 2)) .assignment true).run symbols
  if rest.isEmpty then pure value
  else Shell.fail ("arithmetic expression: expecting EOF: " ++ inQuotes text)

end Arithmetic

end JobShell.Programs.Scripting
