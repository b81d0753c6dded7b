import JobShell.Programs.Basic
import JobShell.Programs.Number.Real

/-!
# Programs that only end
-/

namespace JobShell.Programs

open JobShell.Machine
open JobShell.Machine.Action

def succeed : Program :=
  program fun _ _ => pure 0

def fail : Program :=
  program fun _ _ => pure 1

/-- The seconds in one of the units of time. -/
def unitSeconds? : List Char → Option Nat
  | [] | ['s'] => some 1
  | ['m'] => some 60
  | ['h'] => some 3600
  | ['d'] => some 86400
  | _ => none

/-- An interval without an end, in nanoseconds: some hundreds of years. -/
def endless : Nat := 10000000000000000000

/-- A number of seconds or of another unit, in nanoseconds. -/
def interval? (text : String) : Option Nat := do
  let reading ← Number.readReal? Number.double text.toList
  let unit ← unitSeconds? reading.rest
  match reading.value.magnitude with
  | .undefined => none
  | .infinity => if reading.value.negative then none else some endless
  | .finite units exponent =>
      if reading.value.negative && units ≠ 0 then none
      else
        let (high, low) := Number.scaled (units * unit * 1000000000) 1 2 exponent
        some (min endless ((high + low - 1) / low))

def sleepAction (name : String) (operands : List String) : Action Nat :=
  match operands.filter fun operand => (interval? operand).isNone with
  | [] =>
      if operands.isEmpty then misused name "missing operand" 1
      else do
        Action.sleep ((operands.filterMap interval?).foldl (· + ·) 0)
        pure 0
  | wrong => do
      for operand in wrong.dropLast do
        warn name ("invalid time interval " ++ plainQuoted operand)
      misused name ("invalid time interval " ++ plainQuoted (wrong.getLastD "")) 1

def sleep : Program :=
  program fun name arguments =>
    withArguments name 1 {} arguments fun arguments => sleepAction name arguments.operands

end JobShell.Programs
