import JobShell.Builtin
import Mathlib.Data.Nat.Digits.Defs
import Mathlib.Tactic.MkIffOfInductiveProp

/-!
# Codes to exit with

The argument of `exit` is a decimal numeral, with or without a sign, for a number of 32
bits.  No other builtin ends the session, and `exit` itself does not if its arguments
are anything else.
-/

namespace JobShell

namespace Text

/-- Decimal digits, of which there is at least one, denote a number. -/
@[mk_iff]
structure Denotes (digits : List Char) (value : Nat) : Prop where
  nonempty : digits ≠ []
  isDigit : ∀ c ∈ digits, c.isDigit
  value : Nat.ofDigits 10 (digits.reverse.map fun c => c.toNat - '0'.toNat) = value

theorem foldl_digits (digits : List Char) :
    digits.foldl (fun value c => value * 10 + (c.toNat - '0'.toNat)) 0 =
      Nat.ofDigits 10 (digits.reverse.map fun c => c.toNat - '0'.toNat) := by
  rw [Nat.ofDigits_eq_foldr, List.foldr_map, List.foldl_eq_foldr_reverse]
  congr 1
  funext c value
  rw [Nat.cast_id, Nat.mul_comm, Nat.add_comm]

theorem digitsValue?_eq_some_iff (digits : List Char) (value : Nat) :
    digitsValue? digits = some value ↔ Denotes digits value := by
  rw [digitsValue?, foldl_digits, Option.ite_none_left_eq_some, Option.some.injEq, denotes_iff]
  simp [and_assoc]

end Text

namespace Builtin

theorem ofName?_eq_some_iff (name : String) (builtin : Builtin) :
    ofName? name = some builtin ↔ name = builtin.name := by
  constructor
  · intro hname
    rw [ofName?] at hname
    repeat' split at hname
    all_goals
      cases hname
    all_goals assumption
  · rintro rfl
    cases builtin <;> rfl

/-- Digits with a sign before them or none, and the number that they denote. -/
inductive Numeral : List Char → Int → Prop where
  | unsigned {digits : List Char} {value : Nat} (hdigits : Text.Denotes digits value) :
      Numeral digits value
  | plus {digits : List Char} {value : Nat} (hdigits : Text.Denotes digits value) :
      Numeral ('+' :: digits) value
  | minus {digits : List Char} {value : Nat} (hdigits : Text.Denotes digits value) :
      Numeral ('-' :: digits) (-value)

/-- The arguments with which `exit` ends the session, and the code. -/
inductive ExitArguments : List String → Int → Prop where
  | none : ExitArguments [] 0
  | code {text : String} {code : Int} (hnumeral : Numeral text.toList code)
      (hlower : -2 ^ 31 ≤ code) (hupper : code < 2 ^ 31) : ExitArguments [text] code

theorem numeral_minus_iff (digits : List Char) (code : Int) :
    Numeral ('-' :: digits) code ↔ ∃ value : Nat, Text.Denotes digits value ∧ -value = code := by
  constructor
  · intro hnumeral
    cases hnumeral with
    | unsigned hdigits => cases hdigits.isDigit '-' List.mem_cons_self
    | minus hdigits => exact ⟨_, hdigits, rfl⟩
  · rintro ⟨value, hdigits, rfl⟩
    exact .minus hdigits

theorem numeral_plus_iff (digits : List Char) (code : Int) :
    Numeral ('+' :: digits) code ↔ ∃ value : Nat, Text.Denotes digits value ∧ value = code := by
  constructor
  · intro hnumeral
    cases hnumeral with
    | unsigned hdigits => cases hdigits.isDigit '+' List.mem_cons_self
    | plus hdigits => exact ⟨_, hdigits, rfl⟩
  · rintro ⟨value, hdigits, rfl⟩
    exact .plus hdigits

theorem numeral_unsigned_iff {digits : List Char} (hminus : ∀ rest, digits ≠ '-' :: rest)
    (hplus : ∀ rest, digits ≠ '+' :: rest) (code : Int) :
    Numeral digits code ↔ ∃ value : Nat, Text.Denotes digits value ∧ value = code := by
  constructor
  · intro hnumeral
    cases hnumeral with
    | unsigned hdigits => exact ⟨_, hdigits, rfl⟩
    | plus => exact absurd rfl (hplus _)
    | minus => exact absurd rfl (hminus _)
  · rintro ⟨value, hdigits, rfl⟩
    exact .unsigned hdigits

theorem exitCode?_eq_some_iff (text : String) (code : Int) :
    exitCode? text = some code ↔
      Numeral text.toList code ∧ -2 ^ 31 ≤ code ∧ code < 2 ^ 31 := by
  rw [exitCode?, Option.filter_eq_some_iff]
  apply and_congr
  · split
    · next digits hchars =>
        rw [hchars, numeral_minus_iff]
        simp [Option.bind_eq_some_iff, Text.digitsValue?_eq_some_iff]
    · next digits hchars =>
        rw [hchars, numeral_plus_iff]
        simp [Text.digitsValue?_eq_some_iff]
    · next hminus hplus =>
        rw [numeral_unsigned_iff hminus hplus]
        simp [Text.digitsValue?_eq_some_iff]
  · rw [Bool.and_eq_true, decide_eq_true_eq, decide_eq_true_eq]
    omega

theorem runExit_eq_ok_iff (arguments : List String) (code : Int) :
    runExit arguments = .ok code ↔ ExitArguments arguments code := by
  constructor
  · intro hrun
    match arguments with
    | [] =>
        cases hrun
        exact .none
    | [text] =>
        rw [runExit] at hrun
        split at hrun
        · next value hvalue =>
            cases hrun
            obtain ⟨hnumeral, hlower, hupper⟩ := (exitCode?_eq_some_iff text code).mp hvalue
            exact .code hnumeral hlower hupper
        · cases hrun
    | _ :: _ :: _ => cases hrun
  · intro harguments
    cases harguments with
    | none => rfl
    | code hnumeral hlower hupper =>
        have hvalue := (exitCode?_eq_some_iff _ code).mpr ⟨hnumeral, hlower, hupper⟩
        rw [runExit, hvalue]

variable {σ : Type}

/-- No builtin but `exit` ends the session, and that changes nothing else. -/
theorem run_eq_exit_iff (host : Host σ) (builtin : Builtin) (arguments : List String)
    (environment : Environment) (state : σ) (code : Int) :
    (builtin.run host arguments environment state).1 = .ok (.exit code) ↔
      builtin = .exit ∧ ExitArguments arguments code := by
  have hstatus (result : Except Fault Unit) :
      result.map (fun _ => Outcome.status 0) ≠ .ok (.exit code) := by
    cases result <;> nofun
  cases builtin with
  | cd => simp [run, hstatus]
  | setenv => simp [run, hstatus]
  | unsetenv => simp [run, hstatus]
  | exit =>
      rw [← runExit_eq_ok_iff]
      rw [run]
      cases runExit arguments <;> simp [Except.map]

end Builtin

end JobShell
