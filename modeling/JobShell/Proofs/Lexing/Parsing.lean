import JobShell.Token.Parsers
import JobShell.Proofs.Lexing.Separation
import Mathlib.Data.List.TakeWhile

/-!
# Parsers against the scan

The scan takes one character after the other and never looks back; a parser takes runs of
characters, and tries alternatives on the same input.  What a parser reads, the scan is to
read from the same place of the line to the same place; what it fails on for good, the scan
is to fail on with the innermost of what had begun.  A miss says nothing, so that where
parsers miss is told apart.
-/

namespace JobShell

namespace Lexer.Scan

/-- The tokens of a line of which the rest is given, or its first defect. -/
def run (scan : Scan) (rest : List Char) : Except Defect (List Token) :=
  scan.steps rest >>= finish

theorem run_append {scan next : Scan} {left : List Char} (right : List Char)
    (hsteps : scan.steps left = .ok next) : scan.run (left ++ right) = next.run right := by
  rw [run, steps_append_of_steps right hsteps, run]

theorem run_cons {scan next : Scan} {c : Char} (rest : List Char)
    (hstep : scan.step c = .ok next) : scan.run (c :: rest) = next.run rest := by
  rw [run, steps_cons_of_step rest hstep, run]

end Lexer.Scan

namespace Parser

open Lexer (Scan)

/-! ## Agreement -/

/-- An alternative is left to read the input. -/
def Misses {α : Type} (outcome : Except Failure (α × List Char)) : Prop :=
  ∃ failure, outcome = .error failure ∧ failure.isFinal = false

section Agreement

variable {α β : Type} (ready : Scan → Prop) (takes : α → Scan → Scan → Prop)

/-- What comes of an input, against what the scan makes of it from a state in which it is
ready: it takes what has been read and is ready again, or it fails with the innermost
defect. -/
inductive Agrees (input : List Char) : Except Failure (α × List Char) → Prop where
  | reads {value : α} {rest : List Char} (hshorter : rest.length < input.length)
      (hruns : ∀ scan, ready scan → ∃ next, ready next ∧ takes value scan next ∧
        scan.run input = next.run rest) : Agrees input (.ok (value, rest))
  | misses {failure : Failure} (hmisses : failure.isFinal = false) :
      Agrees input (.error failure)
  | fails {failure : Failure} {defect : Defect} {outer : List Defect}
      (hfinal : failure.isFinal = true) (hcontexts : failure.contexts = defect :: outer)
      (hruns : ∀ scan, ready scan → scan.run input = .error defect) :
      Agrees input (.error failure)

/-- The scan takes one value after the other. -/
inductive TakesAll : List α → Scan → Scan → Prop where
  | nil (scan : Scan) : TakesAll [] scan scan
  | cons {value : α} {values : List α} {scan middle next : Scan}
      (hfirst : takes value scan middle) (hrest : TakesAll values middle next) :
      TakesAll (value :: values) scan next

/-- What comes of reading as often as can be: reading ends with a miss, which stands behind
what has been read last if anything has. -/
inductive Repeats (parser : Parser α) (input : List Char) :
    Except Failure (List α × List Char) → Prop where
  | stops {values : List α} {rest : List Char}
      (hlast : rest = input ∨ rest.length < input.length ∧
        ∃ earlier value, parser earlier = .ok (value, rest))
      (hmisses : Misses (parser rest))
      (hruns : ∀ scan, ready scan → ∃ next, ready next ∧ TakesAll takes values scan next ∧
        scan.run input = next.run rest) : Repeats parser input (.ok (values, rest))
  | fails {failure : Failure} {defect : Defect} {outer : List Defect}
      (hfinal : failure.isFinal = true) (hcontexts : failure.contexts = defect :: outer)
      (hruns : ∀ scan, ready scan → scan.run input = .error defect) :
      Repeats parser input (.error failure)

variable {ready takes}

theorem Agrees.orElse {parser alternative : Parser α} {input : List Char}
    (hparser : Agrees ready takes input (parser input))
    (halternative : Agrees ready takes input (alternative input)) :
    Agrees ready takes input (orElse parser alternative input) := by
  rw [Parser.orElse]
  generalize parser input = outcome at hparser ⊢
  cases hparser with
  | reads hshorter hruns => exact .reads hshorter hruns
  | misses hmisses =>
      simp only [hmisses]
      exact halternative
  | fails hfinal hcontexts hruns =>
      simp only [hfinal, if_true]
      exact .fails hfinal hcontexts hruns

theorem Agrees.map {f : β → α} {parser : Parser β} {input : List Char}
    (hparser : Agrees ready (fun value => takes (f value)) input (parser input)) :
    Agrees ready takes input (map f parser input) := by
  rw [Parser.map]
  generalize parser input = outcome at hparser ⊢
  cases hparser with
  | reads hshorter hruns => exact .reads hshorter hruns
  | misses hmisses => exact .misses hmisses
  | fails hfinal hcontexts hruns => exact .fails hfinal hcontexts hruns

theorem Agrees.of_misses {outcome : Except Failure (α × List Char)} {input : List Char}
    (hmisses : Misses outcome) : Agrees ready takes input outcome := by
  obtain ⟨failure, rfl, hmisses⟩ := hmisses
  exact .misses hmisses

/-- A parser that agrees everywhere agrees as often as it reads. -/
theorem repeats_many {parser : Parser α}
    (hparser : ∀ input, Agrees ready takes input (parser input)) (input : List Char) :
    Repeats ready takes parser input (many parser input) := by
  fun_induction many parser input with
  | case1 input failure hfailure hfinal =>
      have hagrees := hparser input
      rw [hfailure] at hagrees
      cases hagrees with
      | misses hmisses => cases hmisses.symm.trans hfinal
      | fails _ hcontexts hruns => exact .fails hfinal hcontexts hruns
  | case2 input failure hfailure hfinal =>
      exact .stops (.inl rfl) ⟨failure, hfailure, by simpa using hfinal⟩
        fun scan hready => ⟨scan, hready, .nil scan, rfl⟩
  | case3 input value rest hread hshorter values stop hmany ih =>
      have hagrees := hparser input
      rw [hread] at hagrees
      rw [hmany] at ih
      cases hagrees with
      | reads _ hfirst =>
          cases ih with
          | stops hlast hmisses hruns =>
              have hlater : stop.length < input.length ∧
                  ∃ earlier value, parser earlier = .ok (value, stop) := by
                rcases hlast with rfl | ⟨hlength, hearlier⟩
                · exact ⟨hshorter, input, value, hread⟩
                · exact ⟨hlength.trans hshorter, hearlier⟩
              refine .stops (.inr hlater) hmisses fun scan hready => ?_
              obtain ⟨middle, hmiddle, htakes, hrun⟩ := hfirst scan hready
              obtain ⟨next, hnext, htakesAll, hrest⟩ := hruns middle hmiddle
              exact ⟨next, hnext, .cons htakes htakesAll, hrun.trans hrest⟩
  | case4 input value rest hread hshorter failure hmany ih =>
      have hagrees := hparser input
      rw [hread] at hagrees
      rw [hmany] at ih
      cases hagrees with
      | reads _ hfirst =>
          cases ih with
          | fails hfinal hcontexts hruns =>
              refine .fails hfinal hcontexts fun scan hready => ?_
              obtain ⟨middle, hmiddle, -, hrun⟩ := hfirst scan hready
              exact hrun.trans (hruns middle hmiddle)
  | case5 input value rest hread hlonger =>
      have hagrees := hparser input
      rw [hread] at hagrees
      cases hagrees with
      | reads hshorter => exact absurd hshorter hlonger

/-- What does not miss is read once at least. -/
theorem many1_eq_many {parser : Parser α} {input : List Char}
    (hparser : Agrees ready takes input (parser input)) (hbegun : ¬ Misses (parser input)) :
    many1 parser input = many parser input := by
  rw [many1, many]
  generalize parser input = outcome at hparser hbegun ⊢
  cases hparser with
  | @reads _ rest hshorter =>
      simp only [hshorter, if_true, map]
      cases many parser rest <;> rfl
  | misses hmisses => exact absurd ⟨_, rfl, hmisses⟩ hbegun
  | fails hfinal =>
      simp only [hfinal, if_true]

end Agreement

/-! ## Where parsers miss -/

section Missing

variable {α β : Type}

@[simp]
theorem misses_ok (read : α × List Char) :
    ¬ Misses (.ok read : Except Failure (α × List Char)) := by
  rintro ⟨failure, hfailure, -⟩
  cases hfailure

@[simp]
theorem misses_miss (input : List Char) : Misses ((miss : Parser α) input) :=
  ⟨_, rfl, rfl⟩

@[simp]
theorem misses_succeed (value : α) (input : List Char) : ¬ Misses (succeed value input) :=
  misses_ok _

@[simp]
theorem misses_insist (defect : Defect) (parser : Parser α) (input : List Char) :
    ¬ Misses (insist defect parser input) := by
  rw [insist]
  split
  · exact misses_ok _
  · rintro ⟨failure, hfailure, hmisses⟩
    cases hfailure
    cases hmisses

@[simp]
theorem misses_map (f : α → β) (parser : Parser α) (input : List Char) :
    Misses (map f parser input) ↔ Misses (parser input) := by
  rw [map]
  cases parser input <;> simp [Misses]

@[simp]
theorem misses_orElse (parser alternative : Parser α) (input : List Char) :
    Misses (orElse parser alternative input) ↔
      Misses (parser input) ∧ Misses (alternative input) := by
  rw [orElse]
  cases parser input with
  | ok read => simp
  | error failure => cases hfinal : failure.isFinal <;> simp [Misses, hfinal]

@[simp]
theorem misses_preceded_char (c : Char) (parser : Parser α) (input : List Char) :
    Misses (preceded (char c) parser input) ↔
      ∀ rest, input = c :: rest → Misses (parser rest) := by
  cases input with
  | nil => simp [preceded, char, miss, Misses]
  | cons first rest => by_cases hfirst : first = c <;> simp [preceded, char, miss, hfirst, Misses]

@[simp]
theorem misses_anyChar (input : List Char) : Misses (anyChar input) ↔ input = [] := by
  cases input <;> simp [anyChar]

@[simp]
theorem misses_chars1While (property : Char → Bool) (input : List Char) :
    Misses (chars1While property input) ↔ ∀ c ∈ input.head?, property c = false := by
  rw [chars1While]
  cases input with
  | nil => simp
  | cons c rest => cases hc : property c <;> simp [hc, charsWhile]

end Missing

/-- What has begun is not left to an alternative. -/
theorem misses_begun {α : Type} {c : Char} {parser : Parser α}
    (hparser : ∀ rest, ¬ Misses (parser rest)) (input : List Char) :
    Misses (preceded (char c) parser input) ↔ input.head? ≠ some c := by
  rw [misses_preceded_char, Ne, List.head?_eq_some_iff, not_exists]
  exact forall_congr' fun rest => ⟨fun hmisses hinput => hparser rest (hmisses hinput),
    fun hinput hrest => absurd hrest hinput⟩

theorem not_misses_many {α : Type} {ready : Scan → Prop} {takes : α → Scan → Scan → Prop}
    {parser : Parser α} (hparser : ∀ input, Agrees ready takes input (parser input))
    (input : List Char) : ¬ Misses (many parser input) := by
  have hrepeats := repeats_many hparser input
  generalize many parser input = outcome at hrepeats ⊢
  cases hrepeats with
  | stops => exact misses_ok _
  | fails hfinal =>
      rintro ⟨failure, hfailure, hmisses⟩
      cases hfailure
      cases hmisses.symm.trans hfinal

theorem char_of_head?_ne {c : Char} {input : List Char} (hother : input.head? ≠ some c) :
    char c input = miss input := by
  cases input with
  | nil => rfl
  | cons first rest =>
      have hfirst : first ≠ c := by simpa using hother
      rw [char, if_neg hfirst]

@[simp]
theorem preceded_char_self {α : Type} (c : Char) (parser : Parser α) (rest : List Char) :
    preceded (char c) parser (c :: rest) = parser rest := by
  simp [preceded, char]

theorem orElse_of_misses {α : Type} {parser alternative : Parser α} {input : List Char}
    (hmisses : Misses (parser input)) : orElse parser alternative input = alternative input := by
  obtain ⟨failure, hfailure, hfinal⟩ := hmisses
  simp [orElse, hfailure, hfinal]

theorem orElse_of_not_misses {α : Type} {parser alternative : Parser α} {input : List Char}
    (hbegun : ¬ Misses (parser input)) : orElse parser alternative input = parser input := by
  rw [orElse]
  cases hparser : parser input with
  | ok read => rfl
  | error failure =>
      cases hfinal : failure.isFinal with
      | true => simp only [hfinal, if_true]
      | false => exact absurd ⟨failure, hparser, hfinal⟩ hbegun

/-! ## What has begun and is to be ended -/

section Enclosed

variable {α : Type} {defect : Defect} {parser : Parser α} {closing : Char}
  {body rest : List Char} {value : α}

theorem insist_of_error {failure : Failure} (hfailure : parser body = .error failure) :
    insist defect parser body =
      .error { failure with isFinal := true, contexts := failure.contexts ++ [defect] } := by
  rw [insist, hfailure]

theorem enclosed_of_closed (hread : parser body = .ok (value, closing :: rest)) :
    insist defect (terminated parser (char closing)) body = .ok (value, rest) := by
  simp [insist, terminated, hread, map, char]

theorem enclosed_of_open (hread : parser body = .ok (value, rest))
    (hopen : rest.head? ≠ some closing) :
    insist defect (terminated parser (char closing)) body =
      .error { isFinal := true, rest, contexts := [defect] } := by
  simp [insist, terminated, hread, map, char_of_head?_ne hopen, miss]

theorem enclosed_of_error {failure : Failure} (hfailure : parser body = .error failure) :
    insist defect (terminated parser (char closing)) body =
      .error { failure with isFinal := true, contexts := failure.contexts ++ [defect] } := by
  apply insist_of_error
  rw [terminated, hfailure]

end Enclosed

/-! ## Runs of characters -/

/-- A text is as long as a property goes. -/
structure Span (property : Char → Bool) (text rest : List Char) : Prop where
  chars : ∀ c ∈ text, property c
  stops : ∀ c ∈ rest.head?, property c = false

theorem exists_span (property : Char → Bool) (input : List Char) :
    ∃ text rest, input = text ++ rest ∧ Span property text rest := by
  refine ⟨input.takeWhile property, input.dropWhile property,
    List.takeWhile_append_dropWhile.symm, fun c hc => List.mem_takeWhile_imp hc, fun c hc => ?_⟩
  have hstops := List.head?_dropWhile_not property input
  rwa [hc] at hstops

theorem Span.charsWhile_eq {property : Char → Bool} {text rest : List Char}
    (hspan : Span property text rest) :
    charsWhile property (text ++ rest) = .ok (text, rest) := by
  have hrest : rest.takeWhile property = [] ∧ rest.dropWhile property = rest := by
    cases rest with
    | nil => exact ⟨rfl, rfl⟩
    | cons c rest => simp [hspan.stops c rfl]
  rw [charsWhile, List.takeWhile_append_of_pos hspan.chars,
    List.dropWhile_append_of_pos hspan.chars, hrest.1, hrest.2, List.append_nil]

theorem Span.chars1While_eq {property : Char → Bool} {text rest : List Char}
    (hspan : Span property text rest) (hnonempty : text ≠ []) :
    chars1While property (text ++ rest) = .ok (text, rest) := by
  rw [chars1While, List.takeWhile_append_of_pos hspan.chars, if_neg (by simp [hnonempty]),
    hspan.charsWhile_eq]

theorem Span.chars1While_miss {property : Char → Bool} {rest : List Char}
    (hspan : Span property [] rest) : chars1While property rest = miss rest := by
  have htext : rest.takeWhile property = [] := by
    cases rest with
    | nil => rfl
    | cons c rest => simp [hspan.stops c rfl]
  rw [chars1While, if_pos htext]

end Parser

end JobShell
