import JobShell.Proofs.Lexing.Quoting
import Mathlib.Tactic.MkIffOfInductiveProp

/-!
# Texts that need no quotes

A text of characters that stand for themselves is read as one word without being quoted,
unless its tilde stands for the home directory.  Texts with blanks between them are read
one after the other.
-/

namespace JobShell

/-- A text that can be typed as it is.  A tilde may begin it, but not where it stands for
the home directory: alone or before a slash. -/
@[mk_iff]
structure Plain (text : String) : Prop where
  nonempty : text ≠ ""
  bare : ∀ c ∈ text.toList, Lexer.isBare c
  notHome : text ≠ "~"
  notBelowHome : ¬ "~/".toList <+: text.toList

instance (text : String) : Decidable (Plain text) :=
  decidable_of_iff
    (text ≠ "" ∧ text.toList.all Lexer.isBare ∧ text ≠ "~" ∧ ¬ "~/".toList <+: text.toList) <| by
      rw [plain_iff, List.all_eq_true]

namespace Lexer

open JobShell.Text (isBlank)

theorem isBlank_eq_false_of_isBare {c : Char} (hbare : isBare c) : isBlank c = false := by
  simp only [isBare, Bool.and_eq_true, Bool.not_eq_true'] at hbare
  exact hbare.1.1

theorem ofOperator?_eq_none_of_isBare {c : Char} (hbare : isBare c) :
    Token.ofOperator? c = none := by
  simp only [isBare, isMetacharacter, Bool.and_eq_true, Bool.not_eq_true',
    Option.isSome_eq_false_iff, Option.isNone_iff_eq_none] at hbare
  exact hbare.1.2

theorem isSeparator_eq_false_of_isBare {c : Char} (hbare : isBare c) :
    isSeparator c = false :=
  (isSeparator_eq_false_iff c).mpr
    ⟨isBlank_eq_false_of_isBare hbare, ofOperator?_eq_none_of_isBare hbare⟩

theorem endsTilde_eq_false_of_isBare {c : Char} (hbare : isBare c) (hslash : c ≠ '/') :
    endsTilde c = false := by
  simp [endsTilde, isMetacharacter, hslash, isBlank_eq_false_of_isBare hbare,
    ofOperator?_eq_none_of_isBare hbare]

namespace Scan

section Gap

variable {scan : Scan} (hmode : scan.mode = .gap)

include hmode

/-- A tilde before a character that does not end it stands for itself. -/
theorem steps_tilde (c : Char) (rest : List Char) (hends : endsTilde c = false) :
    scan.steps ('~' :: c :: rest) = (scan.within .word).steps ('~' :: c :: rest) := by
  have hopen : scan.step '~' = .ok (scan.within .tilde) := by
    simp only [step, hmode]
    rfl
  have hread : (scan.within .tilde).step c =
      .ok (((scan.within .word).pushChar '~').bareStep c) := by
    simp only [step, within, hends, if_false, Bool.false_eq_true]
    rfl
  rw [steps_cons_of_step _ hopen, steps_cons_of_step _ hread]
  rfl

/-- A word can begin with any character that does not end one, and with a tilde if what
follows does not end it. -/
theorem steps_begin {c : Char} {rest : List Char} (hinside : isSeparator c = false)
    (htilde : c = '~' → ∃ next later, rest = next :: later ∧ endsTilde next = false) :
    scan.steps (c :: rest) = (scan.within .word).steps (c :: rest) := by
  by_cases hfirst : c = '~'
  · obtain ⟨next, later, rfl, hends⟩ := htilde hfirst
    rw [hfirst]
    exact steps_tilde hmode next later hends
  · obtain ⟨hvisible, hoperator⟩ := (isSeparator_eq_false_iff c).mp hinside
    exact steps_gap scan c rest hmode hvisible hoperator hfirst

end Gap

end Scan

theorem steps_plain {text : String} (hplain : Plain text) :
    Scan.steps {} text.toList =
      .ok ((Scan.within {} .word).withLiterals (text.toList.map String.singleton)) := by
  have hbare := hplain.bare
  have hnotHome : text.toList ≠ ['~'] := by
    intro hhome
    exact hplain.notHome (String.toList_inj.mp hhome)
  have hnotBelow := hplain.notBelowHome
  obtain ⟨c, rest, htext⟩ : ∃ c rest, text.toList = c :: rest :=
    List.exists_cons_of_ne_nil (by simpa using hplain.nonempty)
  rw [htext] at hbare hnotHome hnotBelow ⊢
  have hword : (Scan.within {} .word).steps (c :: rest) =
      .ok ((Scan.within {} .word).withLiterals ((c :: rest).map String.singleton)) :=
    Scan.steps_bare _ _ hbare rfl
  rw [← hword]
  apply Scan.steps_begin rfl (isSeparator_eq_false_of_isBare (hbare c List.mem_cons_self))
  rintro rfl
  obtain ⟨next, later, rfl⟩ : ∃ next later, rest = next :: later :=
    List.exists_cons_of_ne_nil (by simpa using hnotHome)
  refine ⟨next, later, rfl, endsTilde_eq_false_of_isBare (hbare next (by simp)) ?_⟩
  rintro rfl
  exact hnotBelow ⟨later, rfl⟩

end Lexer

/-- A plain text is read as the word that it is. -/
theorem Plain.lex {text : String} (hplain : Plain text) :
    JobShell.lex text = .ok [.word (.literal text)] := by
  have hnonempty : text.toList.map String.singleton ≠ [] := by
    simpa using hplain.nonempty
  have htext : String.join (text.toList.map String.singleton) = text :=
    String.toList_inj.mp (Lexer.toList_join_singletons text.toList)
  rw [lex_eq_ok_iff, Lexer.tokens_of_literals hnonempty (Lexer.steps_plain hplain), htext]

/-- What stands on both sides of a blank is read one after the other. -/
theorem lex_blank {left right : String} {before after : List Token} {c : Char}
    (hblank : Text.isBlank c) (hleft : lex left = .ok before) (hright : lex right = .ok after) :
    lex (left ++ String.singleton c ++ right) = .ok (before ++ after) := by
  rw [lex_eq_ok_iff] at hleft hright ⊢
  have hsep : Lexer.isSeparator c := by simp [Lexer.isSeparator, hblank]
  have hjoined := Lexer.tokens_separator hsep hleft right.toList
  rw [hright, Lexer.ofOperator?_of_isBlank c hblank] at hjoined
  simpa [Except.map] using hjoined

end JobShell
