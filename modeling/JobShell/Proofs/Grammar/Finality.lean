import JobShell.Proofs.Grammar.Derivation

/-!
# Errors that no continuation mends

The check goes from left to right and looks one token ahead.  What it finds wrong with the
tokens behind it stays wrong whatever follows; what it misses at the end of a line may
still come.  So the errors fall into two kinds: a lasting one is the error of every longer
line, and each of the others is that of a line which goes on to pass.
-/

namespace JobShell

/-- Whether an error is about tokens that have been read, and not about what a longer line
could still bring. -/
def SyntaxError.isLasting : SyntaxError → Bool
  | .missingCommand side => side = "before"
  | .duplicateRedirect _ | .inputAfterPipe | .misplacedBackground => true
  | _ => false

namespace Grammar

/-- A command that has begun goes on. -/
theorem canStartCommand_append {tokens : List Token} (rest : List Token)
    (hstarts : canStartCommand tokens = true) : canStartCommand (tokens ++ rest) = true := by
  match tokens with
  | .word _ :: _ | .pipe :: _ | .redirect _ :: _ => rfl

/-- From any progress on, a lasting error is met before the end of the tokens, so it is met
as well if there are more of them. -/
theorem checkFrom_append_of_lasting {progress : Progress} {tokens : List Token}
    {error : SyntaxError} (rest : List Token) (hlasting : error.isLasting)
    (hfails : checkFrom progress tokens = .error error) :
    checkFrom progress (tokens ++ rest) = .error error := by
  fun_induction checkFrom progress tokens with
  | case1 | case13 => cases hfails
  | case2 | case5 | case6 | case11 | case14 =>
      -- these errors do not last
      cases hfails
      cases hlasting
  | case3 progress spelled more ih =>
      rw [List.cons_append, checkFrom]
      exact ih hfails
  | case4 progress more hempty =>
      rw [List.cons_append, checkFrom, if_pos hempty]
      exact hfails
  | case7 progress more hbegun hnamed hahead ih =>
      have hstarts : canStartCommand more = true := by simpa using hahead
      have hgoes : ¬ (!canStartCommand (more ++ rest)) = true := by
        simp [canStartCommand_append rest hstarts]
      rw [List.cons_append, checkFrom, if_neg hbegun, if_neg hnamed, if_neg hgoes]
      exact ih hfails
  | case8 progress direction target more hseen =>
      rw [List.cons_append, List.cons_append, checkFrom, if_pos hseen]
      exact hfails
  | case9 progress direction target more hnew hlater =>
      rw [List.cons_append, List.cons_append, checkFrom, if_neg hnew, if_pos hlater]
      exact hfails
  | case10 progress direction target more hnew hfirst ih =>
      rw [List.cons_append, List.cons_append, checkFrom, if_neg hnew, if_neg hfirst]
      exact ih hfails
  | case12 progress more hmore =>
      have hlonger : (!(more ++ rest).isEmpty) = true := by
        cases more with
        | nil => cases hmore
        | cons token more => rfl
      rw [List.cons_append, checkFrom, if_pos hlonger]
      exact hfails

/-- The errors of the check that do not last: it was waiting for a name, a command or a
target. -/
theorem error_of_checkFrom {progress : Progress} {tokens : List Token} {error : SyntaxError}
    (hfails : checkFrom progress tokens = .error error) (htransient : ¬ error.isLasting) :
    error = .emptyCommand ∨ error = .missingCommandAfter ∨
      ∃ direction : Direction, error = .missingRedirectTarget direction.symbol := by
  fun_induction checkFrom progress tokens with
  | case1 | case13 => cases hfails
  | case3 progress spelled more ih => exact ih hfails
  | case7 progress more hbegun hnamed hahead ih => exact ih hfails
  | case10 progress direction target more hnew hfirst ih => exact ih hfails
  | case4 | case8 | case9 | case12 =>
      cases hfails
      exact absurd rfl htransient
  | case2 | case5 | case14 =>
      cases hfails
      exact .inl rfl
  | case6 =>
      cases hfails
      exact .inr (.inl rfl)
  | case11 progress direction tail hmissing =>
      cases hfails
      exact .inr (.inr ⟨direction, rfl⟩)

/-- An error that does not last is that of a line which needs one more word. -/
theorem exists_completion {error : SyntaxError}
    (hwaiting : error = .emptyCommand ∨ error = .missingCommandAfter ∨
      ∃ direction : Direction, error = .missingRedirectTarget direction.symbol) :
    ∃ opening, check opening = .error error ∧
      ∀ word, check (opening ++ [.word word]) = .ok () := by
  obtain rfl | rfl | ⟨direction, rfl⟩ := hwaiting
  · exact ⟨[], rfl, fun _ => rfl⟩
  · exact ⟨[.word (.literal "ls"), .pipe], rfl, fun _ => rfl⟩
  · refine ⟨[.word (.literal "ls"), .redirect direction], rfl, ?_⟩
    intro word
    cases direction <;> rfl

/-- A line that is rejected with a lasting error stays so however it goes on: no later token
makes it pass or changes the error.  No other error of the check is as final: it is that of
a line which passes with any word behind it. -/
theorem check_append_of_error {tokens : List Token} {error : SyntaxError}
    (hfails : check tokens = .error error) :
    (error.isLasting → ∀ rest, check (tokens ++ rest) = .error error) ∧
      (¬ error.isLasting →
        ∃ opening, check opening = .error error ∧
          ∀ word, check (opening ++ [.word word]) = .ok ()) := by
  constructor
  · intro hlasting rest
    exact checkFrom_append_of_lasting rest hlasting hfails
  · intro htransient
    exact exists_completion (error_of_checkFrom hfails htransient)

/-- Two pipes in a row are never mended, and one at the end can be. -/
theorem check_append_of_error_pipes :
    (check [.word (.literal "ls"), .pipe, .pipe] = .error (.missingCommand "before") ∧
      check [.word (.literal "ls"), .pipe, .pipe, .word (.literal "wc"), .background] =
        .error (.missingCommand "before")) ∧
    (check [.word (.literal "ls"), .pipe] = .error (.missingCommand "after") ∧
      ∃ opening, check opening = .error (.missingCommand "after") ∧
        ∀ word, check (opening ++ [.word word]) = .ok ()) := by
  have hbefore :
      check [.word (.literal "ls"), .pipe, .pipe] = .error (.missingCommand "before") := rfl
  have hafter : check [.word (.literal "ls"), .pipe] = .error (.missingCommand "after") := rfl
  exact ⟨⟨hbefore, (check_append_of_error hbefore).1 rfl _⟩,
    ⟨hafter, (check_append_of_error hafter).2 (by decide)⟩⟩

end Grammar

end JobShell
