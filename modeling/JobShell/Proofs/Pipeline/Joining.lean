import JobShell.Proofs.Pipeline.Expansion

/-!
# Lines on both sides of a pipe

A pipe joins two lines into one.  The first of them must not end in the background mark,
and no command of the second may read from a file; apart from that each side is checked
and split as if it stood alone.
-/

namespace JobShell

namespace Grammar

/-! ## The check -/

theorem redirections_eq_zero_of_notMem {direction : Direction} {items : List Item}
    (hnone : .redirect direction ∉ items.flatMap Item.tokens) :
    redirections direction items = 0 := by
  refine List.countP_eq_zero.mpr fun item hitem hredirects => hnone ?_
  cases item with
  | word spelled => cases hredirects
  | redirect other target =>
      obtain rfl : other = direction := by simpa [Item.redirects] using hredirects
      exact List.mem_flatMap.mpr ⟨_, hitem, List.mem_cons_self⟩

theorem notMem_of_redirections_eq_zero {direction : Direction} {items : List Item}
    (hzero : redirections direction items = 0) :
    .redirect direction ∉ items.flatMap Item.tokens := by
  intro hmem
  obtain ⟨item, hitem, htoken⟩ := List.mem_flatMap.mp hmem
  have hredirects := List.countP_eq_zero.mp hzero item hitem
  cases item with
  | word spelled => simp [Item.tokens] at htoken
  | redirect other target =>
      obtain rfl : direction = other := by simpa [Item.tokens] using htoken
      simp [Item.redirects] at hredirects

/-- What may follow a pipe is what may be a line of its own, if no command in it reads
from a file. -/
theorem continues_afterPipe_iff (tokens : List Token) :
    Continues .afterPipe tokens ↔ Continues {} tokens ∧ .redirect .input ∉ tokens := by
  rw [continues_start_iff]
  constructor
  · rintro ⟨items, others, background, hcompletes, hothers, rfl⟩
    obtain ⟨segment, rfl, hinput⟩ := (completes_afterPipe items).mp hcompletes
    refine ⟨⟨⟨segment, others, background, hothers⟩, rfl⟩, ?_⟩
    have hpiped : .redirect .input ∉ pipedTokens others := by
      intro hmem
      obtain ⟨other, hother, htoken⟩ := List.mem_flatMap.mp hmem
      exact notMem_of_redirections_eq_zero (hothers other hother) (by simpa using htoken)
    have hmark : .redirect .input ∉ markTokens background := by
      cases background <;> simp [markTokens]
    simp only [lineTokens, List.mem_append, not_or]
    exact ⟨notMem_of_redirections_eq_zero hinput, hpiped, hmark⟩
  · rintro ⟨⟨derivation, rfl⟩, hinput⟩
    rw [Derivation.tokens, lineTokens, List.mem_append, not_or] at hinput
    exact ⟨derivation.first.items, derivation.others, derivation.background,
      (completes_afterPipe _).mpr
        ⟨derivation.first, rfl, redirections_eq_zero_of_notMem hinput.1⟩,
      derivation.inputOnlyFirst, rfl⟩

/-- A token in front of others makes no difference to a mark at their end. -/
theorem getLast?_cons_eq_background_iff (token : Token) (rest : List Token)
    (htoken : token ≠ .background) :
    (token :: rest).getLast? = some .background ↔ rest.getLast? = some .background := by
  rw [List.getLast?_cons]
  cases rest.getLast? <;> simp [htoken]

/-- Up to a pipe a line is checked as if it ended there, and behind it as if the check had
begun with the pipe. -/
theorem continues_append_pipe (progress : Progress) (left right : List Token) :
    Continues progress (left ++ .pipe :: right) ↔
      Continues progress left ∧ left.getLast? ≠ some .background ∧
        Continues .afterPipe right := by
  match left with
  | [] => simp [continues_pipe, continues_nil]
  | .word spelled :: rest =>
      rw [List.cons_append, continues_word, continues_word, Ne,
        getLast?_cons_eq_background_iff (.word spelled) rest nofun]
      exact continues_append_pipe progress.withWord rest right
  | .pipe :: rest =>
      rw [List.cons_append, continues_pipe, continues_pipe, Ne,
        getLast?_cons_eq_background_iff .pipe rest nofun, and_assoc]
      exact and_congr_right' (continues_append_pipe .afterPipe rest right)
  | .background :: rest =>
      refine iff_of_false ?_ ?_
      · simp [continues_background]
      · rintro ⟨hleft, hlast, -⟩
        obtain ⟨rfl, -⟩ := (continues_background progress rest).mp hleft
        exact hlast rfl
  | .redirect direction :: rest =>
      rw [List.cons_append, continues_redirect, continues_redirect, Ne,
        getLast?_cons_eq_background_iff (.redirect direction) rest nofun]
      match rest with
      | .word target :: rest =>
          rw [getLast?_cons_eq_background_iff (.word target) rest nofun]
          simp [continues_append_pipe (progress.withRedirect direction) rest right, and_assoc]
      | [] => simp
      | .pipe :: _ | .background :: _ | .redirect _ :: _ => simp

theorem check_append_pipe_iff (left right : List Token) :
    check (left ++ .pipe :: right) = .ok () ↔
      check left = .ok () ∧ check right = .ok () ∧ left.getLast? ≠ some .background ∧
        .redirect .input ∉ right := by
  have hcheck (tokens : List Token) : check tokens = .ok () ↔ Continues {} tokens :=
    checkFrom_eq_ok_iff {} tokens (by simp)
  rw [hcheck, hcheck, hcheck, continues_append_pipe, continues_afterPipe_iff]
  exact and_congr_right' and_left_comm

end Grammar

namespace Pipeline

/-! ## Splitting -/

/-- Tokens are split at a pipe whether or not they are well-formed. -/
theorem split_append_pipe (bindings : Bindings) (left right : List Token) :
    split bindings (left ++ .pipe :: right) =
      ((split bindings left).1,
        (split bindings left).2 ++ (split bindings right).1 :: (split bindings right).2) := by
  fun_induction split bindings left with
  | case1 => rfl
  | case2 word rest command others hsplit ih => simp [split, ih, hsplit]
  | case3 rest command others hsplit ih => simp [split, ih, hsplit]
  | case4 direction word rest command others hsplit ih => simp [split, ih, hsplit]
  | case5 token rest hword hpipe hredirect ih =>
      -- a redirection without a target gets none from the pipe
      have hskipped : split bindings (token :: (rest ++ .pipe :: right)) =
          split bindings (rest ++ .pipe :: right) := by
        cases token with
        | word word => exact (hword word rfl).elim
        | pipe => exact (hpipe rfl).elim
        | background => rfl
        | redirect direction =>
            cases rest with
            | nil => rfl
            | cons next rest =>
                cases next with
                | word word => exact (hredirect direction word rest rfl rfl).elim
                | pipe | background | redirect _ => rfl
      rw [List.cons_append, hskipped, ih]

theorem ofTokens_append_pipe (bindings : Bindings) (left right : List Token) :
    ofTokens bindings (left ++ .pipe :: right) =
      { commands := (ofTokens bindings left).commands ++ (ofTokens bindings right).commands
        background := (ofTokens bindings right).background } := by
  have hlast : (left ++ .pipe :: right).getLast? = some .background ↔
      right.getLast? = some .background := by
    rw [List.getLast?_append, List.getLast?_cons, Option.some_or]
    cases right.getLast? <;> simp
  simp only [ofTokens, split_append_pipe, hlast, List.cons_append]

end Pipeline

theorem parse_eq_ok_iff (bindings : Bindings) (tokens : List Token) (pipeline : Pipeline) :
    parse bindings tokens = .ok pipeline ↔
      Grammar.check tokens = .ok () ∧ Pipeline.ofTokens bindings tokens = pipeline := by
  rw [parse]
  cases Grammar.check tokens with
  | error error =>
      refine iff_of_false ?_ ?_
      · intro hparse
        cases hparse
      · rintro ⟨hcheck, -⟩
        cases hcheck
  | ok =>
      constructor
      · intro hparse
        exact ⟨rfl, Except.ok.inj hparse⟩
      · rintro ⟨-, rfl⟩
        rfl

/-- Tokens on both sides of a pipe are a line together exactly if each side is one by
itself, the first is not in the background and the second reads from no file; and then the
commands of the first are followed by those of the second, which says whether to wait. -/
theorem parse_append_pipe_eq_ok_iff (bindings : Bindings) (left right : List Token)
    (pipeline : Pipeline) :
    parse bindings (left ++ .pipe :: right) = .ok pipeline ↔
      ∃ first second, parse bindings left = .ok first ∧ parse bindings right = .ok second ∧
        left.getLast? ≠ some .background ∧ .redirect .input ∉ right ∧
        pipeline =
          { commands := first.commands ++ second.commands, background := second.background } := by
  simp only [parse_eq_ok_iff, Grammar.check_append_pipe_iff, Pipeline.ofTokens_append_pipe]
  constructor
  · rintro ⟨⟨hleft, hright, hlast, hinput⟩, rfl⟩
    exact ⟨_, _, ⟨hleft, rfl⟩, ⟨hright, rfl⟩, hlast, hinput, rfl⟩
  · rintro ⟨first, second, ⟨hleft, rfl⟩, ⟨hright, rfl⟩, hlast, hinput, rfl⟩
    exact ⟨⟨hleft, hright, hlast, hinput⟩, rfl⟩

end JobShell
