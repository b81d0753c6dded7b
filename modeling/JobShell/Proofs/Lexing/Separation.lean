import JobShell.Token.Lexer

/-!
# Lexing on both sides of a separator

A blank or an operator outside quotes cuts a line in two: what stands behind it
is read as if it stood alone.  The cut is exact because every mode takes a
separator in the way in which it takes the end of the line, and because the
tokens that are finished are never looked at again.
-/

namespace JobShell.Lexer

open JobShell.Text (isBlank)

namespace Scan

theorem steps_append (scan : Scan) (left right : List Char) :
    scan.steps (left ++ right) =
      scan.steps left >>= fun next => next.steps right := by
  induction left generalizing scan with
  | nil => rfl
  | cons c rest ih =>
      simp only [List.cons_append, steps, bind_assoc]
      congr 1
      funext next
      exact ih next

theorem steps_cons_of_step {scan next : Scan} {c : Char} (rest : List Char)
    (hstep : scan.step c = .ok next) :
    scan.steps (c :: rest) = next.steps rest := by
  rw [steps, hstep]
  rfl

theorem steps_append_of_steps {scan next : Scan} {left : List Char}
    (right : List Char) (hsteps : scan.steps left = .ok next) :
    scan.steps (left ++ right) = next.steps right := by
  rw [steps_append, hsteps]
  rfl

/-! ## Finished tokens -/

/-- The scan behind tokens that were finished before it, last first. -/
def behind (earlier : List Token) (scan : Scan) : Scan :=
  { scan with tokens := scan.tokens ++ earlier }

section Behind

variable (earlier : List Token) (scan : Scan)

@[simp]
theorem mode_behind : (scan.behind earlier).mode = scan.mode := rfl

@[simp]
theorem push_behind (component : Component) :
    (scan.behind earlier).push component =
      (scan.push component).behind earlier := rfl

@[simp]
theorem pushChar_behind (c : Char) :
    (scan.behind earlier).pushChar c = (scan.pushChar c).behind earlier := rfl

@[simp]
theorem pushName_behind (name : List Char) :
    (scan.behind earlier).pushName name =
      (scan.pushName name).behind earlier := rfl

@[simp]
theorem within_behind (mode : Mode) :
    (scan.behind earlier).within mode = (scan.within mode).behind earlier := rfl

@[simp]
theorem emit_behind (token : Token) :
    (scan.behind earlier).emit token = (scan.emit token).behind earlier := rfl

@[simp]
theorem close_behind :
    (scan.behind earlier).close = scan.close.behind earlier := rfl

@[simp]
theorem bareStep_behind (c : Char) :
    (scan.behind earlier).bareStep c = (scan.bareStep c).behind earlier := by
  simp only [bareStep]
  split
  · simp
  · cases Token.ofOperator? c with
    | some token => simp
    | none => simp [apply_ite (behind earlier)]

@[simp]
theorem gapStep_behind (c : Char) :
    (scan.behind earlier).gapStep c = (scan.gapStep c).behind earlier := by
  simp only [gapStep]
  split
  · rfl
  · cases Token.ofOperator? c with
    | some token => simp
    | none => simp [apply_ite (behind earlier)]

@[simp]
theorem quotedStep_behind (c : Char) :
    (scan.behind earlier).quotedStep c = (scan.quotedStep c).behind earlier := by
  simp [quotedStep, apply_ite (behind earlier)]

@[simp]
theorem resume_behind (surroundings : Surroundings) (c : Char) :
    (scan.behind earlier).resume surroundings c =
      (scan.resume surroundings c).behind earlier := by
  cases surroundings <;> simp [resume]

theorem step_behind (c : Char) :
    (scan.behind earlier).step c = (scan.step c).map (behind earlier) := by
  simp only [step, mode_behind]
  cases scan.mode <;> simp only <;> repeat' split
  all_goals simp [Except.map]

theorem steps_behind (line : List Char) :
    (scan.behind earlier).steps line =
      (scan.steps line).map (behind earlier) := by
  induction line generalizing scan with
  | nil => rfl
  | cons c rest ih =>
      simp only [steps, step_behind]
      cases scan.step c with
      | error defect => rfl
      | ok next => exact ih next

theorem finish_behind :
    (scan.behind earlier).finish =
      scan.finish.map (earlier.reverse ++ ·) := by
  have htokens (ended : Scan) :
      (ended.behind earlier).tokens.reverse =
        earlier.reverse ++ ended.tokens.reverse := by
    simp [behind]
  simp only [finish, mode_behind]
  cases scan.mode with
  | dollar surroundings | name surroundings _ =>
      cases surroundings <;> simp [Except.map, htokens]
  | _ => simp [Except.map, htokens]

end Behind

/-! ## Between words -/

/-- Between words nothing has been read of a word. -/
def Settled (scan : Scan) : Prop :=
  scan.mode = .gap → scan.parts = []

@[simp]
theorem settled_within (scan : Scan) (mode : Mode) :
    (scan.within mode).Settled ↔ (mode = .gap → scan.parts = []) := Iff.rfl

@[simp]
theorem settled_pushChar (scan : Scan) (c : Char) :
    (scan.pushChar c).Settled ↔ scan.mode ≠ .gap := by
  simp [Settled, pushChar, push]

@[simp]
theorem mode_ne_gap (surroundings : Surroundings) :
    Surroundings.mode surroundings ≠ .gap := by
  cases surroundings <;> simp [Surroundings.mode]

@[simp]
theorem settled_close (scan : Scan) : scan.close.Settled := fun _ => rfl

@[simp]
theorem settled_bareStep (scan : Scan) (c : Char) :
    (scan.bareStep c).Settled := by
  simp only [bareStep]
  split
  · exact settled_close scan
  · cases Token.ofOperator? c with
    | some token => exact settled_close scan
    | none =>
        simp only
        repeat' split
        all_goals simp

@[simp]
theorem settled_quotedStep (scan : Scan) (c : Char) :
    (scan.quotedStep c).Settled := by
  simp only [quotedStep]
  repeat' split
  all_goals simp

@[simp]
theorem settled_resume (scan : Scan) (surroundings : Surroundings) (c : Char) :
    (scan.resume surroundings c).Settled := by
  cases surroundings <;> simp [resume]

theorem settled_gapStep (scan : Scan) (c : Char) (hsettled : scan.Settled) :
    (scan.gapStep c).Settled := by
  simp only [gapStep]
  split
  · exact hsettled
  · cases Token.ofOperator? c with
    | some token => exact hsettled
    | none =>
        simp only
        split <;> simp

theorem settled_of_step {scan next : Scan} {c : Char}
    (hsettled : scan.Settled) (hstep : scan.step c = .ok next) :
    next.Settled := by
  simp only [step] at hstep
  cases hmode : scan.mode <;> simp only [hmode] at hstep
  all_goals repeat' split at hstep
  all_goals cases hstep
  all_goals simp [settled_gapStep, hsettled, hmode]

theorem settled_of_steps {scan ended : Scan} {line : List Char}
    (hsettled : scan.Settled) (hsteps : scan.steps line = .ok ended) :
    ended.Settled := by
  induction line generalizing scan with
  | nil =>
      cases hsteps
      exact hsettled
  | cons c rest ih =>
      simp only [steps] at hsteps
      cases hstep : scan.step c with
      | error defect =>
          rw [hstep] at hsteps
          cases hsteps
      | ok next =>
          rw [hstep] at hsteps
          exact ih (settled_of_step hsettled hstep) hsteps

end Scan

/-! ## Separators -/

/-- A character that ends a word outside quotes. -/
def isSeparator (c : Char) : Bool :=
  isBlank c || isMetacharacter c

theorem isSeparator_eq_false_iff (c : Char) :
    isSeparator c = false ↔ isBlank c = false ∧ Token.ofOperator? c = none := by
  rw [isSeparator, Bool.or_eq_false_iff, isMetacharacter, Option.isSome_eq_false_iff,
    Option.isNone_iff_eq_none]

theorem ofOperator?_of_isBlank (c : Char) (hblank : isBlank c) :
    Token.ofOperator? c = none := by
  fun_cases Token.ofOperator? c
  · exact absurd hblank (by decide)
  · exact absurd hblank (by decide)
  · exact absurd hblank (by decide)
  · exact absurd hblank (by decide)
  · rfl

theorem isAlphanum_iff (c : Char) :
    c.isAlphanum ↔ (65 ≤ c.toNat ∧ c.toNat ≤ 90 ∨ 97 ≤ c.toNat ∧ c.toNat ≤ 122) ∨
      48 ≤ c.toNat ∧ c.toNat ≤ 57 := by
  change ((decide (_ ∧ _) || (decide _ && decide _)) || (decide _ && decide _)) ↔ _
  simp only [Bool.or_eq_true, Bool.and_eq_true, decide_eq_true_eq, ge_iff_le,
    UInt32.le_iff_toNat_le]
  rfl

theorem isNameChar_of_isBlank (c : Char) (hblank : isBlank c) :
    isNameChar c = false := by
  simp [isBlank, Text.inRanges, Text.blankRanges] at hblank
  rw [isNameChar, Bool.or_eq_false_iff]
  constructor
  · rw [Bool.eq_false_iff, Ne, isAlphanum_iff]
    omega
  · rw [beq_eq_false_iff_ne]
    rintro rfl
    exact absurd hblank (by decide)

theorem isNameChar_of_isMetacharacter (c : Char) (hmeta : isMetacharacter c) :
    isNameChar c = false := by
  rw [isMetacharacter] at hmeta
  fun_cases Token.ofOperator? c
  · rfl
  · rfl
  · rfl
  · rfl
  · next hother => simp [Token.ofOperator?] at hmeta

theorem isNameChar_of_isSeparator (c : Char) (hsep : isSeparator c) :
    isNameChar c = false := by
  rcases Bool.or_eq_true_iff.mp hsep with hblank | hmeta
  · exact isNameChar_of_isBlank c hblank
  · exact isNameChar_of_isMetacharacter c hmeta

namespace Scan

/-- A separator closes the word and is a token of its own if it is an operator. -/
theorem bareStep_separator (scan : Scan) (c : Char) (hsep : isSeparator c) :
    scan.bareStep c =
      behind ((Token.ofOperator? c).toList ++ scan.close.tokens) {} := by
  rw [bareStep]
  split
  · next hblank => simp [ofOperator?_of_isBlank c hblank, behind, close]
  · next hvisible =>
      have hmeta : isMetacharacter c := by simpa [isSeparator, hvisible] using hsep
      obtain ⟨token, htoken⟩ := Option.isSome_iff_exists.mp hmeta
      simp [htoken, behind, emit, close]

theorem gapStep_separator (scan : Scan) (c : Char) (hsep : isSeparator c)
    (hparts : scan.parts = []) (hmode : scan.mode = .gap) :
    scan.gapStep c =
      behind ((Token.ofOperator? c).toList ++ scan.tokens) {} := by
  obtain ⟨tokens, parts, mode⟩ := scan
  subst hparts hmode
  rw [gapStep]
  split
  · next hblank => simp [ofOperator?_of_isBlank c hblank, behind]
  · next hvisible =>
      have hmeta : isMetacharacter c := by simpa [isSeparator, hvisible] using hsep
      obtain ⟨token, htoken⟩ := Option.isSome_iff_exists.mp hmeta
      simp [htoken, behind, emit]

/-- Where a line can end, a separator ends what is being read in the same way. -/
theorem step_separator {scan : Scan} {c : Char} {tokens : List Token}
    (hsep : isSeparator c) (hsettled : scan.Settled)
    (hfinish : scan.finish = .ok tokens) :
    scan.step c =
      .ok (behind ((Token.ofOperator? c).toList ++ tokens.reverse) {}) := by
  have hclose (ended : Scan) (hended : ended.close.tokens.reverse = tokens) :
      ended.bareStep c =
        behind ((Token.ofOperator? c).toList ++ tokens.reverse) {} := by
    rw [bareStep_separator ended c hsep, ← hended, List.reverse_reverse]
  have hname := isNameChar_of_isSeparator c hsep
  simp only [finish] at hfinish
  cases hmode : scan.mode with
  | gap =>
      simp only [hmode, Except.ok.injEq] at hfinish
      simp only [step, hmode]
      rw [gapStep_separator scan c hsep (hsettled hmode) hmode, ← hfinish,
        List.reverse_reverse]
  | tilde =>
      have htilde : endsTilde c := by
        rw [endsTilde, Bool.or_assoc]
        exact Bool.or_eq_true_iff.mpr (.inr hsep)
      simp only [hmode, Except.ok.injEq] at hfinish
      simp only [step, hmode, htilde, if_true, hclose _ hfinish]
  | word =>
      simp only [hmode, Except.ok.injEq] at hfinish
      simp only [step, hmode, hclose _ hfinish]
  | dollar surroundings =>
      have hbrace : c ≠ '\x7b' := by
        rintro rfl
        exact absurd hsep (by decide)
      cases surroundings <;> simp only [hmode, reduceCtorEq] at hfinish
      simp only [Except.ok.injEq] at hfinish
      simp [step, hmode, hbrace, hname, resume, hclose _ hfinish]
  | name surroundings name =>
      cases surroundings <;> simp only [hmode, reduceCtorEq] at hfinish
      simp only [Except.ok.injEq] at hfinish
      simp [step, hmode, hname, resume, hclose _ hfinish]
  | escape | singleQuotes | doubleQuotes | doubleQuotesEscape | braces =>
      simp [hmode] at hfinish

end Scan

theorem tokens_eq_ok_iff (line : List Char) (result : List Token) :
    tokens line = .ok result ↔
      ∃ ended, Scan.steps {} line = .ok ended ∧ ended.finish = .ok result := by
  rw [tokens]
  cases Scan.steps {} line with
  | error defect => simp [bind, Except.bind]
  | ok ended => simp [bind, Except.bind]

/-- A line behind finished tokens is lexed as if it stood alone. -/
theorem steps_behind_finish (earlier : List Token) (line : List Char) :
    (Scan.steps (Scan.behind earlier {}) line >>= Scan.finish) =
      (tokens line).map (earlier.reverse ++ ·) := by
  rw [Scan.steps_behind, tokens]
  cases Scan.steps {} line with
  | error defect => rfl
  | ok ended => exact Scan.finish_behind earlier ended

/-- What stands behind a separator is read as if it stood alone. -/
theorem tokens_separator {left : List Char} {c : Char} {before : List Token}
    (hsep : isSeparator c) (hleft : tokens left = .ok before)
    (right : List Char) :
    tokens (left ++ c :: right) =
      (tokens right).map (before ++ (Token.ofOperator? c).toList ++ ·) := by
  obtain ⟨ended, hsteps, hfinish⟩ := (tokens_eq_ok_iff left before).mp hleft
  have hsettled : ended.Settled := Scan.settled_of_steps (fun _ => rfl) hsteps
  have hstep := Scan.step_separator hsep hsettled hfinish
  have hreverse :
      ((Token.ofOperator? c).toList ++ before.reverse).reverse =
        before ++ (Token.ofOperator? c).toList := by
    cases Token.ofOperator? c <;> simp
  calc
    tokens (left ++ c :: right)
      = ended.steps (c :: right) >>= Scan.finish := by
        rw [tokens, Scan.steps_append_of_steps _ hsteps]
    _ = (Scan.behind ((Token.ofOperator? c).toList ++ before.reverse) {}).steps
          right >>= Scan.finish := by
        rw [Scan.steps_cons_of_step right hstep]
    _ = (tokens right).map (before ++ (Token.ofOperator? c).toList ++ ·) := by
        rw [steps_behind_finish, hreverse]

end JobShell.Lexer

namespace JobShell

open Text (isBlank)

theorem lex_eq_ok_iff (line : String) (result : List Token) :
    lex line = .ok result ↔ Lexer.tokens line.toList = .ok result := by
  rw [lex]
  cases Lexer.tokens line.toList with
  | ok tokens =>
      change Except.ok tokens = Except.ok result ↔ _
      rw [Except.ok.injEq, Except.ok.injEq]
  | error defect => exact ⟨nofun, nofun⟩

/-- Lexing is compositional: a separator behind a line that lexes leaves its
tokens as they are and the rest of the line, with its errors, to itself. -/
theorem lex_append_separator (left right : String) (c : Char)
    (before : List Token) (hleft : lex left = .ok before) :
    (isBlank c →
      lex (left ++ String.singleton c ++ right) =
        (lex right).map (before ++ ·)) ∧
    (∀ operator, Token.ofOperator? c = some operator →
      lex (left ++ String.singleton c ++ right) =
        (lex right).map (before ++ [operator] ++ ·)) := by
  have hcut (hsep : Lexer.isSeparator c) :
      lex (left ++ String.singleton c ++ right) =
        (lex right).map (before ++ (Token.ofOperator? c).toList ++ ·) := by
    have htokens := Lexer.tokens_separator hsep
      ((lex_eq_ok_iff left before).mp hleft) right.toList
    simp only [lex, String.toList_append, String.toList_singleton,
      List.append_assoc, List.singleton_append, htokens]
    cases Lexer.tokens right.toList <;> rfl
  constructor
  · intro hblank
    have hsep : Lexer.isSeparator c := by simp [Lexer.isSeparator, hblank]
    simpa [Lexer.ofOperator?_of_isBlank c hblank] using hcut hsep
  · intro operator hoperator
    have hsep : Lexer.isSeparator c := by
      simp [Lexer.isSeparator, isMetacharacter, hoperator]
    simpa [hoperator] using hcut hsep

/-- A home directory and a lone dollar sign end at a blank and at an operator as
they end at the end of the line, before a defect as before a word. -/
theorem lex_append_separator_home_dollar :
    lex "cd ~ a$~" =
        .ok [.word (.literal "cd"), .word ⟨[.home]⟩, .word (.literal "a$~")] ∧
      (isBlank ' ' ∧
        lex ("cd ~ a$~" ++ String.singleton ' ' ++ "wc 'x") =
          .error (.unterminated "unterminated single quote")) ∧
      (Token.ofOperator? '|' = some .pipe ∧
        lex ("cd ~ a$~" ++ String.singleton '|' ++ "~") =
          .ok [.word (.literal "cd"), .word ⟨[.home]⟩, .word (.literal "a$~"),
            .pipe, .word ⟨[.home]⟩]) :=
  have hlex : lex "cd ~ a$~" =
      .ok [.word (.literal "cd"), .word ⟨[.home]⟩, .word (.literal "a$~")] := rfl
  ⟨hlex,
    ⟨rfl, (lex_append_separator "cd ~ a$~" "wc 'x" ' ' _ hlex).1 rfl⟩,
    ⟨rfl, (lex_append_separator "cd ~ a$~" "~" '|' _ hlex).2 .pipe rfl⟩⟩

end JobShell
