import JobShell.Grammar

/-!
# Derivations of lines

The grammar of lines as trees that carry the conditions on a command, and the
tokens that a tree spells.  A line passes the check exactly if some tree spells
it: the progress of a check stands for the command that has been begun, and what
may follow is described by the items that still complete it.
-/

namespace JobShell.Grammar

/-- What a command is made of. -/
inductive Item where
  /-- A word that is no redirection target. -/
  | word (word : Word)
  | redirect (direction : Direction) (target : Word)
  deriving DecidableEq, Repr, Inhabited

namespace Item

def tokens : Item → List Token
  | .word spelled => [.word spelled]
  | .redirect direction target => [.redirect direction, .word target]

def isWord : Item → Bool
  | .word _ => true
  | .redirect _ _ => false

def redirects (direction : Direction) : Item → Bool
  | .word _ => false
  | .redirect other _ => other = direction

@[simp]
theorem isWord_word (spelled : Word) : (Item.word spelled).isWord = true := rfl

@[simp]
theorem isWord_redirect (direction : Direction) (target : Word) :
    (Item.redirect direction target).isWord = false := rfl

end Item

/-- How often a stream is redirected. -/
def redirections (direction : Direction) (items : List Item) : Nat :=
  items.countP (Item.redirects direction)

/-- A command with a name that redirects each stream at most once. -/
structure Segment where
  items : List Item
  named : items.any Item.isWord
  once : ∀ direction, redirections direction items ≤ 1

/-- The tree of a line.  Only its first command may redirect the input. -/
structure Derivation where
  first : Segment
  others : List Segment
  background : Bool
  inputOnlyFirst : ∀ segment ∈ others, redirections .input segment.items = 0

/-- Commands, each behind a pipe. -/
def pipedTokens (segments : List Segment) : List Token :=
  segments.flatMap fun segment =>
    .pipe :: segment.items.flatMap Item.tokens

def markTokens (background : Bool) : List Token :=
  if background then [.background] else []

/-- The tokens of a line that goes on with the given items and commands. -/
def lineTokens (items : List Item) (others : List Segment)
    (background : Bool) : List Token :=
  items.flatMap Item.tokens ++ (pipedTokens others ++ markTokens background)

def Derivation.tokens (derivation : Derivation) : List Token :=
  lineTokens derivation.first.items derivation.others derivation.background

/-! ## What completes a command -/

/-- The items complete a command of which `progress` has been seen. -/
structure Completes (progress : Progress) (items : List Item) : Prop where
  named : progress.named ∨ items.any Item.isWord
  once : ∀ direction,
    (progress.redirects direction).toNat + redirections direction items ≤ 1
  inputOnlyFirst : progress.isFirst = false → redirections .input items = 0

@[simp]
theorem redirections_nil (direction : Direction) :
    redirections direction [] = 0 := rfl

@[simp]
theorem redirections_word (direction : Direction) (spelled : Word)
    (items : List Item) :
    redirections direction (.word spelled :: items) =
      redirections direction items := by
  simp [redirections, Item.redirects]

@[simp]
theorem redirections_redirect (direction other : Direction) (target : Word)
    (items : List Item) :
    redirections direction (.redirect other target :: items) =
      redirections direction items + if other = direction then 1 else 0 := by
  simp [redirections, Item.redirects, List.countP_cons]

@[simp]
theorem isFirst_withWord (progress : Progress) :
    progress.withWord.isFirst = progress.isFirst := rfl

@[simp]
theorem isFirst_withRedirect (progress : Progress) (direction : Direction) :
    (progress.withRedirect direction).isFirst = progress.isFirst := by
  cases direction <;> rfl

@[simp]
theorem named_withRedirect (progress : Progress) (direction : Direction) :
    (progress.withRedirect direction).named = progress.named := by
  cases direction <;> rfl

@[simp]
theorem redirects_withWord (progress : Progress) (direction : Direction) :
    progress.withWord.redirects direction = progress.redirects direction := by
  cases direction <;> rfl

theorem redirects_withRedirect (progress : Progress)
    (direction other : Direction) :
    (progress.withRedirect direction).redirects other =
      (progress.redirects other || decide (direction = other)) := by
  cases direction <;> cases other <;> simp [Progress.redirects, Progress.withRedirect]

theorem completes_nil (progress : Progress) :
    Completes progress [] ↔ progress.named := by
  constructor
  · intro hcompletes
    simpa using hcompletes.named
  · intro hnamed
    exact ⟨.inl hnamed, fun direction => by simpa using Bool.toNat_le _,
      fun _ => rfl⟩

theorem completes_word (progress : Progress) (spelled : Word)
    (items : List Item) :
    Completes progress (.word spelled :: items) ↔
      Completes progress.withWord items := by
  constructor
  · intro hcompletes
    exact ⟨.inl rfl, by simpa using hcompletes.once,
      by simpa using hcompletes.inputOnlyFirst⟩
  · intro hcompletes
    exact ⟨.inr (by simp), by simpa using hcompletes.once,
      by simpa using hcompletes.inputOnlyFirst⟩

/-- A redirection is counted as if it had been seen, and must be the first one. -/
theorem once_redirect (progress : Progress) (direction : Direction)
    (target : Word) (items : List Item) :
    (∀ other, (progress.redirects other).toNat +
        redirections other (.redirect direction target :: items) ≤ 1) ↔
      progress.redirects direction = false ∧
        ∀ other, ((progress.withRedirect direction).redirects other).toNat +
          redirections other items ≤ 1 := by
  have hseen (hnew : progress.redirects direction = false) (other : Direction) :
      ((progress.withRedirect direction).redirects other).toNat +
          redirections other items =
        (progress.redirects other).toNat +
          redirections other (.redirect direction target :: items) := by
    rw [redirects_withRedirect, redirections_redirect]
    by_cases heq : direction = other
    · subst other
      simp only [hnew, if_pos, Bool.toNat_false, decide_true, Bool.or_true,
        Bool.toNat_true]
      omega
    · simp [heq]
  constructor
  · intro honce
    have hnew : progress.redirects direction = false := by
      have hboth := honce direction
      rw [redirections_redirect, if_pos rfl] at hboth
      rw [← Bool.not_eq_true, ← Bool.toNat_eq_one]
      omega
    refine ⟨hnew, fun other => ?_⟩
    rw [hseen hnew other]
    exact honce other
  · rintro ⟨hnew, honce⟩ other
    rw [← hseen hnew other]
    exact honce other

theorem completes_redirect (progress : Progress) (direction : Direction)
    (target : Word) (items : List Item) :
    Completes progress (.redirect direction target :: items) ↔
      progress.redirects direction = false ∧
        (direction = .input → progress.isFirst) ∧
        Completes (progress.withRedirect direction) items := by
  constructor
  · intro hcompletes
    obtain ⟨hnew, honce⟩ :=
      (once_redirect progress direction target items).mp hcompletes.once
    have hinput := hcompletes.inputOnlyFirst
    rw [redirections_redirect] at hinput
    refine ⟨hnew, ?_, by simpa using hcompletes.named, honce, ?_⟩
    · rintro rfl
      cases hfirst : progress.isFirst
      · simpa using hinput hfirst
      · rfl
    · intro hfirst
      have hnone := hinput (by simpa using hfirst)
      omega
  · rintro ⟨hnew, hfirst, hcompletes⟩
    refine ⟨by simpa using hcompletes.named,
      (once_redirect progress direction target items).mpr ⟨hnew, hcompletes.once⟩, ?_⟩
    intro hlater
    have hnone := hcompletes.inputOnlyFirst (by simpa using hlater)
    rw [redirections_redirect, hnone]
    by_cases heq : direction = .input
    · simp [hfirst heq] at hlater
    · simp [heq]

/-! ## What may follow -/

/-- The tokens are the rest of a line of which `progress` has been seen. -/
def Continues (progress : Progress) (tokens : List Token) : Prop :=
  ∃ items others background, Completes progress items ∧
    (∀ segment ∈ others, redirections .input segment.items = 0) ∧
    tokens = lineTokens items others background

theorem pipedTokens_cons (segment : Segment) (others : List Segment)
    (rest : List Token) :
    pipedTokens (segment :: others) ++ rest =
      .pipe :: (segment.items.flatMap Item.tokens ++
        (pipedTokens others ++ rest)) := by
  simp [pipedTokens]

/-- Every line that goes on begins with an item, a pipe or the final mark. -/
theorem lineTokens_cases (items : List Item) (others : List Segment)
    (background : Bool) :
    (∃ item rest, items = item :: rest ∧
      lineTokens items others background =
        item.tokens ++ lineTokens rest others background) ∨
    (∃ segment rest, items = [] ∧ others = segment :: rest ∧
      lineTokens items others background =
        .pipe :: lineTokens segment.items rest background) ∨
    (items = [] ∧ others = [] ∧
      lineTokens items others background = markTokens background) := by
  cases items with
  | cons item rest =>
      exact .inl ⟨item, rest, rfl, by simp [lineTokens]⟩
  | nil =>
      cases others with
      | nil => exact .inr (.inr ⟨rfl, rfl, rfl⟩)
      | cons segment rest =>
          refine .inr (.inl ⟨segment, rest, rfl, rfl, ?_⟩)
          simp [lineTokens, pipedTokens_cons]

/-- The items of a command behind a pipe are those of a segment that leaves the
input alone. -/
theorem completes_afterPipe (items : List Item) :
    Completes .afterPipe items ↔
      ∃ segment : Segment, segment.items = items ∧
        redirections .input items = 0 := by
  constructor
  · intro hcompletes
    have hnamed : items.any Item.isWord := by
      simpa [Progress.afterPipe] using hcompletes.named
    have honce : ∀ direction, redirections direction items ≤ 1 := by
      intro direction
      exact Nat.le_trans (Nat.le_add_left _ _) (hcompletes.once direction)
    exact ⟨⟨items, hnamed, honce⟩, rfl, hcompletes.inputOnlyFirst rfl⟩
  · rintro ⟨segment, rfl, hinput⟩
    refine ⟨.inr segment.named, ?_, fun _ => hinput⟩
    intro direction
    cases direction <;>
      simpa [Progress.redirects, Progress.afterPipe] using segment.once _

/-- What may follow, by the token that comes next. -/
theorem continues_iff (progress : Progress) (tokens : List Token) :
    Continues progress tokens ↔
      (tokens = [] ∧ progress.named) ∨
      (tokens = [.background] ∧ progress.named) ∨
      (∃ rest, tokens = .pipe :: rest ∧ progress.named ∧
        Continues .afterPipe rest) ∨
      (∃ spelled rest, tokens = .word spelled :: rest ∧
        Continues progress.withWord rest) ∨
      (∃ direction target rest,
        tokens = .redirect direction :: .word target :: rest ∧
        progress.redirects direction = false ∧
        (direction = .input → progress.isFirst) ∧
        Continues (progress.withRedirect direction) rest) := by
  constructor
  · rintro ⟨items, others, background, hcompletes, hothers, rfl⟩
    rcases lineTokens_cases items others background with
      ⟨item, more, rfl, hspelled⟩ | ⟨segment, more, rfl, rfl, hspelled⟩ |
      ⟨rfl, rfl, hspelled⟩
    · cases item with
      | word spelled =>
          refine .inr (.inr (.inr (.inl ⟨spelled, _, hspelled, ?_⟩)))
          exact ⟨more, others, background,
            (completes_word progress spelled more).mp hcompletes, hothers, rfl⟩
      | redirect direction target =>
          obtain ⟨hnew, hfirst, hmore⟩ :=
            (completes_redirect progress direction target more).mp hcompletes
          exact .inr (.inr (.inr (.inr ⟨direction, target, _, hspelled, hnew,
            hfirst, more, others, background, hmore, hothers, rfl⟩)))
    · have hnamed := (completes_nil progress).mp hcompletes
      have hsegment : Completes .afterPipe segment.items :=
        (completes_afterPipe segment.items).mpr
          ⟨segment, rfl, hothers segment (by simp)⟩
      refine .inr (.inr (.inl ⟨_, hspelled, hnamed, ?_⟩))
      exact ⟨segment.items, more, background, hsegment,
        fun other hother => hothers other (by simp [hother]), rfl⟩
    · have hnamed := (completes_nil progress).mp hcompletes
      cases background
      · exact .inl ⟨hspelled, hnamed⟩
      · exact .inr (.inl ⟨hspelled, hnamed⟩)
  · rintro (⟨rfl, hnamed⟩ | ⟨rfl, hnamed⟩ | ⟨rest, rfl, hnamed, hrest⟩ |
      ⟨spelled, rest, rfl, hrest⟩ |
      ⟨direction, target, rest, rfl, hnew, hfirst, hrest⟩)
    · exact ⟨[], [], false, (completes_nil progress).mpr hnamed, by simp, rfl⟩
    · exact ⟨[], [], true, (completes_nil progress).mpr hnamed, by simp, rfl⟩
    · obtain ⟨items, others, background, hcompletes, hothers, rfl⟩ := hrest
      obtain ⟨segment, rfl, hinput⟩ := (completes_afterPipe items).mp hcompletes
      refine ⟨[], segment :: others, background,
        (completes_nil progress).mpr hnamed, ?_, ?_⟩
      · simpa using ⟨hinput, hothers⟩
      · simp [lineTokens, pipedTokens_cons]
    · obtain ⟨items, others, background, hcompletes, hothers, rfl⟩ := hrest
      exact ⟨.word spelled :: items, others, background,
        (completes_word progress spelled items).mpr hcompletes, hothers, rfl⟩
    · obtain ⟨items, others, background, hcompletes, hothers, rfl⟩ := hrest
      exact ⟨.redirect direction target :: items, others, background,
        (completes_redirect progress direction target items).mpr
          ⟨hnew, hfirst, hcompletes⟩, hothers, rfl⟩

theorem continues_nil (progress : Progress) :
    Continues progress [] ↔ progress.named := by
  rw [continues_iff]
  simp

theorem continues_background (progress : Progress) (rest : List Token) :
    Continues progress (.background :: rest) ↔ rest = [] ∧ progress.named := by
  rw [continues_iff]
  simp

theorem continues_pipe (progress : Progress) (rest : List Token) :
    Continues progress (.pipe :: rest) ↔
      progress.named ∧ Continues .afterPipe rest := by
  rw [continues_iff]
  simp

theorem continues_word (progress : Progress) (spelled : Word)
    (rest : List Token) :
    Continues progress (.word spelled :: rest) ↔
      Continues progress.withWord rest := by
  rw [continues_iff]
  simp [and_assoc]

theorem continues_redirect (progress : Progress) (direction : Direction)
    (rest : List Token) :
    Continues progress (.redirect direction :: rest) ↔
      ∃ target more, rest = .word target :: more ∧
        progress.redirects direction = false ∧
        (direction = .input → progress.isFirst) ∧
        Continues (progress.withRedirect direction) more := by
  rw [continues_iff]
  simp [and_assoc]

/-! ## The check -/

/-- A pipe that no command follows ends no line. -/
theorem canStartCommand_of_continues (rest : List Token)
    (hcontinues : Continues .afterPipe rest) : canStartCommand rest = true := by
  match rest with
  | [] => simp [continues_nil, Progress.afterPipe] at hcontinues
  | .background :: more =>
      simp [continues_background, Progress.afterPipe] at hcontinues
  | .word _ :: _ | .pipe :: _ | .redirect _ :: _ => rfl

/-- The check accepts what may follow, from every progress that tokens lead to:
a command with a name has been started. -/
theorem checkFrom_eq_ok_iff (progress : Progress) (tokens : List Token)
    (hstarted : progress.named → progress.started) :
    checkFrom progress tokens = .ok () ↔ Continues progress tokens := by
  fun_induction checkFrom progress tokens with
  | case1 progress hnamed => simp [continues_nil, hnamed]
  | case2 progress hunnamed => simp [continues_nil, hunnamed]
  | case3 progress spelled rest ih => rw [ih (fun _ => rfl), continues_word]
  | case4 progress rest hempty =>
      have hunnamed : ¬ progress.named := by
        intro hnamed
        simp [hstarted hnamed] at hempty
      simp [continues_pipe, hunnamed]
  | case5 progress rest hbegun hunnamed =>
      rw [Bool.not_eq_true'] at hunnamed
      simp [continues_pipe, hunnamed]
  | case6 progress rest hbegun hnamed hahead =>
      have hrest : ¬ Continues .afterPipe rest := by
        intro hcontinues
        simp [canStartCommand_of_continues rest hcontinues] at hahead
      simp [continues_pipe, hrest]
  | case7 progress rest hbegun hnamed hahead ih =>
      have hnamed : progress.named := by simpa using hnamed
      rw [ih (by simp [Progress.afterPipe]), continues_pipe]
      simp [hnamed]
  | case8 progress direction target rest hseen =>
      simp [continues_redirect, hseen]
  | case9 progress direction target rest hnew hlater =>
      obtain ⟨rfl, hlater⟩ := hlater
      rw [Bool.not_eq_true'] at hlater
      simp [continues_redirect, hlater]
  | case10 progress direction target rest hnew hfirst ih =>
      have hkept : (progress.withRedirect direction).started = true := by
        cases direction <;> rfl
      have hinput : direction = .input → progress.isFirst := by
        simpa using hfirst
      rw [Bool.not_eq_true] at hnew
      rw [ih (fun _ => hkept), continues_redirect]
      simpa [and_assoc, hnew] using fun _ => hinput
  | case11 progress direction tail hmissing =>
      have htail : ∀ target more, tail ≠ .word target :: more := hmissing
      simp [continues_redirect, htail]
  | case12 progress rest hmore =>
      have hrest : rest ≠ [] := by simpa using hmore
      simp [continues_background, hrest]
  | case13 progress rest hlast hnamed =>
      have hrest : rest = [] := by simpa using hlast
      simp [continues_background, hrest, hnamed]
  | case14 progress rest hlast hunnamed => simp [continues_background, hunnamed]

/-- What may make up a whole line is what some tree spells. -/
theorem continues_start_iff (tokens : List Token) :
    Continues {} tokens ↔
      ∃ derivation : Derivation, derivation.tokens = tokens := by
  constructor
  · rintro ⟨items, others, background, hcompletes, hothers, rfl⟩
    have hnamed : items.any Item.isWord := by simpa using hcompletes.named
    have honce : ∀ direction, redirections direction items ≤ 1 := by
      intro direction
      exact Nat.le_trans (Nat.le_add_left _ _) (hcompletes.once direction)
    exact ⟨⟨⟨items, hnamed, honce⟩, others, background, hothers⟩, rfl⟩
  · rintro ⟨derivation, rfl⟩
    refine ⟨derivation.first.items, derivation.others, derivation.background,
      ⟨.inr derivation.first.named, ?_, by simp⟩, derivation.inputOnlyFirst, rfl⟩
    intro direction
    cases direction <;>
      simpa [Progress.redirects] using derivation.first.once _

/-- A line passes the check exactly if the grammar derives it. -/
theorem check_eq_ok_iff_derivation (tokens : List Token) :
    check tokens = .ok () ↔
      ∃ derivation : Derivation, derivation.tokens = tokens := by
  rw [check, checkFrom_eq_ok_iff {} tokens (by simp), continues_start_iff]

end JobShell.Grammar
