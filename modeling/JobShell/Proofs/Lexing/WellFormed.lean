import JobShell.Proofs.Lexing.Defects
import Mathlib.Data.List.Chain

/-!
# The words that a line can hold

Which component can stand behind which: literals are apart, and the home directory begins
its word and has a slash behind it, or nothing.  While a word is being read its parts are
not merged yet, so two literals may meet; everything else holds of the parts already, and
merging keeps it.
-/

namespace JobShell

namespace Component

def isLiteral : Component → Bool
  | .literal _ => true
  | _ => false

/-- Whether the second component can stand right behind the first. -/
def precedes : Component → Component → Bool
  | .literal _, .literal _ => false
  | _, .home => false
  | .home, .literal text => text.toList.head? = some '/'
  | .home, .reference _ => false
  | _, _ => true

/-- Whether it can before literals are merged. -/
def meets (left right : Component) : Bool :=
  left.isLiteral && right.isLiteral || left.precedes right

end Component

/-- Literals are apart, names are names of variables, and the home directory is all of its
word or stands at its beginning before a slash. -/
structure Word.WellFormed (word : Word) : Prop where
  nonempty : word.components ≠ []
  apart : ∀ before left right after,
    word.components ≠ before ++ .literal left :: .literal right :: after
  names : ∀ name, .reference name ∈ word.components → Lexer.IsName name.toList
  homeFirst : ∀ before after, word.components = before ++ .home :: after → before = []
  homeBelow : ∀ next after, word.components = .home :: next :: after →
    ∃ text, next = .literal text ∧ text.toList.head? = some '/'

namespace Word

theorem WellFormed.precedes {word : Word} (hword : word.WellFormed) {left right : Component}
    {before after : List Component}
    (hcomponents : word.components = before ++ left :: right :: after) : left.precedes right := by
  have hright : right ≠ .home := by
    rintro rfl
    have hbefore := hword.homeFirst (before ++ [left]) after (by simpa using hcomponents)
    simp at hbefore
  cases left with
  | literal first =>
      cases right with
      | literal second => exact absurd hcomponents (hword.apart _ _ _ _)
      | reference name => rfl
      | home => exact absurd rfl hright
  | reference name =>
      cases right with
      | literal _ | reference _ => rfl
      | home => exact absurd rfl hright
  | home =>
      obtain rfl := hword.homeFirst before (right :: after) hcomponents
      obtain ⟨text, rfl, hslash⟩ := hword.homeBelow right after hcomponents
      simpa [Component.precedes] using hslash

/-- What a word must be is said of its components and of their joints. -/
theorem wellFormed_iff (word : Word) :
    word.WellFormed ↔
      word.components ≠ [] ∧
      (word.components.IsChain fun left right => left.precedes right) ∧
      ∀ name, .reference name ∈ word.components → Lexer.IsName name.toList := by
  rw [List.isChain_iff_forall_rel_of_append_cons_cons]
  constructor
  · intro hword
    refine ⟨hword.nonempty, ?_, hword.names⟩
    intro left right before after hcomponents
    exact hword.precedes hcomponents
  · rintro ⟨hnonempty, hjoints, hnames⟩
    refine ⟨hnonempty, ?_, hnames, ?_, ?_⟩
    · intro before left right after hcomponents
      cases hjoints hcomponents
    · intro before after hcomponents
      rcases List.eq_nil_or_concat' before with hbefore | ⟨earlier, left, rfl⟩
      · exact hbefore
      · rw [List.append_assoc] at hcomponents
        have hhome := hjoints hcomponents
        cases left <;> cases hhome
    · intro next after hcomponents
      have hbegins : word.components = [] ++ .home :: next :: after := hcomponents
      have hbelow := hjoints hbegins
      cases next with
      | literal text => exact ⟨text, rfl, by simpa [Component.precedes] using hbelow⟩
      | reference name => cases hbelow
      | home => cases hbelow

end Word

/-! ## Merging literals -/

namespace Component

theorem prepend_cases (component : Component) (rest : List Component) :
    (∃ text next later, component = .literal text ∧ rest = .literal next :: later ∧
      component.prepend rest = .literal (text ++ next) :: later) ∨
    component.prepend rest = component :: rest ∧
      ∀ next ∈ rest.head?, ¬ (component.isLiteral && next.isLiteral) := by
  fun_cases prepend component rest with
  | case1 text next later => exact .inl ⟨text, next, later, rfl, rfl, rfl⟩
  | case2 component rest hother =>
      refine .inr ⟨rfl, ?_⟩
      intro next hnext hboth
      obtain ⟨later, rfl⟩ := List.head?_eq_some_iff.mp hnext
      cases component <;> cases next <;> simp_all [isLiteral]

theorem prepend_ne_nil (component : Component) (rest : List Component) :
    component.prepend rest ≠ [] := by
  fun_cases prepend component rest <;> nofun

/-- Two literals are put before a word like the one that they make. -/
theorem prepend_literals (left right : String) (rest : List Component) :
    (literal left).prepend ((literal right).prepend rest) =
      (literal (left ++ right)).prepend rest := by
  cases rest with
  | nil => rfl
  | cons next later =>
      cases next with
      | literal text => simp only [prepend, String.append_assoc]
      | reference name => rfl
      | home => rfl

/-- Characters that are put before a word one by one, behind a literal, make one with it. -/
theorem prepend_singletons (first : String) (text : List Char) (rest : List Component) :
    (literal first).prepend
        ((text.map fun c => literal (String.singleton c)).foldr prepend rest) =
      (literal (first ++ String.ofList text)).prepend rest := by
  induction text generalizing first with
  | nil => rw [List.map_nil, List.foldr_nil, String.ofList_nil, String.append_empty]
  | cons c text ih =>
      have hjoined : String.singleton c ++ String.ofList text = String.ofList (c :: text) := by
        simp
      rw [List.map_cons, List.foldr_cons, prepend_literals, ih, String.append_assoc, hjoined]

theorem foldr_prepend_singletons {text : List Char} (hnonempty : text ≠ [])
    (rest : List Component) :
    (text.map fun c => literal (String.singleton c)).foldr prepend rest =
      (literal (String.ofList text)).prepend rest := by
  obtain ⟨c, text, rfl⟩ := List.exists_cons_of_ne_nil hnonempty
  have hjoined : String.singleton c ++ String.ofList text = String.ofList (c :: text) := by
    simp
  rw [List.map_cons, List.foldr_cons, prepend_singletons, hjoined]

/-- A literal precedes what other literals precede. -/
theorem precedes_literal (text other : String) (next : Component) :
    (literal text).precedes next = (literal other).precedes next := by
  cases next <;> rfl

/-- A literal that grows at its end stays behind what it stands behind. -/
theorem meets_append {left : Component} {text : String} (next : String)
    (hmeets : left.meets (.literal text)) : left.meets (.literal (text ++ next)) := by
  cases left with
  | literal first => rfl
  | reference name => rfl
  | home =>
      have hslash : text.toList.head? = some '/' := by
        simpa [meets, precedes, isLiteral] using hmeets
      obtain ⟨rest, htext⟩ := List.head?_eq_some_iff.mp hslash
      simp [meets, precedes, isLiteral, htext]

theorem isChain_prepend {component : Component} {rest : List Component}
    (hrest : rest.IsChain fun left right => left.precedes right)
    (hjoint : ∀ next ∈ rest.head?, component.meets next) :
    (component.prepend rest).IsChain fun left right => left.precedes right := by
  obtain ⟨text, next, later, rfl, rfl, hmerged⟩ | ⟨hkept, hapart⟩ :=
    component.prepend_cases rest
  · rw [hmerged]
    rw [List.isChain_cons] at hrest ⊢
    refine ⟨?_, hrest.2⟩
    intro behind hbehind
    rw [precedes_literal (text ++ next) next]
    exact hrest.1 behind hbehind
  · rw [hkept, List.isChain_cons]
    refine ⟨?_, hrest⟩
    intro next hnext
    have hmeets := hjoint next hnext
    rw [meets, Bool.or_eq_true] at hmeets
    exact hmeets.resolve_left (hapart next hnext)

theorem meets_head_prepend {left component : Component} (rest : List Component)
    (hmeets : left.meets component) : ∀ next ∈ (component.prepend rest).head?, left.meets next := by
  intro head hhead
  obtain ⟨text, next, later, rfl, rfl, hmerged⟩ | ⟨hkept, -⟩ := component.prepend_cases rest
  · rw [hmerged, List.head?_cons, Option.mem_some_iff] at hhead
    rw [← hhead]
    exact meets_append next hmeets
  · rw [hkept, List.head?_cons, Option.mem_some_iff] at hhead
    rw [← hhead]
    exact hmeets

theorem reference_of_mem_prepend {component : Component} {rest : List Component} {name : String}
    (hmem : .reference name ∈ component.prepend rest) : .reference name ∈ component :: rest := by
  obtain ⟨text, next, later, rfl, rfl, hmerged⟩ | ⟨hkept, -⟩ := component.prepend_cases rest
  · rw [hmerged, List.mem_cons] at hmem
    have hlater := hmem.resolve_left nofun
    exact List.mem_cons_of_mem _ (List.mem_cons_of_mem _ hlater)
  · rwa [hkept] at hmem

end Component

namespace Word

theorem isChain_ofComponents {parts : List Component}
    (hparts : parts.IsChain fun left right => left.meets right) :
    (ofComponents parts).components.IsChain fun left right => left.precedes right := by
  induction parts with
  | nil => exact .nil
  | cons part rest ih =>
      rw [List.isChain_cons] at hparts
      apply Component.isChain_prepend (ih hparts.2)
      cases rest with
      | nil => nofun
      | cons next later =>
          apply Component.meets_head_prepend
          exact hparts.1 next rfl

theorem reference_of_mem_ofComponents {parts : List Component} {name : String}
    (hmem : .reference name ∈ (ofComponents parts).components) : .reference name ∈ parts := by
  induction parts with
  | nil => cases hmem
  | cons part rest ih =>
      rcases List.mem_cons.mp (Component.reference_of_mem_prepend hmem) with hfirst | hrest
      · exact List.mem_cons.mpr (.inl hfirst)
      · exact List.mem_cons_of_mem part (ih hrest)

/-- The parts of a word are merged into one that is well-formed. -/
theorem wellFormed_ofComponents {parts : List Component} (hparts : parts ≠ [])
    (hjoints : parts.IsChain fun left right => left.meets right)
    (hnames : ∀ name, .reference name ∈ parts → Lexer.IsName name.toList) :
    (ofComponents parts).WellFormed := by
  rw [wellFormed_iff]
  refine ⟨?_, isChain_ofComponents hjoints, ?_⟩
  · obtain ⟨part, rest, rfl⟩ := List.exists_cons_of_ne_nil hparts
    exact part.prepend_ne_nil _
  · intro name hmem
    exact hnames name (reference_of_mem_ofComponents hmem)

end Word

namespace Lexer

open JobShell.Text (isBlank)

/-! ## What has been read of a word -/

/-- What has been read of a word, last first.  If it begins with the home directory, the
slash has been read as well. -/
structure Begun (parts : List Component) : Prop where
  joints : parts.IsChain fun right left => left.meets right
  names : ∀ name, .reference name ∈ parts → IsName name.toList
  notHome : parts.head? ≠ some .home

namespace Begun

variable {parts : List Component}

theorem nothing : Begun [] :=
  ⟨.nil, nofun, nofun⟩

theorem belowHome : Begun [.literal "/", .home] where
  joints := by simp [Component.meets, Component.precedes]
  names := by simp
  notHome := by simp

/-- Behind anything but the home directory there can be any literal or reference. -/
theorem meets_of_ne_home {left right : Component} (hleft : left ≠ .home)
    (hright : right ≠ .home) : left.meets right := by
  cases left with
  | home => exact absurd rfl hleft
  | literal _ | reference _ =>
      cases right with
      | home => exact absurd rfl hright
      | literal _ | reference _ => rfl

theorem cons (hbegun : Begun parts) (component : Component) (hcomponent : component ≠ .home)
    (hname : ∀ name, component = .reference name → IsName name.toList) :
    Begun (component :: parts) where
  joints := by
    rw [List.isChain_cons]
    refine ⟨?_, hbegun.joints⟩
    intro left hleft
    apply meets_of_ne_home _ hcomponent
    rintro rfl
    exact hbegun.notHome hleft
  names := by
    intro name hmem
    rcases List.mem_cons.mp hmem with hfirst | hrest
    · exact hname name hfirst.symm
    · exact hbegun.names name hrest
  notHome := by simpa using hcomponent

theorem literal (hbegun : Begun parts) (text : String) : Begun (.literal text :: parts) :=
  hbegun.cons _ nofun nofun

theorem reference (hbegun : Begun parts) {name : List Char} (hname : IsName name) :
    Begun (.reference (String.ofList name) :: parts) := by
  apply hbegun.cons (.reference _) nofun
  rintro other ⟨⟩
  rwa [String.toList_ofList]

theorem wellFormed (hbegun : Begun parts) (hparts : parts ≠ []) :
    (Word.ofComponents parts.reverse).WellFormed := by
  apply Word.wellFormed_ofComponents
  · simpa using hparts
  · rw [List.isChain_reverse]
    exact hbegun.joints
  · intro name hmem
    exact hbegun.names name (List.mem_reverse.mp hmem)

end Begun

theorem wellFormed_home : (Word.ofComponents [.home]).WellFormed := by
  apply Word.wellFormed_ofComponents
  · exact List.cons_ne_nil _ _
  · exact .singleton _
  · simp

/-! ## Steps -/

/-- What a mode says about the parts that have been read, and about the name that is
being read. -/
def Mode.Suits (parts : List Component) : Mode → Prop
  | .gap | .tilde => parts = []
  | .word | .singleQuotes | .doubleQuotes => parts ≠ []
  | .braces _ read => ∀ c ∈ read, isNameChar c
  | .name _ read => IsName read
  | .escape | .doubleQuotesEscape | .dollar _ => True

namespace Scan

/-- The words that are finished are well-formed, and so is what has been read of the
next one. -/
structure Sound (scan : Scan) : Prop where
  words : ∀ word, .word word ∈ scan.tokens → word.WellFormed
  begun : Begun scan.parts

/-- What has been read suits the mode as well. -/
structure Orderly (scan : Scan) : Prop extends scan.Sound where
  mode : scan.mode.Suits scan.parts

theorem orderly_begin : Orderly {} :=
  ⟨⟨nofun, .nothing⟩, rfl⟩

theorem suits_mode (surroundings : Surroundings) {parts : List Component} (hparts : parts ≠ []) :
    (Surroundings.mode surroundings).Suits parts := by
  cases surroundings <;> exact hparts

variable {scan : Scan}

namespace Sound

theorem within (hsound : scan.Sound) (mode : Mode) : (scan.within mode).Sound :=
  ⟨hsound.words, hsound.begun⟩

theorem literal (hsound : scan.Sound) (text : String) : (scan.push (.literal text)).Sound :=
  ⟨hsound.words, hsound.begun.literal text⟩

theorem pushName (hsound : scan.Sound) {name : List Char} (hname : IsName name) :
    (scan.pushName name).Sound :=
  ⟨hsound.words, hsound.begun.reference hname⟩

end Sound

/-! ## Ending a word -/

theorem words_close (hwords : ∀ word, .word word ∈ scan.tokens → word.WellFormed)
    (hword : (Word.ofComponents scan.parts.reverse).WellFormed) :
    ∀ word, .word word ∈ scan.close.tokens → word.WellFormed := by
  intro word hmem
  rcases List.mem_cons.mp hmem with hlast | hearlier
  · cases hlast
    exact hword
  · exact hwords word hearlier

/-- An operator behind finished tokens adds no word to them. -/
theorem orderly_behind (c : Char) {tokens : List Token}
    (hwords : ∀ word, .word word ∈ tokens → word.WellFormed) :
    (behind ((Token.ofOperator? c).toList ++ tokens) {}).Orderly := by
  refine ⟨⟨?_, .nothing⟩, rfl⟩
  intro word hmem
  rw [behind, List.nil_append] at hmem
  rcases List.mem_append.mp hmem with hoperator | hearlier
  · fun_cases Token.ofOperator? c <;> simp [Token.ofOperator?] at hoperator
  · exact hwords word hearlier

theorem orderly_separator {c : Char} (hsep : isSeparator c)
    (hwords : ∀ word, .word word ∈ scan.tokens → word.WellFormed)
    (hword : (Word.ofComponents scan.parts.reverse).WellFormed) : (scan.bareStep c).Orderly := by
  rw [bareStep_separator scan c hsep]
  apply orderly_behind
  exact words_close hwords hword

/-! ## Inside a word -/

theorem orderly_inside {c : Char} (hinside : isSeparator c = false) (hsound : scan.Sound) :
    (scan.bareStep c).Orderly := by
  obtain ⟨hvisible, hoperator⟩ := (isSeparator_eq_false_iff c).mp hinside
  simp only [bareStep, hvisible, hoperator, if_false, Bool.false_eq_true]
  split
  · exact ⟨(hsound.literal "").within _, List.cons_ne_nil _ _⟩
  · split
    · exact ⟨(hsound.literal "").within _, List.cons_ne_nil _ _⟩
    · split
      · exact ⟨hsound.within _, trivial⟩
      · split
        · exact ⟨hsound.within _, trivial⟩
        · exact ⟨(hsound.literal _).within _, List.cons_ne_nil _ _⟩

theorem orderly_bareStep (c : Char) (hsound : scan.Sound) (hparts : scan.parts ≠ []) :
    (scan.bareStep c).Orderly := by
  cases hsep : isSeparator c with
  | true => exact orderly_separator hsep hsound.words (hsound.begun.wellFormed hparts)
  | false => exact orderly_inside hsep hsound

theorem orderly_gapStep (c : Char) (hsound : scan.Sound) (hparts : scan.parts = [])
    (hmode : scan.mode = .gap) : (scan.gapStep c).Orderly := by
  cases hsep : isSeparator c with
  | true =>
      rw [gapStep_separator scan c hsep hparts hmode]
      exact orderly_behind c hsound.words
  | false =>
      obtain ⟨hvisible, hoperator⟩ := (isSeparator_eq_false_iff c).mp hsep
      simp only [gapStep, hvisible, hoperator, if_false, Bool.false_eq_true]
      split
      · exact ⟨hsound.within _, hparts⟩
      · exact orderly_inside hsep hsound

/-- Behind a tilde that means the home directory there is a slash, or the word ends. -/
theorem orderly_home {c : Char} (hends : endsTilde c) (hsound : scan.Sound)
    (hparts : scan.parts = []) : ((scan.push .home).bareStep c).Orderly := by
  cases hsep : isSeparator c with
  | true =>
      apply orderly_separator hsep
      · exact hsound.words
      · rw [push, hparts]
        exact wellFormed_home
  | false =>
      obtain rfl : c = '/' := by
        rw [endsTilde, Bool.or_assoc, ← isSeparator, hsep] at hends
        simpa using hends
      have hbelow : ((scan.push .home).bareStep '/').parts = [.literal "/", .home] := by
        change [.literal "/", .home] ++ scan.parts = _
        rw [hparts, List.append_nil]
      refine ⟨⟨hsound.words, ?_⟩, List.cons_ne_nil _ _⟩
      rw [hbelow]
      exact .belowHome

theorem orderly_quotedStep (c : Char) (hsound : scan.Sound) (hparts : scan.parts ≠ []) :
    (scan.quotedStep c).Orderly := by
  simp only [quotedStep]
  split
  · exact ⟨hsound.within _, hparts⟩
  · split
    · exact ⟨hsound.within _, trivial⟩
    · split
      · exact ⟨hsound.within _, trivial⟩
      · exact ⟨(hsound.literal _).within _, List.cons_ne_nil _ _⟩

theorem orderly_resume (surroundings : Surroundings) (c : Char) (hsound : scan.Sound)
    (hparts : scan.parts ≠ []) : (scan.resume surroundings c).Orderly := by
  cases surroundings with
  | bare => exact orderly_bareStep c hsound hparts
  | doubleQuotes => exact orderly_quotedStep c hsound hparts

theorem forall_mem_concat {name : List Char} {c : Char} (hname : ∀ other ∈ name, isNameChar other)
    (hc : isNameChar c) : ∀ other ∈ name ++ [c], isNameChar other := by
  intro other hother
  rcases List.mem_append.mp hother with hearlier | hlast
  · exact hname other hearlier
  · rwa [List.mem_singleton.mp hlast]

theorem orderly_step {next : Scan} {c : Char} (horderly : scan.Orderly)
    (hstep : scan.step c = .ok next) : next.Orderly := by
  obtain ⟨hsound, hsuits⟩ := horderly
  simp only [step] at hstep
  cases hmode : scan.mode with
  | gap =>
      rw [hmode] at hsuits
      simp only [hmode, Except.ok.injEq] at hstep
      rw [← hstep]
      exact orderly_gapStep c hsound hsuits hmode
  | tilde =>
      rw [hmode] at hsuits
      simp only [hmode] at hstep
      split at hstep
      · next hends =>
          rw [← Except.ok.inj hstep]
          exact orderly_home hends hsound hsuits
      · rw [← Except.ok.inj hstep]
        exact orderly_bareStep c (hsound.literal _) (List.cons_ne_nil _ _)
  | word =>
      rw [hmode] at hsuits
      simp only [hmode, Except.ok.injEq] at hstep
      rw [← hstep]
      exact orderly_bareStep c hsound hsuits
  | escape =>
      simp only [hmode, Except.ok.injEq] at hstep
      rw [← hstep]
      exact ⟨(hsound.literal _).within _, List.cons_ne_nil _ _⟩
  | singleQuotes =>
      rw [hmode] at hsuits
      simp only [hmode] at hstep
      split at hstep
      · rw [← Except.ok.inj hstep]
        exact ⟨hsound.within _, hsuits⟩
      · rw [← Except.ok.inj hstep]
        refine ⟨hsound.literal _, ?_⟩
        rw [pushChar, push, hmode]
        exact List.cons_ne_nil _ _
  | doubleQuotes =>
      rw [hmode] at hsuits
      simp only [hmode, Except.ok.injEq] at hstep
      rw [← hstep]
      exact orderly_quotedStep c hsound hsuits
  | doubleQuotesEscape =>
      simp only [hmode, Except.ok.injEq] at hstep
      rw [← hstep]
      exact ⟨(hsound.literal _).within _, List.cons_ne_nil _ _⟩
  | dollar surroundings =>
      simp only [hmode] at hstep
      split at hstep
      · rw [← Except.ok.inj hstep]
        refine ⟨hsound.within _, ?_⟩
        intro other hother
        cases hother
      · split at hstep
        · next hname =>
            rw [← Except.ok.inj hstep]
            refine ⟨hsound.within _, List.cons_ne_nil _ _, ?_⟩
            simpa using hname
        · rw [← Except.ok.inj hstep]
          exact orderly_resume surroundings c (hsound.literal _) (List.cons_ne_nil _ _)
  | braces surroundings name =>
      rw [hmode] at hsuits
      simp only [hmode] at hstep
      split at hstep
      · next hname =>
          rw [← Except.ok.inj hstep]
          exact ⟨hsound.within _, forall_mem_concat hsuits hname⟩
      · split at hstep
        · next hclosed =>
            rw [← Except.ok.inj hstep]
            have hname : IsName name := ⟨hclosed.2, hsuits⟩
            exact ⟨(hsound.pushName hname).within _,
              suits_mode surroundings (List.cons_ne_nil _ _)⟩
        · cases hstep
  | name surroundings name =>
      rw [hmode] at hsuits
      have hname : IsName name := hsuits
      simp only [hmode] at hstep
      split at hstep
      · next hnext =>
          rw [← Except.ok.inj hstep]
          refine ⟨hsound.within _, ?_, ?_⟩
          · simp
          · exact forall_mem_concat hname.chars hnext
      · rw [← Except.ok.inj hstep]
        exact orderly_resume surroundings c (hsound.pushName hname) (List.cons_ne_nil _ _)

theorem orderly_steps {ended : Scan} {line : List Char} (horderly : scan.Orderly)
    (hsteps : scan.steps line = .ok ended) : ended.Orderly := by
  induction line generalizing scan with
  | nil =>
      cases hsteps
      exact horderly
  | cons c rest ih =>
      simp only [steps] at hsteps
      cases hstep : scan.step c with
      | error defect =>
          rw [hstep] at hsteps
          cases hsteps
      | ok next =>
          rw [hstep] at hsteps
          exact ih (orderly_step horderly hstep) hsteps

theorem wellFormed_finish {tokens : List Token} (horderly : scan.Orderly)
    (hfinish : scan.finish = .ok tokens) : ∀ word, .word word ∈ tokens → word.WellFormed := by
  obtain ⟨hsound, hsuits⟩ := horderly
  have hclosed (read : Scan) (hwords : ∀ word, .word word ∈ read.tokens → word.WellFormed)
      (hword : (Word.ofComponents read.parts.reverse).WellFormed)
      (hresult : read.close.tokens.reverse = tokens) :
      ∀ word, .word word ∈ tokens → word.WellFormed := by
    intro word hmem
    rw [← hresult, List.mem_reverse] at hmem
    exact words_close hwords hword word hmem
  have hended {read : Scan} (hread : read.Sound) (hparts : read.parts ≠ []) :=
    hclosed read hread.words (hread.begun.wellFormed hparts)
  simp only [finish] at hfinish
  cases hmode : scan.mode with
  | gap =>
      simp only [hmode, Except.ok.injEq] at hfinish
      intro word hmem
      rw [← hfinish, List.mem_reverse] at hmem
      exact hsound.words word hmem
  | tilde =>
      rw [hmode] at hsuits
      have hparts : scan.parts = [] := hsuits
      simp only [hmode, Except.ok.injEq] at hfinish
      have hword : (Word.ofComponents (scan.push .home).parts.reverse).WellFormed := by
        rw [push, hparts]
        exact wellFormed_home
      exact hclosed (scan.push .home) hsound.words hword hfinish
  | word =>
      rw [hmode] at hsuits
      simp only [hmode, Except.ok.injEq] at hfinish
      exact hended hsound hsuits hfinish
  | dollar surroundings =>
      cases surroundings <;> simp only [hmode, reduceCtorEq, Except.ok.injEq] at hfinish
      exact hended (hsound.literal _) (List.cons_ne_nil _ _) hfinish
  | name surroundings name =>
      rw [hmode] at hsuits
      cases surroundings <;> simp only [hmode, reduceCtorEq, Except.ok.injEq] at hfinish
      exact hended (hsound.pushName hsuits) (List.cons_ne_nil _ _) hfinish
  | escape | singleQuotes | doubleQuotes | doubleQuotesEscape | braces =>
      simp [hmode] at hfinish

end Scan

end Lexer

/-! ## Lines -/

/-- Every word of a line that lexes is well-formed, whatever it was quoted with. -/
theorem wellFormed_of_lex {line : String} {tokens : List Token} (hlex : lex line = .ok tokens)
    {word : Word} (hword : .word word ∈ tokens) : word.WellFormed := by
  rw [lex_eq_ok_iff, Lexer.tokens_eq_ok_iff] at hlex
  obtain ⟨ended, hsteps, hfinish⟩ := hlex
  have horderly := Lexer.Scan.orderly_steps Lexer.Scan.orderly_begin hsteps
  exact Lexer.Scan.wellFormed_finish horderly hfinish word hword

/-- A tilde is the home directory before a slash, and itself before a reference. -/
theorem wellFormed_of_lex_tildes :
    let below : Word := ⟨[.home, .literal "/a ", .reference "X_1", .literal "~"]⟩
    let itself : Word := ⟨[.literal "~", .reference "HOME"]⟩
    lex "~/a\\ \"$X_1\"'~'<~$HOME" =
        .ok [.word below, .redirect .input, .word itself] ∧
      below.WellFormed ∧ itself.WellFormed := by
  intro below itself
  have hlex : lex "~/a\\ \"$X_1\"'~'<~$HOME" =
      .ok [.word below, .redirect .input, .word itself] := rfl
  exact ⟨hlex, wellFormed_of_lex hlex (by simp), wellFormed_of_lex hlex (by simp)⟩

end JobShell
