import JobShell.Pipeline
import JobShell.Proofs.Grammar.Derivation

/-!
# Expansion leaves the structure alone

The tree of a line fixes its pipeline up to the values of names: every argument and
every target is the text of one word of the tree, whatever characters are in it.
So two environments give one line the same shape or the same error, and a word the
same text as soon as they agree on the names in it.
-/

namespace JobShell

/-! ## Words -/

/-- A word looks a name up: it refers to it, or it names the home directory. -/
def Word.Mentions (word : Word) (name : String) : Prop :=
  .reference name ∈ word.components ∨ .home ∈ word.components ∧ name = "HOME"

theorem Word.expand_cons (bindings : Bindings) (component : Component)
    (rest : List Component) :
    (Word.mk (component :: rest)).expand bindings =
      component.expand bindings ++ (Word.mk rest).expand bindings := rfl

theorem Component.expand_congr (home : Option String)
    {first second : String → Option String} (component : Component)
    (hreference : ∀ name, component = .reference name → first name = second name)
    (hhome : component = .home → first "HOME" = second "HOME") :
    component.expand ⟨first, home⟩ = component.expand ⟨second, home⟩ := by
  cases component with
  | literal text => rfl
  | reference name =>
      change (first name).getD "" = (second name).getD ""
      rw [hreference name rfl]
  | home =>
      change ((first "HOME").or home).getD "" = ((second "HOME").or home).getD ""
      rw [hhome rfl]

/-- The text of a word depends on the names that it mentions only. -/
theorem Word.expand_congr (home : Option String)
    {first second : String → Option String} (word : Word)
    (hagree : ∀ name, word.Mentions name → first name = second name) :
    word.expand ⟨first, home⟩ = word.expand ⟨second, home⟩ := by
  obtain ⟨components⟩ := word
  induction components with
  | nil => rfl
  | cons component rest ih =>
      rw [expand_cons, expand_cons, ih ?_, component.expand_congr home]
      · rintro name rfl
        exact hagree name (.inl List.mem_cons_self)
      · rintro rfl
        exact hagree "HOME" (.inr ⟨List.mem_cons_self, rfl⟩)
      · rintro name (hreference | ⟨hhome, rfl⟩)
        · exact hagree name (.inl (List.mem_cons_of_mem _ hreference))
        · exact hagree "HOME" (.inr ⟨List.mem_cons_of_mem _ hhome, rfl⟩)

/-! ## Shapes -/

/-- What is left of a command without its texts. -/
structure Command.Shape where
  arguments : Nat
  hasInput : Bool
  hasOutput : Bool
  deriving DecidableEq, Repr, Inhabited

def Command.shape (command : Command) : Command.Shape where
  arguments := command.argv.length
  hasInput := command.input.isSome
  hasOutput := command.output.isSome

/-- What is left of a pipeline without its texts. -/
structure Pipeline.Shape where
  commands : List Command.Shape
  background : Bool
  deriving DecidableEq, Repr, Inhabited

def Pipeline.shape (pipeline : Pipeline) : Pipeline.Shape where
  commands := pipeline.commands.map Command.shape
  background := pipeline.background

/-! ## Pipelines of trees -/

namespace Grammar

def Item.word? : Item → Option Word
  | .word spelled => some spelled
  | .redirect _ _ => none

def Item.target? (direction : Direction) : Item → Option Word
  | .word _ => none
  | .redirect other target => if other = direction then some target else none

/-- The words of a command in their order. -/
def Segment.words (segment : Segment) : List Word :=
  segment.items.filterMap Item.word?

/-- The word behind a redirection. -/
def Segment.target (direction : Direction) (segment : Segment) : Option Word :=
  segment.items.findSome? (Item.target? direction)

/-- The command of a segment: one argument for each word, and the targets. -/
def Segment.command (bindings : Bindings) (segment : Segment) : Command where
  argv := segment.words.map (Word.expand bindings)
  input := (segment.target .input).map (Word.expand bindings)
  output := (segment.target .output).map (Word.expand bindings)

def Derivation.pipeline (bindings : Bindings) (derivation : Derivation) : Pipeline where
  commands := (derivation.first :: derivation.others).map (Segment.command bindings)
  background := derivation.background

theorem Segment.shape_command (first second : Bindings) (segment : Segment) :
    (segment.command first).shape = (segment.command second).shape := by
  simp [command, Command.shape]

theorem Derivation.shape_pipeline (first second : Bindings) (derivation : Derivation) :
    (derivation.pipeline first).shape = (derivation.pipeline second).shape := by
  simp [pipeline, Pipeline.shape, Segment.shape_command first second]

theorem Segment.target_input_eq_none {segment : Segment}
    (hnone : redirections .input segment.items = 0) : segment.target .input = none := by
  rw [Segment.target, List.findSome?_eq_none_iff]
  intro item hitem
  have hredirects := List.countP_eq_zero.mp hnone item hitem
  cases item with
  | word spelled => rfl
  | redirect direction target => cases direction <;> simp_all [Item.redirects, Item.target?]

end Grammar

/-! ## Splitting -/

namespace Pipeline

open Grammar

/-- The items of a command are put before what the tokens behind them give. -/
theorem split_items (bindings : Bindings) (items : List Item) (rest : List Token) :
    split bindings (items.flatMap Item.tokens ++ rest) =
      ({ argv := (items.filterMap Item.word?).map (Word.expand bindings) ++
            (split bindings rest).1.argv
         input := ((items.findSome? (Item.target? .input)).map (Word.expand bindings)).or
            (split bindings rest).1.input
         output := ((items.findSome? (Item.target? .output)).map (Word.expand bindings)).or
            (split bindings rest).1.output },
        (split bindings rest).2) := by
  induction items with
  | nil => rfl
  | cons item items ih =>
      cases item with
      | word spelled =>
          simp [Item.tokens, Item.word?, Item.target?, List.findSome?_cons, split,
            Command.addWord, ih]
      | redirect direction target =>
          cases direction <;>
            simp [Item.tokens, Item.word?, Item.target?, List.filterMap_cons, split,
              Command.addTarget, ih]

theorem split_mark (bindings : Bindings) (background : Bool) :
    split bindings (markTokens background) = ({}, []) := by
  cases background <;> rfl

theorem split_piped (bindings : Bindings) (others : List Segment) (background : Bool) :
    split bindings (pipedTokens others ++ markTokens background) =
      ({}, others.map (Segment.command bindings)) := by
  induction others with
  | nil => exact split_mark bindings background
  | cons segment others ih =>
      rw [pipedTokens_cons, split, split_items, ih]
      simp [Segment.command, Segment.words, Segment.target]

theorem split_tokens (bindings : Bindings) (derivation : Derivation) :
    split bindings derivation.tokens =
      (derivation.first.command bindings,
        derivation.others.map (Segment.command bindings)) := by
  rw [Derivation.tokens, lineTokens, split_items, split_piped]
  simp [Segment.command, Segment.words, Segment.target]

/-- The final mark is the only one. -/
theorem getLast?_tokens (derivation : Derivation) :
    derivation.tokens.getLast? = some .background ↔ derivation.background = true := by
  rw [Derivation.tokens, lineTokens]
  cases derivation.background with
  | true => simp [markTokens]
  | false =>
      have hitems : ∀ items : List Item, .background ∉ items.flatMap Item.tokens := by
        intro items hmem
        obtain ⟨item, -, htoken⟩ := List.mem_flatMap.mp hmem
        cases item <;> simp [Item.tokens] at htoken
      have hothers : .background ∉ pipedTokens derivation.others := by
        intro hmem
        obtain ⟨segment, -, htoken⟩ := List.mem_flatMap.mp hmem
        simpa using hitems segment.items (by simpa using htoken)
      refine iff_of_false (fun hlast => ?_) Bool.false_ne_true
      have hmem := List.mem_of_getLast? hlast
      simp only [markTokens, Bool.false_eq_true, if_false, List.append_nil,
        List.mem_append] at hmem
      exact hmem.elim (hitems _) hothers

theorem ofTokens_tokens (bindings : Bindings) (derivation : Derivation) :
    ofTokens bindings derivation.tokens = derivation.pipeline bindings := by
  simp [ofTokens, split_tokens, getLast?_tokens, Derivation.pipeline]

end Pipeline

theorem parse_tokens (bindings : Bindings) (derivation : Grammar.Derivation) :
    parse bindings derivation.tokens = .ok (derivation.pipeline bindings) := by
  have hcheck : Grammar.check derivation.tokens = .ok () := by
    rw [Grammar.check, Grammar.checkFrom_eq_ok_iff _ _ (by simp),
      Grammar.continues_start_iff]
    exact ⟨derivation, rfl⟩
  rw [parse, hcheck, ← Pipeline.ofTokens_tokens]
  rfl

/-- What is wrong with a line does not depend on the values of names, and a line in
order is that of a tree. -/
theorem parse_cases (tokens : List Token) :
    (∃ error, ∀ bindings, parse bindings tokens = .error error) ∨
      ∃ derivation : Grammar.Derivation, derivation.tokens = tokens ∧
        ∀ bindings, parse bindings tokens = .ok (derivation.pipeline bindings) := by
  cases hcheck : Grammar.check tokens with
  | error error =>
      refine .inl ⟨error, fun bindings => ?_⟩
      rw [parse, hcheck]
      rfl
  | ok =>
      rw [Grammar.check, Grammar.checkFrom_eq_ok_iff _ _ (by simp),
        Grammar.continues_start_iff] at hcheck
      obtain ⟨derivation, rfl⟩ := hcheck
      exact .inr ⟨derivation, rfl, fun bindings => parse_tokens bindings derivation⟩

/-- Every command has a word. -/
theorem argv_ne_nil_of_parse {bindings : Bindings} {tokens : List Token} {pipeline : Pipeline}
    (hparse : parse bindings tokens = .ok pipeline) :
    ∀ command ∈ pipeline.commands, command.argv ≠ [] := by
  intro command hcommand
  rcases parse_cases tokens with ⟨error, herror⟩ | ⟨derivation, -, hparsed⟩
  · cases hparse.symm.trans (herror bindings)
  · cases hparse.symm.trans (hparsed bindings)
    obtain ⟨segment, -, rfl⟩ := List.mem_map.mp hcommand
    obtain ⟨item, hitem, hword⟩ := List.any_eq_true.mp segment.named
    cases item with
    | word spelled =>
        have hspelled : spelled ∈ segment.words := List.mem_filterMap.mpr ⟨_, hitem, rfl⟩
        rw [Grammar.Segment.command, Ne, List.map_eq_nil_iff]
        exact List.ne_nil_of_mem hspelled
    | redirect direction target => cases hword

/-- There is a first command, and only the first one reads from a file. -/
theorem commands_of_parse {bindings : Bindings} {tokens : List Token} {pipeline : Pipeline}
    (hparse : parse bindings tokens = .ok pipeline) :
    pipeline.commands ≠ [] ∧
      ∀ index command, pipeline.commands[index + 1]? = some command → command.input = none := by
  rcases parse_cases tokens with ⟨error, herror⟩ | ⟨derivation, -, hparsed⟩
  · cases hparse.symm.trans (herror bindings)
  · cases hparse.symm.trans (hparsed bindings)
    refine ⟨List.cons_ne_nil _ _, fun index command hcommand => ?_⟩
    have hmem : command ∈ derivation.others.map (Grammar.Segment.command bindings) :=
      List.mem_of_getElem? hcommand
    obtain ⟨segment, hsegment, rfl⟩ := List.mem_map.mp hmem
    rw [Grammar.Segment.command, Grammar.Segment.target_input_eq_none
      (derivation.inputOnlyFirst segment hsegment), Option.map_none]

/-- Two lookups give a line the same error, or pipelines of the same shape in which
each argument and each target is the text of one word of the line's tree; and they
give a word the same text if they agree on the names that it mentions. -/
theorem parse_two_lookups (home : Option String) (first second : String → Option String)
    (tokens : List Token) :
    ((∃ error, parse ⟨first, home⟩ tokens = .error error ∧
          parse ⟨second, home⟩ tokens = .error error) ∨
        ∃ derivation : Grammar.Derivation, derivation.tokens = tokens ∧
          parse ⟨first, home⟩ tokens = .ok (derivation.pipeline ⟨first, home⟩) ∧
          parse ⟨second, home⟩ tokens = .ok (derivation.pipeline ⟨second, home⟩) ∧
          (derivation.pipeline ⟨first, home⟩).shape =
            (derivation.pipeline ⟨second, home⟩).shape) ∧
      ∀ word : Word, (∀ name, word.Mentions name → first name = second name) →
        word.expand ⟨first, home⟩ = word.expand ⟨second, home⟩ := by
  refine ⟨?_, fun word hagree => word.expand_congr home hagree⟩
  rcases parse_cases tokens with ⟨error, herror⟩ | ⟨derivation, htokens, hparse⟩
  · exact .inl ⟨error, herror _, herror _⟩
  · exact .inr ⟨derivation, htokens, hparse _, hparse _,
      derivation.shape_pipeline _ _⟩

end JobShell
