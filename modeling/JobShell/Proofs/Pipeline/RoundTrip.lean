import JobShell.Proofs.Lexing.Plain
import JobShell.Proofs.Pipeline.Expansion

/-!
# Pipelines as they are shown

A pipeline of plain texts is shown as a line that can be typed: its words, its targets
and its marks stand between blanks, in the order in which a line has them.  The tree of
that line has the pipeline's texts as literals, so it gives the pipeline back, whatever
names are bound to.
-/

namespace JobShell

open Grammar

/-- A command whose texts can be typed as they are. -/
@[mk_iff]
structure Command.Plain (command : Command) : Prop where
  named : command.argv ≠ []
  arguments : ∀ argument ∈ command.argv, JobShell.Plain argument
  input : ∀ path ∈ command.input, JobShell.Plain path
  output : ∀ path ∈ command.output, JobShell.Plain path

/-- A pipeline of such commands, of which only the first reads from a file. -/
@[mk_iff]
structure Pipeline.Plain (pipeline : Pipeline) : Prop where
  nonempty : pipeline.commands ≠ []
  commands : ∀ command ∈ pipeline.commands, command.Plain
  inputOnlyFirst : ∀ command ∈ pipeline.commands.tail, command.input = none

instance (command : Command) : Decidable command.Plain :=
  decidable_of_iff' _ (Command.plain_iff command)

instance (pipeline : Pipeline) : Decidable pipeline.Plain :=
  decidable_of_iff' _ (Pipeline.plain_iff pipeline)

namespace Command

/-! ## The items of a command -/

def targetItems (direction : Direction) (target : Option String) : List Item :=
  (target.map fun path => Item.redirect direction (.literal path)).toList

/-- What a command is made of, in the order in which it is shown. -/
def items (command : Command) : List Item :=
  (command.argv.map fun argument => Item.word (.literal argument)) ++
    (targetItems .input command.input ++ targetItems .output command.output)

theorem any_isWord_items {command : Command} (hnamed : command.argv ≠ []) :
    command.items.any Item.isWord := by
  obtain ⟨program, arguments, hargv⟩ := List.exists_cons_of_ne_nil hnamed
  simp [items, hargv]

theorem redirections_items (command : Command) (direction : Direction) :
    redirections direction command.items = (command.target direction).isSome.toNat := by
  have hwords : redirections direction
      (command.argv.map fun argument => Item.word (.literal argument)) = 0 := by
    rw [redirections, List.countP_eq_zero]
    simp [Item.redirects]
  rw [redirections] at hwords
  rw [items, redirections, List.countP_append, hwords]
  cases direction <;> cases hinput : command.input <;> cases houtput : command.output <;>
    simp [targetItems, Item.redirects, target, hinput, houtput]

def segment (command : Command) (hnamed : command.argv ≠ []) : Segment where
  items := command.items
  named := any_isWord_items hnamed
  once direction := by
    rw [redirections_items]
    exact Bool.toNat_le _

theorem words_items (command : Command) :
    command.items.filterMap Item.word? = command.argv.map Word.literal := by
  have htarget (direction : Direction) (target : Option String) :
      (targetItems direction target).filterMap Item.word? = [] := by
    cases target <;> rfl
  have hword : (Item.word? ∘ fun argument : String => Item.word (.literal argument)) =
      fun argument => some (Word.literal argument) := rfl
  rw [items, List.filterMap_append, List.filterMap_append, htarget, htarget,
    List.filterMap_map, hword, List.append_nil, List.append_nil]
  exact congrFun List.filterMap_eq_map' _

theorem target_items (command : Command) (direction : Direction) :
    command.items.findSome? (Item.target? direction) =
      (command.target direction).map Word.literal := by
  have hwords : (command.argv.map fun argument => Item.word (.literal argument)).findSome?
      (Item.target? direction) = none := by
    simp [Item.target?]
  have htarget (other : Direction) (target : Option String) :
      (targetItems other target).findSome? (Item.target? direction) =
        if other = direction then target.map Word.literal else none := by
    cases target <;> simp [targetItems, Item.target?]
  rw [items, List.findSome?_append, List.findSome?_append, hwords, htarget, htarget]
  cases direction <;> simp [target]

theorem command_segment (bindings : Bindings) (command : Command)
    (hnamed : command.argv ≠ []) :
    (command.segment hnamed).command bindings = command := by
  have hexpand : Word.expand bindings ∘ Word.literal = id :=
    funext (Lexer.expand_literal bindings)
  simp only [Segment.command, Segment.words, Segment.target, segment, words_items, target_items,
    List.map_map, Option.map_map, hexpand, List.map_id, Option.map_id, target, id]

/-! ## The line of a command -/

theorem lex_words (argv : List String) (hnonempty : argv ≠ [])
    (hplain : ∀ argument ∈ argv, JobShell.Plain argument) :
    lex (" ".intercalate argv) = .ok (argv.map fun argument => .word (.literal argument)) := by
  induction argv with
  | nil => exact absurd rfl hnonempty
  | cons argument rest ih =>
      have hfirst := (hplain argument List.mem_cons_self).lex
      by_cases hrest : rest = []
      · subst hrest
        simpa using hfirst
      · have hothers := ih hrest fun other hother => hplain other (List.mem_cons_of_mem _ hother)
        rw [String.intercalate_cons_of_ne_nil hrest]
        exact lex_blank (c := ' ') rfl hfirst hothers

theorem lex_displayTarget (direction : Direction) {target : Option String} {left : String}
    {before : List Token} (hleft : lex left = .ok before)
    (hplain : ∀ path ∈ target, JobShell.Plain path) :
    lex (left ++ displayTarget direction target) =
      .ok (before ++ (targetItems direction target).flatMap Item.tokens) := by
  cases target with
  | none => simpa [displayTarget, targetItems] using hleft
  | some path =>
      have hsymbol : lex direction.symbol.toString = .ok [.redirect direction] := by
        cases direction <;> rfl
      have hpath := (hplain path rfl).lex
      have hjoined := lex_blank (c := ' ') rfl (lex_blank (c := ' ') rfl hleft hsymbol) hpath
      simp only [String.append_assoc, List.append_assoc] at hjoined
      simp only [displayTarget, String.append_assoc]
      exact hjoined

theorem lex_display {command : Command} (hplain : command.Plain) :
    lex command.display = .ok (command.items.flatMap Item.tokens) := by
  have hwords := lex_words command.argv hplain.named hplain.arguments
  have hinput := lex_displayTarget .input hwords hplain.input
  have houtput := lex_displayTarget .output hinput hplain.output
  have hspelled : (command.argv.map fun argument => Item.word (.literal argument)).flatMap
      Item.tokens = command.argv.map fun argument => .word (.literal argument) := by
    rw [List.flatMap_map, List.map_eq_flatMap]
    rfl
  rw [display, houtput, items, List.flatMap_append, List.flatMap_append, hspelled,
    List.append_assoc]

end Command

namespace Pipeline

/-! ## The line of a pipeline -/

theorem lex_commands (first : Command) (others : List Command) (hfirst : first.Plain)
    (hothers : ∀ command ∈ others, command.Plain) :
    lex (" | ".intercalate ((first :: others).map Command.display)) =
      .ok (first.items.flatMap Item.tokens ++
        others.flatMap fun command => .pipe :: command.items.flatMap Item.tokens) := by
  induction others generalizing first with
  | nil => simpa using Command.lex_display hfirst
  | cons second others ih =>
      have hrest := ih second (hothers second List.mem_cons_self)
        fun command hcommand => hothers command (List.mem_cons_of_mem _ hcommand)
      have hpipe : lex "|" = .ok [.pipe] := rfl
      have hpiped := lex_blank (c := ' ') rfl (Command.lex_display hfirst) hpipe
      have hjoined := lex_blank (c := ' ') rfl hpiped hrest
      rw [List.map_cons, List.map_cons, String.intercalate_cons_cons, ← List.map_cons]
      have hmark : " | " = String.singleton ' ' ++ "|" ++ String.singleton ' ' := rfl
      simp only [String.append_assoc, List.append_assoc] at hjoined
      rw [hmark]
      simp only [String.append_assoc]
      exact hjoined

theorem lex_mark {left : String} {before : List Token} (hleft : lex left = .ok before)
    (background : Bool) :
    lex (left ++ if background then " &" else "") = .ok (before ++ markTokens background) := by
  cases background with
  | false => simpa [markTokens] using hleft
  | true =>
      have hmark : lex "&" = .ok [.background] := rfl
      have hjoined := lex_blank (c := ' ') rfl hleft hmark
      rw [String.append_assoc] at hjoined
      exact hjoined

theorem pipedTokens_pmap (others : List Command)
    (hnamed : ∀ command ∈ others, command.argv ≠ []) :
    pipedTokens (others.pmap Command.segment hnamed) =
      others.flatMap fun command => .pipe :: command.items.flatMap Item.tokens := by
  induction others with
  | nil => rfl
  | cons command others ih =>
      rw [List.pmap, pipedTokens, List.flatMap_cons, List.flatMap_cons, ← pipedTokens, ih]
      rfl

/-- The line of a pipeline of plain texts is that of a tree which stands for the pipeline. -/
theorem exists_derivation {pipeline : Pipeline} (hplain : pipeline.Plain) :
    ∃ derivation : Derivation, lex pipeline.display = .ok derivation.tokens ∧
      ∀ bindings, derivation.pipeline bindings = pipeline := by
  obtain ⟨commands, background⟩ := pipeline
  obtain ⟨first, others, rfl⟩ : ∃ first others, commands = first :: others :=
    List.exists_cons_of_ne_nil hplain.nonempty
  have hfirst : first.Plain := hplain.commands first List.mem_cons_self
  have hothers : ∀ command ∈ others, command.Plain :=
    fun command hcommand => hplain.commands command (List.mem_cons_of_mem _ hcommand)
  have hnamed : ∀ command ∈ others, command.argv ≠ [] :=
    fun command hcommand => (hothers command hcommand).named
  refine ⟨{ first := first.segment hfirst.named
            others := others.pmap Command.segment hnamed
            background
            inputOnlyFirst := ?_ }, ?_, ?_⟩
  · intro segment hsegment
    obtain ⟨command, hcommand, rfl⟩ := List.mem_pmap.mp hsegment
    have hinput := hplain.inputOnlyFirst command hcommand
    rw [Command.segment, Command.redirections_items, Command.target, hinput]
    rfl
  · have hcommands := lex_commands first others hfirst hothers
    rw [Derivation.tokens, lineTokens, pipedTokens_pmap, ← List.append_assoc]
    exact lex_mark hcommands background
  · intro bindings
    simp only [Derivation.pipeline, List.map_cons, List.map_pmap, Command.command_segment,
      List.pmap_eq_map, List.map_id']

/-- A pipeline of plain texts can be typed as it is shown: its line lexes, and the tokens
are parsed into the same commands with the same arguments, targets and mark, under every
lookup and every home directory. -/
theorem parse_display {pipeline : Pipeline} (hplain : pipeline.Plain) :
    ∃ tokens, lex pipeline.display = .ok tokens ∧
      ∀ bindings, parse bindings tokens = .ok pipeline := by
  obtain ⟨derivation, hlex, hpipeline⟩ := exists_derivation hplain
  refine ⟨derivation.tokens, hlex, ?_⟩
  intro bindings
  rw [parse_tokens, hpipeline]

theorem parse_display_tilde :
    let pipeline : Pipeline :=
      { commands :=
          [{ argv := ["sort", "~x", "-k2"], input := some "in/~" },
            { argv := ["tee"], output := some "~out" }]
        background := true }
    pipeline.Plain ∧
      pipeline.display = "sort ~x -k2 < in/~ | tee > ~out &" ∧
      ∃ tokens, lex pipeline.display = .ok tokens ∧
        ∀ bindings, parse bindings tokens = .ok pipeline := by
  intro pipeline
  have hplain : pipeline.Plain := by decide +kernel
  exact ⟨hplain, rfl, parse_display hplain⟩

end Pipeline

end JobShell
