import JobShell.Proofs.Pipeline.Expansion
import Mathlib.Data.List.Forall2
import Mathlib.Data.List.Perm.Basic

/-!
# Commands between pipes

The commands of a pipeline are those that the pipes of its line set apart.  What becomes
of a word between two pipes is decided by the token right before it: behind a
redirection it is a target, and behind anything else it is an argument.  So every word
is used once, and a line that passes the check leaves nothing else to be used.
-/

namespace JobShell

def Token.word? : Token → Option Word
  | .word spelled => some spelled
  | _ => none

/-- All texts of a command. -/
def Command.texts (command : Command) : List String :=
  command.argv ++ (command.input.toList ++ command.output.toList)

/-- The tokens of a line without the mark at its end. -/
def unmarked (tokens : List Token) : List Token :=
  if tokens.getLast? = some .background then tokens.dropLast else tokens

/-- The tokens between the pipes of a line. -/
def slices (tokens : List Token) : List (List Token) :=
  (unmarked tokens).splitOn .pipe

namespace Slice

/-- Tokens, each with the one before it. -/
def behind (previous : Option Token) (tokens : List Token) : List (Option Token × Token) :=
  (previous :: tokens.map some).zip tokens

/-- The stream for which a word is a target, by the token before the word. -/
def stream? : Option Token → Option Direction
  | some (.redirect direction) => some direction
  | _ => none

def wordFor? (stream : Option Direction) (token : Option Token × Token) : Option Word :=
  if stream? token.1 = stream then token.2.word? else none

/-- The words that directly follow a redirection of a stream, or those that directly
follow none. -/
def wordsFor (stream : Option Direction) (slice : List Token) : List Word :=
  (behind none slice).filterMap (wordFor? stream)

/-- The slice holds no mark, and a word directly follows each redirection in it. -/
structure Complete (slice : List Token) : Prop where
  unmarked : .background ∉ slice
  followed : ∀ front direction back, slice = front ++ .redirect direction :: back →
    ∃ target rest, back = .word target :: rest

/-- The command has a name, and its arguments and targets are the texts of the words at
their places in the slice.  It has a target exactly if the slice has a redirection. -/
structure Spells (bindings : Bindings) (slice : List Token) (command : Command) : Prop where
  named : command.argv ≠ []
  argv : command.argv = (wordsFor none slice).map (Word.expand bindings)
  target : ∀ direction, (command.target direction).toList =
    (wordsFor (some direction) slice).map (Word.expand bindings)
  redirected : ∀ direction, (command.target direction).isSome ↔ .redirect direction ∈ slice

theorem behind_cons (previous : Option Token) (token : Token) (rest : List Token) :
    behind previous (token :: rest) = (previous, token) :: behind (some token) rest := rfl

theorem wordFor?_word (stream : Option Direction) (previous : Option Token) (spelled : Word) :
    wordFor? stream (previous, .word spelled) =
      if stream? previous = stream then some spelled else none := rfl

theorem wordFor?_redirect (stream : Option Direction) (previous : Option Token)
    (direction : Direction) : wordFor? stream (previous, .redirect direction) = none :=
  ite_self none

end Slice

/-! ## The items of a slice -/

namespace Grammar

def Item.wordFor? : Option Direction → Item → Option Word
  | none => Item.word?
  | some direction => Item.target? direction

/-- Items never begin behind a redirection. -/
theorem wordsFor_items (stream : Option Direction) (items : List Item) {previous : Option Token}
    (hprevious : Slice.stream? previous = none) :
    (Slice.behind previous (items.flatMap Item.tokens)).filterMap (Slice.wordFor? stream) =
      items.filterMap (Item.wordFor? stream) := by
  induction items generalizing previous with
  | nil => rfl
  | cons item items ih =>
      cases item with
      | word spelled =>
          rw [List.flatMap_cons, Item.tokens, List.singleton_append, Slice.behind_cons,
            List.filterMap_cons, List.filterMap_cons, ih rfl, Slice.wordFor?_word, hprevious]
          cases stream <;> rfl
      | redirect direction target =>
          rw [List.flatMap_cons, Item.tokens, List.cons_append, List.singleton_append,
            Slice.behind_cons, Slice.behind_cons,
            List.filterMap_cons_none (Slice.wordFor?_redirect stream previous direction),
            List.filterMap_cons, List.filterMap_cons, ih rfl, Slice.wordFor?_word,
            Slice.stream?]
          cases stream with
          | none => rfl
          | some other => simp only [Option.some.injEq, Item.wordFor?, Item.target?]

theorem Segment.toList_target (segment : Segment) (direction : Direction) :
    (segment.target direction).toList = segment.items.filterMap (Item.target? direction) := by
  have honce : (segment.items.filterMap (Item.target? direction)).length ≤ 1 := by
    have hredirects (item : Item) :
        (Item.target? direction item).isSome = item.redirects direction := by
      cases item with
      | word spelled => rfl
      | redirect other target =>
          rw [Item.target?, Item.redirects]
          split <;> simp [*]
    simp only [List.length_filterMap_eq_countP, hredirects]
    exact segment.once direction
  rw [Segment.target, ← List.head?_filterMap]
  generalize segment.items.filterMap (Item.target? direction) = targets at honce
  rcases targets with _ | ⟨target, _ | ⟨second, others⟩⟩
  · rfl
  · rfl
  · simp at honce

theorem Segment.isSome_target (segment : Segment) (direction : Direction) :
    (segment.target direction).isSome ↔
      .redirect direction ∈ segment.items.flatMap Item.tokens := by
  rw [Segment.target, List.findSome?_isSome_iff, List.mem_flatMap]
  refine exists_congr fun item => and_congr_right fun _ => ?_
  cases item with
  | word spelled => simp [Item.tokens, Item.target?]
  | redirect other target =>
      by_cases hsame : other = direction
      · simp [Item.tokens, Item.target?, hsame]
      · simp [Item.tokens, Item.target?, hsame, Ne.symm hsame]

theorem Segment.target_command (bindings : Bindings) (segment : Segment)
    (direction : Direction) : (segment.command bindings).target direction =
      (segment.target direction).map (Word.expand bindings) := by
  cases direction <;> rfl

/-- The slice of a segment spells its command. -/
theorem Segment.spells (bindings : Bindings) (segment : Segment) :
    Slice.Spells bindings (segment.items.flatMap Item.tokens) (segment.command bindings) where
  named := by
    obtain ⟨item, hitem, hword⟩ := List.any_eq_true.mp segment.named
    cases item with
    | redirect direction target => cases hword
    | word spelled =>
        have hspelled : spelled ∈ segment.words := List.mem_filterMap.mpr ⟨_, hitem, rfl⟩
        exact List.ne_nil_of_mem (List.mem_map_of_mem hspelled)
  argv := by
    rw [Slice.wordsFor, wordsFor_items none segment.items rfl]
    rfl
  target direction := by
    rw [Slice.wordsFor, wordsFor_items (some direction) segment.items rfl, Item.wordFor?,
      ← segment.toList_target, segment.target_command, Option.toList_map]
  redirected direction := by
    rw [segment.target_command, Option.isSome_map, segment.isSome_target]

/-- Each word of the items is in one place. -/
theorem words_perm (items : List Item) :
    (items.filterMap Item.word? ++ (items.filterMap (Item.target? .input) ++
      items.filterMap (Item.target? .output))).Perm
        ((items.flatMap Item.tokens).filterMap Token.word?) := by
  induction items with
  | nil => rfl
  | cons item items ih =>
      rw [List.flatMap_cons, List.filterMap_append]
      refine List.Perm.trans ?_ (ih.append_left _)
      cases item with
      | word spelled => rfl
      | redirect direction target =>
          cases direction with
          | input => exact List.perm_middle
          | output =>
              have hmiddle := @List.perm_middle _ target
                (items.filterMap Item.word? ++ items.filterMap (Item.target? .input))
                (items.filterMap (Item.target? .output))
              rw [List.append_assoc, List.append_assoc] at hmiddle
              exact hmiddle

theorem Segment.texts_perm (bindings : Bindings) (segment : Segment) :
    (segment.command bindings).texts.Perm
      (((segment.items.flatMap Item.tokens).filterMap Token.word?).map
        (Word.expand bindings)) := by
  have hperm := (words_perm segment.items).map (Word.expand bindings)
  rw [List.map_append, List.map_append, ← segment.toList_target, ← segment.toList_target,
    ← Option.toList_map, ← Option.toList_map] at hperm
  exact hperm

theorem mem_tokens_items {token : Token} {items : List Item}
    (htoken : token ∈ items.flatMap Item.tokens) :
    (∃ spelled, token = .word spelled) ∨ ∃ direction, token = .redirect direction := by
  obtain ⟨item, -, hitem⟩ := List.mem_flatMap.mp htoken
  cases item with
  | word spelled => exact .inl ⟨spelled, List.mem_singleton.mp hitem⟩
  | redirect direction target =>
      obtain rfl | htarget := List.mem_cons.mp hitem
      · exact .inr ⟨direction, rfl⟩
      · exact .inl ⟨target, List.mem_singleton.mp htarget⟩

theorem complete_items (items : List Item) : Slice.Complete (items.flatMap Item.tokens) where
  unmarked := by
    intro hmark
    simpa using mem_tokens_items hmark
  followed front direction back hslice := by
    induction items generalizing front with
    | nil => simp at hslice
    | cons item items ih =>
        rw [List.flatMap_cons] at hslice
        cases item with
        | word spelled =>
            rcases front with _ | ⟨first, front⟩
            · cases hslice
            · exact ih front (List.cons.inj hslice).2
        | redirect other target =>
            rcases front with _ | ⟨first, _ | ⟨second, front⟩⟩
            · exact ⟨target, _, (List.cons.inj hslice).2.symm⟩
            · cases hslice
            · exact ih front (List.cons.inj (List.cons.inj hslice).2).2

/-! ## The slices of a line -/

theorem unmarked_tokens (derivation : Derivation) :
    unmarked derivation.tokens =
      derivation.first.items.flatMap Item.tokens ++ pipedTokens derivation.others := by
  have hlast := Pipeline.getLast?_tokens derivation
  cases hbackground : derivation.background with
  | true =>
      rw [unmarked, if_pos (hlast.mpr hbackground), Derivation.tokens, lineTokens, hbackground,
        ← List.append_assoc]
      exact List.dropLast_concat
  | false =>
      have hunmarked : derivation.tokens.getLast? ≠ some .background := by
        simp [hlast, hbackground]
      rw [unmarked, if_neg hunmarked, Derivation.tokens, lineTokens, hbackground]
      exact congrArg (_ ++ ·) (List.append_nil _)

theorem splitOn_piped (items : List Item) (others : List Segment) :
    (items.flatMap Item.tokens ++ pipedTokens others).splitOn .pipe =
      items.flatMap Item.tokens ::
        others.map fun segment => segment.items.flatMap Item.tokens := by
  have hsingle (items : List Item) :
      (items.flatMap Item.tokens).splitOn .pipe = [items.flatMap Item.tokens] := by
    apply List.splitOn_eq_singleton
    intro hpipe
    simpa using mem_tokens_items hpipe
  induction others generalizing items with
  | nil => rw [pipedTokens, List.flatMap_nil, List.append_nil, hsingle, List.map_nil]
  | cons segment others ih =>
      have hpiped := pipedTokens_cons segment others []
      rw [List.append_nil, List.append_nil] at hpiped
      rw [hpiped, List.splitOn, List.splitOnP_append_cons _ _ (by simp)]
      rw [← List.splitOn, ← List.splitOn, hsingle, ih, List.map_cons]
      rfl

theorem slices_tokens (derivation : Derivation) :
    slices derivation.tokens =
      (derivation.first :: derivation.others).map fun segment =>
        segment.items.flatMap Item.tokens := by
  rw [slices, unmarked_tokens, splitOn_piped]
  rfl

theorem count_pipe_items (items : List Item) :
    (items.flatMap Item.tokens).count .pipe = 0 := by
  rw [List.count_eq_zero]
  intro hpipe
  simpa using mem_tokens_items hpipe

theorem count_pipe_tokens (derivation : Derivation) :
    derivation.tokens.count .pipe = derivation.others.length := by
  have hothers (others : List Segment) : (pipedTokens others).count .pipe = others.length := by
    induction others with
    | nil => rfl
    | cons segment others ih =>
        rw [pipedTokens, List.flatMap_cons, List.count_append, List.count_cons_self,
          count_pipe_items, ← pipedTokens, ih, List.length_cons]
        omega
  rw [Derivation.tokens, lineTokens, List.count_append, List.count_append, count_pipe_items,
    hothers]
  cases derivation.background <;> simp [markTokens]

/-- Each word of a line is used in one place. -/
theorem texts_pipeline_perm (bindings : Bindings) (derivation : Derivation) :
    ((derivation.pipeline bindings).commands.flatMap Command.texts).Perm
      ((derivation.tokens.filterMap Token.word?).map (Word.expand bindings)) := by
  have hothers (others : List Segment) :
      ((others.map (Segment.command bindings)).flatMap Command.texts).Perm
        (((pipedTokens others).filterMap Token.word?).map (Word.expand bindings)) := by
    induction others with
    | nil => rfl
    | cons segment others ih =>
        rw [List.map_cons, List.flatMap_cons, pipedTokens, List.flatMap_cons,
          List.filterMap_append, List.map_append]
        exact (segment.texts_perm bindings).append ih
  have hmark : (markTokens derivation.background).filterMap Token.word? = [] := by
    cases derivation.background <;> rfl
  rw [Derivation.pipeline, List.map_cons, List.flatMap_cons, Derivation.tokens, lineTokens,
    List.filterMap_append, List.filterMap_append, hmark, List.append_nil, List.map_append]
  exact (derivation.first.texts_perm bindings).append (hothers derivation.others)

end Grammar

namespace Pipeline

open Grammar

/-- The splitter does without the mark at the end of a line. -/
theorem split_unmarked (bindings : Bindings) (derivation : Derivation) :
    split bindings (unmarked derivation.tokens) =
      (derivation.first.command bindings,
        derivation.others.map (Segment.command bindings)) := by
  have hpiped := split_piped bindings derivation.others false
  rw [markTokens, if_neg Bool.false_ne_true, List.append_nil] at hpiped
  rw [unmarked_tokens, split_items, hpiped]
  simp [Segment.command, Segment.words, Segment.target]

/-- A line that passes the check has a pipeline with one command for each slice between
its pipes, which the slice spells; and the first command alone reads from a file.  The
texts of the commands are those of the line's words, each used once.  What is split is
the line without its mark, and it is complete. -/
theorem parse_slices (bindings : Bindings) {tokens : List Token}
    (hcheck : check tokens = .ok ()) :
    ∃ pipeline, parse bindings tokens = .ok pipeline ∧
      pipeline.commands.length = tokens.count .pipe + 1 ∧
      (pipeline.background = true ↔ tokens.getLast? = some .background) ∧
      List.Forall₂ (Slice.Spells bindings) (slices tokens) pipeline.commands ∧
      (∀ command ∈ pipeline.commands.tail, command.input = none) ∧
      (pipeline.commands.flatMap Command.texts).Perm
        ((tokens.filterMap Token.word?).map (Word.expand bindings)) ∧
      (∃ first others, split bindings (unmarked tokens) = (first, others) ∧
        pipeline.commands = first :: others) ∧
      ∀ slice ∈ slices tokens, Slice.Complete slice := by
  obtain ⟨error, herror⟩ | ⟨derivation, rfl, hparse⟩ := parse_cases tokens
  · have hparsed := herror bindings
    rw [parse, hcheck] at hparsed
    cases hparsed
  · refine ⟨derivation.pipeline bindings, hparse bindings, ?_,
      (getLast?_tokens derivation).symm, ?_, ?_, texts_pipeline_perm bindings derivation,
      ⟨_, _, split_unmarked bindings derivation, rfl⟩, ?_⟩
    · rw [count_pipe_tokens, Derivation.pipeline, List.length_map, List.length_cons]
    · rw [slices_tokens, Derivation.pipeline, List.forall₂_map_left_iff,
        List.forall₂_map_right_iff, List.forall₂_same]
      intro segment _
      exact segment.spells bindings
    · intro command hcommand
      obtain ⟨segment, hsegment, rfl⟩ := List.mem_map.mp hcommand
      rw [Segment.command, Segment.target_input_eq_none
        (derivation.inputOnlyFirst segment hsegment), Option.map_none]
    · rw [slices_tokens]
      intro slice hslice
      obtain ⟨segment, -, rfl⟩ := List.mem_map.mp hslice
      exact complete_items segment.items

/-- Redirections stand between the words of a command, and before its name. -/
def interleaved : List Token :=
  [.redirect .input, .word (.literal "in"), .word (.literal "sort"), .redirect .output,
    .word ⟨[.home, .literal "/out"]⟩, .word ⟨[.reference "key"]⟩, .pipe,
    .word (.literal "cat"), .background]

theorem parse_slices_interleaved :
    let bindings : Bindings := { lookup := fun _ => some "a | b", accountHome := none }
    check interleaved = .ok () ∧
      ∃ pipeline, parse bindings interleaved = .ok pipeline ∧
        pipeline.commands =
          [{ argv := ["sort", "a | b"], input := some "in", output := some "a | b/out" },
            { argv := ["cat"] }] ∧
        pipeline.commands.length = interleaved.count .pipe + 1 ∧
        List.Forall₂ (Slice.Spells bindings) (slices interleaved) pipeline.commands ∧
        (pipeline.commands.flatMap Command.texts).Perm
          ((interleaved.filterMap Token.word?).map (Word.expand bindings)) ∧
        ∀ slice ∈ slices interleaved, Slice.Complete slice := by
  intro bindings
  have hcheck : check interleaved = .ok () := rfl
  obtain ⟨pipeline, hparse, hlength, -, hspells, -, htexts, -, hcomplete⟩ :=
    parse_slices bindings hcheck
  refine ⟨hcheck, pipeline, hparse, ?_, hlength, hspells, htexts, hcomplete⟩
  cases hparse
  rfl

end Pipeline

end JobShell
