import JobShell.Proofs.Lexing.WellFormed
import JobShell.Proofs.Pipeline.Expansion
import Mathlib.Logic.Relation

/-!
# What merging literals keeps

Quotes and escapes cut the text of a word into literals, and merging takes the cuts out
again.  Nothing that a word is used for tells the difference: its text, the form in which it
is shown, and the names that it looks up are those of its components, one after the other.
A word can be put together from either end, and two lists of components give one word
exactly if they differ in cuts only.
-/

namespace JobShell

namespace Component

/-- The names that the expansion of a component looks up. -/
def asked : Component → List String
  | .literal _ => []
  | .reference name => [name]
  | .home => ["HOME"]

/-- Whether two components stay apart when they meet. -/
def keepsApart (left right : Component) : Bool :=
  !(left.isLiteral && right.isLiteral)

end Component

/-- One literal of the first list stands in the second as two. -/
inductive Cut : List Component → List Component → Prop
  | cut (before after : List Component) (left right : String) :
      Cut (before ++ .literal (left ++ right) :: after)
        (before ++ .literal left :: .literal right :: after)

namespace Word

/-- Puts a component at the end of a word; a literal joins a literal that it finds there. -/
def push (word : Word) (component : Component) : Word :=
  match word.components.getLast?, component with
  | some (.literal last), .literal text =>
      ⟨word.components.dropLast ++ [.literal (last ++ text)]⟩
  | _, _ => ⟨word.components ++ [component]⟩

/-- The word has its literals apart, and stands for all that the components stand for. -/
structure Merges (word : Word) (components : List Component) : Prop where
  apart : ∀ before left right after,
    word.components ≠ before ++ .literal left :: .literal right :: after
  expand : ∀ bindings,
    word.expand bindings = String.join (components.map (Component.expand bindings))
  display : word.display = String.join (components.map Component.display)
  asks : ∀ bindings, word.asks bindings = components.flatMap Component.asked

end Word

/-! ## Putting a component before others -/

namespace Component

/-- Only the first component of a word sees what is put before it. -/
theorem prepend_append (component first : Component) (rest after : List Component) :
    component.prepend (first :: rest ++ after) = component.prepend (first :: rest) ++ after := by
  cases component <;> cases first <;> rfl

theorem isChain_keepsApart_prepend (component : Component) {rest : List Component}
    (hrest : rest.IsChain fun left right => left.keepsApart right) :
    (component.prepend rest).IsChain fun left right => left.keepsApart right := by
  obtain ⟨text, next, later, rfl, rfl, hmerged⟩ | ⟨hkept, hapart⟩ :=
    component.prepend_cases rest
  · rw [hmerged]
    rw [List.isChain_cons] at hrest ⊢
    exact hrest
  · rw [hkept, List.isChain_cons]
    refine ⟨?_, hrest⟩
    intro next hnext
    rw [keepsApart, Bool.not_eq_true', ← Bool.not_eq_true]
    exact hapart next hnext

end Component

namespace Word

/-! ## Literals apart -/

theorem isChain_keepsApart_ofComponents (components : List Component) :
    (ofComponents components).components.IsChain fun left right => left.keepsApart right := by
  induction components with
  | nil => exact .nil
  | cons component rest ih => exact component.isChain_keepsApart_prepend ih

theorem literals_apart (components before : List Component) (left right : String)
    (after : List Component) :
    (ofComponents components).components ≠
      before ++ .literal left :: .literal right :: after := by
  intro hadjacent
  have hchain := isChain_keepsApart_ofComponents components
  rw [List.isChain_iff_forall_rel_of_append_cons_cons] at hchain
  cases hchain hadjacent

/-! ## Expansion -/

section Expansion

variable {m : Type → Type} [Monad m] (lookup : String → m (Option String))
  (accountHome : Option String)

theorem expandM_cons (component : Component) (rest : List Component) :
    (Word.mk (component :: rest)).expandM lookup accountHome =
      (do
        let text ← component.expandM lookup accountHome
        let tail ← (Word.mk rest).expandM lookup accountHome
        pure (text ++ tail)) := rfl

variable [LawfulMonad m]

theorem expandM_prepend (component : Component) (rest : List Component) :
    (Word.mk (component.prepend rest)).expandM lookup accountHome =
      (Word.mk (component :: rest)).expandM lookup accountHome := by
  obtain ⟨text, next, later, rfl, rfl, hmerged⟩ | ⟨hkept, -⟩ := component.prepend_cases rest
  · rw [hmerged]
    simp only [expandM_cons, Component.expandM, pure_bind, bind_assoc, String.append_assoc]
  · rw [hkept]

/-- Whatever looking a name up does, merging its literals changes nothing for a word. -/
theorem expandM_ofComponents (components : List Component) :
    (ofComponents components).expandM lookup accountHome =
      (Word.mk components).expandM lookup accountHome := by
  induction components with
  | nil => rfl
  | cons component rest ih =>
      calc
        (ofComponents (component :: rest)).expandM lookup accountHome =
            (Word.mk (component :: (ofComponents rest).components)).expandM lookup
              accountHome := expandM_prepend lookup accountHome component _
        _ = (Word.mk (component :: rest)).expandM lookup accountHome := by
          rw [expandM_cons, expandM_cons, ih]

end Expansion

theorem expand_mk (bindings : Bindings) (components : List Component) :
    (Word.mk components).expand bindings =
      String.join (components.map (Component.expand bindings)) := by
  induction components with
  | nil => rfl
  | cons component rest ih => rw [expand_cons, List.map_cons, String.join_cons, ih]

theorem expand_ofComponents (bindings : Bindings) (components : List Component) :
    (ofComponents components).expand bindings =
      String.join (components.map (Component.expand bindings)) := by
  rw [← expand_mk]
  exact congrArg Id.run (expandM_ofComponents _ _ components)

end Word

/-! ## The names that are looked up -/

/-- Looks a name up and notes it. -/
def Bindings.noting (bindings : Bindings) (name : String) :
    StateM (List String) (Option String) := do
  modify (· ++ [name])
  pure (bindings.lookup name)

theorem Component.run_expandM_noting (bindings : Bindings) (component : Component)
    (noted : List String) :
    (component.expandM bindings.noting bindings.accountHome).run noted =
      pure (component.expand bindings, noted ++ component.asked) := by
  cases component with
  | literal text =>
      rw [asked, List.append_nil]
      rfl
  | reference name => rfl
  | home => rfl

namespace Word

/-- With each name noted, expansion gives the texts and the names of the components. -/
theorem run_expandM_noting (bindings : Bindings) (components : List Component)
    (noted : List String) :
    ((Word.mk components).expandM bindings.noting bindings.accountHome).run noted =
      pure ((Word.mk components).expand bindings,
        noted ++ components.flatMap Component.asked) := by
  induction components generalizing noted with
  | nil =>
      rw [List.flatMap_nil, List.append_nil]
      rfl
  | cons component rest ih =>
      rw [expandM_cons, StateT.run_bind, Component.run_expandM_noting, pure_bind,
        StateT.run_bind, ih, pure_bind, StateT.run_pure]
      rw [expand_cons, List.flatMap_cons, List.append_assoc]

theorem asks_ofComponents (bindings : Bindings) (components : List Component) :
    (ofComponents components).asks bindings = components.flatMap Component.asked := by
  have hmerged : (ofComponents components).asks bindings = (Word.mk components).asks bindings :=
    congrArg (fun expansion => (expansion.run []).2)
      (expandM_ofComponents bindings.noting bindings.accountHome components)
  rw [hmerged]
  exact congrArg Prod.snd (run_expandM_noting bindings components [])

/-! ## Display -/

theorem display_cons (component : Component) (rest : List Component) :
    (Word.mk (component :: rest)).display = component.display ++ (Word.mk rest).display := by
  rw [display, List.map_cons, String.join_cons]
  rfl

theorem display_prepend (component : Component) (rest : List Component) :
    (Word.mk (component.prepend rest)).display = (Word.mk (component :: rest)).display := by
  obtain ⟨text, next, later, rfl, rfl, hmerged⟩ | ⟨hkept, -⟩ := component.prepend_cases rest
  · rw [hmerged]
    simp only [display_cons, Component.display, String.append_assoc]
  · rw [hkept]

theorem display_ofComponents (components : List Component) :
    (ofComponents components).display = String.join (components.map Component.display) := by
  induction components with
  | nil => rfl
  | cons component rest ih =>
      calc
        (ofComponents (component :: rest)).display =
            (Word.mk (component :: (ofComponents rest).components)).display :=
          display_prepend component _
        _ = component.display ++ (ofComponents rest).display := display_cons component _
        _ = String.join ((component :: rest).map Component.display) := by
          rw [ih, List.map_cons, String.join_cons]

/-! ## Words from the left -/

/-- Only the last component of a word sees what is put behind it. -/
theorem push_concat (before : List Component) (last component : Component) :
    ((Word.mk (before ++ [last])).push component).components =
      before ++ ((Word.mk [last]).push component).components := by
  cases last <;> cases component <;> simp [push]

/-- It makes no difference which end of a word grows first. -/
theorem push_prepend (first last : Component) (components : List Component) :
    ((Word.mk (first.prepend components)).push last).components =
      first.prepend ((Word.mk components).push last).components := by
  rcases List.eq_nil_or_concat' components with rfl | ⟨before, middle, rfl⟩
  · cases first <;> cases last <;> rfl
  · cases before with
    | nil =>
        -- here one component is both the first and the last
        cases first <;> cases middle <;> cases last <;>
          simp [push, Component.prepend, String.append_assoc]
    | cons second before =>
        rw [Component.prepend_append, push_concat, push_concat, Component.prepend_append]

theorem push_ofComponents (components : List Component) (last : Component) :
    (ofComponents components).push last = ofComponents (components ++ [last]) := by
  induction components with
  | nil => cases last <;> rfl
  | cons component rest ih =>
      calc
        (ofComponents (component :: rest)).push last =
            ⟨component.prepend ((ofComponents rest).push last).components⟩ :=
          congrArg Word.mk (push_prepend component last (ofComponents rest).components)
        _ = ofComponents (component :: rest ++ [last]) := by
          rw [ih]
          rfl

/-- A word that takes one component after the other ends up as their merged list. -/
theorem foldl_push_eq_ofComponents (components : List Component) :
    components.foldl push ⟨[]⟩ = ofComponents components := by
  induction components using List.reverseRecOn with
  | nil => rfl
  | append_singleton components last ih =>
      rw [List.foldl_append, ih, List.foldl_cons, List.foldl_nil, push_ofComponents]

/-! ## Cuts -/

theorem ofComponents_eq_of_cut {first second : List Component} (hcut : Cut first second) :
    ofComponents first = ofComponents second := by
  obtain ⟨before, after, left, right⟩ := hcut
  simp only [ofComponents, List.foldr_append, List.foldr_cons,
    Component.prepend_literals]

theorem eqvGen_cut_cons (component : Component) {first second : List Component}
    (hcuts : Relation.EqvGen Cut first second) :
    Relation.EqvGen Cut (component :: first) (component :: second) := by
  induction hcuts with
  | rel first second hcut =>
      obtain ⟨before, after, left, right⟩ := hcut
      exact .rel _ _ (.cut (component :: before) after left right)
  | refl first => exact .refl _
  | symm first second _ ih => exact .symm _ _ ih
  | trans first second third _ _ ihleft ihright => exact .trans _ _ _ ihleft ihright

theorem eqvGen_cut_prepend (component : Component) (rest : List Component) :
    Relation.EqvGen Cut (component :: rest) (component.prepend rest) := by
  obtain ⟨text, next, later, rfl, rfl, hmerged⟩ | ⟨hkept, -⟩ := component.prepend_cases rest
  · rw [hmerged]
    apply Relation.EqvGen.symm
    exact .rel _ _ (.cut [] later text next)
  · rw [hkept]
    exact .refl _

/-- Merging only takes cuts out. -/
theorem eqvGen_cut_ofComponents (components : List Component) :
    Relation.EqvGen Cut components (ofComponents components).components := by
  induction components with
  | nil => exact .refl _
  | cons component rest ih =>
      apply Relation.EqvGen.trans _ _ _ (eqvGen_cut_cons component ih)
      exact eqvGen_cut_prepend component _

theorem ofComponents_eq_iff (first second : List Component) :
    ofComponents first = ofComponents second ↔ Relation.EqvGen Cut first second := by
  constructor
  · intro hmerged
    apply Relation.EqvGen.trans _ _ _ (eqvGen_cut_ofComponents first)
    rw [hmerged]
    exact .symm _ _ (eqvGen_cut_ofComponents second)
  · intro hcuts
    induction hcuts with
    | rel first second hcut => exact ofComponents_eq_of_cut hcut
    | refl first => rfl
    | symm first second _ ih => exact ih.symm
    | trans first second third _ _ ihleft ihright => exact ihleft.trans ihright

/-- The merged word keeps its literals apart and stands for what its components stand for.
It is the one that takes them up from the left, and other components give it too exactly if
they come from these by cutting literals and taking out cuts. -/
theorem ofComponents_merges (components : List Component) :
    (ofComponents components).Merges components ∧
      ofComponents components = components.foldl push ⟨[]⟩ ∧
      ∀ others, ofComponents components = ofComponents others ↔
        Relation.EqvGen Cut components others := by
  refine ⟨?_, (foldl_push_eq_ofComponents components).symm, ofComponents_eq_iff components⟩
  exact {
    apart := literals_apart components
    expand := fun bindings => expand_ofComponents bindings components
    display := display_ofComponents components
    asks := fun bindings => asks_ofComponents bindings components }

example :
    ofComponents [.literal "", .home, .literal "", .literal "/", .literal "src"] =
      ⟨[.literal "", .home, .literal "/src"]⟩ := rfl

end Word

end JobShell
