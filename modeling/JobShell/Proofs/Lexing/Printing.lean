import JobShell.Proofs.Lexing.Plain
import JobShell.Proofs.Lexing.WellFormed

/-!
# Printing tokens and reading them again

A word of plain literals, references and the home directory is shown as a text that can be
typed.  A reference is shown with its braces, so it ends there whatever follows; a literal
ends at the dollar sign of the next reference; and what follows a tilde decides whether it
is the home directory or a literal that begins with it.  Tokens that are shown with gaps
between them are read as the tokens that they are.
-/

namespace JobShell

/-- A word that is well-formed, and whose literals can be typed as they are. -/
structure Word.Plain (word : Word) : Prop extends word.WellFormed where
  nonemptyLiterals : .literal "" ∉ word.components
  bare : ∀ text, .literal text ∈ word.components → ∀ c ∈ text.toList, Lexer.isBare c
  notHome : word ≠ .literal "~"
  notBelowHome : ∀ text rest, word.components = .literal text :: rest →
    ¬ "~/".toList <+: text.toList

namespace Component

/-- What a plain word demands of each of its components. -/
def isPlain : Component → Bool
  | .literal text => text ≠ "" && text.toList.all Lexer.isBare
  | .reference name => name ≠ "" && name.toList.all Lexer.isNameChar
  | .home => true

def isBelowHome : Component → Bool
  | .literal text => "~/".toList.isPrefixOf text.toList
  | _ => false

end Component

theorem Word.plain_iff (word : Word) :
    word.Plain ↔
      word.components ≠ [] ∧
      (word.components.IsChain fun left right => left.precedes right) ∧
      (∀ component ∈ word.components, component.isPlain) ∧
      word ≠ .literal "~" ∧
      ∀ first ∈ word.components.head?, first.isBelowHome = false := by
  constructor
  · intro hplain
    obtain ⟨hnonempty, hjoints, hnames⟩ := (wellFormed_iff word).mp hplain.toWellFormed
    refine ⟨hnonempty, hjoints, ?_, hplain.notHome, ?_⟩
    · intro component hmem
      cases component with
      | literal text =>
          have htext : text ≠ "" := by
            rintro rfl
            exact hplain.nonemptyLiterals hmem
          simpa [Component.isPlain, htext] using hplain.bare text hmem
      | reference name =>
          have hname := hnames name hmem
          simpa [Component.isPlain] using And.intro hname.nonempty hname.chars
      | home => rfl
    · intro first hfirst
      obtain ⟨rest, hcomponents⟩ := List.head?_eq_some_iff.mp hfirst
      cases first with
      | literal text =>
          rw [Component.isBelowHome, Bool.eq_false_iff, Ne, List.isPrefixOf_iff_prefix]
          exact hplain.notBelowHome text rest hcomponents
      | reference name => rfl
      | home => rfl
  · rintro ⟨hnonempty, hjoints, hcomponents, hnotHome, hfirst⟩
    refine ⟨(wellFormed_iff word).mpr ⟨hnonempty, hjoints, ?_⟩, ?_, ?_, hnotHome, ?_⟩
    · intro name hmem
      have hname := hcomponents _ hmem
      simp only [Component.isPlain, Bool.and_eq_true, List.all_eq_true] at hname
      exact ⟨by simpa using hname.1, hname.2⟩
    · intro hmem
      have hempty := hcomponents _ hmem
      simp [Component.isPlain] at hempty
    · intro text hmem
      have htext := hcomponents _ hmem
      simp only [Component.isPlain, Bool.and_eq_true, List.all_eq_true] at htext
      exact htext.2
    · intro text rest hbegins hbelow
      have hnotBelow := hfirst (.literal text) (by rw [hbegins]; rfl)
      rw [Component.isBelowHome, List.isPrefixOf_iff_prefix.mpr hbelow] at hnotBelow
      cases hnotBelow

instance Word.decidablePlain (word : Word) : Decidable word.Plain :=
  decidable_of_iff _ (Word.plain_iff word).symm

/-- A token that can be typed as it is shown. -/
def Token.Plain : Token → Prop
  | .word spelled => spelled.Plain
  | _ => True

instance Token.decidablePlain (token : Token) : Decidable token.Plain :=
  match token with
  | .word spelled => inferInstanceAs (Decidable spelled.Plain)
  | .pipe | .redirect _ | .background => inferInstanceAs (Decidable True)

/-- What can stand between two tokens. -/
structure Gap where
  text : String
  nonempty : text ≠ ""
  blank : ∀ c ∈ text.toList, Text.isBlank c

/-- Texts one after the other, each but the last with the next gap behind it. -/
def spaced (gaps : Nat → Gap) : List String → String
  | [] => ""
  | [text] => text
  | text :: rest => text ++ (gaps 0).text ++ spaced (fun index => gaps (index + 1)) rest

theorem Component.toList_display_reference (name : String) :
    (reference name).display.toList = '$' :: '\x7b' :: (name.toList ++ ['\x7d']) := by
  simp [display]

namespace Lexer

/-! ## Reading components -/

/-- What is read of a component: one literal for each character of a literal. -/
def pieces : Component → List Component
  | .literal text => text.toList.map fun c => .literal (String.singleton c)
  | component => [component]

namespace Scan

/-- The scan after components have been read. -/
def withParts (scan : Scan) (components : List Component) : Scan :=
  { scan with parts := components.reverse ++ scan.parts }

@[simp]
theorem mode_withParts (scan : Scan) (components : List Component) :
    (scan.withParts components).mode = scan.mode := rfl

@[simp]
theorem withParts_withParts (scan : Scan) (left right : List Component) :
    (scan.withParts left).withParts right = scan.withParts (left ++ right) := by
  simp [withParts]

theorem steps_literal {scan : Scan} {text : String} (hbare : ∀ c ∈ text.toList, isBare c)
    (hmode : scan.mode = .word) :
    scan.steps text.toList = .ok (scan.withParts (pieces (.literal text))) := by
  rw [steps_bare scan text.toList hbare hmode, withLiterals, List.map_map]
  rfl

theorem steps_braced {scan : Scan} {name : String} (hname : IsName name.toList)
    (hmode : scan.mode = .word) :
    scan.steps (Component.reference name).display.toList =
      .ok (scan.withParts (pieces (.reference name))) := by
  have hdollar : scan.step '$' = .ok (scan.within (.dollar .bare)) := by
    simp only [step, hmode]
    rfl
  have hbrace : (scan.within (.dollar .bare)).step '\x7b' =
      .ok (scan.within (.braces .bare [])) := rfl
  have hclosed : ((scan.within (.braces .bare name.toList)).pushName name.toList).within .word =
      scan.withParts (pieces (.reference name)) := by
    have hkept : (scan.withParts (pieces (.reference name))).mode = .word := hmode
    rw [pushName, String.ofList_toList]
    exact within_mode hkept
  rw [Component.toList_display_reference, steps_cons_of_step _ hdollar, steps_cons_of_step _ hbrace,
    steps_name rfl hname.chars, List.nil_append,
    steps_cons_of_step _ (step_closeReference rfl hname)]
  exact congrArg Except.ok hclosed

theorem steps_components (components : List Component) (hhome : .home ∉ components)
    (hbare : ∀ text, .literal text ∈ components → ∀ c ∈ text.toList, isBare c)
    (hnames : ∀ name, .reference name ∈ components → IsName name.toList)
    (scan : Scan) (hmode : scan.mode = .word) :
    scan.steps (components.flatMap fun component => component.display.toList) =
      .ok (scan.withParts (components.flatMap pieces)) := by
  induction components generalizing scan with
  | nil => rfl
  | cons component rest ih =>
      have hfirst : scan.steps component.display.toList =
          .ok (scan.withParts (pieces component)) := by
        cases component with
        | literal text => exact steps_literal (hbare text List.mem_cons_self) hmode
        | reference name => exact steps_braced (hnames name List.mem_cons_self) hmode
        | home => exact absurd List.mem_cons_self hhome
      have hrest := ih (fun hmem => hhome (List.mem_cons_of_mem _ hmem))
        (fun text hmem => hbare text (List.mem_cons_of_mem _ hmem))
        (fun name hmem => hnames name (List.mem_cons_of_mem _ hmem))
        (scan.withParts (pieces component)) hmode
      rw [List.flatMap_cons, steps_append_of_steps _ hfirst, hrest, withParts_withParts,
        List.flatMap_cons]

end Scan

end Lexer

/-! ## Merging what has been read -/

namespace Word

/-- The pieces of plain components are merged into the components again. -/
theorem foldr_pieces {components : List Component} (hnonempty : .literal "" ∉ components)
    (hjoints : components.IsChain fun left right => left.precedes right) :
    (components.flatMap Lexer.pieces).foldr Component.prepend [] = components := by
  induction components with
  | nil => rfl
  | cons component rest ih =>
      rw [List.isChain_cons] at hjoints
      rw [List.flatMap_cons, List.foldr_append,
        ih (fun hmem => hnonempty (List.mem_cons_of_mem _ hmem)) hjoints.2]
      cases component with
      | literal text =>
          have htext : text.toList ≠ [] := by
            intro hempty
            apply hnonempty
            rw [String.toList_eq_nil_iff.mp hempty]
            exact List.mem_cons_self
          have hrest : ∀ next ∈ rest.head?, next.isLiteral = false := by
            intro next hnext
            have hprecedes := hjoints.1 next hnext
            cases next with
            | literal other => cases hprecedes
            | reference name => rfl
            | home => rfl
          rw [Lexer.pieces, Component.foldr_prepend_singletons htext, String.ofList_toList]
          obtain ⟨_, next, later, -, rfl, -⟩ | ⟨hkept, -⟩ :=
            (Component.literal text).prepend_cases rest
          · cases hrest _ rfl
          · exact hkept
      | reference name => rfl
      | home => rfl

theorem ofComponents_pieces {word : Word} (hplain : word.Plain) :
    ofComponents (word.components.flatMap Lexer.pieces) = word := by
  have hjoints := ((wellFormed_iff word).mp hplain.toWellFormed).2.1
  rw [ofComponents, foldr_pieces hplain.nonemptyLiterals hjoints]

theorem toList_display (word : Word) :
    word.display.toList = word.components.flatMap fun component => component.display.toList := by
  rw [display, String.toList_join, List.flatMap_map]

end Word

/-! ## The beginning of a word -/

namespace Lexer

namespace Scan

/-- The home directory before a literal that begins with a slash. -/
theorem steps_home (rest : List Char) :
    steps {} ('~' :: '/' :: rest) = ((within {} .word).withParts [.home]).steps ('/' :: rest) :=
  rfl

theorem steps_dollar (rest : List Char) :
    steps {} ('$' :: rest) = (within {} .word).steps ('$' :: rest) :=
  steps_gap {} '$' rest rfl (by decide) (by decide) (by decide)

/-- A literal before anything that does not make its tilde the home directory. -/
theorem steps_firstLiteral {text : String} (hnonempty : text ≠ "")
    (hbare : ∀ c ∈ text.toList, isBare c) (hbelow : ¬ "~/".toList <+: text.toList)
    {tail : List Char} (htail : text = "~" → ∃ later, tail = '$' :: later) :
    steps {} (text.toList ++ tail) = (within {} .word).steps (text.toList ++ tail) := by
  obtain ⟨c, rest, htext⟩ : ∃ c rest, text.toList = c :: rest :=
    List.exists_cons_of_ne_nil (by simpa using hnonempty)
  rw [htext] at hbare hbelow ⊢
  apply steps_begin rfl (isSeparator_eq_false_of_isBare (hbare c List.mem_cons_self))
  rintro rfl
  cases rest with
  | nil =>
      have hhome : text = "~" := String.toList_inj.mp htext
      obtain ⟨later, rfl⟩ := htail hhome
      exact ⟨'$', later, rfl, by decide⟩
  | cons next more =>
      refine ⟨next, more ++ tail, rfl, endsTilde_eq_false_of_isBare (hbare next (by simp)) ?_⟩
      rintro rfl
      exact hbelow ⟨more, rfl⟩

end Scan

end Lexer

namespace Word

theorem WellFormed.home_notMem {word : Word} (hword : word.WellFormed) {first : Component}
    {rest : List Component} (hcomponents : word.components = first :: rest) : .home ∉ rest := by
  intro hmem
  obtain ⟨before, after, rfl⟩ := List.append_of_mem hmem
  have hbefore := hword.homeFirst (first :: before) after hcomponents
  cases hbefore

/-- A word that is a tilde and more has a reference behind the tilde. -/
theorem Plain.reference_of_tilde {word : Word} (hplain : word.Plain) {rest : List Component}
    (hcomponents : word.components = .literal "~" :: rest) :
    ∃ name later, rest = .reference name :: later := by
  cases rest with
  | nil => exact absurd (congrArg Word.mk hcomponents) hplain.notHome
  | cons next later =>
      cases next with
      | literal text => exact absurd hcomponents (hplain.apart [] _ _ _)
      | reference name => exact ⟨name, later, rfl⟩
      | home => exact absurd List.mem_cons_self (hplain.home_notMem hcomponents)

/-- A word that does not begin with the home directory begins as it goes on. -/
theorem Plain.steps_begin {word : Word} (hplain : word.Plain) (hhome : .home ∉ word.components) :
    Lexer.Scan.steps {} word.display.toList =
      (Lexer.Scan.within {} .word).steps word.display.toList := by
  obtain ⟨first, rest, hcomponents⟩ := List.exists_cons_of_ne_nil hplain.nonempty
  have hfirst : first ∈ word.components := by
    rw [hcomponents]
    exact List.mem_cons_self
  rw [toList_display, hcomponents, List.flatMap_cons]
  cases first with
  | literal text =>
      have hnonempty : text ≠ "" := by
        rintro rfl
        exact hplain.nonemptyLiterals hfirst
      apply Lexer.Scan.steps_firstLiteral hnonempty (hplain.bare text hfirst)
        (hplain.notBelowHome text rest hcomponents)
      rintro rfl
      obtain ⟨name, later, rfl⟩ := hplain.reference_of_tilde hcomponents
      rw [List.flatMap_cons, Component.toList_display_reference]
      exact ⟨_, rfl⟩
  | reference name =>
      rw [Component.toList_display_reference]
      exact Lexer.Scan.steps_dollar _
  | home => exact absurd hfirst hhome

/-- A word that is more than the home directory is read component by component. -/
theorem Plain.steps {word : Word} (hplain : word.Plain) (halone : word ≠ ⟨[.home]⟩) :
    Lexer.Scan.steps {} word.display.toList =
      .ok ((Lexer.Scan.within {} .word).withParts (word.components.flatMap Lexer.pieces)) := by
  by_cases hhome : .home ∈ word.components
  · obtain ⟨before, rest, hcomponents⟩ := List.append_of_mem hhome
    obtain rfl := hplain.homeFirst before rest hcomponents
    rw [List.nil_append] at hcomponents
    cases rest with
    | nil => exact absurd (congrArg Word.mk hcomponents) halone
    | cons next later =>
        obtain ⟨text, rfl, hslash⟩ := hplain.homeBelow next later hcomponents
        obtain ⟨more, htext⟩ := List.head?_eq_some_iff.mp hslash
        have hrest := Lexer.Scan.steps_components (.literal text :: later)
          (hplain.home_notMem hcomponents)
          (fun other hother => hplain.bare other (by rw [hcomponents]; exact .tail _ hother))
          (fun name hname => hplain.names name (by rw [hcomponents]; exact .tail _ hname))
          ((Lexer.Scan.within {} .word).withParts [.home]) rfl
        have hbegin : (Component.literal text).display.toList = '/' :: more := htext
        rw [List.flatMap_cons, hbegin, List.cons_append, ← Lexer.Scan.steps_home,
          Lexer.Scan.withParts_withParts] at hrest
        rw [toList_display, hcomponents, List.flatMap_cons, List.flatMap_cons, hbegin]
        exact hrest
  · rw [hplain.steps_begin hhome, toList_display]
    exact Lexer.Scan.steps_components word.components hhome hplain.bare hplain.names _ rfl

/-- A plain word is read as the word that it is. -/
theorem Plain.lex {word : Word} (hplain : word.Plain) :
    JobShell.lex word.display = .ok [.word word] := by
  by_cases halone : word = ⟨[.home]⟩
  · rw [halone]
    rfl
  · rw [lex_eq_ok_iff, Lexer.tokens_eq_ok_iff]
    refine ⟨_, hplain.steps halone, ?_⟩
    simp [Lexer.Scan.finish, Lexer.Scan.close, Lexer.Scan.withParts, Lexer.Scan.within,
      ofComponents_pieces hplain]

end Word

/-! ## Tokens and gaps -/

theorem Token.Plain.lex {token : Token} (hplain : token.Plain) :
    JobShell.lex token.display = .ok [token] := by
  cases token with
  | word spelled => exact Word.Plain.lex hplain
  | pipe => rfl
  | redirect direction => cases direction <;> rfl
  | background => rfl

theorem lex_blanks {blanks : List Char} (hblanks : ∀ c ∈ blanks, Text.isBlank c) {right : String}
    {after : List Token} (hright : lex right = .ok after) :
    lex (String.ofList blanks ++ right) = .ok after := by
  have hempty : lex "" = .ok [] := rfl
  induction blanks with
  | nil => simpa using hright
  | cons c rest ih =>
      rw [List.forall_mem_cons] at hblanks
      simpa [String.append_assoc] using lex_blank hblanks.1 hempty (ih hblanks.2)

/-- A gap parts what stands on its sides as a single blank does. -/
theorem lex_gap {left right : String} {before after : List Token} (gap : Gap)
    (hleft : lex left = .ok before) (hright : lex right = .ok after) :
    lex (left ++ gap.text ++ right) = .ok (before ++ after) := by
  have hblank := gap.blank
  obtain ⟨c, rest, htext⟩ : ∃ c rest, gap.text.toList = c :: rest :=
    List.exists_cons_of_ne_nil (by simpa using gap.nonempty)
  rw [htext, List.forall_mem_cons] at hblank
  have hgap : gap.text = String.singleton c ++ String.ofList rest := by
    simp [← String.toList_inj, htext]
  rw [hgap, ← String.append_assoc, String.append_assoc]
  exact lex_blank hblank.1 hleft (lex_blanks hblank.2 hright)

/-- Plain tokens that are shown with gaps between them are read as the tokens that they
are. -/
theorem lex_spaced {tokens : List Token} (hplain : ∀ token ∈ tokens, token.Plain)
    (gaps : Nat → Gap) : lex (spaced gaps (tokens.map Token.display)) = .ok tokens := by
  induction tokens generalizing gaps with
  | nil => rfl
  | cons token rest ih =>
      rw [List.forall_mem_cons] at hplain
      have htoken := hplain.1.lex
      cases rest with
      | nil => exact htoken
      | cons next later =>
          have hrest := ih hplain.2 fun index => gaps (index + 1)
          exact lex_gap (gaps 0) htoken hrest

/-- A tilde before a reference and a brace behind one, between gaps of two kinds. -/
theorem lex_spaced_tildes :
    let tokens : List Token :=
      [.word ⟨[.home, .literal "/a~", .reference "X_1", .literal "\x7dé"]⟩, .redirect .input,
        .word ⟨[.literal "~", .reference "1", .reference "HOME"]⟩, .pipe, .word ⟨[.home]⟩]
    let gaps (index : Nat) : Gap :=
      if index = 1 then ⟨"\t\u3000", by decide, List.all_eq_true.mp rfl⟩
      else ⟨" ", by decide, List.all_eq_true.mp rfl⟩
    (∀ token ∈ tokens, token.Plain) ∧
      spaced gaps (tokens.map Token.display) =
        "~/a~$\x7bX_1\x7d\x7dé <\t\u3000~$\x7b1\x7d$\x7bHOME\x7d | ~" ∧
      lex (spaced gaps (tokens.map Token.display)) = .ok tokens := by
  intro tokens gaps
  have hplain : ∀ token ∈ tokens, token.Plain := by decide +kernel
  exact ⟨hplain, rfl, lex_spaced hplain gaps⟩

end JobShell
