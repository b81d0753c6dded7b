import JobShell.Proofs.Lexing.Separation

/-!
# Writing a text as one word

A text can be written bare, between quotes of either kind or behind backslashes,
and its parts in different ways.  Whatever the mixture, it is read as one word
that is the text itself, so nothing in it is an operator, a separator, a variable
or the home directory.
-/

namespace JobShell.Lexer

open JobShell.Text (isBlank)

/-- A character between double quotes, behind a backslash or not.  Those that mean
something there have one. -/
structure Mark where
  char : Char
  escaped : Bool
  needed : char ∈ ['"', '\\', '$'] → escaped
  deriving DecidableEq

def Mark.spelling (mark : Mark) : List Char :=
  if mark.escaped then ['\\', mark.char] else [mark.char]

/-- A part of a text in one of the four ways to write it. -/
inductive Fragment where
  | bare (text : List Char) (nonempty : text ≠ [])
      (plain : ∀ c ∈ text, isBare c)
  | singleQuoted (text : List Char) (unquoted : '\'' ∉ text)
  | doubleQuoted (marks : List Mark)
  | escaped (text : List Char) (nonempty : text ≠ [])
  deriving DecidableEq

namespace Fragment

def text : Fragment → List Char
  | .bare text _ _ => text
  | .singleQuoted text _ => text
  | .doubleQuoted marks => marks.map Mark.char
  | .escaped text _ => text

def spelling : Fragment → List Char
  | .bare text _ _ => text
  | .singleQuoted text _ => '\'' :: (text ++ ['\''])
  | .doubleQuoted marks => '"' :: (marks.flatMap Mark.spelling ++ ['"'])
  | .escaped text _ => text.flatMap fun c => ['\\', c]

/-- Bare text that the home directory could be read from. -/
def beginsWithTilde : Fragment → Bool
  | .bare text _ _ => text.head? = some '~'
  | _ => false

/-- The literals that are read, one for each character and one for each quote. -/
def literals : Fragment → List String
  | .bare text _ _ => text.map String.singleton
  | .singleQuoted text _ => "" :: text.map String.singleton
  | .doubleQuoted marks => "" :: marks.map fun mark => String.singleton mark.char
  | .escaped text _ => text.map String.singleton

end Fragment

/-- A way to write a text as one word. -/
structure Quotation where
  first : Fragment
  others : List Fragment
  noTilde : first.beginsWithTilde = false

namespace Quotation

def fragments (quotation : Quotation) : List Fragment :=
  quotation.first :: quotation.others

def text (quotation : Quotation) : String :=
  String.ofList (quotation.fragments.flatMap Fragment.text)

def spelling (quotation : Quotation) : String :=
  String.ofList (quotation.fragments.flatMap Fragment.spelling)

end Quotation

/-! ## Reading literals -/

namespace Scan

/-- The scan after literals have been read. -/
def withLiterals (scan : Scan) (texts : List String) : Scan :=
  { scan with parts := (texts.map Component.literal).reverse ++ scan.parts }

@[simp]
theorem mode_withLiterals (scan : Scan) (texts : List String) :
    (scan.withLiterals texts).mode = scan.mode := rfl

@[simp]
theorem withLiterals_withLiterals (scan : Scan) (left right : List String) :
    (scan.withLiterals left).withLiterals right =
      scan.withLiterals (left ++ right) := by
  simp [withLiterals]

@[simp]
theorem within_withLiterals_within (scan : Scan) (texts : List String)
    (inner outer : Mode) :
    ((scan.within inner).withLiterals texts).within outer =
      (scan.withLiterals texts).within outer := rfl

theorem within_mode {scan : Scan} {mode : Mode} (hmode : scan.mode = mode) :
    scan.within mode = scan := by
  subst hmode
  rfl

/-- A run of spellings is read piece by piece where the mode stays the same. -/
theorem steps_flatMap {A : Type} (spell : A → List Char)
    (read : A → List String) (mode : Mode) (items : List A)
    (hitem : ∀ item ∈ items, ∀ scan : Scan, scan.mode = mode →
      scan.steps (spell item) = .ok (scan.withLiterals (read item)))
    (scan : Scan) (hmode : scan.mode = mode) :
    scan.steps (items.flatMap spell) =
      .ok (scan.withLiterals (items.flatMap read)) := by
  induction items generalizing scan with
  | nil => rfl
  | cons item rest ih =>
      have hrest := ih (fun other hother => hitem other (by simp [hother]))
        (scan.withLiterals (read item)) (by simpa using hmode)
      rw [List.flatMap_cons,
        steps_append_of_steps _ (hitem item (by simp) scan hmode), hrest]
      simp

/-- Each item is read as one character of its own. -/
theorem steps_items {A : Type} (spell : A → List Char) (char : A → Char)
    (mode : Mode) (items : List A)
    (hitem : ∀ item ∈ items, ∀ scan : Scan, scan.mode = mode →
      scan.steps (spell item) =
        .ok (scan.withLiterals [String.singleton (char item)]))
    (scan : Scan) (hmode : scan.mode = mode) :
    scan.steps (items.flatMap spell) =
      .ok (scan.withLiterals (items.map fun item =>
        String.singleton (char item))) := by
  rw [List.map_eq_flatMap]
  exact steps_flatMap spell _ mode items hitem scan hmode

/-- A run of characters that stand for themselves in a mode. -/
theorem steps_chars (mode : Mode) (text : List Char)
    (hstep : ∀ c ∈ text, ∀ scan : Scan, scan.mode = mode →
      scan.step c = .ok (scan.withLiterals [String.singleton c]))
    (scan : Scan) (hmode : scan.mode = mode) :
    scan.steps text =
      .ok (scan.withLiterals (text.map String.singleton)) := by
  have hsteps := steps_items (fun c => [c]) id mode text ?_ scan hmode
  · rwa [List.flatMap_singleton'] at hsteps
  · intro c hc other hother
    rw [steps_cons_of_step [] (hstep c hc other hother)]
    rfl

/-! ## The four ways of writing -/

theorem bareStep_of_isBare (scan : Scan) (c : Char) (hbare : isBare c) :
    scan.bareStep c =
      (scan.withLiterals [String.singleton c]).within .word := by
  simp only [isBare, isMetacharacter, Bool.and_eq_true, Bool.not_eq_true',
    Option.isSome_eq_false_iff, Option.isNone_iff_eq_none,
    List.contains_eq_mem, decide_eq_false_iff_not, List.mem_cons,
    List.not_mem_nil, or_false, not_or] at hbare
  obtain ⟨⟨hvisible, hword⟩, hdouble, hsingle, hescape, hdollar⟩ := hbare
  simp only [bareStep, hvisible, hword, hdouble, hsingle, hescape, hdollar,
    if_false, Bool.false_eq_true]
  rfl

theorem steps_bare (scan : Scan) (text : List Char)
    (hplain : ∀ c ∈ text, isBare c) (hmode : scan.mode = .word) :
    scan.steps text =
      .ok (scan.withLiterals (text.map String.singleton)) := by
  refine steps_chars .word text ?_ scan hmode
  intro c hc other hother
  simp only [step, hother, bareStep_of_isBare other c (hplain c hc)]
  rw [within_mode (by simpa using hother)]

theorem steps_singleQuoted (scan : Scan) (text : List Char)
    (hunquoted : '\'' ∉ text) (hmode : scan.mode = .word) :
    scan.steps ('\'' :: (text ++ ['\''])) =
      .ok (scan.withLiterals ("" :: text.map String.singleton)) := by
  have hopen : scan.step '\'' =
      .ok ((scan.withLiterals [""]).within .singleQuotes) := by
    simp only [step, hmode]
    rfl
  have htext := steps_chars .singleQuotes text ?_
    ((scan.withLiterals [""]).within .singleQuotes) rfl
  · rw [steps_cons_of_step _ hopen, steps_append_of_steps _ htext,
      steps_cons_of_step [] rfl, within_withLiterals_within,
      withLiterals_withLiterals]
    exact congrArg Except.ok (within_mode hmode)
  · intro c hc other hother
    have hquote : c ≠ '\'' := by
      rintro rfl
      exact hunquoted hc
    simp only [step, hother, hquote, if_false]
    rfl

theorem steps_mark (scan : Scan) (mark : Mark)
    (hmode : scan.mode = .doubleQuotes) :
    scan.steps mark.spelling =
      .ok (scan.withLiterals [String.singleton mark.char]) := by
  have hread : (scan.pushChar mark.char).within .doubleQuotes =
      scan.withLiterals [String.singleton mark.char] := within_mode hmode
  rw [Mark.spelling]
  split
  · have hescape : scan.step '\\' = .ok (scan.within .doubleQuotesEscape) := by
      simp only [step, hmode]
      rfl
    rw [steps_cons_of_step _ hescape, steps_cons_of_step [] rfl]
    exact congrArg Except.ok hread
  · next hplain =>
      have hneeded : mark.char ∉ ['"', '\\', '$'] := fun hmem =>
        hplain (mark.needed hmem)
      simp only [List.mem_cons, List.not_mem_nil, or_false, not_or] at hneeded
      obtain ⟨hquote, hescape, hdollar⟩ := hneeded
      have hstep : scan.step mark.char =
          .ok (scan.withLiterals [String.singleton mark.char]) := by
        simp only [step, hmode, quotedStep, hquote, hescape, hdollar, if_false,
          hread]
      rw [steps_cons_of_step [] hstep]
      rfl

theorem steps_doubleQuoted (scan : Scan) (marks : List Mark)
    (hmode : scan.mode = .word) :
    scan.steps ('"' :: (marks.flatMap Mark.spelling ++ ['"'])) =
      .ok (scan.withLiterals
        ("" :: marks.map fun mark => String.singleton mark.char)) := by
  have hopen : scan.step '"' =
      .ok ((scan.withLiterals [""]).within .doubleQuotes) := by
    simp only [step, hmode]
    rfl
  have hmarks := steps_items Mark.spelling Mark.char .doubleQuotes marks
    (fun mark _ other hother => steps_mark other mark hother)
    ((scan.withLiterals [""]).within .doubleQuotes) rfl
  have hclose (other : Scan) (hother : other.mode = .doubleQuotes) :
      other.step '"' = .ok (other.within .word) := by
    simp only [step, hother]
    rfl
  rw [steps_cons_of_step _ hopen, steps_append_of_steps _ hmarks,
    steps_cons_of_step [] (hclose _ rfl), within_withLiterals_within,
    withLiterals_withLiterals]
  exact congrArg Except.ok (within_mode hmode)

theorem steps_escaped (scan : Scan) (text : List Char)
    (hmode : scan.mode = .word) :
    scan.steps (text.flatMap fun c => ['\\', c]) =
      .ok (scan.withLiterals (text.map String.singleton)) := by
  refine steps_items (fun c => ['\\', c]) id .word text ?_ scan hmode
  intro c hc other hother
  have hescape : other.step '\\' = .ok (other.within .escape) := by
    simp only [step, hother]
    rfl
  have hread : (other.pushChar c).within .word =
      other.withLiterals [String.singleton c] := within_mode hother
  rw [steps_cons_of_step _ hescape, steps_cons_of_step [] rfl]
  exact congrArg Except.ok hread

theorem steps_fragment (scan : Scan) (fragment : Fragment)
    (hmode : scan.mode = .word) :
    scan.steps fragment.spelling =
      .ok (scan.withLiterals fragment.literals) := by
  cases fragment with
  | bare text _ hplain => exact steps_bare scan text hplain hmode
  | singleQuoted text hunquoted =>
      exact steps_singleQuoted scan text hunquoted hmode
  | doubleQuoted marks => exact steps_doubleQuoted scan marks hmode
  | escaped text _ => exact steps_escaped scan text hmode

/-- Where a word can begin, a character that is no blank, no operator and no tilde
is taken as inside a word. -/
theorem steps_gap (scan : Scan) (c : Char) (rest : List Char)
    (hmode : scan.mode = .gap) (hvisible : isBlank c = false)
    (hword : Token.ofOperator? c = none) (htilde : c ≠ '~') :
    scan.steps (c :: rest) = (scan.within .word).steps (c :: rest) := by
  have hgap : scan.step c = .ok (scan.bareStep c) := by
    simp only [step, hmode, gapStep, hvisible, hword, htilde, if_false,
      Bool.false_eq_true]
  have hinside : (scan.within .word).step c = .ok (scan.bareStep c) := rfl
  rw [steps_cons_of_step rest hgap, steps_cons_of_step rest hinside]

end Scan

/-- How the spelling of a fragment begins. -/
theorem spelling_head (fragment : Fragment)
    (htilde : fragment.beginsWithTilde = false) :
    ∃ c rest, fragment.spelling = c :: rest ∧ isBlank c = false ∧
      Token.ofOperator? c = none ∧ c ≠ '~' := by
  cases fragment with
  | bare text hnonempty hplain =>
      obtain ⟨c, rest, rfl⟩ := List.exists_cons_of_ne_nil hnonempty
      have hbare : isBare c := hplain c (by simp)
      simp only [isBare, isMetacharacter, Bool.and_eq_true, Bool.not_eq_true',
        Option.isSome_eq_false_iff, Option.isNone_iff_eq_none] at hbare
      refine ⟨c, rest, rfl, hbare.1.1, hbare.1.2, ?_⟩
      simpa [Fragment.beginsWithTilde] using htilde
  | singleQuoted text _ => exact ⟨'\'', _, rfl, by decide, by decide, by decide⟩
  | doubleQuoted marks => exact ⟨'"', _, rfl, by decide, by decide, by decide⟩
  | escaped text hnonempty =>
      obtain ⟨c, rest, rfl⟩ := List.exists_cons_of_ne_nil hnonempty
      exact ⟨'\\', _, rfl, by decide, by decide, by decide⟩

/-! ## The word that is read -/

theorem toList_join_singletons (text : List Char) :
    (String.join (text.map String.singleton)).toList = text := by
  induction text with
  | nil => rfl
  | cons c rest ih => simpa using ih

theorem toList_join_literals (fragment : Fragment) :
    (String.join fragment.literals).toList = fragment.text := by
  cases fragment with
  | bare text _ _ => exact toList_join_singletons text
  | singleQuoted text _ =>
      rw [Fragment.literals, String.join_cons, String.empty_append]
      exact toList_join_singletons text
  | doubleQuoted marks =>
      have hmarks := toList_join_singletons (marks.map Mark.char)
      rw [List.map_map] at hmarks
      rw [Fragment.literals, String.join_cons, String.empty_append]
      exact hmarks
  | escaped text _ => exact toList_join_singletons text

theorem literals_ne_nil (fragment : Fragment) : fragment.literals ≠ [] := by
  cases fragment <;> simp_all [Fragment.literals]

/-- Literals that stand next to each other are one literal. -/
theorem ofComponents_literals (texts : List String) (hnonempty : texts ≠ []) :
    Word.ofComponents (texts.map .literal) = .literal (String.join texts) := by
  induction texts with
  | nil => exact absurd rfl hnonempty
  | cons text rest ih =>
      by_cases hrest : rest = []
      · subst hrest
        simp [Word.ofComponents, Word.literal, Component.prepend, String.join_cons]
      · have hmerged := congrArg Word.components (ih hrest)
        simp only [Word.ofComponents, Word.literal] at hmerged
        simp [Word.ofComponents, Word.literal, hmerged, Component.prepend,
          String.join_cons]

theorem expand_literal (bindings : Bindings) (text : String) :
    (Word.literal text).expand bindings = text := by
  simp [Word.expand, Word.literal, Word.expandM, Word.expandM.go,
    Component.expandM]

theorem toList_join_flatMap_literals (fragments : List Fragment) :
    (String.join (fragments.flatMap Fragment.literals)).toList =
      fragments.flatMap Fragment.text := by
  induction fragments with
  | nil => rfl
  | cons fragment rest ih =>
      simp only [List.flatMap_cons, String.join_append, String.toList_append,
        toList_join_literals, ih]

/-- A spelled text is read as literals in one word. -/
theorem steps_spelling (quotation : Quotation) :
    Scan.steps {} quotation.spelling.toList =
      .ok ((Scan.within {} .word).withLiterals
        (quotation.fragments.flatMap Fragment.literals)) := by
  obtain ⟨c, rest, hhead, hvisible, hword, htilde⟩ :=
    spelling_head quotation.first quotation.noTilde
  have hline : quotation.spelling.toList =
      c :: (rest ++ quotation.others.flatMap Fragment.spelling) := by
    simp [Quotation.spelling, Quotation.fragments, hhead]
  rw [hline, Scan.steps_gap {} c _ rfl hvisible hword htilde, ← hline,
    Quotation.spelling, String.toList_ofList]
  exact Scan.steps_flatMap Fragment.spelling Fragment.literals .word
    quotation.fragments (fun fragment _ scan => scan.steps_fragment fragment) _ rfl

/-- A line that is read as literals is one word. -/
theorem tokens_of_literals {line : List Char} {texts : List String} (hnonempty : texts ≠ [])
    (hsteps : Scan.steps {} line = .ok ((Scan.within {} .word).withLiterals texts)) :
    tokens line = .ok [.word (.literal (String.join texts))] := by
  rw [tokens_eq_ok_iff]
  refine ⟨_, hsteps, ?_⟩
  rw [← ofComponents_literals _ hnonempty]
  simp [Scan.finish, Scan.close, Scan.withLiterals, Scan.within]

theorem tokens_spelling (quotation : Quotation) :
    tokens quotation.spelling.toList =
      .ok [.word (.literal quotation.text)] := by
  have hnonempty : quotation.fragments.flatMap Fragment.literals ≠ [] := by
    simp [Quotation.fragments, literals_ne_nil]
  have htext : String.join (quotation.fragments.flatMap Fragment.literals) =
      quotation.text := by
    rw [← String.toList_inj, toList_join_flatMap_literals, Quotation.text,
      String.toList_ofList]
  rw [tokens_of_literals hnonempty (steps_spelling quotation), htext]

/-- However a text is quoted, it is read as the one word that is the text, which
stands for the text whatever names are bound to. -/
theorem lex_quotation (quotation : Quotation) :
    lex quotation.spelling = .ok [.word (.literal quotation.text)] ∧
      ∀ bindings,
        (Word.literal quotation.text).expand bindings = quotation.text := by
  refine ⟨?_, fun bindings => expand_literal bindings quotation.text⟩
  rw [lex_eq_ok_iff]
  exact tokens_spelling quotation

example : lex "a'|$b'\"\\$ ~\"\\&" = .ok [.word (.literal "a|$b$ ~&")] := rfl

end JobShell.Lexer
