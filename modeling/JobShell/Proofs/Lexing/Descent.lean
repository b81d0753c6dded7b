import JobShell.Proofs.Lexing.Defects
import JobShell.Proofs.Lexing.Parsing
import JobShell.Proofs.Lexing.Plain
import JobShell.Proofs.Lexing.WellFormed

/-!
# Both ways of lexing agree

Every parser of the grammar agrees with the scan: the parts of a word up to how their
components are cut, and words and operators token by token.  A line is missed nowhere but at
its end, since what begins no operator and no part of a word is a blank.  So the parsers come
to the tokens of the scan or to its defect, and never to input that they cannot place.
-/

namespace JobShell

open Text (isBlank)

namespace Lexer.Scan

/-- A character that is left over is taken in the mode that is gone back to. -/
theorem step_within (scan : Scan) (surroundings : Surroundings) (c : Char) :
    (scan.within (Surroundings.mode surroundings)).step c =
      .ok (scan.resume surroundings c) := by
  cases surroundings <;> rfl

theorem step_of_mode {scan : Scan} {surroundings : Surroundings}
    (hmode : scan.mode = Surroundings.mode surroundings) (c : Char) :
    scan.step c = .ok (scan.resume surroundings c) := by
  have hstep := step_within scan surroundings c
  rwa [within_mode hmode] at hstep

theorem run_resume {scan : Scan} (read : Scan) (surroundings : Surroundings)
    {rest : List Char} (hfinish : rest = [] →
      scan.finish = (read.within (Surroundings.mode surroundings)).finish)
    (hstep : ∀ c ∈ rest.head?, scan.step c = .ok (read.resume surroundings c)) :
    scan.run rest = (read.within (Surroundings.mode surroundings)).run rest := by
  cases rest with
  | nil => exact hfinish rfl
  | cons c rest =>
      rw [run_cons rest (hstep c rfl), run_cons rest (step_within read surroundings c)]

/-- Where a word ends, the scan goes on as it does between words. -/
theorem run_close {scan : Scan} {rest : List Char} (hmode : scan.mode = .word)
    (hends : ∀ c ∈ rest.head?, isSeparator c) : scan.run rest = scan.close.run rest := by
  cases rest with
  | nil =>
      change scan.finish = scan.close.finish
      rw [finish, hmode]
      rfl
  | cons c rest =>
      have hsep := hends c rfl
      have hword : scan.step c = .ok (scan.bareStep c) := by simp only [step, hmode]
      have hgap : scan.close.step c = .ok (scan.close.gapStep c) := rfl
      rw [run_cons rest hword, run_cons rest hgap, bareStep_separator scan c hsep,
        gapStep_separator scan.close c hsep rfl rfl]

/-! ## References -/

theorem step_dollar_mode {scan : Scan} {surroundings : Surroundings}
    (hmode : scan.mode = Surroundings.mode surroundings) :
    scan.step '$' = .ok (scan.within (.dollar surroundings)) := by
  rw [step_of_mode hmode]
  cases surroundings <;> rfl

/-- A dollar sign that begins no reference. -/
theorem run_dollar {scan : Scan} {surroundings : Surroundings} {rest : List Char}
    (hmode : scan.mode = .dollar surroundings)
    (hrest : ∀ c ∈ rest.head?, c ≠ '\x7b' ∧ isNameChar c = false) :
    scan.run rest = ((scan.pushChar '$').within (Surroundings.mode surroundings)).run rest := by
  refine run_resume _ _ (fun _ => ?_) fun c hc => ?_
  · rw [finish, hmode]
    cases surroundings <;> rfl
  · obtain ⟨hbrace, hname⟩ := hrest c hc
    simp only [step, hmode, hbrace, hname, if_false, Bool.false_eq_true]

theorem run_name {scan : Scan} {surroundings : Surroundings} {read text rest : List Char}
    (hmode : scan.mode = .name surroundings read) (htext : ∀ c ∈ text, isNameChar c)
    (hrest : ∀ c ∈ rest.head?, isNameChar c = false) :
    scan.run (text ++ rest) =
      ((scan.pushName (read ++ text)).within (Surroundings.mode surroundings)).run rest := by
  induction text generalizing scan read with
  | nil =>
      rw [List.append_nil, List.nil_append]
      refine run_resume _ _ (fun _ => ?_) fun c hc => ?_
      · rw [finish, hmode]
        cases surroundings <;> rfl
      · simp only [step, hmode, hrest c hc, if_false, Bool.false_eq_true]
  | cons c text ih =>
      rw [List.forall_mem_cons] at htext
      have hstep : scan.step c = .ok (scan.within (.name surroundings (read ++ [c]))) := by
        simp only [step, hmode, htext.1, if_true]
      rw [List.cons_append, run_cons _ hstep, ih rfl htext.2, List.append_assoc]
      rfl

theorem run_braced {scan : Scan} {surroundings : Surroundings} {name rest : List Char}
    (hmode : scan.mode = .braces surroundings []) (hname : IsName name) :
    scan.run (name ++ '\x7d' :: rest) =
      ((scan.pushName name).within (Surroundings.mode surroundings)).run rest := by
  rw [run, steps_name hmode hname.chars, List.nil_append,
    steps_cons_of_step _ (step_closeReference rfl hname)]
  rfl

end Lexer.Scan

namespace Parser

open Lexer (Scan Surroundings Mode IsName specials isBare isNameChar endsTilde isSeparator)

/-! ## Where parts are missed -/

theorem misses_reference (input : List Char) :
    Misses (reference input) ↔ input.head? ≠ some '$' :=
  misses_begun (by simp) input

theorem misses_escape (input : List Char) :
    Misses (escape input) ↔ input.head? ≠ some '\\' :=
  misses_begun (misses_insist _ _) input

theorem misses_doubleQuoted (input : List Char) :
    Misses (doubleQuoted input) ↔ input.head? ≠ some '"' :=
  misses_begun (misses_insist _ _) input

theorem misses_singleQuoted (input : List Char) :
    Misses (singleQuoted input) ↔ input.head? ≠ some '\'' :=
  misses_begun (misses_insist _ _) input

theorem isBare_eq_false_iff (c : Char) :
    isBare c = false ↔ isSeparator c ∨ c ∈ specials .bare := by
  rw [isBare, isSeparator, specials, ← Bool.not_or, Bool.and_eq_false_iff, Bool.not_eq_false',
    Bool.not_eq_false', List.contains_eq_mem, decide_eq_true_eq]

theorem notMem_specials_of_isSeparator {c : Char} (hsep : isSeparator c) :
    c ∉ specials .bare := by
  have hspecials : (specials .bare).any isSeparator = false := rfl
  exact fun hspecial => List.any_eq_false.mp hspecials c hspecial hsep

/-- A part of a word is missed where a word ends, and nowhere else. -/
theorem misses_wordPart (input : List Char) :
    Misses (wordPart input) ↔ ∀ c ∈ input.head?, isSeparator c := by
  have hparts : Misses (wordPart input) ↔
      (∀ c ∈ input.head?, isBare c = false) ∧ ∀ c ∈ input.head?, c ∉ specials .bare := by
    simp only [wordPart, bare, misses_orElse, misses_map, misses_chars1While,
      misses_doubleQuoted, misses_singleQuoted, misses_escape, misses_reference]
    cases input.head? <;> simp [specials]
  rw [hparts]
  cases input.head? with
  | none => simp
  | some c =>
      simp only [Option.mem_some_iff, forall_eq', isBare_eq_false_iff]
      constructor
      · rintro ⟨hsep | hspecial, hplain⟩
        · exact hsep
        · exact absurd hspecial hplain
      · exact fun hsep => ⟨.inl hsep, notMem_specials_of_isSeparator hsep⟩

/-- Between double quotes a part is missed at the closing quotes, or where the line ends. -/
theorem misses_quotedPart {input : List Char} (hmisses : Misses (quotedPart input)) :
    input = [] ∨ input = ['\\'] ∨ ∃ rest, input = '"' :: rest := by
  simp only [quotedPart, escapedChar, misses_orElse, misses_map, misses_chars1While,
    misses_preceded_char, misses_anyChar, misses_reference] at hmisses
  obtain ⟨hescape, hdollar, hplain⟩ := hmisses
  cases input with
  | nil => exact .inl rfl
  | cons c rest =>
      have hspecial := hplain c rfl
      rw [Bool.not_eq_false', List.contains_eq_mem, decide_eq_true_eq] at hspecial
      simp only [List.mem_cons, List.not_mem_nil, or_false] at hspecial
      rcases hspecial with rfl | rfl | rfl
      · exact .inr (.inr ⟨rest, rfl⟩)
      · exact .inr (.inl (by rw [hescape rest rfl]))
      · exact absurd rfl hdollar

/-! ## Parts of words -/

/-- The scan takes components, whatever parts it cuts them into. -/
structure TakesParts (components : List Component) (scan next : Scan) : Prop where
  tokens : next.tokens = scan.tokens
  parts : ∀ later, next.parts.reverse.foldr Component.prepend later =
    scan.parts.reverse.foldr Component.prepend (components.foldr Component.prepend later)

theorem TakesParts.trans {left right : List Component} {scan middle next : Scan}
    (hleft : TakesParts left scan middle) (hright : TakesParts right middle next) :
    TakesParts (left ++ right) scan next where
  tokens := hright.tokens.trans hleft.tokens
  parts later := by rw [hright.parts, hleft.parts, List.foldr_append]

theorem takesParts_flatten {values : List (List Component)} {scan next : Scan}
    (htakes : TakesAll TakesParts values scan next) : TakesParts values.flatten scan next := by
  induction htakes with
  | nil scan => exact ⟨rfl, fun _ => rfl⟩
  | cons hfirst _ ih => exact hfirst.trans ih

theorem takesParts_push (scan : Scan) (component : Component) :
    TakesParts [component] scan (scan.push component) where
  tokens := rfl
  parts later := by simp [Scan.push]

theorem takesParts_chars (scan : Scan) {text : List Char} (hnonempty : text ≠ []) :
    TakesParts (literal text) scan (scan.withLiterals (text.map String.singleton)) where
  tokens := rfl
  parts later := by
    have hmerged := Component.foldr_prepend_singletons hnonempty later
    rw [Scan.withLiterals, List.reverse_append, List.reverse_reverse, List.map_map,
      List.foldr_append]
    exact congrArg (scan.parts.reverse.foldr Component.prepend) hmerged

/-- What stands between quotes, of which there may be nothing, makes one literal. -/
theorem takesParts_quoted (scan : Scan) (text : List Char) :
    TakesParts (literal text) scan
      ((scan.push (.literal "")).withLiterals (text.map String.singleton)) where
  tokens := rfl
  parts later := by
    have hmerged := Component.prepend_singletons "" text later
    rw [String.empty_append] at hmerged
    rw [Scan.withLiterals, List.reverse_append, List.reverse_reverse, List.map_map,
      List.foldr_append, Scan.push, List.reverse_cons, List.foldr_append]
    exact congrArg (scan.parts.reverse.foldr Component.prepend) hmerged

/-! ## Each part agrees -/

/-- The scan stands where a part can begin. -/
def Inside (surroundings : Surroundings) (scan : Scan) : Prop :=
  scan.mode = Scan.Surroundings.mode surroundings

theorem TakesParts.within {components : List Component} {scan next : Scan}
    (htakes : TakesParts components scan next) (mode : Mode) :
    TakesParts components scan (next.within mode) :=
  ⟨htakes.tokens, htakes.parts⟩

/-- Characters that the scan takes as they stand. -/
theorem agrees_chars {surroundings : Surroundings} {property : Char → Bool}
    (hsteps : ∀ text, (∀ c ∈ text, property c) → ∀ scan, Inside surroundings scan →
      scan.steps text = .ok (scan.withLiterals (text.map String.singleton)))
    (input : List Char) :
    Agrees (Inside surroundings) TakesParts input (map literal (chars1While property) input) := by
  obtain ⟨text, rest, rfl, hspan⟩ := exists_span property input
  by_cases hnonempty : text = []
  · subst hnonempty
    refine .of_misses ?_
    rw [misses_map, misses_chars1While]
    exact hspan.stops
  · rw [map, hspan.chars1While_eq hnonempty]
    refine .reads ?_ fun scan hinside => ⟨_, ?_, takesParts_chars scan hnonempty,
      Scan.run_append rest (hsteps text hspan.chars scan hinside)⟩
    · rw [List.length_append]
      exact Nat.lt_add_of_pos_left (List.length_pos_iff.mpr hnonempty)
    · exact hinside

theorem agrees_bare (input : List Char) :
    Agrees (Inside .bare) TakesParts input (bare input) := by
  apply agrees_chars
  intro text hbare scan hinside
  exact scan.steps_bare text hbare hinside

theorem run_openBrace {surroundings : Surroundings} {scan : Scan}
    (hinside : Inside surroundings scan) (body : List Char) :
    scan.run ('$' :: '\x7b' :: body) = (scan.within (.braces surroundings [])).run body := by
  have hbrace : (scan.within (.dollar surroundings)).step '\x7b' =
      .ok (scan.within (.braces surroundings [])) := rfl
  rw [Scan.run_cons _ (Scan.step_dollar_mode hinside), Scan.run_cons _ hbrace]

/-- What stands between braces is a name, or the reference is malformed. -/
theorem agrees_braced (surroundings : Surroundings) (body : List Char) :
    Agrees (Inside surroundings) TakesParts ('$' :: '\x7b' :: body)
      (insist .reference (terminated name (char '\x7d')) body) := by
  have hfails (hmalformed : ∀ text later, IsName text → body ≠ text ++ '\x7d' :: later)
      {scan : Scan} (hinside : Inside surroundings scan) :
      scan.run ('$' :: '\x7b' :: body) = .error .reference := by
    rw [run_openBrace hinside]
    exact Scan.steps_braces rfl (fun c hc => absurd hc List.not_mem_nil) hmalformed
  obtain ⟨text, rest, rfl, hspan⟩ := exists_span isNameChar body
  have hlongest {other later : List Char} (hname : IsName other)
      (hbody : text ++ rest = other ++ '\x7d' :: later) :
      chars1While isNameChar (text ++ rest) = .ok (other, '\x7d' :: later) := by
    have hother : Span isNameChar other ('\x7d' :: later) :=
      ⟨hname.chars, fun c hc => Option.mem_some_iff.mp hc ▸ rfl⟩
    rw [hbody, hother.chars1While_eq hname.nonempty]
  by_cases hnonempty : text = []
  · subst hnonempty
    have hfailure : name rest = .error { rest } := by
      rw [name, map, hspan.chars1While_miss, miss]
    rw [List.nil_append, enclosed_of_error hfailure]
    refine .fails rfl rfl fun scan hinside => hfails ?_ hinside
    intro other later hname hbody
    cases (hlongest hname hbody).symm.trans hspan.chars1While_miss
  have hread : name (text ++ rest) = .ok ([.reference (String.ofList text)], rest) := by
    rw [name, map, hspan.chars1While_eq hnonempty]
  by_cases hclosed : rest.head? = some '\x7d'
  · obtain ⟨later, rfl⟩ := List.head?_eq_some_iff.mp hclosed
    rw [enclosed_of_closed hread]
    refine .reads ?_ fun scan hinside =>
      ⟨(scan.pushName text).within (Scan.Surroundings.mode surroundings), rfl,
        (takesParts_push scan _).within _, ?_⟩
    · simp only [List.length_cons, List.length_append]
      omega
    · rw [run_openBrace hinside, Scan.run_braced rfl ⟨hnonempty, hspan.chars⟩]
      rfl
  · rw [enclosed_of_open hread hclosed]
    refine .fails rfl rfl fun scan hinside => hfails ?_ hinside
    intro other later hname hbody
    cases (hlongest hname hbody).symm.trans (hspan.chars1While_eq hnonempty)
    exact hclosed rfl

/-- Without a brace the name is as long as can be, or the dollar sign stands for itself. -/
theorem agrees_unbraced (surroundings : Surroundings) {rest : List Char}
    (hbrace : rest.head? ≠ some '\x7b') :
    Agrees (Inside surroundings) TakesParts ('$' :: rest)
      (orElse name (succeed (literal ['$'])) rest) := by
  obtain ⟨text, more, rfl, hspan⟩ := exists_span isNameChar rest
  cases text with
  | nil =>
      have hmisses : Misses (name more) := by
        rw [name, misses_map, misses_chars1While]
        exact hspan.stops
      rw [List.nil_append, orElse_of_misses hmisses, succeed]
      refine .reads (Nat.lt_succ_self _) fun scan hinside =>
        ⟨(scan.pushChar '$').within (Scan.Surroundings.mode surroundings), rfl,
          (takesParts_push scan _).within _, ?_⟩
      rw [Scan.run_cons _ (Scan.step_dollar_mode hinside), Scan.run_dollar rfl]
      · rfl
      · exact fun c hc => ⟨fun hopen => hbrace (hopen ▸ hc), hspan.stops c hc⟩
  | cons c text =>
      have hread : name (c :: text ++ more) =
          .ok ([.reference (String.ofList (c :: text))], more) := by
        rw [name, map, hspan.chars1While_eq (List.cons_ne_nil c text)]
      obtain ⟨hname, hnames⟩ := List.forall_mem_cons.mp hspan.chars
      have hother : c ≠ '\x7b' := fun hopen => hbrace (by rw [hopen]; rfl)
      rw [orElse_of_not_misses (by rw [hread]; exact misses_ok _), hread]
      refine .reads ?_ fun scan hinside =>
        ⟨(scan.pushName (c :: text)).within (Scan.Surroundings.mode surroundings), rfl,
          (takesParts_push scan _).within _, ?_⟩
      · simp only [List.length_cons, List.length_append]
        omega
      · have hopen : (scan.within (.dollar surroundings)).step c =
            .ok (scan.within (.name surroundings [c])) := by
          simp only [Scan.step, Scan.within, hother, hname, if_false, if_true]
        rw [Scan.run_cons _ (Scan.step_dollar_mode hinside), List.cons_append,
          Scan.run_cons _ hopen, Scan.run_name rfl hnames hspan.stops]
        rfl

theorem agrees_reference (surroundings : Surroundings) (input : List Char) :
    Agrees (Inside surroundings) TakesParts input (reference input) := by
  by_cases hdollar : input.head? = some '$'
  swap
  · exact .of_misses ((misses_reference input).mpr hdollar)
  obtain ⟨rest, rfl⟩ := List.head?_eq_some_iff.mp hdollar
  rw [reference, preceded_char_self]
  by_cases hbrace : rest.head? = some '\x7b'
  · obtain ⟨body, rfl⟩ := List.head?_eq_some_iff.mp hbrace
    rw [orElse_of_not_misses (by simp), preceded_char_self]
    exact agrees_braced surroundings body
  · rw [orElse_of_misses ((misses_begun (misses_insist _ _) rest).mpr hbrace)]
    exact agrees_unbraced surroundings hbrace

theorem agrees_escape (input : List Char) :
    Agrees (Inside .bare) TakesParts input (escape input) := by
  by_cases hbegins : input.head? = some '\\'
  swap
  · exact .of_misses ((misses_escape input).mpr hbegins)
  obtain ⟨rest, rfl⟩ := List.head?_eq_some_iff.mp hbegins
  have hopen {scan : Scan} (hinside : Inside .bare scan) :
      scan.run ('\\' :: rest) = (scan.within .escape).run rest :=
    Scan.run_cons rest (Scan.step_of_mode hinside '\\')
  rw [escape, preceded_char_self, insist]
  cases rest with
  | nil => exact .fails rfl rfl fun scan hinside => hopen hinside
  | cons c rest =>
      refine .reads (Nat.lt_succ_of_lt (Nat.lt_succ_self _)) fun scan hinside =>
        ⟨(scan.pushChar c).within .word, rfl, (takesParts_push scan _).within _, ?_⟩
      exact (hopen hinside).trans (Scan.run_cons rest rfl)

theorem agrees_singleQuoted (input : List Char) :
    Agrees (Inside .bare) TakesParts input (singleQuoted input) := by
  by_cases hbegins : input.head? = some '\''
  swap
  · exact .of_misses ((misses_singleQuoted input).mpr hbegins)
  obtain ⟨body, rfl⟩ := List.head?_eq_some_iff.mp hbegins
  rw [singleQuoted, preceded_char_self]
  obtain ⟨text, rest, rfl, hspan⟩ := exists_span (fun c => c != '\'') body
  have htext : '\'' ∉ text := fun hmem => by simpa using hspan.chars _ hmem
  have hquoted {scan : Scan} (hinside : Inside .bare scan) :
      scan.run ('\'' :: (text ++ rest)) =
        (((scan.push (.literal "")).within .singleQuotes).withLiterals
          (text.map String.singleton)).run rest := by
    rw [Scan.run_cons _ (Scan.step_of_mode hinside '\'')]
    exact Scan.run_append rest (Scan.steps_unquoted rfl htext)
  have hread : map literal (charsWhile fun c => c != '\'') (text ++ rest) =
      .ok (literal text, rest) := by
    rw [map, hspan.charsWhile_eq]
  by_cases hclosed : rest.head? = some '\''
  · obtain ⟨later, rfl⟩ := List.head?_eq_some_iff.mp hclosed
    rw [enclosed_of_closed hread]
    refine .reads ?_ fun scan hinside => ⟨_, ?_, (takesParts_quoted scan text).within .word,
      (hquoted hinside).trans (Scan.run_cons later rfl)⟩
    · simp only [List.length_cons, List.length_append]
      omega
    · rfl
  · rw [enclosed_of_open hread hclosed]
    cases rest with
    | nil => exact .fails rfl rfl fun scan hinside => hquoted hinside
    | cons c later =>
        have hquote : c = '\'' := by simpa using hspan.stops c rfl
        exact absurd (by rw [hquote]; rfl) hclosed

/-! ### Double quotes -/

theorem agrees_quotedChars (input : List Char) :
    Agrees (Inside .doubleQuotes) TakesParts input
      (map literal (chars1While fun c => !(['"', '\\', '$'].contains c)) input) := by
  apply agrees_chars
  intro text hplain scan hinside
  refine Scan.steps_chars .doubleQuotes text (fun c hc other hother => ?_) scan hinside
  have hspecial := hplain c hc
  simp only [List.contains_eq_mem, List.mem_cons, List.not_mem_nil, or_false,
    Bool.not_eq_true', decide_eq_false_iff_not, not_or] at hspecial
  obtain ⟨hquote, hescape, hdollar⟩ := hspecial
  have hkept : (other.withLiterals [String.singleton c]).mode = .doubleQuotes := hother
  simp only [Scan.step, hother, Scan.quotedStep, hquote, hescape, hdollar, if_false]
  exact congrArg Except.ok (Scan.within_mode hkept)

theorem agrees_quotedEscape (input : List Char) :
    Agrees (Inside .doubleQuotes) TakesParts input (preceded (char '\\') escapedChar input) := by
  by_cases hbegins : ∃ c rest, input = '\\' :: c :: rest
  · obtain ⟨c, rest, rfl⟩ := hbegins
    have hread : preceded (char '\\') escapedChar ('\\' :: c :: rest) =
        .ok (literal [c], rest) := by
      rw [preceded_char_self]
      rfl
    rw [hread]
    refine .reads (Nat.lt_succ_of_lt (Nat.lt_succ_self _)) fun scan hinside =>
      ⟨(scan.pushChar c).within .doubleQuotes, rfl, (takesParts_push scan _).within _, ?_⟩
    rw [Scan.run_cons _ (Scan.step_of_mode hinside '\\')]
    exact Scan.run_cons rest rfl
  · refine .of_misses ?_
    simp only [misses_preceded_char, escapedChar, misses_map, misses_anyChar]
    intro rest hinput
    cases rest with
    | nil => rfl
    | cons c rest => exact absurd ⟨c, rest, hinput⟩ hbegins

theorem agrees_quotedPart (input : List Char) :
    Agrees (Inside .doubleQuotes) TakesParts input (quotedPart input) :=
  (agrees_quotedEscape input).orElse
    ((agrees_reference .doubleQuotes input).orElse (agrees_quotedChars input))

theorem agrees_doubleQuoted (input : List Char) :
    Agrees (Inside .bare) TakesParts input (doubleQuoted input) := by
  by_cases hbegins : input.head? = some '"'
  swap
  · exact .of_misses ((misses_doubleQuoted input).mpr hbegins)
  obtain ⟨body, rfl⟩ := List.head?_eq_some_iff.mp hbegins
  rw [doubleQuoted, preceded_char_self]
  have hopen {scan : Scan} (hinside : Inside .bare scan) : scan.run ('"' :: body) =
      ((scan.push (.literal "")).within .doubleQuotes).run body :=
    Scan.run_cons body (Scan.step_of_mode hinside '"')
  have hinner (scan : Scan) :
      Inside .doubleQuotes ((scan.push (.literal "")).within .doubleQuotes) := rfl
  have hrepeats := repeats_many agrees_quotedPart body
  cases hmany : many quotedPart body with
  | error failure =>
      rw [hmany] at hrepeats
      rw [enclosed_of_error (by rw [map, hmany])]
      cases hrepeats with
      | fails hfinal hcontexts hruns =>
          refine .fails rfl (by rw [hcontexts, List.cons_append]) fun scan hinside => ?_
          rw [hopen hinside, hruns _ (hinner scan)]
  | ok read =>
      obtain ⟨values, rest⟩ := read
      rw [hmany] at hrepeats
      have hread : map (fun parts => literal [] ++ parts.flatten) (many quotedPart) body =
          .ok (literal [] ++ values.flatten, rest) := by
        rw [map, hmany]
      cases hrepeats with
      | stops hlast hmisses hruns =>
          by_cases hclosed : rest.head? = some '"'
          · obtain ⟨later, rfl⟩ := List.head?_eq_some_iff.mp hclosed
            rw [enclosed_of_closed hread]
            refine .reads ?_ fun scan hinside => ?_
            · rcases hlast with hstays | ⟨hlength, -⟩
              · rw [← hstays]
                exact Nat.lt_succ_of_lt (Nat.lt_succ_self _)
              · exact Nat.lt_succ_of_lt ((Nat.lt_succ_self _).trans hlength)
            · obtain ⟨next, hnext, htakes, hrun⟩ := hruns _ (hinner scan)
              refine ⟨next.within .word, rfl, ?_, ?_⟩
              · exact ((takesParts_push scan (.literal "")).within .doubleQuotes).trans
                  ((takesParts_flatten htakes).within .word)
              · rw [hopen hinside, hrun]
                exact Scan.run_cons later (Scan.step_of_mode hnext '"')
          · rw [enclosed_of_open hread hclosed]
            refine .fails rfl rfl fun scan hinside => ?_
            obtain ⟨next, hnext, -, hrun⟩ := hruns _ (hinner scan)
            rw [hopen hinside, hrun, ← Scan.within_mode hnext]
            obtain rfl | rfl | ⟨later, rfl⟩ := misses_quotedPart hmisses
            · rfl
            · rfl
            · exact absurd rfl hclosed

theorem agrees_wordPart (input : List Char) :
    Agrees (Inside .bare) TakesParts input (wordPart input) :=
  (agrees_bare input).orElse <| (agrees_doubleQuoted input).orElse <|
    (agrees_singleQuoted input).orElse <| (agrees_escape input).orElse <|
      agrees_reference .bare input

/-! ## Words -/

/-- Nothing has been read of a word. -/
def AtGap (scan : Scan) : Prop :=
  scan.parts = [] ∧ scan.mode = .gap

def TakesToken (token : Token) (scan next : Scan) : Prop :=
  next = scan.emit token

/-- A word that has been read to its end is the next token. -/
theorem close_eq_emit {components : List Component} {scan next : Scan} (hgap : AtGap scan)
    (htakes : TakesParts components scan next) :
    next.close = scan.emit (.word (Word.ofComponents components)) := by
  obtain ⟨tokens, parts, mode⟩ := scan
  obtain ⟨rfl, rfl⟩ := hgap
  have hparts : next.parts.reverse.foldr Component.prepend [] =
      components.foldr Component.prepend [] := htakes.parts []
  simp only [Scan.close, Scan.emit, Word.ofComponents, hparts, htakes.tokens]

/-- The home directory is read from a tilde, or the tilde stands for itself. -/
theorem home_cases (input : List Char) :
    (∃ rest, input = '~' :: rest ∧ (∀ c ∈ rest.head?, endsTilde c) ∧
      home input = .ok (.home, rest)) ∨
    Misses (home input) ∧ ∀ rest, input = '~' :: rest →
      ∃ next later, rest = next :: later ∧ endsTilde next = false := by
  by_cases htilde : input.head? = some '~'
  · obtain ⟨rest, rfl⟩ := List.head?_eq_some_iff.mp htilde
    cases rest with
    | nil => exact .inl ⟨[], rfl, by simp, rfl⟩
    | cons next later =>
        cases hends : endsTilde next with
        | true =>
            refine .inl ⟨next :: later, rfl, ?_, by simp [home, char, hends]⟩
            simpa using hends
        | false =>
            refine .inr ⟨by simp [home, char, hends], ?_⟩
            rintro _ hinput
            cases hinput
            exact ⟨next, later, rfl, hends⟩
  · refine .inr ⟨?_, ?_⟩
    · rw [home, char_of_head?_ne htilde]
      exact misses_miss input
    · rintro rest rfl
      exact absurd rfl htilde

theorem word_of_home {input rest : List Char} (hhome : home input = .ok (.home, rest)) :
    word input =
      map (fun parts => Word.ofComponents ([.home] ++ parts.flatten)) (many wordPart) rest := by
  simp [word, optional, orElse, map, hhome]

theorem word_of_misses {input : List Char} (hmisses : Misses (home input)) :
    word input =
      map (fun parts => Word.ofComponents ([] ++ parts.flatten)) (many1 wordPart) input := by
  simp [word, optional, orElse_of_misses, hmisses, succeed]

theorem run_home {scan : Scan} (hgap : AtGap scan) {rest : List Char}
    (hends : ∀ c ∈ rest.head?, endsTilde c) :
    scan.run ('~' :: rest) = ((scan.push .home).within .word).run rest := by
  have hopen : scan.step '~' = .ok (scan.within .tilde) := by
    simp only [Scan.step, hgap.2]
    rfl
  rw [Scan.run_cons rest hopen]
  refine Scan.run_resume (scan.push .home) .bare (fun _ => rfl) fun c hc => ?_
  simp only [Scan.step, Scan.within, hends c hc, if_true]
  rfl

/-- Parts that are read as often as can be make a word with what has been read before. -/
theorem agrees_parts {input body : List Char} {first : List Component}
    {parser : Parser (List (List Component))}
    (hrepeats : Repeats (Inside .bare) TakesParts wordPart body (parser body))
    (hshorter : ∀ values rest, parser body = .ok (values, rest) → rest.length < input.length)
    (hbegins : ∀ scan, AtGap scan → ∃ begun, Inside .bare begun ∧
      TakesParts first scan begun ∧ scan.run input = begun.run body) :
    Agrees AtGap (fun word => TakesToken (.word word)) input
      (map (fun parts => Word.ofComponents (first ++ parts.flatten)) parser body) := by
  rw [map]
  generalize parser body = outcome at hrepeats hshorter ⊢
  cases hrepeats with
  | stops _ hmisses hruns =>
      refine .reads (hshorter _ _ rfl) fun scan hgap => ?_
      obtain ⟨begun, hinside, hbegun, hrun⟩ := hbegins scan hgap
      obtain ⟨next, hnext, htakes, hrest⟩ := hruns begun hinside
      refine ⟨next.close, ⟨rfl, rfl⟩,
        close_eq_emit hgap (hbegun.trans (takesParts_flatten htakes)), ?_⟩
      rw [hrun, hrest, Scan.run_close hnext ((misses_wordPart _).mp hmisses)]
  | fails hfinal hcontexts hruns =>
      refine .fails hfinal hcontexts fun scan hgap => ?_
      obtain ⟨begun, hinside, -, hrun⟩ := hbegins scan hgap
      rw [hrun, hruns begun hinside]

theorem agrees_word (input : List Char) :
    Agrees AtGap (fun word => TakesToken (.word word)) input (word input) := by
  rcases home_cases input with ⟨rest, rfl, hends, hhome⟩ | ⟨hmisses, htilde⟩
  · have hrepeats := repeats_many agrees_wordPart rest
    rw [word_of_home hhome]
    refine agrees_parts hrepeats ?_ fun scan hgap => ⟨(scan.push .home).within .word, rfl,
      (takesParts_push scan .home).within _, run_home hgap hends⟩
    intro values stop hmany
    rw [hmany] at hrepeats
    cases hrepeats with
    | stops hlast =>
        rcases hlast with rfl | ⟨hlength, -⟩
        · exact Nat.lt_succ_self _
        · exact Nat.lt_succ_of_lt hlength
  · rw [word_of_misses hmisses]
    by_cases hbegun : Misses (wordPart input)
    · obtain ⟨failure, hfailure, hfinal⟩ := hbegun
      rw [map, many1, hfailure]
      exact .misses hfinal
    have hrepeats := repeats_many agrees_wordPart input
    rw [← many1_eq_many (agrees_wordPart input) hbegun] at hrepeats
    refine agrees_parts hrepeats ?_ fun scan hgap =>
      ⟨scan.within .word, rfl, ⟨rfl, fun _ => rfl⟩, ?_⟩
    · intro values stop hmany
      rw [hmany] at hrepeats
      cases hrepeats with
      | stops hlast hstops =>
          rcases hlast with rfl | ⟨hlength, -⟩
          · exact absurd hstops hbegun
          · exact hlength
    · obtain ⟨c, rest, rfl, hinside⟩ : ∃ c rest, input = c :: rest ∧ isSeparator c = false := by
        simpa [misses_wordPart, List.head?_eq_some_iff] using hbegun
      rw [Scan.run, Scan.run, Scan.steps_begin hgap.2 hinside]
      rintro rfl
      exact htilde rest rfl

/-- A word is missed where its first part is. -/
theorem misses_word {input : List Char} (hmisses : Misses (word input)) :
    Misses (wordPart input) := by
  rcases home_cases input with ⟨rest, rfl, -, hhome⟩ | ⟨hhome, -⟩
  · rw [word_of_home hhome, misses_map] at hmisses
    exact absurd hmisses (not_misses_many agrees_wordPart rest)
  · rw [word_of_misses hhome, misses_map] at hmisses
    by_contra hbegun
    rw [many1_eq_many (agrees_wordPart input) hbegun] at hmisses
    exact not_misses_many agrees_wordPart input hmisses

/-! ## Lines -/

theorem agrees_operator (input : List Char) :
    Agrees AtGap TakesToken input (operator input) := by
  cases input with
  | nil => exact .misses rfl
  | cons c rest =>
      rw [operator]
      cases hoperator : Token.ofOperator? c with
      | none => exact .misses rfl
      | some token =>
          refine .reads (Nat.lt_succ_self _) fun scan hgap =>
            ⟨scan.emit token, hgap, rfl, Scan.run_cons rest ?_⟩
          have hvisible : ¬ isBlank c := by
            intro hblank
            rw [Lexer.ofOperator?_of_isBlank c hblank] at hoperator
            cases hoperator
          simp only [Scan.step, hgap.2, Scan.gapStep, if_neg hvisible, hoperator]

theorem agrees_token (input : List Char) : Agrees AtGap TakesToken input (token input) :=
  (agrees_operator input).orElse (agrees_word input).map

theorem run_blanks {scan : Scan} (hgap : AtGap scan) {text : List Char}
    (hblank : ∀ c ∈ text, isBlank c) (rest : List Char) :
    scan.run (text ++ rest) = scan.run rest := by
  induction text with
  | nil => rfl
  | cons c text ih =>
      rw [List.forall_mem_cons] at hblank
      have hstep : scan.step c = .ok scan := by
        simp only [Scan.step, hgap.2, Scan.gapStep, hblank.1, if_true]
      rw [List.cons_append, Scan.run_cons _ hstep, ih hblank.2]

theorem agrees_spacedToken (input : List Char) :
    Agrees AtGap TakesToken input (terminated token blanks input) := by
  have htoken := agrees_token input
  rw [terminated]
  generalize token input = outcome at htoken ⊢
  cases htoken with
  | @reads token rest hshorter hruns =>
      obtain ⟨text, more, rfl, hspan⟩ := exists_span isBlank rest
      simp only [map, blanks, hspan.charsWhile_eq]
      refine .reads ?_ fun scan hgap => ?_
      · rw [List.length_append] at hshorter
        omega
      · obtain ⟨next, hnext, htakes, hrun⟩ := hruns scan hgap
        exact ⟨next, hnext, htakes, hrun.trans (run_blanks hnext hspan.chars more)⟩
  | misses hmisses => exact .misses hmisses
  | fails hfinal hcontexts hruns => exact .fails hfinal hcontexts hruns

/-- Where no token can be read the line is at its end, apart from blanks. -/
theorem misses_spacedToken {input : List Char} (hmisses : Misses (terminated token blanks input)) :
    ∀ c ∈ input.head?, isBlank c := by
  have htoken : Misses (token input) := by
    rw [terminated] at hmisses
    cases htoken : token input with
    | ok read =>
        simp only [htoken, map, blanks, charsWhile] at hmisses
        exact absurd hmisses (misses_ok _)
    | error failure => simpa only [htoken] using hmisses
  rw [token, misses_orElse, misses_map] at htoken
  obtain ⟨hoperator, hword⟩ := htoken
  intro c hc
  have hsep := (misses_wordPart input).mp (misses_word hword) c hc
  obtain ⟨rest, rfl⟩ := List.head?_eq_some_iff.mp hc
  have hnone : Token.ofOperator? c = none := by
    cases hfound : Token.ofOperator? c with
    | none => rfl
    | some token =>
        rw [operator, hfound] at hoperator
        exact absurd hoperator (misses_ok _)
  rcases Bool.or_eq_true_iff.mp hsep with hblank | hmeta
  · exact hblank
  · rw [isMetacharacter, hnone] at hmeta
    cases hmeta

theorem spacedToken_stops {input rest : List Char} {value : Token}
    (hread : terminated token blanks input = .ok (value, rest)) :
    ∀ c ∈ rest.head?, isBlank c = false := by
  rw [terminated] at hread
  cases htoken : token input with
  | ok read =>
      obtain ⟨read, left⟩ := read
      obtain ⟨text, more, rfl, hspan⟩ := exists_span isBlank left
      simp only [htoken, map, blanks, hspan.charsWhile_eq] at hread
      cases hread
      exact hspan.stops
  | error failure =>
      simp only [htoken] at hread
      cases hread

/-- The scan emits one token after the other. -/
theorem tokens_of_takesAll {tokens : List Token} {scan next : Scan}
    (htakes : TakesAll TakesToken tokens scan next) :
    next.tokens = tokens.reverse ++ scan.tokens := by
  induction htakes with
  | nil scan => rfl
  | cons hfirst _ ih =>
      rw [ih, hfirst, List.reverse_cons, List.append_assoc]
      rfl

/-- No line is left behind by a miss: it is read as a whole, into what the scan emits, or
it fails with the defect of the scan. -/
theorem all_line (input : List Char) :
    (∃ tokens, all line input = .ok tokens ∧ Lexer.tokens input = .ok tokens) ∨
      ∃ failure defect outer, all line input = .error failure ∧
        failure.contexts = defect :: outer ∧ Lexer.tokens input = .error defect := by
  obtain ⟨blank, body, rfl, hspan⟩ := exists_span isBlank input
  have hline : line (blank ++ body) = many (terminated token blanks) body := by
    simp only [line, preceded, blanks, hspan.charsWhile_eq]
  have hbegin : AtGap {} := ⟨rfl, rfl⟩
  have hscan : Lexer.tokens (blank ++ body) = Scan.run {} body :=
    run_blanks hbegin hspan.chars body
  have hrepeats := repeats_many agrees_spacedToken body
  rw [all, hline, hscan]
  generalize many (terminated token blanks) body = outcome at hrepeats ⊢
  cases hrepeats with
  | @stops tokens rest hlast hmisses hruns =>
      have hended : rest = [] := by
        cases rest with
        | nil => rfl
        | cons c later =>
            have hblank := misses_spacedToken hmisses c rfl
            have hvisible : isBlank c = false := by
              rcases hlast with rfl | ⟨-, earlier, value, hread⟩
              · exact hspan.stops c rfl
              · exact spacedToken_stops hread c rfl
            cases hvisible.symm.trans hblank
      subst hended
      obtain ⟨next, hgap, htakes, hrun⟩ := hruns {} hbegin
      refine .inl ⟨tokens, rfl, ?_⟩
      have hfinish : next.finish = .ok next.tokens.reverse := by
        rw [Scan.finish, hgap.2]
      have htokens : next.tokens = tokens.reverse ++ [] := tokens_of_takesAll htakes
      rw [hrun]
      change next.finish = _
      rw [hfinish, htokens, List.append_nil, List.reverse_reverse]
  | @fails failure defect outer _ hcontexts hruns =>
      exact .inr ⟨failure, defect, outer, rfl, hcontexts, hruns {} hbegin⟩

/-- Both ways of lexing come to the same tokens and to the same errors. -/
theorem lex_eq_lex (text : String) : lex text = JobShell.lex text := by
  rw [lex, JobShell.lex]
  rcases all_line text.toList with ⟨tokens, hall, htokens⟩ |
    ⟨failure, defect, outer, hall, hcontexts, htokens⟩
  · rw [hall, htokens]
    rfl
  · rw [hall, htokens]
    simp only [Except.mapError, Failure.syntaxError, hcontexts]

/-- Nothing in a line is input that the parsers cannot place. -/
theorem lex_ne_unexpectedInput (text rest : String) :
    lex text ≠ .error (.unexpectedInput rest) := by
  rw [lex_eq_lex]
  intro hunexpected
  obtain ⟨defect, -, hdefect⟩ := (lex_eq_error_ofDefect text _).mp hunexpected
  cases hdefect

end Parser

end JobShell
