import JobShell.Proofs.Lexing.Quoting

/-!
# What no line can mend

A line is read in whole units: characters that stand for themselves, escapes, references
with their braces, and quotes with what is in them.  A defect is a place where a unit has
begun that the rest of the line does not end.  What is left of the line says which defect
it is, so that the first one met is found without looking at what has been read before.

Every line is read in units to its end or to a defect, and the lexer fails on exactly the
second kind.
-/

namespace JobShell.Lexer

open JobShell.Text (isBlank)

/-! ## Units -/

/-- A text that can stand between braces. -/
structure IsName (name : List Char) : Prop where
  nonempty : name ≠ []
  chars : ∀ c ∈ name, isNameChar c

/-- The characters that do not stand for themselves. -/
def specials : Surroundings → List Char
  | .bare => ['"', '\'', '\\', '$']
  | .doubleQuotes => ['"', '\\', '$']

/-- Reading whole units leads from one place in a line to another.  A place is given by
what is left of the line behind it.  A dollar sign without a brace is a unit of its own,
as the name behind it stands for itself as far as defects go. -/
inductive Reads : Surroundings → List Char → List Char → Prop where
  | nothing {surroundings line} : Reads surroundings line line
  | plain {surroundings c rest later} (hplain : c ∉ specials surroundings)
      (hrest : Reads surroundings rest later) : Reads surroundings (c :: rest) later
  | escape {surroundings rest later} (c : Char) (hrest : Reads surroundings rest later) :
      Reads surroundings ('\\' :: c :: rest) later
  | dollar {surroundings rest later} (hbrace : rest.head? ≠ some '\x7b')
      (hrest : Reads surroundings rest later) : Reads surroundings ('$' :: rest) later
  | reference {surroundings name rest later} (hname : IsName name)
      (hrest : Reads surroundings rest later) :
      Reads surroundings ('$' :: '\x7b' :: (name ++ '\x7d' :: rest)) later
  | singleQuotes {text rest later} (htext : '\'' ∉ text) (hrest : Reads .bare rest later) :
      Reads .bare ('\'' :: (text ++ '\'' :: rest)) later
  | doubleQuotes {body rest later} (hbody : Reads .doubleQuotes body ('"' :: rest))
      (hrest : Reads .bare rest later) : Reads .bare ('"' :: body) later

/-- A unit has begun that the rest of the line does not end.  Inside double quotes it may
be the quotes themselves. -/
inductive Breaks : Surroundings → List Char → Defect → Prop where
  | escape : Breaks .bare ['\\'] .escape
  | singleQuote {rest} (hopen : '\'' ∉ rest) : Breaks .bare ('\'' :: rest) .singleQuote
  | reference {surroundings rest}
      (hmalformed : ∀ name later, IsName name → rest ≠ name ++ '\x7d' :: later) :
      Breaks surroundings ('$' :: '\x7b' :: rest) .reference
  | doubleQuote : Breaks .doubleQuotes [] .doubleQuote
  | doubleQuoteEscape : Breaks .doubleQuotes ['\\'] .doubleQuote
  | within {body rest defect} (hbody : Reads .doubleQuotes body rest)
      (hbreaks : Breaks .doubleQuotes rest defect) : Breaks .bare ('"' :: body) defect

/-- The defect is the first one that reading the line in units comes to. -/
def Meets (line : List Char) (defect : Defect) : Prop :=
  ∃ rest, Reads .bare line rest ∧ Breaks .bare rest defect

/-! ## Every line is read to its end or to a defect -/

theorem Reads.length_le {surroundings : Surroundings} {line later : List Char}
    (hreads : Reads surroundings line later) : later.length ≤ line.length := by
  induction hreads with
  | nothing => exact Nat.le_refl _
  | plain _ _ ih => exact Nat.le_succ_of_le ih
  | escape _ _ ih => exact Nat.le_succ_of_le (Nat.le_succ_of_le ih)
  | dollar _ _ ih => exact Nat.le_succ_of_le ih
  | reference _ _ ih =>
      simp only [List.length_cons, List.length_append]
      omega
  | singleQuotes _ _ ih =>
      simp only [List.length_cons, List.length_append]
      omega
  | doubleQuotes _ _ ihBody ihRest =>
      simp only [List.length_cons] at ihBody ⊢
      omega

/-- Where units end: at the end of the line, or at the closing quotes. -/
def Ends : Surroundings → List Char → Prop
  | .bare, rest => rest = []
  | .doubleQuotes, rest => ∃ later, rest = '"' :: later

/-- What is left of a line is read in units up to where they end, or to a defect. -/
def Settles (surroundings : Surroundings) (line : List Char) : Prop :=
  ∃ rest, Reads surroundings line rest ∧
    (Ends surroundings rest ∨ ∃ defect, Breaks surroundings rest defect)

theorem Settles.of_reads {surroundings : Surroundings} {line rest : List Char}
    (hsettles : Settles surroundings rest)
    (hreads : ∀ later, Reads surroundings rest later → Reads surroundings line later) :
    Settles surroundings line := by
  obtain ⟨later, hrest, hends⟩ := hsettles
  exact ⟨later, hreads later hrest, hends⟩

theorem Settles.of_breaks {surroundings : Surroundings} {line : List Char} {defect : Defect}
    (hbreaks : Breaks surroundings line defect) : Settles surroundings line :=
  ⟨line, .nothing, .inr ⟨defect, hbreaks⟩⟩

theorem settles_escape {surroundings : Surroundings} {rest : List Char}
    (hrest : ∀ c later, rest = c :: later → Settles surroundings later) :
    Settles surroundings ('\\' :: rest) := by
  match rest, surroundings with
  | [], .bare => exact .of_breaks .escape
  | [], .doubleQuotes => exact .of_breaks .doubleQuoteEscape
  | c :: later, _ => exact (hrest c later rfl).of_reads fun _ => .escape c

theorem settles_dollar {surroundings : Surroundings} {rest : List Char}
    (hrest : ∀ later, later.length ≤ rest.length → Settles surroundings later) :
    Settles surroundings ('$' :: rest) := by
  by_cases hbrace : rest.head? = some '\x7b'
  · obtain ⟨more, rfl⟩ := List.head?_eq_some_iff.mp hbrace
    by_cases hname : ∃ name later, IsName name ∧ more = name ++ '\x7d' :: later
    · obtain ⟨name, later, hname, rfl⟩ := hname
      refine (hrest later ?_).of_reads fun _ => .reference hname
      simp only [List.length_cons, List.length_append]
      omega
    · exact .of_breaks <| .reference fun name later hisName hmore =>
        hname ⟨name, later, hisName, hmore⟩
  · exact (hrest rest (Nat.le_refl _)).of_reads fun _ => .dollar hbrace

theorem settles_singleQuote {rest : List Char}
    (hrest : ∀ later, later.length ≤ rest.length → Settles .bare later) :
    Settles .bare ('\'' :: rest) := by
  by_cases hclosed : '\'' ∈ rest
  · obtain ⟨text, later, rfl, htext⟩ := List.eq_append_cons_of_mem hclosed
    refine (hrest later ?_).of_reads fun _ => .singleQuotes htext
    simp only [List.length_cons, List.length_append]
    omega
  · exact .of_breaks (.singleQuote hclosed)

/-- Quotes are read in units as well, and then what follows them. -/
theorem settles_doubleQuote {rest : List Char} (hbody : Settles .doubleQuotes rest)
    (hrest : ∀ later, later.length ≤ rest.length → Settles .bare later) :
    Settles .bare ('"' :: rest) := by
  obtain ⟨closing, hreads, ⟨later, rfl⟩ | ⟨defect, hbreaks⟩⟩ := hbody
  · refine (hrest later ?_).of_reads fun _ => .doubleQuotes hreads
    exact Nat.le_of_succ_le hreads.length_le
  · exact .of_breaks (.within hreads hbreaks)

theorem settles (surroundings : Surroundings) (line : List Char) :
    Settles surroundings line := by
  induction hlength : line.length using Nat.strongRecOn
    generalizing surroundings line with
  | _ length ih =>
    subst hlength
    match line, surroundings with
    | [], .bare => exact ⟨[], .nothing, .inl rfl⟩
    | [], .doubleQuotes => exact .of_breaks .doubleQuote
    | c :: rest, surroundings =>
        have hshorter (surroundings : Surroundings) (later : List Char)
            (hlength : later.length ≤ rest.length) : Settles surroundings later :=
          ih later.length (Nat.lt_succ_of_le hlength) surroundings later rfl
        by_cases hspecial : c ∈ specials surroundings
        · cases surroundings with
          | bare =>
              simp only [specials, List.mem_cons, List.not_mem_nil, or_false] at hspecial
              rcases hspecial with rfl | rfl | rfl | rfl
              · exact settles_doubleQuote (hshorter _ _ (Nat.le_refl _)) (hshorter .bare)
              · exact settles_singleQuote (hshorter .bare)
              · exact settles_escape fun c later hrest =>
                  hshorter _ _ (hrest ▸ Nat.le_succ _)
              · exact settles_dollar (hshorter .bare)
          | doubleQuotes =>
              simp only [specials, List.mem_cons, List.not_mem_nil, or_false] at hspecial
              rcases hspecial with rfl | rfl | rfl
              · exact ⟨_, .nothing, .inl ⟨rest, rfl⟩⟩
              · exact settles_escape fun c later hrest =>
                  hshorter _ _ (hrest ▸ Nat.le_succ _)
              · exact settles_dollar (hshorter .doubleQuotes)
        · exact (hshorter surroundings rest (Nat.le_refl _)).of_reads fun _ => .plain hspecial

/-! ## The scan between units -/

theorem specials_subset (surroundings : Surroundings) :
    specials surroundings ⊆ specials .bare := by
  cases surroundings <;> decide

theorem isNameChar_of_mem_specials {c : Char} (hspecial : c ∈ specials .bare) :
    isNameChar c = false := by
  simp only [specials, List.mem_cons, List.not_mem_nil, or_false] at hspecial
  rcases hspecial with rfl | rfl | rfl | rfl <;> rfl

/-- The modes in which the scan stands between two units.  After a dollar sign it does
only where no brace follows. -/
inductive Between : Surroundings → Mode → List Char → Prop where
  | gap {line} : Between .bare .gap line
  | tilde {line} : Between .bare .tilde line
  | word {line} : Between .bare .word line
  | doubleQuotes {line} : Between .doubleQuotes .doubleQuotes line
  | name {surroundings line} (name : List Char) :
      Between surroundings (.name surroundings name) line
  | dollar {surroundings line} (hbrace : line.head? ≠ some '\x7b') :
      Between surroundings (.dollar surroundings) line

theorem Between.of_surroundings (surroundings : Surroundings) (line : List Char) :
    Between surroundings (Scan.Surroundings.mode surroundings) line := by
  cases surroundings with
  | bare => exact .word
  | doubleQuotes => exact .doubleQuotes

namespace Scan

/-- The scan stands between two units whatever follows. -/
def Rests (surroundings : Surroundings) (scan : Scan) : Prop :=
  ∀ line, Between surroundings scan.mode line

theorem rests_bareStep (scan : Scan) {c : Char} (hplain : c ∉ specials .bare) :
    (scan.bareStep c).Rests .bare := by
  simp only [specials, List.mem_cons, List.not_mem_nil, or_false, not_or] at hplain
  obtain ⟨hdouble, hsingle, hescape, hdollar⟩ := hplain
  simp only [bareStep, hdouble, hsingle, hescape, hdollar, if_false]
  intro line
  split
  · exact .gap
  · split
    · exact .gap
    · exact .word

theorem rests_gapStep {scan : Scan} (hmode : scan.mode = .gap) {c : Char}
    (hplain : c ∉ specials .bare) : (scan.gapStep c).Rests .bare := by
  intro line
  rw [gapStep]
  split
  · exact hmode ▸ .gap
  · split
    · exact hmode ▸ .gap
    · split
      · exact .tilde
      · exact rests_bareStep scan hplain line

theorem rests_quotedStep (scan : Scan) {c : Char} (hplain : c ∉ specials .doubleQuotes) :
    (scan.quotedStep c).Rests .doubleQuotes := by
  simp only [specials, List.mem_cons, List.not_mem_nil, or_false, not_or] at hplain
  obtain ⟨hdouble, hescape, hdollar⟩ := hplain
  simp only [quotedStep, hdouble, hescape, hdollar, if_false]
  exact fun _ => .doubleQuotes

theorem rests_resume (scan : Scan) {surroundings : Surroundings} {c : Char}
    (hplain : c ∉ specials surroundings) : (scan.resume surroundings c).Rests surroundings := by
  cases surroundings with
  | bare => exact rests_bareStep scan hplain
  | doubleQuotes => exact rests_quotedStep scan hplain

theorem step_plain {surroundings : Surroundings} {scan : Scan} {c : Char} {rest : List Char}
    (hbetween : Between surroundings scan.mode (c :: rest))
    (hplain : c ∉ specials surroundings) :
    ∃ next, scan.step c = .ok next ∧ next.Rests surroundings := by
  generalize hmode : scan.mode = mode at hbetween
  cases hbetween with
  | gap => exact ⟨scan.gapStep c, by simp only [step, hmode], rests_gapStep hmode hplain⟩
  | tilde =>
      simp only [step, hmode]
      split
      · exact ⟨_, rfl, rests_bareStep _ hplain⟩
      · exact ⟨_, rfl, rests_bareStep _ hplain⟩
  | word => exact ⟨scan.bareStep c, by simp only [step, hmode], rests_bareStep _ hplain⟩
  | doubleQuotes =>
      exact ⟨scan.quotedStep c, by simp only [step, hmode], rests_quotedStep _ hplain⟩
  | name name =>
      simp only [step, hmode]
      split
      · exact ⟨_, rfl, fun _ => .name _⟩
      · exact ⟨_, rfl, rests_resume _ hplain⟩
  | dollar hbrace =>
      have hbrace : c ≠ '\x7b' := by simpa using hbrace
      simp only [step, hmode, hbrace, if_false]
      split
      · exact ⟨_, rfl, fun _ => .name _⟩
      · exact ⟨_, rfl, rests_resume _ hplain⟩

theorem gapStep_of_mem_specials (scan : Scan) {c : Char} (hspecial : c ∈ specials .bare) :
    scan.gapStep c = scan.bareStep c := by
  simp only [specials, List.mem_cons, List.not_mem_nil, or_false] at hspecial
  rcases hspecial with rfl | rfl | rfl | rfl <;> rfl

/-- What was being read is put away before a character that means something is taken. -/
theorem step_special {surroundings : Surroundings} {scan : Scan} {c : Char} {rest : List Char}
    (hbetween : Between surroundings scan.mode (c :: rest))
    (hspecial : c ∈ specials surroundings) :
    ∃ read : Scan, scan.step c = .ok (read.resume surroundings c) := by
  have hname : isNameChar c = false :=
    isNameChar_of_mem_specials (specials_subset surroundings hspecial)
  generalize hmode : scan.mode = mode at hbetween
  cases hbetween with
  | gap =>
      refine ⟨scan, ?_⟩
      simp only [step, hmode, gapStep_of_mem_specials scan hspecial, resume]
  | tilde =>
      simp only [step, hmode]
      split
      · exact ⟨_, rfl⟩
      · exact ⟨_, rfl⟩
  | word => exact ⟨scan, by simp only [step, hmode, resume]⟩
  | doubleQuotes => exact ⟨scan, by simp only [step, hmode, resume]⟩
  | name name =>
      refine ⟨scan.pushName name, ?_⟩
      simp only [step, hmode, hname, if_false, Bool.false_eq_true]
  | dollar hbrace =>
      have hbrace : c ≠ '\x7b' := by simpa using hbrace
      refine ⟨scan.pushChar '$', ?_⟩
      simp only [step, hmode, hbrace, hname, if_false, Bool.false_eq_true]

/-- The scan takes an escape as a whole. -/
theorem steps_escape {surroundings : Surroundings} {scan : Scan} {c : Char} {rest : List Char}
    (hbetween : Between surroundings scan.mode ('\\' :: c :: rest)) :
    ∃ next : Scan, next.Rests surroundings ∧
      scan.steps ('\\' :: c :: rest) = next.steps rest := by
  obtain ⟨read, hstep⟩ := step_special hbetween (by cases surroundings <;> decide)
  cases surroundings with
  | bare => exact ⟨_, fun _ => .word, steps_cons_of_step _ hstep⟩
  | doubleQuotes => exact ⟨_, fun _ => .doubleQuotes, steps_cons_of_step _ hstep⟩

theorem step_dollar {surroundings : Surroundings} {scan : Scan} {rest : List Char}
    (hbetween : Between surroundings scan.mode ('$' :: rest)) :
    ∃ next, scan.step '$' = .ok next ∧ next.mode = .dollar surroundings := by
  obtain ⟨read, hstep⟩ := step_special hbetween (by cases surroundings <;> decide)
  cases surroundings with
  | bare => exact ⟨_, hstep, rfl⟩
  | doubleQuotes => exact ⟨_, hstep, rfl⟩

/-- Both characters that begin a reference are taken as such. -/
theorem steps_openReference {surroundings : Surroundings} {scan : Scan} {rest : List Char}
    (hbetween : Between surroundings scan.mode ('$' :: '\x7b' :: rest)) :
    ∃ next : Scan, next.mode = .braces surroundings [] ∧
      scan.steps ('$' :: '\x7b' :: rest) = next.steps rest := by
  obtain ⟨dollar, hdollar, hmode⟩ := step_dollar hbetween
  have hbrace : dollar.step '\x7b' = .ok (dollar.within (.braces surroundings [])) := by
    simp only [step, hmode, if_true]
  exact ⟨_, rfl, by rw [steps_cons_of_step _ hdollar, steps_cons_of_step _ hbrace]⟩

theorem steps_name {surroundings : Surroundings} {scan : Scan} {read name : List Char}
    (hmode : scan.mode = .braces surroundings read) (hname : ∀ c ∈ name, isNameChar c)
    (rest : List Char) :
    scan.steps (name ++ rest) =
      (scan.within (.braces surroundings (read ++ name))).steps rest := by
  induction name generalizing scan read with
  | nil => rw [List.append_nil, within_mode hmode, List.nil_append]
  | cons c later ih =>
      rw [List.forall_mem_cons] at hname
      have hstep : scan.step c = .ok (scan.within (.braces surroundings (read ++ [c]))) := by
        simp only [step, hmode, hname.1, if_true]
      rw [List.cons_append, steps_cons_of_step _ hstep, ih rfl hname.2, List.append_assoc]
      rfl

theorem step_closeReference {surroundings : Surroundings} {scan : Scan} {name : List Char}
    (hmode : scan.mode = .braces surroundings name) (hname : IsName name) :
    scan.step '\x7d' = .ok ((scan.pushName name).within (Surroundings.mode surroundings)) := by
  have hbrace : isNameChar '\x7d' = false := by decide
  simp [step, hmode, hbrace, hname.nonempty]

theorem steps_reference {surroundings : Surroundings} {scan : Scan} {name rest : List Char}
    (hbetween : Between surroundings scan.mode ('$' :: '\x7b' :: (name ++ '\x7d' :: rest)))
    (hname : IsName name) :
    ∃ next : Scan, next.Rests surroundings ∧
      scan.steps ('$' :: '\x7b' :: (name ++ '\x7d' :: rest)) = next.steps rest := by
  obtain ⟨opened, hmode, hopen⟩ := steps_openReference hbetween
  rw [hopen, steps_name hmode hname.chars, List.nil_append,
    steps_cons_of_step _ (step_closeReference rfl hname)]
  exact ⟨_, fun line => Between.of_surroundings surroundings line, rfl⟩

theorem steps_openSingleQuote {scan : Scan} {rest : List Char}
    (hbetween : Between .bare scan.mode ('\'' :: rest)) :
    ∃ next : Scan, next.mode = .singleQuotes ∧
      scan.steps ('\'' :: rest) = next.steps rest := by
  obtain ⟨read, hstep⟩ := step_special hbetween (by decide)
  exact ⟨_, rfl, steps_cons_of_step _ hstep⟩

theorem steps_openDoubleQuotes {scan : Scan} {rest : List Char}
    (hbetween : Between .bare scan.mode ('"' :: rest)) :
    ∃ next : Scan, next.Rests .doubleQuotes ∧
      scan.steps ('"' :: rest) = next.steps rest := by
  obtain ⟨read, hstep⟩ := step_special hbetween (by decide)
  exact ⟨_, fun _ => .doubleQuotes, steps_cons_of_step _ hstep⟩

theorem steps_unquoted {scan : Scan} {text : List Char} (hmode : scan.mode = .singleQuotes)
    (htext : '\'' ∉ text) :
    scan.steps text = .ok (scan.withLiterals (text.map String.singleton)) := by
  refine steps_chars .singleQuotes text ?_ scan hmode
  intro c hc other hother
  have hquote : c ≠ '\'' := ne_of_mem_of_not_mem hc htext
  simp only [step, hother, hquote, if_false]
  rfl

theorem steps_singleQuotes {scan : Scan} {text rest : List Char}
    (hbetween : Between .bare scan.mode ('\'' :: (text ++ '\'' :: rest)))
    (htext : '\'' ∉ text) :
    ∃ next : Scan, next.Rests .bare ∧
      scan.steps ('\'' :: (text ++ '\'' :: rest)) = next.steps rest := by
  obtain ⟨opened, hmode, hopen⟩ := steps_openSingleQuote hbetween
  have hclose (quoted : Scan) (hquoted : quoted.mode = .singleQuotes) :
      quoted.step '\'' = .ok (quoted.within .word) := by
    simp only [step, hquoted, if_true]
  rw [hopen, steps_append_of_steps _ (steps_unquoted hmode htext),
    steps_cons_of_step _ (hclose _ (by rw [mode_withLiterals, hmode]))]
  exact ⟨_, fun _ => .word, rfl⟩

/-- The scan comes between the same units as the reading does. -/
theorem steps_of_reads {surroundings : Surroundings} {line later : List Char}
    (hreads : Reads surroundings line later) {scan : Scan}
    (hbetween : Between surroundings scan.mode line) :
    ∃ next : Scan, Between surroundings next.mode later ∧
      scan.steps line = next.steps later := by
  induction hreads generalizing scan with
  | nothing => exact ⟨scan, hbetween, rfl⟩
  | plain hplain _ ih =>
      obtain ⟨next, hstep, hrests⟩ := step_plain hbetween hplain
      rw [steps_cons_of_step _ hstep]
      exact ih (hrests _)
  | escape c _ ih =>
      obtain ⟨next, hrests, hsteps⟩ := steps_escape hbetween
      rw [hsteps]
      exact ih (hrests _)
  | dollar hbrace _ ih =>
      obtain ⟨next, hstep, hmode⟩ := step_dollar hbetween
      rw [steps_cons_of_step _ hstep]
      exact ih (hmode ▸ .dollar hbrace)
  | reference hname _ ih =>
      obtain ⟨next, hrests, hsteps⟩ := steps_reference hbetween hname
      rw [hsteps]
      exact ih (hrests _)
  | singleQuotes htext _ ih =>
      obtain ⟨next, hrests, hsteps⟩ := steps_singleQuotes hbetween htext
      rw [hsteps]
      exact ih (hrests _)
  | doubleQuotes _ _ ihBody ihRest =>
      obtain ⟨opened, hrests, hopen⟩ := steps_openDoubleQuotes hbetween
      obtain ⟨quoted, hquoted, hbody⟩ := ihBody (hrests _)
      obtain ⟨read, hclose⟩ := step_special hquoted (by decide)
      rw [hopen, hbody, steps_cons_of_step _ hclose]
      exact ihRest .word

/-! ## The scan at a defect -/

/-- What stands behind an opening brace fails if no name and closing brace begin it. -/
theorem steps_braces {surroundings : Surroundings} {scan : Scan} {read rest : List Char}
    (hmode : scan.mode = .braces surroundings read) (hread : ∀ c ∈ read, isNameChar c)
    (hmalformed : ∀ name later, IsName name → read ++ rest ≠ name ++ '\x7d' :: later) :
    (scan.steps rest >>= finish) = .error .reference := by
  induction rest generalizing scan read with
  | nil =>
      change scan.finish = _
      rw [finish, hmode]
  | cons c rest ih =>
      by_cases hname : isNameChar c
      · have hstep : scan.step c = .ok (scan.within (.braces surroundings (read ++ [c]))) := by
          simp only [step, hmode, hname, if_true]
        rw [steps_cons_of_step _ hstep]
        refine ih rfl ?_ ?_
        · simpa [or_imp, forall_and, hname] using hread
        · simpa using hmalformed
      · have hclose : ¬ (c = '\x7d' ∧ read ≠ []) := by
          rintro ⟨rfl, hnonempty⟩
          exact hmalformed read rest ⟨hnonempty, hread⟩ rfl
        have hstep : scan.step c = .error .reference := by
          simp only [step, hmode, hname, hclose, if_false, Bool.false_eq_true]
        rw [steps, hstep]
        rfl

theorem steps_of_breaks {surroundings : Surroundings} {line : List Char} {defect : Defect}
    (hbreaks : Breaks surroundings line defect) {scan : Scan}
    (hbetween : Between surroundings scan.mode line) :
    (scan.steps line >>= finish) = .error defect := by
  induction hbreaks generalizing scan with
  | escape =>
      obtain ⟨read, hstep⟩ := step_special hbetween (by decide)
      rw [steps_cons_of_step _ hstep]
      rfl
  | singleQuote hopen =>
      obtain ⟨opened, hmode, hsteps⟩ := steps_openSingleQuote hbetween
      rw [hsteps, steps_unquoted hmode hopen]
      change finish _ = _
      rw [finish, mode_withLiterals, hmode]
  | reference hmalformed =>
      obtain ⟨opened, hmode, hsteps⟩ := steps_openReference hbetween
      rw [hsteps]
      exact steps_braces hmode (fun c hread => absurd hread List.not_mem_nil) hmalformed
  | doubleQuote =>
      change scan.finish = _
      generalize hmode : scan.mode = mode at hbetween
      cases hbetween <;> simp only [finish, hmode]
  | doubleQuoteEscape =>
      obtain ⟨read, hstep⟩ := step_special hbetween (by decide)
      rw [steps_cons_of_step _ hstep]
      rfl
  | within hbody _ ih =>
      obtain ⟨opened, hrests, hopen⟩ := steps_openDoubleQuotes hbetween
      obtain ⟨quoted, hquoted, hsteps⟩ := steps_of_reads hbody (hrests _)
      rw [hopen, hsteps]
      exact ih hquoted

theorem finish_of_between {scan : Scan} (hbetween : Between .bare scan.mode []) :
    ∃ tokens, scan.finish = .ok tokens := by
  generalize hmode : scan.mode = mode at hbetween
  cases hbetween <;> exact ⟨_, by simp only [finish, hmode]; rfl⟩

end Scan

/-! ## Lines -/

theorem tokens_eq_error_of_meets {line : List Char} {defect : Defect}
    (hmeets : Meets line defect) : tokens line = .error defect := by
  obtain ⟨rest, hreads, hbreaks⟩ := hmeets
  have hbegins : Between .bare ({} : Scan).mode line := .gap
  obtain ⟨scan, hbetween, hsteps⟩ := Scan.steps_of_reads hreads hbegins
  rw [tokens, hsteps]
  exact Scan.steps_of_breaks hbreaks hbetween

theorem tokens_eq_ok_of_reads {line : List Char} (hreads : Reads .bare line []) :
    ∃ result, tokens line = .ok result := by
  have hbegins : Between .bare ({} : Scan).mode line := .gap
  obtain ⟨scan, hbetween, hsteps⟩ := Scan.steps_of_reads hreads hbegins
  rw [tokens, hsteps]
  exact Scan.finish_of_between hbetween

theorem reads_or_meets (line : List Char) :
    Reads .bare line [] ∨ ∃ defect, Meets line defect := by
  obtain ⟨rest, hreads, rfl | ⟨defect, hbreaks⟩⟩ := settles .bare line
  · exact .inl hreads
  · exact .inr ⟨defect, rest, hreads, hbreaks⟩

theorem tokens_eq_error_iff_meets (line : List Char) (defect : Defect) :
    tokens line = .error defect ↔ Meets line defect := by
  refine ⟨fun herror => ?_, tokens_eq_error_of_meets⟩
  rcases reads_or_meets line with hreads | ⟨met, hmeets⟩
  · obtain ⟨result, hresult⟩ := tokens_eq_ok_of_reads hreads
    cases herror.symm.trans hresult
  · cases herror.symm.trans (tokens_eq_error_of_meets hmeets)
    exact hmeets

theorem exists_tokens_iff_reads (line : List Char) :
    (∃ result, tokens line = .ok result) ↔ Reads .bare line [] := by
  refine ⟨fun ⟨result, hresult⟩ => ?_, tokens_eq_ok_of_reads⟩
  rcases reads_or_meets line with hreads | ⟨defect, hmeets⟩
  · exact hreads
  · cases hresult.symm.trans (tokens_eq_error_of_meets hmeets)

end JobShell.Lexer

namespace JobShell

theorem lex_eq_error_ofDefect (line : String) (error : SyntaxError) :
    lex line = .error error ↔
      ∃ defect, Lexer.tokens line.toList = .error defect ∧ error = .ofDefect defect := by
  rw [lex]
  cases Lexer.tokens line.toList with
  | ok tokens =>
      change Except.ok tokens = Except.error error ↔ _
      simp
  | error defect =>
      change Except.error (SyntaxError.ofDefect defect) = Except.error error ↔ _
      simp [eq_comm]

/-- A line fails with the first defect that reading it in units comes to, with nothing
else and only then.  Every other line is read in units to its end, and lexes. -/
theorem lex_eq_error_iff_meets (line : String) :
    (∀ error, lex line = .error error ↔
      ∃ defect, Lexer.Meets line.toList defect ∧ error = .ofDefect defect) ∧
    (∀ rest, lex line ≠ .error (.unexpectedInput rest)) ∧
    ((∃ tokens, lex line = .ok tokens) ↔ ∀ defect, ¬ Lexer.Meets line.toList defect) ∧
    ((∃ tokens, lex line = .ok tokens) ↔ Lexer.Reads .bare line.toList []) := by
  have herror (error : SyntaxError) : lex line = .error error ↔
      ∃ defect, Lexer.Meets line.toList defect ∧ error = .ofDefect defect := by
    simp only [lex_eq_error_ofDefect, Lexer.tokens_eq_error_iff_meets]
  have hok : (∃ tokens, lex line = .ok tokens) ↔ Lexer.Reads .bare line.toList [] := by
    simp only [lex_eq_ok_iff, Lexer.exists_tokens_iff_reads]
  refine ⟨herror, fun rest hrest => ?_, ⟨fun ⟨tokens, htokens⟩ defect hmeets => ?_,
    fun hnone => hok.mpr ?_⟩, hok⟩
  · obtain ⟨defect, -, hdefect⟩ := (herror _).mp hrest
    cases hdefect
  · cases htokens.symm.trans ((herror _).mpr ⟨defect, hmeets, rfl⟩)
  · exact (Lexer.reads_or_meets line.toList).resolve_right fun ⟨defect, hmeets⟩ =>
      hnone defect hmeets

-- The reference is met before the quotes around it turn out not to end.
example :
    lex "echo \"a\\\"$\x7bHOME 'b" = .error (.unterminated Defect.reference.description) := rfl

end JobShell
