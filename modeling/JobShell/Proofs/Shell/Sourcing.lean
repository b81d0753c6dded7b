import JobShell.Proofs.Lexing.Separation
import JobShell.Proofs.Shell.Scripting
import JobShell.Proofs.Text.Encoding

/-!
# Scripts as if they were typed

The lines of a script are the lines of an input with the same text, but for a carriage
return before a newline, which a script's reader drops and the reader of the input
keeps.  The lexer takes it for a blank, so the two lines lex alike, with one exception:
it mends a backslash at the end of the line, which escapes it.
-/

namespace JobShell

/-! ## Lines of text -/

namespace Text

theorem mem_toList_of_newline_mem {text : String} (hmem : newline ∈ encode text) :
    '\n' ∈ text.toList := by
  obtain ⟨c, hc, hvalue⟩ := exists_mem_of_mem_encode hmem (by decide)
  have hnewline : c = '\n' := Char.toNat_inj.mp hvalue
  rwa [← hnewline]

/-- Text is one line without an end, or a line with its end before other text. -/
theorem lines_induction {motive : String → Prop}
    (tail : ∀ text, newline ∉ encode text → motive text)
    (line : ∀ line rest, newline ∉ encode line → motive rest → motive (line ++ "\n" ++ rest))
    (text : String) : motive text := by
  obtain ⟨chars, rfl⟩ : ∃ chars, text = String.ofList chars := ⟨_, String.ofList_toList.symm⟩
  induction hlength : chars.length using Nat.strong_induction_on generalizing chars with
  | _ length ih =>
      by_cases hmem : newline ∈ encode (String.ofList chars)
      · have hnewline := mem_toList_of_newline_mem hmem
        rw [String.toList_ofList] at hnewline
        obtain ⟨front, back, rfl, hfront⟩ := List.eq_append_cons_of_mem hnewline
        have hsplit : String.ofList (front ++ '\n' :: back) =
            String.ofList front ++ "\n" ++ String.ofList back := by
          rw [← String.toList_inj]
          simp
        rw [hsplit]
        apply line
        · intro hmem
          have hnewline := mem_toList_of_newline_mem hmem
          rw [String.toList_ofList] at hnewline
          exact hfront hnewline
        · refine ih back.length ?_ back rfl
          rw [← hlength]
          simp
          omega
      · exact tail _ hmem

end Text

namespace Script

theorem dropReturn_encode (line : String) :
    ∃ kept, dropReturn (Text.encode line) = Text.encode kept ∧
      (line = kept ∨ line = kept ++ "\r") := by
  rw [dropReturn]
  split
  · next hreturn =>
      obtain ⟨chars, rfl⟩ : ∃ chars, line = String.ofList chars := ⟨_, String.ofList_toList.symm⟩
      rcases chars.eq_nil_or_concat with rfl | ⟨front, last, rfl⟩
      · cases hreturn
      · have hencode : Text.encode (String.ofList (front.concat last)) =
            Text.encode (String.ofList front) ++ String.utf8EncodeChar last := by
          simp [Text.encode_eq_flatMap]
        have hnonempty : String.utf8EncodeChar last ≠ [] := String.utf8EncodeChar_ne_nil
        rw [hencode, List.getLast?_append_of_ne_nil _ hnonempty] at hreturn
        have hmem := List.mem_of_getLast? hreturn
        obtain rfl : last = '\r' :=
          Char.toNat_inj.mp (Text.toNat_eq_of_mem_utf8EncodeChar hmem (by decide))
        refine ⟨String.ofList front, ?_, .inr ?_⟩
        · rw [hencode]
          exact List.dropLast_concat
        · rw [← String.toList_inj]
          simp
  · exact ⟨line, rfl, .inl rfl⟩

/-- The lines of a script and those of an input with the same text. -/
theorem lines_encode (text : String) :
    ∃ sourced : List String, lines (Text.encode text) = sourced.map some ∧
      List.Forall₂ (fun sourced typed => typed = sourced ∨ typed = sourced ++ "\r") sourced
        (LineReader.lines (Text.encode text)) := by
  have hdecode (line : String) : Text.decode? (Text.encode line) = some line :=
    (Text.decode?_eq_some_iff _ line).mpr rfl
  induction text using Text.lines_induction with
  | tail text hnewline =>
      rw [lines_eq_map_pieces, LineReader.lines]
      by_cases hempty : Text.encode text = []
      · exact ⟨[], by simp [hempty, LineReader.pieces_nil],
          by simp [hempty, LineReader.pieces_nil, LineReader.texts]⟩
      · rw [LineReader.pieces_tail _ hnewline hempty]
        exact ⟨[text], by simp [text?, hdecode], by simp [LineReader.texts, hdecode]⟩
  | line line rest hnewline ih =>
      obtain ⟨sourced, hsourced, htyped⟩ := ih
      obtain ⟨kept, hkept, hreturn⟩ := dropReturn_encode line
      have hencode : Text.encode (line ++ "\n" ++ rest) =
          Text.encode line ++ Text.newline :: Text.encode rest := by
        rw [Text.encode_append, Text.encode_append, List.append_assoc]
        rfl
      rw [lines_eq_map_pieces] at hsourced
      rw [lines_eq_map_pieces, hencode, LineReader.lines, LineReader.pieces_line _ _ hnewline]
      refine ⟨kept :: sourced, ?_, ?_⟩
      · rw [List.map_cons, List.map_cons, hsourced, text?, if_pos rfl, hkept, hdecode]
      · simp only [LineReader.texts, List.filterMap_cons, hdecode]
        exact .cons hreturn htyped

end Script

/-! ## A carriage return at the end of a line -/

namespace Lexer

namespace Scan

/-- Where a line cannot end, it cannot end with a carriage return either, unless that is
escaped. -/
theorem finish_return {ended : Scan} {defect : Defect}
    (hfinish : ended.finish = .error defect) :
    (ended.step '\r' >>= finish) = .error defect ∨
      defect = .escape ∧ ∃ tokens, (ended.step '\r' >>= finish) = .ok tokens := by
  have hname : isNameChar '\r' = false := by decide
  simp only [finish] at hfinish
  cases hmode : ended.mode with
  | gap | tilde | word => simp [hmode] at hfinish
  | escape =>
      simp only [hmode, Except.error.injEq] at hfinish
      simp [← hfinish, step, hmode, within, finish, bind, Except.bind]
  | singleQuotes | doubleQuotes | doubleQuotesEscape | braces =>
      simp only [hmode, Except.error.injEq] at hfinish
      simp [← hfinish, step, hmode, within, finish, bind, Except.bind, quotedStep, pushChar,
        push, hname]
  | dollar surroundings | name surroundings _ =>
      cases surroundings with
      | bare => simp [hmode] at hfinish
      | doubleQuotes =>
          simp only [hmode, Except.error.injEq] at hfinish
          simp [← hfinish, step, hmode, within, finish, bind, Except.bind, quotedStep, pushChar,
            pushName, push, hname, resume]

end Scan

theorem tokens_append_return (line : List Char) :
    tokens (line ++ ['\r']) = tokens line ∨
      tokens line = .error .escape ∧ ∃ result, tokens (line ++ ['\r']) = .ok result := by
  cases hsteps : Scan.steps {} line with
  | error defect =>
      left
      simp [tokens, Scan.steps_append, hsteps, bind, Except.bind]
  | ok ended =>
      have hline : tokens line = ended.finish := by
        rw [tokens, hsteps]
        rfl
      cases hfinish : ended.finish with
      | ok result =>
          left
          rw [tokens_separator (by decide) (hline.trans hfinish) [], hline, hfinish]
          simp [tokens, Scan.steps, Scan.finish, bind, Except.bind, Except.map,
            Token.ofOperator?]
      | error defect =>
          have hreturn : tokens (line ++ ['\r']) = ended.step '\r' >>= Scan.finish := by
            rw [tokens, Scan.steps_append_of_steps _ hsteps, Scan.steps]
            cases ended.step '\r' <;> rfl
          rw [hline, hreturn, hfinish]
          obtain hsame | ⟨rfl, hmended⟩ := Scan.finish_return hfinish
          · exact .inl hsame
          · exact .inr ⟨rfl, hmended⟩

end Lexer

namespace Script

/-- A line that is typed lexes like one that is sourced, unless a carriage return has
mended it. -/
inductive Alike (sourced typed : String) : Prop where
  | same (hlex : lex typed = lex sourced)
  | mended (tokens : List Token) (htyped : typed = sourced ++ "\r")
      (hsourced : lex sourced = .error (.ofDefect .escape)) (hlex : lex typed = .ok tokens)

theorem alike_append_return (line : String) : Alike line (line ++ "\r") := by
  have hreturn : (line ++ "\r").toList = line.toList ++ ['\r'] := String.toList_append
  obtain hsame | ⟨hescape, tokens, hmended⟩ := Lexer.tokens_append_return line.toList
  · exact .same (by rw [lex, hreturn, hsame, lex])
  · refine .mended tokens rfl ?_ ?_
    · rw [lex, hescape]
      rfl
    · rw [lex, hreturn, hmended]
      rfl

theorem alike_lines (text : String) :
    List.Forall₂ Alike (Shell.readable (lines (Text.encode text)))
      (LineReader.lines (Text.encode text)) := by
  obtain ⟨sourced, hsourced, htyped⟩ := lines_encode text
  rw [hsourced, Shell.readable_some]
  refine htyped.imp ?_
  rintro line _ (rfl | rfl)
  · exact .same rfl
  · exact alike_append_return line

end Script

namespace Shell

variable {σ τ : Type}

/-- A script gives a session the lines that it would be given if they were typed, up to
those that end the two sessions, and each lexes alike. -/
theorem sourced_alike_typed (text : String) {scripted : Kernel τ} {name : Bytes}
    {session next : Session} {state final : τ} {code : Option Int}
    (hsource : source scripted name (Script.lines (Text.encode text)) session state =
      some (code, next, final))
    {typed : Kernel σ} {unread : σ → Bytes} (hsupplies : typed.Supplies unread)
    {first last : Session} {start stop : σ} {status : Int}
    (hstart : unread start = Text.encode text) (hscript : first.settings.initScript = none)
    (hrun : run typed first start = some (status, last, stop)) :
    Feeds scripted (readable (Script.lines (Text.encode text))) session state code next final ∧
      (∃ ended left reached,
        Feeds typed (LineReader.lines (Text.encode text)) first start ended left reached ∧
          status = ended.getD 0 ∧ left.shutdown typed reached = (last, stop)) ∧
      List.Forall₂ Script.Alike (readable (Script.lines (Text.encode text)))
        (LineReader.lines (Text.encode text)) := by
  refine ⟨feeds_source scripted name _ session state hsource, ?_, Script.alike_lines text⟩
  rw [← hstart]
  exact feeds_run hsupplies hscript hrun

/-- A kernel with nothing but an input, of which a read gets three bytes at most. -/
def keyboard : Kernel Bytes :=
  { Kernel.still Bytes with read := fun unread => (.ok (unread.take 3), unread.drop 3) }

theorem keyboard_supplies : keyboard.Supplies id where
  within := by
    constructor
    case trans =>
      intro first second third hfirst hsecond
      exact hsecond.trans hfirst
    all_goals
      intros
      rfl
  await hawait := by
    cases hawait
    exact ⟨rfl, .inl ⟨false, rfl⟩⟩
  read {unread final answer} hread := by
    cases hread
    refine .inr ⟨unread.take 3, rfl, (List.take_append_drop 3 unread).symm, ?_⟩
    intro hempty
    simpa using hempty
  takeAlarm _ := rfl
  takeQuits _ := rfl
  takeInterrupt _ := rfl

/-- Two lines with carriage returns, of which one is mended, and a third that neither
session comes to. -/
def returning : String := "echo a\\\r\nexit 3\r\nexit 4"

theorem sourced_alike_typed_returning :
    ∃ (next last left : Session) (final stop reached : Bytes),
      source keyboard [] (Script.lines (Text.encode returning)) {} [] =
        some (some 3, next, final) ∧
      run keyboard {} (Text.encode returning) = some (3, last, stop) ∧
      readable (Script.lines (Text.encode returning)) = ["echo a\\", "exit 3", "exit 4"] ∧
      Feeds keyboard ["echo a\\\r", "exit 3\r", "exit 4"] {} (Text.encode returning) (some 3)
        left reached ∧
      List.Forall₂ Script.Alike ["echo a\\", "exit 3", "exit 4"]
        ["echo a\\\r", "exit 3\r", "exit 4"] := by
  have hsourced : readable (Script.lines (Text.encode returning)) =
      ["echo a\\", "exit 3", "exit 4"] := by
    decide +kernel
  have htyped : LineReader.lines (Text.encode returning) =
      ["echo a\\\r", "exit 3\r", "exit 4"] := by
    decide +kernel
  have hsource : (source keyboard [] (Script.lines (Text.encode returning)) {} []).map
      Prod.fst = some (some 3) := by
    decide +kernel
  have hrun : (run keyboard {} (Text.encode returning)).map Prod.fst = some 3 := by
    decide +kernel
  obtain ⟨⟨_, next, final⟩, hsource, rfl⟩ := Option.map_eq_some_iff.mp hsource
  obtain ⟨⟨_, last, stop⟩, hrun, rfl⟩ := Option.map_eq_some_iff.mp hrun
  obtain ⟨-, ⟨ended, left, reached, hfeeds, hcode, -⟩, halike⟩ :=
    sourced_alike_typed returning hsource keyboard_supplies rfl rfl hrun
  rw [hsourced, htyped] at halike
  rw [htyped] at hfeeds
  cases ended with
  | none => cases hcode
  | some code =>
      obtain rfl : 3 = code := hcode
      exact ⟨next, last, left, final, stop, reached, hsource, hrun, hsourced, hfeeds, halike⟩

/-- A backslash before a carriage return at the end of a line is a syntax error in a script
and escapes the carriage return if it is typed. -/
theorem sourced_unlike_typed :
    ¬ ∀ text : String, List.Forall₂ (fun sourced typed => lex typed = lex sourced)
      (readable (Script.lines (Text.encode text))) (LineReader.lines (Text.encode text)) := by
  intro hclaim
  have hsame := hclaim "echo a\\\r\n"
  have hsourced : readable (Script.lines (Text.encode "echo a\\\r\n")) = ["echo a\\"] := by
    decide +kernel
  have htyped : LineReader.lines (Text.encode "echo a\\\r\n") = ["echo a\\\r"] := by
    decide +kernel
  rw [hsourced, htyped] at hsame
  cases hsame with
  | cons hlex _ => cases hlex

end Shell

end JobShell
