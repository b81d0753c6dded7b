import JobShell.Proofs.Shell.Feeding

/-!
# Scripts that are read while their lines run

A script is read in chunks, and a line runs as soon as it has been read.  So the lines that
a session is given are not those of the script as it stands when it is opened, but those of
whatever is taken in of it, also of what one of them adds to it.  If nothing is added, they
are the lines of the script as a whole.
-/

namespace JobShell

variable {σ : Type}

namespace Script

open LineReader (Intake Piece Yields cut endedPieces_tail pieces pieces_line pieces_nil
  pieces_tail splitLine_eq_none splitLine_eq_some yields_line yields_tail)

/-! ## The lines of a script -/

/-- The line that a piece of a script holds, none if that is not text. -/
def text? (piece : Piece) : Option String :=
  Text.decode? (if piece.ended then dropReturn piece.bytes else piece.bytes)

/-- The lines of what is taken in of a script. -/
def delivered (taken : List Intake) : List (Option String) :=
  (cut [] taken).map text?

theorem linesFrom_line (reversed : Bytes) {line : Bytes} (rest : Bytes)
    (hnewline : Text.newline ∉ line) :
    linesFrom reversed (line ++ Text.newline :: rest) =
      dropReturn (reversed.reverse ++ line) :: linesFrom [] rest := by
  induction line generalizing reversed with
  | nil => simp [linesFrom]
  | cons byte others ih =>
      obtain ⟨hbyte, hothers⟩ := not_or.mp (mt List.mem_cons.mpr hnewline)
      rw [List.cons_append, linesFrom, if_neg (Ne.symm hbyte), ih _ hothers]
      simp

theorem linesFrom_tail (reversed : Bytes) {tail : Bytes} (hnewline : Text.newline ∉ tail) :
    linesFrom reversed tail =
      if reversed.reverse ++ tail = [] then [] else [reversed.reverse ++ tail] := by
  induction tail generalizing reversed with
  | nil => simp [linesFrom]
  | cons byte others ih =>
      obtain ⟨hbyte, hothers⟩ := not_or.mp (mt List.mem_cons.mpr hnewline)
      rw [linesFrom, if_neg (Ne.symm hbyte), ih _ hothers]
      simp

theorem lines_eq_map_pieces (script : Bytes) : lines script = (pieces script).map text? := by
  induction script using LineReader.stream_induction with
  | tail tail hnewline =>
      rw [lines, linesFrom_tail [] hnewline]
      by_cases hempty : tail = []
      · simp [hempty, pieces_nil]
      · simp [hempty, pieces_tail _ hnewline, text?]
  | line line rest hnewline ih =>
      rw [lines, linesFrom_line [] rest hnewline, List.map_cons, ← lines, ih,
        pieces_line _ _ hnewline]
      rfl

/-- A script that is read in chunks to its end has the lines of the whole. -/
theorem delivered_chunks (chunks : List Bytes) :
    delivered (chunks.map .chunk ++ [.closed]) = lines chunks.flatten := by
  rw [delivered, LineReader.cut_chunks, List.nil_append, lines_eq_map_pieces]
  exact congrArg (List.map text?) (LineReader.cut_closed _ 0)

/-! ## Reading -/

/-- How the reading of lines ends, unless one of them ends the session. -/
inductive Finishes (taken : List Intake) (lines : List (Option String)) : Prop where
  | closed (hlast : taken.getLast? = some .closed)
  | failed (hlast : taken.getLast? = some .failed)
  | undecodable (hline : none ∈ lines)

theorem Finishes.cons {taken : List Intake} {lines : List (Option String)}
    (hfinishes : Finishes taken lines) (earlier : List Intake) (line : Option String) :
    Finishes (earlier ++ taken) (line :: lines) := by
  cases hfinishes with
  | closed hlast => exact .closed (by rw [List.getLast?_append, hlast]; rfl)
  | failed hlast => exact .failed (by rw [List.getLast?_append, hlast]; rfl)
  | undecodable hline => exact .undecodable (List.mem_cons_of_mem _ hline)

/-- What reading a line tells of what has been taken in. -/
inductive Tells (pending : Bytes) (taken : List Intake) (after : Bytes) :
    Except StreamFailure (Option String) → Prop where
  | line {piece : Piece} {text : String} (hyields : Yields pending taken after [piece])
      (htext : text? piece = some text) : Tells pending taken after (.ok (some text))
  | undecodable {piece : Piece} (hyields : Yields pending taken after [piece])
      (htext : text? piece = none) : Tells pending taken after (.error .invalidText)
  | closed (hlast : taken.getLast? = some .closed) (hnothing : cut pending taken = []) :
      Tells pending taken after (.ok none)
  | failed {errno : Errno} (hlast : taken.getLast? = some .failed)
      (hnothing : cut pending taken = []) : Tells pending taken after (.error (.refused errno))

theorem tells_decode {pending after : Bytes} {taken : List Intake} {piece : Piece}
    (hyields : Yields pending taken after [piece]) :
    Tells pending taken after
      (decode (.ok (some (if piece.ended then dropReturn piece.bytes else piece.bytes)))) := by
  have htext : Text.decode? (if piece.ended then dropReturn piece.bytes else piece.bytes) =
    text? piece := rfl
  rw [decode, htext]
  cases hdecode : text? piece with
  | some text => exact .line hyields hdecode
  | none => exact .undecodable hyields hdecode

theorem Tells.chunk {pending bytes after : Bytes} {taken : List Intake}
    {answer : Except StreamFailure (Option String)}
    (htells : Tells (pending ++ bytes) taken after answer) :
    Tells pending (.chunk bytes :: taken) after answer := by
  cases htells with
  | line hyields htext => exact .line hyields.chunk htext
  | undecodable hyields htext => exact .undecodable hyields.chunk htext
  | closed hlast hnothing => exact .closed (by rw [List.getLast?_cons, hlast]; rfl) hnothing
  | failed hlast hnothing => exact .failed (by rw [List.getLast?_cons, hlast]; rfl) hnothing

end Script

/-- What has been taken in between two states, of scripts first and then of the input: the
answers to the reading of scripts, to the waiting for input and to the reading of it, and to
nothing else.  The only signals are those of children. -/
structure Kernel.Attends (kernel : Kernel σ)
    (drawn : σ → List LineReader.Intake → List LineReader.Intake → σ → Prop) : Prop where
  within : kernel.Within fun state next => drawn state [] [] next
  trans : ∀ {first second third scripted sourced front back},
    drawn first scripted front second → drawn second sourced back third →
      drawn first (scripted ++ sourced) (front ++ back) third
  openScript : ∀ {path state final answer}, kernel.openScript path state = (answer, final) →
    drawn state [] [] final
  readScript : ∀ {script state final answer}, kernel.readScript script state = (answer, final) →
    drawn state (LineReader.Intake.ofRead answer) [] final
  closeScript : ∀ script state, drawn state [] [] (kernel.closeScript script state)
  await : ∀ {state final answer}, kernel.await state = (answer, final) →
    drawn state [] (LineReader.Intake.ofWait answer) final
  read : ∀ {state final answer}, kernel.read state = (answer, final) →
    drawn state [] (LineReader.Intake.ofRead answer) final
  takeAlarm : ∀ state, (kernel.takeAlarm state).1 = false
  takeQuits : ∀ state, (kernel.takeQuits state).1 = 0
  takeInterrupt : ∀ state, (kernel.takeInterrupt state).1 = false

namespace Kernel.Attends

open LineReader (Intake)

variable {kernel : Kernel σ} {drawn : σ → List Intake → List Intake → σ → Prop}

/-- What is taken in of the input alone. -/
theorem draws (hattends : kernel.Attends drawn) :
    kernel.Draws fun state taken next => drawn state [] taken next where
  within := hattends.within
  trans hfront hback := hattends.trans hfront hback
  await := hattends.await
  read := hattends.read
  takeAlarm := hattends.takeAlarm
  takeQuits := hattends.takeQuits
  takeInterrupt := hattends.takeInterrupt

theorem behind (hattends : kernel.Attends drawn) {first second third : σ} {taken : List Intake}
    (hfront : drawn first taken [] second) (hback : drawn second [] [] third) :
    drawn first taken [] third := by
  have htaken := hattends.trans hfront hback
  rwa [List.append_nil] at htaken

theorem ahead (hattends : kernel.Attends drawn) {first second third : σ} {taken : List Intake}
    (hfront : drawn first [] [] second) (hback : drawn second taken [] third) :
    drawn first taken [] third :=
  hattends.trans hfront hback

end Kernel.Attends

section Attends

open LineReader (Intake Yields cut endedPieces_tail pieces_nil splitLine_eq_none
  splitLine_eq_some yields_line yields_tail)

variable {kernel : Kernel σ} {drawn : σ → List Intake → List Intake → σ → Prop}

/-- A line that is read tells what has been taken in for it. -/
theorem Script.tells_nextBytes (hattends : kernel.Attends drawn) (script : Descriptor)
    (limit : Nat) (pending : Bytes) (state : σ) {answer : Except Errno (Option Bytes)}
    {after : Bytes} {final : σ}
    (hnext : nextBytes (kernel.readScript script) limit pending state =
      some (answer, after, final)) :
    ∃ taken, drawn state taken [] final ∧ Tells pending taken after (decode answer) := by
  fun_induction nextBytes (kernel.readScript script) limit pending state with
  | case1 => cases hnext
  | case2 limit pending state line rest hsplit =>
      obtain ⟨hpending, hnewline⟩ := splitLine_eq_some hsplit
      have hyields : Yields pending [] rest [⟨line, true⟩] := by
        rw [hpending]
        exact yields_line rest hnewline
      cases hnext
      exact ⟨[], hattends.within.refl _, tells_decode hyields⟩
  | case3 limit pending state hsplit read hread =>
      have hclosed := hattends.readScript hread
      by_cases hempty : pending = []
      · rw [hempty] at hnext
        cases hnext
        refine ⟨[.closed], hclosed, .closed rfl ?_⟩
        rw [hempty, cut, pieces_nil]
        rfl
      · have hyields := yields_tail (splitLine_eq_none hsplit) hempty
        rw [if_neg (by simpa using hempty)] at hnext
        cases hnext
        exact ⟨[.closed], hclosed, tells_decode hyields⟩
  | case4 limit pending state hsplit bytes read hnonempty hread ih =>
      obtain ⟨taken, hdrawn, htells⟩ := ih hnext
      have hchunk := hattends.readScript hread
      rw [Intake.ofRead_chunk hnonempty] at hchunk
      exact ⟨.chunk bytes :: taken, hattends.trans hchunk hdrawn, htells.chunk⟩
  | case5 limit pending state hsplit read hread ih =>
      obtain ⟨taken, hdrawn, htells⟩ := ih hnext
      exact ⟨taken, hattends.ahead (hattends.readScript hread) hdrawn, htells⟩
  | case6 limit pending state hsplit errno read hother hread =>
      have hfailed := hattends.readScript hread
      rw [Intake.ofRead_error hother] at hfailed
      cases hnext
      exact ⟨[.failed], hfailed, .failed rfl (endedPieces_tail (splitLine_eq_none hsplit))⟩

theorem Script.tells_nextRead (hattends : kernel.Attends drawn) {script : Descriptor}
    {limit : Nat} {pending after : Bytes} {state final : σ}
    {answer : Except StreamFailure (Option String)}
    (hnext : nextRead (kernel.readScript script) limit pending state =
      some (answer, after, final)) :
    ∃ taken, drawn state taken [] final ∧ Tells pending taken after answer := by
  obtain ⟨⟨bytes, kept, read⟩, hbytes, hresult⟩ := Option.map_eq_some_iff.mp hnext
  cases hresult
  exact tells_nextBytes hattends script limit pending state hbytes

/-- A script that is read hands its lines to the session before the next is read, up to the
first that is not text; and if none of them ends the session, the reading has ended. -/
theorem Shell.feeds_sourceScript (hattends : kernel.Attends drawn) {name : Bytes}
    {script : Descriptor} {limit : Nat} (turns : Nat) (pending : Bytes) (session : Session)
    (state : σ) {code : Option Int} {next : Session} {final : σ}
    (hsource : sourceFrom kernel name (Script.nextRead (kernel.readScript script) limit) turns
      pending session state = some (code, next, final)) :
    ∃ taken, drawn state taken [] final ∧
      Feeds kernel (readable ((cut pending taken).map Script.text?)) session state code next final ∧
      (code = none → Script.Finishes taken ((cut pending taken).map Script.text?)) := by
  fun_induction sourceFrom kernel name (Script.nextRead (kernel.readScript script) limit) turns
    pending session state with
  | case1 => cases hsource
  | case2 => cases hsource
  | case3 turns pending session state kept read hnext =>
      obtain ⟨taken, hdrawn, htells⟩ := Script.tells_nextRead hattends hnext
      cases htells with
      | closed hlast hnothing =>
          cases hsource
          refine ⟨taken, hdrawn, ?_, fun _ => .closed hlast⟩
          rw [hnothing]
          exact .finished (Interlude.nothing.scripts hnext)
  | case4 turns pending session state failure kept read hnext message =>
      obtain ⟨taken, hdrawn, htells⟩ := Script.tells_nextRead hattends hnext
      obtain ⟨reported, hcomplain, hresult⟩ := Option.map_eq_some_iff.mp hsource
      have hbehind := hattends.behind hdrawn (hattends.within.complained hcomplain)
      have hinterlude : Interlude kernel session state session reported :=
        (Interlude.nothing.scripts hnext).complains hcomplain
      cases hresult
      cases htells with
      | undecodable hyields htext =>
          have hlines := hyields.cut_eq
          refine ⟨taken, hbehind, ?_, fun _ => .undecodable ?_⟩
          · rw [hlines, List.map_append, List.map_singleton, htext]
            exact .finished hinterlude
          · simp [hlines, htext]
      | failed hlast hnothing =>
          refine ⟨taken, hbehind, ?_, fun _ => .failed hlast⟩
          rw [hnothing]
          exact .finished hinterlude
  | case5 => cases hsource
  | case6 turns pending session state line kept read hnext code ended left hline =>
      obtain ⟨taken, hdrawn, htells⟩ := Script.tells_nextRead hattends hnext
      cases htells with
      | line hyields htext =>
          cases hsource
          refine ⟨taken, hattends.behind hdrawn (hattends.within.processLine line _ read hline),
            ?_, nofun⟩
          rw [hyields.cut_eq, List.map_append, List.map_singleton, htext]
          exact .ends _ (Interlude.nothing.scripts hnext) hline
  | case7 turns pending session state line kept read hnext status given left hline ih =>
      obtain ⟨taken, hdrawn, htells⟩ := Script.tells_nextRead hattends hnext
      cases htells with
      | line hyields htext =>
          obtain ⟨later, hlater, hfeeds, hfinishes⟩ := ih hsource
          have hleft := hattends.within.processLine line _ read hline
          have hlines : (cut pending (taken ++ later)).map Script.text? =
              some line :: (cut kept later).map Script.text? := by
            rw [hyields, List.map_append, List.map_singleton, htext]
            rfl
          refine ⟨taken ++ later, hattends.trans hdrawn (hattends.ahead hleft hlater), ?_, ?_⟩
          · rw [hlines]
            exact .goesOn (Interlude.nothing.scripts hnext) hline hfeeds
          · rw [hlines]
            exact fun hnone => (hfinishes hnone).cons taken _

end Attends

end JobShell
