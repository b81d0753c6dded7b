import JobShell.Shell
import JobShell.Proofs.LineReader.Streaming
import JobShell.Proofs.Session.Frame

/-!
# Which lines a session is given

A script and a standard input are handed to a session line by line, up to a line that
ends the session.  Of a script these are the lines before the first that is not text, of
an input those that are text of whatever the shell takes in, however it arrives and
whatever children end meanwhile.  Where nobody else reads from an input, they are its
lines.
-/

namespace JobShell

variable {σ : Type}

namespace Shell

/-- What happens before, between and behind lines.  Apart from prompts, what is printed can be
written. -/
inductive Interlude (kernel : Kernel σ) (session : Session) (state : σ) :
    Session → σ → Prop where
  | nothing : Interlude kernel session state session state
  | serves {next served : Session} {final after : σ} {serviced : Serviced}
      (hearlier : Interlude kernel session state next final)
      (hserve : next.serviceSignals kernel final = (serviced, served, after)) :
      Interlude kernel session state served after
  | reports {next reported : Session} {final after : σ}
      (hearlier : Interlude kernel session state next final)
      (hreport : Kernel.written (next.printFinishedJobs kernel final) = some (reported, after)) :
      Interlude kernel session state reported after
  | prints {next : Session} {final said : σ} {text : String}
      (hearlier : Interlude kernel session state next final)
      (hsay : Kernel.written (kernel.say text final) = some said) :
      Interlude kernel session state next said
  | prompts {next : Session} {final : σ}
      (hearlier : Interlude kernel session state next final) :
      Interlude kernel session state next (Session.printPrompt kernel final)
  | complains {next : Session} {final reported : σ} {text : String}
      (hearlier : Interlude kernel session state next final)
      (hcomplain : Kernel.written (kernel.complain text final) = some reported) :
      Interlude kernel session state next reported
  | reads {next : Session} {final read : σ} {limit : Nat} {reader after : LineReader}
      {answer : Except Errno LineReader.Event}
      (hearlier : Interlude kernel session state next final)
      (hread : reader.next kernel.toLineSource limit final = some (answer, after, read)) :
      Interlude kernel session state next read
  | opens {next : Session} {final opened : σ} {path : Bytes} {answer : Except Errno Descriptor}
      (hearlier : Interlude kernel session state next final)
      (hopen : kernel.openScript path final = (answer, opened)) :
      Interlude kernel session state next opened
  | scripts {next : Session} {final read : σ} {script : Descriptor} {limit : Nat}
      {pending kept : Bytes} {answer : Except StreamFailure (Option String)}
      (hearlier : Interlude kernel session state next final)
      (hread : Script.nextRead (kernel.readScript script) limit pending final =
        some (answer, kept, read)) :
      Interlude kernel session state next read
  | closes {next : Session} {final : σ} (hearlier : Interlude kernel session state next final)
      (script : Descriptor) :
      Interlude kernel session state next (kernel.closeScript script final)

theorem Interlude.promptIf {kernel : Kernel σ} {session next : Session} {state final : σ}
    (hearlier : Interlude kernel session state next final) (interactive : Bool) :
    Interlude kernel session state next (promptIf kernel interactive final) := by
  cases interactive with
  | false => exact hearlier
  | true => exact hearlier.prompts

theorem Interlude.newlineIf {kernel : Kernel σ} {session next : Session} {state final shown : σ}
    {interactive : Bool} (hearlier : Interlude kernel session state next final)
    (hnewline : newlineIf kernel interactive final = some shown) :
    Interlude kernel session state next shown := by
  cases interactive with
  | false =>
      obtain rfl := Option.some_inj.mp hnewline
      exact hearlier
  | true => exact hearlier.prints hnewline

/-- Lines are handed to a session one after the other, up to one that ends it with a
code. -/
inductive Feeds (kernel : Kernel σ) :
    List String → Session → σ → Option Int → Session → σ → Prop where
  | finished {session next : Session} {state final : σ}
      (hinterlude : Interlude kernel session state next final) :
      Feeds kernel [] session state none next final
  | ends {session given next : Session} {state handed final : σ} {line : String} {code : Int}
      (rest : List String) (hinterlude : Interlude kernel session state given handed)
      (hline : given.processLine kernel line handed = some (.exit code, next, final)) :
      Feeds kernel (line :: rest) session state (some code) next final
  | goesOn {session given taken next : Session} {state handed left final : σ} {line : String}
      {rest : List String} {status : Int} {code : Option Int}
      (hinterlude : Interlude kernel session state given handed)
      (hline : given.processLine kernel line handed = some (.proceed status, taken, left))
      (hrest : Feeds kernel rest taken left code next final) :
      Feeds kernel (line :: rest) session state code next final

/-! ## Scripts -/

/-- The lines of a script before the first that is not text. -/
def readable (lines : List (Option String)) : List String :=
  (lines.takeWhile Option.isSome).reduceOption

theorem readable_cons (line : String) (rest : List (Option String)) :
    readable (some line :: rest) = line :: readable rest := rfl

theorem readable_some (lines : List String) : readable (lines.map some) = lines := by
  induction lines with
  | nil => rfl
  | cons line rest ih => rw [List.map_cons, readable_cons, ih]

theorem feeds_sourceGiven {kernel : Kernel σ} {name : Bytes} (turns : Nat)
    (lines : List (Option String)) (session : Session) (state : σ) {code : Option Int}
    {next : Session} {final : σ}
    (hsource : sourceFrom kernel name Script.nextGiven turns lines session state =
      some (code, next, final)) :
    Feeds kernel (readable lines) session state code next final := by
  induction turns generalizing lines session state with
  | zero => cases hsource
  | succ turns ih =>
      rcases lines with - | ⟨line | line, rest⟩
      · cases hsource
        exact .finished .nothing
      · obtain ⟨reported, hcomplain, hresult⟩ := Option.map_eq_some_iff.mp hsource
        cases hresult
        exact .finished (Interlude.nothing.complains hcomplain)
      · simp only [sourceFrom, Script.nextGiven] at hsource
        cases hline : session.processLine kernel line state with
        | none => simp [hline] at hsource
        | some result =>
            rw [hline] at hsource
            obtain ⟨status | code, taken, left⟩ := result
            · exact .goesOn .nothing hline (ih rest taken left hsource)
            · cases hsource
              exact .ends _ .nothing hline

theorem feeds_source (kernel : Kernel σ) (name : Bytes) (lines : List (Option String))
    (session : Session) (state : σ) {code : Option Int} {next : Session} {final : σ}
    (hsource : source kernel name lines session state = some (code, next, final)) :
    Feeds kernel (readable lines) session state code next final :=
  feeds_sourceGiven _ lines session state hsource

end Shell

/-- A kernel in which nothing happens: the input and all scripts are empty, and every process
ends at once. -/
def Kernel.still (σ : Type) : Kernel σ where
  patience := 100
  account := { name := none, home := none, isSuperuser := false }
  enter _ state := (.ok (), state)
  directory _ := .error .noEntry
  print _ state := (.ok (), state)
  complain _ state := (.ok (), state)
  openTarget _ _ state := (.ok (), state)
  openScript _ state := (.ok 3, state)
  readScript _ state := (.ok [], state)
  closeScript _ state := state
  openPipe state := (.ok { readEnd := 3, writeEnd := 4 }, state)
  closePipes _ state := state
  blockSignals state := (.ok (), state)
  unblockSignals state := state
  spawn _ _ state := (.ok 2, state)
  terminateGroup _ state := state
  waitFor _ state := (.ok (.exited 0), state)
  readWakeups state := (0, state)
  takeAlarm state := (false, state)
  takeQuits state := (0, state)
  takeInterrupt state := (false, state)
  await state := (.ok false, state)
  read state := (.ok [], state)
  poll _ state := (.ok (.exited 0), state)
  interruptGroup _ state := state
  sleep state := state
  setAlarm _ state := state
  cancelAlarm state := state

/-! ## Standard input -/

namespace LineReader

/-- What waiting for input and reading it comes to, unless it is interrupted. -/
inductive Intake where
  | chunk (bytes : Bytes)
  | closed
  | failed
  deriving DecidableEq, Repr

namespace Intake

def ofWait : Except Errno Bool → List Intake
  | .ok _ | .error .interrupted => []
  | .error _ => [.failed]

def ofRead : Except Errno Bytes → List Intake
  | .ok [] => [.closed]
  | .ok bytes => [.chunk bytes]
  | .error .interrupted => []
  | .error _ => [.failed]

theorem ofWait_error {errno : Errno} (hother : errno ≠ .interrupted) :
    ofWait (.error errno) = [.failed] := by
  rw [ofWait]
  exact hother

theorem ofRead_error {errno : Errno} (hother : errno ≠ .interrupted) :
    ofRead (.error errno) = [.failed] := by
  rw [ofRead]
  exact hother

theorem ofRead_chunk {bytes : Bytes} (hnonempty : bytes ≠ []) :
    ofRead (.ok bytes) = [.chunk bytes] := by
  rw [ofRead]
  exact hnonempty

end Intake

/-- The pieces that are text; the others are left out. -/
def texts (told : List Piece) : List String :=
  told.filterMap fun piece => Text.decode? piece.bytes

theorem texts_append (told others : List Piece) :
    texts (told ++ others) = texts told ++ texts others :=
  List.filterMap_append

/-- The lines of a stream; those that are not text are left out. -/
def lines (stream : Bytes) : List String :=
  texts (pieces stream)

/-- The pieces of a stream that a newline stands behind. -/
def endedPieces (stream : Bytes) : List Piece :=
  (pieces stream).filter Piece.ended

/-- The pieces of what is taken in behind bytes that are pending.  What stands before the
end of the input is a piece, and what stands before a failure is none. -/
def cut (pending : Bytes) : List Intake → List Piece
  | [] | .failed :: _ => endedPieces pending
  | .chunk bytes :: rest => cut (pending ++ bytes) rest
  | .closed :: rest => pieces pending ++ cut [] rest

/-- The lines that a reader delivers of what is taken in. -/
def delivered (taken : List Intake) : List String :=
  texts (cut [] taken)

theorem endedPieces_line {line : Bytes} (rest : Bytes) (hnewline : Text.newline ∉ line) :
    endedPieces (line ++ Text.newline :: rest) = ⟨line, true⟩ :: endedPieces rest := by
  rw [endedPieces, pieces_line line rest hnewline, List.filter_cons_of_pos rfl, endedPieces]

theorem endedPieces_tail {tail : Bytes} (hnewline : Text.newline ∉ tail) :
    endedPieces tail = [] := by
  by_cases hempty : tail = []
  · rw [hempty, endedPieces, pieces_nil]
    rfl
  · rw [endedPieces, pieces_tail tail hnewline hempty]
    rfl

/-- What is taken in behind `pending` gives pieces, and `after` is pending then. -/
def Yields (pending : Bytes) (taken : List Intake) (after : Bytes) (told : List Piece) : Prop :=
  ∀ later, cut pending (taken ++ later) = told ++ cut after later

theorem Yields.trans {pending middle after : Bytes} {front back : List Intake}
    {told others : List Piece} (hfront : Yields pending front middle told)
    (hback : Yields middle back after others) :
    Yields pending (front ++ back) after (told ++ others) := by
  intro later
  rw [List.append_assoc, hfront, hback, List.append_assoc]

theorem Yields.cut_eq {pending after : Bytes} {taken : List Intake} {told : List Piece}
    (hyields : Yields pending taken after told) : cut pending taken = told ++ cut after [] := by
  rw [← hyields, List.append_nil]

theorem yields_nothing (pending : Bytes) : Yields pending [] pending [] :=
  fun _ => rfl

theorem Yields.chunk {pending bytes after : Bytes} {taken : List Intake} {told : List Piece}
    (hyields : Yields (pending ++ bytes) taken after told) :
    Yields pending (.chunk bytes :: taken) after told :=
  hyields

theorem yields_line {line : Bytes} (rest : Bytes) (hnewline : Text.newline ∉ line) :
    Yields (line ++ Text.newline :: rest) [] rest [⟨line, true⟩] := by
  intro later
  rw [List.nil_append]
  induction later generalizing rest with
  | nil => exact endedPieces_line rest hnewline
  | cons intake later ih =>
      cases intake with
      | chunk bytes =>
          rw [cut, cut, List.append_assoc, List.cons_append]
          exact ih (rest ++ bytes)
      | closed => rw [cut, cut, pieces_line line rest hnewline, List.cons_append,
          List.singleton_append]
      | failed => exact endedPieces_line rest hnewline

theorem yields_tail {tail : Bytes} (hnewline : Text.newline ∉ tail) (hnonempty : tail ≠ []) :
    Yields tail [.closed] [] [⟨tail, false⟩] := by
  intro later
  rw [List.singleton_append, cut, pieces_tail tail hnewline hnonempty]

/-- How an input ends, and the code for it. -/
inductive Ends (taken : List Intake) : Int → Prop where
  | closed (hlast : taken.getLast? = some .closed) : Ends taken 0
  | failed (hlast : taken.getLast? = some .failed) : Ends taken 1

theorem Ends.append {taken : List Intake} {code : Int} (earlier : List Intake)
    (hends : Ends taken code) : Ends (earlier ++ taken) code := by
  cases hends with
  | closed hlast => exact .closed (by rw [List.getLast?_append, hlast]; rfl)
  | failed hlast => exact .failed (by rw [List.getLast?_append, hlast]; rfl)

/-- What a call tells of what has been taken in. -/
inductive Answers (pending : Bytes) (taken : List Intake) (after : Bytes) :
    Except Errno Event → Prop where
  | line {piece : Piece} {text : String} (hyields : Yields pending taken after [piece])
      (htext : Text.decode? piece.bytes = some text) :
      Answers pending taken after (.ok (.line text))
  | invalid {piece : Piece} {bytes : Bytes} (hyields : Yields pending taken after [piece])
      (htext : Text.decode? piece.bytes = none) :
      Answers pending taken after (.ok (.invalid bytes))
  | interrupted (hyields : Yields pending taken after []) :
      Answers pending taken after (.ok .interrupted)
  | ended (hends : Ends taken 0) (hnothing : cut pending taken = []) :
      Answers pending taken after (.ok .endOfInput)
  | failed {errno : Errno} (hends : Ends taken 1) (hnothing : cut pending taken = []) :
      Answers pending taken after (.error errno)

theorem answers_ofBytes {pending after : Bytes} {taken : List Intake} {piece : Piece}
    (hyields : Yields pending taken after [piece]) :
    Answers pending taken after (.ok (.ofBytes piece.bytes)) := by
  rw [Event.ofBytes]
  cases hdecode : Text.decode? piece.bytes with
  | some text => exact .line hyields hdecode
  | none => exact .invalid hyields hdecode

theorem Answers.chunk {pending bytes after : Bytes} {taken : List Intake}
    {answer : Except Errno Event} (hanswers : Answers (pending ++ bytes) taken after answer) :
    Answers pending (.chunk bytes :: taken) after answer := by
  cases hanswers with
  | line hyields htext => exact .line hyields.chunk htext
  | invalid hyields htext => exact .invalid hyields.chunk htext
  | interrupted hyields => exact .interrupted hyields.chunk
  | ended hends hnothing => exact .ended (hends.append [.chunk bytes]) hnothing
  | failed hends hnothing => exact .failed (hends.append [.chunk bytes]) hnothing

end LineReader

/-- What has been taken in between two states: the answers to the waiting for input and the
reading of it, and to nothing else.  The only signals are those of children. -/
structure Kernel.Draws (kernel : Kernel σ)
    (drawn : σ → List LineReader.Intake → σ → Prop) : Prop where
  within : kernel.Within fun state next => drawn state [] next
  trans : ∀ {first second third front back}, drawn first front second →
    drawn second back third → drawn first (front ++ back) third
  await : ∀ {state final answer}, kernel.await state = (answer, final) →
    drawn state (LineReader.Intake.ofWait answer) final
  read : ∀ {state final answer}, kernel.read state = (answer, final) →
    drawn state (LineReader.Intake.ofRead answer) final
  takeAlarm : ∀ state, (kernel.takeAlarm state).1 = false
  takeQuits : ∀ state, (kernel.takeQuits state).1 = 0
  takeInterrupt : ∀ state, (kernel.takeInterrupt state).1 = false

section Draws

open LineReader (Intake Ends Piece Yields cut delivered texts texts_append)

variable {kernel : Kernel σ} {drawn : σ → List Intake → σ → Prop}

theorem Kernel.Draws.behind (hdraws : kernel.Draws drawn) {first second third : σ}
    {taken : List Intake} (hfront : drawn first taken second) (hback : drawn second [] third) :
    drawn first taken third := by
  have htaken := hdraws.trans hfront hback
  rwa [List.append_nil] at htaken

theorem Kernel.Draws.ahead (hdraws : kernel.Draws drawn) {first second third : σ}
    {taken : List Intake} (hfront : drawn first [] second) (hback : drawn second taken third) :
    drawn first taken third :=
  hdraws.trans hfront hback

/-- A call that has an answer tells what it has taken in. -/
theorem LineReader.answers_next (hdraws : kernel.Draws drawn) (limit : Nat) (reader : LineReader)
    (state : σ) {answer : Except Errno Event} {after : LineReader} {final : σ}
    (hnext : reader.next kernel.toLineSource limit state = some (answer, after, final)) :
    ∃ taken, drawn state taken final ∧ Answers reader.pending taken after.pending answer := by
  fun_induction next kernel.toLineSource limit reader state with
  | case1 => cases hnext
  | case2 limit reader state line rest hsplit =>
      obtain ⟨hpending, hnewline⟩ := splitLine_eq_some hsplit
      cases hnext
      have hyields : Yields reader.pending [] rest [⟨line, true⟩] := by
        rw [hpending]
        exact yields_line rest hnewline
      exact ⟨[], hdraws.within.refl _, answers_ofBytes hyields⟩
  | case3 limit reader state hsplit waited hawait =>
      cases hnext
      exact ⟨[], hdraws.await hawait, .interrupted (yields_nothing _)⟩
  | case4 limit reader state hsplit waited hawait =>
      cases hnext
      exact ⟨[], hdraws.await hawait, .interrupted (yields_nothing _)⟩
  | case5 limit reader state hsplit errno waited hother hawait =>
      have hfailed := hdraws.await hawait
      rw [Intake.ofWait_error hother] at hfailed
      cases hnext
      exact ⟨[.failed], hfailed,
        .failed (.failed rfl) (endedPieces_tail (splitLine_eq_none hsplit))⟩
  | case6 limit reader state hsplit waited hawait read hread hpending =>
      have hclosed := hdraws.trans (hdraws.await hawait) (hdraws.read hread)
      cases hnext
      rw [List.isEmpty_iff] at hpending
      refine ⟨[.closed], hclosed, .ended (.closed rfl) ?_⟩
      rw [hpending, cut, pieces_nil]
      rfl
  | case7 limit reader state hsplit waited hawait read hread hpending =>
      have hclosed := hdraws.trans (hdraws.await hawait) (hdraws.read hread)
      cases hnext
      rw [List.isEmpty_iff] at hpending
      exact ⟨[.closed], hclosed,
        answers_ofBytes (yields_tail (splitLine_eq_none hsplit) hpending)⟩
  | case8 limit reader state hsplit waited hawait bytes read hnonempty hread ih =>
      obtain ⟨taken, hdrawn, hanswers⟩ := ih hnext
      have hchunk := hdraws.trans (hdraws.await hawait) (hdraws.read hread)
      rw [Intake.ofRead_chunk hnonempty] at hchunk
      exact ⟨.chunk bytes :: taken, hdraws.trans hchunk hdrawn, hanswers.chunk⟩
  | case9 limit reader state hsplit waited hawait read hread =>
      cases hnext
      exact ⟨[], hdraws.trans (hdraws.await hawait) (hdraws.read hread),
        .interrupted (yields_nothing _)⟩
  | case10 limit reader state hsplit waited hawait errno read hother hread =>
      have hfailed := hdraws.trans (hdraws.await hawait) (hdraws.read hread)
      rw [Intake.ofRead_error hother] at hfailed
      cases hnext
      exact ⟨[.failed], hfailed,
        .failed (.failed rfl) (endedPieces_tail (splitLine_eq_none hsplit))⟩

namespace Shell

/-- Without signals there is nothing to serve. -/
theorem serviceSignals_quiet (hdraws : kernel.Draws drawn) (session : Session) (state : σ) :
    ∃ final, session.serviceSignals kernel state = (.quiet, session, final) ∧
      drawn state [] final := by
  have hwithin := hdraws.within.serviceSignals session state
  have hnothing : (kernel.takePending kernel.patience state).1 = [] := by
    simp [Collector.takePending, hdraws.takeAlarm, hdraws.takeQuits, hdraws.takeInterrupt,
      Collector.deliveries]
  have hquiet : session.serviceSignals kernel state =
      (.quiet, session, (kernel.takePending kernel.patience state).2) := by
    simp only [Session.serviceSignals, hnothing, Session.serveAll]
  rw [hquiet] at hwithin
  exact ⟨_, hquiet, hwithin⟩

theorem drawn_promptIf (hdraws : kernel.Draws drawn) (interactive : Bool) (state : σ) :
    drawn state [] (promptIf kernel interactive state) := by
  cases interactive with
  | false => exact hdraws.within.refl state
  | true => exact hdraws.within.print _ state

theorem drawn_newlineIf (hdraws : kernel.Draws drawn) {interactive : Bool} {state shown : σ}
    (hnewline : newlineIf kernel interactive state = some shown) : drawn state [] shown := by
  cases interactive with
  | false =>
      obtain rfl := Option.some_inj.mp hnewline
      exact hdraws.within.refl state
  | true => exact hdraws.within.said hnewline

/-- What waiting for a line comes to, and what it has taken in. -/
inductive Awaits (pending : Bytes) (taken : List Intake) (after : Bytes) : Arrival → Prop where
  | line {told : List Piece} {text : String} (hyields : Yields pending taken after told)
      (htexts : texts told = [text]) : Awaits pending taken after (.line text)
  | finish {code : Int} (hends : Ends taken code) (hnothing : texts (cut pending taken) = []) :
      Awaits pending taken after (.finish code)

theorem Awaits.later {pending middle after : Bytes} {front back : List Intake} {told : List Piece}
    {arrival : Arrival} (hfront : Yields pending front middle told) (hnone : texts told = [])
    (hawaits : Awaits middle back after arrival) :
    Awaits pending (front ++ back) after arrival := by
  cases hawaits with
  | line hyields htexts =>
      refine .line (hfront.trans hyields) ?_
      rw [texts_append, hnone, htexts, List.nil_append]
  | finish hends hnothing =>
      refine .finish (hends.append front) ?_
      rw [hfront, texts_append, hnone, hnothing, List.nil_append]

/-- Waiting for a line gives the next one that is delivered, or ends the session at the end of
the input or at a failure. -/
theorem awaitLine_next (hdraws : kernel.Draws drawn) {first : Session} {start : σ}
    (turns : Nat) (reader : LineReader) (session : Session) (state : σ)
    (hearlier : Interlude kernel first start session state)
    {arrival : Arrival} {after : LineReader} {next : Session} {final : σ}
    (hawait : awaitLine kernel turns reader session state = some (arrival, after, next, final)) :
    Interlude kernel first start next final ∧
      ∃ taken, drawn state taken final ∧ Awaits reader.pending taken after.pending arrival := by
  fun_induction awaitLine kernel turns reader session state with
  | case1 => cases hawait
  | case2 => cases hawait
  | case3 turns reader session state text kept read hnext =>
      obtain ⟨taken, hdrawn, hanswers⟩ := LineReader.answers_next hdraws _ _ _ hnext
      cases hanswers with
      | line hyields htext =>
          cases hawait
          exact ⟨hearlier.reads hnext, taken, hdrawn, .line hyields (by simp [texts, htext])⟩
  | case4 => cases hawait
  | case5 turns reader session state interactive bytes kept read hnext message reported
      hcomplain ih =>
      obtain ⟨taken, hdrawn, hanswers⟩ := LineReader.answers_next hdraws _ _ _ hnext
      cases hanswers with
      | invalid hyields htext =>
          obtain ⟨hinterlude, later, hlater, hawaits⟩ :=
            ih (((hearlier.reads hnext).complains hcomplain).promptIf interactive) hawait
          have hprompted : drawn read [] (promptIf kernel interactive reported) :=
            hdraws.trans (hdraws.within.complained hcomplain) (drawn_promptIf hdraws _ reported)
          exact ⟨hinterlude, taken ++ later, hdraws.trans hdrawn (hdraws.ahead hprompted hlater),
            hawaits.later hyields (by simp [texts, htext])⟩
  | case6 turns reader session state interactive kept read hnext =>
      obtain ⟨taken, hdrawn, hanswers⟩ := LineReader.answers_next hdraws _ _ _ hnext
      obtain ⟨shown, hnewline, hresult⟩ := Option.map_eq_some_iff.mp hawait
      cases hanswers with
      | ended hends hnothing =>
          cases hresult
          refine ⟨(hearlier.reads hnext).newlineIf hnewline, taken,
            hdraws.behind hdrawn (drawn_newlineIf hdraws hnewline), .finish hends ?_⟩
          rw [hnothing]
          rfl
  | case7 turns reader session state kept read hnext code served answered hserve =>
      obtain ⟨_, hquiet, -⟩ := serviceSignals_quiet hdraws session read
      rw [hserve] at hquiet
      cases hquiet
  | case8 => cases hawait
  | case9 turns reader session state interactive kept read hnext served answered hserve =>
      obtain ⟨_, hquiet, -⟩ := serviceSignals_quiet hdraws session read
      rw [hserve] at hquiet
      cases hquiet
  | case10 turns reader session state kept read hnext served answered hserve ih =>
      obtain ⟨taken, hdrawn, hanswers⟩ := LineReader.answers_next hdraws _ _ _ hnext
      obtain ⟨_, hquiet, hserved⟩ := serviceSignals_quiet hdraws session read
      cases hanswers with
      | interrupted hyields =>
          obtain ⟨hinterlude, later, hlater, hawaits⟩ :=
            ih ((hearlier.reads hnext).serves hserve) hawait
          rw [hserve] at hquiet
          cases hquiet
          exact ⟨hinterlude, taken ++ later, hdraws.trans hdrawn (hdraws.ahead hserved hlater),
            hawaits.later hyields rfl⟩
  | case11 turns reader session state errno kept read hnext message =>
      obtain ⟨taken, hdrawn, hanswers⟩ := LineReader.answers_next hdraws _ _ _ hnext
      obtain ⟨reported, hcomplain, hresult⟩ := Option.map_eq_some_iff.mp hawait
      cases hanswers with
      | failed hends hnothing =>
          cases hresult
          refine ⟨(hearlier.reads hnext).complains hcomplain, taken,
            hdraws.behind hdrawn (hdraws.within.complained hcomplain), .finish hends ?_⟩
          rw [hnothing]
          rfl

/-- What comes before a line takes nothing in. -/
theorem interlude_before_line (hdraws : kernel.Draws drawn)
    {session known reported : Session} {state served told : σ} {serviced : Serviced}
    (hserve : session.serviceSignals kernel state = (serviced, known, served))
    (hreport : Kernel.written (known.printFinishedJobs kernel served) = some (reported, told))
    (interactive : Bool) :
    Interlude kernel session state reported (promptIf kernel interactive told) ∧
      drawn state [] (promptIf kernel interactive told) := by
  have hserved := hdraws.within.serviceSignals session state
  rw [hserve] at hserved
  have hreported := hdraws.within.reported hreport
  refine ⟨((Interlude.nothing.serves hserve).reports hreport).promptIf interactive, ?_⟩
  exact hdraws.ahead hserved (hdraws.ahead hreported (drawn_promptIf hdraws _ told))

/-- An input hands the lines that it delivers to the session, and the code is that of the line
that ends it or tells how the input has ended. -/
theorem feeds_runInput (hdraws : kernel.Draws drawn) (turns : Nat) (reader : LineReader)
    (session : Session) (state : σ) {code : Int} {next : Session} {final : σ}
    (hrun : runInput kernel turns reader session state = some (code, next, final)) :
    ∃ taken ended, drawn state taken final ∧
      Feeds kernel (texts (cut reader.pending taken)) session state ended next final ∧
      (ended = some code ∨ ended = none ∧ Ends taken code) := by
  fun_induction runInput kernel turns reader session state with
  | case1 => cases hrun
  | case2 turns reader session state code exited served hserve =>
      obtain ⟨_, hquiet, -⟩ := serviceSignals_quiet hdraws session state
      rw [hserve] at hquiet
      cases hquiet
  | case3 => cases hrun
  | case4 => cases hrun
  | case5 turns reader session state serviced known served _ hserve reported told hreport
      code kept awaited shown hawait =>
      obtain ⟨hinterlude, hbefore⟩ := interlude_before_line hdraws hserve hreport _
      obtain ⟨hinterlude, taken, hdrawn, hawaits⟩ := awaitLine_next hdraws _ _ _ _ hinterlude hawait
      cases hawaits with
      | finish hends hnothing =>
          cases hrun
          refine ⟨taken, none, hdraws.ahead hbefore hdrawn, ?_, .inr ⟨rfl, hends⟩⟩
          rw [hnothing]
          exact .finished hinterlude
  | case6 => cases hrun
  | case7 turns reader session state serviced known served _ hserve reported told hreport
      text kept awaited shown hawait code ended left hline =>
      obtain ⟨hinterlude, hbefore⟩ := interlude_before_line hdraws hserve hreport _
      obtain ⟨hinterlude, taken, hdrawn, hawaits⟩ := awaitLine_next hdraws _ _ _ _ hinterlude hawait
      cases hawaits with
      | line hyields htexts =>
          cases hrun
          have hfinal := hdraws.within.processLine text _ shown hline
          refine ⟨taken, _, hdraws.ahead hbefore (hdraws.behind hdrawn hfinal), ?_, .inl rfl⟩
          rw [hyields.cut_eq, texts_append, htexts]
          exact .ends _ hinterlude hline
  | case8 turns reader session state serviced known served _ hserve reported told hreport
      text kept awaited shown hawait status taken left hline ih =>
      obtain ⟨hinterlude, hbefore⟩ := interlude_before_line hdraws hserve hreport _
      obtain ⟨hinterlude, taken, hdrawn, hawaits⟩ := awaitLine_next hdraws _ _ _ _ hinterlude hawait
      cases hawaits with
      | line hyields htexts =>
          obtain ⟨later, ended, hlater, hfeeds, hcode⟩ := ih hrun
          have hleft := hdraws.within.processLine text _ shown hline
          refine ⟨taken ++ later, ended, ?_, ?_, hcode.imp_right (And.imp_right (.append taken))⟩
          · exact hdraws.ahead hbefore (hdraws.trans hdrawn (hdraws.ahead hleft hlater))
          · rw [hyields, texts_append, htexts]
            exact .goesOn hinterlude hline hfeeds

end Shell

end Draws

/-! ## Input that nobody else reads -/

/-- Nobody but the kernel's own reads takes from an input, which never fails, and the only
signals are those of children. -/
structure Kernel.Supplies (kernel : Kernel σ) (unread : σ → Bytes) : Prop where
  within : kernel.Within fun state next => unread next = unread state
  await : ∀ {state final answer}, kernel.await state = (answer, final) →
    unread final = unread state ∧ ((∃ woken, answer = .ok woken) ∨ answer = .error .interrupted)
  read : ∀ {state final answer}, kernel.read state = (answer, final) →
    answer = .error .interrupted ∧ unread final = unread state ∨
      ∃ chunk, answer = .ok chunk ∧ unread state = chunk ++ unread final ∧
        (chunk = [] → unread state = [])
  takeAlarm : ∀ state, (kernel.takeAlarm state).1 = false
  takeQuits : ∀ state, (kernel.takeQuits state).1 = 0
  takeInterrupt : ∀ state, (kernel.takeInterrupt state).1 = false

namespace LineReader

/-- A stream is one piece without an end, or a line before another stream. -/
theorem stream_induction {motive : Bytes → Prop}
    (tail : ∀ tail, Text.newline ∉ tail → motive tail)
    (line : ∀ line rest, Text.newline ∉ line → motive rest → motive (line ++ Text.newline :: rest))
    (stream : Bytes) : motive stream := by
  induction hlength : stream.length using Nat.strong_induction_on generalizing stream with
  | _ length ih =>
      cases hsplit : splitLine stream with
      | none => exact tail stream (splitLine_eq_none hsplit)
      | some parts =>
          obtain ⟨hstream, hnewline⟩ := splitLine_eq_some hsplit
          have hshorter : parts.2.length < length := by
            rw [← hlength, hstream, List.length_append, List.length_cons]
            omega
          rw [hstream]
          exact line _ _ hnewline (ih _ hshorter parts.2 rfl)

theorem exists_pieces_append (front back : Bytes) :
    ∃ rest, pieces (front ++ back) = endedPieces front ++ rest := by
  induction front using stream_induction with
  | tail tail hnewline =>
      rw [endedPieces_tail hnewline]
      exact ⟨_, rfl⟩
  | line line front hnewline ih =>
      obtain ⟨rest, hrest⟩ := ih
      rw [List.append_assoc, List.cons_append, pieces_line _ _ hnewline,
        endedPieces_line _ hnewline, hrest]
      exact ⟨rest, rfl⟩

theorem cut_chunks (pending : Bytes) (chunks : List Bytes) (later : List Intake) :
    cut pending (chunks.map .chunk ++ later) = cut (pending ++ chunks.flatten) later := by
  induction chunks generalizing pending with
  | nil => rw [List.flatten_nil, List.append_nil, List.map_nil, List.nil_append]
  | cons chunk chunks ih =>
      rw [List.map_cons, List.cons_append, cut, ih, List.flatten_cons, List.append_assoc]

theorem cut_closed (pending : Bytes) (count : Nat) :
    cut pending (List.replicate (count + 1) .closed) = pieces pending := by
  induction count generalizing pending with
  | zero => exact List.append_nil _
  | succ count ih =>
      rw [List.replicate_succ, cut, ih, pieces_nil]
      exact List.append_nil _

/-- What is taken of an input between two states: a part of it, or the whole rest and that the
input is closed. -/
inductive Supplied (unread : σ → Bytes) (state : σ) : List Intake → σ → Prop where
  | part {next : σ} {chunks : List Bytes} (hnonempty : [] ∉ chunks)
      (hunread : unread state = chunks.flatten ++ unread next) :
      Supplied unread state (chunks.map .chunk) next
  | whole {next : σ} {chunks : List Bytes} (count : Nat) (hnonempty : [] ∉ chunks)
      (hunread : unread state = chunks.flatten) (hnothing : unread next = []) :
      Supplied unread state (chunks.map .chunk ++ List.replicate (count + 1) .closed) next

variable {unread : σ → Bytes}

theorem Supplied.nothing {state next : σ} (hsame : unread next = unread state) :
    Supplied unread state [] next :=
  .part List.not_mem_nil hsame.symm

theorem eq_nil_of_flatten_eq_nil {chunks : List Bytes} (hnonempty : [] ∉ chunks)
    (hflatten : chunks.flatten = []) : chunks = [] := by
  cases chunks with
  | nil => rfl
  | cons chunk chunks =>
      rw [List.flatten_eq_nil_iff] at hflatten
      exact absurd (hflatten chunk List.mem_cons_self ▸ List.mem_cons_self) hnonempty

theorem Supplied.trans {first second third : σ} {front back : List Intake}
    (hfront : Supplied unread first front second) (hback : Supplied unread second back third) :
    Supplied unread first (front ++ back) third := by
  cases hfront with
  | part hfirst hunread =>
      cases hback with
      | part hsecond hrest =>
          rw [← List.map_append]
          refine .part (by simp [hfirst, hsecond]) ?_
          rw [hunread, hrest, List.flatten_append, List.append_assoc]
      | whole count hsecond hrest hnothing =>
          rw [← List.append_assoc, ← List.map_append]
          refine .whole count (by simp [hfirst, hsecond]) ?_ hnothing
          rw [hunread, hrest, List.flatten_append]
  | whole earlier hfirst hunread hnothing =>
      cases hback with
      | part hsecond hrest =>
          rw [hnothing] at hrest
          obtain ⟨hflatten, hthird⟩ := List.append_eq_nil_iff.mp hrest.symm
          rw [eq_nil_of_flatten_eq_nil hsecond hflatten, List.map_nil, List.append_nil]
          exact .whole earlier hfirst hunread hthird
      | whole count hsecond hrest hthird =>
          rw [hnothing] at hrest
          rw [eq_nil_of_flatten_eq_nil hsecond hrest.symm, List.map_nil, List.nil_append,
            List.append_assoc, ← List.replicate_add]
          exact .whole (earlier + 1 + count) hfirst hunread hthird

/-- What such an input delivers is the beginning of its lines, and all of them if it has
ended; it does not fail. -/
theorem Supplied.delivered_lines {state next : σ} {taken : List Intake}
    (hsupplied : Supplied unread state taken next) :
    (∃ rest, lines (unread state) = delivered taken ++ rest) ∧
      ∀ code, Ends taken code → code = 0 ∧ delivered taken = lines (unread state) := by
  cases hsupplied with
  | @part _ chunks hnonempty hunread =>
      have hcut := cut_chunks [] chunks []
      rw [List.append_nil, List.nil_append] at hcut
      obtain ⟨rest, hrest⟩ := exists_pieces_append chunks.flatten (unread next)
      rw [delivered, hcut, lines, hunread, hrest, texts_append]
      refine ⟨⟨texts rest, rfl⟩, ?_⟩
      rintro _ (hlast | hlast)
      · simpa using List.mem_of_getLast? hlast
      · simpa using List.mem_of_getLast? hlast
  | @whole _ chunks count hnonempty hunread hnothing =>
      rw [delivered, cut_chunks, cut_closed, List.nil_append, ← hunread]
      refine ⟨⟨[], (List.append_nil _).symm⟩, ?_⟩
      rintro _ (hlast | hlast)
      · exact ⟨rfl, rfl⟩
      · simpa using List.mem_of_getLast? hlast

end LineReader

theorem Kernel.Supplies.draws {kernel : Kernel σ} {unread : σ → Bytes}
    (hsupplies : kernel.Supplies unread) : kernel.Draws (LineReader.Supplied unread) where
  within := hsupplies.within.imp .nothing .trans
  trans := .trans
  await {state final answer} hawait := by
    obtain ⟨hsame, ⟨woken, rfl⟩ | rfl⟩ := hsupplies.await hawait
    · exact .nothing hsame
    · exact .nothing hsame
  read {state final answer} hread := by
    obtain ⟨rfl, hsame⟩ | ⟨chunk, rfl, hchunk, hempty⟩ := hsupplies.read hread
    · exact .nothing hsame
    · by_cases hclosed : chunk = []
      · have hnothing := hempty hclosed
        rw [hchunk, List.append_eq_nil_iff] at hnothing
        rw [hclosed]
        exact .whole 0 List.not_mem_nil (hempty hclosed) hnothing.2
      · rw [LineReader.Intake.ofRead_chunk hclosed]
        refine LineReader.Supplied.part (mt List.mem_singleton.mp (Ne.symm hclosed)) ?_
        rw [List.flatten_singleton, hchunk]
  takeAlarm := hsupplies.takeAlarm
  takeQuits := hsupplies.takeQuits
  takeInterrupt := hsupplies.takeInterrupt

namespace Shell

theorem Feeds.append {kernel : Kernel σ} {lines : List String} {session next : Session}
    {state final : σ} {code : Int}
    (hfeeds : Feeds kernel lines session state (some code) next final) (rest : List String) :
    Feeds kernel (lines ++ rest) session state (some code) next final := by
  generalize hended : some code = ended at hfeeds
  induction hfeeds with
  | finished => cases hended
  | ends others hinterlude hline => exact .ends _ hinterlude hline
  | goesOn hinterlude hline _ ih => exact .goesOn hinterlude hline (ih hended)

/-- Without an init script a shell is given the lines of its input. -/
theorem feeds_run {kernel : Kernel σ} {unread : σ → Bytes} (hsupplies : kernel.Supplies unread)
    {session : Session} {state : σ} (hscript : session.settings.initScript = none) {code : Int}
    {next : Session} {final : σ}
    (hrun : run kernel session state = some (code, next, final)) :
    ∃ ended last reached,
      Feeds kernel (LineReader.lines (unread state)) session state ended last reached ∧
        code = ended.getD 0 ∧ last.shutdown kernel reached = (next, final) := by
  rw [run, sourceInitScript, hscript] at hrun
  obtain ⟨_, hsourced, hrest⟩ := Option.bind_eq_some_iff.mp hrun
  cases hsourced
  obtain ⟨⟨code, last, reached⟩, hinput, hshutdown⟩ := Option.bind_eq_some_iff.mp hrest
  cases hshutdown
  obtain ⟨taken, ended, hdrawn, hfeeds, hcode⟩ :=
    feeds_runInput hsupplies.draws _ {} session state hinput
  obtain ⟨⟨rest, hlines⟩, hends⟩ := hdrawn.delivered_lines
  obtain rfl | ⟨rfl, hends'⟩ := hcode
  · rw [hlines]
    exact ⟨some code, last, reached, hfeeds.append rest, rfl, rfl⟩
  · obtain ⟨rfl, hall⟩ := hends code hends'
    rw [← hall]
    exact ⟨none, last, reached, hfeeds, rfl, rfl⟩

end Shell

end JobShell
