import JobShell.LineReader
import Mathlib.Data.List.Forall2

/-!
# Lines of a stream

The pieces of a byte stream between newlines, and an input that hands the stream
out as it likes and breaks off waits and reads whenever it likes.  Whatever it
does, repeated calls of the reader tell the pieces in order and then the end, and
no byte is lost, doubled or moved to another line.
-/

namespace JobShell

namespace Text

theorem decode?_eq_some_iff (bytes : Bytes) (text : String) :
    decode? bytes = some text ↔ encode text = bytes := by
  simp only [decode?, encode, String.fromUTF8?, String.toUTF8_eq_toByteArray]
  split
  · next hvalid =>
      rw [Option.some.injEq, ← String.toByteArray_inj]
      constructor
      · intro heq
        exact congrArg (fun array => array.data.toList) heq.symm
      · rintro rfl
        rfl
  · next hinvalid =>
      refine iff_of_false nofun ?_
      rintro rfl
      exact hinvalid text.isValidUTF8

end Text

namespace LineReader

/-! ## Pieces -/

/-- The bytes between two newlines, or behind the last one. -/
structure Piece where
  bytes : Bytes
  /-- Whether a newline stands behind the bytes. -/
  ended : Bool
  deriving DecidableEq

/-- The piece as it stands in the stream. -/
def Piece.spelling (piece : Piece) : Bytes :=
  if piece.ended then piece.bytes ++ [Text.newline] else piece.bytes

/-- The pieces of a stream.  What stands behind the last newline is one only if
there is something. -/
def pieces (stream : Bytes) : List Piece :=
  let parts := stream.splitOn Text.newline
  let tail := parts.getLastD []
  parts.dropLast.map (⟨·, true⟩) ++ if tail = [] then [] else [⟨tail, false⟩]

theorem pieces_nil : pieces [] = [] := by
  simp [pieces]

theorem pieces_tail (tail : Bytes) (hnewline : Text.newline ∉ tail)
    (hnonempty : tail ≠ []) : pieces tail = [⟨tail, false⟩] := by
  simp [pieces, List.splitOn_eq_singleton hnewline, hnonempty]

theorem pieces_line (line rest : Bytes) (hnewline : Text.newline ∉ line) :
    pieces (line ++ Text.newline :: rest) = ⟨line, true⟩ :: pieces rest := by
  obtain ⟨part, parts, hparts⟩ :=
    List.exists_cons_of_ne_nil (List.splitOn_ne_nil Text.newline rest)
  rw [pieces, List.splitOn_append_cons_self_of_not_mem hnewline]
  simp [pieces, hparts, List.getLast?_cons]

/-- What the reader makes of a piece: its text, or its bytes if they are no text. -/
inductive Event.Reports : Event → Bytes → Prop where
  | line (text : String) : Reports (.line text) (Text.encode text)
  | invalid (bytes : Bytes) (hinvalid : ∀ text, Text.encode text ≠ bytes) :
      Reports (.invalid bytes) bytes

theorem reports_ofBytes (bytes : Bytes) :
    (Event.ofBytes bytes).Reports bytes := by
  rw [Event.ofBytes]
  cases hdecode : Text.decode? bytes with
  | some text =>
      rw [Text.decode?_eq_some_iff] at hdecode
      subst hdecode
      exact .line text
  | none =>
      refine .invalid bytes fun text htext => ?_
      rw [← Text.decode?_eq_some_iff, hdecode] at htext
      cases htext

theorem splitLine_eq_some {bytes line rest : Bytes}
    (hsplit : splitLine bytes = some (line, rest)) :
    bytes = line ++ Text.newline :: rest ∧ Text.newline ∉ line := by
  induction bytes generalizing line with
  | nil => cases hsplit
  | cons byte others ih =>
      rw [splitLine] at hsplit
      split at hsplit
      · next hbyte =>
          cases hsplit
          simp [hbyte]
      · next hbyte =>
          obtain ⟨⟨front, back⟩, hfront, heq⟩ := Option.map_eq_some_iff.mp hsplit
          cases heq
          obtain ⟨rfl, hnewline⟩ := ih hfront
          simp [hnewline, Ne.symm hbyte]

theorem splitLine_eq_none {bytes : Bytes} (hsplit : splitLine bytes = none) :
    Text.newline ∉ bytes := by
  induction bytes with
  | nil => simp
  | cons byte others ih =>
      rw [splitLine] at hsplit
      split at hsplit
      · cases hsplit
      · next hbyte =>
          rw [Option.map_eq_none_iff] at hsplit
          simp [Ne.symm hbyte, ih hsplit]

/-! ## An input that interrupts -/

/-- What a wait for input comes to. -/
inductive Wait where
  | ready
  /-- The wakeup pipe can be read. -/
  | woken
  /-- A signal has broken off the wait. -/
  | interrupted
  deriving DecidableEq

/-- What a read comes to. -/
inductive Reading where
  | interrupted
  /-- So many bytes are handed out, or all that are left if those are fewer. -/
  | bytes (count : Nat) (positive : 0 < count) (fits : count ≤ chunkSize)
  deriving DecidableEq

/-- A stream of bytes, and how its waits and reads go, next first. -/
structure Input where
  /-- The bytes that have been handed out. -/
  taken : Bytes := []
  left : Bytes
  /-- How many waits and reads have been broken off. -/
  interruptions : Nat := 0
  waits : Nat → Wait
  readings : Nat → Reading

namespace Input

def waited (input : Input) : Input :=
  { input with waits := fun turn => input.waits (turn + 1) }

def asked (input : Input) : Input :=
  { input with readings := fun turn => input.readings (turn + 1) }

def interrupt (input : Input) : Input :=
  { input with interruptions := input.interruptions + 1 }

def handOut (input : Input) (count : Nat) : Input :=
  { input with
    taken := input.taken ++ input.left.take count
    left := input.left.drop count }

def source : LineSource Input where
  await input :=
    match input.waits 0 with
    | .ready => (.ok false, input.waited)
    | .woken => (.ok true, input.waited.interrupt)
    | .interrupted => (.error .interrupted, input.waited.interrupt)
  read input :=
    match input.readings 0 with
    | .interrupted => (.error .interrupted, input.asked.interrupt)
    | .bytes count _ _ => (.ok (input.left.take count), input.asked.handOut count)

/-- Between two states of an input a chunk has been handed out. -/
structure Takes (input : Input) (chunk : Bytes) (next : Input) : Prop where
  taken : next.taken = input.taken ++ chunk
  left : input.left = chunk ++ next.left

theorem Takes.nothing {input next : Input} (htaken : next.taken = input.taken)
    (hleft : next.left = input.left) : input.Takes [] next :=
  ⟨by rw [htaken, List.append_nil], hleft.symm⟩

theorem Takes.trans {input middle next : Input} {front back : Bytes}
    (hfront : input.Takes front middle) (hback : middle.Takes back next) :
    input.Takes (front ++ back) next := by
  constructor
  · rw [hback.taken, hfront.taken, List.append_assoc]
  · rw [hfront.left, hback.left, List.append_assoc]

/-- A wait leaves the stream alone; if it is broken off, it is counted. -/
theorem await_source (input : Input) :
    ∃ next, input.Takes [] next ∧
      ((source.await input = (.ok false, next) ∧
          next.interruptions = input.interruptions) ∨
        ((source.await input = (.ok true, next) ∨
            source.await input = (.error .interrupted, next)) ∧
          next.interruptions = input.interruptions + 1)) := by
  cases hwait : input.waits 0 with
  | ready =>
      exact ⟨input.waited, Takes.nothing rfl rfl, .inl ⟨by simp [source, hwait], rfl⟩⟩
  | woken =>
      exact ⟨input.waited.interrupt, Takes.nothing rfl rfl,
        .inr ⟨.inl (by simp [source, hwait]), rfl⟩⟩
  | interrupted =>
      exact ⟨input.waited.interrupt, Takes.nothing rfl rfl,
        .inr ⟨.inr (by simp [source, hwait]), rfl⟩⟩

/-- A read is broken off and counted, or it hands out a chunk, which is empty only
at the end of the stream. -/
theorem read_source (input : Input) :
    ∃ chunk next, input.Takes chunk next ∧
      ((source.read input = (.error .interrupted, next) ∧ chunk = [] ∧
          next.interruptions = input.interruptions + 1) ∨
        (source.read input = (.ok chunk, next) ∧
          (chunk = [] → input.left = []) ∧
          next.interruptions = input.interruptions)) := by
  cases hreading : input.readings 0 with
  | interrupted =>
      exact ⟨[], input.asked.interrupt, Takes.nothing rfl rfl,
        .inl ⟨by simp [source, hreading], rfl, rfl⟩⟩
  | bytes count hpositive _ =>
      refine ⟨input.left.take count, input.asked.handOut count, ⟨rfl, ?_⟩,
        .inr ⟨by simp [source, hreading], ?_, rfl⟩⟩
      · exact (List.take_append_drop count input.left).symm
      · intro hempty
        have hcount : count ≠ 0 := Nat.ne_of_gt hpositive
        simpa [hcount] using hempty

end Input

/-! ## One call -/

/-- What an event tells of the bytes `before` a call, of which `after` are kept:
nothing, the end of the stream, or its next piece. -/
inductive Tells (interruptions : Nat) (before after : Bytes) (input : Input) :
    Event → Prop where
  | interrupted (hkept : before = after)
      (hcount : input.interruptions = interruptions + 1) :
      Tells interruptions before after input .interrupted
  | ended (hbefore : before = []) (hafter : after = []) (hleft : input.left = [])
      (hcount : input.interruptions = interruptions) :
      Tells interruptions before after input .endOfInput
  | piece {event : Event} (piece : Piece) (hreports : event.Reports piece.bytes)
      (hbefore : before = piece.spelling ++ after)
      (hpieces : pieces (before ++ input.left) =
        piece :: pieces (after ++ input.left))
      (hcount : input.interruptions = interruptions) :
      Tells interruptions before after input event

/-- A call has an event as soon as it may read once more than bytes are left. -/
theorem next_source (limit : Nat) (reader : LineReader) (input : Input)
    (hlimit : input.left.length < limit) :
    ∃ event chunk after rest,
      next Input.source limit reader input = some (.ok event, after, rest) ∧
      input.Takes chunk rest ∧
      Tells input.interruptions (reader.pending ++ chunk) after.pending rest
        event := by
  induction limit generalizing reader input with
  | zero => exact absurd hlimit (Nat.not_lt_zero _)
  | succ limit ih =>
      cases hsplit : splitLine reader.pending with
      | some parts =>
          obtain ⟨line, kept⟩ := parts
          obtain ⟨hpending, hnewline⟩ := splitLine_eq_some hsplit
          refine ⟨.ofBytes line, [], ⟨kept⟩, input, by simp [next, hsplit],
            .nothing rfl rfl, .piece ⟨line, true⟩ (reports_ofBytes line) ?_ ?_ rfl⟩
          · simp [hpending, Piece.spelling]
          · simpa [hpending] using pieces_line line (kept ++ input.left) hnewline
      | none =>
          have hnewline := splitLine_eq_none hsplit
          obtain ⟨waited, hwaited, ⟨hawait, hquiet⟩ | ⟨hawait, hbroken⟩⟩ :=
            input.await_source
          · obtain ⟨chunk, asked, hasked, ⟨hread, rfl, hbroken⟩ |
              ⟨hread, hempty, hsame⟩⟩ := waited.read_source
            · refine ⟨.interrupted, [], reader, asked, ?_, hwaited.trans hasked, ?_⟩
              · simp [next, hsplit, hawait, hread]
              · exact .interrupted (List.append_nil _) (by rw [hbroken, hquiet])
            · have hchunk := hwaited.trans hasked
              have hcount : asked.interruptions = input.interruptions := by
                rw [hsame, hquiet]
              cases chunk with
              | nil =>
                  have hleft : asked.left = [] := by
                    simpa [hasked.left] using hempty rfl
                  by_cases hpending : reader.pending = []
                  · have hisEmpty : reader.pending.isEmpty = true := by
                      rw [hpending, List.isEmpty_nil]
                    refine ⟨.endOfInput, [], reader, asked, ?_, hchunk, ?_⟩
                    · simp [next, hsplit, hawait, hread, hisEmpty]
                    · exact .ended (by simp [hpending]) hpending hleft hcount
                  · refine ⟨.ofBytes reader.pending, [], {}, asked, ?_, hchunk,
                      .piece ⟨reader.pending, false⟩ (reports_ofBytes _) ?_ ?_ hcount⟩
                    · simp [next, hsplit, hawait, hread, hpending]
                    · simp [Piece.spelling]
                    · simp [hleft, pieces_nil, pieces_tail _ hnewline hpending]
              | cons byte others =>
                  -- Bytes that have been handed out make up for the read.
                  have hshorter : asked.left.length < limit := by
                    have hlength := congrArg List.length hchunk.left
                    simp only [List.nil_append, List.cons_append,
                      List.length_cons, List.length_append] at hlength
                    omega
                  obtain ⟨event, chunk, after, rest, hnext, htakes, htells⟩ :=
                    ih ⟨reader.pending ++ byte :: others⟩ asked hshorter
                  refine ⟨event, _, after, rest, ?_, hchunk.trans htakes, ?_⟩
                  · simp [next, hsplit, hawait, hread, hnext]
                  · simpa [hcount] using htells
          · refine ⟨.interrupted, [], reader, waited, ?_, hwaited, ?_⟩
            · rcases hawait with hawait | hawait <;> simp [next, hsplit, hawait]
            · exact .interrupted (List.append_nil _) hbroken

/-! ## Repeated calls -/

/-- The events of so many calls, if each has one. -/
def events {σ : Type} (source : LineSource σ) (limit : Nat) :
    Nat → LineReader → σ → Option (List Event × LineReader × σ)
  | 0, reader, state => some ([], reader, state)
  | calls + 1, reader, state =>
      match next source limit reader state with
      | some (.ok event, reader, state) =>
          (events source limit calls reader state).map
            fun (later, ended) => (event :: later, ended)
      | _ => none

/-- Without the interruptions, the events tell the pieces `told` and then only
the end, which comes when no piece is untold. -/
def TellAll (events : List Event) (told untold : List Piece) : Prop :=
  ∃ lines ends,
    events.filter (· ≠ .interrupted) =
      lines ++ List.replicate ends .endOfInput ∧
    List.Forall₂ (fun event piece => event.Reports piece.bytes) lines told ∧
    (ends ≠ 0 → untold = [])

namespace TellAll

theorem nil (untold : List Piece) : TellAll [] [] untold :=
  ⟨[], 0, rfl, .nil, fun hends => absurd rfl hends⟩

theorem interrupted {later : List Event} {told untold : List Piece}
    (hlater : TellAll later told untold) :
    TellAll (.interrupted :: later) told untold := by
  obtain ⟨lines, ends, hfilter, hlines, hends⟩ := hlater
  exact ⟨lines, ends, by simpa using hfilter, hlines, hends⟩

theorem piece {event : Event} {piece : Piece} {later : List Event}
    {told untold : List Piece} (hreports : event.Reports piece.bytes)
    (hlater : TellAll later told untold) :
    TellAll (event :: later) (piece :: told) untold := by
  obtain ⟨lines, ends, hfilter, hlines, hends⟩ := hlater
  have hevent : event ≠ .interrupted := by
    rintro rfl
    cases hreports
  refine ⟨event :: lines, ends, ?_, .cons hreports hlines, hends⟩
  simpa [hevent] using hfilter

theorem ended {later : List Event} (hlater : TellAll later [] []) :
    TellAll (.endOfInput :: later) [] [] := by
  obtain ⟨lines, ends, hfilter, hlines, -⟩ := hlater
  cases hlines
  refine ⟨[], ends + 1, ?_, .nil, fun _ => rfl⟩
  simpa [List.replicate_succ] using hfilter

/-- Every event that is no interruption tells a piece or the end. -/
theorem length_le {events : List Event} {told untold : List Piece}
    (htells : TellAll events told untold) :
    events.length ≤ events.count .interrupted + told.length ∨
      untold = [] ∧ .endOfInput ∈ events := by
  obtain ⟨lines, ends, hfilter, hlines, hends⟩ := htells
  have hlength := congrArg List.length hfilter
  rw [List.length_append, List.length_replicate, hlines.length_eq] at hlength
  have hcount : events.length =
      events.count .interrupted + (events.filter (· ≠ .interrupted)).length := by
    rw [List.length_eq_countP_add_countP (· == Event.interrupted),
      ← List.countP_eq_length_filter]
    simp [List.count]
  by_cases hzero : ends = 0
  · left
    omega
  · right
    have hmem : Event.endOfInput ∈ events.filter (· ≠ .interrupted) := by
      rw [hfilter]
      simp [hzero]
    exact ⟨hends hzero, List.mem_of_mem_filter hmem⟩

end TellAll

/-- What the events of a run tell, and what the reader keeps behind it. -/
structure Run (reader : LineReader) (input : Input) (events : List Event)
    (after : LineReader) (rest : Input) (told untold : List Piece) : Prop where
  pieces : pieces (reader.pending ++ input.left) = told ++ untold
  tells : TellAll events told untold
  kept : ∃ chunk, input.Takes chunk rest ∧
    reader.pending ++ chunk = told.flatMap Piece.spelling ++ after.pending
  interruptions :
    rest.interruptions = input.interruptions + events.count .interrupted

namespace Run

theorem empty (reader : LineReader) (input : Input) :
    Run reader input [] reader input []
      (LineReader.pieces (reader.pending ++ input.left)) :=
  ⟨rfl, .nil _, ⟨[], .nothing rfl rfl, List.append_nil _⟩, rfl⟩

/-- A call before a run. -/
theorem call {reader middle after : LineReader} {input between rest : Input}
    {event : Event} {later : List Event} {told untold : List Piece} {chunk : Bytes}
    (htakes : input.Takes chunk between)
    (htells : Tells input.interruptions (reader.pending ++ chunk) middle.pending
      between event)
    (hlater : Run middle between later after rest told untold) :
    ∃ told untold, Run reader input (event :: later) after rest told untold := by
  obtain ⟨hpieces, htold, ⟨others, hothers, hkept⟩, hinterruptions⟩ := hlater
  have hall : reader.pending ++ input.left =
      (reader.pending ++ chunk) ++ between.left := by
    rw [htakes.left, List.append_assoc]
  cases htells with
  | interrupted hsame hcount =>
      refine ⟨told, untold, ?_, htold.interrupted, ⟨_, htakes.trans hothers, ?_⟩, ?_⟩
      · rw [hall, hsame, hpieces]
      · rw [← List.append_assoc, hsame, hkept]
      · rw [hinterruptions, hcount, List.count_cons_self]
        omega
  | ended hbefore hafter hleft hcount =>
      rw [hafter, hleft, List.append_nil, pieces_nil] at hpieces
      obtain ⟨rfl, rfl⟩ := List.append_eq_nil_iff.mp hpieces.symm
      refine ⟨[], [], ?_, htold.ended, ⟨_, htakes.trans hothers, ?_⟩, ?_⟩
      · rw [hall, hbefore, hleft, List.append_nil, pieces_nil, List.append_nil]
      · rw [← List.append_assoc, hbefore, ← hafter, hkept]
      · rw [hinterruptions, hcount, List.count_cons_of_ne (by decide)]
  | piece piece hreports hbefore hnext hcount =>
      have hevent : event ≠ .interrupted := by
        rintro rfl
        cases hreports
      refine ⟨piece :: told, untold, ?_, htold.piece hreports,
        ⟨_, htakes.trans hothers, ?_⟩, ?_⟩
      · rw [hall, hnext, hpieces, List.cons_append]
      · rw [← List.append_assoc, hbefore, List.append_assoc, hkept,
          List.flatMap_cons, List.append_assoc]
      · rw [hinterruptions, hcount, List.count_cons_of_ne hevent]

end Run

theorem events_source (limit calls : Nat) (reader : LineReader) (input : Input)
    (hlimit : input.left.length < limit) :
    ∃ happened after rest told untold,
      events Input.source limit calls reader input = some (happened, after, rest) ∧
      happened.length = calls ∧
      Run reader input happened after rest told untold := by
  induction calls generalizing reader input with
  | zero => exact ⟨[], reader, input, _, _, rfl, rfl, .empty reader input⟩
  | succ calls ih =>
      obtain ⟨event, chunk, middle, between, hnext, htakes, htells⟩ :=
        next_source limit reader input hlimit
      have hshorter : between.left.length < limit := by
        rw [htakes.left, List.length_append] at hlimit
        omega
      obtain ⟨later, after, rest, told, untold, hevents, hlength, hrun⟩ :=
        ih middle between hshorter
      obtain ⟨told, untold, hrun⟩ := hrun.call htakes htells
      refine ⟨event :: later, after, rest, told, untold, ?_, ?_, hrun⟩
      · simp [events, hnext, hevents]
      · rw [List.length_cons, hlength]

/-- However the stream is handed out, and whatever is broken off, the calls tell its
pieces in order and then the end.  What they have told and what is kept of a line
are always the bytes handed out so far. -/
theorem events_stream (stream : Bytes) (waits : Nat → Wait)
    (readings : Nat → Reading) (calls limit : Nat)
    (hlimit : stream.length < limit) :
    ∃ happened reader input told untold,
      events Input.source limit calls {} { left := stream, waits, readings } =
        some (happened, reader, input) ∧
      happened.length = calls ∧
      happened.count .interrupted = input.interruptions ∧
      pieces stream = told ++ untold ∧
      TellAll happened told untold ∧
      told.flatMap Piece.spelling ++ reader.pending = input.taken ∧
      input.taken ++ input.left = stream ∧
      ((pieces stream).length + input.interruptions < calls →
        untold = [] ∧ .endOfInput ∈ happened) := by
  obtain ⟨happened, reader, input, told, untold, hevents, hlength, hpieces, htells,
    ⟨chunk, htakes, hkept⟩, hinterruptions⟩ :=
    events_source limit calls {} { left := stream, waits, readings } hlimit
  simp only [List.nil_append, Nat.zero_add] at hpieces hkept hinterruptions
  have htaken : input.taken = chunk := htakes.taken
  refine ⟨happened, reader, input, told, untold, hevents, hlength,
    hinterruptions.symm, hpieces, htells, ?_, ?_, ?_⟩
  · rw [htaken, hkept]
  · rw [htaken, ← htakes.left]
  · intro hcalls
    refine htells.length_le.resolve_left ?_
    rw [hpieces, List.length_append, hinterruptions] at hcalls
    omega

theorem events_stream_broken_off_between_bytes :
    [0x61, 0x0a, 0xff].length < 4 ∧
    ∃ happened reader input told untold,
      events Input.source 4 7 {}
          { left := [0x61, 0x0a, 0xff]
            waits := fun turn =>
              if turn = 0 then .woken else if turn = 3 then .interrupted else .ready
            readings := fun turn =>
              if turn = 1 then .interrupted else .bytes 1 (by decide) (by decide) } =
        some (happened, reader, input) ∧
      happened.length = 7 ∧
      happened.count .interrupted = input.interruptions ∧
      pieces [0x61, 0x0a, 0xff] = told ++ untold ∧
      TellAll happened told untold ∧
      told.flatMap Piece.spelling ++ reader.pending = input.taken ∧
      input.taken ++ input.left = [0x61, 0x0a, 0xff] ∧
      ((pieces [0x61, 0x0a, 0xff]).length + input.interruptions < 7 →
        untold = [] ∧ .endOfInput ∈ happened) :=
  ⟨by decide, events_stream [0x61, 0x0a, 0xff] _ _ 7 4 (by decide)⟩

example : (events Input.source 4 7 {}
      { left := [0x61, 0x0a, 0xff]
        waits := fun turn =>
          if turn = 0 then .woken else if turn = 3 then .interrupted else .ready
        readings := fun turn =>
          if turn = 1 then .interrupted else .bytes 1 (by decide) (by decide) }).map
        (·.1) =
    some [.interrupted, .interrupted, .interrupted, .line "a", .invalid [0xff],
      .endOfInput, .endOfInput] := rfl

end LineReader

end JobShell
