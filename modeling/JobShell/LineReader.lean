import JobShell.Errno
import JobShell.Text.Utf8

/-!
# Reading lines

Input arrives in pieces of any size.  The reader keeps what has arrived of a line
until its end is there.  It sleeps on the input and on the wakeup pipe together;
a wakeup ends the sleep before anything is read, and what has been kept stays
where it is.
-/

namespace JobShell

/-- Where lines come from. -/
structure LineSource (σ : Type) where
  /-- Sleeps until there is input or a wakeup, and says whether it was a wakeup. -/
  await : σ → Except Errno Bool × σ
  /-- Reads some bytes; none at the end of the input. -/
  read : σ → Except Errno Bytes × σ

/-- The bytes of a line that has not ended. -/
structure LineReader where
  pending : Bytes := []
  deriving DecidableEq, Repr, Inhabited

namespace LineReader

/-- How many bytes one read takes at most. -/
def chunkSize : Nat := 4096

inductive Event where
  | line (text : String)
  /-- A line that is not text. -/
  | invalid (bytes : Bytes)
  | endOfInput
  | interrupted
  deriving DecidableEq, Repr, Inhabited

def Event.ofBytes (bytes : Bytes) : Event :=
  match Text.decode? bytes with
  | some text => .line text
  | none => .invalid bytes

/-- The bytes before the first newline and those behind it. -/
def splitLine : Bytes → Option (Bytes × Bytes)
  | [] => none
  | byte :: rest =>
      if byte = Text.newline then some ([], rest)
      else (splitLine rest).map fun (line, others) => (byte :: line, others)

/-- The next event.  `limit` bounds the reads; without it a line that never ends
would have no event. -/
def next {σ : Type} (source : LineSource σ) :
    Nat → LineReader → σ → Option (Except Errno Event × LineReader × σ)
  | 0, _, _ => none
  | limit + 1, reader, state =>
      match splitLine reader.pending with
      | some (line, rest) => some (.ok (.ofBytes line), ⟨rest⟩, state)
      | none =>
          match source.await state with
          | (.ok true, state) => some (.ok .interrupted, reader, state)
          | (.error .interrupted, state) => some (.ok .interrupted, reader, state)
          | (.error errno, state) => some (.error errno, reader, state)
          | (.ok false, state) =>
              match source.read state with
              | (.ok [], state) =>
                  if reader.pending.isEmpty then some (.ok .endOfInput, reader, state)
                  else some (.ok (.ofBytes reader.pending), {}, state)
              | (.ok bytes, state) => next source limit ⟨reader.pending ++ bytes⟩ state
              | (.error .interrupted, state) => some (.ok .interrupted, reader, state)
              | (.error errno, state) => some (.error errno, reader, state)

end LineReader

end JobShell
