import JobShell.Fault
import JobShell.LineReader

/-!
# Scripts

A script is read while its lines run, in chunks.  A line ends with a newline, and a
carriage return before the newline belongs to the end; a last line need not end.
Behind it reading goes on, in case there is more by then.  Reading stops at a line that
is not text.
-/

namespace JobShell.Script

variable {σ : Type}

def carriageReturn : UInt8 := 13

/-- Drops one carriage return from the end. -/
def dropReturn (line : Bytes) : Bytes :=
  if line.getLast? = some carriageReturn then line.dropLast else line

/-! ## Scripts that are given as a whole -/

/-- The lines behind the part of a line that is given in reverse. -/
def linesFrom (reversed : Bytes) : Bytes → List Bytes
  | [] => if reversed.isEmpty then [] else [reversed.reverse]
  | byte :: rest =>
      if byte = Text.newline then dropReturn reversed.reverse :: linesFrom [] rest
      else linesFrom (byte :: reversed) rest

/-- The lines of a script; those that are not text have no value. -/
def lines (script : Bytes) : List (Option String) :=
  (linesFrom [] script).map Text.decode?

/-- Takes the next of some lines. -/
def nextGiven : List (Option String) → σ →
    Option (Except StreamFailure (Option String) × List (Option String) × σ)
  | [], state => some (.ok none, [], state)
  | none :: rest, state => some (.error .invalidText, rest, state)
  | some line :: rest, state => some (.ok (some line), rest, state)

/-! ## Scripts that are read -/

/-- How many bytes one read takes at most. -/
def chunkSize : Nat := 8192

/-- The next line as it stands in the script, none at its end.  `pending` is what has
been read and not been returned; `limit` bounds the reads. -/
def nextBytes (read : σ → Except Errno Bytes × σ) :
    Nat → Bytes → σ → Option (Except Errno (Option Bytes) × Bytes × σ)
  | 0, _, _ => none
  | limit + 1, pending, state =>
      match LineReader.splitLine pending with
      | some (line, rest) => some (.ok (some (dropReturn line)), rest, state)
      | none =>
          match read state with
          | (.ok [], state) =>
              some (.ok (if pending.isEmpty then none else some pending), [], state)
          | (.ok bytes, state) => nextBytes read limit (pending ++ bytes) state
          | (.error .interrupted, state) => nextBytes read limit pending state
          | (.error errno, state) => some (.error errno, pending, state)

def decode : Except Errno (Option Bytes) → Except StreamFailure (Option String)
  | .error errno => .error (.refused errno)
  | .ok none => .ok none
  | .ok (some line) =>
      match Text.decode? line with
      | some text => .ok (some text)
      | none => .error .invalidText

/-- Reads the next line. -/
def nextRead (read : σ → Except Errno Bytes × σ) (limit : Nat) (pending : Bytes) (state : σ) :
    Option (Except StreamFailure (Option String) × Bytes × σ) :=
  (nextBytes read limit pending state).map fun (answer, pending, state) =>
    (decode answer, pending, state)

end JobShell.Script
