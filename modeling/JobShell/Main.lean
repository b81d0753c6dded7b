import JobShell.Machine.Setup
import JobShell.Shell

/-!
# The command line

Runs the lines of the standard input as one session on a machine of its own, and
shows what the session has written.
-/

namespace JobShell.CommandLine

/-- The user of the machine. -/
def sessionAccount : Account :=
  { name := some "root", home := some (Text.encode "/root"), isSuperuser := true }

/-- The variables at the start of the session. -/
def sessionEnvironment : Environment :=
  ⟨[("HOME", Text.encode "/root"), ("PATH", Text.encode "/usr/local/bin:/usr/bin:/bin")]⟩

/-- A whole session on the given input: its exit code, unless it did not come to an
end, and what it has written to its two output streams. -/
def runSession (input : Bytes) : Option (Int × Bytes × Bytes) :=
  let settings := Settings.ofLookup sessionEnvironment.text? false
  let machine := Machine.Setup.start
    { account := sessionAccount, directory := Text.encode "/root", input := .content input }
  let session : Session := { settings, environment := sessionEnvironment }
  (Shell.run (Machine.kernel sessionAccount) session machine).map fun (code, _, machine) =>
    let machine := machine.awaitAll
    (code, machine.written 1, machine.written 2)

/-- Exit codes have eight bits. -/
def exitByte (code : Int) : UInt32 :=
  UInt32.ofNat (code % 256).toNat

partial def readInput (stream : IO.FS.Stream) (found : ByteArray) : IO ByteArray := do
  let piece ← stream.read 65536
  if piece.isEmpty then return found
  readInput stream (found ++ piece)

end JobShell.CommandLine

open JobShell.CommandLine

def main : IO UInt32 := do
  let input ← readInput (← IO.getStdin) ByteArray.empty
  match runSession input.toList with
  | none => return 1
  | some (code, output, errors) =>
    (← IO.getStdout).write ⟨output.toArray⟩
    (← IO.getStderr).write ⟨errors.toArray⟩
    return exitByte code
