import JobShell.Builtin
import JobShell.Launch
import JobShell.LineReader
import JobShell.Recorder

/-!
# The system under the shell

Everything that a session asks of its system, as one record of operations on a
state.  Between and during operations the rest of the world goes on: children
run and end, and signal handlers take their notes.  What happens then is up to
the record; a session relies on no order of it.
-/

namespace JobShell

structure Kernel (σ : Type) extends Builtin.Host σ, Launch.Starter σ, Collector σ,
    LineSource σ where
  /-- Writes a report to the standard error stream. -/
  complain : String → σ → Except StreamFailure Unit × σ
  /-- Opens a redirection target and closes it again. -/
  openTarget : Direction → Bytes → σ → Except Errno Unit × σ
  openScript : Bytes → σ → Except Errno Descriptor × σ
  /-- Reads some bytes of a script; none at its end. -/
  readScript : Descriptor → σ → Except Errno Bytes × σ
  closeScript : Descriptor → σ → σ
  /-- Asks for a child's status without waiting for it. -/
  poll : Pid → σ → Except Errno WaitStatus × σ
  /-- Sends an interrupt to every process of a group. -/
  interruptGroup : Pid → σ → σ
  /-- Sleeps until there is a byte in the wakeup pipe. -/
  sleep : σ → σ
  /-- Sets the alarm to go off in some seconds. -/
  setAlarm : Nat → σ → σ
  cancelAlarm : σ → σ

namespace Kernel

variable {σ : Type}

/-! ## Printing -/

/-- Writes to the standard output stream. -/
def say (kernel : Kernel σ) (text : String) (state : σ) : Except StreamFailure Unit × σ :=
  kernel.print (Text.encode text) state

/-- Writes texts up to one that cannot be written. -/
def sayAll (kernel : Kernel σ) : List String → σ → Except StreamFailure Unit × σ
  | [], state => (.ok (), state)
  | text :: rest, state =>
      match kernel.say text state with
      | (.ok (), state) => kernel.sayAll rest state
      | (.error failure, state) => (.error failure, state)

/-- The state in which the shell goes on after it has printed something.  There is none
if that could not be written: the shell has come down over it. -/
def written (printed : Except StreamFailure Unit × σ) : Option σ :=
  match printed with
  | (.ok (), state) => some state
  | (.error _, _) => none

@[simp]
theorem written_eq_some_iff {printed : Except StreamFailure Unit × σ} {state : σ} :
    written printed = some state ↔ printed = (.ok (), state) := by
  obtain ⟨_ | _, after⟩ := printed <;> simp [written]

@[simp]
theorem written_eq_none_iff {printed : Except StreamFailure Unit × σ} :
    written printed = none ↔ ∃ failure, printed.1 = .error failure := by
  obtain ⟨_ | _, after⟩ := printed <;> simp [written]

/-! ## Redirections -/

/-- Opens the targets of a command up to the first that cannot be used. -/
def openTargets (kernel : Kernel σ) : List (Direction × String) → σ → Except Fault Unit × σ
  | [], state => (.ok (), state)
  | (direction, path) :: rest, state =>
      match kernel.openTarget direction (Text.encode path) state with
      | (.error errno, state) => (.error (.resource (Text.encode path) errno), state)
      | (.ok (), state) => kernel.openTargets rest state

end Kernel

end JobShell
