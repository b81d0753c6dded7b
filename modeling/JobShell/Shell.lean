import JobShell.Script
import JobShell.Session

/-!
# The shell

An init script, then the lines of the standard input, through the same session.
Neither a missing script nor a line that is not text ends the session; the exit
code is that of the line that does, zero at the end of the input, and one when
the input cannot be read.  Like a line, a whole run has no result if it is given
up, or if a line that is printed cannot be written.
-/

namespace JobShell.Shell

variable {σ : Type}

/-! ## Scripts -/

/-- Runs the lines that are taken from a script, up to one that ends the session, whose
code is the result, or up to one that is not text.  `turns` bounds the lines. -/
def sourceFrom {κ : Type} (kernel : Kernel σ) (name : Bytes)
    (next : κ → σ → Option (Except StreamFailure (Option String) × κ × σ)) :
    Nat → κ → Session → σ → Option (Option Int × Session × σ)
  | 0, _, _, _ => none
  | turns + 1, script, session, state =>
      match next script state with
      | none => none
      | some (.ok none, _, state) => some (none, session, state)
      | some (.error failure, _, state) =>
          let message := Text.lossy name ++ ": " ++ failure.message
          (Kernel.written (kernel.complain (report message) state)).map fun state =>
            (none, session, state)
      | some (.ok (some line), script, state) =>
          match session.processLine kernel line state with
          | none => none
          | some (.exit code, session, state) => some (some code, session, state)
          | some (.proceed _, session, state) =>
              sourceFrom kernel name next turns script session state

/-- Runs a script that is given as a whole. -/
def source (kernel : Kernel σ) (name : Bytes) (lines : List (Option String))
    (session : Session) (state : σ) : Option (Option Int × Session × σ) :=
  sourceFrom kernel name Script.nextGiven (lines.length + 1) lines session state

/-- Runs the init script, if there is one, and reads it meanwhile. -/
def sourceInitScript (kernel : Kernel σ) (session : Session) (state : σ) :
    Option (Option Int × Session × σ) :=
  match session.settings.initScript with
  | none => some (none, session, state)
  | some path =>
      let name := Text.encode path
      match kernel.openScript name state with
      | (.ok script, state) =>
          let next := Script.nextRead (kernel.readScript script) kernel.patience
          (sourceFrom kernel name next kernel.patience [] session state).map
            fun (code, session, state) => (code, session, kernel.closeScript script state)
      | (.error errno, state) =>
          if errno = .noEntry ∧ !session.settings.initScriptNamed then
            some (none, session, state)
          else
            let message := path ++ ": " ++ errno.fileMessage
            (Kernel.written (kernel.complain (report message) state)).map fun state =>
              (none, session, state)

/-! ## The standard input -/

/-- Unlike a line, a prompt need not be written for the session to go on. -/
def promptIf (kernel : Kernel σ) (interactive : Bool) (state : σ) : σ :=
  if interactive then Session.printPrompt kernel state else state

def newlineIf (kernel : Kernel σ) (interactive : Bool) (state : σ) : Option σ :=
  if interactive then Kernel.written (kernel.say "\n" state) else some state

/-- What waiting for a line comes to: a line, or the code with which the session
ends. -/
inductive Arrival where
  | line (text : String)
  | finish (code : Int)
  deriving DecidableEq, Repr, Inhabited

/-- Waits for the next line, serving signals and skipping lines that are not text. -/
def awaitLine (kernel : Kernel σ) :
    Nat → LineReader → Session → σ → Option (Arrival × LineReader × Session × σ)
  | 0, _, _, _ => none
  | turns + 1, reader, session, state =>
      let interactive := session.settings.interactive
      match reader.next kernel.toLineSource kernel.patience state with
      | none => none
      | some (.ok (.line text), reader, state) => some (.line text, reader, session, state)
      | some (.ok (.invalid bytes), reader, state) =>
          let message := "ignoring input that is not valid UTF-8: " ++ Text.quote (Text.lossy bytes)
          match Kernel.written (kernel.complain (report message) state) with
          | none => none
          | some state =>
              awaitLine kernel turns reader session (promptIf kernel interactive state)
      | some (.ok .endOfInput, reader, state) =>
          (newlineIf kernel interactive state).map fun state => (.finish 0, reader, session, state)
      | some (.ok .interrupted, reader, state) =>
          match session.serviceSignals kernel state with
          | (.exit code, session, state) => some (.finish code, reader, session, state)
          | (.redraw, session, state) =>
              match newlineIf kernel interactive state with
              | none => none
              | some state =>
                  awaitLine kernel turns reader session (promptIf kernel interactive state)
          | (.quiet, session, state) => awaitLine kernel turns reader session state
      | some (.error errno, reader, state) =>
          let message := "input error: " ++ errno.message
          (Kernel.written (kernel.complain (report message) state)).map fun state =>
            (.finish 1, reader, session, state)

/-- Runs lines from the standard input until one ends the session. -/
def runInput (kernel : Kernel σ) :
    Nat → LineReader → Session → σ → Option (Int × Session × σ)
  | 0, _, _, _ => none
  | turns + 1, reader, session, state =>
      match session.serviceSignals kernel state with
      | (.exit code, session, state) => some (code, session, state)
      | (_, session, state) =>
          match Kernel.written (session.printFinishedJobs kernel state) with
          | none => none
          | some (session, state) =>
              match awaitLine kernel kernel.patience reader session
                  (promptIf kernel session.settings.interactive state) with
              | none => none
              | some (.finish code, _, session, state) => some (code, session, state)
              | some (.line text, reader, session, state) =>
                  match session.processLine kernel text state with
                  | none => none
                  | some (.exit code, session, state) => some (code, session, state)
                  | some (.proceed _, session, state) =>
                      runInput kernel turns reader session state

/-- A whole session, and its exit code. -/
def run (kernel : Kernel σ) (session : Session) (state : σ) : Option (Int × Session × σ) := do
  let (sourced, session, state) ← sourceInitScript kernel session state
  let (code, session, state) ← match sourced with
    | some code => some (code, session, state)
    | none => runInput kernel kernel.patience {} session state
  let (session, state) := session.shutdown kernel state
  pure (code, session, state)

end JobShell.Shell
