import JobShell.Machine.Behavior
import JobShell.Programs.Options
import JobShell.Programs.Quotation
import JobShell.Text.Digits

/-!
# What the programs share

Lines, messages, and the reading of files that are named as operands.
-/

namespace JobShell.Programs

open JobShell.Machine
open JobShell.Machine.Action

/-! ## Lines -/

/-- Pieces without the separators between them, given the piece that has been begun.
The last piece need not have a separator after it. -/
def splitLines (separator : UInt8) (current : Bytes) : Bytes → List Bytes
  | [] => if current.isEmpty then [] else [current.reverse]
  | byte :: rest =>
      if byte = separator then current.reverse :: splitLines separator [] rest
      else splitLines separator (byte :: current) rest

def lines (bytes : Bytes) : List Bytes :=
  splitLines Text.newline [] bytes

def joinLines (lines : List Bytes) : Bytes :=
  lines.flatMap (· ++ [Text.newline])

/-- The order of bytes, which is the order of text in the plain locale. -/
def lessEqual : Bytes → Bytes → Bool
  | [], _ => true
  | _ :: _, [] => false
  | left :: lefts, right :: rights =>
      if left = right then lessEqual lefts rights else left < right

/-! ## Messages -/

/-- Prints text of single bytes, whether or not it arrives. -/
def print (target : Descriptor) (text : String) : Action Unit := do
  let _ ← writeAll target (Text.bytesOf text)

/-- What is said about something that could not be done. -/
def failureText (attempt : String) (errno : Errno) : String :=
  attempt ++ ": " ++ errno.systemText

/-- Prints a message on the standard error stream. -/
def warn (name message : String) : Action Unit :=
  print errors (name ++ ": " ++ message ++ "\n")

/-- Complains that a file cannot be used. -/
def complain (name operand : String) (errno : Errno) : Action Unit :=
  warn name (failureText (quotedIfNeeded operand) errno)

/-- Complains and ends in failure. -/
def failWith (name message : String) (code : Nat) : Action Nat := do
  warn name message
  pure code

/-- Complains about the use of a program. -/
def misused (name message : String) (code : Nat) : Action Nat := do
  warn name message
  print errors ("Try '" ++ name ++ " --help' for more information.\n")
  pure code

/-- Prints all that a program has to print and ends; `failure` is how it ends if that
is impossible. -/
def deliver (name : String) (failure : Nat) (bytes : Bytes) (code : Nat) : Action Nat := do
  match ← writeAll output bytes with
  | .ok () => pure code
  | .error errno => failWith name (failureText "write error" errno) failure

/-- Writes to the standard output and goes on, or ends the program in failure. -/
def emit (name : String) (failure : Nat) (bytes : Bytes) : Action Unit := do
  match ← writeAll output bytes with
  | .ok () => pure ()
  | .error errno => do
      warn name (failureText "write error" errno)
      Action.exit failure

/-! ## Programs -/

/-- The arguments of a program as text, without its name. -/
def operandTexts (argv : List Bytes) : List String :=
  argv.tail.map Text.bytewise

/-- The name by which a program was called, which begins its complaints. -/
def nameText (argv : List Bytes) : String :=
  Text.bytewise (argv.headD [])

/-- A program made of an action on its name and its arguments. -/
def program (action : String → List String → Action Nat) : Program :=
  fun argv _ => action (nameText argv) (operandTexts argv) Behavior.exit

/-- A reason not to run a program, with what is printed about it. -/
structure Refusal where
  message : String
  /-- Where to find help is added. -/
  aboutUse : Bool := false
  /-- How the program ends, if not in its usual way. -/
  code : Option Nat := none

def Refusal.tell (refusal : Refusal) (name : String) (code : Nat) : Action Nat :=
  if refusal.aboutUse then misused name refusal.message (refusal.code.getD code)
  else failWith name refusal.message (refusal.code.getD code)

/-- Reads the values of the options, from the first one on, and what is wrong with the
arguments otherwise. -/
def readOptions {σ : Type} (table : OptionTable) (start : σ)
    (step : σ → String × String → Except Refusal σ) (arguments : List String) :
    Except Refusal (σ × Arguments) := do
  let arguments := Arguments.parse table arguments
  let state ← arguments.options.foldlM step start
  match arguments.misuse with
  | some misuse => .error { message := misuse.message, aboutUse := true }
  | none => .ok (state, arguments)

/-- Runs a program on the values of its options, or complains and ends with the given
code. -/
def withOptions {σ : Type} (name : String) (code : Nat) (table : OptionTable) (start : σ)
    (step : σ → String × String → Except Refusal σ) (arguments : List String)
    (action : σ → Arguments → Action Nat) : Action Nat :=
  match readOptions table start step arguments with
  | .error refusal => refusal.tell name code
  | .ok (state, arguments) => action state arguments

/-- Runs a program with sorted arguments, or complains about its use and ends with the
given code. -/
def withArguments (name : String) (code : Nat) (table : OptionTable)
    (arguments : List String) (action : Arguments → Action Nat) : Action Nat :=
  withOptions name code table () (fun _ _ => .ok ()) arguments fun _ => action

/-- One of the words that an option takes as its value.  Words can be cut short; those
with one meaning are the same. -/
def chooseWord {α : Type} [BEq α] (option value : String) (words : List (String × α)) :
    Except Refusal α :=
  let listing := words.foldl
    (fun (listing : String × Option α) word =>
      if listing.2 == some word.2 then
        (listing.1 ++ ", " ++ plainQuoted word.1, listing.2)
      else (listing.1 ++ "\n  - " ++ plainQuoted word.1, some word.2)) ("", none)
  let refuse (adjective : String) : Except Refusal α :=
    .error
      { message := adjective ++ " argument " ++ plainQuoted value ++ " for " ++ plainQuoted option
          ++ "\nValid arguments are:" ++ listing.1
        aboutUse := true }
  match words.lookup value, words.filter fun word => value.toList.isPrefixOf word.1.toList with
  | some meaning, _ => .ok meaning
  | none, [] => refuse "invalid"
  | none, word :: others =>
      if others.all fun other => other.2 == word.2 then .ok word.2 else refuse "ambiguous"

/-! ## Files -/

/-- Opens a file to read it; a dash stands for the standard input. -/
def openOperand (operand : String) : Action (Except Errno Descriptor) :=
  if operand = "-" then pure (.ok input)
  else openPath (Text.bytesOf operand) { reads := true } 0

/-- Closes what `openOperand` has opened. -/
def closeOperand (descriptor : Descriptor) : Action Unit :=
  if descriptor = input then pure () else close descriptor

/-- Reads a file by its name. -/
def readOperand (operand : String) : Action (Except Errno Bytes) := do
  match ← openOperand operand with
  | .error errno => pure (.error errno)
  | .ok descriptor => do
      let found ← readAll descriptor
      closeOperand descriptor
      pure found

/-- What is read where no operand is given. -/
def sources (operands : List String) : List String :=
  if operands.isEmpty then ["-"] else operands

/-- Hands what is read from a descriptor to a step, piece by piece, as long as the
step goes on.  `limit` bounds the pieces. -/
def eachChunk {σ : Type} (source : Descriptor) (step : σ → Bytes → Action (σ × Bool)) :
    Nat → σ → Action (Except Errno σ)
  | 0, state => pure (.ok state)
  | limit + 1, state => do
      match ← read source readSize with
      | .ok [] => pure (.ok state)
      | .ok bytes => do
          let (state, goesOn) ← step state bytes
          if goesOn then eachChunk source step limit state else pure (.ok state)
      | .error errno => pure (.error errno)

/-- Lines that are complete, and the one that has been begun, which is kept in
reverse. -/
def completeLines (separator : UInt8) (begun : Bytes) (bytes : Bytes) : List Bytes × Bytes :=
  let (found, begun) := bytes.foldl
    (fun (found : List Bytes × Bytes) byte =>
      if byte = separator then (found.2.reverse :: found.1, []) else (found.1, byte :: found.2))
    ([], begun)
  (found.reverse, begun)

/-- Hands the lines of a descriptor to a step as they become complete, as long as the
step goes on. -/
def eachLines {σ : Type} (source : Descriptor) (separator : UInt8)
    (step : σ → List Bytes → Action (σ × Bool)) (state : σ) : Action (Except Errno σ) := do
  let onChunk (state : (σ × Bool) × Bytes) (bytes : Bytes) :
      Action (((σ × Bool) × Bytes) × Bool) := do
    let (found, begun) := completeLines separator state.2 bytes
    let (next, goesOn) ← step state.1.1 found
    pure (((next, goesOn), begun), goesOn)
  match ← eachChunk source onChunk readLimit ((state, true), []) with
  | .error errno => pure (.error errno)
  | .ok ((state, goesOn), begun) =>
      if begun.isEmpty || !goesOn then pure (.ok state)
      else do
        let (state, _) ← step state [begun.reverse]
        pure (.ok state)

/-! ## Columns -/

/-- Text with blanks in front, up to a width. -/
def padLeft (width : Nat) (text : String) : String :=
  String.ofList (List.replicate (width - text.length) ' ') ++ text

def padRight (width : Nat) (text : String) : String :=
  text ++ String.ofList (List.replicate (width - text.length) ' ')

def octal (value : Nat) : String :=
  String.ofList (Nat.toDigits 8 value)

end JobShell.Programs
