import JobShell.Programs.Echo
import JobShell.Programs.Scripting.Utility.Basic

/-!
# Printing

`echo` always replaces escapes, and `printf` complains about numbers in words of its own.
-/

namespace JobShell.Programs.Scripting

open JobShell.Machine

/-! ## Escapes -/

/-- The character that an escape stands for after its backslash, and what follows it. -/
def escapedChar? (text : List Char) : Char × List Char :=
  match text with
  | [] => ('\\', [])
  | c :: rest =>
      if Number.isDigitOf 8 c then digitsEscape 8 3 text
      else
        match simpleEscape? c with
        | some char => (char, rest)
        | none => ('\\', text)

/-- Text with escapes replaced, and whether an escape has ended it; `limit` bounds the
characters. -/
def unescape : Nat → List Char → List Char × Bool
  | 0, _ => ([], false)
  | _, [] => ([], false)
  | _, '\\' :: 'c' :: _ => ([], true)
  | limit + 1, '\\' :: rest =>
      let digits := match rest with
        | '0' :: digit :: others =>
            if Number.isDigitOf 8 digit then digit :: others else rest
        | _ => rest
      let (char, after) := escapedChar? digits
      let (others, ended) := unescape limit after
      (char :: others, ended)
  | limit + 1, c :: rest =>
      let (others, ended) := unescape limit rest
      (c :: others, ended)

def unescaped (text : String) : List Char × Bool :=
  unescape (text.length + 1) text.toList

/-! ## echo -/

/-- Words with blanks between them, up to one that ends them. -/
def echoed (ending : List Char) : List String → List Char
  | [] => ending
  | word :: rest =>
      match unescaped word, rest with
      | (text, true), _ => text
      | (text, false), [] => text ++ ending
      | (text, false), _ => text ++ ' ' :: echoed ending rest

def printWords : Utility := fun arguments =>
  let text := match arguments with
    | "-n" :: words => echoed [] words
    | words => echoed ['\n'] words
  printText (String.ofList text)

/-! ## printf -/

namespace Format

open JobShell.Programs.Format

/-- Complains about what is left of a number. -/
def checkRest (progress : Progress) (argument : String) (rest : List Char) (outOfRange : Bool) :
    Progress :=
  if !rest.isEmpty then
    progress.fail (argument ++ (if rest.length = argument.length then ": expected numeric value"
      else ": not completely converted"))
  else if outOfRange then progress.fail (argument ++ ": Numerical result out of range")
  else progress

/-- The number that an argument stands for.  A quote in front of a character stands for
the number of that character. -/
def numberOf {α : Type} (progress : Progress) (ofCharacter : Nat → α)
    (read : List Char → α × List Char × Bool) : α × Progress :=
  match progress.next with
  | (none, progress) => (ofCharacter 0, progress)
  | (some argument, progress) =>
      match argument.toList with
      | '"' :: rest | '\'' :: rest => (ofCharacter ((rest.head?.map Char.toNat).getD 0), progress)
      | text =>
          let (value, rest, outOfRange) := read text
          (value, checkRest progress argument rest outOfRange)

def signed (progress : Progress) : Int × Progress :=
  numberOf progress Int.ofNat fun text =>
    match Number.read? text with
    | none => (0, text, false)
    | some reading =>
        let (value, outOfRange) := Number.clamp reading.value
        (value, reading.rest, outOfRange)

def unsigned (progress : Progress) : Nat × Progress :=
  numberOf progress id fun text =>
    match Number.read? text with
    | none => (0, text, false)
    | some reading =>
        let (value, outOfRange) := reading.unsigned
        (value, reading.rest, outOfRange)

def real (progress : Progress) : Number.Real × Progress :=
  numberOf progress (fun value => { negative := false, magnitude := .finite value 0 }) fun text =>
    match Number.readReal? Number.double text with
    | none => ({ negative := false, magnitude := .finite 0 0 }, text, false)
    | some reading => (reading.value, reading.rest, reading.outOfRange)

/-- The number with a sign that has the same lowest bits as another. -/
def shortInteger (value : Int) : Int :=
  let bits := value % 4294967296
  if bits > 2147483647 then bits - 4294967296 else bits

/-- A size, which may take an argument. -/
def sizeOf (progress : Progress) : Size → Option Int × Progress
  | .absent => (none, progress)
  | .given value => (some value, progress)
  | .argument =>
      let (value, progress) := signed progress
      (some (shortInteger value), progress)

/-- Prints the next argument in the way of a directive. -/
def convert (progress : Progress) (directive : Directive) : Progress :=
  let (width, progress) := sizeOf progress directive.width
  let (precision, progress) := sizeOf progress directive.precision
  let layout := directive.layout width precision
  match directive.letter with
  | none => progress.stopWith "missing format character"
  | some letter =>
      match letter with
      | 'b' =>
          let (argument, progress) := progress.next
          let (text, ended) := unescaped (argument.getD "")
          let progress := progress.print (layout.text text)
          if ended then progress.stop else progress
      | 'c' =>
          let (argument, progress) := progress.next
          progress.print (layout.pad [(argument.getD "").toList.headD '\x00'])
      | 's' =>
          let (argument, progress) := progress.next
          progress.print (layout.text (argument.getD "").toList)
      | 'd' | 'i' =>
          let (value, progress) := signed progress
          progress.print (layout.integer value)
      | 'o' | 'u' | 'x' | 'X' =>
          let (value, progress) := unsigned progress
          progress.print (layout.natural letter value)
      | letter =>
          if "aAeEfFgG".toList.contains letter then
            let (value, progress) := real progress
            progress.print (layout.real Number.double letter value)
          else progress.stopWith (String.ofList directive.written ++ ": invalid directive")

/-- One pass over a format; `limit` bounds the characters. -/
def once : Nat → Progress → List Char → Progress
  | 0, progress, _ => progress
  | _, progress, [] => progress
  | limit + 1, progress, text =>
      if progress.ended then progress
      else
        match text with
        | '\\' :: rest =>
            let (char, rest) := escapedChar? rest
            once limit (progress.print [char]) rest
        | '%' :: '%' :: rest => once limit (progress.print ['%']) rest
        | '%' :: rest =>
            let (directive, rest) := Directive.read isFlag (fun _ => false) rest
            once limit (convert progress directive) rest
        | c :: rest => once limit (progress.print [c]) rest
        | [] => progress

/-- Uses a format until all arguments have been printed, or one pass has taken none. -/
def run (format : List Char) : Nat → Progress → Progress
  | 0, progress => progress
  | limit + 1, progress =>
      let after := once (format.length + 1) progress format
      if after.ended || after.arguments.isEmpty
          || after.arguments.length = progress.arguments.length then after
      else run format limit after

/-- Carries out steps in order; what is printed comes last if there are complaints. -/
def perform : List Step → Shell Unit
  | [] => pure ()
  | .prints _ :: rest => perform rest
  | .warns message :: rest => do
      Shell.report message
      perform rest

/-- All that is printed. -/
def printed (steps : List Step) : List Char :=
  steps.flatMap fun step => match step with
    | .prints text => text
    | .warns _ => []

end Format

def printFormatted : Utility := fun arguments => do
  let (_, operands) ← options "" "" arguments
  match operands with
  | [] => Shell.fail "usage: printf format [arg ...]"
  | format :: arguments => do
      let progress := Format.run format.toList (arguments.length + 1) { arguments }
      let steps := progress.steps.reverse
      Format.perform steps
      let mistake := progress.mistake
      mistake.forM Shell.report
      let written ← printText (String.ofList (Format.printed steps))
      match mistake with
      | some _ => do
          Shell.setStatus 2
          throw .mistake
      | none => pure (max written (if progress.failed then 1 else 0))

end JobShell.Programs.Scripting
