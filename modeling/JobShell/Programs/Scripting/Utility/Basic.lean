import JobShell.Programs.Scripting.Expansion

/-!
# What the utilities share

A utility is a command that a script runs without another program.  It returns its
status; a mistake in its use leaves it.
-/

namespace JobShell.Programs.Scripting

open JobShell.Machine

abbrev Utility := List String → Shell Nat

/-- Sorts the options at the front of arguments, given the letters of those without and
with a value. -/
def optionsFrom (flags valued : String) :
    Nat → List String → Shell (List (Char × String) × List String)
  | 0, rest => pure ([], rest)
  | _, [] => pure ([], [])
  | limit + 1, argument :: rest =>
      match argument.toList with
      | ['-', '-'] => pure ([], rest)
      | '-' :: letter :: letters => do
          let (first, rest) ← cluster (letter :: letters) rest
          let (others, rest) ← optionsFrom flags valued limit rest
          pure (first ++ others, rest)
      | _ => pure ([], argument :: rest)
where
  cluster : List Char → List String → Shell (List (Char × String) × List String)
    | [], rest => pure ([], rest)
    | letter :: letters, rest =>
        if valued.toList.contains letter then
          match letters, rest with
          | [], [] => Shell.fail ("No arg for -" ++ letter.toString ++ " option")
          | [], value :: rest => pure ([(letter, value)], rest)
          | letters, rest => pure ([(letter, String.ofList letters)], rest)
        else if flags.toList.contains letter then do
          let (others, rest) ← cluster letters rest
          pure ((letter, "") :: others, rest)
        else Shell.fail ("Illegal option -" ++ letter.toString)

def options (flags valued : String) (arguments : List String) :
    Shell (List (Char × String) × List String) :=
  optionsFrom flags valued (arguments.length + 1) arguments

def hasOption (letter : Char) (options : List (Char × String)) : Bool :=
  options.any fun option => option.1 = letter

def illegalNumber {α : Type} (text : String) : Shell α :=
  Shell.fail ("Illegal number: " ++ text)

/-- A decimal number with a sign and blanks around it. -/
def integer (text : String) : Shell Int :=
  match Number.readDecimal? text.toList with
  | some reading =>
      let (value, outOfRange) := Number.clamp reading.value
      if outOfRange || !reading.rest.all Number.isSpace then illegalNumber text else pure value
  | none => illegalNumber text

/-- The largest number that counts something. -/
def countLimit : Int := 2147483647

/-- A number that counts something. -/
def count (text : String) : Shell Nat := do
  let value ← integer text
  if value < 0 || value > countLimit then illegalNumber text else pure value.toNat

/-- Prints for a utility.  What cannot be printed makes the utility fail. -/
def printBytes (bytes : Bytes) : Shell Nat := do
  match ← Shell.act (Action.writeAll Action.output bytes) with
  | .ok () => pure 0
  | .error _ => do
      let context := (← get).context.getD ""
      Shell.report (context ++ ": I/O error")
      pure 1

def printText (text : String) : Shell Nat :=
  if text = "" then pure 0 else printBytes (Text.bytesOf text)

/-- Writes on the error stream as it is. -/
def mutter (text : String) : Shell Unit :=
  Shell.act (print Action.errors (text ++ "\n"))

/-- Text between quotes, which are double ones around apostrophes. -/
def quotedFrom (apostrophes : Bool) : List Char → List Char
  | [] => [if apostrophes then '"' else '\'']
  | c :: rest =>
      let isApostrophe := c = '\''
      if apostrophes == isApostrophe then c :: quotedFrom apostrophes rest
      else if isApostrophe then '\'' :: '"' :: c :: quotedFrom true rest
      else '"' :: '\'' :: c :: quotedFrom false rest

/-- Text in quotes from which it can be read again. -/
def singleQuoted (text : String) : String :=
  "'" ++ String.ofList (quotedFrom false text.toList)

end JobShell.Programs.Scripting
