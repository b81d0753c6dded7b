import JobShell.Programs.Order.Numeral
import JobShell.Programs.Order.Version

/-!
# Keys of lines

A key is a part of a line and a way of comparing it.  The part goes from a place to a
place, each given by a field and a character in it.
-/

namespace JobShell.Programs.Order

/-- Which characters are compared at all. -/
inductive Skipping where
  | none
  /-- All but letters, digits and blanks are passed over. -/
  | punctuation
  | unprintable
  deriving DecidableEq, Repr, Inhabited

/-- How the texts of a key are compared. -/
structure Manner where
  skipsStartBlanks : Bool := false
  skipsEndBlanks : Bool := false
  skipping : Skipping := .none
  folds : Bool := false
  numeric : Bool := false
  general : Bool := false
  human : Bool := false
  month : Bool := false
  random : Bool := false
  version : Bool := false
  reverse : Bool := false
  deriving DecidableEq, Repr, Inhabited

/-- Whether nothing is said but the direction. -/
def Manner.isPlain (manner : Manner) : Bool :=
  { manner with reverse := false } = ({} : Manner)

/-- The place of a character, by the number of fields and characters before it. -/
structure Key where
  startField : Nat := 0
  startChar : Nat := 0
  /-- Where the key ends, if not with the line. -/
  endField : Option Nat := none
  endChar : Nat := 0
  manner : Manner := {}
  deriving Repr, Inhabited

/-! ## Fields -/

def isFieldBlank (c : Char) : Bool :=
  c = ' ' || c = '\t' || c = '\n'

/-- What follows the given number of fields.  A separator belongs to the field before
it; blanks belong to the field after them. -/
def dropFields (separator : Option Char) : Nat → List Char → List Char
  | 0, text => text
  | count + 1, text =>
      match separator with
      | some separator => dropFields (some separator) count ((text.dropWhile (· ≠ separator)).drop 1)
      | none =>
          dropFields none count ((text.dropWhile isFieldBlank).dropWhile fun c => !isFieldBlank c)

/-- What of a line stands from the beginning of a key on. -/
def Key.start (key : Key) (separator : Option Char) (line : List Char) : List Char :=
  let field := dropFields separator key.startField line
  let field := if key.manner.skipsStartBlanks then field.dropWhile isFieldBlank else field
  field.drop key.startChar

/-- What of a line stands behind a key that ends with a whole field. -/
def afterField (separator : Option Char) (fields : Nat) (line : List Char) : List Char :=
  match separator with
  | some separator => (dropFields (some separator) fields line).dropWhile (· ≠ separator)
  | none => dropFields none (fields + 1) line

/-- What of a line stands behind a key. -/
def Key.rest (key : Key) (separator : Option Char) (line : List Char) : List Char :=
  match key.endField with
  | none => []
  | some fields =>
      if key.endChar = 0 then afterField separator fields line
      else
        let field := dropFields separator fields line
        let field := if key.manner.skipsEndBlanks then field.dropWhile isFieldBlank else field
        field.drop key.endChar

/-- The text of a key. -/
def Key.text (key : Key) (separator : Option Char) (line : List Char) : List Char :=
  let start := key.start separator line
  start.take (start.length - (key.rest separator line).length)

/-! ## Comparing -/

def Skipping.keeps (skipping : Skipping) (c : Char) : Bool :=
  match skipping with
  | .none => true
  | .punctuation => c.isAlphanum || isFieldBlank c
  | .unprintable => isPrintable c

/-- The characters of a key that are compared, in the form in which they are. -/
def Manner.prepare (manner : Manner) (text : List Char) : List Char :=
  let kept := if manner.skipping = .none then text else text.filter manner.skipping.keeps
  if manner.folds then kept.map Char.toUpper else kept

def compareChars : List Char → List Char → Ordering
  | [], [] => .eq
  | [], _ :: _ => .lt
  | _ :: _, [] => .gt
  | left :: lefts, right :: rights =>
      match compare left.toNat right.toNat with
      | .eq => compareChars lefts rights
      | different => different

def compareSizes (left right : Int × Fraction) : Ordering :=
  match compare left.1 right.1 with
  | .eq => left.2.compare right.2
  | different => different

/-- Compares the texts of a key, in the order that is not reversed. -/
def Manner.compareTexts (manner : Manner) (left right : List Char) : Ordering :=
  let left := manner.prepare left
  let right := manner.prepare right
  if manner.numeric then (leadingNumber left).1.compare (leadingNumber right).1
  else if manner.general then (Order.general left).compare (Order.general right)
  else if manner.human then compareSizes (sizeKey left) (sizeKey right)
  else if manner.month then compare (Order.month left) (Order.month right)
  else if manner.version then compareNames left right
  else compareChars left right

def Key.compare (key : Key) (separator : Option Char) (left right : List Char) : Ordering :=
  let order := key.manner.compareTexts (key.text separator left) (key.text separator right)
  if key.manner.reverse then order.swap else order

/-- Compares lines by the first key that tells them apart. -/
def compareByKeys (separator : Option Char) (left right : List Char) : List Key → Ordering
  | [] => .eq
  | key :: rest =>
      match key.compare separator left right with
      | .eq => compareByKeys separator left right rest
      | different => different

/-! ## Reading keys -/

/-- Adds what a letter says.  Blanks are skipped at the start, the end, or both. -/
def Manner.add? (manner : Manner) (atStart atEnd : Bool) : Char → Option Manner
  | 'b' => some { manner with
      skipsStartBlanks := manner.skipsStartBlanks || atStart
      skipsEndBlanks := manner.skipsEndBlanks || atEnd }
  | 'd' => some { manner with skipping := .punctuation }
  | 'f' => some { manner with folds := true }
  | 'g' => some { manner with general := true }
  | 'h' => some { manner with human := true }
  | 'i' => some { manner with
      skipping := if manner.skipping = .none then .unprintable else manner.skipping }
  | 'M' => some { manner with month := true }
  | 'n' => some { manner with numeric := true }
  | 'R' => some { manner with random := true }
  | 'r' => some { manner with reverse := true }
  | 'V' => some { manner with version := true }
  | _ => none

/-- Adds letters up to one that says nothing. -/
def Manner.addAll (manner : Manner) (atStart atEnd : Bool) : List Char → Manner × List Char
  | [] => (manner, [])
  | letter :: rest =>
      match manner.add? atStart atEnd letter with
      | some manner => manner.addAll atStart atEnd rest
      | none => (manner, letter :: rest)

/-- The letters of a manner that is not a plain one, without blanks and direction. -/
def Manner.letters (manner : Manner) : String :=
  (if manner.skipping = .punctuation then "d" else "") ++ (if manner.folds then "f" else "")
    ++ (if manner.general then "g" else "") ++ (if manner.human then "h" else "")
    ++ (if manner.skipping = .unprintable then "i" else "") ++ (if manner.month then "M" else "")
    ++ (if manner.numeric then "n" else "") ++ (if manner.random then "R" else "")
    ++ (if manner.version then "V" else "")

/-- Whether a manner asks for two orders at once. -/
def Manner.conflicts (manner : Manner) : Bool :=
  let orders := [manner.numeric, manner.general, manner.human, manner.month,
    manner.version || manner.random || manner.skipping ≠ .none]
  1 < orders.count true

/-- A number at the beginning of a text. -/
def readCount (mistake : String) (text : List Char) : Except String (Nat × List Char) :=
  let unsigned := match text.dropWhile isBlankChar with
    | '+' :: rest => rest
    | rest => rest
  let digits := unsigned.takeWhile Char.isDigit
  match Text.digitsValue? digits with
  | some value => .ok (value, unsigned.drop digits.length)
  | none =>
      .error (mistake ++ ": invalid count at start of " ++ plainQuoted (String.ofList text))
where
  isBlankChar (c : Char) : Bool := c = ' ' || ('\t' ≤ c && c ≤ '\r')

def fieldMistake {α : Type} (specification mistake : String) : Except String α :=
  .error (mistake ++ ": invalid field specification " ++ plainQuoted specification)

/-- A key as it is written: a place, and another one after a comma. -/
def Key.read (specification : String) : Except String Key := do
  let text := specification.toList
  let (field, rest) ← readCount "invalid number at field start" text
  if field = 0 then fieldMistake specification "field number is zero"
  else
    let (char, rest) ← match rest with
      | '.' :: rest => do
          let (char, rest) ← readCount "invalid number after '.'" rest
          if char = 0 then fieldMistake specification "character offset is zero"
          else pure (char - 1, rest)
      | rest => pure (0, rest)
    let (manner, rest) := ({} : Manner).addAll true false rest
    let key : Key := { startField := field - 1, startChar := char, manner }
    match rest with
    | [] => .ok key
    | ',' :: rest => do
        let (field, rest) ← readCount "invalid number after ','" rest
        if field = 0 then fieldMistake specification "field number is zero"
        else
          let (char, rest) ← match rest with
            | '.' :: rest => readCount "invalid number after '.'" rest
            | rest => pure (0, rest)
          let (manner, rest) := manner.addAll false true rest
          if rest.isEmpty then
            .ok { key with endField := some (field - 1), endChar := char, manner }
          else fieldMistake specification "stray character in field spec"
    | _ => fieldMistake specification "stray character in field spec"

end JobShell.Programs.Order
