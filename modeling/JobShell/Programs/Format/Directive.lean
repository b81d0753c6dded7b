import JobShell.Programs.Basic
import JobShell.Programs.Number.Real

/-!
# Directives of formats

A directive begins with a percent sign, has flags, a width and a precision, and ends
in a letter that says what is written.
-/

namespace JobShell.Programs.Format

open JobShell.Machine

/-- A width or precision, which may be taken from the arguments. -/
inductive Size where
  | absent
  | given (value : Nat)
  | argument
  deriving DecidableEq, Repr, Inhabited

structure Directive where
  flags : List Char := []
  width : Size := .absent
  precision : Size := .absent
  letter : Option Char := none
  /-- The directive as it is written. -/
  written : List Char := []
  deriving Repr, Inhabited

/-- How a value is laid out. -/
structure Layout where
  left : Bool := false
  zeros : Bool := false
  plus : Bool := false
  blank : Bool := false
  alternate : Bool := false
  width : Nat := 0
  precision : Option Nat := none
  deriving Repr, Inhabited

/-- The layout for a width and a precision.  A negative width stands to the left, and a
negative precision is none. -/
def Directive.layout (directive : Directive) (width precision : Option Int) : Layout where
  left := directive.flags.contains '-' || width.any (· < 0)
  zeros := directive.flags.contains '0'
  plus := directive.flags.contains '+'
  blank := directive.flags.contains ' '
  alternate := directive.flags.contains '#'
  width := (width.getD 0).natAbs
  precision := precision.bind fun value => if value < 0 then none else some value.toNat

def isFlag (c : Char) : Bool :=
  ['-', '+', ' ', '#', '0'].contains c

/-- A size, and what follows it. -/
def readSize (text : List Char) : Size × List Char :=
  match text with
  | '*' :: rest => (.argument, rest)
  | text =>
      let digits := text.takeWhile Char.isDigit
      (if digits.isEmpty then .absent else .given ((Text.digitsValue? digits).getD 0),
        text.drop digits.length)

/-- Reads a directive after its percent sign, and returns what follows it. -/
def Directive.read (isFlag isLength : Char → Bool) (text : List Char) : Directive × List Char :=
  let flags := text.takeWhile isFlag
  let (width, rest) := readSize (text.drop flags.length)
  let (precision, rest) : Size × List Char := match rest with
    | '.' :: rest =>
        match readSize rest with
        | (.absent, rest) => (.given 0, rest)
        | found => found
    | rest => (.absent, rest)
  let rest := rest.dropWhile isLength
  let after := rest.drop 1
  ({ flags, width, precision, letter := rest.head?
     written := '%' :: text.take (text.length - after.length) }, after)

/-! ## Writing values -/

def blanks (count : Nat) : List Char :=
  List.replicate count ' '

/-- Pads a text on one side. -/
def Layout.pad (layout : Layout) (text : List Char) : List Char :=
  let padding := blanks (layout.width - text.length)
  if layout.left then text ++ padding else padding ++ text

/-- Pads digits after a sign or mark; zeros can be put between. -/
def Layout.padNumber (layout : Layout) (zeros : Bool) (mark digits : List Char) : List Char :=
  if zeros && !layout.left then
    mark ++ List.replicate (layout.width - mark.length - digits.length) '0' ++ digits
  else layout.pad (mark ++ digits)

def Layout.text (layout : Layout) (text : List Char) : List Char :=
  layout.pad (match layout.precision with
    | some count => text.take count
    | none => text)

/-- The sign of a number. -/
def Layout.sign (layout : Layout) (negative : Bool) : List Char :=
  if negative then ['-'] else if layout.plus then ['+'] else if layout.blank then [' '] else []

/-- At least as many digits as the precision asks for; zero has none if it asks for
none. -/
def Layout.digits (layout : Layout) (value : Nat) (digits : List Char) : List Char :=
  match layout.precision with
  | none => digits
  | some least => if value = 0 && least = 0 then [] else Number.filled least digits

def Layout.integer (layout : Layout) (value : Int) : List Char :=
  layout.padNumber (layout.zeros && layout.precision.isNone) (layout.sign (value < 0))
    (layout.digits value.natAbs (Number.digitsOf value.natAbs))

/-- A number without a sign, in the base that its letter stands for. -/
def Layout.natural (layout : Layout) (letter : Char) (value : Nat) : List Char :=
  let zeros := layout.zeros && layout.precision.isNone
  match letter with
  | 'o' =>
      let digits := layout.digits value (Nat.toDigits 8 value)
      let marked := if layout.alternate && digits.head? ≠ some '0' then '0' :: digits else digits
      layout.padNumber zeros [] marked
  | 'x' =>
      let mark := if layout.alternate && value ≠ 0 then ['0', 'x'] else []
      layout.padNumber zeros mark (layout.digits value (Nat.toDigits 16 value))
  | 'X' =>
      let mark := if layout.alternate && value ≠ 0 then ['0', 'X'] else []
      layout.padNumber zeros mark
        ((layout.digits value (Nat.toDigits 16 value)).map Char.toUpper)
  | _ => layout.padNumber zeros [] (layout.digits value (Number.digitsOf value))

/-- A real number in the style of its letter. -/
def Layout.real (layout : Layout) (precision : Number.Precision) (letter : Char)
    (value : Number.Real) : List Char :=
  let style : Number.RealStyle :=
    { letter := letter.toLower, precision := layout.precision, alternate := layout.alternate }
  let digits := Number.writeMagnitude precision style value.magnitude
  let isFinite := match value.magnitude with
    | .finite _ _ => true
    | _ => false
  let sign := layout.sign value.negative
  let (mark, digits) := if digits.take 2 = ['0', 'x'] then (sign ++ ['0', 'x'], digits.drop 2)
    else (sign, digits)
  let shown := layout.padNumber (layout.zeros && isFinite) mark digits
  if letter.isUpper then shown.map Char.toUpper else shown

/-! ## Printing as a sequence of steps -/

/-- What happens while a format is used. -/
inductive Step where
  | prints (text : List Char)
  | warns (message : String)
  deriving Repr, Inhabited

/-- What has happened so far, latest first, and what is left of the arguments. -/
structure Progress where
  steps : List Step := []
  arguments : List String := []
  /-- Nothing more is printed. -/
  ended : Bool := false
  failed : Bool := false
  /-- The mistake that has ended it. -/
  mistake : Option String := none
  deriving Repr, Inhabited

namespace Progress

def print (progress : Progress) (text : List Char) : Progress :=
  { progress with steps := .prints text :: progress.steps }

def warn (progress : Progress) (message : String) : Progress :=
  { progress with steps := .warns message :: progress.steps }

def fail (progress : Progress) (message : String) : Progress :=
  { progress.warn message with failed := true }

def stop (progress : Progress) : Progress :=
  { progress with ended := true }

def stopWith (progress : Progress) (message : String) : Progress :=
  { progress with ended := true, mistake := some message }

/-- The next argument, if there is one. -/
def next (progress : Progress) : Option String × Progress :=
  (progress.arguments.head?, { progress with arguments := progress.arguments.tail })

end Progress

/-- Carries out steps in order. -/
def perform (emit : Bytes → Action Unit) (tell : String → Action Unit) :
    List Step → Action Unit
  | [] => pure ()
  | .prints text :: rest => do
      emit (Text.bytesOf (String.ofList text))
      perform emit tell rest
  | .warns message :: rest => do
      tell message
      perform emit tell rest

/-- Joins what is printed between warnings. -/
def joinSteps : List Step → List Step
  | [] => []
  | .prints first :: rest =>
      match joinSteps rest with
      | .prints second :: rest => .prints (first ++ second) :: rest
      | rest => .prints first :: rest
  | .warns message :: rest => .warns message :: joinSteps rest

end JobShell.Programs.Format
