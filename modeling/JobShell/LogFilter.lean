import JobShell.LogFilter.Pattern
import JobShell.Text.Digits
import JobShell.Text.Utf8

/-!
# Filters for the shell's own records

A filter is a list of directives between commas.  A directive is a level for
everything, or a target, perhaps with a span in brackets, and the level for it;
without a level a target is recorded in full.  The filter's own level is that of
its most verbose directive.  A filter with a malformed directive is refused as a
whole.

A directive is read without the blanks around it, but its parts are taken from the
text with the blanks, at the same positions: blanks at the start move every part.
-/

namespace JobShell.LogFilter

/-- Levels from silence to the most verbose. -/
inductive Level where
  | off
  | error
  | warn
  | info
  | debug
  | trace
  deriving DecidableEq, Repr, Inhabited

namespace Level

def all : List Level :=
  [.off, .error, .warn, .info, .debug, .trace]

def name : Level → String
  | .off => "off"
  | .error => "error"
  | .warn => "warn"
  | .info => "info"
  | .debug => "debug"
  | .trace => "trace"

/-- Position in the order of verbosity, which is also a level's number. -/
def rank : Level → Nat
  | .off => 0
  | .error => 1
  | .warn => 2
  | .info => 3
  | .debug => 4
  | .trace => 5

def max (left right : Level) : Level :=
  if left.rank ≤ right.rank then right else left

/-- A number, with a plus sign or without. -/
def number? : List Char → Option Nat
  | '+' :: digits => Text.digitsValue? digits
  | digits => Text.digitsValue? digits

/-- A level by its number, or by its name in letters of either case. -/
def ofText? (text : List Char) : Option Level :=
  (number? text).bind (fun value => all.find? fun level => level.rank = value)
    |>.or (all.find? fun level => level.name.toList = text.map Char.toLower)

end Level

/-- A character with which a directive can begin. -/
def canBegin (c : Char) : Bool :=
  Text.isAlphanumeric c || ['-', ':', '_'].contains c

/-- What has been read of a directive, with the position at which the current part
begins. -/
inductive Stage where
  | start
  /-- In a level or a target. -/
  | name (start : Nat)
  /-- Behind the opening bracket of a span. -/
  | span
  | field (start : Nat)
  /-- Behind the fields of a span. -/
  | fields
  /-- Behind a span. -/
  | target
  | level (start : Nat)
  deriving DecidableEq, Repr, Inhabited

/-- A directive, as far as the level of its filter depends on it. -/
structure Directive where
  level : Level := .trace
  /-- It depends on values of fields, which are only known while recording. -/
  judgesValues : Bool := false
  deriving DecidableEq, Repr, Inhabited

/-- The part of a text between two positions. -/
def part? (text : Bytes) (start stop : Nat) : Option (List Char) :=
  (Text.decode? ((text.drop start).take (stop - start))).map String.toList

/-- Whether a field is asked for a value; the value has to be a number or an
expression. -/
def fieldJudges? (field : List Char) : Option Bool :=
  match field, field.dropWhile (· ≠ '=') with
  | [], _ => none
  | _, [] => some false
  | _, _ :: rest => if Pattern.isValid (rest.takeWhile (· ≠ '=')) then some true else none

/-- Takes the character at a position. -/
def advance (text : Bytes) (position : Nat) (c : Char) (directive : Directive) :
    Stage → Option (Stage × Directive)
  | .start =>
      if c = '[' then some (.span, directive)
      else if canBegin c then some (.name position, directive)
      else none
  | .name start =>
      if c = '=' then some (.level (position + 1), directive)
      else if c = '[' then some (.span, directive)
      else some (.name start, directive)
  | .span =>
      if c = ']' then some (.target, directive)
      else if c = '\x7b' then some (.field (position + 1), directive)
      else some (.span, directive)
  | .field start =>
      if c = '\x7d' then do
        let judges ← fieldJudges? (← part? text start position)
        pure (.fields, { directive with judgesValues := directive.judgesValues || judges })
      else some (.field start, directive)
  | .fields => if c = ']' then some (.target, directive) else none
  | .target => if c = '=' then some (.level (position + 1), directive) else none
  | .level start => some (.level start, directive)

def advanceAll (text : Bytes) :
    Nat → Stage → Directive → List Char → Option (Stage × Directive)
  | _, stage, directive, [] => some (stage, directive)
  | position, stage, directive, c :: rest => do
      let (stage, directive) ← advance text position c directive stage
      advanceAll text (position + c.utf8Size) stage directive rest

/-- The directive that a text is.  A name without a level is a level if it can be
one, and a target otherwise. -/
def directive? (text : String) : Option Directive := do
  let bytes := Text.encode text
  let (stage, directive) ← advanceAll bytes 0 .start {} (Text.trim text).toList
  match stage with
  | .name start =>
      let name ← part? bytes start bytes.length
      pure { directive with level := (Level.ofText? name).getD .trace }
  | .level start =>
      match ← part? bytes start bytes.length with
      | [] => pure directive
      | level => pure { directive with level := ← Level.ofText? level }
  | .target => pure directive
  | _ => none

/-- The level of a list of directives, or nothing if one of them is malformed. -/
def level? (directives : String) : Option Level :=
  let texts := (directives.splitOn ",").filter (· ≠ "")
  (texts.mapM directive?).map fun found =>
    if found.any Directive.judgesValues then .trace
    else found.foldl (fun level directive => level.max directive.level) .off

structure Verdict where
  rejected : Bool
  level : Level
  deriving DecidableEq, Repr, Inhabited

/-- What a filter lets through; a refused one is replaced by `warn`. -/
def judge (directives : String) : Verdict :=
  match level? directives with
  | some level => { rejected := false, level }
  | none => { rejected := true, level := .warn }

end JobShell.LogFilter
