import JobShell.Programs.Search.Expression
import JobShell.Text.Digits

/-!
# Patterns

Expressions as they are written, in the basic or the extended way.  A pattern is read
from left to right into marks, and the marks into an expression.  What looks like an
operator but cannot be one stands for itself, or is a mistake.
-/

namespace JobShell.Programs.Search

/-- How patterns are written. -/
structure Writing where
  extended : Bool
  /-- Capital and small letters are the same. -/
  folds : Bool

inductive Mark where
  | single (expression : Expression)
  | star
  | plus
  | optional
  | between (least : Nat) (most : Option Nat)
  | bar
  | opening
  | closing

/-- What is wrong with a pattern. -/
inductive PatternFault where
  | unmatchedBracket
  | emptyBracket
  | unknownClass
  | unknownSymbol
  | badRange
  /-- A class stands without brackets around its own. -/
  | bareClass
  | unmatchedOpening
  | unmatchedClosing
  | unmatchedBrace
  | badBounds
  | tooBig
  | badReference
  | trailingBackslash
  deriving DecidableEq, Repr, Inhabited

def PatternFault.message : PatternFault → String
  | .unmatchedBracket => "Unmatched [, [^, [:, [., or [="
  | .emptyBracket => "Invalid regular expression"
  | .unknownClass => "Invalid character class name"
  | .unknownSymbol => "Invalid collation character"
  | .badRange => "Invalid range end"
  | .bareClass => "character class syntax is [[:space:]], not [:space:]"
  | .unmatchedOpening => "Unmatched ( or \\("
  | .unmatchedClosing => "Unmatched ) or \\)"
  | .unmatchedBrace => "Unmatched \\\x7b"
  | .badBounds => "Invalid content of \\\x7b\\\x7d"
  | .tooBig => "Regular expression too big"
  | .badReference => "Invalid back reference"
  | .trailingBackslash => "Trailing backslash"

/-! ## Brackets -/

/-- The name in `[:name:]`, `[.name.]` or `[=name=]`, after the two opening characters,
and what follows it. -/
def bracketName (delimiter : Char) : List Char → Option (List Char × List Char)
  | c :: ']' :: rest =>
      if c = delimiter then some ([], rest)
      else (bracketName delimiter (']' :: rest)).map fun (name, rest) => (c :: name, rest)
  | c :: rest => (bracketName delimiter rest).map fun (name, rest) => (c :: name, rest)
  | [] => none

/-- A member of a bracket expression: one character, or a class of them. -/
inductive Member where
  | char (c : Char)
  | named (holds : Char → Bool)

/-- Names longer than this are not read to their end. -/
def longestName : Nat := 31

/-- A member that begins with an opening bracket, given the character behind it. -/
def specialMember (delimiter : Char) (rest : List Char) :
    Except PatternFault (Member × List Char) :=
  match bracketName delimiter rest with
  | none => .error .unmatchedBracket
  | some (name, after) =>
      if name.length > longestName then .error .unmatchedBracket
      else
        match delimiter, name with
        | ':', name =>
            match namedClass? (String.ofList name) with
            | some holds => .ok (.named holds, after)
            | none => .error .unknownClass
        | '=', [c] => .ok (.named (· = c), after)
        | _, [c] => .ok (.char c, after)
        | _, _ => .error .unknownSymbol

/-- The next member of a bracket expression. -/
def nextMember (text : List Char) : Except PatternFault (Member × List Char) :=
  match text with
  | [] => .error .unmatchedBracket
  | '[' :: delimiter :: rest =>
      if delimiter = ':' || delimiter = '.' || delimiter = '=' then specialMember delimiter rest
      else .ok (.char '[', delimiter :: rest)
  | '-' :: '-' :: '-' :: rest => .ok (.char '-', rest)
  | c :: rest => .ok (.char c, rest)

/-- Whether a dash here makes a range. -/
def beginsRange (text : List Char) : Bool :=
  match text with
  | '-' :: ']' :: _ => false
  | '-' :: '-' :: '-' :: _ => false
  | '-' :: _ => true
  | _ => false

/-- Members up to the closing bracket, which does not close before the first member;
`limit` bounds them. -/
def membersFrom : Nat → Bool → List Char → Except PatternFault (List (Char → Bool) × List Char)
  | 0, _, _ => .error .unmatchedBracket
  | limit + 1, first, text => do
      if !first && text.head? = some ']' then .ok ([], text.tail)
      else if !first && beginsRange text then .error .badRange
      else
        match ← nextMember text with
        | (.named holds, rest) => do
            let (others, rest) ← membersFrom limit false rest
            .ok (holds :: others, rest)
        | (.char low, rest) =>
            if rest.isEmpty || rest = ['-'] then .error .unmatchedBracket
            else if !beginsRange rest then do
              let (others, rest) ← membersFrom limit false rest
              .ok ((· = low) :: others, rest)
            else
              match ← nextMember (rest.drop 1) with
              | (.named _, _) => .error .badRange
              | (.char high, rest) =>
                  if high < low then .error .badRange
                  else do
                    let (others, rest) ← membersFrom limit false rest
                    .ok ((fun c => low ≤ c && c ≤ high) :: others, rest)

/-- Whether what stands in brackets is a class that lacks its own brackets. -/
def looksLikeClass (text : List Char) : Bool :=
  let inner := text.takeWhile (· ≠ ']')
  inner.length > 2 && inner.head? = some ':' && inner.getLast? = some ':'
    && inner.any (· ≠ ':')

/-- A bracket expression after its opening bracket. -/
def bracket (folds : Bool) (text : List Char) : Except PatternFault (Expression × List Char) := do
  let (inverted, inner) := match text with
    | '^' :: rest => (true, rest)
    | rest => (false, rest)
  if inner.isEmpty then .error .emptyBracket
  else
    let (members, rest) ← membersFrom (inner.length + 1) true inner
    let holds (c : Char) : Bool := members.any fun member => member c
    let folded (c : Char) : Bool :=
      if folds then holds c.toLower || holds c.toUpper else holds c
    .ok (.one fun c => folded c != inverted, rest)

/-! ## Marks -/

/-- The largest number of copies that can be asked for. -/
def copiesLimit : Nat := 32767

/-- What ends a number in braces. -/
inductive Ending where
  | closing
  | comma
  | atEnd
  deriving DecidableEq, Repr, Inhabited

/-- The characters of a number in braces, what ends it, and what follows.  The first
result says whether there are only digits. -/
def readNumber (extended : Bool) : Bool → List Char → List Char →
    (Bool × List Char) × Ending × List Char
  | valid, digits, [] => ((valid, digits.reverse), .atEnd, [])
  | valid, digits, [c] =>
      if c = ',' then ((valid, digits.reverse), .comma, [])
      else if extended && c = '\x7d' then ((valid, digits.reverse), .closing, [])
      else ((valid && c.isDigit, (c :: digits).reverse), .atEnd, [])
  | valid, digits, c :: next :: rest =>
      if c = ',' then ((valid, digits.reverse), .comma, next :: rest)
      else if extended && c = '\x7d' then ((valid, digits.reverse), .closing, next :: rest)
      else if c = '\\' then
        if !extended && next = '\x7d' then ((valid, digits.reverse), .closing, rest)
        else readNumber extended false digits rest
      else readNumber extended (valid && c.isDigit) (c :: digits) (next :: rest)

/-- The bounds of a number of copies after an opening brace. -/
inductive Bounds where
  | found (least : Nat) (most : Option Nat) (rest : List Char)
  /-- There is something else than bounds, and whether the text ends in it. -/
  | malformed (unclosed : Bool)
  /-- There are no numbers, or they are in the wrong order. -/
  | wrong
  | tooLarge

def checkBounds (least : Nat) (most : Option Nat) (rest : List Char) : Bounds :=
  if most.any (· < least) then .wrong
  else if copiesLimit < most.getD least then .tooLarge
  else .found least most rest

def readBounds (extended : Bool) (text : List Char) : Bounds :=
  let ((valid, low), ending, rest) := readNumber extended true [] text
  let least := Text.digitsValue? low
  match valid, ending with
  | _, .atEnd => .malformed true
  | false, _ => .malformed false
  | true, .closing =>
      match least with
      | none => .wrong
      | some least => checkBounds least (some least) rest
  | true, .comma =>
      let ((valid, high), ending, rest) := readNumber extended true [] rest
      match valid, ending with
      | _, .atEnd => .malformed true
      | false, _ => .malformed false
      | true, .comma => .wrong
      | true, .closing => checkBounds (least.getD 0) (Text.digitsValue? high) rest

/-- Where in a pattern one is. -/
structure Position where
  /-- There is nothing to repeat but anchors. -/
  atStart : Bool := true
  /-- A group or an alternative begins right here. -/
  opened : Bool := true
  /-- Nothing that is checked to be repeatable stands before. -/
  bare : Bool := true
  /-- An operator without anything to repeat stands before. -/
  dangling : Bool := false
  /-- How many groups are open. -/
  depth : Nat := 0
  /-- How many groups are open where a parenthesis behind a dangling operator stands
  for itself. -/
  checkedDepth : Nat := 0
  openGroups : List Nat := []
  closedGroups : List Nat := []
  groupCount : Nat := 0
  deriving Inhabited

/-- After something that stands for characters. -/
def Position.afterAtom (position : Position) : Position :=
  { position with atStart := false, opened := false, bare := false, dangling := false }

def Position.afterAnchor (position : Position) : Position :=
  { position with opened := false, bare := true, dangling := false }

def Position.afterBar (position : Position) : Position :=
  { position with atStart := true, opened := true, bare := true, dangling := false }

def Position.afterOpening (position : Position) : Position :=
  { position.afterBar with
    depth := position.depth + 1, checkedDepth := position.checkedDepth + 1
    openGroups := (position.groupCount + 1) :: position.openGroups
    groupCount := position.groupCount + 1 }

def Position.afterClosing (position : Position) : Position :=
  { position.afterAtom with
    depth := position.depth - 1
    checkedDepth := if position.dangling then position.checkedDepth else position.checkedDepth - 1
    openGroups := position.openGroups.tail
    closedGroups := position.openGroups.head?.toList ++ position.closedGroups }

/-- After an operator that repeats what stands before it. -/
def Position.afterOperator (position : Position) : Position :=
  { position with opened := false, dangling := position.bare }

/-- Marks with warnings about them. -/
structure Marks where
  marks : List Mark := []
  warnings : List String := []

def Marks.add (mark : Mark) (marks : Marks) : Marks :=
  { marks with marks := mark :: marks.marks }

def Marks.warn (message : String) (marks : Marks) : Marks :=
  { marks with warnings := message :: marks.warnings }

def charMark (writing : Writing) (c : Char) : Mark :=
  .single (.one (if writing.folds then fun other => other.toLower = c.toLower else (· = c)))

/-- The expression for a character after a backslash, if it is not the character
itself, and whether it is an anchor. -/
def escapedExpression? : Char → Option (Expression × Bool)
  | '\x60' => some (.lineStart, true)
  | '\'' => some (.lineEnd, true)
  | '<' => some (.wordStart, true)
  | '>' => some (.wordEnd, true)
  | 'b' => some (.wordEdge, true)
  | 'B' => some (.noWordEdge, true)
  | 'w' => some (.one isWordChar, false)
  | 'W' => some (.one fun c => !isWordChar c, false)
  | 's' => some (.one isSpacing, false)
  | 'S' => some (.one fun c => !isSpacing c, false)
  | _ => none

/-- What a character is in a pattern, without or with a backslash. -/
inductive Role where
  | star
  | plus
  | optional
  | brace
  | bar
  | opening
  | closing
  | plain

def roleOf (extended escaped : Bool) (c : Char) : Role :=
  if c = '*' then if escaped then .plain else .star
  else if extended = escaped then .plain
  else
    match c with
    | '+' => .plus
    | '?' => .optional
    | '\x7b' => .brace
    | '|' => .bar
    | '(' => .opening
    | ')' => .closing
    | _ => .plain

/-- Whether a dollar sign is an anchor before the given text. -/
def endsHere (extended : Bool) (rest : List Char) : Bool :=
  extended || rest.isEmpty || ['\\', ')'].isPrefixOf rest || ['\\', '|'].isPrefixOf rest

def anyChar : Expression :=
  .one fun c => c ≠ '\x00'

/-- The marks of a pattern; `limit` bounds the characters. -/
def marksFrom (writing : Writing) : Nat → Position → List Char → Except PatternFault Marks
  | 0, _, _ => .ok {}
  | _, position, [] => if position.checkedDepth > 0 then .error .unmatchedOpening else .ok {}
  | limit + 1, position, c :: rest => do
      let literal (c : Char) (rest : List Char) : Except PatternFault Marks :=
        (marksFrom writing limit position.afterAtom rest).map (Marks.add (charMark writing c))
      let operator (name : String) (mark : Mark) (rest : List Char) : Except PatternFault Marks :=
        if position.atStart && !writing.extended then literal c rest
        else
          let after := (marksFrom writing limit position.afterOperator rest).map (Marks.add mark)
          if position.atStart then after.map (Marks.warn (name ++ " at start of expression"))
          else after
      let (escaped, c, rest) ←
        match c, rest with
        | '\\', [] => .error .trailingBackslash
        | '\\', c :: rest => .ok (true, c, rest)
        | c, rest => .ok (false, c, rest)
      match roleOf writing.extended escaped c with
      | .star => operator "*" .star rest
      | .plus => operator "+" .plus rest
      | .optional => operator "?" .optional rest
      | .brace =>
          if position.atStart && !writing.extended then literal c rest
          else
            match readBounds writing.extended rest with
            | .found least most after =>
                let found := (marksFrom writing limit
                    (if position.atStart then { position.afterAtom with dangling := false }
                      else position.afterOperator) after).map
                  (Marks.add (.between least most))
                if position.atStart then
                  found.map (Marks.warn "\x7b...\x7d at start of expression")
                else found
            | .malformed unclosed =>
                if writing.extended then
                  (marksFrom writing limit
                      { position.afterAtom with dangling := position.bare } rest).map
                    (Marks.add (charMark writing c))
                else .error (if unclosed then .unmatchedBrace else .badBounds)
            | .wrong =>
                if position.bare then literal c rest else .error .badBounds
            | .tooLarge =>
                if position.bare then literal c rest else .error .tooBig
      | .bar => (marksFrom writing limit position.afterBar rest).map (Marks.add .bar)
      | .opening => (marksFrom writing limit position.afterOpening rest).map (Marks.add .opening)
      | .closing =>
          if position.depth = 0 then
            if writing.extended then literal c rest else .error .unmatchedClosing
          else (marksFrom writing limit position.afterClosing rest).map (Marks.add .closing)
      | .plain =>
          if escaped then
            match escapedExpression? c with
            | some (expression, isAnchor) =>
                (marksFrom writing limit
                    (if isAnchor then position.afterAnchor else position.afterAtom) rest).map
                  (Marks.add (.single expression))
            | none =>
                if '1' ≤ c && c ≤ '9' then
                  let index := c.toNat - '0'.toNat
                  if !position.closedGroups.contains index then .error .badReference
                  else
                    (marksFrom writing limit position.afterAtom rest).map
                      (Marks.add (.single (.reference index)))
                else literal c rest
          else
            match c with
            | '.' =>
                (marksFrom writing limit position.afterAtom rest).map
                  (Marks.add (.single anyChar))
            | '[' => do
                let (expression, rest) ← bracket writing.folds rest
                (marksFrom writing limit position.afterAtom rest).map
                  (Marks.add (.single expression))
            | '^' =>
                if writing.extended || position.opened then
                  (marksFrom writing limit position.afterAnchor rest).map
                    (Marks.add (.single .lineStart))
                else literal c rest
            | '$' =>
                if endsHere writing.extended rest then
                  (marksFrom writing limit position.afterAnchor rest).map
                    (Marks.add (.single .lineEnd))
                else literal c rest
            | c => literal c rest

/-! ## Expressions from marks -/

/-- Applies the repetition marks that follow an expression. -/
def repeated (expression : Expression) : List Mark → Expression × List Mark
  | .star :: rest => repeated (.copies expression 0 none) rest
  | .plus :: rest => repeated (.copies expression 1 none) rest
  | .optional :: rest => repeated (.copies expression 0 (some 1)) rest
  | .between least most :: rest => repeated (.copies expression least most) rest
  | rest => (expression, rest)

/-- Reads alternatives up to a closing mark.  `before` is the part of the current
alternative that has been read, `count` how many groups have begun; `limit` bounds the
marks. -/
def expressionFrom : Nat → Nat → Expression → List Mark → Expression × Nat × List Mark
  | 0, count, before, rest => (before, count, rest)
  | _, count, before, [] => (before, count, [])
  | _, count, before, .closing :: rest => (before, count, .closing :: rest)
  | limit + 1, count, before, .bar :: rest =>
      let (other, count, rest) := expressionFrom limit count .nothing rest
      (.either before other, count, rest)
  | limit + 1, count, before, .opening :: rest =>
      let index := count + 1
      let (inner, count, rest) := expressionFrom limit index .nothing rest
      let (inner, rest) := repeated (.group index inner) (rest.drop 1)
      expressionFrom limit count (.sequence before inner) rest
  | limit + 1, count, before, .single expression :: rest =>
      let (inner, rest) := repeated expression rest
      expressionFrom limit count (.sequence before inner) rest
  | limit + 1, count, before, mark :: rest =>
      let (inner, rest) := repeated .nothing (mark :: rest)
      expressionFrom limit count (.sequence before inner) rest

/-- Takes out groups that no reference needs. -/
def Expression.withoutGroups : Expression → Expression
  | .group _ inner => inner.withoutGroups
  | .sequence .nothing second => second.withoutGroups
  | .sequence first second => .sequence first.withoutGroups second.withoutGroups
  | .either first second => .either first.withoutGroups second.withoutGroups
  | .copies inner least most => .copies inner.withoutGroups least most
  | expression => expression

def Mark.isReference : Mark → Bool
  | .single (.reference _) => true
  | _ => false

/-- Whether something in brackets is a class without its own brackets. -/
def hasBareClass : List Char → Bool
  | '[' :: rest => looksLikeClass rest || hasBareClass rest
  | '\\' :: _ :: rest => hasBareClass rest
  | _ :: rest => hasBareClass rest
  | [] => false

/-- The expression of a pattern and warnings about it, or what is wrong with it. -/
def readPattern (writing : Writing) (pattern : List Char) :
    Except PatternFault (Expression × List String) := do
  let found ← marksFrom writing (pattern.length + 1) {} pattern
  if hasBareClass pattern then .error .bareClass
  else
    let (expression, _, _) := expressionFrom (2 * found.marks.length + 1) 0 .nothing found.marks
    .ok (if found.marks.any Mark.isReference then expression else expression.withoutGroups,
      found.warnings)

/-- The expression for a text that stands for itself. -/
def literalExpression (folds : Bool) (text : List Char) : Expression :=
  text.foldr
    (fun c rest =>
      .sequence (.one (if folds then fun other => other.toLower = c.toLower else (· = c))) rest)
    .nothing

end JobShell.Programs.Search
