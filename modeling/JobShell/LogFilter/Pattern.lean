import JobShell.Text.Alphanumeric
import JobShell.Text.Blank

/-!
# Patterns in filters

A filter can ask that the value of a field matches a regular expression.  Records
are not matched here; what matters is whether the expression is one, since a filter
with a malformed expression is refused.  The expressions know no properties of
characters beyond ASCII: classes of letters and digits, word boundaries and
letters of either case are only there where Unicode has been turned off, and then
nothing may match a byte that is no ASCII character.
-/

namespace JobShell.LogFilter.Pattern

/-- How an expression is read at a place in it. -/
structure Scope where
  unicode : Bool := true
  /-- Letters stand for both cases. -/
  folds : Bool := false
  /-- Blanks and comments are skipped. -/
  verbose : Bool := false
  deriving DecidableEq, Repr, Inhabited

/-- What one character or escape stands for. -/
inductive Atom where
  | character (c : Char)
  | any
  /-- The start or the end of the text or of a line. -/
  | edge
  | wordEdge
  /-- The digits, the blanks or the word characters, or all others. -/
  | class (negated : Bool)
  deriving DecidableEq, Repr, Inhabited

/-! ## Characters and escapes -/

/-- Drops what is skipped before the next character. -/
def skipFrom : Nat → List Char → List Char
  | 0, text => text
  | limit + 1, c :: rest =>
      if Text.isBlank c then skipFrom limit rest
      else if c = '#' then skipFrom limit ((rest.dropWhile (· ≠ '\n')).drop 1)
      else c :: rest
  | _, [] => []

def Scope.skip (scope : Scope) (text : List Char) : List Char :=
  if scope.verbose then skipFrom text.length text else text

def hexValue? (c : Char) : Option Nat :=
  if c.isDigit then some (c.toNat - '0'.toNat)
  else if 'a' ≤ c && c ≤ 'f' then some (c.toNat - 'a'.toNat + 10)
  else if 'A' ≤ c && c ≤ 'F' then some (c.toNat - 'A'.toNat + 10)
  else none

/-- The value of a number of hexadecimal digits. -/
def hexFrom (scope : Scope) : Nat → Nat → List Char → Option (Nat × List Char)
  | 0, value, text => some (value, scope.skip text)
  | count + 1, value, text =>
      match scope.skip text with
      | c :: rest => do hexFrom scope count (value * 16 + (← hexValue? c)) rest
      | [] => none

/-- The character with a number, if there is one. -/
def characterOf? (value : Nat) : Option Char :=
  if h : value.isValidChar then some (Char.ofNatAux value h) else none

/-- A character given by its number in some digits; two digits give a byte. -/
def numbered (scope : Scope) (digits : Nat) (text : List Char) : Option (Atom × List Char) := do
  let (value, rest) ← hexFrom scope digits 0 text
  if digits = 2 && !scope.unicode && value > 127 then none
  else pure (.character (← characterOf? value), rest)

/-- What follows a backslash. -/
def escape (scope : Scope) : List Char → Option (Atom × List Char)
  | 'x' :: rest => numbered scope 2 rest
  | 'u' :: rest => numbered scope 4 rest
  | 'U' :: rest => numbered scope 8 rest
  | 'b' :: '\x7b' :: _ => none
  | c :: rest =>
      if ['d', 's', 'w'].contains c then some (.class false, rest)
      else if ['D', 'S', 'W'].contains c then some (.class true, rest)
      else if ['a', 'f', 't', 'n', 'r', 'v'].contains c then some (.character c, rest)
      else if ['A', 'z'].contains c then some (.edge, rest)
      else if ['b', 'B', '<', '>'].contains c then some (.wordEdge, rest)
      else if c.toNat < 128 && !c.isAlphanum then some (.character c, rest)
      else none
  | [] => none

/-- Whether an atom can stand outside brackets. -/
def Scope.admits (scope : Scope) : Atom → Bool
  | .character _ => !(scope.folds && scope.unicode)
  | .any => scope.unicode
  | .edge => true
  | .wordEdge => !scope.unicode
  | .class negated => !scope.unicode && !negated

/-! ## Brackets -/

/-- Whether an atom can stand between brackets. -/
def Scope.admitsInBrackets (scope : Scope) : Atom → Bool
  | .character c => if scope.unicode then !scope.folds else c.toNat < 128
  | .class negated => !scope.unicode && !negated
  | _ => false

def classNames : List String :=
  ["alnum", "alpha", "ascii", "blank", "cntrl", "digit", "graph", "lower", "print", "punct",
   "space", "upper", "word", "xdigit"]

/-- A class named between colons, given what follows the opening bracket: whether it
is negated, and what follows its closing bracket. -/
def namedClass? : List Char → Option (Bool × List Char)
  | ':' :: rest =>
      let negated := rest.head? = some '^'
      let rest := if negated then rest.tail else rest
      let name := rest.takeWhile (· ≠ ':')
      match rest.drop name.length with
      | ':' :: ']' :: rest =>
          if classNames.contains (String.ofList name) then some (negated, rest) else none
      | _ => none
  | _ => none

def bracketAtom (scope : Scope) : List Char → Option (Atom × List Char)
  | '\\' :: rest => escape scope rest
  | c :: rest => some (.character c, rest)
  | [] => none

/-- One character or range between brackets. -/
def bracketItem (scope : Scope) (text : List Char) : Option (List Char) := do
  let (first, rest) ← bracketAtom scope text
  match scope.skip rest with
  | [] => none
  | '-' :: afterDash =>
      match scope.skip afterDash with
      | [] => none
      | ']' :: _ | '-' :: _ =>
          if scope.admitsInBrackets first then some ('-' :: afterDash) else none
      | next =>
          let (last, rest) ← bracketAtom scope next
          match first, last with
          | .character low, .character high =>
              if low ≤ high && scope.admitsInBrackets first && scope.admitsInBrackets last then
                some rest
              else none
          | _, _ => none
  | rest => if scope.admitsInBrackets first then some rest else none

/-- Drops the dashes, or else the closing bracket, that are characters because they
come first; at least one character has to follow. -/
def dropLeading (scope : Scope) (text : List Char) : Option (List Char) :=
  let rest := match text with
    | ']' :: rest => scope.skip rest
    | _ => (text.dropWhile (· = '-'))
  if rest.isEmpty then none else some rest

/-- Reads up to the closing bracket, and says how deep brackets are nested. -/
def bracketsFrom (scope : Scope) : Nat → List Char → Option (Nat × List Char)
  | 0, _ => none
  | limit + 1, text =>
      match scope.skip text with
      | [] => none
      | ']' :: rest => some (1, rest)
      | '&' :: '&' :: rest | '-' :: '-' :: rest | '~' :: '~' :: rest =>
          bracketsFrom scope limit rest
      | '[' :: rest =>
          match namedClass? rest with
          | some (negated, rest) =>
              if (negated && !scope.unicode) || (scope.folds && scope.unicode) then none
              else bracketsFrom scope limit rest
          | none => do
              let (inner, rest) ← openBrackets scope limit rest
              let (outer, rest) ← bracketsFrom scope limit rest
              pure (max (inner + 1) outer, rest)
      | text => do bracketsFrom scope limit (← bracketItem scope text)
where
  /-- Reads brackets from behind the opening one. -/
  openBrackets (scope : Scope) (limit : Nat) (text : List Char) : Option (Nat × List Char) :=
    match limit, scope.skip text with
    | 0, _ | _, [] => none
    | limit + 1, '^' :: rest =>
        if scope.unicode then do
          bracketsFrom scope limit (← dropLeading scope (scope.skip rest))
        else none
    | limit + 1, text => do bracketsFrom scope limit (← dropLeading scope text)

/-! ## Expressions -/

/-- How deep an expression may be nested. -/
def depthLimit : Nat := 250

/-- What has been read of the alternatives of one group. -/
structure Branches where
  scope : Scope
  /-- The names of all groups so far. -/
  names : List (List Char) := []
  /-- The last item, if it can be repeated, by its depth. -/
  last : Option Nat := none
  /-- How many items the current alternative has, and the depth of the deepest. -/
  items : Nat := 0
  deepest : Nat := 0
  /-- The depth of the deepest alternative before the current one, if there is one. -/
  earlier : Option Nat := none
  deriving Repr, Inhabited

namespace Branches

/-- Adds an item of the given depth. -/
def add (branches : Branches) (depth : Nat) : Branches :=
  { branches with
    last := some depth, items := branches.items + 1, deepest := max branches.deepest depth }

/-- Repeats the last item. -/
def repeatLast (branches : Branches) : Option Branches :=
  branches.last.map fun depth =>
    { branches with last := some (depth + 1), deepest := max branches.deepest (depth + 1) }

def currentDepth (branches : Branches) : Nat :=
  if branches.items ≥ 2 then branches.deepest + 1 else branches.deepest

def nextBranch (branches : Branches) : Branches :=
  { branches with
    last := none, items := 0, deepest := 0
    earlier := some (max (branches.earlier.getD 0) branches.currentDepth) }

def depth (branches : Branches) : Nat :=
  match branches.earlier with
  | some depth => max depth branches.currentDepth + 1
  | none => branches.currentDepth

/-- Changes how the rest of the group is read. -/
def rescope (branches : Branches) (scope : Scope) : Branches :=
  { branches with scope, last := none, items := branches.items + 1 }

end Branches

/-- The flags before a colon or a closing parenthesis, and that character with what
follows it.  No flag may be given twice, and a dash needs a flag after it. -/
def flags : List Char → List Char → Option (List Char × List Char)
  | found, c :: rest =>
      if c = ':' || c = ')' then
        if found.getLast? = some '-' then none else some (found, c :: rest)
      else if "imsUuRx-".toList.contains c && !found.contains c then flags (found ++ [c]) rest
      else none
  | _, [] => none

/-- What a list of flags says about one of them. -/
def flagValue (found : List Char) (flag : Char) (otherwise : Bool) : Bool :=
  if found.contains flag then !(found.takeWhile (· ≠ flag)).contains '-' else otherwise

def Scope.withFlags (scope : Scope) (found : List Char) : Scope :=
  { unicode := flagValue found 'u' scope.unicode
    folds := flagValue found 'i' scope.folds
    verbose := flagValue found 'x' scope.verbose }

def isNameChar (isFirst : Bool) (c : Char) : Bool :=
  c = '_' || (if isFirst then Text.isAlphanumeric c && !c.isDigit
    else Text.isAlphanumeric c || c = '.' || c = '[' || c = ']')

/-- The name of a group and what follows its closing bracket. -/
def groupName (names : List (List Char)) (text : List Char) :
    Option (List Char × List Char) :=
  let name := text.takeWhile (· ≠ '>')
  match name, text.drop name.length with
  | first :: others, '>' :: rest =>
      if isNameChar true first && others.all (isNameChar false) && !names.contains name then
        some (name, rest)
      else none
  | _, _ => none

/-- One atom outside brackets. -/
def atom (scope : Scope) : List Char → Option (List Char)
  | '\\' :: rest => do
      let (found, rest) ← escape scope rest
      if scope.admits found then some rest else none
  | c :: rest =>
      let found := if c = '.' then Atom.any
        else if c = '^' || c = '$' then .edge
        else .character c
      if scope.admits found then some rest else none
  | [] => none

/-- Reads up to the end of a group, or of the expression outside all groups. -/
def branchesFrom (inGroup : Bool) : Nat → Branches → List Char → Option (Branches × List Char)
  | 0, _, _ => none
  | limit + 1, branches, text =>
      match branches.scope.skip text with
      | [] => if inGroup then none else some (branches, [])
      | ')' :: rest => if inGroup then some (branches, rest) else none
      | '|' :: rest => branchesFrom inGroup limit branches.nextBranch rest
      | '[' :: rest => do
          let (depth, rest) ← bracketsFrom.openBrackets branches.scope limit rest
          branchesFrom inGroup limit (branches.add depth) rest
      | '\x7b' :: _ => none
      | '(' :: rest =>
          match branches.scope.skip rest with
          | '?' :: '=' :: _ | '?' :: '!' :: _ | '?' :: '<' :: '=' :: _ | '?' :: '<' :: '!' :: _ =>
              none
          | '?' :: 'P' :: '<' :: rest | '?' :: '<' :: rest => do
              let (name, rest) ← groupName branches.names rest
              group limit branches.scope { branches with names := name :: branches.names } rest
          | '?' :: rest => do
              let (found, rest) ← flags [] rest
              let scope := branches.scope.withFlags found
              match found, rest with
              | [], ')' :: _ => none
              | _, ')' :: rest => branchesFrom inGroup limit (branches.rescope scope) rest
              | _, rest => group limit scope branches rest.tail
          | rest => group limit branches.scope branches rest
      | c :: rest =>
          if c = '*' || c = '+' || c = '?' then do
            let repeated ← branches.repeatLast
            branchesFrom inGroup limit repeated (if rest.head? = some '?' then rest.tail else rest)
          else do
            branchesFrom inGroup limit (branches.add 0) (← atom branches.scope (c :: rest))
where
  /-- Reads a group from behind its opening, and goes on after it. -/
  group (limit : Nat) (scope : Scope) (branches : Branches) (text : List Char) :
      Option (Branches × List Char) :=
    match limit with
    | 0 => none
    | limit + 1 => do
        let (inner, rest) ← branchesFrom true limit { scope, names := branches.names } text
        branchesFrom inGroup limit { branches.add (inner.depth + 1) with names := inner.names } rest

/-- Whether a text is an expression. -/
def isExpression (text : List Char) : Bool :=
  match branchesFrom false (2 * text.length + 2) { scope := {} } text with
  | some (branches, _) => branches.depth ≤ depthLimit
  | none => false

/-! ## Numbers -/

/-- Drops the digits at the start, and says whether there were any. -/
def dropDigits (text : List Char) : Bool × List Char :=
  (text.head?.any Char.isDigit, text.dropWhile Char.isDigit)

def dropSign : List Char → List Char
  | '+' :: rest | '-' :: rest => rest
  | text => text

/-- Whether a text is a number: decimal, perhaps with an exponent, or a word for one
that is not finite. -/
def isNumber (text : List Char) : Bool :=
  let unsigned := dropSign text
  let word := String.ofList (unsigned.map Char.toLower)
  if ["inf", "infinity", "nan"].contains word then true
  else
    let (hasWhole, rest) := dropDigits unsigned
    let (hasFraction, rest) := match rest with
      | '.' :: rest => dropDigits rest
      | _ => (false, rest)
    let exponent := match rest with
      | [] => true
      | c :: rest => (c = 'e' || c = 'E') && dropDigits (dropSign rest) = (true, [])
    (hasWhole || hasFraction) && exponent

/-- Whether a text can stand for the values of a field. -/
def isValid (text : List Char) : Bool :=
  isNumber text || isExpression text

end JobShell.LogFilter.Pattern
