import JobShell.Programs.Scripting.State

/-!
# Fields

The text of an expanded word remembers what was quoted and what may be split.  It falls
into fields at separators, and a field that is a pattern stands for the files that it
matches.
-/

namespace JobShell.Programs.Scripting

open JobShell.Machine

/-- An element of an expanded word. -/
inductive Glyph where
  /-- Quotes that make a field even if there is nothing between them. -/
  | mark
  | char (c : Char) (escaped : Bool)
  deriving DecidableEq, Repr, Inhabited

/-- Where a part of an expanded word may be split. -/
inductive Region where
  | fixed
  /-- At separators. -/
  | splits
  /-- Between parameters only. -/
  | separates
  /-- At separators, together with the text next to it. -/
  | written
  deriving DecidableEq, Repr, Inhabited

structure Piece where
  glyphs : List Glyph
  region : Region
  deriving Repr, Inhabited

def glyphs (escaped : Bool) (text : String) : List Glyph :=
  text.toList.map fun c => .char c escaped

/-- The character between parameters that are fields of their own. -/
def separator : Char := '\x00'

def glyphChar? : Glyph → Option Char
  | .mark => none
  | .char c _ => some c

def glyphText (glyphs : List Glyph) : String :=
  String.ofList (glyphs.filterMap glyphChar?)

/-- The text of pieces that are not split. -/
def pieceText (pieces : List Piece) : String :=
  glyphText (pieces.flatMap Piece.glyphs)

/-- Joins texts that were written next to each other. -/
def joinWritten : List Piece → List Piece
  | [] => []
  | piece :: rest =>
      match piece.region, joinWritten rest with
      | .written, next :: others =>
          if next.region = .written then
            { next with glyphs := piece.glyphs ++ next.glyphs } :: others
          else piece :: next :: others
      | _, others => piece :: others

/-! ## Splitting -/

def isBlankSeparator (c : Char) : Bool :=
  c = ' ' || c = '\t' || c = '\n' || c = separator

/-- How far a text has been split. -/
structure Split where
  /-- Where the current field starts. -/
  start : Nat := 0
  place : Nat := 0
  /-- A blank has ended the last field. -/
  afterBlank : Bool := false
  /-- How many more fields there can be, if that is limited. -/
  most : Option Nat := none
  /-- Where the last field ends if only separators follow. -/
  cut : Option Nat := none
  /-- The fields so far, latest first, each from a place to a place. -/
  found : List (Nat × Nat) := []
  lastSeparates : Bool := false
  beforeSeparates : Bool := false
  deriving Repr, Inhabited

namespace Split

/-- Passes over a character of a region in which it is a separator or not. -/
def step (split : Split) (isSeparator : Bool) (isBlank : Bool) : Split :=
  let place := split.place
  let next := { split with place := place + 1 }
  if split.most = some 0 then
    if isBlank then { next with cut := some (split.cut.getD place) }
    else
      { next with
        cut := if isSeparator && split.afterBlank then split.cut else none, afterBlank := false }
  else if split.afterBlank && isBlank then { next with start := place + 1 }
  else
    let next := if split.afterBlank then
        { next with start := if isSeparator then place + 1 else place } else next
    if isSeparator && !split.afterBlank then
      let blank := if split.beforeSeparates || split.lastSeparates then split.afterBlank
        else isBlank
      if place = next.start && blank then { next with start := place + 1, afterBlank := false }
      else if split.most = some 1 then
        { next with most := some 0, cut := some place, afterBlank := blank }
      else
        { next with
          most := split.most.map (· - 1), found := (next.start, place) :: split.found
          start := place + 1, afterBlank := blank }
    else { next with afterBlank := false }

/-- Passes over one piece. -/
def piece (separators : List Char) (split : Split) (piece : Piece) : Split :=
  if piece.region = .fixed then { split with place := split.place + piece.glyphs.length }
  else
    let separates := piece.region = .separates
    let begun :=
      { split with
        afterBlank := false, beforeSeparates := split.lastSeparates, lastSeparates := separates }
    piece.glyphs.foldl
      (fun split glyph =>
        match glyph with
        | .mark => split.step false false
        | .char c _ =>
            let isSeparator := c = separator || (!separates && separators.contains c)
            split.step isSeparator (isSeparator && isBlankSeparator c))
      begun

/-- The fields, with the last one. -/
def finish (split : Split) (length : Nat) : List (Nat × Nat) :=
  let stop := split.cut.getD length
  let found :=
    if split.lastSeparates || split.start < stop then (split.start, stop) :: split.found
    else split.found
  found.reverse

end Split

/-- The fields of an expanded word, at most as many as the limit. -/
def splitPieces (separators : List Char) (most : Option Nat) (pieces : List Piece) :
    List (List Glyph) :=
  let all := (pieces.flatMap Piece.glyphs).toArray
  let split := pieces.foldl (Split.piece separators) { most }
  (split.finish all.size).map fun (start, stop) => (all.extract start stop).toList

/-! ## Patterns -/

/-- The pattern that a text is: what is escaped stands for itself.  The first result of
the step says whether the last character was a backslash that escapes the next. -/
def patternText (glyphs : List Glyph) : List Char :=
  let (pattern, _) := glyphs.foldl
    (fun (found : List Char × Bool) glyph =>
      match glyph with
      | .mark => (found.1, false)
      | .char c true => (if found.2 then c :: found.1 else c :: '\\' :: found.1, false)
      | .char c false => (c :: found.1, c = '\\' && !found.2))
    ([], false)
  pattern.reverse

def pattern (glyphs : List Glyph) : List Wildcard :=
  Wildcard.read ['!'] (patternText glyphs)

/-! ## File names -/

/-- A pattern without its backslashes. -/
def literalText : List Char → List Char
  | '\\' :: c :: rest => c :: literalText rest
  | c :: rest => c :: literalText rest
  | [] => []

/-- Whether a bracket is closed before the next slash. -/
def closesBracket (rest : List Char) : Bool :=
  let rest := if rest.head? = some '!' then rest.tail else rest
  let rec search : List Char → Bool
    | [] => false
    | '\\' :: c :: rest => c ≠ '/' && (rest.head? = some ']' || search rest)
    | c :: rest => c ≠ '/' && (rest.head? = some ']' || search rest)
  search rest

/-- How a pattern for paths is cut: what stands for itself, the first name that is a
pattern, and what follows the slash behind it. -/
structure PathCut where
  literal : List Char
  name : List Char
  rest : Option (List Char)
  deriving Repr, Inhabited

/-- Cuts a pattern; `literal` and `name` are in reverse. -/
def cutFrom (isPattern : Bool) (literal name : List Char) : List Char → Option PathCut
  | [] => if isPattern then some ⟨literal.reverse, name.reverse, none⟩ else none
  | '\\' :: '/' :: rest =>
      if isPattern then some ⟨literal.reverse, name.reverse, some rest⟩
      else cutFrom false ('/' :: '\\' :: name ++ literal) [] rest
  | '\\' :: c :: rest => cutFrom isPattern literal (c :: '\\' :: name) rest
  | '/' :: rest =>
      if isPattern then some ⟨literal.reverse, name.reverse, some rest⟩
      else cutFrom false ('/' :: name ++ literal) [] rest
  | c :: rest =>
      let isWild := c = '*' || c = '?' || (c = '[' && closesBracket rest)
      cutFrom (isPattern || isWild) literal (c :: name) rest

/-- Whether a name is hidden from a pattern. -/
def hides (pattern : List Char) (name : List Char) : Bool :=
  let first := if pattern.head? = some '\\' then pattern.tail else pattern
  name.head? = some '.' && first.head? ≠ some '.'

/-- The paths that a pattern matches below a directory; `limit` bounds the names in the
pattern. -/
def pathsFrom : Nat → List Char → List Char → Action (List String)
  | 0, _, _ => pure []
  | limit + 1, directory, pattern => do
      match cutFrom false [] [] pattern with
      | none =>
          if directory.isEmpty then pure []
          else
            let path := String.ofList (directory ++ literalText pattern)
            match ← Action.inspect (Text.bytesOf path) false with
            | .ok _ => pure [path]
            | .error _ => pure []
      | some cut => do
          let directory := directory ++ literalText cut.literal
          let place := if directory.isEmpty then ['.'] else directory
          match ← Action.list (Text.bytesOf (String.ofList place)) with
          | .error _ => pure []
          | .ok names =>
              let wildcard := Wildcard.read ['!'] cut.name
              let texts := names.map fun name => (Text.bytewise name).toList
              let found := texts.filter fun name =>
                !hides cut.name name && Wildcard.covers wildcard name
              let paths ← found.mapM fun name =>
                match cut.rest with
                | none => pure [String.ofList (directory ++ name)]
                | some rest => pathsFrom limit (directory ++ name ++ ['/']) rest
              pure paths.flatten

/-- What a field stands for: the files that it matches, or itself. -/
def fieldNames (expands : Bool) (field : List Glyph) : Action (List String) := do
  let isPattern := field.any fun glyph =>
    match glyph with
    | .char c false => c = '*' || c = '?' || c = '['
    | _ => false
  if !expands || !isPattern then pure [glyphText field]
  else
    let pattern := patternText field
    match ← pathsFrom (pattern.length + 1) [] pattern with
    | [] => pure [glyphText field]
    | paths =>
        pure (paths.mergeSort fun left right =>
          lessEqual (Text.bytesOf left) (Text.bytesOf right))

end JobShell.Programs.Scripting
