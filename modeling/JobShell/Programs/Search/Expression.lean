import JobShell.Programs.Mapping.Classes

/-!
# Regular expressions

An expression matches parts of a line.  Matching goes from a place in the line to all
places where a match can end, together with the groups that have been matched on the
way, to which references can refer.
-/

namespace JobShell.Programs.Search

inductive Expression where
  | nothing
  | one (holds : Char → Bool)
  | lineStart
  | lineEnd
  | wordStart
  | wordEnd
  | wordEdge
  | noWordEdge
  | group (index : Nat) (inner : Expression)
  /-- The text of a group again. -/
  | reference (index : Nat)
  | sequence (first second : Expression)
  | either (first second : Expression)
  | copies (inner : Expression) (least : Nat) (most : Option Nat)

/-- A place in a line, and the groups matched so far with their ends. -/
structure Place where
  position : Nat
  groups : List (Nat × Nat × Nat) := []
  deriving DecidableEq, Repr, Inhabited

def isWordChar (c : Char) : Bool :=
  c.isAlphanum || c = '_'

def wordAt (chars : Array Char) (position : Nat) : Bool :=
  (chars[position]?).any isWordChar

def wordBefore (chars : Array Char) (position : Nat) : Bool :=
  position ≠ 0 && wordAt chars (position - 1)

namespace Expression

/-- Adds places that are new. -/
def addNew (found more : List Place) : List Place :=
  more.foldl (fun found place => if found.contains place then found else place :: found) found

def distinct (places : List Place) : List Place :=
  addNew [] places

/-- All places after any number of further copies; `limit` bounds the copies. -/
def closure (step : Place → List Place) : Nat → List Place → List Place → List Place
  | 0, _, found => found
  | limit + 1, latest, found =>
      let fresh := (distinct (latest.flatMap step)).filter fun place => !found.contains place
      if fresh.isEmpty then found else closure step limit fresh (addNew found fresh)

/-- The places after exactly a number of copies. -/
def exactly (step : Place → List Place) : Nat → List Place → List Place
  | 0, places => places
  | count + 1, places =>
      if places.isEmpty then [] else exactly step count (distinct (places.flatMap step))

/-- The places after up to a number of copies. -/
def upTo (step : Place → List Place) : Nat → List Place → List Place → List Place
  | 0, _, found => found
  | count + 1, latest, found =>
      let fresh := (distinct (latest.flatMap step)).filter fun place => !found.contains place
      if fresh.isEmpty then found else upTo step count fresh (addNew found fresh)

def within (chars : Array Char) (start stop : Nat) : List Char :=
  (chars.extract start stop).toList

/-- The places where a match that begins at a place can end.  With `folds`, references
do not tell capital letters from small ones. -/
def ends (folds : Bool) (chars : Array Char) : Expression → Place → List Place
  | .nothing, place => [place]
  | .one holds, place =>
      if (chars[place.position]?).any holds then [{ place with position := place.position + 1 }]
      else []
  | .lineStart, place => if place.position = 0 then [place] else []
  | .lineEnd, place => if place.position = chars.size then [place] else []
  | .wordStart, place =>
      if wordAt chars place.position && !wordBefore chars place.position then [place] else []
  | .wordEnd, place =>
      if wordBefore chars place.position && !wordAt chars place.position then [place] else []
  | .wordEdge, place =>
      if wordAt chars place.position != wordBefore chars place.position then [place] else []
  | .noWordEdge, place =>
      if wordAt chars place.position == wordBefore chars place.position then [place] else []
  | .group index inner, place =>
      (ends folds chars inner place).map fun after =>
        { after with
          groups := (index, place.position, after.position)
            :: after.groups.filter fun group => group.1 ≠ index }
  | .reference index, place =>
      match place.groups.lookup index with
      | none => []
      | some (start, stop) =>
          let fold (text : List Char) : List Char := if folds then text.map Char.toLower else text
          let next := place.position + (stop - start)
          if next ≤ chars.size
              && fold (within chars start stop) = fold (within chars place.position next)
          then [{ place with position := next }] else []
  | .sequence first second, place =>
      distinct ((ends folds chars first place).flatMap (ends folds chars second))
  | .either first second, place =>
      addNew (ends folds chars first place) (ends folds chars second place)
  | .copies inner least most, place =>
      let step := ends folds chars inner
      let start := exactly step least [place]
      match most with
      | none => closure step (chars.size + 1) start start
      | some most => upTo step (most - least) start start

end Expression

end JobShell.Programs.Search
