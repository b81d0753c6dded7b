import JobShell.Programs.Mapping.Classes

/-!
# Wildcards

Patterns for names, in which a star stands for any text, a question mark for any
character and brackets for one of several characters.  Matching keeps all places that
it can have got to, so no pattern is slow.
-/

namespace JobShell.Programs

inductive Wildcard where
  | one (holds : Char → Bool)
  | many

namespace Wildcard

/-- Characters in brackets: what they hold of, and what follows the closing bracket. -/
abbrev Bracket := Option ((Char → Bool) × List Char)

/-- A class in brackets, after its opening bracket. -/
def readClass? (rest : List Char) : Option ((Char → Bool) × List Char) :=
  match rest with
  | ':' :: rest =>
      let name := rest.takeWhile Char.isAlpha
      match rest.drop name.length, namedClass? (String.ofList name) with
      | ':' :: ']' :: after, some holds => some (holds, after)
      | _, _ => none
  | _ => none

/-- Reads the members of a bracket up to its end, the first of which cannot be the
closing bracket.  `limit` bounds the members. -/
def readMembers : Nat → Bool → (Char → Bool) → List Char → Bracket
  | 0, _, _, _ => none
  | _, _, _, [] => none
  | limit + 1, first, found, c :: rest =>
      if c = ']' && !first then some (found, rest)
      else
        match c, readClass? rest with
        | '[', some (holds, after) =>
            readMembers limit false (fun other => found other || holds other) after
        | _, _ =>
            let (c, rest) := match c, rest with
              | '\\', escaped :: rest => (escaped, rest)
              | _, _ => (c, rest)
            match rest with
            | '-' :: '\\' :: last :: after =>
                readMembers limit false
                  (fun other => found other || (c ≤ other && other ≤ last)) after
            | '-' :: last :: after =>
                if last = ']' then
                  readMembers limit false (fun other => found other || other = c) rest
                else
                  readMembers limit false
                    (fun other => found other || (c ≤ other && other ≤ last)) after
            | _ => readMembers limit false (fun other => found other || other = c) rest

/-- Reads a bracket after its opening; one of the marks in front of its members turns
it around. -/
def readBracket (marks : List Char) (rest : List Char) : Bracket :=
  let inverted := rest.head?.any marks.contains
  let members := if inverted then rest.drop 1 else rest
  (readMembers (members.length + 1) true (fun _ => false) members).map fun (holds, after) =>
    (fun c => holds c != inverted, after)

/-- Reads a pattern; `limit` bounds its parts. -/
def readFrom (marks : List Char) : Nat → List Char → List Wildcard
  | 0, _ => []
  | _, [] => []
  | limit + 1, '*' :: rest => .many :: readFrom marks limit rest
  | limit + 1, '?' :: rest => .one (fun _ => true) :: readFrom marks limit rest
  | limit + 1, '\\' :: c :: rest => .one (· = c) :: readFrom marks limit rest
  | limit + 1, '[' :: rest =>
      match readBracket marks rest with
      | some (holds, after) => .one holds :: readFrom marks limit after
      | none => .one (· = '[') :: readFrom marks limit rest
  | limit + 1, c :: rest => .one (· = c) :: readFrom marks limit rest

/-- Reads a pattern, given the characters that turn brackets around. -/
def read (marks : List Char) (pattern : List Char) : List Wildcard :=
  readFrom marks (pattern.length + 1) pattern

/-- The places after one part of a pattern. -/
def advance (text : Array Char) (places : List Nat) : Wildcard → List Nat
  | .one holds =>
      places.filterMap fun place => if (text[place]?).any holds then some (place + 1) else none
  | .many =>
      match places.min? with
      | none => []
      | some first => List.range' first (text.size + 1 - first)

/-- The places where a match can end that begins at a given place. -/
def stops (pattern : List Wildcard) (text : Array Char) (start : Nat) : List Nat :=
  pattern.foldl (advance text) [start]

/-- Whether a pattern stands for a whole text. -/
def covers (pattern : List Wildcard) (text : List Char) : Bool :=
  (stops pattern text.toArray 0).contains text.length

end Wildcard

end JobShell.Programs
