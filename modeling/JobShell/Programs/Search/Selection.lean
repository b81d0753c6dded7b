import JobShell.Programs.Wildcard

/-!
# Which files are searched

Patterns for names take files in or leave them out.  The last pattern that stands for a
name decides; if there is none, names are treated in the way opposite to what the
first pattern asks for.
-/

namespace JobShell.Programs.Search

structure NamePattern where
  takesIn : Bool
  pattern : String

/-- Whether a pattern stands for a name, or for what follows a slash in it unless it
is `anchored`. -/
def NamePattern.covers (entry : NamePattern) (anchored : Bool) (name : List Char) : Bool :=
  let wildcard := Wildcard.read ['!', '^'] entry.pattern.toList
  let rec tails : List Char → Bool
    | [] => false
    | '/' :: rest =>
        (rest.head?.any (· ≠ '/') && Wildcard.covers wildcard rest) || tails rest
    | _ :: rest => tails rest
  Wildcard.covers wildcard name || (!anchored && tails name)

/-- Whether a name is left out. -/
def leavesOut (entries : List NamePattern) (anchored : Bool) (name : String) : Bool :=
  match entries.reverse.find? fun entry => entry.covers anchored name.toList with
  | some entry => !entry.takesIn
  | none => entries.head?.any NamePattern.takesIn

end JobShell.Programs.Search
