import JobShell.Programs.Mapping.Array

/-!
# Mapping characters

`tr` replaces, deletes and squeezes the characters of a stream by sets.
-/

namespace JobShell.Programs

open JobShell.Machine
open JobShell.Machine.Action

namespace Mapping

/-- What is done with the sets. -/
structure Request where
  deletes : Bool
  squeezes : Bool
  complements : Bool
  /-- A longer first set is cut off. -/
  truncates : Bool

/-- What happens to a stream. -/
structure Transformation where
  deletes : Char → Bool := fun _ => false
  replace : Char → Char := id
  squeezes : Char → Bool := fun _ => false

/-! ## Replacing -/

/-- Gives the copies that are needed to make a set as long as another one. -/
def fillUp (missing : Nat) (elements : List Element) : List Element :=
  elements.map fun element =>
    match element with
    | .repeated c none => if missing = 0 then .repeated c none else .repeated c (some missing)
    | element => element

/-- A character that is replaced by another, or a case by the other. -/
inductive Exchange where
  | one (old new : Char)
  | upper
  | lower
  deriving DecidableEq, Repr, Inhabited

/-- Pairs up characters.  Elements that stand for all letters of a case must meet.
`fresh` holds where an element begins. -/
def pairUp : Nat → List (Bool × List Char) → List (Bool × List Char) → Bool →
    Except String (List Exchange)
  | 0, _, _, _ => .ok []
  | limit + 1, (_, []) :: left, right, _ => pairUp limit left right true
  | limit + 1, left, (_, []) :: right, fresh => pairUp limit left right fresh
  | limit + 1, left, (true, new :: news) :: right, fresh =>
      match left with
      | (true, old :: _) :: left =>
          if !fresh then .error "misaligned [:upper:] and/or [:lower:] construct"
          else
            let exchange : Exchange :=
              if old.isLower && new.isUpper then .upper
              else if old.isUpper && new.isLower then .lower
              else .one old new
            (pairUp limit left right true).map (exchange :: ·)
      | _ =>
          let _ := news
          .error "misaligned [:upper:] and/or [:lower:] construct"
  | limit + 1, (isCase, old :: olds) :: left, (false, new :: news) :: right, _ =>
      (pairUp limit ((isCase, olds) :: left) ((false, news) :: right) olds.isEmpty).map
        (.one old new :: ·)
  | _, _, _, _ => .ok []

/-- The cases in the second set that pair up with cases in the first, by which the
sets are that much shorter than their members. -/
def caseExcess (elements : List Element) : Nat :=
  (elements.filter Element.isCase).length * 25

/-- The character that the last exchange of a character gives it. -/
def replaceBy (exchanges : List Exchange) (c : Char) : Char :=
  exchanges.foldl
    (fun found exchange =>
      match exchange with
      | .one old new => if old = c then new else found
      | .upper => if c.isLower then c.toUpper else found
      | .lower => if c.isUpper then c.toLower else found) c

/-- The last character of a set, by which it is made longer. -/
def lastMember (elements : List Element) : Except String Char :=
  match elements.getLast? with
  | some (.named _) =>
      .error ("when translating with string1 longer than string2,\n"
        ++ "the latter string must not end with a character class")
  | some (.range _ last) => .ok last
  | some (.one c) | some (.equivalent c) | some (.repeated c _) => .ok c
  | none => .error "when not truncating set1, string2 must be non-empty"

def chunks (elements : List Element) : List (Bool × List Char) :=
  elements.map fun element => (element.isCase, element.members)

/-- What speaks against replacing by a set. -/
def targetMistake? (target : List Element) : Option String :=
  if target.any fun element => match element with
    | .equivalent _ => true
    | _ => false
  then some "[=c=] expressions may not appear in string2 when translating"
  else if target.any fun element => element.isNamed && !element.isCase then
    some ("when translating, the only character classes that may appear in\n"
      ++ "string2 are 'upper' and 'lower'")
  else none

/-- The replacement of one set by another one. -/
def replacement (request : Request) (source target : List Element) :
    Except String (Char → Char) := do
  let sourceLength := if request.complements
    then 256 - (members source).eraseDups.length else length source
  let target := fillUp (sourceLength - length target) target
  match targetMistake? target with
  | some message => .error message
  | none => do
      let limit := 4 * (sourceLength + (members target).length + source.length + target.length + 1)
      let isPaired := !request.complements && target.any Element.isNamed
      if isPaired then
        let _ ← pairUp limit (chunks source) (chunks target) true
        pure ()
      let excess := if isPaired then caseExcess target else 0
      let missing := (sourceLength - excess) - (length target - excess)
      let extended ←
        if missing = 0 || request.truncates then pure target
        else if length target = 0 then
          .error "when not truncating set1, string2 must be non-empty"
        else (lastMember target).map fun last => target ++ [.repeated last (some missing)]
      let isUniform := (members extended).eraseDups.length ≤ 1
        && (request.truncates && missing ≠ 0) = false
      if request.complements && source.any Element.isNamed && !isUniform then
        .error ("when translating with complemented character classes,\n"
          ++ "string2 must map all characters in the domain to one")
      else if request.complements then
        let listed := members source
        let others := allChars.filter fun c => !listed.contains c
        let exchanges := (others.zip (members extended)).map fun pair =>
          Exchange.one pair.1 pair.2
        .ok (replaceBy exchanges)
      else (pairUp limit (chunks source) (chunks extended) true).map replaceBy

/-- What is done with a stream, or what speaks against it. -/
def transformation (request : Request) (source : List Element) (target : Option (List Element)) :
    Except String Transformation := do
  let listed := members source
  let chosen (c : Char) : Bool := listed.contains c != request.complements
  if source.any Element.isIndefinite then
    .error "the [c*] repeat construct may not appear in string1"
  else
    match target with
    | none =>
        .ok { deletes := fun c => request.deletes && chosen c
              squeezes := fun c => request.squeezes && !request.deletes && chosen c }
    | some target =>
        let squeezed (elements : List Element) : Char → Bool :=
          let listed := members elements
          fun c => request.squeezes && listed.contains c
        if 1 < (target.filter Element.isIndefinite).length then
          .error "only one [c*] repeat construct may appear in string2"
        else if request.deletes then
          if target.any Element.isIndefinite then
            .error "the [c*] construct may appear in string2 only when translating"
          else .ok { deletes := chosen, squeezes := squeezed target }
        else do
          let replace ← replacement request source target
          let filled := target.map fun element =>
            match element with
            | .repeated c none => Element.one c
            | element => element
          .ok { replace, squeezes := squeezed filled }

/-! ## Streams -/

/-- A transformation with its answers written down. -/
structure Tables where
  deletes : Array Bool
  replace : Array UInt8
  squeezes : Array Bool

def Transformation.tables (transformation : Transformation) : Tables where
  deletes := (allChars.map transformation.deletes).toArray
  replace := (allChars.map fun c => UInt8.ofNat (transformation.replace c).toNat).toArray
  squeezes := (allChars.map transformation.squeezes).toArray

/-- Maps bytes that follow the byte `last` of the output; what has been mapped is kept
in reverse. -/
def Tables.map (tables : Tables) : Option UInt8 → Bytes → Bytes → Bytes × Option UInt8
  | last, [], mapped => (mapped.reverse, last)
  | last, byte :: rest, mapped =>
      if tables.deletes.getD byte.toNat false then tables.map last rest mapped
      else
        let replaced := tables.replace.getD byte.toNat byte
        if last = some replaced && tables.squeezes.getD replaced.toNat false then
          tables.map last rest mapped
        else tables.map (some replaced) rest (replaced :: mapped)

def mapStream (name : String) (tables : Tables) : Action Nat := do
  let step (last : Option UInt8) (bytes : Bytes) : Action (Option UInt8 × Bool) := do
    let (mapped, last) := tables.map last bytes []
    emit name 1 mapped
    pure (last, true)
  match ← eachChunk input step readLimit none with
  | .ok _ => pure 0
  | .error errno => failWith name (failureText "read error" errno) 1

def table : OptionTable where
  flags := "cCdst"
  long := longFlags [("complement", "c"), ("delete", "d"), ("squeeze-repeats", "s"),
    ("truncate-set1", "t")]
  leading := true

/-- What is wrong with the number of sets. -/
def operandMistake? (request : Request) (operands : List String) : Option String :=
  let least := if request.deletes = request.squeezes then 2 else 1
  let most := if request.deletes && !request.squeezes then 1 else 2
  match operands with
  | [] => some "missing operand"
  | operands =>
      if operands.length < least then
        some ("missing operand after " ++ plainQuoted (operands.getLastD "")
          ++ (if request.squeezes
            then "\nTwo strings must be given when both deleting and squeezing repeats."
            else "\nTwo strings must be given when translating."))
      else if most < operands.length then
        some ("extra operand " ++ plainQuoted (operands.getD most "")
          ++ (if operands.length = 2
            then "\nOnly one string may be given when deleting without squeezing repeats."
            else ""))
      else none

/-- The elements of each written set, with warnings printed. -/
def readSets (name : String) : List String → Action (Except String (List (List Element)))
  | [] => pure (.ok [])
  | text :: rest => do
      let (symbols, warnings) := symbols text
      for warning in warnings do warn name warning
      match elements symbols with
      | .error message => pure (.error message)
      | .ok first => do
          let others ← readSets name rest
          pure (others.map (first :: ·))

end Mapping

def tr : Program :=
  program fun name arguments =>
    withArguments name 1 Mapping.table arguments fun arguments => do
      let request : Mapping.Request :=
        { deletes := arguments.has "d", squeezes := arguments.has "s"
          complements := arguments.has "c" || arguments.has "C", truncates := arguments.has "t" }
      match Mapping.operandMistake? request arguments.operands with
      | some message => misused name message 1
      | none =>
          match ← Mapping.readSets name arguments.operands with
          | .error message => failWith name message 1
          | .ok sets =>
              match Mapping.transformation request (sets.headD []) sets[1]? with
              | .error message => failWith name message 1
              | .ok transformation => Mapping.mapStream name transformation.tables

end JobShell.Programs
