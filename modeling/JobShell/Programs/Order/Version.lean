/-!
# The order of versions

Names with numbers in them, in the order in which people count: runs of digits are
compared as numbers, a tilde comes before everything, even the end, and letters come
before other characters.  What looks like the endings of a file name only decides
between names that are the same without it.
-/

namespace JobShell.Programs.Order

/-- The rank of a character outside of numbers. -/
def versionRank : List Char → Int
  | [] => -1
  | c :: _ =>
      if c.isDigit then 0
      else if c.isAlpha then c.toNat
      else if c = '~' then -2
      else c.toNat + 256

def startsWithDigit (text : List Char) : Bool :=
  text.head?.any Char.isDigit

/-- Compares up to the next number in each text. -/
def compareBetween : List Char → List Char → Ordering × List Char × List Char
  | [], [] => (.eq, [], [])
  | left :: lefts, [] =>
      if left.isDigit then (.eq, left :: lefts, [])
      else (compare (versionRank (left :: lefts)) (versionRank []), [], [])
  | [], right :: rights =>
      if right.isDigit then (.eq, [], right :: rights)
      else (compare (versionRank []) (versionRank (right :: rights)), [], [])
  | left :: lefts, right :: rights =>
      if left.isDigit && right.isDigit then (.eq, left :: lefts, right :: rights)
      else
        match compare (versionRank (left :: lefts)) (versionRank (right :: rights)) with
        | .eq => compareBetween lefts rights
        | different => (different, [], [])

/-- Compares digits without leading zeros. -/
def compareDigits (left right : List Char) : Ordering :=
  match compare left.length right.length with
  | .eq => compareOfLessAndEq (String.ofList left) (String.ofList right)
  | different => different

/-- Compares texts number by number; `limit` bounds the numbers. -/
def compareVersions : Nat → List Char → List Char → Ordering
  | 0, _, _ => .eq
  | limit + 1, left, right =>
      if left.isEmpty && right.isEmpty then .eq
      else
        match compareBetween left right with
        | (.eq, left, right) =>
            let left := left.dropWhile (· = '0')
            let right := right.dropWhile (· = '0')
            let leftDigits := left.takeWhile Char.isDigit
            let rightDigits := right.takeWhile Char.isDigit
            match compareDigits leftDigits rightDigits with
            | .eq =>
                compareVersions limit (left.drop leftDigits.length)
                  (right.drop rightDigits.length)
            | different => different
        | (different, _, _) => different

/-- Whether text consists of file name endings: dots with a letter or tilde behind
them, and letters, digits and tildes.  `limit` bounds the endings. -/
def isEndings : Nat → List Char → Bool
  | 0, _ => false
  | _, [] => true
  | limit + 1, '.' :: c :: rest =>
      (c.isAlpha || c = '~')
        && isEndings limit (rest.dropWhile fun c => c.isAlphanum || c = '~')
  | _, _ => false

/-- A name without its endings; something is always left. -/
def withoutEndings (before : List Char) : List Char → List Char
  | [] => before.reverse
  | c :: rest =>
      if !before.isEmpty && c = '.' && isEndings (rest.length + 1) (c :: rest) then before.reverse
      else withoutEndings (c :: before) rest

/-- The rank of names by the dots that they begin with. -/
def dotRank : List Char → Nat
  | [] => 0
  | ['.'] => 1
  | ['.', '.'] => 2
  | '.' :: _ => 3
  | _ => 4

def compareNames (left right : List Char) : Ordering :=
  if dotRank left ≠ dotRank right || dotRank left < 3 then compare (dotRank left) (dotRank right)
  else
    let limit := left.length + right.length + 1
    match compareVersions limit (withoutEndings [] left) (withoutEndings [] right) with
    | .eq => compareVersions limit left right
    | different => different

end JobShell.Programs.Order
