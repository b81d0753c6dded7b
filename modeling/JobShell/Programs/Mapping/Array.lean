import JobShell.Programs.Basic
import JobShell.Programs.Mapping.Classes

/-!
# Written sets

A set of characters in an order, as it is written: characters, ranges, classes,
equivalence classes, and repeated characters.
-/

namespace JobShell.Programs.Mapping

/-- A character that may have been written with a backslash, and then stands for
itself. -/
structure Symbol where
  char : Char
  escaped : Bool
  deriving DecidableEq, Repr, Inhabited

def Symbol.isPlain (symbol : Symbol) (c : Char) : Bool :=
  symbol.char = c && !symbol.escaped

inductive Element where
  | one (c : Char)
  | range (first last : Char)
  | named (name : String)
  | equivalent (c : Char)
  /-- Some copies, or as many as are needed. -/
  | repeated (c : Char) (count : Option Nat)
  deriving DecidableEq, Repr, Inhabited

/-! ## Symbols -/

def isOctalDigit (c : Char) : Bool :=
  '0' ≤ c && c ≤ '7'

def octalValue (digits : List Char) : Nat :=
  digits.foldl (fun value c => value * 8 + (c.toNat - '0'.toNat)) 0

/-- What a letter after a backslash stands for. -/
def escapedChar : Char → Char
  | 'a' => '\x07'
  | 'b' => '\x08'
  | 'f' => '\x0c'
  | 'n' => '\n'
  | 'r' => '\r'
  | 't' => '\t'
  | 'v' => '\x0b'
  | c => c

/-- The digits of an octal escape, of which there is no third one if the value would
be too large; the second result says whether one has been left out for that. -/
def octalDigits (text : List Char) : List Char × Option Char :=
  let digits := (text.take 3).takeWhile isOctalDigit
  if octalValue digits < 256 then (digits, none) else (digits.take 2, digits.getLast?)

def ambiguityWarning (digits : List Char) (last : Char) : String :=
  "warning: the ambiguous octal escape \\" ++ String.ofList digits ++ last.toString
    ++ " is being\n\tinterpreted as the 2-byte sequence \\0" ++ String.ofList digits ++ ", "
    ++ last.toString

/-- The symbols of a text, and warnings about them. -/
def symbolsFrom : Nat → List Char → List Symbol × List String
  | 0, _ => ([], [])
  | _, [] => ([], [])
  | _, ['\\'] =>
      ([⟨'\\', false⟩], ["warning: an unescaped backslash at end of string is not portable"])
  | limit + 1, '\\' :: c :: rest =>
      if isOctalDigit c then
        let (digits, left) := octalDigits (c :: rest)
        let (others, warnings) := symbolsFrom limit ((c :: rest).drop digits.length)
        (⟨Char.ofNat (octalValue digits), true⟩ :: others,
          (left.map (ambiguityWarning digits)).toList ++ warnings)
      else
        let (others, warnings) := symbolsFrom limit rest
        (⟨escapedChar c, true⟩ :: others, warnings)
  | limit + 1, c :: rest =>
      let (others, warnings) := symbolsFrom limit rest
      (⟨c, false⟩ :: others, warnings)

def symbols (text : String) : List Symbol × List String :=
  symbolsFrom (text.length + 1) text.toList

/-! ## Elements -/

/-- A character as it is shown in a message. -/
def shownChar (c : Char) : String :=
  if isPrintable c then c.toString else String.ofList ('\\' :: octalTriple c)

def shownText (symbols : List Symbol) : String :=
  String.ofList (symbols.flatMap fun symbol =>
    if symbol.char = '\\' then ['\\', '\\'] else (escaped? symbol.char).getD [symbol.char])

/-- What stands before a delimiter and a closing bracket, and what follows them. -/
def upToDelimiter (delimiter : Char) : List Symbol → Option (List Symbol × List Symbol)
  | first :: second :: rest =>
      if first.isPlain delimiter && second.isPlain ']' then some ([], rest)
      else
        (upToDelimiter delimiter (second :: rest)).map fun (inner, rest) => (first :: inner, rest)
  | _ => none

/-- The largest number of copies. -/
def copiesLimit : Nat := 9223372036854775807

/-- A number of copies, which is octal if it begins with a zero. -/
def copies? (digits : List Char) : Option Nat :=
  let value? := if digits.head? = some '0'
    then if digits.all isOctalDigit then some (octalValue digits) else none
    else Text.digitsValue? digits
  value?.filter (· ≤ copiesLimit)

/-- A repeated character after an opening bracket, if there is one. -/
def repetition? (symbols : List Symbol) : Except String (Option (Element × List Symbol)) :=
  match symbols with
  | repeated :: star :: rest =>
      if !star.isPlain '*' then .ok none
      else
        let count := rest.takeWhile fun symbol => !symbol.isPlain ']' && !symbol.escaped
        match rest.drop count.length with
        | closing :: rest =>
            if !closing.isPlain ']' then .ok none
            else if count.isEmpty then .ok (some (.repeated repeated.char none, rest))
            else
              match copies? (count.map Symbol.char) with
              | some value =>
                  let copies := if value = 0 then none else some value
                  .ok (some (.repeated repeated.char copies, rest))
              | none =>
                  .error ("invalid repeat count " ++ plainQuoted (shownText count)
                    ++ " in [c*n] construct")
        | [] => .ok none
  | _ => .ok none

/-- Whether a star, digits and a closing bracket stand here. -/
def isCountedStar (symbols : List Symbol) : Bool :=
  match symbols with
  | star :: rest =>
      star.isPlain '*'
        && ((rest.dropWhile fun symbol => symbol.char.isDigit).head?.any fun symbol =>
          symbol.isPlain ']')
  | [] => false

/-- A class after an opening bracket, if there is one. -/
def class? (symbols : List Symbol) : Except String (Option (Element × List Symbol)) :=
  match symbols with
  | delimiter :: rest =>
      if !delimiter.isPlain ':' && !delimiter.isPlain '=' then .ok none
      else
        match upToDelimiter delimiter.char rest with
        | none => .ok none
        | some (inner, after) =>
            let name := String.ofList (inner.map Symbol.char)
            if delimiter.char = ':' then
              if inner.isEmpty then .error "missing character class name '[::]'"
              else if (namedClass? name).isSome then .ok (some (.named name, after))
              else if isCountedStar rest then .ok none
              else .error ("invalid character class " ++ plainQuoted (shownText inner))
            else
              match inner with
              | [] => .error "missing equivalence class character '[==]'"
              | [symbol] => .ok (some (.equivalent symbol.char, after))
              | _ =>
                  if isCountedStar rest then .ok none
                  else
                    .error (shownText inner
                      ++ ": equivalence class operand must be a single character")
  | [] => .ok none

/-- What stands in brackets here, if anything does. -/
def bracketed? (symbols : List Symbol) : Except String (Option (Element × List Symbol)) := do
  match symbols with
  | opening :: rest =>
      if !opening.isPlain '[' || symbols.length < 3 then .ok none
      else
        match ← class? rest with
        | some found => .ok (some found)
        | none => repetition? rest
  | [] => .ok none

/-- The elements that symbols stand for; `limit` bounds their number. -/
def elementsFrom : Nat → List Symbol → Except String (List Element)
  | 0, _ => .ok []
  | _, [] => .ok []
  | limit + 1, symbol :: rest => do
      match ← bracketed? (symbol :: rest) with
      | some (element, rest) => (elementsFrom limit rest).map (element :: ·)
      | none =>
          match rest with
          | dash :: last :: others =>
              if !dash.isPlain '-' then
                (elementsFrom limit rest).map (.one symbol.char :: ·)
              else if last.char < symbol.char then
                .error ("range-endpoints of '" ++ shownChar symbol.char ++ "-"
                  ++ shownChar last.char ++ "' are in reverse collating sequence order")
              else (elementsFrom limit others).map (.range symbol.char last.char :: ·)
          | rest => (elementsFrom limit rest).map (.one symbol.char :: ·)

def elements (symbols : List Symbol) : Except String (List Element) :=
  elementsFrom (symbols.length + 1) symbols

/-! ## Members -/

def Element.members : Element → List Char
  | .one c | .equivalent c => [c]
  | .range first last => charsFrom first last
  | .named name => allChars.filter ((namedClass? name).getD fun _ => false)
  | .repeated c count => List.replicate (min (count.getD 0) 256) c

/-- How many characters there are. -/
def Element.length : Element → Nat
  | .repeated _ count => count.getD 0
  | element => element.members.length

def length (elements : List Element) : Nat :=
  (elements.map Element.length).foldl (· + ·) 0

def members (elements : List Element) : List Char :=
  elements.flatMap Element.members

def Element.isIndefinite : Element → Bool
  | .repeated _ none => true
  | _ => false

def Element.isNamed : Element → Bool
  | .named _ => true
  | _ => false

/-- Whether an element stands for all letters of one case. -/
def Element.isCase (element : Element) : Bool :=
  element = .named "upper" || element = .named "lower"

end JobShell.Programs.Mapping
