import JobShell.Programs.Scripting.Utility.Basic

/-!
# The working directory and the mask of permissions

A script remembers the way that it has taken to its working directory, so that a link
can be left the way it was entered.
-/

namespace JobShell.Programs.Scripting

open JobShell.Machine

/-! ## Ways -/

def slashPieces (path : List Char) : List (List Char) :=
  (path.splitOnP (· = '/')).filter fun piece => !piece.isEmpty

/-- The slashes at the start of an absolute path that cannot be left out: two of them
are not the same as one. -/
def rootOf (path : List Char) : List Char :=
  match path with
  | '/' :: '/' :: '/' :: _ => ['/']
  | '/' :: '/' :: _ => ['/', '/']
  | _ => ['/']

/-- Goes on by one name, given the names so far in reverse. -/
def followName (names : List (List Char)) (name : List Char) : List (List Char) :=
  if name = ['.'] then names
  else if name = ['.', '.'] then names.tail
  else name :: names

/-- The way to a path from a directory. -/
def wayTo (directory path : String) : String :=
  let isAbsolute := path.toList.head? = some '/'
  let root := rootOf (if isAbsolute then path.toList else directory.toList)
  let start := if isAbsolute then [] else (slashPieces directory.toList).reverse
  let names := (slashPieces path.toList).foldl followName start
  String.ofList (root ++ (names.reverse.intersperse ['/']).flatten)

/-- The path that the system knows for the working directory. -/
def physicalDirectory : Shell (Option String) := do
  match ← Shell.act Action.workingDirectory with
  | .ok path => pure (some (Text.bytewise path))
  | .error errno => do
      Shell.report ("getcwd() failed: " ++ errno.systemText)
      pure none

/-- Takes note of the working directory. -/
def noteDirectory (directory : Option String) : Shell Unit := do
  modify fun state => { state with directory }
  Shell.setVariable "PWD" (some (directory.getD "")) true

/-- Whether the last of the letters asks for physical paths. -/
def isPhysical (options : List (Char × String)) : Bool :=
  (options.getLast?.map Prod.fst) = some 'P'

/-- Changes the working directory; the result says whether that was possible. -/
def enterDirectory (physical : Bool) (path : String) : Shell Bool := do
  let before := (← get).directory
  let way : Option String :=
    if physical then none
    else if path.toList.head? = some '/' then some (wayTo "" path)
    else before.map fun directory => wayTo directory path
  match ← Shell.act (Action.changeDirectory (Text.bytesOf (way.getD path))) with
  | .error _ => pure false
  | .ok () => do
      Shell.setVariable "OLDPWD" (some (before.getD "")) true
      match way with
      | some way => noteDirectory (some way)
      | none => noteDirectory (← physicalDirectory)
      pure true

/-- Whether a path is looked for below other directories too. -/
def isSearched (path : String) : Bool :=
  let first := (path.toList.takeWhile (· ≠ '/'))
  path.toList.head? ≠ some '/' && first ≠ ['.'] && first ≠ ['.', '.']

/-- The first of some directories below which there is a path, with what it is below. -/
def findBelow (path : String) : List String → Shell (Option (String × String))
  | [] => pure none
  | directory :: rest => do
      let candidate := if directory = "" then path else directory ++ "/" ++ path
      match ← Shell.act (Action.inspect (Text.bytesOf candidate) true) with
      | .ok { content := .directory _ _ _, .. } => pure (some (directory, candidate))
      | _ => findBelow path rest

/-- Text between colons. -/
def colonPieces (text : String) : List String :=
  (text.toList.splitOnP (· = ':')).map String.ofList

def changeDirectory : Utility := fun arguments => do
  let (found, operands) ← options "LP" "" arguments
  let state ← get
  let isBack := operands.head? = some "-"
  let wanted := match operands with
    | [] => state.value? "HOME"
    | "-" :: _ => state.value? "OLDPWD"
    | path :: _ => some path
  let wanted := wanted.getD ""
  let path := if wanted = "" then "." else wanted
  let below ← match isSearched wanted, state.value? "CDPATH" with
    | true, some list => findBelow path (colonPieces list)
    | _, _ => pure none
  let target := (below.map Prod.snd).getD path
  if !(← enterDirectory (isPhysical found) target) then Shell.fail ("can't cd to " ++ path)
  if isBack || (below.map Prod.fst).any (· ≠ "") then
    printText (((← get).directory.getD "") ++ "\n")
  else pure 0

def printDirectory : Utility := fun arguments => do
  let (found, _) ← options "LP" "" arguments
  let directory ←
    if isPhysical found then physicalDirectory
    else pure (← get).directory
  printText (directory.getD "" ++ "\n")

/-! ## The mask -/

/-- The permissions of one class that letters stand for. -/
def permissionsOf (allowed : Nat) (letters : List Char) : Nat :=
  letters.foldl (fun bits letter => bits ||| (match letter with
    | 'r' => 4
    | 'w' => 2
    | 'x' => 1
    | 'u' => allowed / 64 % 8
    | 'g' => allowed / 8 % 8
    | 'o' => allowed % 8
    | 'X' => if allowed &&& 0o111 ≠ 0 then 1 else 0
    | _ => 0)) 0

/-- The classes that letters stand for, as a mask of their lowest bits. -/
def classesOf (letters : List Char) : Nat :=
  letters.foldl (fun bits letter => bits ||| (match letter with
    | 'a' => 0o111
    | 'u' => 0o100
    | 'g' => 0o010
    | 'o' => 0o001
    | _ => 0)) 0

/-- Applies changes to permissions; `classes` are those that the last clause was about,
and nothing is returned for what is no change. -/
def changePermissions (allowed : Nat) : Nat → Nat → Nat → List Char → Option Nat
  | 0, _, permissions, _ => some permissions
  | _, _, permissions, [] => some permissions
  | limit + 1, classes, permissions, text =>
      let who := text.takeWhile ['a', 'u', 'g', 'o'].contains
      let named := classes ||| classesOf who
      let classes := if named = 0 then 0o111 else named
      match text.drop who.length with
      | [] => some permissions
      | operator :: rest =>
          let letters := rest.takeWhile ['r', 'w', 'x', 'u', 'g', 'o', 'X', 's'].contains
          let bits := permissionsOf allowed letters * classes
          let after := rest.drop letters.length
          let changed : Option Nat := match operator with
            | '-' => some (permissions - (permissions &&& bits))
            | '+' => some (permissions ||| bits)
            | '=' => some (bits ||| (permissions - (permissions &&& (classes * 7))))
            | _ => none
          match changed, after with
          | none, _ => none
          | some permissions, ',' :: more =>
              changePermissions allowed limit 0 permissions more
          | some permissions, [] => some permissions
          | some permissions, more =>
              if more.head?.any ['=', '+', '-'].contains then
                changePermissions allowed limit classes permissions more
              else none

/-- The permissions that new files get, as text. -/
def symbolicMask (mask : Nat) : String :=
  let allowed := 0o777 - (mask &&& 0o777)
  let letters (bits : Nat) : String :=
    (if bits &&& 4 ≠ 0 then "r" else "") ++ (if bits &&& 2 ≠ 0 then "w" else "")
      ++ (if bits &&& 1 ≠ 0 then "x" else "")
  "u=" ++ letters (allowed / 64) ++ ",g=" ++ letters (allowed / 8) ++ ",o=" ++ letters allowed

def changeMask : Utility := fun arguments => do
  let (found, operands) ← options "S" "" arguments
  let mask ← Shell.act (Action.mask none)
  match operands with
  | [] =>
      let digits := octal mask
      let filled := String.ofList (List.replicate (4 - digits.length) '0') ++ digits
      printText ((if hasOption 'S' found then symbolicMask mask else filled) ++ "\n")
  | text :: _ => do
      let chars := text.toList
      if chars.head?.any Char.isDigit then
        if !chars.all (Number.isDigitOf 8) then illegalNumber text
        let _ ← Shell.act (Action.mask (some (Number.valueOf 8 chars &&& 0o777)))
        pure 0
      else
        let allowed := 0o777 - (mask &&& 0o777)
        match changePermissions allowed (chars.length + 1) 0 allowed chars with
        | none => Shell.fail ("Illegal mode: " ++ text)
        | some permissions => do
            let _ ← Shell.act (Action.mask (some (0o777 - (permissions &&& 0o777))))
            pure 0

end JobShell.Programs.Scripting
