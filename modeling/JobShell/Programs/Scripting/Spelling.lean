import JobShell.Programs.Scripting.Token

/-!
# How words are written

A word is read character by character into marks, among which expansions that are
nested stand between an opening and a closing one; the marks are then nested into
parts.  What a character means depends on the quotes and the expansions around it,
which form a stack of levels.

A script inside of a word is read by a function that these functions take as an
argument.
-/

namespace JobShell.Programs.Scripting

/-- A word while it is read. -/
inductive Mark where
  | char (c : Char) (escaped : Bool)
  | quote
  | value (name : String)
  | opening (name : String) (use : ParameterUse) (coversEmpty : Bool)
  | closing
  | output (command : Option Command)
  | arithmetic
  | endOfArithmetic
  deriving Inhabited

/-- The parts up to the closing mark of what they stand in, and what follows it. -/
def nestFrom : Nat → List Mark → List Part × List Mark
  | 0, rest => ([], rest)
  | _, [] => ([], [])
  | _, .closing :: rest => ([], rest)
  | _, .endOfArithmetic :: rest => ([], rest)
  | limit + 1, mark :: rest =>
      let (part, rest) : Part × List Mark := match mark with
        | .char c escaped => (.char c escaped, rest)
        | .value name => (.parameter name .plain false [], rest)
        | .output command => (.output command, rest)
        | .opening name use coversEmpty =>
            let (word, rest) := nestFrom limit rest
            (.parameter name use coversEmpty word, rest)
        | .arithmetic =>
            let (expression, rest) := nestFrom limit rest
            (.arithmetic expression, rest)
        | _ => (.quote, rest)
      let (others, rest) := nestFrom limit rest
      (part :: others, rest)

def nest (marks : List Mark) : Word :=
  (nestFrom (marks.length + 1) marks).1

/-! ## Levels -/

/-- Which characters have a meaning. -/
inductive Quoting where
  | plain
  | double
  | single
  | arithmetic
  deriving DecidableEq, Repr, Inhabited

structure Level where
  quoting : Quoting := .plain
  /-- Backslashes only escape what has a meaning between double quotes. -/
  doubled : Bool := false
  /-- There is a quote inside of the word of an expansion. -/
  innerQuotes : Bool := false
  /-- How many expansions with words are open. -/
  nesting : Nat := 0
  /-- How many of them are between double quotes. -/
  quotedNesting : Nat := 0
  /-- The level ends with the expansion for which it began. -/
  begun : Bool := false
  parentheses : Nat := 0
  deriving Repr, Inhabited

/-- What is read. -/
inductive Form where
  | word
  /-- A word that marks the end of a text. -/
  | endMark
  /-- A text up to a line. -/
  | document (document : PendingDocument)
  deriving Repr, Inhabited

def Form.isDocument : Form → Bool
  | .document _ => true
  | _ => false

/-- Characters that could mean something if they were not quoted. -/
def isPatternChar (c : Char) : Bool :=
  ['!', '*', '?', '[', '=', '~', ':', '/', '-', ']'].contains c

/-- Characters that end a word. -/
def endsWord (c : Char) : Bool :=
  ['<', '>', '(', ')', ';', '&', '|', ' ', '\t'].contains c

/-- A word while it is read: the levels, the marks in reverse, and whether something
has been quoted. -/
structure Draft where
  level : Level := {}
  outer : List Level := []
  marks : List Mark := []
  quoted : Bool := false
  deriving Inhabited

namespace Draft

def add (draft : Draft) (mark : Mark) : Draft :=
  { draft with marks := mark :: draft.marks }

def put (draft : Draft) (c : Char) : Draft :=
  draft.add (.char c false)

def escape (draft : Draft) (c : Char) : Draft :=
  draft.add (.char c true)

def push (draft : Draft) (level : Level) : Draft :=
  { draft with level, outer := draft.level :: draft.outer }

def pop (draft : Draft) : Draft :=
  { draft with level := draft.outer.headD {}, outer := draft.outer.tail }

def putQuote (draft : Draft) (form : Form) : Draft :=
  if form.isDocument then draft else draft.add .quote

/-- Enters or leaves double quotes. -/
def toggle (draft : Draft) (form : Form) : Draft :=
  let level := draft.level
  let level := if level.nesting > 0 then { level with innerQuotes := !level.innerQuotes } else level
  { draft with level }.putQuote form

/-- A quote that ends those that it stands in. -/
def endQuotes (draft : Draft) (form : Form) (c : Char) : Draft :=
  if form.isDocument && draft.level.nesting = 0 then draft.put c
  else
    let level := if draft.level.quotedNesting = 0
      then { draft.level with quoting := .plain, doubled := false } else draft.level
    let draft := { draft with level, quoted := true }
    if c = '"' then draft.toggle form else draft.putQuote form

/-- A brace, which closes an expansion if one is open. -/
def closeBrace (draft : Draft) : Draft :=
  let level := draft.level
  if level.innerQuotes || level.nesting = 0 then draft.put '\x7d'
  else
    let closed := { level with nesting := level.nesting - 1 }
    let draft :=
      if closed.nesting = 0 && level.begun then draft.pop
      else { draft with level := { closed with quotedNesting := closed.quotedNesting - 1 } }
    draft.add .closing

/-- The word of an expansion begins. -/
def openBrace (draft : Draft) (name : String) (use : ParameterUse) (coversEmpty : Bool)
    (quoting : Quoting) : Draft :=
  let quoting := if quoting = .arithmetic then .double else quoting
  let draft :=
    if quoting ≠ draft.level.quoting || draft.level.innerQuotes then
      draft.push { quoting, doubled := quoting ≠ .plain, begun := true }
    else draft
  let level := draft.level
  { draft with
    level :=
      { level with
        nesting := level.nesting + 1
        quotedNesting := if level.doubled then level.quotedNesting + 1 else level.quotedNesting } }.add
    (.opening name use coversEmpty)

end Draft

/-! ## Expansions -/

/-- How a value is used, by the character behind the name. -/
def useOf? : Char → Option ParameterUse
  | '-' => some .byDefault
  | '+' => some .instead
  | '?' => some .demand
  | '=' => some .assign
  | '\x7d' => some .plain
  | _ => none

open Reading

/-- Characters as long as they belong to a name; the last result is the one behind. -/
def nameFrom (belongs : Char → Bool) :
    Nat → List Char → Option Char → Reading (List Char × Option Char)
  | 0, found, c => pure (found.reverse, c)
  | limit + 1, found, c => do
      match c with
      | some char =>
          if belongs char then nameFrom belongs limit (char :: found) (← nextJoined)
          else pure (found.reverse, some char)
      | none => pure (found.reverse, none)

/-- What is read of an expansion up to its word. -/
structure Head where
  name : List Char
  use : ParameterUse
  coversEmpty : Bool := false

/-- The use that follows a name in braces, given the character behind the name. -/
def useFrom (name : List Char) (c : Option Char) : Reading Head := do
  let choose (coversEmpty : Bool) (c : Option Char) : Head :=
    { name, use := (c.bind useOf?).getD .unknown, coversEmpty }
  match c with
  | some ':' => pure (choose true (← nextJoined))
  | some '%' | some '#' => do
      let second ← nextJoined
      if second ≠ c then giveBack second
      let longest := second = c
      pure { name, use := if c = some '%' then .withoutEnd longest else .withoutStart longest }
  | c => pure (choose false c)

/-- The name of an expansion in braces that begins with a given character, and whether
its length is asked for. -/
def bracedHead (c : Option Char) : Reading Head := do
  let bound ← limit
  match c with
  | some c =>
      if isNameStart c then
        let (name, after) ← nameFrom isNameChar bound [] (some c)
        useFrom name after
      else if c.isDigit then
        let (name, after) ← nameFrom Char.isDigit bound [] (some c)
        useFrom name after
      else if c = '\x7d' then
        giveBack (some c)
        pure { name := [], use := .unknown }
      else
        let second ← nextJoined
        if c ≠ '#' then special c second
        else
          match second with
          | some d =>
              if isNameStart d then
                let (name, after) ← nameFrom isNameChar bound [] (some d)
                length name after
              else if d.isDigit then
                let (name, after) ← nameFrom Char.isDigit bound [] (some d)
                length name after
              else
                let third ← nextJoined
                if d = '\x7d' || third ≠ some '\x7d' then
                  giveBack third
                  special '#' (some d)
                else if isSpecialParameter d then length [d] third
                else
                  giveBack third
                  pure { name := [], use := .unknown }
          | none => special '#' none
  | none => pure { name := [], use := .unknown }
where
  special (c : Char) (after : Option Char) : Reading Head :=
    if isSpecialParameter c then useFrom [c] after
    else do
      giveBack after
      pure { name := [], use := .unknown }
  length (name : List Char) (after : Option Char) : Reading Head := do
    giveBack after
    pure { name, use := if after = some '\x7d' then .length else .unknown }

/-- The text of an old command in backquotes. -/
def backquoted (doubled : Bool) : Nat → List Char → Reading (List Char)
  | 0, found => pure found.reverse
  | limit + 1, found => do
      match ← nextJoined with
      | none => fail .unterminatedBackquote
      | some '\x60' => pure found.reverse
      | some '\\' => do
          match ← next with
          | none => fail .unterminatedBackquote
          | some c =>
              if c = '\\' || c = '\x60' || c = '$' || (doubled && c = '"') then
                backquoted doubled limit (c :: found)
              else backquoted doubled limit (c :: '\\' :: found)
      | some '\n' => do
          nextLine
          backquoted doubled limit ('\n' :: found)
      | some c => backquoted doubled limit (c :: found)

/-- What reads a list of commands inside of a word; the argument says whether it is
closed by a parenthesis. -/
abbrev InnerReader := Bool → Reading (Option Command)

/-- Reads a text as a script of its own. -/
def readInside (inner : InnerReader) (text : List Char) : Reading (Option Command) := do
  let outside ← get
  set { outside with rest := text, line := 1, pending := [], again := false }
  let command ← inner false
  modify fun reader =>
    { reader with
      rest := outside.rest, line := outside.line, pending := outside.pending, again := false }
  pure command

def readEnclosed (inner : InnerReader) : Reading (Option Command) := do
  let outside ← get
  set { outside with pending := [] }
  let command ← inner true
  modify fun reader => { reader with pending := outside.pending }
  pure command

variable (inner : InnerReader)

/-- What follows a dollar sign. -/
def expansion (form : Form) (draft : Draft) : Reading Draft := do
  let c ← nextJoined
  let isMark := match form with
    | .endMark => true
    | _ => false
  match c with
  | some '(' =>
      if isMark then literal c
      else
        match ← nextJoined with
        | some '(' =>
            pure ((draft.push { quoting := .arithmetic, doubled := true }).add .arithmetic)
        | second => do
            giveBack second
            pure (draft.add (.output (← readEnclosed inner)))
  | some '\x7b' =>
      if isMark then literal c
      else
        let head ← bracedHead (← nextJoined)
        let name := String.ofList head.name
        if head.use = .plain && !head.coversEmpty then pure (draft.add (.value name))
        else
          let quoting := match head.use with
            | .withoutEnd _ | .withoutStart _ => .plain
            | _ => draft.level.quoting
          pure (draft.openBrace name head.use head.coversEmpty quoting)
  | some char =>
      if isMark then literal c
      else if isNameStart char then
        let (name, after) ← nameFrom isNameChar (← limit) [] c
        giveBack after
        pure (draft.add (.value (String.ofList name)))
      else if isSpecialParameter char then pure (draft.add (.value char.toString))
      else literal c
  | none => literal c
where
  literal (c : Option Char) : Reading Draft := do
    giveBack c
    pure (draft.put '$')

/-- What follows a backslash outside of single quotes. -/
def escapedChar (form : Form) (draft : Draft) : Reading Draft := do
  match ← next with
  | none => pure (draft.escape '\\')
  | some c =>
      let level := draft.level
      let keeps := level.doubled && c ≠ '\\' && c ≠ '\x60' && c ≠ '$'
        && (c ≠ '"' || (form.isDocument && level.nesting = 0)) && (c ≠ '\x7d' || level.nesting = 0)
      let draft := if keeps then draft.escape '\\' else draft
      pure { draft.escape c with quoted := true }

/-- A command in backquotes. -/
def backquote (form : Form) (draft : Draft) : Reading Draft := do
  match form with
  | .endMark => pure (draft.put '\x60')
  | _ => do
      let text ← backquoted draft.level.doubled (← limit) []
      pure (draft.add (.output (← readInside inner text)))

/-- A character that has a meaning outside of quotes, between double quotes or in
arithmetic; nothing if the word ends before it. -/
def meaningful (form : Form) (draft : Draft) (c : Char) : Reading (Option Draft) := do
  let level := draft.level
  match level.quoting, c with
  | .single, '\'' => pure (some (draft.endQuotes form c))
  | .single, c =>
      pure (some (if isPatternChar c || c = '\\' then draft.escape c else draft.put c))
  | _, '\\' => pure (some (← escapedChar form draft))
  | _, '$' => pure (some (← expansion inner form draft))
  | _, '\x60' => pure (some (← backquote inner form draft))
  | _, '\x7d' => pure (some draft.closeBrace)
  | .plain, '\'' =>
      pure (some ({ draft with level := { level with quoting := .single } }.putQuote form))
  | .plain, '"' =>
      let level := { level with quoting := .double, doubled := true }
      pure (some ({ draft with level }.toggle form))
  | .plain, c =>
      if endsWord c && level.nesting = 0 then do
        giveBack (some c)
        pure none
      else pure (some (draft.put c))
  | .double, '"' => pure (some (draft.endQuotes form c))
  | .double, c => pure (some (if isPatternChar c then draft.escape c else draft.put c))
  | .arithmetic, '(' =>
      pure (some ({ draft with
        level := { level with parentheses := level.parentheses + 1 } }.put c))
  | .arithmetic, ')' =>
      if level.parentheses > 0 then
        pure (some ({ draft with
          level := { level with parentheses := level.parentheses - 1 } }.put c))
      else do
        match ← nextJoined with
        | some ')' => pure (some (draft.pop.add .endOfArithmetic))
        | second => do
            giveBack second
            pure (some (draft.put ')'))
  | .arithmetic, c => pure (some (draft.put c))

/-- Whether the line that begins here ends a text; it is passed over then. -/
def atDocumentEnd (document : PendingDocument) : Reading Bool := do
  let reader ← get
  let (rest, line) := if document.quoted then (reader.rest, reader.line)
    else joinLines reader.rest reader.line
  let rest := if document.stripsTabs then rest.dropWhile (· = '\t') else rest
  let after := rest.drop document.mark.length
  let ends := document.mark.isPrefixOf rest && after.head?.all (· = '\n')
  set (if ends then { reader with rest := after.tail, line := line + 1 }
    else { reader with rest, line })
  pure ends

/-- Reads up to the end of a word or text; `atLineStart` says whether a line begins
here, and `bound` bounds the characters. -/
def draftFrom (form : Form) : Nat → Bool → Draft → Reading Draft
  | 0, _, draft => pure draft
  | bound + 1, atLineStart, draft => do
      let ended ← match form, atLineStart with
        | .document document, true => atDocumentEnd document
        | _, _ => pure false
      if ended then pure draft
      else
        match ← if draft.level.quoting = .single then next else nextJoined with
        | none => pure draft
        | some '\n' =>
            if draft.level.quoting = .plain && draft.level.nesting = 0 then do
              giveBack (some '\n')
              pure draft
            else do
              nextLine
              draftFrom form bound true (draft.put '\n')
        | some c => do
            match ← meaningful inner form draft c with
            | some draft => draftFrom form bound false draft
            | none => pure draft

/-- A word or a text with all that is nested in it. -/
def spelled (form : Form) (level : Level) : Reading (Word × Bool) := do
  let draft ← draftFrom inner form (← limit) true { level }
  if draft.level.quoting = .arithmetic then fail .missingParentheses
  else if draft.level.quoting ≠ .plain && !form.isDocument then fail .unterminatedQuotes
  else if draft.level.nesting > 0 then fail .missingBrace
  else pure (nest draft.marks.reverse, draft.quoted)

/-- Reads the texts that have been asked for. -/
def readDocuments : Reading Unit := do
  let pending := (← get).pending
  modify fun reader => { reader with pending := [] }
  for document in pending do
    let level : Level := if document.quoted then { quoting := .single }
      else { quoting := .double, doubled := true }
    let (word, _) ← spelled inner (.document document) level
    modify fun reader =>
      { reader with documents := reader.documents.setIfInBounds document.number word }

end JobShell.Programs.Scripting
