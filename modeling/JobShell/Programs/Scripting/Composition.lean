import JobShell.Programs.Scripting.Spelling

/-!
# How commands are composed

Tokens are composed into commands, commands into pipelines, pipelines into chains and
these into lists.  The functions take the one that reads lists as an argument;
`listFrom` closes the circle.  A script is read one complete command at a time, so that
the commands before a mistake are run.
-/

namespace JobShell.Programs.Scripting

open Reading

/-! ## Tokens -/

/-- What is made of the next token. -/
structure Expecting where
  /-- Line ends are passed over. -/
  pastNewlines : Bool := false
  keywords : Bool := false
  aliases : Bool := false
  endMark : Bool := false
  deriving Inhabited

/-- The beginning of a command after a line end or not. -/
def commandStart (pastNewlines : Bool) : Expecting :=
  { pastNewlines, keywords := true, aliases := true }

variable (inner : InnerReader)

/-- The redirection that an angle bracket begins. -/
def redirectionSign (stream : Option Nat) (bracket : Char) : Reading RedirectionSign := do
  let c ← nextJoined
  if bracket = '>' then
    let stream := stream.getD 1
    match c with
    | some '>' => pure (.file stream .appends)
    | some '|' => pure (.file stream .overwrites)
    | some '&' => pure (.duplicate stream)
    | c => do
        giveBack c
        pure (.file stream .writes)
  else
    let stream := stream.getD 0
    match c with
    | some '<' => do
        match ← nextJoined with
        | some '-' => pure (.document stream true)
        | c => do
            giveBack c
            pure (.document stream false)
    | some '&' => pure (.duplicate stream)
    | some '>' => pure (.file stream .readsAndWrites)
    | c => do
        giveBack c
        pure (.file stream .reads)

/-- The stream that a word before an angle bracket names, if it is one. -/
def streamOf? (word : Word) (quoted : Bool) : Option (Option Nat) :=
  match word, quoted with
  | [], false => some none
  | [.char c false], false => if c.isDigit then some (some (c.toNat - '0'.toNat)) else none
  | _, _ => none

/-- A word, or the redirection that it belongs to. -/
def wordToken (form : Form) : Reading Token := do
  let (word, quoted) ← spelled inner form {}
  let bracket := (← get).rest.head?
  match bracket, streamOf? word quoted with
  | some '<', some stream => do
      let _ ← next
      pure (.redirection (← redirectionSign stream '<'))
  | some '>', some stream => do
      let _ ← next
      pure (.redirection (← redirectionSign stream '>'))
  | _, _ => do
      modify fun reader => { reader with lastWord := word }
      pure (.word word quoted)

/-- An operator of one character, or of two equal ones. -/
def operatorToken (single double : String) : Reading Token := do
  let first := double.toList.head?
  let c ← nextJoined
  if c = first then pure (.operator double)
  else do
    giveBack c
    pure (.operator single)

/-- The next token that has not been read; `bound` bounds the characters. -/
def freshToken (form : Form) : Nat → Reading Token
  | 0 => pure .ended
  | bound + 1 => do
      match ← nextJoined with
      | none => pure .ended
      | some ' ' | some '\t' => freshToken form bound
      | some '#' => do
          modify fun reader => { reader with rest := reader.rest.dropWhile (· ≠ '\n') }
          freshToken form bound
      | some '\n' => do
          nextLine
          pure .newline
      | some '&' => operatorToken "&" "&&"
      | some '|' => operatorToken "|" "||"
      | some ';' => operatorToken ";" ";;"
      | some '(' => pure (.operator "(")
      | some ')' => pure (.operator ")")
      | c => do
          giveBack c
          wordToken inner form

/-- The next token as it is, which may be the last one again. -/
def rawToken (form : Form) : Reading Token := do
  let reader ← get
  if reader.again then
    set { reader with again := false }
    pure reader.last
  else
    let token ← freshToken inner form (← limit)
    modify fun reader => { reader with last := token }
    pure token

/-- Reads past line ends, and the texts that follow them. -/
def pastNewlines (form : Form) : Nat → Token → Reading Token
  | bound + 1, .newline => do
      readDocuments inner
      pastNewlines form bound (← rawToken inner form)
  | _, token => pure token

/-- Puts the meaning of an alias in place of it, unless it stands in that meaning. -/
def replaceAlias (text : List Char) : Reading Bool := do
  let reader ← get
  let left := reader.rest.length
  let replaced := reader.replaced.filter fun entry => entry.2 ≤ left
  let name := String.ofList text
  match reader.aliases.lookup name with
  | none => pure false
  | some meaning =>
      if replaced.any fun entry => entry.1 = name then pure false
      else do
        set { reader with
          rest := meaning.toList ++ reader.rest, replaced := (name, left) :: replaced }
        pure true

/-- Whether the end of an alias has been passed whose meaning ends in a blank; the word
behind it can be an alias too. -/
def passesBlank (before after : Reader) : Bool :=
  before.replaced.any fun (name, left) =>
    left ≤ before.rest.length && after.rest.length < left
      && ((before.aliases.lookup name).bind fun meaning => meaning.toList.getLast?).any
        fun c => c = ' ' || c = '\t'

/-- The next token; `bound` bounds the aliases that are replaced. -/
def tokenFrom (expecting : Expecting) : Nat → Reading Token
  | 0 => pure .ended
  | bound + 1 => do
      let form := if expecting.endMark then Form.endMark else .word
      let before ← get
      let token ← rawToken inner form
      let token ← if expecting.pastNewlines then pastNewlines inner form (← limit) token
        else pure token
      match token with
      | .word word false =>
          match plainText? word with
          | none => pure token
          | some text =>
              let name := String.ofList text
              if expecting.keywords && keywords.contains name then
                modify fun reader => { reader with last := .keyword name }
                pure (.keyword name)
              else if expecting.aliases || passesBlank before (← get) then
                if ← replaceAlias text then tokenFrom expecting bound else pure token
              else pure token
      | token => pure token

def token (expecting : Expecting := {}) : Reading Token := do
  tokenFrom inner expecting (← limit)

/-- The last token is to be read again. -/
def putBack : Reading Unit :=
  modify fun reader => { reader with again := true }

def expectKeyword (expecting : Expecting) (name : String) : Reading Unit := do
  if !(← token inner expecting).isKeyword name then unexpected (some (inQuotes name))

def expectOperator (symbol : String) : Reading Unit := do
  if !(← token inner).isOperator symbol then unexpected (some (inQuotes symbol))

/-! ## Redirections -/

/-- The characters of a word that marks the end of a text. -/
def markText : Word → List Char
  | [] => []
  | .char c _ :: rest => c :: markText rest
  | _ :: rest => markText rest

/-- The target of a redirection. -/
def redirection (sign : RedirectionSign) : Reading Redirection := do
  let isDocument := match sign with
    | .document _ _ => true
    | _ => false
  match ← token inner { endMark := isDocument } with
  | .word word quoted =>
      match sign with
      | .file stream opening => pure (.file stream opening word)
      | .duplicate stream => pure (.duplicate stream word)
      | .document stream stripsTabs => do
          let reader ← get
          let number := reader.documents.size
          let document := { number, mark := markText word, stripsTabs, quoted }
          set { reader with
            documents := reader.documents.push [], pending := reader.pending ++ [document] }
          pure (.document stream number)
  | _ => unexpected none

/-- Redirections after a command, before which keywords and aliases are known. -/
def redirectionsFrom : Nat → Expecting → Reading (List Redirection)
  | 0, _ => pure []
  | bound + 1, expecting => do
      match ← token inner expecting with
      | .redirection sign => do
          let first ← redirection inner sign
          let others ← redirectionsFrom bound {}
          pure (first :: others)
      | _ => do
          putBack
          pure []

/-! ## Simple commands -/

structure SimpleParts where
  assignments : List Word := []
  words : List Word := []
  redirections : List Redirection := []

/-- What a simple command turns out to be. -/
inductive SimpleEnd where
  | command (parts : SimpleParts)
  /-- The name of a function, whose body follows. -/
  | function (name : String)

def functionName (word : Word) : Reading SimpleEnd := do
  expectOperator inner ")"
  match plainText? word with
  | some text =>
      if isName text && !specialUtilities.contains (String.ofList text) then
        pure (.function (String.ofList text))
      else fail .functionName
  | none => fail .functionName

/-- Reads a simple command up to its end; `bound` bounds its words. -/
def simpleFrom : Nat → SimpleParts → Reading SimpleEnd
  | 0, parts => pure (.command parts)
  | bound + 1, parts => do
      match ← token inner { aliases := parts.words.isEmpty } with
      | .word word _ =>
          if parts.words.isEmpty && isAssignment word then
            simpleFrom bound { parts with assignments := parts.assignments ++ [word] }
          else simpleFrom bound { parts with words := parts.words ++ [word] }
      | .redirection sign => do
          let redirection ← redirection inner sign
          simpleFrom bound { parts with redirections := parts.redirections ++ [redirection] }
      | .operator "(" =>
          match parts with
          | { assignments := [], words := [word], redirections := [] } => functionName inner word
          | parts => do
              putBack
              pure (.command parts)
      | _ => do
          putBack
          pure (.command parts)

/-! ## Compound commands -/

/-- How a list of commands ends. -/
inductive ListMode where
  /-- At the end of a line. -/
  | line
  /-- At a token with which no command begins; there is at least one command. -/
  | filled
  /-- The same, but there need not be a command. -/
  | any
  deriving DecidableEq, Repr, Inhabited

abbrev ListReader := ListMode → Reading (Option Command)

/-- A list inside of parentheses or up to the end of its text. -/
def innerList (list : ListReader) : InnerReader := fun enclosed => do
  let command ← list .any
  if enclosed then
    let reader ← get
    if !reader.last.isOperator ")" then unexpected (some (inQuotes ")"))
    set { reader with rest := [], again := false }
    readDocuments (fun _ => pure none)
    modify fun after => { after with rest := reader.rest, line := reader.line }
  pure command

variable (list : ListReader)

/-- What stands for a list that has been cut off, before that is noticed. -/
def noCommand : Command :=
  .simple 0 [] [] []

/-- A list with at least one command. -/
def filledList : Reading Command := do
  pure ((← list .filled).getD noCommand)

/-- The rest of a conditional after its opening keyword; `bound` bounds the branches. -/
def conditionalFrom : Nat → Reading Command
  | 0 => unexpected none
  | bound + 1 => do
      let test ← filledList list
      expectKeyword inner {} "then"
      let body ← filledList list
      match ← token inner with
      | .keyword "elif" => do
          let other ← conditionalFrom bound
          pure (.conditional test body (some other))
      | .keyword "else" => do
          let other ← filledList list
          expectKeyword inner {} "fi"
          pure (.conditional test body (some other))
      | _ => do
          putBack
          expectKeyword inner {} "fi"
          pure (.conditional test body none)

def loop (wanted : Bool) : Reading Command := do
  let test ← filledList list
  expectKeyword inner {} "do"
  let body ← filledList list
  expectKeyword inner {} "done"
  pure (.loop wanted test body)

/-- Words up to something else. -/
def wordsFrom : Nat → Reading (List Word)
  | 0 => pure []
  | bound + 1 => do
      match ← token inner with
      | .word word _ => do
          let others ← wordsFrom bound
          pure (word :: others)
      | _ => pure []

def each (line : Nat) : Reading Command := do
  let name ← match ← token inner with
    | .word word false =>
        match plainText? word with
        | some text => if isName text then pure (String.ofList text) else fail .loopVariable
        | none => fail .loopVariable
    | _ => fail .loopVariable
  let words ← match ← token inner (commandStart true) with
    | .keyword "in" => do
        let words ← wordsFrom inner (← limit)
        match (← get).last with
        | .newline | .operator ";" => pure words
        | _ => unexpected none
    | .operator ";" => pure [allParameters]
    | _ => do
        putBack
        pure [allParameters]
  expectKeyword inner (commandStart true) "do"
  let body ← filledList list
  expectKeyword inner {} "done"
  pure (.each line name words body)

/-- The patterns of a branch, the first of which has been read. -/
def patternsFrom : Nat → Reading (List Word)
  | 0 => pure []
  | bound + 1 => do
      let pattern := (← get).lastWord
      match ← token inner with
      | .operator "|" => do
          let _ ← token inner
          let others ← patternsFrom bound
          pure (pattern :: others)
      | .operator ")" => pure [pattern]
      | _ => unexpected (some (inQuotes ")"))

/-- The branches of a choice up to its closing keyword; `bound` bounds their number. -/
def branchesFrom : Nat → Reading (List (List Word × Option Command))
  | 0 => pure []
  | bound + 1 => do
      match ← token inner { pastNewlines := true, keywords := true } with
      | .keyword "esac" => pure []
      | first => do
          if first.isOperator "(" then
            let _ ← token inner
          let patterns ← patternsFrom inner (← limit)
          let body ← list .any
          match ← token inner { pastNewlines := true, keywords := true } with
          | .keyword "esac" => pure [(patterns, body)]
          | .operator ";;" => do
              let others ← branchesFrom bound
              pure ((patterns, body) :: others)
          | _ => unexpected (some (inQuotes ";;"))

def choose (line : Nat) : Reading Command := do
  match ← token inner with
  | .word word _ => do
      expectKeyword inner (commandStart true) "in"
      let branches ← branchesFrom inner list (← limit)
      pure (.choose line word branches)
  | _ => unexpected (some "word")

/-- A command that begins with the given token, if it is not a simple one. -/
def compound? (line : Nat) : Token → Option (Reading Command)
  | .keyword "if" => some do conditionalFrom inner list (← limit)
  | .keyword "while" => some (loop inner list true)
  | .keyword "until" => some (loop inner list false)
  | .keyword "for" => some (each inner list line)
  | .keyword "case" => some (choose inner list line)
  | .keyword "\x7b" => some do
      let body ← filledList list
      expectKeyword inner {} "\x7d"
      pure body
  | .operator "(" => some do
      let body ← filledList list
      expectOperator inner ")"
      pure (.subshell line body [])
  | _ => none

/-- Adds redirections to a compound command.  Those of a subshell take the place of the ones
that it may have inside of braces. -/
def redirect (line : Nat) (redirections : List Redirection) (body : Command) : Command :=
  if redirections.isEmpty then body
  else
    match body with
    | .subshell line body _ => .subshell line body redirections
    | body => .redirected line body redirections

/-- A command; `bound` bounds how many functions are named in a row. -/
def commandFrom : Nat → Expecting → Reading Command
  | 0, _ => unexpected none
  | bound + 1, expecting => do
      let line := (← get).line
      let first ← token inner expecting
      match compound? inner list line first, first with
      | some body, _ => do
          let body ← body
          let redirections ← redirectionsFrom inner (← limit) (commandStart false)
          pure (redirect line redirections body)
      | none, .word _ _ | none, .redirection _ => do
          putBack
          let line := (← get).line
          match ← simpleFrom inner (← limit) {} with
          | .command parts =>
              pure (.simple line parts.assignments parts.words parts.redirections)
          | .function name => do
              let body ← commandFrom bound (commandStart true)
              pure (.define name body)
      | none, _ => unexpected none

def command (expecting : Expecting) : Reading Command := do
  commandFrom inner list (← limit) expecting

/-! ## Pipelines and lists -/

/-- The commands behind the first one of a pipeline; `bound` bounds their number. -/
def membersFrom : Nat → Reading (List Command)
  | 0 => pure []
  | bound + 1 => do
      match ← token inner with
      | .operator "|" => do
          let member ← command inner list (commandStart true)
          let others ← membersFrom bound
          pure (member :: others)
      | _ => do
          putBack
          pure []

def pipeline (expecting : Expecting) : Reading Command := do
  let negated := (← token inner expecting).isKeyword "!"
  if !negated then putBack
  let first ← command inner list (if negated then commandStart false else {})
  let others ← membersFrom inner list (← limit)
  let joined := if others.isEmpty then first else .pipeline (first :: others) false
  pure (if negated then .negated joined else joined)

/-- Pipelines behind the first one of a chain; `bound` bounds their number. -/
def chainFrom : Nat → Command → Reading Command
  | 0, first => pure first
  | bound + 1, first => do
      match ← token inner with
      | .operator "&&" => do
          let second ← pipeline inner list (commandStart true)
          chainFrom bound (.both first second)
      | .operator "||" => do
          let second ← pipeline inner list (commandStart true)
          chainFrom bound (.either first second)
      | _ => do
          putBack
          pure first

def chain : Reading Command := do
  let first ← pipeline inner list {}
  chainFrom inner list (← limit) first

/-- A command that is not waited for. -/
def inBackground : Command → Command
  | .pipeline members _ => .pipeline members true
  | .redirected line body redirections => .background line body redirections
  | body => .background 0 body []

/-- The rest of a list after some commands; `bound` bounds how many follow. -/
def itemsFrom (mode : ListMode) : Nat → Bool → Option Command → Reading (Option Command)
  | 0, _, found => pure found
  | bound + 1, mayEnd, found => do
      match ← token inner (commandStart (mode ≠ .line)) with
      | .newline => do
          readDocuments inner
          pure found
      | .ended => atEnd found
      | first => do
          putBack
          if mode ≠ .line && mayEnd && first.endsList then pure found
          else
            let next ← chain inner list
            let separator ← token inner
            let next := if separator.isOperator "&" then inBackground next else next
            let found := some (match found with
              | some found => Command.sequence found next
              | none => next)
            match separator with
            | .ended => atEnd found
            | .newline => do
                putBack
                itemsFrom mode bound true found
            | separator =>
                if separator.isOperator "&" || separator.isOperator ";" then
                  itemsFrom mode bound true found
                else if mode = .line then unexpected none
                else do
                  putBack
                  pure found
where
  atEnd (found : Option Command) : Reading (Option Command) := do
    readDocuments inner
    modify fun reader => { reader with again := true, last := .ended }
    pure found

/-- Reads lists that are nested at most as deep as the limit. -/
def listFrom : Nat → ListReader
  | 0 => fun _ => unexpected none
  | depth + 1 => fun mode => do
      let list := listFrom depth
      itemsFrom (innerList list) list mode (← limit) (mode = .any) none

/-! ## Whole commands -/

/-- What is found on the next lines of a script. -/
inductive Found where
  | nothing
  | blank
  | command (command : Command) (isLast : Bool)

/-- Reads the next complete command of a script. -/
def nextCommand : Reading Found := do
  modify fun reader => { reader with again := false, pending := [] }
  let depth ← limit
  let found ← listFrom depth .line
  let reader ← get
  let isLast := reader.again && reader.last matches .ended
  match found with
  | some command => pure (.command command isLast)
  | none => pure (if isLast then .nothing else .blank)

/-- Reads a whole text as if it stood between double quotes. -/
def quotedText : Reading Word := do
  let depth ← limit
  let noEnd : PendingDocument :=
    { number := 0, mark := ['\x00'], stripsTabs := false, quoted := false }
  let (word, _) ←
    spelled (innerList (listFrom depth)) (.document noEnd) { quoting := .double, doubled := true }
  pure word

end JobShell.Programs.Scripting
