import JobShell.Programs.Scripting.Arithmetic
import JobShell.Programs.Scripting.Fields

/-!
# Expansion

The parts of a word are expanded from left to right.  The functions take the one that
runs the scripts inside of words as an argument.
-/

namespace JobShell.Programs.Scripting

open JobShell.Machine

/-- In what way a word is expanded. -/
structure Manner where
  /-- The word falls into fields. -/
  splits : Bool := false
  /-- What is written may be split. -/
  splitsText : Bool := false
  quoted : Bool := false
  /-- Home directories are meant by tildes behind colons. -/
  listsPaths : Bool := false
  deriving Repr, Inhabited

/-- What runs a script inside of a word and returns what it prints. -/
abbrev InnerRunner := Option Command → Shell String

/-! ## Parameters -/

/-- The character between parameters where all are one text, if there is any. -/
def joint? (state : State) : Option Char :=
  state.separators.head?

/-- All parameters as one text. -/
def joined (state : State) (joint : Option Char) : String :=
  String.ofList ((state.parameters.map String.toList).intersperse joint.toList).flatten

/-- The value of a parameter, if it is set. -/
def valueOf? (name : String) (quoted splits : Bool) : Shell (Option String) := do
  let state ← get
  match name with
  | "?" => pure (some (toString state.status))
  | "$" => pure (some (toString state.identity.pid))
  | "#" => pure (some (toString state.parameters.length))
  | "!" => pure (state.lastBackground.map toString)
  | "-" => pure (some state.optionLetters)
  | "@" | "*" =>
      let joint :=
        if !splits || (quoted && name = "*") then joint? state
        else if !quoted && (state.value? "IFS").isNone then some ' '
        else some separator
      pure (some (joined state joint))
  | name => Shell.parameter? name

/-- The part of a value that is left when a pattern is taken off its start or end.  A
pattern sees a text up to a character between parameters only. -/
def trimmed (use : ParameterUse) (pattern : List Wildcard) (text : List Char) : List Char :=
  let chars := text.toArray
  let endFrom (start : Nat) : Nat :=
    start + ((text.drop start).takeWhile (· ≠ separator)).length
  match use with
  | .withoutStart longest =>
      let stop := endFrom 0
      let stops := (Wildcard.stops pattern chars 0).filter (· ≤ stop)
      let longestStop := if stops.contains stop then some chars.size else stops.max?
      text.drop ((if longest then longestStop else stops.min?).getD 0)
  | .withoutEnd longest =>
      let starts := (List.range (chars.size + 1)).filter fun start =>
        (Wildcard.stops pattern chars start).contains (endFrom start)
      text.take ((if longest then starts.min? else starts.max?).getD chars.size)
  | _ => text

/-- The region of the value of a parameter. -/
def valueRegion (state : State) (name : String) (quoted : Bool) : Region :=
  if !quoted then .splits
  else if name = "@" && !state.parameters.isEmpty then .separates
  else .fixed

/-- The use of a parameter.  `word` expands the word that belongs to it. -/
def useParameter (name : String) (use : ParameterUse) (coversEmpty quoted splits : Bool)
    (word : Manner → Shell (List Piece)) (hasWord : Bool) (manner : Manner) :
    Shell (List Piece) := do
  if use = .unknown then Shell.fail "Bad substitution"
  let state ← get
  let value ← valueOf? name quoted splits
  let present := if coversEmpty then value.filter (· ≠ "") else value
  let region := valueRegion state name quoted
  let asPiece (text : String) : List Piece := [{ glyphs := glyphs quoted text, region }]
  let unset : Shell Unit := do
    if present.isNone && state.isOn "nounset" then Shell.fail (name ++ ": parameter not set")
  let expandWord : Shell (List Piece) := word { manner with splitsText := !quoted, quoted }
  match use with
  | .plain => do
      unset
      pure (asPiece (present.getD ""))
  | .length => do
      unset
      pure (asPiece (toString (present.getD "").length))
  | .byDefault =>
      match present with
      | some text => pure (asPiece text)
      | none => expandWord
  | .instead => if present.isSome then expandWord else pure []
  | .assign =>
      match present with
      | some text => pure (asPiece text)
      | none => do
          let text := pieceText (← word { quoted })
          Shell.setVariable name (some text)
          pure (asPiece text)
  | .demand =>
      match present with
      | some text => pure (asPiece text)
      | none => do
          let text := pieceText (← word { quoted })
          let reason := if hasWord then text
            else if coversEmpty then "parameter not set or null" else "parameter not set"
          Shell.fail (name ++ ": " ++ reason)
  | use => do
      unset
      match present with
      | none => pure (asPiece "")
      | some text => do
          let taken := pattern ((← word {}).flatMap Piece.glyphs)
          pure (asPiece (String.ofList (trimmed use taken text.toList)))

/-! ## Words -/

/-- Whether a tilde is followed by what stands behind a home directory. -/
def endsTilde (listsPaths : Bool) (rest : List Part) : Bool :=
  match rest with
  | [] => true
  | .char c false :: _ => c = '/' || (listsPaths && c = ':')
  | _ => false

/-- The home directory of the superuser, whose name can follow a tilde. -/
def superuserHome : String :=
  "/root"

def withoutLineEnds (text : String) : String :=
  String.ofList (text.toList.reverse.dropWhile (· = '\n')).reverse

variable (run : InnerRunner)

/-- Expands the parts of a word.  `inside` says whether they stand in quotes, `tilde`
whether a tilde can stand for a home directory, and `behindSign` whether the equals sign
of an assignment has been passed. -/
def expandParts (manner : Manner) (inside tilde behindSign : Bool) :
    List Part → Shell (List Piece)
  | [] => pure []
  | .char '~' false :: .char 'r' false :: .char 'o' false :: .char 'o' false :: .char 't' false
      :: rest => do
      let others ← expandParts manner inside false behindSign rest
      if tilde && endsTilde manner.listsPaths rest then
        pure ({ glyphs := glyphs true superuserHome, region := .fixed } :: others)
      else pure ("~root".toList.map (fun c => written c false) ++ others)
  | .char '~' false :: rest => do
      let home ← if tilde && endsTilde manner.listsPaths rest then Shell.parameter? "HOME"
        else pure none
      let first : Piece := match home with
        | some home => { glyphs := glyphs true home, region := .fixed }
        | none => written '~' false
      let others ← expandParts manner inside false behindSign rest
      pure (first :: others)
  | .char c escaped :: rest => do
      let sign := behindSign || (manner.listsPaths && c = '=' && !escaped)
      let starts := manner.listsPaths && !escaped
        && ((c = '=' && !behindSign) || (c = ':' && behindSign))
      let others ← expandParts manner inside starts sign rest
      pure (written c escaped :: others)
  | .quote :: .parameter "@" .plain false [] :: .quote :: rest => do
      if inside then
        let value ← useParameter "@" .plain false manner.quoted manner.splits
          (fun _ => pure []) false manner
        let others ← expandParts manner true false behindSign rest
        pure ([mark] ++ value ++ [mark] ++ others)
      else
        let value ← useParameter "@" .plain false true manner.splits (fun _ => pure []) false
          manner
        let others ← expandParts manner false false behindSign rest
        pure (value ++ others)
  | .quote :: rest => do
      let others ← expandParts manner (!inside) false behindSign rest
      pure (mark :: others)
  | .parameter name use coversEmpty word :: rest => do
      let quoted := manner.quoted || inside
      let value ← useParameter name use coversEmpty quoted manner.splits
        (fun manner => expandParts manner false true false word) (!word.isEmpty) manner
      let others ← expandParts manner inside false behindSign rest
      pure (value ++ boundary :: others)
  | .output command :: rest => do
      let quoted := manner.quoted || inside
      let text ← run command
      let text := String.ofList ((withoutLineEnds text).toList.filter (· ≠ '\x00'))
      let others ← expandParts manner inside false behindSign rest
      pure ({ glyphs := glyphs quoted text, region := if quoted then .fixed else .splits }
        :: others)
  | .arithmetic expression :: rest => do
      let quoted := manner.quoted || inside
      let text := pieceText (← expandParts {} false false false expression)
      let value ← Arithmetic.evaluate text
      let others ← expandParts manner inside false behindSign rest
      pure ({ glyphs := glyphs quoted (toString value)
              region := if quoted then .fixed else .splits } :: others)
where
  written (c : Char) (escaped : Bool) : Piece :=
    { glyphs := [.char c escaped]
      region := if manner.splitsText && !inside && !escaped then .written else .fixed }
  mark : Piece :=
    { glyphs := [.mark], region := .fixed }
  boundary : Piece :=
    { glyphs := [], region := .fixed }

/-- The fields of a word. -/
def expandFields (word : Word) : Shell (List String) := do
  let pieces ← expandParts run { splits := true } false true false word
  let state ← get
  let fields := splitPieces state.separators none (joinWritten pieces)
  let names ← fields.mapM fun field => Shell.act (fieldNames (!state.isOn "noglob") field)
  pure names.flatten

def expandAll (words : List Word) : Shell (List String) := do
  let fields ← words.mapM (expandFields run)
  pure fields.flatten

/-- A word as one text. -/
def expandText (word : Word) : Shell String := do
  pure (pieceText (← expandParts run {} false true false word))

/-- A word that gives a value to a variable. -/
def expandAssignment (word : Word) : Shell String := do
  pure (pieceText (← expandParts run { listsPaths := true } false false false word))

/-- A word as a pattern. -/
def expandPattern (word : Word) : Shell (List Wildcard) := do
  pure (pattern ((← expandParts run {} false true false word).flatMap Piece.glyphs))

/-- A text that follows in the script. -/
def expandDocument (word : Word) : Shell String := do
  pure (pieceText (← expandParts run { quoted := true } false false false word))

end JobShell.Programs.Scripting
