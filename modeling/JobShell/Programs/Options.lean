/-!
# Options

Arguments are sorted into options and operands.  An option is one letter after a
dash, or a word after two dashes; words can be cut short as long as it is clear
what they stand for.  Options and operands may be mixed, and two dashes on their own
end the options.
-/

namespace JobShell.Programs

/-- Whether an option comes with a value. -/
inductive Taking where
  | nothing
  | value
  /-- A value can follow an equals sign. -/
  | maybe
  deriving DecidableEq, Repr, Inhabited

/-- An option with a long name.  `key` is the name under which it is found; options
with one key are the same. -/
structure LongOption where
  name : String
  key : String
  taking : Taking := .nothing
  deriving Repr, Inhabited

/-- The options that a program has. -/
structure OptionTable where
  /-- The letters of options without a value. -/
  flags : String := ""
  /-- The letters of options with a value. -/
  valued : String := ""
  long : List LongOption := []
  /-- Options end at the first operand. -/
  leading : Bool := false
  /-- Digits after one another are one option, with the number as its value. -/
  numbers : Bool := false
  deriving Repr, Inhabited

/-- What is wrong with an argument. -/
inductive Misuse where
  | unknownLetter (letter : Char)
  | unknownWord (word : String)
  | missingValue (letter : Char)
  | missingWordValue (word : String)
  | needlessValue (word : String)
  | ambiguous (word : String) (candidates : List String)
  deriving Repr, Inhabited

def Misuse.message : Misuse → String
  | .unknownLetter letter => "invalid option -- '" ++ letter.toString ++ "'"
  | .unknownWord word => "unrecognized option '--" ++ word ++ "'"
  | .missingValue letter => "option requires an argument -- '" ++ letter.toString ++ "'"
  | .missingWordValue word => "option '--" ++ word ++ "' requires an argument"
  | .needlessValue word => "option '--" ++ word ++ "' doesn't allow an argument"
  | .ambiguous word candidates =>
      "option '--" ++ word ++ "' is ambiguous; possibilities:"
        ++ String.join (candidates.map fun name => " '--" ++ name ++ "'")

/-- Sorted arguments.  Options are in their order, each with its key and value.  If
there is something wrong with an argument, the others end before it. -/
structure Arguments where
  options : List (String × String) := []
  operands : List String := []
  misuse : Option Misuse := none
  deriving Repr, Inhabited

namespace Arguments

def has (arguments : Arguments) (key : String) : Bool :=
  arguments.options.any fun option => option.1 = key

/-- The value that was given last for an option. -/
def value? (arguments : Arguments) (key : String) : Option String :=
  (arguments.options.reverse.find? fun option => option.1 = key).map Prod.snd

/-- The last of the given options. -/
def last? (arguments : Arguments) (keys : List String) : Option String :=
  (arguments.options.reverse.find? fun option => keys.contains option.1).map Prod.fst

/-- All values of an option. -/
def values (arguments : Arguments) (key : String) : List String :=
  arguments.options.filterMap fun option => if option.1 = key then some option.2 else none

/-- The key of an option that is a number. -/
def numberKey : String :=
  "number"

/-- Puts an option in front of others; digits are joined to a number. -/
def addLetter (table : OptionTable) (letter : Char) (others : List (String × String)) :
    List (String × String) :=
  if table.numbers && letter.isDigit then
    match others with
    | (key, value) :: rest =>
        if key = numberKey then (key, letter.toString ++ value) :: rest
        else (numberKey, letter.toString) :: others
    | [] => [(numberKey, letter.toString)]
  else (letter.toString, "") :: others

/-- The options of an argument that begins with one dash, and the arguments that
follow it.  An option with a value takes what is left of the argument, or the next
one. -/
def cluster (table : OptionTable) :
    List Char → List String → List (String × String) × Except Misuse (List String)
  | [], rest => ([], .ok rest)
  | letter :: letters, rest =>
      if table.valued.toList.contains letter then
        match letters, rest with
        | [], [] => ([], .error (.missingValue letter))
        | [], value :: rest => ([(letter.toString, value)], .ok rest)
        | letters, rest => ([(letter.toString, String.ofList letters)], .ok rest)
      else if table.flags.toList.contains letter then
        let (options, rest) := cluster table letters rest
        (addLetter table letter options, rest)
      else ([], .error (.unknownLetter letter))

/-- The option that a word stands for. -/
def longOption (table : OptionTable) (word name : String) : Except Misuse LongOption :=
  match table.long.find? fun option => option.name = name with
  | some option => .ok option
  | none =>
      match table.long.filter fun option => name.toList.isPrefixOf option.name.toList with
      | [] => .error (.unknownWord word)
      | option :: others =>
          if others.all fun other => other.key = option.key then .ok option
          else .error (.ambiguous word ((option :: others).map LongOption.name))

/-- The option in an argument that begins with two dashes. -/
def longArgument (table : OptionTable) (word : String) (rest : List String) :
    Except Misuse ((String × String) × List String) := do
  let name := String.ofList (word.toList.takeWhile (· ≠ '='))
  let option ← longOption table word name
  let given := word.toList.drop name.length
  match option.taking, given, rest with
  | .nothing, _ :: _, _ => .error (.needlessValue option.name)
  | .value, [], [] => .error (.missingWordValue option.name)
  | .value, [], value :: rest => .ok ((option.key, value), rest)
  | _, given, rest => .ok ((option.key, String.ofList (given.drop 1)), rest)

/-- Sorts arguments; `limit` bounds how many are looked at. -/
def parseFrom (table : OptionTable) : Nat → List String → Arguments
  | 0, _ => {}
  | _, [] => {}
  | limit + 1, argument :: rest =>
      if argument = "--" then { operands := rest }
      else
        match argument.toList with
        | '-' :: '-' :: word =>
            match longArgument table (String.ofList word) rest with
            | .error misuse => { misuse := some misuse }
            | .ok (option, rest) =>
                let others := parseFrom table limit rest
                { others with options := option :: others.options }
        | '-' :: letter :: letters =>
            match cluster table (letter :: letters) rest with
            | (options, .error misuse) => { options, misuse := some misuse }
            | (options, .ok rest) =>
                let others := parseFrom table limit rest
                { others with options := options ++ others.options }
        | _ =>
            if table.leading then { operands := argument :: rest }
            else
              let others := parseFrom table limit rest
              { others with operands := argument :: others.operands }

/-- Sorts the arguments of a program with the given options. -/
def parse (table : OptionTable) (arguments : List String) : Arguments :=
  parseFrom table (arguments.length + 1) arguments

end Arguments

/-- Long options without a value, each with its key. -/
def longFlags (entries : List (String × String)) : List LongOption :=
  entries.map fun entry => { name := entry.1, key := entry.2 }

/-- Long options with a value. -/
def longValues (entries : List (String × String)) : List LongOption :=
  entries.map fun entry => { name := entry.1, key := entry.2, taking := .value }

end JobShell.Programs
