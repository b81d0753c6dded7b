import JobShell.Grammar

/-!
# Pipelines

What a well-formed line asks for: commands whose words have been expanded, the
files that replace their standard streams, and whether to wait for them.

Expansion happens word by word and after the line has been split, so no value of
a variable can add an argument, an operator or a command.
-/

namespace JobShell

/-- One process to start. -/
structure Command where
  argv : List String := []
  input : Option String := none
  output : Option String := none
  deriving DecidableEq, Repr, Inhabited

namespace Command

/-- The program's name, empty where there are no words. -/
def program (command : Command) : String :=
  command.argv.headD ""

def addWord (command : Command) (text : String) : Command :=
  { command with argv := text :: command.argv }

/-- Sets a target. -/
def addTarget (command : Command) (path : String) : Direction → Command
  | .input => { command with input := some path }
  | .output => { command with output := some path }

def target (command : Command) : Direction → Option String
  | .input => command.input
  | .output => command.output

def displayTarget (direction : Direction) : Option String → String
  | none => ""
  | some path => " " ++ direction.symbol.toString ++ " " ++ path

def display (command : Command) : String :=
  " ".intercalate command.argv ++ displayTarget .input command.input
    ++ displayTarget .output command.output

end Command

structure Pipeline where
  commands : List Command
  background : Bool
  deriving DecidableEq, Repr, Inhabited

namespace Pipeline

def display (pipeline : Pipeline) : String :=
  " | ".intercalate (pipeline.commands.map Command.display)
    ++ (if pipeline.background then " &" else "")

/-- The command that begins with the given tokens, and the commands behind it. -/
def split (bindings : Bindings) : List Token → Command × List Command
  | [] => ({}, [])
  | .word word :: rest =>
      let (command, others) := split bindings rest
      (command.addWord (word.expand bindings), others)
  | .pipe :: rest =>
      let (command, others) := split bindings rest
      ({}, command :: others)
  | .redirect direction :: .word word :: rest =>
      let (command, others) := split bindings rest
      (command.addTarget (word.expand bindings) direction, others)
  | _ :: rest => split bindings rest

/-- The pipeline of tokens that are known to be well-formed. -/
def ofTokens (bindings : Bindings) (tokens : List Token) : Pipeline :=
  let (command, others) := split bindings tokens
  { commands := command :: others
    background := tokens.getLast? = some .background }

end Pipeline

/-- Checks the tokens, and splits and expands them if they are well-formed. -/
def parse (bindings : Bindings) (tokens : List Token) : Except SyntaxError Pipeline := do
  Grammar.check tokens
  pure (Pipeline.ofTokens bindings tokens)

end JobShell
