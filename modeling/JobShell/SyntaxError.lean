/-!
# Why a line is rejected

One constructor for each way in which a line can be malformed, and the wording
of each in `SyntaxError.message`.
-/

namespace JobShell

/-- What the lexer can meet that no continuation of the line would mend. -/
inductive Defect where
  /-- A dollar sign and an opening brace that no name and closing brace follow. -/
  | reference
  /-- A backslash with nothing after it. -/
  | escape
  | doubleQuote
  | singleQuote
  deriving DecidableEq, Repr, Inhabited

def Defect.description : Defect → String
  | .reference => "malformed `$\x7b...\x7d` variable reference"
  | .escape => "dangling `\\` at end of line"
  | .doubleQuote => "unterminated double quote"
  | .singleQuote => "unterminated single quote"

inductive SyntaxError where
  | unterminated (description : String)
  | unexpectedInput (rest : String)
  /-- A pipe without a command on one side, which is `before` or `after`. -/
  | missingCommand (side : String)
  | missingRedirectTarget (symbol : Char)
  | misplacedBackground
  | emptyCommand
  | duplicateRedirect (symbol : Char)
  | inputAfterPipe
  /-- A builtin in a place where only programs can run. -/
  | builtinNotAllowed (name context : String)
  deriving DecidableEq, Repr, Inhabited

namespace SyntaxError

def ofDefect (defect : Defect) : SyntaxError :=
  .unterminated defect.description

def missingCommandBefore : SyntaxError := .missingCommand "before"

def missingCommandAfter : SyntaxError := .missingCommand "after"

def message : SyntaxError → String
  | .unterminated description => description
  | .unexpectedInput rest => "unexpected input `" ++ rest ++ "`"
  | .missingCommand side => "missing command " ++ side ++ " `|`"
  | .missingRedirectTarget symbol => "expected a file name after `" ++ symbol.toString ++ "`"
  | .misplacedBackground => "`&` is only allowed at the end of a line"
  | .emptyCommand => "command has no program name"
  | .duplicateRedirect symbol =>
      "more than one `" ++ symbol.toString ++ "` redirection in one command"
  | .inputAfterPipe =>
      "input redirection is only allowed on the first command of a pipeline"
  | .builtinNotAllowed name context => "builtin `" ++ name ++ "` cannot run " ++ context

end SyntaxError

end JobShell
