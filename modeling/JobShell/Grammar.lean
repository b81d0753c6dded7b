import JobShell.SyntaxError
import JobShell.Token

/-!
# Well-formed lines

A line is a pipeline: commands separated by single pipes, and a background mark
at its end or not.  A command holds words and redirections in any order; a
redirection is its operator and the word right after it.  Each command needs a
word that is no redirection target, may redirect each stream once, and only
the first one may redirect its input.

`check` decides this from left to right and reports the first error it meets.
-/

namespace JobShell.Grammar

/-- What has been seen of the command that is being read. -/
structure Progress where
  /-- No pipe stands before the command. -/
  isFirst : Bool := true
  /-- Some token has been seen. -/
  started : Bool := false
  /-- A word that is no target has been seen. -/
  named : Bool := false
  redirectsInput : Bool := false
  redirectsOutput : Bool := false
  deriving DecidableEq, Repr, Inhabited

namespace Progress

def redirects (progress : Progress) : Direction → Bool
  | .input => progress.redirectsInput
  | .output => progress.redirectsOutput

def withWord (progress : Progress) : Progress :=
  { progress with started := true, named := true }

def withRedirect (progress : Progress) : Direction → Progress
  | .input => { progress with started := true, redirectsInput := true }
  | .output => { progress with started := true, redirectsOutput := true }

/-- The start of a command behind a pipe. -/
def afterPipe : Progress :=
  { isFirst := false }

end Progress

/-- Whether a command can begin with these tokens. -/
def canStartCommand : List Token → Bool
  | [] => false
  | .background :: _ => false
  | _ => true

def checkFrom (progress : Progress) : List Token → Except SyntaxError Unit
  | [] => if progress.named then .ok () else .error .emptyCommand
  | .word _ :: rest => checkFrom progress.withWord rest
  | .pipe :: rest =>
      if !progress.started then .error .missingCommandBefore
      else if !progress.named then .error .emptyCommand
      else if !canStartCommand rest then .error .missingCommandAfter
      else checkFrom .afterPipe rest
  | .redirect direction :: .word _ :: rest =>
      if progress.redirects direction then .error (.duplicateRedirect direction.symbol)
      else if direction = .input ∧ !progress.isFirst then .error .inputAfterPipe
      else checkFrom (progress.withRedirect direction) rest
  | .redirect direction :: _ => .error (.missingRedirectTarget direction.symbol)
  | .background :: rest =>
      if !rest.isEmpty then .error .misplacedBackground
      else if progress.named then .ok () else .error .emptyCommand

/-- Whether the tokens are a well-formed line, and if not, what is wrong first. -/
def check (tokens : List Token) : Except SyntaxError Unit :=
  checkFrom {} tokens

end JobShell.Grammar
