import JobShell.Errno
import JobShell.SyntaxError
import JobShell.Text.Quoted
import JobShell.Text.Utf8

/-!
# Why a line fails

A fault ends one line and never the session.  Faults that the user made in
writing the line give status 2, all others status 1.
-/

namespace JobShell

/-- A failure of reading or writing a stream of text. -/
inductive StreamFailure where
  | refused (errno : Errno)
  | invalidText
  /-- The writer takes no more bytes. -/
  | writerFull
  | other (text : String)
  deriving DecidableEq, Repr, Inhabited

def StreamFailure.message : StreamFailure → String
  | .refused errno => errno.fileMessage
  | .invalidText => "stream did not contain valid UTF-8"
  | .writerFull => "failed to write whole buffer"
  | .other text => text

inductive Fault where
  | malformed (error : SyntaxError)
  /-- A file or directory that the user named cannot be used. -/
  | resource (path : Bytes) (errno : Errno)
  /-- The pipeline as a whole cannot be started. -/
  | launch (reason : String) (errno : Errno)
  /-- A program cannot be run. -/
  | exec (program : String) (errno : Errno)
  | usage (text : String)
  /-- An argument with a zero character in it. -/
  | invalidArgument (argument : String)
  | stream (failure : StreamFailure)
  deriving DecidableEq, Repr, Inhabited

namespace Fault

def message : Fault → String
  | .malformed error => "syntax error: " ++ error.message
  | .resource path errno => Text.lossy path ++ ": " ++ errno.message
  | .launch reason errno => "cannot launch pipeline: " ++ reason ++ ": " ++ errno.message
  | .exec program errno => program ++ ": " ++ errno.message
  | .usage text => text
  | .invalidArgument argument => "argument contains a NUL byte: " ++ Text.quote argument
  | .stream failure => failure.message

/-- The status of a line that ends in the fault. -/
def status : Fault → Int
  | .malformed _ | .usage _ => 2
  | _ => 1

end Fault

/-- A message of the shell as it is printed. -/
def report (message : String) : String :=
  "turnip: " ++ message ++ "\n"

end JobShell
