/-!
# Refusals of the operating system

The reasons for which a system call can be refused, with the short name and the
description under which the shell reports them, and the wording that programs
and file operations use.
-/

namespace JobShell

inductive Errno where
  | notPermitted
  | noEntry
  | noProcess
  | interrupted
  | argumentsTooLong
  | notExecutable
  | badDescriptor
  | noChild
  | tryAgain
  | outOfMemory
  | accessDenied
  | exists
  | notDirectory
  | isDirectory
  | invalid
  | tooManyFiles
  | textBusy
  | noSpace
  | illegalSeek
  | brokenPipe
  | nameTooLong
  | notEmpty
  | tooManyLinks
  deriving DecidableEq, Repr, Inhabited

namespace Errno

def all : List Errno :=
  [.notPermitted, .noEntry, .noProcess, .interrupted, .argumentsTooLong, .notExecutable,
   .badDescriptor, .noChild, .tryAgain, .outOfMemory, .accessDenied, .exists, .notDirectory,
   .isDirectory, .invalid, .tooManyFiles, .textBusy, .noSpace, .illegalSeek, .brokenPipe, .nameTooLong,
   .notEmpty, .tooManyLinks]

def number : Errno → Nat
  | .notPermitted => 1
  | .noEntry => 2
  | .noProcess => 3
  | .interrupted => 4
  | .argumentsTooLong => 7
  | .notExecutable => 8
  | .badDescriptor => 9
  | .noChild => 10
  | .tryAgain => 11
  | .outOfMemory => 12
  | .accessDenied => 13
  | .exists => 17
  | .notDirectory => 20
  | .isDirectory => 21
  | .invalid => 22
  | .tooManyFiles => 24
  | .textBusy => 26
  | .noSpace => 28
  | .illegalSeek => 29
  | .brokenPipe => 32
  | .nameTooLong => 36
  | .notEmpty => 39
  | .tooManyLinks => 40

def ofNumber? (number : Nat) : Option Errno :=
  all.find? fun errno => errno.number = number

def name : Errno → String
  | .notPermitted => "EPERM"
  | .noEntry => "ENOENT"
  | .noProcess => "ESRCH"
  | .interrupted => "EINTR"
  | .argumentsTooLong => "E2BIG"
  | .notExecutable => "ENOEXEC"
  | .badDescriptor => "EBADF"
  | .noChild => "ECHILD"
  | .tryAgain => "EAGAIN"
  | .outOfMemory => "ENOMEM"
  | .accessDenied => "EACCES"
  | .exists => "EEXIST"
  | .notDirectory => "ENOTDIR"
  | .isDirectory => "EISDIR"
  | .invalid => "EINVAL"
  | .tooManyFiles => "EMFILE"
  | .textBusy => "ETXTBSY"
  | .noSpace => "ENOSPC"
  | .illegalSeek => "ESPIPE"
  | .brokenPipe => "EPIPE"
  | .nameTooLong => "ENAMETOOLONG"
  | .notEmpty => "ENOTEMPTY"
  | .tooManyLinks => "ELOOP"

/-- The wording of the shell's own reports. -/
def description : Errno → String
  | .notPermitted => "Operation not permitted"
  | .noEntry => "No such file or directory"
  | .noProcess => "No such process"
  | .interrupted => "Interrupted system call"
  | .argumentsTooLong => "Argument list too long"
  | .notExecutable => "Exec format error"
  | .badDescriptor => "Bad file number"
  | .noChild => "No child processes"
  | .tryAgain => "Try again"
  | .outOfMemory => "Out of memory"
  | .accessDenied => "Permission denied"
  | .exists => "File exists"
  | .notDirectory => "Not a directory"
  | .isDirectory => "Is a directory"
  | .invalid => "Invalid argument"
  | .tooManyFiles => "Too many open files"
  | .textBusy => "Text file busy"
  | .noSpace => "No space left on device"
  | .illegalSeek => "Illegal seek"
  | .brokenPipe => "Broken pipe"
  | .nameTooLong => "File name too long"
  | .notEmpty => "Directory not empty"
  | .tooManyLinks => "Too many symbolic links encountered"

/-- Name and description, as the shell reports a refusal. -/
def message (errno : Errno) : String :=
  errno.name ++ ": " ++ errno.description

/-- The wording of the system's own table, which programs print. -/
def systemText : Errno → String
  | .badDescriptor => "Bad file descriptor"
  | .tryAgain => "Resource temporarily unavailable"
  | .outOfMemory => "Cannot allocate memory"
  | .tooManyLinks => "Too many levels of symbolic links"
  | errno => errno.description

/-- The wording for a file operation, which ends in the number. -/
def fileMessage (errno : Errno) : String :=
  errno.systemText ++ " (os error " ++ toString errno.number ++ ")"

end Errno

end JobShell
