/-!
# Signals and exit statuses
-/

namespace JobShell

/-- Process and group numbers. -/
abbrev Pid := Int

inductive Signal where
  | hangup
  | interrupt
  | quit
  | illegal
  | trap
  | abort
  | bus
  | arithmetic
  | kill
  | user1
  | fault
  | user2
  | pipe
  | alarm
  | terminate
  | stackFault
  | child
  | continue
  | stop
  | terminalStop
  | terminalInput
  | terminalOutput
  | urgent
  | timeLimit
  | sizeLimit
  | virtualAlarm
  | profile
  | windowChange
  | pollable
  | power
  | system
  /-- One of those without a meaning of their own, by its number. -/
  | realTime (number : Nat)
  deriving DecidableEq, Repr, Inhabited

namespace Signal

/-- The signals that have names, in the order of their numbers. -/
def all : List Signal :=
  [.hangup, .interrupt, .quit, .illegal, .trap, .abort, .bus, .arithmetic, .kill, .user1, .fault,
   .user2, .pipe, .alarm, .terminate, .stackFault, .child, .continue, .stop, .terminalStop,
   .terminalInput, .terminalOutput, .urgent, .timeLimit, .sizeLimit, .virtualAlarm, .profile,
   .windowChange, .pollable, .power, .system]

def number : Signal → Nat
  | .hangup => 1
  | .interrupt => 2
  | .quit => 3
  | .illegal => 4
  | .trap => 5
  | .abort => 6
  | .bus => 7
  | .arithmetic => 8
  | .kill => 9
  | .user1 => 10
  | .fault => 11
  | .user2 => 12
  | .pipe => 13
  | .alarm => 14
  | .terminate => 15
  | .stackFault => 16
  | .child => 17
  | .continue => 18
  | .stop => 19
  | .terminalStop => 20
  | .terminalInput => 21
  | .terminalOutput => 22
  | .urgent => 23
  | .timeLimit => 24
  | .sizeLimit => 25
  | .virtualAlarm => 26
  | .profile => 27
  | .windowChange => 28
  | .pollable => 29
  | .power => 30
  | .system => 31
  | .realTime number => number

/-- The usual name, without the leading `SIG`. -/
def name : Signal → String
  | .hangup => "HUP"
  | .interrupt => "INT"
  | .quit => "QUIT"
  | .illegal => "ILL"
  | .trap => "TRAP"
  | .abort => "ABRT"
  | .bus => "BUS"
  | .arithmetic => "FPE"
  | .kill => "KILL"
  | .user1 => "USR1"
  | .fault => "SEGV"
  | .user2 => "USR2"
  | .pipe => "PIPE"
  | .alarm => "ALRM"
  | .terminate => "TERM"
  | .stackFault => "STKFLT"
  | .child => "CHLD"
  | .continue => "CONT"
  | .stop => "STOP"
  | .terminalStop => "TSTP"
  | .terminalInput => "TTIN"
  | .terminalOutput => "TTOU"
  | .urgent => "URG"
  | .timeLimit => "XCPU"
  | .sizeLimit => "XFSZ"
  | .virtualAlarm => "VTALRM"
  | .profile => "PROF"
  | .windowChange => "WINCH"
  | .pollable => "IO"
  | .power => "PWR"
  | .system => "SYS"
  | .realTime number => "RTMIN+" ++ toString (number - 34)

/-- How the system describes the end of a process by a signal. -/
def systemText : Signal → String
  | .hangup => "Hangup"
  | .interrupt => "Interrupt"
  | .quit => "Quit"
  | .illegal => "Illegal instruction"
  | .trap => "Trace/breakpoint trap"
  | .abort => "Aborted"
  | .bus => "Bus error"
  | .arithmetic => "Floating point exception"
  | .kill => "Killed"
  | .user1 => "User defined signal 1"
  | .fault => "Segmentation fault"
  | .user2 => "User defined signal 2"
  | .pipe => "Broken pipe"
  | .alarm => "Alarm clock"
  | .terminate => "Terminated"
  | .stackFault => "Stack fault"
  | .child => "Child exited"
  | .continue => "Continued"
  | .stop => "Stopped (signal)"
  | .terminalStop => "Stopped"
  | .terminalInput => "Stopped (tty input)"
  | .terminalOutput => "Stopped (tty output)"
  | .urgent => "Urgent I/O condition"
  | .timeLimit => "CPU time limit exceeded"
  | .sizeLimit => "File size limit exceeded"
  | .virtualAlarm => "Virtual timer expired"
  | .profile => "Profiling timer expired"
  | .windowChange => "Window changed"
  | .pollable => "I/O possible"
  | .power => "Power failure"
  | .system => "Bad system call"
  | .realTime number =>
      if number < 34 then "Unknown signal " ++ toString number
      else "Real-time signal " ++ toString (number - 34)

def ofName? (name : String) : Option Signal :=
  all.find? fun signal => signal.name = name

def ofNumber? (number : Nat) : Option Signal :=
  if 32 ≤ number && number ≤ 64 then some (.realTime number)
  else all.find? fun signal => signal.number = number

end Signal

/-- What a parent learns about a child. -/
inductive WaitStatus where
  | exited (code : Int)
  | signaled (signal : Signal) (core : Bool)
  | stopped (signal : Signal)
  | continued
  | alive
  deriving DecidableEq, Repr, Inhabited

namespace WaitStatus

/-- The status of a command: its exit code, or 128 and the number of the signal
that ended it. -/
def exitStatus : WaitStatus → Int
  | .exited code => code
  | .signaled signal _ => 128 + signal.number
  | .stopped _ | .continued | .alive => 0

end WaitStatus

end JobShell
