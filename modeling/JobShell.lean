import JobShell.Token.Lexer
import JobShell.Pipeline
import JobShell.Fault
import JobShell.Environment
import JobShell.Duration
import JobShell.Settings
import JobShell.LogFilter
import JobShell.Signal
import JobShell.Quit
import JobShell.Recorder
import JobShell.LineReader.Feed
import JobShell.Registry
import JobShell.Builtin
import JobShell.Main
import JobShell.Proofs.Grammar.Derivation
import JobShell.Proofs.Grammar.Finality
import JobShell.Proofs.Lexing.Separation
import JobShell.Proofs.Lexing.Quoting
import JobShell.Proofs.Lexing.Plain
import JobShell.Proofs.Lexing.Defects
import JobShell.Proofs.Lexing.Descent
import JobShell.Proofs.LineReader.Streaming
import JobShell.Proofs.Pipeline.Expansion
import JobShell.Proofs.Pipeline.RoundTrip
import JobShell.Proofs.Pipeline.Slices
import JobShell.Proofs.Pipeline.Joining
import JobShell.Proofs.Environment.Variables
import JobShell.Proofs.Builtin.ExitCode
import JobShell.Proofs.Quit.Confirmation
import JobShell.Proofs.Quit.Pairing
import JobShell.Proofs.Session.History
import JobShell.Proofs.Session.Timetable
import JobShell.Proofs.Session.Turning
import JobShell.Proofs.Session.Waiting
import JobShell.Proofs.Session.Waking
import JobShell.Proofs.Session.Registered
import JobShell.Proofs.Session.Frame
import JobShell.Proofs.Session.Rejection
import JobShell.Proofs.Session.Leaving
import JobShell.Proofs.Session.Tally
import JobShell.Proofs.Session.Reaping
import JobShell.Proofs.Session.Redirecting
import JobShell.Proofs.Session.HomeDirectory
import JobShell.Proofs.Registry.Accounting
import JobShell.Proofs.Recorder.Lossless
import JobShell.Proofs.Shell.Scripting
import JobShell.Proofs.Shell.Sourcing
import JobShell.Proofs.Shell.Running
import JobShell.Proofs.Launch.Wiring
import JobShell.Proofs.Launch.Processes
import JobShell.Proofs.Launch.Ends
import JobShell.Proofs.Launch.Redirecting
import JobShell.Proofs.Machine.Launching
import JobShell.Proofs.Machine.Printing
import JobShell.Proofs.Machine.Solo
import JobShell.Proofs.Lexing.WellFormed
import JobShell.Proofs.Lexing.Printing
import JobShell.Proofs.Lexing.Merging
import JobShell.Proofs.Checked.Variables
import JobShell.Proofs.Session.Interrupting
import JobShell.Proofs.Checked.Lines
