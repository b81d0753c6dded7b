import JobShell.Quit
import JobShell.Signal

/-!
# Recording signals

A signal can arrive at any moment, so its handler only takes a note: it counts a
quit or raises a flag, and then writes one byte into a pipe on which the session
sleeps.  The session empties the pipe first and collects the notes afterwards;
a signal that arrives in between leaves its byte behind, and the next sleep ends
at once.

Each function below is one step that no handler can interrupt.
-/

namespace JobShell

structure Recorder where
  /-- Quits since they were last taken.  A counter of 64 bits would agree with this one as
  long as fewer than `2 ^ 64` of them arrive between two collections. -/
  quits : Nat := 0
  alarmed : Bool := false
  interrupted : Bool := false
  /-- Bytes in the pipe. -/
  wakeups : Nat := 0
  /-- Bytes that the pipe can hold. -/
  capacity : Nat := 65536
  deriving DecidableEq, Repr, Inhabited

namespace Recorder

/-- How many bytes one read takes from the pipe at most. -/
def readSize : Nat := 64

def note (recorder : Recorder) : Signal → Recorder
  | .quit => { recorder with quits := recorder.quits + 1 }
  | .alarm => { recorder with alarmed := true }
  | .interrupt => { recorder with interrupted := true }
  | _ => recorder

/-- Writes a byte; a full pipe has one already. -/
def wake (recorder : Recorder) : Recorder :=
  if recorder.wakeups < recorder.capacity then
    { recorder with wakeups := recorder.wakeups + 1 }
  else recorder

/-- One run of the handler. -/
def record (recorder : Recorder) (signal : Signal) : Recorder :=
  (recorder.note signal).wake

/-- One read from the pipe, and how much it got. -/
def readWakeups (recorder : Recorder) : Nat × Recorder :=
  let count := min recorder.wakeups readSize
  (count, { recorder with wakeups := recorder.wakeups - count })

def takeAlarm (recorder : Recorder) : Bool × Recorder :=
  (recorder.alarmed, { recorder with alarmed := false })

def takeQuits (recorder : Recorder) : Nat × Recorder :=
  (recorder.quits, { recorder with quits := 0 })

def takeInterrupt (recorder : Recorder) : Bool × Recorder :=
  (recorder.interrupted, { recorder with interrupted := false })

end Recorder

/-- The steps of collecting signals, on a state in which handlers may run between
any two of them. -/
structure Collector (σ : Type) where
  readWakeups : σ → Nat × σ
  takeAlarm : σ → Bool × σ
  takeQuits : σ → Nat × σ
  takeInterrupt : σ → Bool × σ

namespace Collector

/-- Reads until a read comes back short; `limit` bounds the reads. -/
def drain {σ : Type} (collector : Collector σ) : Nat → σ → σ
  | 0, state => state
  | limit + 1, state =>
      let (count, next) := collector.readWakeups state
      if count < Recorder.readSize then next else collector.drain limit next

/-- The deliveries that make up what has been recorded.  An expired timer comes
first, since it was started by an earlier press than any that is reported with it. -/
def deliveries (alarmed : Bool) (quits : Nat) (interrupted : Bool) : List Quit.Delivery :=
  (if alarmed then [.timerExpired] else []) ++ List.replicate quits .quit
    ++ (if interrupted then [.interrupt] else [])

/-- Empties the pipe, then collects everything recorded since the last time. -/
def takePending {σ : Type} (collector : Collector σ) (limit : Nat) (state : σ) :
    List Quit.Delivery × σ :=
  let drained := collector.drain limit state
  let (alarmed, afterAlarm) := collector.takeAlarm drained
  let (quits, afterQuits) := collector.takeQuits afterAlarm
  let (interrupted, afterInterrupt) := collector.takeInterrupt afterQuits
  (deliveries alarmed quits interrupted, afterInterrupt)

end Collector

/-- Collecting while no handler runs. -/
def Recorder.collector : Collector Recorder where
  readWakeups := Recorder.readWakeups
  takeAlarm := Recorder.takeAlarm
  takeQuits := Recorder.takeQuits
  takeInterrupt := Recorder.takeInterrupt

end JobShell
