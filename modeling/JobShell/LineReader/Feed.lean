import JobShell.LineReader

/-!
# Input that is fed by hand

A pipe that someone else writes to between reads, and a wakeup pipe beside it.
-/

namespace JobShell

structure Feed where
  /-- Bytes that have been written and not read. -/
  waiting : Bytes := []
  /-- Bytes in the wakeup pipe, if there is one. -/
  wakeups : Option Nat := none
  /-- Whether the descriptor that is read from is open. -/
  isOpen : Bool := true
  deriving DecidableEq, Repr, Inhabited

namespace Feed

def write (feed : Feed) (bytes : Bytes) : Feed :=
  { feed with waiting := feed.waiting ++ bytes }

def wake (feed : Feed) : Feed :=
  { feed with wakeups := feed.wakeups.map (· + 1) }

def drain (feed : Feed) : Feed :=
  { feed with wakeups := feed.wakeups.map fun _ => 0 }

/-- Reading finds the end of the input when nothing is waiting. -/
def source : LineSource Feed where
  await feed := (.ok (feed.wakeups.any (· > 0)), feed)
  read feed :=
    if feed.isOpen then
      (.ok (feed.waiting.take LineReader.chunkSize),
        { feed with waiting := feed.waiting.drop LineReader.chunkSize })
    else (.error .badDescriptor, feed)

end Feed

end JobShell
