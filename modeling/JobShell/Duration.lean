/-!
# Lengths of time
-/

namespace JobShell

structure Duration where
  milliseconds : Nat
  deriving DecidableEq, Repr, Inhabited

namespace Duration

def ofSeconds (seconds : Nat) : Duration :=
  ⟨seconds * 1000⟩

/-- Whole seconds; what is left over is dropped. -/
def seconds (duration : Duration) : Nat :=
  duration.milliseconds / 1000

end Duration

end JobShell
