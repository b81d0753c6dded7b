import JobShell.Errno
import JobShell.Signal

/-!
# Background processes

The processes of background pipelines that have not been waited for, most recent
last.  Every process of a pipeline is listed, so that each is waited for in the end.
-/

namespace JobShell

structure Registry where
  pids : List Pid := []
  deriving DecidableEq, Repr, Inhabited

namespace Registry

def push (registry : Registry) (pid : Pid) : Registry :=
  ⟨registry.pids ++ [pid]⟩

/-- The most recent process, and the registry without it. -/
def pop (registry : Registry) : Option Pid × Registry :=
  (registry.pids.getLast?, ⟨registry.pids.dropLast⟩)

def size (registry : Registry) : Nat :=
  registry.pids.length

/-- Asks once for each process, in order.  The first list holds those that have
ended, with their statuses, the second those that stay listed. -/
def reapFrom {σ : Type} (poll : Pid → σ → Except Errno WaitStatus × σ) :
    List Pid → σ → List (Pid × Int) × List Pid × σ
  | [], state => ([], [], state)
  | pid :: rest, state =>
      let (answer, state) := poll pid state
      let (finished, kept, state) := reapFrom poll rest state
      match answer with
      | .ok .alive => (finished, pid :: kept, state)
      | .ok status => ((pid, status.exitStatus) :: finished, kept, state)
      | .error .noChild => (finished, kept, state)
      | .error _ => (finished, pid :: kept, state)

/-- Forgets the processes that have ended and returns them with their statuses. -/
def reap {σ : Type} (poll : Pid → σ → Except Errno WaitStatus × σ) (registry : Registry)
    (state : σ) : List (Pid × Int) × Registry × σ :=
  let (finished, kept, state) := reapFrom poll registry.pids state
  (finished, ⟨kept⟩, state)

/-- Forgets all processes; those that have ended are waited for first. -/
def drain {σ : Type} (poll : Pid → σ → Except Errno WaitStatus × σ) (registry : Registry)
    (state : σ) : List (Pid × Int) × Registry × σ :=
  let (finished, _, state) := registry.reap poll state
  (finished, {}, state)

end Registry

end JobShell
