import JobShell.Session

/-!
# Turns of a wait

What one turn of a wait in the foreground can do, and what can be said of a whole wait
because of it.  A turn either asks for one process, or serves the signals at the end of a
round; a wait that returns is a sequence of turns, the last of which stops it.
-/

namespace JobShell.Wait

variable {σ : Type} {kernel : Kernel σ} {last : Pid}

/-- The status that an answer leaves behind. -/
def settle (before : Int) : Except Errno WaitStatus → Int
  | .ok ended => ended.exitStatus
  | .error _ => before

/-- What a turn can do that does not stop a wait. -/
inductive Turns (kernel : Kernel σ) (last : Pid) : Wait σ → Wait σ → Prop where
  | stillAlive {alive waiting : List Pid} {pid : Pid} {status : Int} {session : Session}
      {state asked : σ} (hpoll : kernel.poll pid state = (.ok .alive, asked)) :
      Turns kernel last { alive, waiting := pid :: waiting, status, session, state }
        { alive := alive ++ [pid], waiting, status, session, state := asked }
  | done {alive waiting : List Pid} {pid : Pid} {status : Int} {session : Session}
      {state asked : σ} {answer : Except Errno WaitStatus}
      (hpoll : kernel.poll pid state = (answer, asked)) (halive : answer ≠ .ok .alive)
      (hinterrupted : answer ≠ .error .interrupted) :
      Turns kernel last { alive, waiting := pid :: waiting, status, session, state }
        { alive, waiting := waiting.rotateRight
          status := if pid = last then settle status answer else status
          session, state := asked }
  | interrupted {alive waiting : List Pid} {pid : Pid} {status : Int} {session : Session}
      {state asked : σ} (hpoll : kernel.poll pid state = (.error .interrupted, asked)) :
      Turns kernel last { alive, waiting := pid :: waiting, status, session, state }
        { alive, waiting := pid :: waiting, status, session, state := asked }
  | sleeps {alive : List Pid} {status : Int} {serviced : Serviced} {session next : Session}
      {state served : σ} (halive : alive ≠ [])
      (hserve : session.serviceSignals kernel (kernel.sleep state) = (serviced, next, served))
      (hgoes : ∀ code, serviced ≠ .exit code) :
      Turns kernel last { alive, waiting := [], status, session, state }
        { alive := [], waiting := alive, status, session := next, state := served }

/-- What stops a wait, and its result. -/
inductive Stops (kernel : Kernel σ) : Wait σ → Flow × Session × σ → Prop where
  | finished {status : Int} {session : Session} {state : σ} :
      Stops kernel { alive := [], waiting := [], status, session, state }
        (.proceed status, session, state)
  | quits {alive : List Pid} {status code : Int} {session next : Session} {state served : σ}
      (halive : alive ≠ [])
      (hserve : session.serviceSignals kernel (kernel.sleep state) =
        (.exit code, next, served)) :
      Stops kernel { alive, waiting := [], status, session, state } (.exit code, next, served)

/-- A turn stops the wait or leads on. -/
theorem turn_cases (kernel : Kernel σ) (last : Pid) (wait : Wait σ) :
    (∃ result, wait.turn kernel last = .inl result ∧ Stops kernel wait result) ∨
      ∃ next, wait.turn kernel last = .inr next ∧ Turns kernel last wait next := by
  fun_cases turn kernel last wait with
  | case1 alive pid waiting status session state asked hpoll =>
      exact .inr ⟨_, rfl, .stillAlive hpoll⟩
  | case2 alive pid waiting status session state ended asked hended hpoll left =>
      exact .inr ⟨_, rfl, .done hpoll (by simpa using hended) nofun⟩
  | case3 alive pid waiting status session state asked hpoll =>
      exact .inr ⟨_, rfl, .interrupted hpoll⟩
  | case4 alive pid waiting status session state errno asked hinterrupted hpoll =>
      refine .inr ⟨_, ?_, .done hpoll nofun (by simpa using hinterrupted)⟩
      simp only [settle, ite_self]
  | case5 status session state => exact .inl ⟨_, rfl, .finished⟩
  | case6 pid alive status session state code served final hserve =>
      exact .inl ⟨_, rfl, .quits (List.cons_ne_nil pid alive) hserve⟩
  | case7 pid alive status session state serviced served final hgoes hserve =>
      exact .inr ⟨_, rfl, .sleeps (List.cons_ne_nil pid alive) hserve hgoes⟩

theorem turns_of_turn {wait next : Wait σ} (hturn : wait.turn kernel last = .inr next) :
    Turns kernel last wait next := by
  obtain ⟨result, hstop, -⟩ | ⟨other, hother, hturns⟩ := turn_cases kernel last wait
  · cases hstop.symm.trans hturn
  · cases hother.symm.trans hturn
    exact hturns

theorem stops_of_turn {wait : Wait σ} {result : Flow × Session × σ}
    (hturn : wait.turn kernel last = .inl result) : Stops kernel wait result := by
  obtain ⟨other, hother, hstops⟩ | ⟨next, hnext, -⟩ := turn_cases kernel last wait
  · cases hother.symm.trans hturn
    exact hstops
  · cases hnext.symm.trans hturn

/-- At the end of a round a wait sleeps and serves the signals. -/
theorem turn_of_round (kernel : Kernel σ) (last : Pid) {wait : Wait σ} (halive : wait.alive ≠ [])
    (hround : wait.waiting = []) :
    wait.turn kernel last =
      match wait.session.serviceSignals kernel (kernel.sleep wait.state) with
      | (.exit code, session, state) => .inl (.exit code, session, state)
      | (_, session, state) =>
          .inr { alive := [], waiting := wait.alive, status := wait.status, session, state } := by
  obtain ⟨alive, waiting, status, session, state⟩ := wait
  obtain rfl : waiting = [] := hround
  cases alive with
  | nil => exact absurd rfl halive
  | cons pid alive => rfl

/-! ## Whole waits -/

/-- What holds where a wait stops, and before a turn if it holds behind it, holds of every
wait that returns. -/
theorem run_induction {motive : Wait σ → Flow × Session × σ → Prop}
    (stops : ∀ wait result, Stops kernel wait result → motive wait result)
    (turns : ∀ wait next result, Turns kernel last wait next → motive next result →
      motive wait result)
    {limit : Nat} {wait : Wait σ} {result : Flow × Session × σ}
    (hrun : wait.run kernel last limit = some result) : motive wait result := by
  induction limit generalizing wait with
  | zero => cases hrun
  | succ limit ih =>
      rw [run] at hrun
      cases hturn : wait.turn kernel last with
      | inl stopped =>
          rw [hturn] at hrun
          cases hrun
          exact stops wait result (stops_of_turn hturn)
      | inr next =>
          rw [hturn] at hrun
          exact turns wait next result (turns_of_turn hturn) (ih hrun)

/-- The waits that turns lead to. -/
inductive Reaches (kernel : Kernel σ) (last : Pid) (first : Wait σ) : Wait σ → Prop where
  | begins : Reaches kernel last first first
  | goesOn {wait next : Wait σ} (hreaches : Reaches kernel last first wait)
      (hturn : wait.turn kernel last = .inr next) : Reaches kernel last first next

theorem Reaches.behind {first middle wait : Wait σ} (hturn : first.turn kernel last = .inr middle)
    (hreaches : Reaches kernel last middle wait) : Reaches kernel last first wait := by
  induction hreaches with
  | begins => exact .goesOn .begins hturn
  | goesOn _ hnext ih => exact .goesOn ih hnext

/-- A wait that returns has come to a turn that stops it. -/
theorem exists_reaches_of_run {limit : Nat} {first : Wait σ} {result : Flow × Session × σ}
    (hrun : first.run kernel last limit = some result) :
    ∃ wait, Reaches kernel last first wait ∧ wait.turn kernel last = .inl result := by
  induction limit generalizing first with
  | zero => cases hrun
  | succ limit ih =>
      rw [run] at hrun
      cases hturn : first.turn kernel last with
      | inl stopped =>
          rw [hturn] at hrun
          cases hrun
          exact ⟨first, .begins, hturn⟩
      | inr next =>
          rw [hturn] at hrun
          obtain ⟨wait, hreaches, hstops⟩ := ih hrun
          exact ⟨wait, hreaches.behind hturn, hstops⟩

end JobShell.Wait
