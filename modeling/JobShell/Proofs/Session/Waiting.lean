import JobShell.Proofs.Session.Timetable
import JobShell.Proofs.Session.Turning

/-!
# Waiting for a pipeline

A wait is a course of reapings and of signals that are served, in any order.  If no
quit is confirmed in it, it goes on until every process of the pipeline has been
reaped, each of them once, and leaves the status of the last one.
-/

namespace JobShell

theorem Launch.Job.last_mem (job : Launch.Job) : job.last ∈ job.pids := by
  rw [Launch.Job.last, Launch.Job.pids, List.getLastD_eq_getLast?]
  cases hothers : job.others.getLast? with
  | none => exact List.mem_cons_self
  | some last => exact List.mem_cons_of_mem _ (List.mem_of_getLast? hothers)

namespace Session

open History (collected)

variable {σ : Type} {kernel : Kernel σ} {history : σ → History}

/-- The events of a wait for some processes, with the status so far and what is known
of quits, and what the wait comes to. -/
inductive Waits (timeout : Duration) (last : Pid) :
    List Pid → Int → Quit.State → History → Flow → Prop where
  | finished (status : Int) (quit : Quit.State) :
      Waits timeout last [] status quit [] (.proceed status)
  | reaps {pids rest : List Pid} {pid : Pid} {status : Int} {quit : Quit.State}
      {events : History} {flow : Flow} (ending : Ending) (hpids : pids.Perm (pid :: rest))
      (hrest : Waits timeout last rest
        (if pid = last then ending.settle status else status) quit events flow) :
      Waits timeout last pids status quit (.reaped pid ending :: events) flow
  | serves {pids : List Pid} {status : Int} {quit : Quit.State}
      {deliveries : List Quit.Delivery} {events : History} {flow : Flow}
      (hopen : ¬ Quit.Confirms timeout quit deliveries)
      (hrest : Waits timeout last pids status (Quit.after timeout quit deliveries)
        events flow) :
      Waits timeout last pids status quit (collected deliveries ++ events) flow
  | quits {pids : List Pid} {status : Int} {quit : Quit.State}
      {deliveries : List Quit.Delivery} (hconfirms : Quit.Confirms timeout quit deliveries) :
      Waits timeout last pids status quit (collected deliveries) (.exit 0)

/-- The status that is left when the processes have been reaped in this order. -/
def settled (last : Pid) (status : Int) (endings : List (Pid × Ending)) : Int :=
  endings.foldl
    (fun status reaped => if reaped.1 = last then reaped.2.settle status else status) status

theorem settled_of_notMem {last : Pid} {endings : List (Pid × Ending)} (status : Int)
    (hlast : last ∉ endings.map Prod.fst) : settled last status endings = status := by
  induction endings generalizing status with
  | nil => rfl
  | cons reaped rest ih =>
      simp only [List.map_cons, List.mem_cons, not_or] at hlast
      rw [settled, List.foldl_cons, if_neg (Ne.symm hlast.1)]
      exact ih status hlast.2

/-- A process that is reaped once settles the status, whatever its place in the order. -/
theorem settled_of_mem {last : Pid} {ending : Ending} {endings : List (Pid × Ending)}
    (status : Int) (hdistinct : (endings.map Prod.fst).Nodup)
    (hlast : (last, ending) ∈ endings) :
    settled last status endings = ending.settle status := by
  induction endings generalizing status with
  | nil => cases hlast
  | cons reaped rest ih =>
      obtain ⟨hfirst, hrest⟩ := List.nodup_cons.mp hdistinct
      rcases List.mem_cons.mp hlast with rfl | hlater
      · rw [settled, List.foldl_cons, if_pos rfl]
        exact settled_of_notMem _ hfirst
      · have hother : reaped.1 ≠ last := by
          intro hsame
          rw [hsame] at hfirst
          exact hfirst (List.mem_map_of_mem hlater)
        rw [settled, List.foldl_cons, if_neg hother]
        exact ih status hrest hlater

namespace Waits

variable {timeout : Duration} {last : Pid} {pids : List Pid} {status : Int}
variable {quit : Quit.State} {events : History} {flow : Flow}

/-- A wait ends with the session if a quit is confirmed, and otherwise with the last of
its processes. -/
theorem outcome (hwaits : Waits timeout last pids status quit events flow) :
    Quit.Confirms timeout quit events.deliveries ∧ flow = .exit 0 ∨
      ¬ Quit.Confirms timeout quit events.deliveries ∧
        (events.endings.map Prod.fst).Perm pids ∧
        flow = .proceed (settled last status events.endings) := by
  induction hwaits with
  | finished status quit => exact .inr ⟨Quit.not_confirms_nil timeout quit, .nil, rfl⟩
  | reaps ending hpids hrest ih =>
      obtain hquits | ⟨hopen, hreaped, hflow⟩ := ih
      · exact .inl hquits
      · exact .inr ⟨hopen, (hreaped.cons _).trans hpids.symm, hflow⟩
  | serves hopen hrest ih =>
      simpa only [History.deliveries_append, History.deliveries_collected,
        History.endings_append, History.endings_collected, List.nil_append,
        Quit.confirms_append, hopen, false_or] using ih
  | quits hconfirms =>
      rw [History.deliveries_collected]
      exact .inl ⟨hconfirms, rfl⟩

/-- Only reaping changes what children there are. -/
theorem mem_unreaped (hwaits : Waits timeout last pids status quit events flow)
    (before : History) (pid : Pid) :
    pid ∈ (before ++ events).unreaped ↔
      pid ∈ before.unreaped ∧ pid ∉ events.endings.map Prod.fst := by
  induction hwaits generalizing before with
  | finished status quit => simp [History.endings]
  | reaps ending hpids hrest ih =>
      rw [List.append_cons, ih, History.unreaped_concat, History.endings_reaped,
        List.map_cons, List.mem_cons, not_or, ← and_assoc]
      exact and_congr_left' (Finset.mem_erase.trans and_comm)
  | serves hopen hrest ih =>
      rw [← List.append_assoc, ih, History.unreaped_collected, History.endings_append,
        History.endings_collected, List.nil_append]
  | quits hconfirms => simp

end Waits

/-! ## The course of a wait -/

theorem rotateRight_perm (pids : List Pid) : pids.rotateRight.Perm pids := by
  dsimp only [List.rotateRight]
  split
  · rfl
  · apply List.perm_append_comm.trans
    rw [List.take_append_drop]

/-- The process that would be asked for last takes the place of one that is done with. -/
theorem perm_of_done (alive waiting : List Pid) (pid : Pid) :
    (alive ++ pid :: waiting).Perm (pid :: (alive ++ waiting.rotateRight)) :=
  List.perm_middle.trans (((rotateRight_perm waiting).symm.append_left alive).cons pid)

/-- What a wait from a state comes to, with the events of its course. -/
def Passes (history : σ → History) (last : Pid) (pids : List Pid) (status : Int)
    (session : Session) (state : σ) (result : Flow × Session × σ) : Prop :=
  ∃ events quit, history result.2.2 = history state ++ events ∧
    result.2.1 = { session with quit } ∧
    Waits session.settings.quitTimeout last pids status session.quit events result.1

/-- A process that is not to be asked for again has been reaped by the question. -/
theorem outstanding_of_done (hkeeps : kernel.Keeps history) {alive waiting : List Pid}
    {pid : Pid} {state asked : σ} {answer : Except Errno WaitStatus}
    (hpids : History.Outstanding (history state) (alive ++ pid :: waiting))
    (hpoll : kernel.poll pid state = (answer, asked)) (halive : answer ≠ .ok .alive)
    (hinterrupted : answer ≠ .error .interrupted) :
    ∃ ending : Ending, answer = ending.answer ∧
      history asked = history state ++ [.reaped pid ending] ∧
      History.Outstanding (history asked) (alive ++ waiting.rotateRight) := by
  have hpid := hpids.unreaped pid List.mem_append_cons_self
  obtain ⟨ending, hanswer, hreaped⟩ := hkeeps.poll_reaped hpid hpoll halive hinterrupted
  refine ⟨ending, hanswer, hreaped, ?_⟩
  rw [hreaped]
  exact (hpids.perm (perm_of_done alive waiting pid)).reaped ending

theorem passes_of_done {last pid : Pid} {alive waiting : List Pid} {status : Int}
    {ending : Ending} {session : Session} {state asked : σ} {result : Flow × Session × σ}
    (hreaped : history asked = history state ++ [.reaped pid ending])
    (hrest : Passes history last (alive ++ waiting.rotateRight)
      (if pid = last then ending.settle status else status) session asked result) :
    Passes history last (alive ++ pid :: waiting) status session state result := by
  obtain ⟨events, quit, hfinal, hnext, hwaits⟩ := hrest
  refine ⟨.reaped pid ending :: events, quit, ?_, hnext, ?_⟩
  · rw [hfinal, hreaped, List.append_assoc, List.singleton_append]
  · exact .reaps ending (perm_of_done alive waiting pid) hwaits

/-- Every wait that returns has such a course. -/
theorem passes_run (hkeeps : kernel.Keeps history) (last : Pid) {turns : Nat} {wait : Wait σ}
    {result : Flow × Session × σ}
    (hpids : History.Outstanding (history wait.state) (wait.alive ++ wait.waiting))
    (hreturns : wait.run kernel last turns = some result) :
    Passes history last (wait.alive ++ wait.waiting) wait.status wait.session wait.state
      result := by
  refine Wait.run_induction
    (motive := fun wait result =>
      History.Outstanding (history wait.state) (wait.alive ++ wait.waiting) →
        Passes history last (wait.alive ++ wait.waiting) wait.status wait.session wait.state
          result)
    ?_ ?_ hreturns hpids
  · intro wait result hstops hpids
    cases hstops with
    | @finished status session state =>
        exact ⟨[], session.quit, (List.append_nil _).symm, rfl, .finished status session.quit⟩
    | @quits alive status code session next state served halive hserve =>
        obtain ⟨deliveries, _, quit, _, hserved, hfinal, hquit⟩ :=
          hkeeps.serviceSignals session (kernel.sleep state)
        rw [hserve, Prod.mk.injEq, Prod.mk.injEq] at hserved
        obtain ⟨rfl, rfl, rfl⟩ := hserved
        rw [hkeeps.sleep] at hfinal
        obtain ⟨hconfirms, hexit⟩ | ⟨-, hgoes, -⟩ := hquit
        · cases hexit
          exact ⟨collected deliveries, quit, hfinal, rfl, .quits hconfirms⟩
        · exact absurd rfl (hgoes code)
  · intro wait next result hturns ih hpids
    cases hturns with
    | @stillAlive alive waiting pid status session state asked hpoll =>
        have hpid := hpids.unreaped pid List.mem_append_cons_self
        have hsame := hkeeps.poll_unchanged hpid hpoll (.inl rfl)
        rw [List.append_cons] at hpids ⊢
        rw [Passes, hsame] at ih
        exact ih hpids
    | @done alive waiting pid status session state asked answer hpoll halive hinterrupted =>
        obtain ⟨ending, rfl, hreaped, hrest⟩ :=
          outstanding_of_done hkeeps hpids hpoll halive hinterrupted
        exact passes_of_done hreaped (ih hrest)
    | @interrupted alive waiting pid status session state asked hpoll =>
        have hpid := hpids.unreaped pid List.mem_append_cons_self
        have hsame := hkeeps.poll_unchanged hpid hpoll (.inr rfl)
        rw [Passes, hsame] at ih
        exact ih hpids
    | @sleeps alive status serviced session next state served halive hserve hgoes =>
        obtain ⟨deliveries, _, quit, _, hserved, hserving, hquit⟩ :=
          hkeeps.serviceSignals session (kernel.sleep state)
        rw [hserve, Prod.mk.injEq, Prod.mk.injEq] at hserved
        obtain ⟨rfl, rfl, rfl⟩ := hserved
        rw [hkeeps.sleep] at hserving
        obtain ⟨-, rfl⟩ | ⟨hopen, -, rfl⟩ := hquit
        · exact absurd rfl (hgoes 0)
        · have hrest := hpids.collected deliveries
          rw [List.append_nil, ← hserving] at hrest
          obtain ⟨events, quit, hfinal, hnext, hwaits⟩ := ih hrest
          refine ⟨collected deliveries ++ events, quit, ?_, hnext, ?_⟩
          · rw [hfinal, hserving, List.append_assoc]
          · rw [List.append_nil]
            exact .serves hopen hwaits

theorem passes_waitForeground (hkeeps : kernel.Keeps history) {job : Launch.Job}
    {session : Session} {state : σ} {result : Flow × Session × σ}
    (hpids : History.Outstanding (history state) job.pids)
    (hreturns : session.waitForeground kernel job state = some result) :
    Passes history job.last job.pids 0 session state result := by
  have hwait : History.Outstanding (history (Wait.start job session state).state)
      ((Wait.start job session state).alive ++ (Wait.start job session state).waiting) := hpids
  exact passes_run hkeeps job.last hwait hreturns

/-! ## What a wait leaves -/

/-- A wait for children that returns without a confirmed quit has reaped each of them
once and nothing else, in whatever order they ended and whatever signals were
collected meanwhile, and leaves the status of the last one. -/
theorem waitForeground_reaps_all (hkeeps : kernel.Keeps history) {job : Launch.Job}
    {session next : Session} {state final : σ} {flow : Flow}
    (hpids : History.Outstanding (history state) job.pids)
    (hreturns : session.waitForeground kernel job state = some (flow, next, final)) :
    ∃ events : History, history final = history state ++ events ∧
      (Quit.Confirms session.settings.quitTimeout session.quit events.deliveries ∧
          flow = .exit 0 ∨
        ¬ Quit.Confirms session.settings.quitTimeout session.quit events.deliveries ∧
          (events.endings.map Prod.fst).Perm job.pids ∧
          (∀ pid, pid ∈ (history final).unreaped ↔
            pid ∈ (history state).unreaped ∧ pid ∉ job.pids) ∧
          ∃ ending, (job.last, ending) ∈ events.endings ∧
            flow = .proceed (ending.settle 0)) := by
  obtain ⟨events, quit, hfinal, -, hwaits⟩ :=
    passes_waitForeground hkeeps hpids hreturns
  refine ⟨events, hfinal, ?_⟩
  obtain hquits | ⟨hopen, hreaped, hflow⟩ := hwaits.outcome
  · exact .inl hquits
  · have hdistinct := hreaped.nodup_iff.mpr hpids.distinct
    have hlast : job.last ∈ events.endings.map Prod.fst := hreaped.mem_iff.mpr job.last_mem
    obtain ⟨⟨_, ending⟩, hending, rfl⟩ := List.mem_map.mp hlast
    refine .inr ⟨hopen, hreaped, ?_, ending, hending, ?_⟩
    · intro pid
      rw [hfinal, hwaits.mem_unreaped, hreaped.mem_iff]
    · rw [settled_of_mem 0 hdistinct hending] at hflow
      exact hflow

/-- Three processes end while signals arrive between the questions for them. -/
def scatteredCourse : Timetable.Course where
  ends
    | 1 => (9, .signaled .terminate false)
    | 2 => (3, .exited 1)
    | _ => (14, .exited 7)
  arrivals
    | 2 => [.quit]
    | 5 => [.interrupt, .child]
    | 8 => [.alarm]
    | 12 => [.quit]
    | _ => []

theorem waitForeground_reaps_all_scattered :
    ∃ (next : Session) (final : Timetable) (events : History),
      ({} : Session).waitForeground (Timetable.kernel scatteredCourse)
          { leader := 1, others := [2, 3] } { history := History.created [1, 2, 3] } =
        some (.proceed 7, next, final) ∧
        final.history = History.created [1, 2, 3] ++ events ∧
        ¬ Quit.Confirms (.ofSeconds 5) {} events.deliveries ∧
        (events.endings.map Prod.fst).Perm [1, 2, 3] ∧
        ∃ ending, (3, ending) ∈ events.endings ∧
          Flow.proceed 7 = .proceed (ending.settle 0) := by
  have hreturned : (({} : Session).waitForeground (Timetable.kernel scatteredCourse)
      { leader := 1, others := [2, 3] } { history := History.created [1, 2, 3] }).map
        Prod.fst = some (.proceed 7) := by
    decide +kernel
  obtain ⟨⟨flow, next, final⟩, hreturns, hflow⟩ := Option.map_eq_some_iff.mp hreturned
  obtain rfl : flow = .proceed 7 := hflow
  obtain ⟨events, hfinal, ⟨-, hexit⟩ | ⟨hopen, hreaped, -, hlast⟩⟩ :=
    waitForeground_reaps_all (Timetable.kernel_keeps scatteredCourse)
      ⟨by decide, by decide⟩ hreturns
  · cases hexit
  · exact ⟨next, final, events, hreturns, hfinal, hopen, hreaped, hlast⟩

/-- The end of a process by a signal without a name cannot be told, and the status of
the pipeline is zero and not that of the signal. -/
theorem waitForeground_unnamed_signal :
    ¬ ∀ (kernel : Kernel Timetable), kernel.Keeps Timetable.history →
      ∀ (job : Launch.Job) (session next : Session) (state final : Timetable) (flow : Flow),
        History.Outstanding state.history job.pids →
        session.waitForeground kernel job state = some (flow, next, final) →
        ∀ events : History, final.history = state.history ++ events →
        ¬ Quit.Confirms session.settings.quitTimeout session.quit events.deliveries →
        ∃ ending, (job.last, ending) ∈ events.endings ∧
          flow = .proceed ending.status.exitStatus := by
  intro hclaim
  let killed : Ending := .signaled (.realTime 34) false
  let course : Timetable.Course := { ends := fun _ => (0, killed) }
  have hreturns : ({} : Session).waitForeground (Timetable.kernel course)
      { leader := 1, others := [] } { history := [.created 1] } =
      some (.proceed 0, {}, { clock := 1, history := [.created 1, .reaped 1 killed] }) := by
    decide +kernel
  obtain ⟨ending, hending, hflow⟩ := hclaim _ (Timetable.kernel_keeps course) _ _ _ _ _ _
    ⟨by decide, by decide⟩ hreturns [.reaped 1 killed] rfl (Quit.not_confirms_nil _ _)
  obtain ⟨-, rfl⟩ := Prod.mk.inj (List.mem_singleton.mp hending)
  exact absurd hflow (by decide)

end Session

end JobShell
