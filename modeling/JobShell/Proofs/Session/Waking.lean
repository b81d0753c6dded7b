import JobShell.Proofs.Session.Announcing
import JobShell.Proofs.Session.Waiting

/-!
# Sleeping only while there is nothing to ask for

A child may end after it has been asked for in a round and before the sleep at the end
of that round.  But the pipe is emptied only between the sleep and the next round, so
what has been written since a process was asked for is still there when the wait is
about to sleep: it does not, and the process is asked for again.
-/

namespace JobShell

namespace Wait

/-! ## Bytes for the processes that have been asked for -/

variable {σ : Type} {kernel : Kernel σ} {watch : σ → Watch} {last : Pid} {wait next : Wait σ}

/-- Every process that was alive when it was asked for still is, or has left a byte in
the pipe. -/
structure Attentive (watch : σ → Watch) (wait : Wait σ) : Prop where
  capacity : 0 < (watch wait.state).recorder.capacity
  awake : ∀ pid ∈ wait.alive, (watch wait.state).Awake pid

theorem Attentive.turns (hkernel : kernel.Announces watch) (hattentive : wait.Attentive watch)
    (hturns : Turns kernel last wait next) : next.Attentive watch := by
  have hcapacity := hattentive.capacity
  have hawake := hattentive.awake
  cases hturns with
  | @stillAlive alive waiting pid status session state asked hpoll =>
      have hasks := hkernel.asks hpoll
      refine ⟨hasks.capacity ▸ hcapacity, ?_⟩
      intro other hother
      rcases List.mem_append.mp hother with hearlier | hlast
      · exact hasks.awake hcapacity other (hawake other hearlier)
      · intro hended
        obtain rfl := List.mem_singleton.mp hlast
        exact absurd hended (hasks.alive rfl).2
  | done hpoll halive hinterrupted =>
      have hasks := hkernel.asks hpoll
      refine ⟨hasks.capacity ▸ hcapacity, ?_⟩
      intro other hother
      exact hasks.awake hcapacity other (hawake other hother)
  | interrupted hpoll =>
      have hasks := hkernel.asks hpoll
      refine ⟨hasks.capacity ▸ hcapacity, ?_⟩
      intro other hother
      exact hasks.awake hcapacity other (hawake other hother)
  | @sleeps alive status serviced session next state served halive hserve hgoes =>
      -- The round begins anew: the pipe may be empty, but nothing has been asked for.
      have hgrows := (hkernel.sleep state).grows.trans
        (hkernel.servesWithin.serviceSignals session (kernel.sleep state))
      rw [hserve] at hgrows
      exact ⟨hgrows.capacity ▸ hcapacity, nofun⟩

theorem Attentive.reaches (hkernel : kernel.Announces watch)
    (hattentive : wait.Attentive watch) (hreaches : Reaches kernel last wait next) :
    next.Attentive watch := by
  induction hreaches with
  | begins => exact hattentive
  | goesOn _ hturn ih => exact ih.turns hkernel (turns_of_turn hturn)

/-! ## Asking again -/

/-- The processes of a wait are distinct, and one of them is not known to be alive: if it
is to be asked for, it has ended. -/
structure Settles (watch : σ → Watch) (pid : Pid) (wait : Wait σ) : Prop where
  distinct : (wait.alive ++ wait.waiting).Nodup
  notAlive : pid ∉ wait.alive
  ended : pid ∈ wait.waiting → pid ∈ (watch wait.state).ended

theorem distinct_turns (hdistinct : (wait.alive ++ wait.waiting).Nodup)
    (hturns : Turns kernel last wait next) : (next.alive ++ next.waiting).Nodup := by
  cases hturns with
  | stillAlive hpoll => rwa [List.append_assoc]
  | @done alive waiting pid status session state asked answer hpoll halive hinterrupted =>
      rw [(Session.perm_of_done alive waiting pid).nodup_iff] at hdistinct
      exact hdistinct.of_cons
  | interrupted hpoll => exact hdistinct
  | sleeps halive hserve hgoes => rwa [List.append_nil] at hdistinct

theorem distinct_reaches (hdistinct : (wait.alive ++ wait.waiting).Nodup)
    (hreaches : Reaches kernel last wait next) : (next.alive ++ next.waiting).Nodup := by
  induction hreaches with
  | begins => exact hdistinct
  | goesOn _ hturn ih => exact distinct_turns ih (turns_of_turn hturn)

theorem Settles.turns (hkernel : kernel.Announces watch) {pid : Pid}
    (hsettles : wait.Settles watch pid) (hturns : Turns kernel last wait next) :
    next.Settles watch pid := by
  have hdistinct := hsettles.distinct
  have hnotAlive := hsettles.notAlive
  have hended := hsettles.ended
  have hnext := distinct_turns hdistinct hturns
  cases hturns with
  | @stillAlive alive waiting polled status session state asked hpoll =>
      have hasks := hkernel.asks hpoll
      have hother : pid ≠ polled := by
        rintro rfl
        exact (hasks.alive rfl).1 (hended List.mem_cons_self)
      refine ⟨hnext, by simpa [hother] using hnotAlive, ?_⟩
      intro hwaiting
      exact hasks.ended pid (hended (List.mem_cons_of_mem _ hwaiting)) (.inl hother)
  | @done alive waiting polled status session state asked answer hpoll halive hinterrupted =>
      refine ⟨hnext, hnotAlive, ?_⟩
      intro hwaiting
      have hlater : pid ∈ waiting := (Session.rotateRight_perm waiting).mem_iff.mp hwaiting
      have hother : pid ≠ polled := by
        rintro rfl
        exact (List.nodup_cons.mp hdistinct.of_append_right).1 hlater
      exact (hkernel.asks hpoll).ended pid (hended (List.mem_cons_of_mem _ hlater)) (.inl hother)
  | interrupted hpoll =>
      refine ⟨hnext, hnotAlive, ?_⟩
      intro hwaiting
      exact (hkernel.asks hpoll).ended pid (hended hwaiting) (.inr rfl)
  | sleeps halive hserve hgoes =>
      exact ⟨hnext, List.not_mem_nil, fun hwaiting => absurd hwaiting hnotAlive⟩

theorem Settles.reaches (hkernel : kernel.Announces watch) {pid : Pid}
    (hsettles : wait.Settles watch pid) (hreaches : Reaches kernel last wait next) :
    next.Settles watch pid := by
  induction hreaches with
  | begins => exact hsettles
  | goesOn _ hturn ih => exact ih.turns hkernel (turns_of_turn hturn)

/-- Children may end and signals may come before every operation of a wait, and the pipe
may hold anything when it begins.  If a wait is about to sleep and a process of it could
be reaped, there is a byte in the pipe and there is no sleep.  If no quit is confirmed by
then, a new round begins in which the process is asked for, and before the next sleep it
is done with. -/
theorem awake_of_ended (hkernel : kernel.Announces watch) {job : Launch.Job}
    {session : Session} {state : σ} {wait : Wait σ}
    (hcapacity : 0 < (watch state).recorder.capacity)
    (hreaches : Reaches kernel job.last (start job session state) wait)
    (hround : wait.waiting = []) {pid : Pid} (hpid : pid ∈ wait.alive)
    (hended : pid ∈ (watch wait.state).ended) :
    0 < (watch wait.state).recorder.wakeups ∧ kernel.sleep wait.state = wait.state ∧
      ((∃ code next final,
          wait.session.serviceSignals kernel wait.state = (.exit code, next, final) ∧
          wait.turn kernel job.last = .inl (.exit code, next, final)) ∨
        ∃ next, wait.turn kernel job.last = .inr next ∧ pid ∈ next.waiting ∧
          pid ∈ (watch next.state).ended ∧
          (job.pids.Nodup → ∀ later, Reaches kernel job.last next later →
            later.waiting = [] → pid ∉ later.alive)) := by
  have hstart : (start job session state).Attentive watch :=
    ⟨hcapacity, fun pid hpid => absurd hpid List.not_mem_nil⟩
  have hattentive := hstart.reaches hkernel hreaches
  have hwakeups : 0 < (watch wait.state).recorder.wakeups := hattentive.awake pid hpid hended
  have hsleepless := hkernel.sleepless wait.state hwakeups
  refine ⟨hwakeups, hsleepless, ?_⟩
  have hgrows := hkernel.servesWithin.serviceSignals wait.session wait.state
  have hturn := turn_of_round kernel job.last (List.ne_nil_of_mem hpid) hround
  rw [hsleepless] at hturn
  generalize hserve : wait.session.serviceSignals kernel wait.state = served at hgrows hturn
  obtain ⟨serviced, next, final⟩ := served
  by_cases hexit : ∃ code, serviced = .exit code
  · obtain ⟨code, rfl⟩ := hexit
    exact .inl ⟨code, next, final, rfl, hturn⟩
  · have hgoes : wait.turn kernel job.last = .inr
        { alive := [], waiting := wait.alive, status := wait.status, session := next,
          state := final } := by
      cases serviced with
      | exit code => exact absurd ⟨code, rfl⟩ hexit
      | quiet => exact hturn
      | redraw => exact hturn
    have hstill := hgrows.ended hended
    refine .inr ⟨_, hgoes, hpid, hstill, ?_⟩
    intro hdistinct later hlater hagain
    have hstart : ((start job session state).alive ++
        (start job session state).waiting).Nodup := hdistinct
    have hwait := distinct_reaches hstart hreaches
    rw [hround, List.append_nil] at hwait
    have hsettles : Settles watch pid
        { alive := [], waiting := wait.alive, status := wait.status, session := next,
          state := final } :=
      ⟨hwait, List.not_mem_nil, fun _ => hstill⟩
    exact (hsettles.reaches hkernel hlater).notAlive

/-- The first of two processes ends after it has been asked for. -/
def belatedCourse : Timetable.Course where
  ends
    | 1 => (2, .exited 1)
    | _ => (50, .exited 0)

theorem awake_of_ended_belated :
    let kernel := Timetable.kernel belatedCourse
    ∃ wait : Wait Timetable,
      Reaches kernel 2
        (start { leader := 1, others := [2] } {} { history := History.created [1, 2] }) wait ∧
      wait.waiting = [] ∧ 1 ∈ wait.alive ∧ 1 ∈ (wait.state.watch belatedCourse).ended ∧
      0 < wait.state.recorder.wakeups ∧ kernel.sleep wait.state = wait.state ∧
      ∃ next, wait.turn kernel 2 = .inr next ∧ 1 ∈ next.waiting ∧
        1 ∈ (next.state.watch belatedCourse).ended ∧
        ∀ later, Reaches kernel 2 next later → later.waiting = [] → 1 ∉ later.alive := by
  intro kernel
  let history := History.created [1, 2]
  let job : Launch.Job := { leader := 1, others := [2] }
  let asked : Wait Timetable :=
    { alive := [1], waiting := [2], status := 0, session := {}, state := { clock := 1, history } }
  let table : Timetable := { clock := 2, recorder := { wakeups := 1 }, history }
  let wait : Wait Timetable :=
    { alive := [1, 2], waiting := [], status := 0, session := {}, state := table }
  have hasked : Reaches kernel job.last (start job {} { history }) asked := .goesOn .begins rfl
  have hreaches : Reaches kernel job.last (start job {} { history }) wait := .goesOn hasked rfl
  have hended : 1 ∈ (table.watch belatedCourse).ended := by decide
  obtain ⟨hwakeups, hsleepless, ⟨code, _, _, hexit, -⟩ | ⟨next, hturn, hwaiting, hstill, hdone⟩⟩ :=
    awake_of_ended (Timetable.kernel_announces belatedCourse) (by decide) hreaches rfl
      (List.mem_cons_self) hended
  · have hquiet : (({} : Session).serviceSignals kernel table).1 = .quiet := by decide +kernel
    rw [show ({} : Session).serviceSignals kernel table = _ from hexit] at hquiet
    cases hquiet
  · exact ⟨wait, hreaches, rfl, List.mem_cons_self, hended, hwakeups, hsleepless, next, hturn,
      hwaiting, hstill, hdone (by decide)⟩

end Wait

end JobShell
