import JobShell.Proofs.Session.Timetable
import JobShell.Proofs.Session.Waiting

/-!
# The registry lists the children

Between its operations a session knows all its children: those that have been
created and not been reaped are the ones that it lists.  A pipeline in the
foreground comes and goes within one line, every process of one in the background
is listed, and asking for the listed processes forgets those that it reaps.
-/

namespace JobShell

variable {σ : Type} {kernel : Kernel σ} {history : σ → History}

/-- A list holds each child that has not been reaped once, and nobody else. -/
structure History.Lists (history : History) (pids : List Pid) : Prop where
  distinct : pids.Nodup
  unreaped : ∀ pid, pid ∈ pids ↔ pid ∈ history.unreaped

namespace History.Lists

variable {before : History} {pids : List Pid}

theorem created (hlists : before.Lists pids) {others : List Pid} (hothers : others.Nodup)
    (hnew : ∀ pid ∈ others, pid ∉ before.unreaped) :
    History.Lists (before ++ History.created others) (pids ++ others) where
  distinct := by
    apply List.nodup_append'.mpr
    refine ⟨hlists.distinct, hothers, ?_⟩
    intro pid hpid hother
    exact hnew pid hother ((hlists.unreaped pid).mp hpid)
  unreaped pid := by
    rw [List.mem_append, mem_unreaped_created, hlists.unreaped]

end History.Lists

/-! ## Asking for the listed processes -/

namespace Registry

theorem foldl_push (pids : List Pid) (registry : Registry) :
    (pids.foldl push registry).pids = registry.pids ++ pids := by
  induction pids generalizing registry with
  | nil => exact (List.append_nil _).symm
  | cons pid rest ih =>
      rw [List.foldl_cons, ih, push, List.append_assoc]
      rfl

/-- One question: a child that is not done with stays listed and unreaped, and one that
is done with is neither. -/
theorem reapFrom_cons (hkeeps : kernel.Keeps history) {pid : Pid} {rest kept : List Pid}
    {state final : σ} {finished : List (Pid × Int)} (hpid : pid ∈ (history state).unreaped)
    (hnamed : (kernel.poll pid state).1 ≠ .error .invalid)
    (hreap : reapFrom kernel.poll (pid :: rest) state = (finished, kept, final)) :
    ∃ asked others remaining,
      reapFrom kernel.poll rest asked = (others, remaining, final) ∧
      (kept = pid :: remaining ∧ history asked = history state ∨
        kept = remaining ∧
          ∃ ending, history asked = history state ++ [.reaped pid ending]) := by
  have hasked := hkeeps.poll pid state hpid
  rw [reapFrom] at hreap
  generalize kernel.poll pid state = polled at hasked hnamed hreap
  obtain ⟨answer, asked⟩ := polled
  dsimp only at hasked hnamed hreap
  generalize hrest : reapFrom kernel.poll rest asked = reaped at hreap
  obtain ⟨others, remaining, last⟩ := reaped
  refine ⟨asked, others, remaining, ?_⟩
  obtain ⟨rfl | rfl, hsame⟩ | ⟨ending, rfl, hreaped⟩ := hasked
  · cases hreap
    exact ⟨hrest, .inl ⟨rfl, hsame⟩⟩
  · cases hreap
    exact ⟨hrest, .inl ⟨rfl, hsame⟩⟩
  · rw [ending.answer_cases.resolve_right hnamed] at hreap
    cases ending <;> cases hreap <;> exact ⟨hrest, .inr ⟨rfl, _, hreaped⟩⟩

/-- Asking for children forgets those that it reaps and keeps the others. -/
theorem reapFrom_children (hkeeps : kernel.Keeps history)
    (htells : kernel.TellsEnds history)
    (pids : List Pid) (state : σ) (hpids : History.Outstanding (history state) pids)
    {finished : List (Pid × Int)} {kept : List Pid} {final : σ}
    (hreap : reapFrom kernel.poll pids state = (finished, kept, final)) :
    kept.Sublist pids ∧
      ∀ pid, pid ∈ (history final).unreaped ↔
        pid ∈ (history state).unreaped ∧ (pid ∈ pids → pid ∈ kept) := by
  induction pids generalizing state finished kept final with
  | nil =>
      cases hreap
      simp
  | cons first rest ih =>
      have hfirst := hpids.unreaped first List.mem_cons_self
      have hother := hpids.distinct.notMem
      obtain ⟨asked, others, remaining, hrest, ⟨rfl, hsame⟩ | ⟨rfl, ending, hreaped⟩⟩ :=
        reapFrom_cons hkeeps hfirst (htells first state hfirst) hreap
      · have houtstanding : History.Outstanding (history asked) rest := by
          rw [hsame]
          exact ⟨hpids.distinct.of_cons, fun pid hpid =>
            hpids.unreaped pid (List.mem_cons_of_mem first hpid)⟩
        obtain ⟨hkept, hunreaped⟩ := ih asked houtstanding hrest
        refine ⟨hkept.cons_cons first, fun pid => ?_⟩
        rw [hunreaped, hsame, List.mem_cons, List.mem_cons]
        apply and_congr_right
        intro hchild
        constructor
        · rintro hkeep (rfl | hpid)
          · exact .inl rfl
          · exact .inr (hkeep hpid)
        · intro hkeep hpid
          rcases hkeep (.inr hpid) with rfl | hremains
          · exact absurd hpid hother
          · exact hremains
      · have houtstanding := hpids.reaped ending
        rw [← hreaped] at houtstanding
        obtain ⟨hkept, hunreaped⟩ := ih asked houtstanding hrest
        refine ⟨hkept.cons first, fun pid => ?_⟩
        rw [hunreaped, hreaped, History.unreaped_concat, History.follow, Finset.mem_erase,
          List.mem_cons]
        constructor
        · rintro ⟨⟨hdiffers, hchild⟩, hkeep⟩
          exact ⟨hchild, fun hpid => hkeep (hpid.resolve_left hdiffers)⟩
        · rintro ⟨hchild, hkeep⟩
          refine ⟨⟨?_, hchild⟩, fun hpid => hkeep (.inr hpid)⟩
          rintro rfl
          exact hother (hkept.subset (hkeep (.inl rfl)))

/-- A registry that lists the children does so after it has asked for them. -/
theorem lists_reap (hkeeps : kernel.Keeps history)
    (htells : kernel.TellsEnds history)
    (registry : Registry) (state : σ) (hlists : History.Lists (history state) registry.pids) :
    History.Lists (history (registry.reap kernel.poll state).2.2)
      (registry.reap kernel.poll state).2.1.pids := by
  have hpids : History.Outstanding (history state) registry.pids :=
    ⟨hlists.distinct, fun pid => (hlists.unreaped pid).mp⟩
  obtain ⟨hkept, hunreaped⟩ := reapFrom_children hkeeps htells registry.pids state hpids rfl
  refine ⟨hkept.nodup hlists.distinct, fun pid => ?_⟩
  refine Iff.trans ?_ (hunreaped pid).symm
  rw [← hlists.unreaped]
  constructor
  · intro hpid
    exact ⟨hkept.subset hpid, fun _ => hpid⟩
  · rintro ⟨hpid, hkeeps⟩
    exact hkeeps hpid

end Registry

namespace Session

theorem lists_reportFinishedJobs (hkeeps : kernel.Keeps history)
    (htells : kernel.TellsEnds history)
    (session : Session) (state : σ)
    (hlists : History.Lists (history state) session.jobs.pids) :
    History.Lists (history (session.reportFinishedJobs kernel state).2)
      (session.reportFinishedJobs kernel state).1.jobs.pids := by
  have hreaped := session.jobs.lists_reap hkeeps htells state hlists
  have hsaid := hkeeps.respondsWithin.sayAll
    ((session.jobs.reap kernel.poll state).1.map doneNotice)
    (session.jobs.reap kernel.poll state).2.2
  rw [← hsaid] at hreaped
  exact hreaped

theorem lists_serviceSignals (hkeeps : kernel.Keeps history) (session : Session) (state : σ)
    (hlists : History.Lists (history state) session.jobs.pids) :
    History.Lists (history (session.serviceSignals kernel state).2.2)
      (session.serviceSignals kernel state).2.1.jobs.pids := by
  obtain ⟨deliveries, served, quit, final, hserved, hfinal, -⟩ :=
    hkeeps.serviceSignals session state
  rw [hserved, hfinal]
  exact ⟨hlists.distinct, fun pid => by rw [History.unreaped_collected, hlists.unreaped]⟩

/-! ## Lines -/

theorem history_runBuiltin (hkeeps : kernel.Keeps history) (builtin : Builtin)
    (command : Command) (session : Session) (state : σ) :
    history (session.runBuiltin kernel builtin command state).2.2 = history state ∧
      (session.runBuiltin kernel builtin command state).2.1.jobs = session.jobs := by
  have hopened := hkeeps.openTargets command.targets state
  rw [runBuiltin]
  split
  · next fault opened hopen =>
      rw [hopen] at hopened
      exact ⟨hopened, rfl⟩
  · next opened hopen =>
      rw [hopen] at hopened
      have hran := hkeeps.runBuiltin builtin command.argv.tail session.environment opened
      generalize builtin.run kernel.toHost command.argv.tail session.environment opened =
        ran at hran ⊢
      obtain ⟨outcome, environment, final⟩ := ran
      have hfinal := hran.trans hopened
      rcases outcome with fault | status | code
      · exact ⟨hfinal, rfl⟩
      · exact ⟨hfinal, rfl⟩
      · exact ⟨hfinal, rfl⟩

theorem lists_launchBackground (hkeeps : kernel.Keeps history) (pipeline : Pipeline)
    (session : Session) (state : σ) (hlists : History.Lists (history state) session.jobs.pids)
    {outcome : Except Fault Flow} {next : Session} {final : σ}
    (hreturns : session.launchBackground kernel pipeline state = some (outcome, next, final)) :
    History.Lists (history final) next.jobs.pids := by
  obtain ⟨launched, started, hlaunch, ⟨job, rfl, hdistinct, hnew, hcreated⟩ |
      ⟨fault, rfl, hsame⟩⟩ := hkeeps.launch session.environment pipeline.commands state
  · rw [launchBackground, hlaunch] at hreturns
    obtain ⟨said, hsay, hresult⟩ := Option.map_eq_some_iff.mp hreturns
    cases hresult
    dsimp only
    rw [hkeeps.said hsay, Registry.foldl_push, hcreated]
    exact hlists.created hdistinct hnew
  · rw [launchBackground, hlaunch] at hreturns
    cases hreturns
    exact ⟨hlists.distinct, fun pid => (hlists.unreaped pid).trans (hsame pid).symm⟩

/-- What is launched in the foreground is gone when the session goes on. -/
theorem lists_launchForeground (hkeeps : kernel.Keeps history) (pipeline : Pipeline)
    (session : Session) (state : σ) (hlists : History.Lists (history state) session.jobs.pids)
    {outcome : Except Fault Flow} {next : Session} {final : σ}
    (hgoes : ∀ code, outcome ≠ .ok (.exit code))
    (hreturns : session.launchForeground kernel pipeline state = some (outcome, next, final)) :
    History.Lists (history final) next.jobs.pids := by
  obtain ⟨launched, started, hlaunch, ⟨job, rfl, hdistinct, hnew, hcreated⟩ |
      ⟨fault, rfl, hsame⟩⟩ := hkeeps.launch session.environment pipeline.commands state
  · rw [launchForeground, hlaunch] at hreturns
    obtain ⟨⟨flow, waited, ended⟩, hwait, hresult⟩ := Option.map_eq_some_iff.mp hreturns
    simp only [Prod.mk.injEq] at hresult
    obtain ⟨rfl, rfl, rfl⟩ := hresult
    have hpids : History.Outstanding (history started) job.pids := by
      refine ⟨hdistinct, fun pid hpid => ?_⟩
      rw [hcreated, History.mem_unreaped_created]
      exact .inr hpid
    obtain ⟨events, quit, hfinal, rfl, hwaits⟩ :=
      passes_waitForeground hkeeps hpids hwait
    obtain ⟨-, rfl⟩ | ⟨-, hreaped, -⟩ := hwaits.outcome
    · exact absurd rfl (hgoes 0)
    · refine ⟨hlists.distinct, fun pid => ?_⟩
      rw [hfinal, hwaits.mem_unreaped, hcreated, History.mem_unreaped_created,
        hreaped.mem_iff, ← hlists.unreaped]
      have hfresh := hnew pid
      rw [← hlists.unreaped] at hfresh
      tauto
  · rw [launchForeground, hlaunch] at hreturns
    cases hreturns
    exact ⟨hlists.distinct, fun pid => (hlists.unreaped pid).trans (hsame pid).symm⟩

theorem lists_execute (hkeeps : kernel.Keeps history) (line : String)
    (session : Session) (state : σ) (hlists : History.Lists (history state) session.jobs.pids)
    {outcome : Except Fault Flow} {next : Session} {final : σ}
    (hgoes : ∀ code, outcome ≠ .ok (.exit code))
    (hreturns : session.execute kernel line state = some (outcome, next, final)) :
    History.Lists (history final) next.jobs.pids := by
  rw [execute] at hreturns
  split at hreturns
  · cases hreturns
    exact hlists
  · cases hreturns
    exact hlists
  · next builtin command _ =>
      obtain ⟨hsame, hjobs⟩ := session.history_runBuiltin hkeeps builtin command state
      rw [Option.some.inj hreturns] at hsame hjobs
      rw [hsame, hjobs]
      exact hlists
  · next pipeline _ => exact session.lists_launchBackground hkeeps pipeline state hlists hreturns
  · next pipeline _ =>
      exact session.lists_launchForeground hkeeps pipeline state hlists hgoes hreturns

theorem lists_processLine (hkeeps : kernel.Keeps history) (line : String)
    (session : Session) (state : σ) (hlists : History.Lists (history state) session.jobs.pids)
    {status : Int} {next : Session} {final : σ}
    (hreturns : session.processLine kernel line state = some (.proceed status, next, final)) :
    History.Lists (history final) next.jobs.pids := by
  obtain ⟨⟨outcome, done, executed⟩, hexecute, hsettle⟩ := Option.bind_eq_some_iff.mp hreturns
  obtain ⟨⟨flow, settled⟩, hsettle, hresult⟩ := Option.map_eq_some_iff.mp hsettle
  cases hresult
  rcases outcome with fault | flow
  · have hlisted := session.lists_execute hkeeps line state hlists (by simp) hexecute
    obtain ⟨reported, hcomplain, hresult⟩ := Option.map_eq_some_iff.mp hsettle
    cases hresult
    rw [hkeeps.complained hcomplain]
    exact hlisted
  · cases hsettle
    have hlisted := session.lists_execute hkeeps line state hlists (by simp) hexecute
    exact hlisted

/-! ## Whole sessions -/

/-- The states of a session between its operations, as long as no line ends it. -/
inductive Reaches (kernel : Kernel σ) (first : Session) (start : σ) : Session → σ → Prop where
  | start : Reaches kernel first start first start
  | line {session next : Session} {state final : σ} {status : Int}
      (hreaches : Reaches kernel first start session state) (line : String)
      (hline : session.processLine kernel line state = some (.proceed status, next, final)) :
      Reaches kernel first start next final
  | report {session : Session} {state : σ}
      (hreaches : Reaches kernel first start session state) :
      Reaches kernel first start (session.reportFinishedJobs kernel state).1
        (session.reportFinishedJobs kernel state).2
  | service {session : Session} {state : σ}
      (hreaches : Reaches kernel first start session state) :
      Reaches kernel first start (session.serviceSignals kernel state).2.1
        (session.serviceSignals kernel state).2.2

theorem lists_reaches (hkeeps : kernel.Keeps history)
    (htells : kernel.TellsEnds history)
    {first session : Session} {start state : σ}
    (hfirst : History.Lists (history start) first.jobs.pids)
    (hreaches : Reaches kernel first start session state) :
    History.Lists (history state) session.jobs.pids := by
  induction hreaches with
  | start => exact hfirst
  | line _ line hline ih => exact lists_processLine hkeeps line _ _ ih hline
  | report _ ih => exact lists_reportFinishedJobs hkeeps htells _ _ ih
  | service _ ih => exact lists_serviceSignals hkeeps _ _ ih

/-- A new session lists, after any operations of which no line has ended it, each child
that it has created and not reaped, once, and nobody else. -/
theorem mem_jobs_iff_unreaped (hkeeps : kernel.Keeps history)
    (htells : kernel.TellsEnds history) {first session : Session} {start state : σ}
    (hjobs : first.jobs = {}) (hstart : (history start).unreaped = ∅)
    (hreaches : Reaches kernel first start session state) :
    session.jobs.pids.Nodup ∧
      ∀ pid, pid ∈ session.jobs.pids ↔ pid ∈ (history state).unreaped := by
  have hfirst : History.Lists (history start) first.jobs.pids := by
    rw [hjobs]
    exact ⟨List.nodup_nil, fun pid => by simp [hstart]⟩
  have hlists := lists_reaches hkeeps htells hfirst hreaches
  exact ⟨hlists.distinct, hlists.unreaped⟩

/-- Of two processes in the background one ends, and two in the foreground are killed. -/
def mixedCourse : Timetable.Course where
  ends
    | 1 => (1, .exited 1)
    | 2 => (60, .exited 7)
    | _ => (18, .signaled .terminate false)

theorem mem_jobs_iff_unreaped_mixed :
    ∃ (session : Session) (table : Timetable),
      Reaches (Timetable.kernel mixedCourse) {} {} session table ∧
      session.lastStatus = 143 ∧ session.jobs.pids = [2] ∧
      session.jobs.pids.Nodup ∧
      ∀ pid, pid ∈ session.jobs.pids ↔ pid ∈ table.history.unreaped := by
  let listing : Session := { jobs := ⟨[1, 2]⟩ }
  let launched : Timetable := { clock := 7, history := History.created [1, 2] }
  have hbackground : processLine (Timetable.kernel mixedCourse) "a | b &" {} {} =
      some (.proceed 0, listing, launched) := by
    decide +kernel
  let reported : Timetable :=
    { clock := 10, history := launched.history ++ [.reaped 1 (.exited 1)] }
  have hreport : reportFinishedJobs (Timetable.kernel mixedCourse) listing launched =
      ({ jobs := ⟨[2]⟩ }, reported) := by
    decide +kernel
  let killed : Ending := .signaled .terminate false
  have hforeground :
      processLine (Timetable.kernel mixedCourse) "c | d" { jobs := ⟨[2]⟩ } reported =
        some (.proceed 143, { jobs := ⟨[2]⟩, lastStatus := 143 },
          { clock := 23
            history := reported.history ++ History.created [3, 4]
              ++ [.reaped 4 killed, .reaped 3 killed] }) := by
    decide +kernel
  have hlisted := (Reaches.start.line "a | b &" hbackground).report
  rw [hreport] at hlisted
  have hreaches := hlisted.line "c | d" hforeground
  have htells : (Timetable.kernel mixedCourse).TellsEnds Timetable.history := by
    apply Timetable.kernel_tellsEnds
    intro pid
    dsimp only [mixedCourse]
    split <;> nofun
  exact ⟨_, _, hreaches, rfl, rfl,
    mem_jobs_iff_unreaped (Timetable.kernel_keeps mixedCourse) htells rfl rfl hreaches⟩

end Session

end JobShell
