import JobShell.Proofs.Session.Leaving
import JobShell.Proofs.Session.Logging
import JobShell.Proofs.Session.Registered

/-!
# Whom an interrupt reaches

The log of a session grows only while a pipeline is waited for, and then by interrupts for
the group of that pipeline, each of them sent when a process of the pipeline has not been
reaped yet.  Everywhere else there is no pipeline in the foreground, and an interrupt that
is served reaches nobody.
-/

namespace JobShell

variable {σ : Type}

namespace Session

variable {kernel : Kernel σ} {history : σ → History} {log : σ → List Interruption}

/-! ## Serving -/

/-- Deliveries that are served send interrupts to the group in the foreground and to no
other, and leave the children as they are. -/
theorem adds_serveAll (hkeeps : kernel.Keeps history) (hlogs : kernel.Logs history log)
    (deliveries : List Quit.Delivery) (serviced : Serviced) (session : Session) (state : σ) :
    Adds (fun _ sent => session.foreground = some sent.group ∧
        sent.children = (history state).unreaped)
      (log state) (log (session.serveAll kernel deliveries serviced state).2.2) := by
  fun_induction serveAll kernel deliveries serviced session state with
  | case1 serviced session state => exact .nothing _
  | case2 rest serviced session state group hforeground ih =>
      rw [hkeeps.interruptGroup, hlogs.interruptGroup] at ih
      refine .trans (.entry ?_) ih
      exact ⟨hforeground, rfl⟩
  | case3 rest serviced session state hforeground ih => exact ih
  | case4 delivery rest serviced session state _ response performed served code hexit =>
      rw [hlogs.performEffects]
      exact .nothing _
  | case5 delivery rest serviced session state _ response performed served hopen shown ih =>
      have hsame : history performed = history state :=
        hkeeps.respondsWithin.performEffects response.effects state
      have hsilent : log performed = log state := hlogs.performEffects response.effects state
      rw [hsame, hsilent] at ih
      exact ih

theorem adds_serviceSignals (hkeeps : kernel.Keeps history) (hlogs : kernel.Logs history log)
    (session : Session) (state : σ) :
    Adds (fun _ sent => session.foreground = some sent.group ∧
        sent.children = (history state).unreaped)
      (log state) (log (session.serviceSignals kernel state).2.2) := by
  have hserved := adds_serveAll hkeeps hlogs (kernel.takePending kernel.patience state).1 .quiet
    session (kernel.takePending kernel.patience state).2
  rw [hkeeps.takePending, History.unreaped_collected, hlogs.takePending] at hserved
  exact hserved

/-- Where there is no pipeline in the foreground, an interrupt reaches nobody. -/
theorem log_serviceSignals (hkeeps : kernel.Keeps history) (hlogs : kernel.Logs history log)
    {session : Session} (hforeground : session.foreground = none) (state : σ) :
    log (session.serviceSignals kernel state).2.2 = log state := by
  have hserved := adds_serviceSignals hkeeps hlogs session state
  rw [hforeground] at hserved
  apply Adds.eq
  apply hserved.imp
  rintro _ _ _ _ ⟨hgroup, -⟩
  cases hgroup

end Session

/-! ## Waiting -/

namespace Wait

variable {kernel : Kernel σ} {history : σ → History} {log : σ → List Interruption}
variable {job : Launch.Job} {last : Pid} {first wait next : Wait σ}

/-- A wait serves a pipeline: its group is the one in the foreground, and the processes
that are still to be asked for are processes of it that have not been reaped. -/
structure Tends (history : σ → History) (job : Launch.Job) (wait : Wait σ) : Prop where
  foreground : wait.session.foreground = some job.group
  pids : ∀ pid ∈ wait.alive ++ wait.waiting, pid ∈ job.pids
  outstanding : (history wait.state).Outstanding (wait.alive ++ wait.waiting)

/-- An interrupt that is sent at the end of a round of a wait, behind the interrupts that
had been sent before: it goes to the group of the pipeline, some of whose processes were
alive when they were asked for, and all of these are unreaped when it is sent. -/
structure Sends (kernel : Kernel σ) (log : σ → List Interruption) (job : Launch.Job)
    (wait : Wait σ) (earlier : List Interruption) (sent : Interruption) : Prop where
  round : wait.waiting = []
  alive : wait.alive ≠ []
  unreaped : ∀ pid ∈ wait.alive, pid ∈ job.pids ∧ pid ∈ sent.children
  group : sent.group = job.group
  before : log wait.state <+: earlier
  after : earlier ++ [sent] <+: log (wait.session.serviceSignals kernel
    (kernel.sleep wait.state)).2.2

theorem Tends.sends (hkeeps : kernel.Keeps history) (hlogs : kernel.Logs history log)
    (htends : wait.Tends history job) (hround : wait.waiting = []) (halive : wait.alive ≠ []) :
    Adds (wait.Sends kernel log job) (log wait.state)
      (log (wait.session.serviceSignals kernel (kernel.sleep wait.state)).2.2) := by
  have hserved := Session.adds_serviceSignals hkeeps hlogs wait.session (kernel.sleep wait.state)
  have hsilent : log (kernel.sleep wait.state) = log wait.state := hlogs.silent.sleep wait.state
  rw [hkeeps.sleep, hsilent, htends.foreground] at hserved
  apply hserved.imp
  rintro earlier sent hbefore hafter ⟨hgroup, hchildren⟩
  refine ⟨hround, halive, ?_, (Option.some.inj hgroup).symm, hbefore, hafter⟩
  intro pid hpid
  have hasked : pid ∈ wait.alive ++ wait.waiting := List.mem_append_left _ hpid
  rw [hchildren]
  exact ⟨htends.pids pid hasked, htends.outstanding.unreaped pid hasked⟩

/-- A process that is done with is reaped, and the others are still to be asked for. -/
theorem Tends.done (hkeeps : kernel.Keeps history) {alive waiting : List Pid} {pid : Pid}
    {status left : Int} {session : Session} {state asked : σ} {answer : Except Errno WaitStatus}
    (htends : Tends history job { alive, waiting := pid :: waiting, status, session, state })
    (hpoll : kernel.poll pid state = (answer, asked)) (halive : answer ≠ .ok .alive)
    (hinterrupted : answer ≠ .error .interrupted) :
    Tends history job
      { alive, waiting := waiting.rotateRight, status := left, session, state := asked } := by
  obtain ⟨-, -, -, houtstanding⟩ :=
    Session.outstanding_of_done hkeeps htends.outstanding hpoll halive hinterrupted
  refine ⟨htends.foreground, ?_, houtstanding⟩
  intro other hother
  apply htends.pids
  rw [(Session.perm_of_done alive waiting pid).mem_iff]
  exact List.mem_cons_of_mem pid hother

/-- A process that is still to be asked for is in its place when it has been asked for. -/
theorem Tends.asked (hkeeps : kernel.Keeps history) {alive waiting others : List Pid} {pid : Pid}
    {status : Int} {session : Session} {state asked : σ} {answer : Except Errno WaitStatus}
    (htends : Tends history job { alive, waiting := pid :: waiting, status, session, state })
    (hpoll : kernel.poll pid state = (answer, asked))
    (hanswer : answer = .ok .alive ∨ answer = .error .interrupted) {known : List Pid}
    (hsame : known ++ others = alive ++ pid :: waiting) :
    Tends history job { alive := known, waiting := others, status, session, state := asked } := by
  have hpid := htends.outstanding.unreaped pid List.mem_append_cons_self
  have hunchanged := hkeeps.poll_unchanged hpid hpoll hanswer
  refine ⟨htends.foreground, ?_, ?_⟩
  · rw [hsame]
    exact htends.pids
  · rw [hsame, hunchanged]
    exact htends.outstanding

theorem Tends.served (hkeeps : kernel.Keeps history) {alive : List Pid} {status : Int}
    {session next : Session} {state final : σ} {serviced : Serviced}
    (htends : Tends history job { alive, waiting := [], status, session, state })
    (hserve : session.serviceSignals kernel (kernel.sleep state) = (serviced, next, final)) :
    Tends history job { alive := [], waiting := alive, status, session := next, state := final } := by
  obtain ⟨deliveries, _, quit, _, hserved, hfinal, -⟩ :=
    hkeeps.serviceSignals session (kernel.sleep state)
  rw [hserve] at hserved
  cases hserved
  have hpids := htends.pids
  have houtstanding := htends.outstanding.collected deliveries
  rw [List.append_nil] at hpids houtstanding
  refine ⟨htends.foreground, hpids, ?_⟩
  rw [hfinal, hkeeps.sleep]
  exact houtstanding

/-- Turns keep a wait with its pipeline, and send no other interrupts. -/
theorem Tends.turn (hkeeps : kernel.Keeps history) (hlogs : kernel.Logs history log)
    (htends : wait.Tends history job) (hturn : wait.turn kernel last = .inr next) :
    next.Tends history job ∧ Adds (wait.Sends kernel log job) (log wait.state) (log next.state) := by
  have hsilent {pid : Pid} {state asked : σ} {answer : Except Errno WaitStatus}
      (hpoll : kernel.poll pid state = (answer, asked)) : log asked = log state := by
    have hpolled := hlogs.silent.poll pid state
    rwa [show kernel.withoutInterrupts.poll pid state = _ from hpoll] at hpolled
  cases turns_of_turn hturn with
  | @stillAlive alive waiting pid status session state asked hpoll =>
      rw [hsilent hpoll]
      exact ⟨htends.asked hkeeps hpoll (.inl rfl) (List.append_cons alive pid waiting).symm,
        .nothing _⟩
  | done hpoll halive hinterrupted =>
      rw [hsilent hpoll]
      exact ⟨htends.done hkeeps hpoll halive hinterrupted, .nothing _⟩
  | interrupted hpoll =>
      rw [hsilent hpoll]
      exact ⟨htends.asked hkeeps hpoll (.inr rfl) rfl, .nothing _⟩
  | sleeps halive hserve hgoes =>
      have hsends := htends.sends hkeeps hlogs rfl halive
      rw [hserve] at hsends
      exact ⟨htends.served hkeeps hserve, hsends⟩

theorem Tends.ends (hkeeps : kernel.Keeps history) (hlogs : kernel.Logs history log)
    (htends : wait.Tends history job) {result : Flow × Session × σ}
    (hturn : wait.turn kernel last = .inl result) :
    Adds (wait.Sends kernel log job) (log wait.state) (log result.2.2) := by
  cases stops_of_turn hturn with
  | finished => exact .nothing _
  | quits halive hserve =>
      have hsends := htends.sends hkeeps hlogs rfl halive
      rw [hserve] at hsends
      exact hsends

/-! ## The course of a wait -/

/-- Wherever a wait for a pipeline comes to, what it has sent it has sent at the ends of
its rounds. -/
theorem Tends.reaches (hkeeps : kernel.Keeps history) (hlogs : kernel.Logs history log)
    (htends : first.Tends history job) (hreaches : Reaches kernel last first wait) :
    wait.Tends history job ∧
      Adds (fun earlier sent => ∃ round, Reaches kernel last first round ∧
        round.Sends kernel log job earlier sent) (log first.state) (log wait.state) := by
  induction hreaches with
  | begins => exact ⟨htends, .nothing _⟩
  | goesOn hreaches hturn ih =>
      obtain ⟨hwait, hadds⟩ := ih
      obtain ⟨hnext, hsends⟩ := hwait.turn hkeeps hlogs hturn
      refine ⟨hnext, hadds.trans (hsends.imp ?_)⟩
      intro earlier sent _ _ hsent
      exact ⟨_, hreaches, hsent⟩

theorem Tends.run (hkeeps : kernel.Keeps history) (hlogs : kernel.Logs history log)
    (htends : first.Tends history job) {turns : Nat} {result : Flow × Session × σ}
    (hrun : first.run kernel last turns = some result) :
    Adds (fun earlier sent => ∃ round, Reaches kernel last first round ∧
      round.Sends kernel log job earlier sent) (log first.state) (log result.2.2) := by
  obtain ⟨wait, hreaches, hturn⟩ := exists_reaches_of_run hrun
  obtain ⟨hwait, hadds⟩ := htends.reaches hkeeps hlogs hreaches
  refine hadds.trans ((hwait.ends hkeeps hlogs hturn).imp ?_)
  intro earlier sent _ _ hsent
  exact ⟨wait, hreaches, hsent⟩

end Wait

namespace Session

variable {kernel : Kernel σ} {history : σ → History} {log : σ → List Interruption}
variable {line : String} {session : Session} {state : σ}

/-! ## Lines -/

/-- An interrupt for the pipeline that a line starts in the foreground, sent where the wait
for it has come to the end of a round. -/
inductive Interrupts (kernel : Kernel σ) (log : σ → List Interruption) (line : String)
    (session : Session) (state : σ) (earlier : List Interruption) (sent : Interruption) : Prop where
  | intro {job : Launch.Job} {started : σ} {wait : Wait σ}
      (hstarts : session.Starts kernel line state job started)
      (hreaches : Wait.Reaches kernel job.last
        (Wait.start job { session with foreground := some job.group } started) wait)
      (hsends : wait.Sends kernel log job earlier sent)

theorem tends_of_starts (hkeeps : kernel.Keeps history) {job : Launch.Job} {started : σ}
    (hstarts : session.Starts kernel line state job started) :
    (Wait.start job { session with foreground := some job.group } started).Tends history job := by
  obtain ⟨pipeline, -, hlaunch⟩ := (starts_iff state job started).mp hstarts
  obtain ⟨outcome, final, hlaunched, ⟨_, rfl, hdistinct, -, hcreated⟩ | ⟨_, rfl, -⟩⟩ :=
    hkeeps.launch session.environment pipeline.commands state
  · cases hlaunch.symm.trans hlaunched
    refine ⟨rfl, fun _ => id, hdistinct, ?_⟩
    intro pid hpid
    change pid ∈ (history started).unreaped
    rw [hcreated, History.mem_unreaped_created]
    exact .inr hpid
  · cases hlaunch.symm.trans hlaunched

theorem log_of_starts (hlogs : kernel.Logs history log) {job : Launch.Job} {started : σ}
    (hstarts : session.Starts kernel line state job started) : log started = log state := by
  obtain ⟨pipeline, -, hlaunch⟩ := (starts_iff state job started).mp hstarts
  have hsilent := hlogs.launch session.environment pipeline.commands state
  rwa [hlaunch] at hsilent

/-- What is sent at the ends of the rounds of a line's wait is for its pipeline. -/
theorem adds_of_starts (hlogs : kernel.Logs history log) {job : Launch.Job} {started final : σ}
    (hstarts : session.Starts kernel line state job started)
    (hsent : Adds (fun earlier sent => ∃ round, Wait.Reaches kernel job.last
        (Wait.start job { session with foreground := some job.group } started) round ∧
      round.Sends kernel log job earlier sent) (log started) (log final)) :
    Adds (session.Interrupts kernel log line state) (log state) (log final) := by
  rw [← log_of_starts hlogs hstarts]
  apply hsent.imp
  rintro earlier sent - - ⟨round, hreaches, hsends⟩
  exact ⟨hstarts, hreaches, hsends⟩

/-- The pipeline is in the foreground only until the wait returns, whatever it returns. -/
theorem adds_launchForeground (hkeeps : kernel.Keeps history) (hlogs : kernel.Logs history log)
    {pipeline : Pipeline}
    (hread : session.read kernel line = .ok (some (pipeline, .foreground)))
    (hforeground : session.foreground = none) {outcome : Except Fault Flow} {next : Session}
    {final : σ}
    (hreturns : session.launchForeground kernel pipeline state = some (outcome, next, final)) :
    next.foreground = none ∧
      Adds (session.Interrupts kernel log line state) (log state) (log final) := by
  rw [launchForeground] at hreturns
  split at hreturns
  · next fault failed hlaunch =>
      cases hreturns
      have hsilent := hlogs.launch session.environment pipeline.commands state
      rw [hlaunch] at hsilent
      rw [hsilent]
      exact ⟨hforeground, .nothing _⟩
  · next job started hlaunch =>
      obtain ⟨⟨flow, waited, ended⟩, hwait, hresult⟩ := Option.map_eq_some_iff.mp hreturns
      cases hresult
      refine ⟨rfl, ?_⟩
      have hstarts := (starts_iff state job started).mpr ⟨pipeline, hread, hlaunch⟩
      exact adds_of_starts hlogs hstarts ((tends_of_starts hkeeps hstarts).run hkeeps hlogs hwait)

theorem adds_execute (hkeeps : kernel.Keeps history) (hlogs : kernel.Logs history log)
    (hforeground : session.foreground = none) {outcome : Except Fault Flow} {next : Session}
    {final : σ} (hexecute : session.execute kernel line state = some (outcome, next, final)) :
    next.foreground = none ∧
      Adds (session.Interrupts kernel log line state) (log state) (log final) := by
  rw [execute] at hexecute
  split at hexecute
  · cases hexecute
    exact ⟨hforeground, .nothing _⟩
  · cases hexecute
    exact ⟨hforeground, .nothing _⟩
  · next builtin command _ =>
      have hsilent := hlogs.runBuiltin builtin command session state
      obtain ⟨environment, hnext⟩ := session_runBuiltin kernel builtin command session state
      rw [Option.some.inj hexecute] at hsilent hnext
      dsimp only at hsilent hnext
      rw [hsilent, hnext]
      exact ⟨hforeground, .nothing _⟩
  · next pipeline _ =>
      have hsilent := hlogs.launchBackground pipeline session state hexecute
      obtain ⟨⟨jobs, rfl⟩, -⟩ := session_launchBackground hexecute
      rw [hsilent]
      exact ⟨hforeground, .nothing _⟩
  · next pipeline hread => exact adds_launchForeground hkeeps hlogs hread hforeground hexecute

/-- Whatever a line comes to, there is no pipeline in the foreground when it returns, and
all that it has sent are interrupts for the pipeline that it waited for. -/
theorem adds_processLine (hkeeps : kernel.Keeps history) (hlogs : kernel.Logs history log)
    (hforeground : session.foreground = none) {flow : Flow} {next : Session} {final : σ}
    (hreturns : session.processLine kernel line state = some (flow, next, final)) :
    next.foreground = none ∧
      Adds (session.Interrupts kernel log line state) (log state) (log final) := by
  obtain ⟨done, ⟨flow, final, hexecute, hresult⟩ |
      ⟨fault, executed, final, hexecute, hcomplain, hresult⟩⟩ :=
    (processLine_eq_some_iff _ _ _ _ _).mp hreturns
  · cases hresult
    obtain ⟨hdone, hadds⟩ := adds_execute hkeeps hlogs hforeground hexecute
    refine ⟨?_, hadds⟩
    cases flow <;> exact hdone
  · cases hresult
    obtain ⟨hdone, hadds⟩ := adds_execute hkeeps hlogs hforeground hexecute
    have hsilent := hlogs.complained (Kernel.written_eq_some_iff.mpr hcomplain)
    rw [hsilent]
    exact ⟨hdone, hadds⟩

/-! ## Whole sessions -/

/-- An interrupt for the pipeline of a line that a session takes. -/
def Interrupted (kernel : Kernel σ) (log : σ → List Interruption) (first : Session) (start : σ)
    (earlier : List Interruption) (sent : Interruption) : Prop :=
  ∃ session state line, Reaches kernel first start session state ∧
    session.Interrupts kernel log line state earlier sent

theorem adds_reaches (hkeeps : kernel.Keeps history) (hlogs : kernel.Logs history log)
    {first session : Session} {start state : σ} (hfirst : first.foreground = none)
    (hreaches : Reaches kernel first start session state) :
    session.foreground = none ∧
      Adds (Interrupted kernel log first start) (log start) (log state) := by
  induction hreaches with
  | start => exact ⟨hfirst, .nothing _⟩
  | @line session next state final status hreaches line hline ih =>
      obtain ⟨hforeground, hadds⟩ := ih
      obtain ⟨hnext, hsent⟩ := adds_processLine hkeeps hlogs hforeground hline
      refine ⟨hnext, hadds.trans (hsent.imp ?_)⟩
      intro earlier sent _ _ hinterrupts
      exact ⟨session, state, line, hreaches, hinterrupts⟩
  | @report session state hreaches ih =>
      rw [hlogs.reportFinishedJobs]
      exact ih
  | @service session state hreaches ih =>
      obtain ⟨hforeground, hadds⟩ := ih
      obtain ⟨_, quit, _, hserved, -⟩ := session.serviceSignals_session kernel state
      rw [log_serviceSignals hkeeps hlogs hforeground]
      rw [hserved]
      exact ⟨hforeground, hadds⟩

/-- In every session a pipeline is in the foreground only while it is waited for.  The
interrupts that are sent until then, during a wait, and until a line returns are each for
the pipeline that was being waited for, and sent when some of its processes had not been
reaped; an interrupt that is served between lines reaches nobody. -/
theorem interrupts_while_waiting (hkeeps : kernel.Keeps history) (hlogs : kernel.Logs history log)
    {first session : Session} {start state : σ} (hfirst : first.foreground = none)
    (hreaches : Reaches kernel first start session state) :
    session.foreground = none ∧
      Adds (Interrupted kernel log first start) (log start) (log state) ∧
      log (session.serviceSignals kernel state).2.2 = log state ∧
      ∀ line,
        (∀ job started wait, session.Starts kernel line state job started →
          Wait.Reaches kernel job.last
            (Wait.start job { session with foreground := some job.group } started) wait →
          wait.session.foreground = some job.group ∧
            Adds (session.Interrupts kernel log line state) (log state) (log wait.state)) ∧
        ∀ flow next final, session.processLine kernel line state = some (flow, next, final) →
          next.foreground = none ∧
            Adds (session.Interrupts kernel log line state) (log state) (log final) ∧
            log (next.serviceSignals kernel final).2.2 = log final := by
  obtain ⟨hforeground, hadds⟩ := adds_reaches hkeeps hlogs hfirst hreaches
  refine ⟨hforeground, hadds, log_serviceSignals hkeeps hlogs hforeground state, ?_⟩
  intro line
  constructor
  · intro job started wait hstarts hwait
    obtain ⟨htends, hsent⟩ := (tends_of_starts hkeeps hstarts).reaches hkeeps hlogs hwait
    exact ⟨htends.foreground, adds_of_starts hlogs hstarts hsent⟩
  · intro flow next final hreturns
    obtain ⟨hnext, hsent⟩ := adds_processLine hkeeps hlogs hforeground hreturns
    exact ⟨hnext, hsent, log_serviceSignals hkeeps hlogs hnext final⟩

/-- Interrupts arrive while a pipeline is started, while the first of its processes is
waited for, and while another pipeline, of more processes than there may be, is given
up. -/
def interruptedCourse : Timetable.Course where
  ends
    | 1 => (16, .signaled .interrupt false)
    | _ => (7, .exited 7)
  arrivals
    | 5 | 11 | 27 => [.interrupt]
    | _ => []
  room := 2

theorem interrupts_while_waiting_prompt :
    let kernel := (Timetable.kernel interruptedCourse).logging Timetable.history
    let sent : Interruption := { group := 1, children := {1} }
    ∃ (session : Session) (state : Timetable × List Interruption),
      Reaches kernel {} ({}, []) session state ∧ session.lastStatus = 1 ∧ state.2 = [sent] ∧
      session.foreground = none ∧
      Adds (Interrupted kernel Prod.snd {} ({}, [])) [] state.2 ∧
      (session.serviceSignals kernel state).1 = .redraw ∧
      (session.serviceSignals kernel state).2.2.2 = state.2 := by
  intro kernel sent
  have hline : ((processLine kernel "a | b" {} ({}, [])).bind fun first =>
      (processLine kernel "c | d | e" first.2.1 first.2.2).map fun second =>
        (first.1, second.1, second.2.2.2,
          (second.2.1.serviceSignals kernel second.2.2).1)) =
        some (.proceed 7, .proceed 1, [sent], .redraw) := by
    decide +kernel
  obtain ⟨⟨flow, between, middle⟩, hstarted, hrest⟩ := Option.bind_eq_some_iff.mp hline
  obtain ⟨⟨failed, session, state⟩, hfailed, hresult⟩ := Option.map_eq_some_iff.mp hrest
  simp only [Prod.mk.injEq] at hresult
  obtain ⟨rfl, rfl, hsent, hserved⟩ := hresult
  have hreaches : Reaches kernel {} ({}, []) _ _ :=
    (Reaches.start.line "a | b" hstarted).line "c | d | e" hfailed
  have hstatus : session.lastStatus = 1 := (lastStatus_of_processLine hfailed).1 1 rfl
  have hkeeps : kernel.Keeps fun state => state.1.history :=
    Kernel.logging_keeps (Timetable.kernel_keeps interruptedCourse)
  have hlogs : kernel.Logs (fun state => state.1.history) Prod.snd :=
    Kernel.logging_logs (Timetable.kernel interruptedCourse) Timetable.history
  have hfirst : ({} : Session).foreground = none := rfl
  obtain ⟨hforeground, hadds, hsilent, -⟩ :=
    interrupts_while_waiting hkeeps hlogs hfirst hreaches
  exact ⟨session, state, hreaches, hstatus, hsent, hforeground, hadds, hserved, hsilent⟩

end Session

end JobShell
