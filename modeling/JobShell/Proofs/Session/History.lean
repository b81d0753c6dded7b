import JobShell.Proofs.Quit.Confirmation
import JobShell.Proofs.Session.Serving
import Mathlib.Data.Finset.Basic

/-!
# The children of a shell

What a kernel does to the processes of a shell is a history: children are created
and reaped, and signals are collected.  A kernel keeps a history if its answers
agree with it.  Nothing is said about when a child ends or a signal arrives, so
whatever holds for every kernel with a history holds for every order of these.

Only starting a process and asking for one change what children there are.
-/

namespace JobShell

/-- How a child ends. -/
inductive Ending where
  | exited (code : Int)
  | signaled (signal : Signal) (core : Bool)
  deriving DecidableEq, Repr

namespace Ending

def status : Ending → WaitStatus
  | .exited code => .exited code
  | .signaled signal core => .signaled signal core

/-- What a parent is told.  A signal without a name cannot be told. -/
def answer : Ending → Except Errno WaitStatus
  | .signaled (.realTime _) _ => .error .invalid
  | ending => .ok ending.status

/-- The status that is left by a wait that ends with the answer. -/
def settle (before : Int) (ending : Ending) : Int :=
  match ending.answer with
  | .ok status => status.exitStatus
  | .error _ => before

theorem answer_cases (ending : Ending) :
    ending.answer = .ok ending.status ∨ ending.answer = .error .invalid := by
  cases ending with
  | exited code => exact .inl rfl
  | signaled signal core =>
      cases signal with
      | realTime number => exact .inr rfl
      | _ => exact .inl rfl

theorem answer_ne_alive (ending : Ending) : ending.answer ≠ .ok .alive := by
  rcases ending.answer_cases with hanswer | hanswer <;> rw [hanswer]
  · cases ending <;> nofun
  · nofun

theorem answer_ne_interrupted (ending : Ending) : ending.answer ≠ .error .interrupted := by
  rcases ending.answer_cases with hanswer | hanswer <;> rw [hanswer] <;> nofun

end Ending

/-! ## Histories -/

inductive Event where
  | created (pid : Pid)
  | reaped (pid : Pid) (ending : Ending)
  | collected (delivery : Quit.Delivery)
  deriving DecidableEq, Repr

/-- Events, earliest first. -/
abbrev History := List Event

namespace History

/-- The children after an event. -/
def follow (children : Finset Pid) : Event → Finset Pid
  | .created pid => insert pid children
  | .reaped pid _ => children.erase pid
  | .collected _ => children

/-- The children that have been created and not been reaped since. -/
def unreaped (history : History) : Finset Pid :=
  history.foldl follow ∅

/-- Who has been reaped, and how it had ended. -/
def endings (history : History) : List (Pid × Ending) :=
  history.filterMap fun
    | .reaped pid ending => some (pid, ending)
    | _ => none

/-- What has been collected. -/
def deliveries (history : History) : List Quit.Delivery :=
  history.filterMap fun
    | .collected delivery => some delivery
    | _ => none

def collected (deliveries : List Quit.Delivery) : History :=
  deliveries.map .collected

def created (pids : List Pid) : History :=
  pids.map .created

@[simp]
theorem unreaped_concat (history : History) (event : Event) :
    unreaped (history ++ [event]) = follow (unreaped history) event := by
  simp [unreaped]

@[simp]
theorem unreaped_collected (history : History) (deliveries : List Quit.Delivery) :
    unreaped (history ++ collected deliveries) = unreaped history := by
  induction deliveries using List.reverseRecOn with
  | nil => simp [collected]
  | append_singleton deliveries delivery ih =>
      rw [collected, List.map_append, ← List.append_assoc]
      exact (unreaped_concat _ _).trans ih

@[simp]
theorem mem_unreaped_created (history : History) (pids : List Pid) (pid : Pid) :
    pid ∈ unreaped (history ++ created pids) ↔ pid ∈ unreaped history ∨ pid ∈ pids := by
  induction pids using List.reverseRecOn with
  | nil => simp [created]
  | append_singleton pids last ih =>
      rw [created, List.map_append, ← List.append_assoc, List.map_singleton, unreaped_concat,
        follow, Finset.mem_insert, ← created, ih]
      simp only [List.mem_append, List.mem_singleton]
      tauto

@[simp]
theorem endings_collected (deliveries : List Quit.Delivery) :
    endings (collected deliveries) = [] := by
  simp [endings, collected]

@[simp]
theorem deliveries_collected (deliveries : List Quit.Delivery) :
    History.deliveries (collected deliveries) = deliveries := by
  simp [History.deliveries, collected, List.filterMap_map]

theorem endings_reaped (pid : Pid) (ending : Ending) (history : History) :
    endings (.reaped pid ending :: history) = (pid, ending) :: endings history := rfl

theorem endings_append (front back : History) :
    endings (front ++ back) = endings front ++ endings back :=
  List.filterMap_append

theorem deliveries_append (front back : History) :
    deliveries (front ++ back) = deliveries front ++ deliveries back :=
  List.filterMap_append

/-- Different children, none of which has been reaped. -/
structure Outstanding (history : History) (pids : List Pid) : Prop where
  distinct : pids.Nodup
  unreaped : ∀ pid ∈ pids, pid ∈ history.unreaped

namespace Outstanding

variable {history : History} {pids : List Pid}

theorem perm (hpids : history.Outstanding pids) {others : List Pid}
    (hperm : pids.Perm others) : history.Outstanding others where
  distinct := hperm.nodup_iff.mp hpids.distinct
  unreaped pid hpid := hpids.unreaped pid (hperm.mem_iff.mpr hpid)

theorem collected (hpids : history.Outstanding pids) (deliveries : List Quit.Delivery) :
    (history ++ History.collected deliveries).Outstanding pids where
  distinct := hpids.distinct
  unreaped pid hpid := by
    rw [unreaped_collected]
    exact hpids.unreaped pid hpid

theorem reaped {pid : Pid} (hpids : history.Outstanding (pid :: pids)) (ending : Ending) :
    History.Outstanding (history ++ [.reaped pid ending]) pids where
  distinct := hpids.distinct.of_cons
  unreaped other hother := by
    have hdiffers : other ≠ pid := by
      rintro rfl
      exact hpids.distinct.notMem hother
    rw [unreaped_concat]
    apply Finset.mem_erase.mpr
    exact ⟨hdiffers, hpids.unreaped other (List.mem_cons_of_mem pid hother)⟩

end Outstanding

end History

/-! ## Kernels with a history -/

/-- A signal ends each of some waits for a process. -/
def Launch.Disturbed {σ : Type} (starter : Starter σ) (pid : Pid) : Nat → σ → Prop
  | 0, _ => True
  | turns + 1, state =>
      (starter.waitFor pid state).1 = .error .interrupted ∧
        Disturbed starter pid turns (starter.waitFor pid state).2

/-- A kernel keeps a history if only three kinds of its operations add to it: a new
process has a number that no child has, asking for a child and waiting for it reap it
if it has ended, and collecting signals adds what has been collected.  What is answered
to the question for somebody else is left open.

Waiting for a child comes to an end before there is no patience left. -/
structure Kernel.Keeps {σ : Type} (kernel : Kernel σ) (history : σ → History) : Prop where
  spawn : ∀ environment child state,
    (∃ pid, (kernel.spawn environment child state).1 = .ok pid ∧
        pid ∉ (history state).unreaped ∧
        history (kernel.spawn environment child state).2 = history state ++ [.created pid]) ∨
      ∃ errno, (kernel.spawn environment child state).1 = .error errno ∧
        history (kernel.spawn environment child state).2 = history state
  poll : ∀ pid state, pid ∈ (history state).unreaped →
    ((kernel.poll pid state).1 = .ok .alive ∨
        (kernel.poll pid state).1 = .error .interrupted) ∧
      history (kernel.poll pid state).2 = history state ∨
    ∃ ending : Ending, (kernel.poll pid state).1 = ending.answer ∧
      history (kernel.poll pid state).2 = history state ++ [.reaped pid ending]
  waitFor : ∀ pid state, pid ∈ (history state).unreaped →
    (kernel.waitFor pid state).1 = .error .interrupted ∧
        history (kernel.waitFor pid state).2 = history state ∨
      ∃ ending : Ending, (kernel.waitFor pid state).1 = ending.answer ∧
        history (kernel.waitFor pid state).2 = history state ++ [.reaped pid ending]
  patient : ∀ pid state, pid ∈ (history state).unreaped →
    ¬ Launch.Disturbed kernel.toStarter pid kernel.patience state
  takeAlarm : ∀ state, history (kernel.takeAlarm state).2 =
    history state ++
      History.collected (Collector.deliveries (kernel.takeAlarm state).1 0 false)
  takeQuits : ∀ state, history (kernel.takeQuits state).2 =
    history state ++
      History.collected (Collector.deliveries false (kernel.takeQuits state).1 false)
  takeInterrupt : ∀ state, history (kernel.takeInterrupt state).2 =
    history state ++
      History.collected (Collector.deliveries false 0 (kernel.takeInterrupt state).1)
  readWakeups : ∀ state, history (kernel.readWakeups state).2 = history state
  sleep : ∀ state, history (kernel.sleep state) = history state
  interruptGroup : ∀ group state, history (kernel.interruptGroup group state) = history state
  setAlarm : ∀ seconds state, history (kernel.setAlarm seconds state) = history state
  cancelAlarm : ∀ state, history (kernel.cancelAlarm state) = history state
  openPipe : ∀ state, history (kernel.openPipe state).2 = history state
  closePipes : ∀ pipes state, history (kernel.closePipes pipes state) = history state
  blockSignals : ∀ state, history (kernel.blockSignals state).2 = history state
  unblockSignals : ∀ state, history (kernel.unblockSignals state) = history state
  terminateGroup : ∀ group state, history (kernel.terminateGroup group state) = history state
  openTarget : ∀ direction path state,
    history (kernel.openTarget direction path state).2 = history state
  enter : ∀ path state, history (kernel.enter path state).2 = history state
  print : ∀ bytes state, history (kernel.print bytes state).2 = history state
  complain : ∀ text state, history (kernel.complain text state).2 = history state

/-- No child is ended by a signal without a name, so that every end can be told. -/
def Kernel.TellsEnds {σ : Type} (kernel : Kernel σ) (history : σ → History) : Prop :=
  ∀ pid state, pid ∈ (history state).unreaped → (kernel.poll pid state).1 ≠ .error .invalid

namespace Kernel.Keeps

variable {σ : Type} {kernel : Kernel σ} {history : σ → History}

/-! ## Asking for a child -/

theorem poll_unchanged (hkeeps : kernel.Keeps history) {pid : Pid} {state asked : σ}
    {answer : Except Errno WaitStatus} (hpid : pid ∈ (history state).unreaped)
    (hpoll : kernel.poll pid state = (answer, asked))
    (hanswer : answer = .ok .alive ∨ answer = .error .interrupted) :
    history asked = history state := by
  have hasked := hkeeps.poll pid state hpid
  rw [hpoll] at hasked
  rcases hasked with ⟨-, hsame⟩ | ⟨ending, rfl, -⟩
  · exact hsame
  · rcases hanswer with halive | hinterrupted
    · exact absurd halive ending.answer_ne_alive
    · exact absurd hinterrupted ending.answer_ne_interrupted

theorem poll_reaped (hkeeps : kernel.Keeps history) {pid : Pid} {state asked : σ}
    {answer : Except Errno WaitStatus} (hpid : pid ∈ (history state).unreaped)
    (hpoll : kernel.poll pid state = (answer, asked))
    (halive : answer ≠ .ok .alive) (hinterrupted : answer ≠ .error .interrupted) :
    ∃ ending : Ending, answer = ending.answer ∧
      history asked = history state ++ [.reaped pid ending] := by
  have hasked := hkeeps.poll pid state hpid
  rw [hpoll] at hasked
  rcases hasked with ⟨hunchanged, -⟩ | hended
  · exact absurd hunchanged (not_or.mpr ⟨halive, hinterrupted⟩)
  · exact hended

/-! ## What leaves the children alone -/

theorem said (hkeeps : kernel.Keeps history) {text : String} {state said : σ}
    (hsay : Kernel.written (kernel.say text state) = some said) : history said = history state := by
  have hsaid := hkeeps.print (Text.encode text) state
  rwa [show kernel.print _ state = _ from Kernel.written_eq_some_iff.mp hsay] at hsaid

theorem complained (hkeeps : kernel.Keeps history) {text : String} {state reported : σ}
    (hcomplain : Kernel.written (kernel.complain text state) = some reported) :
    history reported = history state := by
  have hreported := hkeeps.complain text state
  rwa [Kernel.written_eq_some_iff.mp hcomplain] at hreported

theorem openTargets (hkeeps : kernel.Keeps history) (targets : List (Direction × String))
    (state : σ) : history (kernel.openTargets targets state).2 = history state := by
  induction targets generalizing state with
  | nil => rfl
  | cons target rest ih =>
      obtain ⟨direction, path⟩ := target
      have hopened := hkeeps.openTarget direction (Text.encode path) state
      rw [Kernel.openTargets]
      split
      · next errno opened hopen => rwa [hopen] at hopened
      · next opened hopen =>
          rw [hopen] at hopened
          exact (ih opened).trans hopened

theorem printAll (hkeeps : kernel.Keeps history) (texts : List Bytes) (state : σ) :
    history (Builtin.printAll kernel.toHost texts state).2 = history state := by
  induction texts generalizing state with
  | nil => rfl
  | cons text rest ih =>
      have hprinted := hkeeps.print text state
      rw [Builtin.printAll]
      split
      · next failure printed hprint => rwa [hprint] at hprinted
      · next printed hprint =>
          rw [hprint] at hprinted
          exact (ih printed).trans hprinted

theorem runCd (hkeeps : kernel.Keeps history) (arguments : List String)
    (environment : Environment) (state : σ) :
    history (Builtin.runCd kernel.toHost arguments environment state).2.2 =
      history state := by
  rw [Builtin.runCd]
  rcases Builtin.cdTarget kernel.account environment arguments with fault | target
  · rfl
  · have hentered := hkeeps.enter target state
    dsimp only
    split
    · next errno entered henter => rwa [henter] at hentered
    · next entered henter => rwa [henter] at hentered

theorem runSetenv (hkeeps : kernel.Keeps history) (arguments : List String)
    (environment : Environment) (state : σ) :
    history (Builtin.runSetenv kernel.toHost arguments environment state).2.2 =
      history state := by
  match arguments with
  | [] => exact hkeeps.printAll _ state
  | [name] =>
      rw [Builtin.runSetenv]
      rcases Builtin.setVariable name "" environment with fault | changed <;> rfl
  | [name, value] =>
      rw [Builtin.runSetenv]
      rcases Builtin.setVariable name value environment with fault | changed <;> rfl
  | _ :: _ :: _ :: _ => rfl

theorem runBuiltin (hkeeps : kernel.Keeps history) (builtin : Builtin)
    (arguments : List String) (environment : Environment) (state : σ) :
    history (builtin.run kernel.toHost arguments environment state).2.2 =
      history state := by
  cases builtin with
  | cd => exact hkeeps.runCd arguments environment state
  | setenv => exact hkeeps.runSetenv arguments environment state
  | unsetenv => rfl
  | exit => rfl

/-! ## Collecting signals -/

theorem drain (hkeeps : kernel.Keeps history) (limit : Nat) (state : σ) :
    history (kernel.drain limit state) = history state :=
  Collector.drain_related (fun state next => history next = history state)
    (fun _ => rfl) (fun hfirst hsecond => hsecond.trans hfirst) hkeeps.readWakeups limit state

theorem takePending (hkeeps : kernel.Keeps history) (limit : Nat) (state : σ) :
    history (kernel.takePending limit state).2 =
      history state ++ History.collected (kernel.takePending limit state).1 := by
  simp only [Collector.takePending, hkeeps.takeInterrupt, hkeeps.takeQuits, hkeeps.takeAlarm,
    hkeeps.drain, Collector.deliveries, History.collected]
  simp

theorem respondsWithin (hkeeps : kernel.Keeps history) :
    kernel.RespondsWithin fun state next => history next = history state where
  refl _ := rfl
  trans hfirst hsecond := hsecond.trans hfirst
  print := hkeeps.print
  interruptGroup := hkeeps.interruptGroup
  setAlarm seconds state _ := hkeeps.setAlarm seconds state
  cancelAlarm := hkeeps.cancelAlarm

/-- Serving signals adds what has been collected, and ends the session exactly if
that confirms a quit. -/
theorem serviceSignals (hkeeps : kernel.Keeps history) (session : Session) (state : σ) :
    ∃ deliveries served quit final,
      session.serviceSignals kernel state = (served, { session with quit }, final) ∧
      history final = history state ++ History.collected deliveries ∧
      (Quit.Confirms session.settings.quitTimeout session.quit deliveries ∧
          served = .exit 0 ∨
        ¬ Quit.Confirms session.settings.quitTimeout session.quit deliveries ∧
          (∀ code, served ≠ .exit code) ∧
          quit = Quit.after session.settings.quitTimeout session.quit deliveries) := by
  have hpending := hkeeps.takePending kernel.patience state
  have hkept := hkeeps.respondsWithin.serveAll
    (kernel.takePending kernel.patience state).1 .quiet session
    (kernel.takePending kernel.patience state).2
  obtain ⟨served, quit, final, hserved, hquit⟩ := session.serveAll_session kernel
    (kernel.takePending kernel.patience state).1 .quiet
    (kernel.takePending kernel.patience state).2 nofun
  refine ⟨_, served, quit, final, hserved, ?_, hquit⟩
  rw [hserved] at hkept
  exact hkept.trans hpending

/-! ## Starting pipelines -/

theorem openPipes (hkeeps : kernel.Keeps history) (count : Nat) (state : σ) :
    history (Launch.openPipes kernel.toStarter count state).2.2 = history state := by
  fun_induction Launch.openPipes kernel.toStarter count state with
  | case1 state => rfl
  | case2 count state errno opened hopen =>
      have hopened := hkeeps.openPipe state
      rwa [hopen] at hopened
  | case3 count state ends opened hopen answer others final hrest ih =>
      have hopened := hkeeps.openPipe state
      rw [hopen] at hopened
      rw [hrest] at ih
      exact ih.trans hopened

/-- The processes that are started are new, and different from each other. -/
theorem spawnFrom (hkeeps : kernel.Keeps history) (environment : Environment)
    (pipes : List PipeEnds) (group : Option Pid) (index : Nat) (commands : List Command)
    (state : σ) {answer : Except Errno Unit} {pids : List Pid} {final : σ}
    (hspawned : Launch.spawnFrom kernel.toStarter environment pipes group index commands
      state = (answer, pids, final)) :
    pids.Nodup ∧ (∀ pid ∈ pids, pid ∉ (history state).unreaped) ∧
      history final = history state ++ History.created pids := by
  induction commands generalizing group index state answer pids with
  | nil =>
      cases hspawned
      exact ⟨List.nodup_nil, nofun, (List.append_nil _).symm⟩
  | cons command rest ih =>
      have hspawn := hkeeps.spawn environment
        { group, wiring := Launch.wiring pipes index command, argv := command.argv } state
      simp only [Launch.spawnFrom] at hspawned
      generalize kernel.spawn environment _ state = begun at hspawn hspawned
      obtain ⟨begun, started⟩ := begun
      obtain ⟨pid, rfl, hfresh, hcreated⟩ | ⟨errno, rfl, hsame⟩ := hspawn
      · cases hspawned
        obtain ⟨hdistinct, hnew, hfinal⟩ := ih _ _ started rfl
        simp only [hcreated, History.unreaped_concat, History.follow, Finset.mem_insert,
          not_or] at hnew
        refine ⟨List.nodup_cons.mpr ⟨fun hmem => (hnew _ hmem).1 rfl, hdistinct⟩, ?_, ?_⟩
        · intro other hother
          rcases List.mem_cons.mp hother with rfl | hrest
          · exact hfresh
          · exact (hnew other hrest).2
        · rw [hfinal, hcreated, List.append_assoc]
          rfl
      · cases hspawned
        exact ⟨List.nodup_nil, nofun, hsame.trans (List.append_nil _).symm⟩

/-- A child that is waited for is reaped, unless signals end all the waits. -/
theorem awaitEnd (hkeeps : kernel.Keeps history) (turns : Nat) {pid : Pid} {state : σ}
    (hpid : pid ∈ (history state).unreaped)
    (hpatient : ¬ Launch.Disturbed kernel.toStarter pid turns state) :
    ∃ ending : Ending, history (Launch.awaitEnd kernel.toStarter turns pid state) =
      history state ++ [.reaped pid ending] := by
  induction turns generalizing state with
  | zero => exact absurd trivial hpatient
  | succ turns ih =>
      have hwaited := hkeeps.waitFor pid state hpid
      simp only [Launch.Disturbed, not_and] at hpatient
      rw [Launch.awaitEnd]
      generalize kernel.waitFor pid state = waited at hwaited hpatient
      obtain ⟨answer, waited⟩ := waited
      obtain ⟨rfl, hsame⟩ | ⟨ending, rfl, hreaped⟩ := hwaited
      · dsimp only at hsame
        rw [← hsame] at hpid ⊢
        exact ih hpid (hpatient rfl)
      · refine ⟨ending, ?_⟩
        have hother := ending.answer_ne_interrupted
        dsimp only at hreaped ⊢
        split
        · next hanswer => exact absurd (congrArg Prod.fst hanswer) hother
        · next hanswer =>
            cases hanswer
            exact hreaped

/-- What is left of a pipeline that is given up is reaped. -/
theorem abandon (hkeeps : kernel.Keeps history) {pids : List Pid} {state : σ}
    (hpids : History.Outstanding (history state) pids) (pid : Pid) :
    pid ∈ (history (Launch.abandon kernel.toStarter pids state)).unreaped ↔
      pid ∈ (history state).unreaped ∧ pid ∉ pids := by
  have hreaps (pids : List Pid) (state : σ)
      (hpids : History.Outstanding (history state) pids) :
      pid ∈ (history (pids.foldl (fun state pid =>
          Launch.awaitEnd kernel.toStarter kernel.patience pid state) state)).unreaped ↔
        pid ∈ (history state).unreaped ∧ pid ∉ pids := by
    induction pids generalizing state with
    | nil => simp
    | cons first rest ih =>
        have hfirst := hpids.unreaped first List.mem_cons_self
        obtain ⟨ending, hreaped⟩ := hkeeps.awaitEnd kernel.patience hfirst
          (hkeeps.patient first state hfirst)
        have hrest := hpids.reaped ending
        rw [← hreaped] at hrest
        rw [List.foldl_cons, ih _ hrest, hreaped, History.unreaped_concat, History.follow,
          Finset.mem_erase, List.mem_cons, not_or]
        tauto
  cases pids with
  | nil => exact hreaps [] state hpids
  | cons leader others =>
      have hasked := hkeeps.terminateGroup leader state
      rw [← hasked] at hpids ⊢
      exact hreaps (leader :: others) _ hpids

/-- A pipeline is started as a whole, or none of its processes is left. -/
theorem launch (hkeeps : kernel.Keeps history) (environment : Environment)
    (commands : List Command) (state : σ) :
    ∃ outcome final,
      Launch.launch kernel.toStarter environment commands state = (outcome, final) ∧
      ((∃ job : Launch.Job, outcome = .ok job ∧ job.pids.Nodup ∧
          (∀ pid ∈ job.pids, pid ∉ (history state).unreaped) ∧
          history final = history state ++ History.created job.pids) ∨
        ∃ fault, outcome = .error fault ∧
          ∀ pid, pid ∈ (history final).unreaped ↔ pid ∈ (history state).unreaped) := by
  have hlaunch := Launch.comesTo_launch kernel.toStarter environment commands state
  generalize Launch.launch kernel.toStarter environment commands state = launched at hlaunch ⊢
  obtain ⟨outcome, final⟩ := launched
  refine ⟨outcome, final, rfl, ?_⟩
  dsimp only at hlaunch
  -- The pipes, and holding signals back, leave the children alone.
  have hbefore {count : Nat} {piped blocked : σ} {pipes : List PipeEnds}
      {answer held : Except Errno Unit}
      (hopen : Launch.openPipes kernel.toStarter count state = (answer, pipes, piped))
      (hblock : kernel.blockSignals piped = (held, blocked)) : history blocked = history state := by
    have hpiped := hkeeps.openPipes count state
    have hblocked := hkeeps.blockSignals piped
    rw [hopen] at hpiped
    rw [hblock] at hblocked
    exact hblocked.trans hpiped
  cases hlaunch with
  | refused hbad => exact .inr ⟨_, rfl, fun pid => Iff.rfl⟩
  | unpiped hgood hopen =>
      have hpiped := hkeeps.openPipes (commands.length - 1) state
      rw [hopen] at hpiped
      refine .inr ⟨_, rfl, fun pid => ?_⟩
      rw [hkeeps.closePipes, hpiped]
  | unblocked hgood hopen hblock =>
      refine .inr ⟨_, rfl, fun pid => ?_⟩
      rw [hkeeps.closePipes, hbefore hopen hblock]
  | @abandoned errno pipes pids piped blocked started hgood hopen hblock hspawn =>
      obtain ⟨hdistinct, hnew, hcreated⟩ := hkeeps.spawnFrom environment pipes none 0 commands
        blocked hspawn
      rw [hbefore hopen hblock] at hnew hcreated
      refine .inr ⟨_, rfl, fun pid => ?_⟩
      have hpids : History.Outstanding
          (history (kernel.unblockSignals (kernel.closePipes pipes started))) pids := by
        refine ⟨hdistinct, fun pid hpid => ?_⟩
        rw [hkeeps.unblockSignals, hkeeps.closePipes, hcreated, History.mem_unreaped_created]
        exact .inr hpid
      rw [hkeeps.abandon hpids, hkeeps.unblockSignals, hkeeps.closePipes, hcreated,
        History.mem_unreaped_created]
      have hfresh := hnew pid
      tauto
  | @empty pipes piped blocked started hgood hopen hblock hspawn =>
      obtain ⟨-, -, hcreated⟩ := hkeeps.spawnFrom environment pipes none 0 commands blocked hspawn
      refine .inr ⟨_, rfl, fun pid => ?_⟩
      rw [hkeeps.unblockSignals, hkeeps.closePipes, hcreated, hbefore hopen hblock,
        History.created, List.map_nil, List.append_nil]
  | @started job pipes piped blocked started hgood hopen hblock hspawn =>
      obtain ⟨hdistinct, hnew, hcreated⟩ := hkeeps.spawnFrom environment pipes none 0 commands
        blocked hspawn
      rw [hbefore hopen hblock] at hnew hcreated
      refine .inl ⟨job, rfl, hdistinct, hnew, ?_⟩
      rw [hkeeps.unblockSignals, hkeeps.closePipes, hcreated]

end Kernel.Keeps

end JobShell
