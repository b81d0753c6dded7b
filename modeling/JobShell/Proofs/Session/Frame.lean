import JobShell.Proofs.Session.Waiting

/-!
# What a session leaves alone

If every operation of a kernel but the reading of lines stays within a relation of
states, so does whatever a session does with a line or between lines.  With the right
relation this says what a session never touches.
-/

namespace JobShell

/-- If every question for a process leads from a state to a related one, so does a round of
them. -/
theorem Registry.reapFrom_related {σ : Type} {poll : Pid → σ → Except Errno WaitStatus × σ}
    (related : σ → σ → Prop) (hrefl : ∀ state, related state state)
    (htrans : ∀ {first second third}, related first second → related second third →
      related first third)
    (hpoll : ∀ pid state, related state (poll pid state).2) (pids : List Pid) (state : σ) :
    related state (reapFrom poll pids state).2.2 := by
  induction pids generalizing state with
  | nil => exact hrefl state
  | cons pid rest ih =>
      have hreaped := htrans (hpoll pid state) (ih _)
      dsimp only [reapFrom]
      split
      · exact hreaped
      · exact hreaped
      · exact hreaped
      · exact hreaped

/-- Every operation but those for reading input and scripts leads from a state to a related
one. -/
structure Kernel.Within {σ : Type} (kernel : Kernel σ) (related : σ → σ → Prop) : Prop where
  refl : ∀ state, related state state
  trans : ∀ {first second third}, related first second → related second third →
    related first third
  enter : ∀ path state, related state (kernel.enter path state).2
  print : ∀ bytes state, related state (kernel.print bytes state).2
  complain : ∀ text state, related state (kernel.complain text state).2
  openTarget : ∀ direction path state, related state (kernel.openTarget direction path state).2
  openPipe : ∀ state, related state (kernel.openPipe state).2
  spawn : ∀ environment child state, related state (kernel.spawn environment child state).2
  closePipes : ∀ pipes state, related state (kernel.closePipes pipes state)
  blockSignals : ∀ state, related state (kernel.blockSignals state).2
  unblockSignals : ∀ state, related state (kernel.unblockSignals state)
  terminateGroup : ∀ group state, related state (kernel.terminateGroup group state)
  waitFor : ∀ pid state, related state (kernel.waitFor pid state).2
  readWakeups : ∀ state, related state (kernel.readWakeups state).2
  takeAlarm : ∀ state, related state (kernel.takeAlarm state).2
  takeQuits : ∀ state, related state (kernel.takeQuits state).2
  takeInterrupt : ∀ state, related state (kernel.takeInterrupt state).2
  poll : ∀ pid state, related state (kernel.poll pid state).2
  interruptGroup : ∀ group state, related state (kernel.interruptGroup group state)
  sleep : ∀ state, related state (kernel.sleep state)
  setAlarm : ∀ seconds state, related state (kernel.setAlarm seconds state)
  cancelAlarm : ∀ state, related state (kernel.cancelAlarm state)

namespace Kernel.Within

variable {σ : Type} {kernel : Kernel σ} {related : σ → σ → Prop}

theorem imp {other : σ → σ → Prop} (hwithin : kernel.Within related)
    (himp : ∀ {state next}, related state next → other state next)
    (htrans : ∀ {first second third}, other first second → other second third →
      other first third) : kernel.Within other where
  refl state := himp (hwithin.refl state)
  trans := htrans
  enter path state := himp (hwithin.enter path state)
  print bytes state := himp (hwithin.print bytes state)
  complain text state := himp (hwithin.complain text state)
  openTarget direction path state := himp (hwithin.openTarget direction path state)
  openPipe state := himp (hwithin.openPipe state)
  spawn environment child state := himp (hwithin.spawn environment child state)
  closePipes pipes state := himp (hwithin.closePipes pipes state)
  blockSignals state := himp (hwithin.blockSignals state)
  unblockSignals state := himp (hwithin.unblockSignals state)
  terminateGroup group state := himp (hwithin.terminateGroup group state)
  waitFor pid state := himp (hwithin.waitFor pid state)
  readWakeups state := himp (hwithin.readWakeups state)
  takeAlarm state := himp (hwithin.takeAlarm state)
  takeQuits state := himp (hwithin.takeQuits state)
  takeInterrupt state := himp (hwithin.takeInterrupt state)
  poll pid state := himp (hwithin.poll pid state)
  interruptGroup group state := himp (hwithin.interruptGroup group state)
  sleep state := himp (hwithin.sleep state)
  setAlarm seconds state := himp (hwithin.setAlarm seconds state)
  cancelAlarm state := himp (hwithin.cancelAlarm state)

/-! ## Printing and opening -/

theorem said (hwithin : kernel.Within related) {text : String} {state said : σ}
    (hsay : Kernel.written (kernel.say text state) = some said) : related state said := by
  have hsaid := hwithin.print (Text.encode text) state
  rwa [show kernel.print _ state = _ from Kernel.written_eq_some_iff.mp hsay] at hsaid

theorem complained (hwithin : kernel.Within related) {text : String} {state reported : σ}
    (hcomplain : Kernel.written (kernel.complain text state) = some reported) :
    related state reported := by
  have hreported := hwithin.complain text state
  rwa [Kernel.written_eq_some_iff.mp hcomplain] at hreported

theorem openTargets (hwithin : kernel.Within related) (targets : List (Direction × String))
    (state : σ) : related state (kernel.openTargets targets state).2 := by
  induction targets generalizing state with
  | nil => exact hwithin.refl state
  | cons target rest ih =>
      obtain ⟨direction, path⟩ := target
      have hopened := hwithin.openTarget direction (Text.encode path) state
      rw [Kernel.openTargets]
      split
      · next errno opened hopen => rwa [hopen] at hopened
      · next opened hopen =>
          rw [hopen] at hopened
          exact hwithin.trans hopened (ih opened)

/-! ## Builtins -/

theorem printAll (hwithin : kernel.Within related) (texts : List Bytes) (state : σ) :
    related state (Builtin.printAll kernel.toHost texts state).2 := by
  induction texts generalizing state with
  | nil => exact hwithin.refl state
  | cons text rest ih =>
      have hprinted := hwithin.print text state
      rw [Builtin.printAll]
      split
      · next failure printed hprint => rwa [hprint] at hprinted
      · next printed hprint =>
          rw [hprint] at hprinted
          exact hwithin.trans hprinted (ih printed)

theorem runCd (hwithin : kernel.Within related) (arguments : List String)
    (environment : Environment) (state : σ) :
    related state (Builtin.runCd kernel.toHost arguments environment state).2.2 := by
  rw [Builtin.runCd]
  rcases Builtin.cdTarget kernel.account environment arguments with fault | target
  · exact hwithin.refl state
  · have hentered := hwithin.enter target state
    dsimp only
    split
    · next errno entered henter => rwa [henter] at hentered
    · next entered henter => rwa [henter] at hentered

theorem runSetenv (hwithin : kernel.Within related) (arguments : List String)
    (environment : Environment) (state : σ) :
    related state (Builtin.runSetenv kernel.toHost arguments environment state).2.2 := by
  match arguments with
  | [] => exact hwithin.printAll _ state
  | [name] =>
      rw [Builtin.runSetenv]
      rcases Builtin.setVariable name "" environment with fault | changed <;>
        exact hwithin.refl state
  | [name, value] =>
      rw [Builtin.runSetenv]
      rcases Builtin.setVariable name value environment with fault | changed <;>
        exact hwithin.refl state
  | _ :: _ :: _ :: _ => exact hwithin.refl state

theorem run (hwithin : kernel.Within related) (builtin : Builtin) (arguments : List String)
    (environment : Environment) (state : σ) :
    related state (builtin.run kernel.toHost arguments environment state).2.2 := by
  cases builtin with
  | cd => exact hwithin.runCd arguments environment state
  | setenv => exact hwithin.runSetenv arguments environment state
  | unsetenv => exact hwithin.refl state
  | exit => exact hwithin.refl state

theorem runBuiltin (hwithin : kernel.Within related) (builtin : Builtin) (command : Command)
    (session : Session) (state : σ) :
    related state (session.runBuiltin kernel builtin command state).2.2 := by
  have hopened := hwithin.openTargets command.targets state
  rw [Session.runBuiltin]
  split
  · next fault opened hopen => rwa [hopen] at hopened
  · next opened hopen =>
      rw [hopen] at hopened
      have hran := hwithin.run builtin command.argv.tail session.environment opened
      generalize builtin.run kernel.toHost command.argv.tail session.environment opened =
        ran at hran ⊢
      obtain ⟨outcome, environment, final⟩ := ran
      have hfinal := hwithin.trans hopened hran
      rcases outcome with fault | status | code
      · exact hfinal
      · exact hfinal
      · exact hfinal

/-! ## Signals -/

theorem servesWithin (hwithin : kernel.Within related) : kernel.ServesWithin related where
  refl := hwithin.refl
  trans := hwithin.trans
  print := hwithin.print
  interruptGroup := hwithin.interruptGroup
  setAlarm seconds state _ := hwithin.setAlarm seconds state
  cancelAlarm := hwithin.cancelAlarm
  readWakeups := hwithin.readWakeups
  takeAlarm := hwithin.takeAlarm
  takeQuits := hwithin.takeQuits
  takeInterrupt := hwithin.takeInterrupt

theorem serviceSignals (hwithin : kernel.Within related) (session : Session) (state : σ) :
    related state (session.serviceSignals kernel state).2.2 :=
  hwithin.servesWithin.serviceSignals session state

/-! ## Pipelines -/

theorem openPipes (hwithin : kernel.Within related) (count : Nat) (state : σ) :
    related state (Launch.openPipes kernel.toStarter count state).2.2 := by
  fun_induction Launch.openPipes kernel.toStarter count state with
  | case1 state => exact hwithin.refl state
  | case2 count state errno opened hopen =>
      have hopened := hwithin.openPipe state
      rwa [hopen] at hopened
  | case3 count state ends opened hopen answer others final hrest ih =>
      have hopened := hwithin.openPipe state
      rw [hopen] at hopened
      rw [hrest] at ih
      exact hwithin.trans hopened ih

theorem spawnFrom (hwithin : kernel.Within related) (environment : Environment)
    (pipes : List PipeEnds) (group : Option Pid) (index : Nat) (commands : List Command)
    (state : σ) :
    related state
      (Launch.spawnFrom kernel.toStarter environment pipes group index commands state).2.2 := by
  induction commands generalizing group index state with
  | nil => exact hwithin.refl state
  | cons command rest ih =>
      have hspawned := hwithin.spawn environment
        { group, wiring := Launch.wiring pipes index command, argv := command.argv } state
      simp only [Launch.spawnFrom]
      split
      · next errno spawned hspawn => rwa [hspawn] at hspawned
      · next pid spawned hspawn =>
          rw [hspawn] at hspawned
          exact hwithin.trans hspawned (ih _ _ spawned)

theorem awaitEnd (hwithin : kernel.Within related) (turns : Nat) (pid : Pid) (state : σ) :
    related state (Launch.awaitEnd kernel.toStarter turns pid state) := by
  induction turns generalizing state with
  | zero => exact hwithin.refl state
  | succ turns ih =>
      have hwaited := hwithin.waitFor pid state
      rw [Launch.awaitEnd]
      split
      · next waited hwait =>
          rw [hwait] at hwaited
          exact hwithin.trans hwaited (ih waited)
      · next answer waited _ hwait => rwa [hwait] at hwaited

theorem abandon (hwithin : kernel.Within related) (pids : List Pid) (state : σ) :
    related state (Launch.abandon kernel.toStarter pids state) := by
  have hawaits (pids : List Pid) (state : σ) :
      related state (pids.foldl (fun state pid =>
        Launch.awaitEnd kernel.toStarter kernel.patience pid state) state) := by
    induction pids generalizing state with
    | nil => exact hwithin.refl state
    | cons pid rest ih => exact hwithin.trans (hwithin.awaitEnd _ pid state) (ih _)
  cases pids with
  | nil => exact hwithin.refl state
  | cons leader others =>
      exact hwithin.trans (hwithin.terminateGroup leader state) (hawaits (leader :: others) _)

theorem launch (hwithin : kernel.Within related) (environment : Environment)
    (commands : List Command) (state : σ) :
    related state (Launch.launch kernel.toStarter environment commands state).2 := by
  have hlaunch := Launch.comesTo_launch kernel.toStarter environment commands state
  generalize Launch.launch kernel.toStarter environment commands state = launched at hlaunch ⊢
  obtain ⟨outcome, final⟩ := launched
  dsimp only at hlaunch ⊢
  have hpiped {count : Nat} {piped : σ} {pipes : List PipeEnds} {answer : Except Errno Unit}
      (hopen : Launch.openPipes kernel.toStarter count state = (answer, pipes, piped)) :
      related state piped := by
    have hopened := hwithin.openPipes count state
    rwa [hopen] at hopened
  have hblocked {piped blocked : σ} {answer : Except Errno Unit} (hbefore : related state piped)
      (hblock : kernel.blockSignals piped = (answer, blocked)) : related state blocked := by
    have hheld := hwithin.blockSignals piped
    rw [hblock] at hheld
    exact hwithin.trans hbefore hheld
  have hstarted {blocked started : σ} {pipes : List PipeEnds} {pids : List Pid}
      {answer : Except Errno Unit} (hbefore : related state blocked)
      (hspawn : Launch.spawnFrom kernel.toStarter environment pipes none 0 commands blocked =
        (answer, pids, started)) :
      related state (kernel.unblockSignals (kernel.closePipes pipes started)) := by
    have hspawned := hwithin.spawnFrom environment pipes none 0 commands blocked
    rw [hspawn] at hspawned
    exact hwithin.trans (hwithin.trans (hwithin.trans hbefore hspawned)
      (hwithin.closePipes pipes started)) (hwithin.unblockSignals _)
  cases hlaunch with
  | refused hbad => exact hwithin.refl state
  | unpiped hgood hopen => exact hwithin.trans (hpiped hopen) (hwithin.closePipes _ _)
  | unblocked hgood hopen hblock =>
      exact hwithin.trans (hblocked (hpiped hopen) hblock) (hwithin.closePipes _ _)
  | abandoned hgood hopen hblock hspawn =>
      exact hwithin.trans (hstarted (hblocked (hpiped hopen) hblock) hspawn)
        (hwithin.abandon _ _)
  | empty hgood hopen hblock hspawn => exact hstarted (hblocked (hpiped hopen) hblock) hspawn
  | started hgood hopen hblock hspawn => exact hstarted (hblocked (hpiped hopen) hblock) hspawn

theorem run_wait (hwithin : kernel.Within related) {last : Pid} {turns : Nat} {wait : Wait σ}
    {result : Flow × Session × σ} (hreturns : wait.run kernel last turns = some result) :
    related wait.state result.2.2 := by
  have hasked {pid : Pid} {state asked : σ} {answer : Except Errno WaitStatus}
      (hpoll : kernel.poll pid state = (answer, asked)) : related state asked := by
    have hpolled := hwithin.poll pid state
    rwa [hpoll] at hpolled
  have hserved {session next : Session} {state served : σ} {serviced : Serviced}
      (hservice : session.serviceSignals kernel (kernel.sleep state) =
        (serviced, next, served)) : related state served := by
    have hserviced := hwithin.serviceSignals session (kernel.sleep state)
    rw [hservice] at hserviced
    exact hwithin.trans (hwithin.sleep state) hserviced
  refine Wait.run_induction (motive := fun wait result => related wait.state result.2.2)
    ?_ ?_ hreturns
  · intro wait result hstops
    cases hstops with
    | finished => exact hwithin.refl _
    | quits halive hserve => exact hserved hserve
  · intro wait next result hturns ih
    cases hturns with
    | stillAlive hpoll => exact hwithin.trans (hasked hpoll) ih
    | done hpoll halive hinterrupted => exact hwithin.trans (hasked hpoll) ih
    | interrupted hpoll => exact hwithin.trans (hasked hpoll) ih
    | sleeps halive hserve hgoes => exact hwithin.trans (hserved hserve) ih

/-! ## Lines -/

theorem launchBackground (hwithin : kernel.Within related) (pipeline : Pipeline)
    (session : Session) (state : σ) {result : Except Fault Flow × Session × σ}
    (hreturns : session.launchBackground kernel pipeline state = some result) :
    related state result.2.2 := by
  have hlaunched := hwithin.launch session.environment pipeline.commands state
  rw [Session.launchBackground] at hreturns
  split at hreturns
  · next fault launched hlaunch =>
      rw [hlaunch] at hlaunched
      obtain rfl := Option.some.inj hreturns
      exact hlaunched
  · next job launched hlaunch =>
      rw [hlaunch] at hlaunched
      obtain ⟨said, hsay, rfl⟩ := Option.map_eq_some_iff.mp hreturns
      exact hwithin.trans hlaunched (hwithin.said hsay)

theorem launchForeground (hwithin : kernel.Within related) (pipeline : Pipeline)
    (session : Session) (state : σ) {result : Except Fault Flow × Session × σ}
    (hreturns : session.launchForeground kernel pipeline state = some result) :
    related state result.2.2 := by
  have hlaunched := hwithin.launch session.environment pipeline.commands state
  rw [Session.launchForeground] at hreturns
  split at hreturns
  · next fault launched hlaunch =>
      rw [hlaunch] at hlaunched
      obtain rfl := Option.some.inj hreturns
      exact hlaunched
  · next job launched hlaunch =>
      rw [hlaunch] at hlaunched
      obtain ⟨waited, hwait, rfl⟩ := Option.map_eq_some_iff.mp hreturns
      exact hwithin.trans hlaunched (hwithin.run_wait hwait)

theorem execute (hwithin : kernel.Within related) (line : String) (session : Session)
    (state : σ) {result : Except Fault Flow × Session × σ}
    (hreturns : session.execute kernel line state = some result) :
    related state result.2.2 := by
  rw [Session.execute] at hreturns
  split at hreturns
  · obtain rfl := Option.some.inj hreturns
    exact hwithin.refl state
  · obtain rfl := Option.some.inj hreturns
    exact hwithin.refl state
  · next builtin command _ =>
      obtain rfl := Option.some.inj hreturns
      exact hwithin.runBuiltin builtin command session state
  · next pipeline _ => exact hwithin.launchBackground pipeline session state hreturns
  · next pipeline _ => exact hwithin.launchForeground pipeline session state hreturns

theorem processLine (hwithin : kernel.Within related) (line : String) (session : Session)
    (state : σ) {result : Flow × Session × σ}
    (hreturns : session.processLine kernel line state = some result) :
    related state result.2.2 := by
  obtain ⟨⟨outcome, done, executed⟩, hexecute, hresult⟩ := Option.bind_eq_some_iff.mp hreturns
  obtain ⟨⟨flow, settled⟩, hsettle, rfl⟩ := Option.map_eq_some_iff.mp hresult
  have hexecuted := hwithin.execute line session state hexecute
  cases outcome with
  | ok flow =>
      cases hsettle
      exact hexecuted
  | error fault =>
      obtain ⟨reported, hcomplain, hreported⟩ := Option.map_eq_some_iff.mp hsettle
      cases hreported
      exact hwithin.trans hexecuted (hwithin.complained hcomplain)

/-! ## Between lines -/

theorem reapFrom (hwithin : kernel.Within related) (pids : List Pid) (state : σ) :
    related state (Registry.reapFrom kernel.poll pids state).2.2 :=
  Registry.reapFrom_related related hwithin.refl hwithin.trans hwithin.poll pids state

theorem reportFinishedJobs (hwithin : kernel.Within related) (session : Session) (state : σ) :
    related state (session.reportFinishedJobs kernel state).2 :=
  hwithin.trans (hwithin.reapFrom session.jobs.pids state)
    (hwithin.servesWithin.sayAll _ _)

theorem reported (hwithin : kernel.Within related) {session reported : Session} {state told : σ}
    (hreport : Kernel.written (session.printFinishedJobs kernel state) = some (reported, told)) :
    related state told := by
  have hreported := hwithin.reportFinishedJobs session state
  rwa [Session.reportFinishedJobs, Kernel.written_eq_some_iff.mp hreport] at hreported

end Kernel.Within

end JobShell
