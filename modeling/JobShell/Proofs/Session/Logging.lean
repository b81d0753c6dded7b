import JobShell.Proofs.Session.Frame
import JobShell.Proofs.Session.History

/-!
# A log of interrupts

What a session has sent is kept in a log that nothing but the sending of an interrupt adds
to.  A log only goes on, so an entry has been added between two states if it stands behind
what the log was in the first of them and within what it is in the second.
-/

namespace JobShell

/-- An interrupt for a group, and the children that had not been reaped when it was sent. -/
structure Interruption where
  group : Pid
  children : Finset Pid
  deriving DecidableEq

/-- A log goes on, and every entry that it goes on with is one that is expected behind the
entries before it. -/
structure Adds {α : Type} (expected : List α → α → Prop) (before after : List α) : Prop where
  continues : before <+: after
  entries : ∀ earlier entry, before <+: earlier → earlier ++ [entry] <+: after →
    expected earlier entry

namespace Adds

variable {α : Type} {expected : List α → α → Prop} {first second third : List α}

theorem not_continues {earlier : List α} {entry : α} (hbefore : first <+: earlier) :
    ¬ earlier ++ [entry] <+: first := by
  intro hafter
  have hshort := hbefore.length_le
  have hlong := hafter.length_le
  rw [List.length_append, List.length_singleton] at hlong
  omega

theorem nothing (log : List α) : Adds expected log log where
  continues := List.prefix_refl log
  entries _ _ hbefore hafter := absurd hafter (not_continues hbefore)

theorem trans (hfirst : Adds expected first second) (hsecond : Adds expected second third) :
    Adds expected first third where
  continues := hfirst.continues.trans hsecond.continues
  entries earlier entry hbefore hafter := by
    rcases List.prefix_or_prefix_of_prefix hafter hsecond.continues with hwithin | hbeyond
    · exact hfirst.entries earlier entry hbefore hwithin
    · rcases List.prefix_concat_iff.mp hbeyond with hlast | hearlier
      · exact hfirst.entries earlier entry hbefore (hlast ▸ List.prefix_refl _)
      · exact hsecond.entries earlier entry hearlier hafter

theorem entry {log : List α} {entry : α} (hexpected : expected log entry) :
    Adds expected log (log ++ [entry]) where
  continues := List.prefix_append log [entry]
  entries earlier other hbefore hafter := by
    rcases List.prefix_concat_iff.mp hafter with hlast | hwithin
    · obtain ⟨rfl, hother⟩ := List.append_inj' hlast rfl
      cases hother
      exact hexpected
    · exact absurd hwithin (not_continues hbefore)

theorem imp {other : List α → α → Prop} (hadds : Adds expected first second)
    (himp : ∀ earlier entry, first <+: earlier → earlier ++ [entry] <+: second →
      expected earlier entry → other earlier entry) : Adds other first second where
  continues := hadds.continues
  entries earlier entry hbefore hafter :=
    himp earlier entry hbefore hafter (hadds.entries earlier entry hbefore hafter)

theorem eq (hadds : Adds (fun _ _ => False) first second) : second = first := by
  obtain ⟨more, rfl⟩ := hadds.continues
  cases more with
  | nil => exact List.append_nil first
  | cons entry rest =>
      have hentry : first ++ [entry] <+: first ++ entry :: rest := ⟨rest, by simp⟩
      exact (hadds.entries first entry (List.prefix_refl first) hentry).elim

end Adds

variable {σ : Type}

namespace Kernel

/-- The kernel on which an interrupt is sent to nobody. -/
def withoutInterrupts (kernel : Kernel σ) : Kernel σ :=
  { kernel with interruptGroup := fun _ state => state }

/-- A kernel logs interrupts if sending one adds it to the log and nothing else changes
the log. -/
structure Logs (kernel : Kernel σ) (history : σ → History) (log : σ → List Interruption) :
    Prop where
  interruptGroup : ∀ group state, log (kernel.interruptGroup group state) =
    log state ++ [{ group, children := (history state).unreaped }]
  silent : kernel.withoutInterrupts.Within fun state next => log next = log state

theorem openTargets_withoutInterrupts (kernel : Kernel σ) (targets : List (Direction × String))
    (state : σ) :
    kernel.withoutInterrupts.openTargets targets state = kernel.openTargets targets state := by
  induction targets generalizing state with
  | nil => rfl
  | cons target rest ih =>
      simp only [openTargets, ih]
      rfl

theorem sayAll_withoutInterrupts (kernel : Kernel σ) (texts : List String) (state : σ) :
    kernel.withoutInterrupts.sayAll texts state = kernel.sayAll texts state := by
  induction texts generalizing state with
  | nil => rfl
  | cons text rest ih =>
      simp only [sayAll, ih]
      rfl

namespace Logs

variable {kernel : Kernel σ} {history : σ → History} {log : σ → List Interruption}

theorem performEffects (hlogs : kernel.Logs history log) (effects : List Quit.Effect) (state : σ) :
    log (Session.performEffects kernel effects state) = log state :=
  hlogs.silent.servesWithin.performEffects effects state

theorem takePending (hlogs : kernel.Logs history log) (limit : Nat) (state : σ) :
    log (kernel.takePending limit state).2 = log state :=
  hlogs.silent.servesWithin.takePending limit state

theorem launch (hlogs : kernel.Logs history log) (environment : Environment)
    (commands : List Command) (state : σ) :
    log (Launch.launch kernel.toStarter environment commands state).2 = log state :=
  hlogs.silent.launch environment commands state

theorem launchBackground (hlogs : kernel.Logs history log) (pipeline : Pipeline)
    (session : Session) (state : σ) {result : Except Fault Flow × Session × σ}
    (hreturns : session.launchBackground kernel pipeline state = some result) :
    log result.2.2 = log state :=
  hlogs.silent.launchBackground pipeline session state hreturns

theorem complained (hlogs : kernel.Logs history log) {text : String} {state reported : σ}
    (hcomplain : written (kernel.complain text state) = some reported) :
    log reported = log state :=
  hlogs.silent.complained hcomplain

theorem reportFinishedJobs (hlogs : kernel.Logs history log) (session : Session) (state : σ) :
    log (session.reportFinishedJobs kernel state).2 = log state := by
  have hreported := hlogs.silent.reportFinishedJobs session state
  simp only [Session.reportFinishedJobs, Session.printFinishedJobs,
    sayAll_withoutInterrupts] at hreported
  exact hreported

theorem runBuiltin (hlogs : kernel.Logs history log) (builtin : Builtin) (command : Command)
    (session : Session) (state : σ) :
    log (session.runBuiltin kernel builtin command state).2.2 = log state := by
  have hran := hlogs.silent.runBuiltin builtin command session state
  rw [Session.runBuiltin, openTargets_withoutInterrupts] at hran
  exact hran

end Logs

/-- Runs an operation on the first part of a state. -/
def beside {α β γ : Type} (operation : α → β × α) (state : α × γ) : β × (α × γ) :=
  let (result, next) := operation state.1
  (result, (next, state.2))

/-- The kernel with a log of its interrupts beside its state. -/
def logging (kernel : Kernel σ) (history : σ → History) : Kernel (σ × List Interruption) where
  patience := kernel.patience
  account := kernel.account
  enter path := beside (kernel.enter path)
  directory state := kernel.directory state.1
  print bytes := beside (kernel.print bytes)
  complain text := beside (kernel.complain text)
  openTarget direction path := beside (kernel.openTarget direction path)
  openScript path := beside (kernel.openScript path)
  readScript script := beside (kernel.readScript script)
  closeScript script := Prod.map (kernel.closeScript script) id
  openPipe := beside kernel.openPipe
  closePipes pipes := Prod.map (kernel.closePipes pipes) id
  blockSignals := beside kernel.blockSignals
  unblockSignals := Prod.map kernel.unblockSignals id
  spawn environment child := beside (kernel.spawn environment child)
  terminateGroup group := Prod.map (kernel.terminateGroup group) id
  waitFor pid := beside (kernel.waitFor pid)
  readWakeups := beside kernel.readWakeups
  takeAlarm := beside kernel.takeAlarm
  takeQuits := beside kernel.takeQuits
  takeInterrupt := beside kernel.takeInterrupt
  await := beside kernel.await
  read := beside kernel.read
  poll pid := beside (kernel.poll pid)
  interruptGroup group state :=
    (kernel.interruptGroup group state.1,
      state.2 ++ [{ group, children := (history state.1).unreaped }])
  sleep := Prod.map kernel.sleep id
  setAlarm seconds := Prod.map (kernel.setAlarm seconds) id
  cancelAlarm := Prod.map kernel.cancelAlarm id

/-- Every kernel can be given a log. -/
theorem logging_logs (kernel : Kernel σ) (history : σ → History) :
    (kernel.logging history).Logs (fun state => history state.1) Prod.snd where
  interruptGroup _ _ := rfl
  silent :=
    { refl := fun _ => rfl
      trans := fun hfirst hsecond => hsecond.trans hfirst
      enter := fun _ _ => rfl
      print := fun _ _ => rfl
      complain := fun _ _ => rfl
      openTarget := fun _ _ _ => rfl
      openPipe := fun _ => rfl
      spawn := fun _ _ _ => rfl
      closePipes := fun _ _ => rfl
      blockSignals := fun _ => rfl
      unblockSignals := fun _ => rfl
      terminateGroup := fun _ _ => rfl
      waitFor := fun _ _ => rfl
      readWakeups := fun _ => rfl
      takeAlarm := fun _ => rfl
      takeQuits := fun _ => rfl
      takeInterrupt := fun _ => rfl
      poll := fun _ _ => rfl
      interruptGroup := fun _ _ => rfl
      sleep := fun _ => rfl
      setAlarm := fun _ _ => rfl
      cancelAlarm := fun _ => rfl }

theorem disturbed_logging {kernel : Kernel σ} {history : σ → History} (pid : Pid) (turns : Nat)
    (state : σ × List Interruption) :
    Launch.Disturbed (kernel.logging history).toStarter pid turns state ↔
      Launch.Disturbed kernel.toStarter pid turns state.1 := by
  induction turns generalizing state with
  | zero => exact Iff.rfl
  | succ turns ih => exact and_congr_right' (ih _)

theorem logging_keeps {kernel : Kernel σ} {history : σ → History} (hkeeps : kernel.Keeps history) :
    (kernel.logging history).Keeps fun state => history state.1 where
  spawn environment child state := hkeeps.spawn environment child state.1
  poll pid state := hkeeps.poll pid state.1
  waitFor pid state := hkeeps.waitFor pid state.1
  patient pid state hpid hdisturbed :=
    hkeeps.patient pid state.1 hpid ((disturbed_logging pid kernel.patience state).mp hdisturbed)
  takeAlarm state := hkeeps.takeAlarm state.1
  takeQuits state := hkeeps.takeQuits state.1
  takeInterrupt state := hkeeps.takeInterrupt state.1
  readWakeups state := hkeeps.readWakeups state.1
  sleep state := hkeeps.sleep state.1
  interruptGroup group state := hkeeps.interruptGroup group state.1
  setAlarm seconds state := hkeeps.setAlarm seconds state.1
  cancelAlarm state := hkeeps.cancelAlarm state.1
  openPipe state := hkeeps.openPipe state.1
  closePipes pipes state := hkeeps.closePipes pipes state.1
  blockSignals state := hkeeps.blockSignals state.1
  unblockSignals state := hkeeps.unblockSignals state.1
  terminateGroup group state := hkeeps.terminateGroup group state.1
  openTarget direction path state := hkeeps.openTarget direction path state.1
  enter path state := hkeeps.enter path state.1
  print bytes state := hkeeps.print bytes state.1
  complain text state := hkeeps.complain text state.1

end Kernel

end JobShell
