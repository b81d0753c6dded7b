import JobShell.Proofs.Launch.Redirecting
import JobShell.Proofs.Recorder.Lossless
import JobShell.Proofs.Session.Tally

/-!
# Waiting for a process that fails

The shell sleeps while the only process that can move does so.  The end of the process
wakes it, and the next round of asking forgets the process.
-/

namespace JobShell

/-! ## Waiting for one process -/

namespace Wait

variable {σ : Type} {kernel : Kernel σ} {pid : Pid} {session : Session} {state served reaped : σ}

/-- A wait for one process, which has not been asked for yet. -/
def lone (pid : Pid) (session : Session) (state : σ) : Wait σ :=
  start { leader := pid, others := [] } session state

/-- A round in which the process is still running. -/
theorem run_of_alive (halive : kernel.poll pid state = (.ok .alive, state))
    (hserve : session.serviceSignals kernel (kernel.sleep state) = (.quiet, session, served))
    (last : Pid) (turns : Nat) :
    (lone pid session state).run kernel last (turns + 2) =
      (lone pid session served).run kernel last turns := by
  simp [lone, start, Launch.Job.pids, run, turn, halive, hserve]

/-- A round in which the process has ended. -/
theorem run_of_exited {code : Int}
    (hended : kernel.poll pid state = (.ok (.exited code), reaped)) (turns : Nat) :
    (lone pid session state).run kernel pid (turns + 2) =
      some (.proceed code, session, reaped) := by
  simp [lone, start, Launch.Job.pids, run, turn, hended, WaitStatus.exitStatus]

end Wait

theorem Recorder.wakeups_record_le (recorder : Recorder) (signal : Signal) :
    (recorder.record signal).wakeups ≤ recorder.wakeups + 1 := by
  have hnote : (recorder.note signal).wakeups = recorder.wakeups := by cases signal <;> rfl
  rw [record, wake, ← hnote]
  split
  · exact Nat.le_refl _
  · exact Nat.le_succ _

namespace Machine

/-- The machine when the pipe has been emptied. -/
def emptied (machine : Machine) : Machine :=
  { machine with recorder := { machine.recorder with wakeups := 0 } }

theorem emptied_eq_self {machine : Machine} (hwakeups : machine.recorder.wakeups = 0) :
    machine.emptied = machine := by
  rw [emptied, ← hwakeups]

theorem drain_eq_emptied (account : Account) {limit : Nat} {machine : Machine}
    (hlimit : machine.recorder.wakeups < limit * Recorder.readSize) :
    (kernel account).drain limit machine = machine.emptied := by
  induction limit generalizing machine with
  | zero => simp at hlimit
  | succ limit ih =>
      have hread : (kernel account).readWakeups machine =
        (min machine.recorder.wakeups Recorder.readSize,
          { machine with recorder := machine.recorder.readWakeups.2 }) := rfl
      simp only [Collector.drain, hread]
      by_cases hshort : machine.recorder.wakeups < Recorder.readSize
      · rw [if_pos (by omega)]
        simp only [emptied, Recorder.readWakeups, Nat.min_eq_left (Nat.le_of_lt hshort),
          Nat.sub_self]
      · rw [if_neg (by omega)]
        refine ih ?_
        simp only [Recorder.readWakeups, Nat.succ_mul] at hlimit ⊢
        omega

/-- Where nothing has been recorded, serving signals empties the pipe. -/
theorem serviceSignals_of_unnoted (account : Account) (session : Session) {machine : Machine}
    (hunnoted : machine.recorder.tally = { alarmed := false, quits := 0, interrupted := false })
    (hwakeups : machine.recorder.wakeups ≤ pipeCapacity) :
    session.serviceSignals (kernel account) machine = (.quiet, session, machine.emptied) := by
  have hpatience : pipeCapacity < sessionPatience * Recorder.readSize := by decide
  have hdrained : (kernel account).drain sessionPatience machine = machine.emptied :=
    drain_eq_emptied account (Nat.lt_of_le_of_lt hwakeups hpatience)
  have htaken : (kernel account).takePending sessionPatience machine = ([], machine.emptied) := by
    rw [Collector.takePending, hdrained]
    obtain ⟨files, opened, pipes, members, shell, nextPid, clock, alarm, recorder⟩ := machine
    obtain ⟨quits, alarmed, interrupted, wakeups, capacity⟩ := recorder
    simp only [Recorder.tally, Tally.mk.injEq] at hunnoted
    obtain ⟨rfl, rfl, rfl⟩ := hunnoted
    rfl
  have hserved : session.serviceSignals (kernel account) machine =
      session.serveAll (kernel account) ((kernel account).takePending sessionPatience machine).1
        .quiet ((kernel account).takePending sessionPatience machine).2 := rfl
  rw [hserved, htaken]
  rfl

section Poll

variable {machine : Machine} {member : Member}

theorem children_beside (hunused : machine.Unused member.pid)
    (hparent : member.identity.parent = machine.shell.pid) (hpositive : 0 < member.pid) :
    (machine.beside member).children machine.shell.identity member.pid = [member] := by
  have hothers : machine.members.filter (fun other =>
      other.identity.parent = machine.shell.identity.pid && decide (other.pid = member.pid)) =
        [] := by
    simpa using fun other hother _ => hunused.members other hother
  simp [children, beside, hpositive, hothers]
  exact hparent

theorem askFor_beside (hunused : machine.Unused member.pid)
    (hparent : member.identity.parent = machine.shell.pid) (hpositive : 0 < member.pid) :
    (machine.beside member).askFor machine.shell.identity member.pid =
      if member.hasEnded then
        ((match member.activity with
            | .ended status => .ok status
            | _ => .ok .alive),
          { machine with nextPid := machine.nextPid + 1 })
      else (.ok .alive, machine.beside member) := by
  have hpossible : isImpossiblePid member.pid = false := by
    rw [isImpossiblePid, decide_eq_false_iff_not]
    exact Int.not_le.mpr (Int.lt_trans (by decide) hpositive)
  simp only [askFor, hpossible, children_beside hunused hparent hpositive]
  cases hended : member.hasEnded with
  | false => simp [hended]
  | true =>
      cases hactivity : member.activity with
      | ended status => simpa [hended, hactivity, beside] using hunused.members
      | ready behavior => simp [Member.hasEnded, hactivity] at hended
      | sleeping time behavior => simp [Member.hasEnded, hactivity] at hended

theorem poll_of_ready {behavior : Behavior} (hunused : machine.Unused member.pid)
    (hparent : member.identity.parent = machine.shell.pid) (hpositive : 0 < member.pid)
    (hready : member.activity = .ready behavior) :
    (machine.beside member).poll member.pid = (.ok .alive, machine.beside member) := by
  have hanswer := askFor_beside hunused hparent hpositive
  rw [if_neg (by simp [Member.hasEnded, hready])] at hanswer
  simp only [poll, show (machine.beside member).shell = machine.shell from rfl, hanswer]

/-- A process that has exited is forgotten, but its number is not used again. -/
theorem poll_of_exited {code : Int} (hunused : machine.Unused member.pid)
    (hparent : member.identity.parent = machine.shell.pid) (hpositive : 0 < member.pid)
    (hended : member.activity = .ended (.exited code)) :
    (machine.beside member).poll member.pid =
      (.ok (.exited code), { machine with nextPid := machine.nextPid + 1 }) := by
  have hanswer := askFor_beside hunused hparent hpositive
  rw [if_pos (by simp [Member.hasEnded, hended]), hended] at hanswer
  simp only [poll, show (machine.beside member).shell = machine.shell from rfl, hanswer]

end Poll

/-! ## A process that fails -/

theorem print_recorder (machine : Machine) (recorder : Recorder) (descriptor : Descriptor)
    (bytes : Bytes) :
    print { machine with recorder } descriptor bytes =
      ((machine.print descriptor bytes).1,
        { (machine.print descriptor bytes).2 with recorder }) := by
  have hwrite : writeTo { machine with recorder } machine.shell descriptor bytes =
      (machine.writeTo machine.shell descriptor bytes).map fun written =>
        (written.1, { written.2 with recorder }) := by
    have hopen : openFile? { machine with recorder } machine.shell descriptor =
        machine.openFile? machine.shell descriptor := rfl
    have hheld : ∀ target, isHeld { machine with recorder } target = machine.isHeld target :=
      fun _ => rfl
    simp only [writeTo, hopen, hheld]
    repeat' split
    all_goals rfl
  simp only [print, hwrite]
  rcases machine.writeTo machine.shell descriptor bytes with - | ⟨answer, written⟩
  · rfl
  · rcases answer with errno | count
    · cases errno <;> rfl
    · rfl

theorem emptied_print (machine : Machine) (descriptor : Descriptor) (bytes : Bytes) :
    (machine.emptied.print descriptor bytes).2 = (machine.print descriptor bytes).2.emptied := by
  rw [emptied, print_recorder, emptied, (machine.prints_print descriptor bytes).recorder]

theorem emptied_noteSignal_child (machine : Machine) :
    (machine.noteSignal .child).emptied = machine.emptied := by
  simp [emptied, noteSignal, Recorder.quits_record, Recorder.alarmed_record,
    Recorder.interrupted_record]

/-- Nothing goes on but what the shell does: all processes have to wait, and no signal has
been recorded.  A byte can be written to the pipe and all of it be read, and reports go to
no pipe. -/
structure Quiet (machine : Machine) : Prop where
  waits : ∀ member ∈ machine.members, machine.step member = none
  apart : ∀ member ∈ machine.members, machine.shell.pid ≠ member.pid
  unnoted : machine.recorder.tally = { alarmed := false, quits := 0, interrupted := false }
  capacity : 0 < machine.recorder.capacity
  wakeups : machine.recorder.wakeups ≤ pipeCapacity
  positive : 0 < machine.nextPid
  errors : machine.Unpiped Action.errors

/-- The machine when the newest process has been forgotten. -/
def forgotten (machine : Machine) : Machine :=
  { machine with nextPid := machine.nextPid + 1 }

section Failing

variable {account : Account} {machine opened : Machine} {command : Command} {fault : Fault}

/-- The output target leads where it does whatever is in the pipe. -/
theorem not_borrows_emptied (hborrows : ¬ machine.Borrows command) :
    ¬ machine.emptied.Borrows command :=
  hborrows

/-- The shell sleeps until the process has failed.  By then there is a byte in the pipe. -/
theorem sleep_of_fault (hquiet : machine.Quiet) (hborrows : ¬ machine.Borrows command)
    (hunused : machine.Unused machine.nextPid) (environment : Environment)
    (hopen : (kernel account).openTargets command.targets machine = (.error fault, opened)) :
    let reported := (opened.print Action.errors (Text.encode (report fault.message))).2
    ∃ ended : Member, ended.pid = machine.nextPid ∧
      ended.identity.parent = machine.shell.pid ∧ ended.activity = .ended (.exited 1) ∧
      (kernel account).sleep
          (machine.emptied.beside (machine.newcomer environment (loneChild command))) =
        (reported.emptied.noteSignal .child).beside ended := by
  intro reported
  have hopened := opened_openTargets account command.targets machine
  rw [hopen] at hopened
  have hemptied : (kernel account).openTargets command.targets machine.emptied =
      (.error fault, opened.emptied) := by
    rw [emptied, openTargets_recorder, hopen, emptied, hopened.recorder]
  have hstop : ∀ after : Machine, after.recorder = machine.emptied.recorder →
      after.isAwake = false := by
    intro after hafter
    simp [isAwake, hafter, emptied]
  have hunused : machine.emptied.Unused machine.emptied.nextPid := ⟨hunused.shell, hunused.members⟩
  obtain ⟨calls, ended, -, hlength, hpid, hparent, hended, hmakes⟩ :=
    makes_newcomer_of_fault environment (not_borrows_emptied hborrows) hunused hquiet.errors
      hstop hemptied
  rw [emptied_print] at hmakes
  have hcapacity : 0 < reported.emptied.recorder.capacity := by
    have hsame := hopened.sameProcesses_print Action.errors (Text.encode (report fault.message))
    exact (congrArg Recorder.capacity hsame.recorder) ▸ hquiet.capacity
  have hawake : ((reported.emptied.noteSignal .child).beside ended).isAwake = true :=
    decide_eq_true (Recorder.wakeups_record_pos _ _ hcapacity)
  have hothers : ∀ other ∈ machine.emptied.members,
      (machine.emptied.beside (machine.newcomer environment (loneChild command))).step other =
        none :=
    fun other hother => step_beside_of_waits (hquiet.waits other hother) (hquiet.apart other hother)
  exact ⟨ended, hpid, hparent, hended,
    runUntil_of_makes hothers hmakes hlength (hstop _ rfl) hawake (by decide)⟩

/-- When the shell has been woken by the end of a process, it forgets the process. -/
theorem run_of_woken {pid : Pid} {ended : Member} {code : Int} {started : Machine}
    (hunused : machine.Unused pid) (hpositive : 0 < pid) (hpid : ended.pid = pid)
    (hparent : ended.identity.parent = machine.shell.pid)
    (hended : ended.activity = .ended (.exited code))
    (hunnoted : machine.recorder.tally = { alarmed := false, quits := 0, interrupted := false })
    (halive : (kernel account).poll pid started = (.ok .alive, started))
    (hsleep : (kernel account).sleep started = (machine.emptied.noteSignal .child).beside ended)
    (session : Session) {turns : Nat} (hturns : 4 ≤ turns) :
    (Wait.lone pid session started).run (kernel account) pid turns =
      some (.proceed code, session, machine.emptied.forgotten) := by
  obtain ⟨turns, rfl⟩ := Nat.exists_eq_add_of_le' hturns
  subst hpid
  let woken := (machine.emptied.noteSignal .child).beside ended
  have hquiet : woken.recorder.tally =
      { alarmed := false, quits := 0, interrupted := false } := by
    have htally : woken.recorder.tally = machine.recorder.tally.more [.child] :=
      machine.emptied.recorder.tally_record .child
    rw [htally, hunnoted]
    rfl
  have hwakeups : woken.recorder.wakeups ≤ pipeCapacity := by
    have hone : woken.recorder.wakeups ≤ 1 := Recorder.wakeups_record_le _ _
    exact Nat.le_trans hone (by decide)
  have hserve : session.serviceSignals (kernel account) ((kernel account).sleep started) =
      (.quiet, session, machine.emptied.beside ended) := by
    rw [hsleep, serviceSignals_of_unnoted account session hquiet hwakeups]
    exact congrArg (fun emptied => (Serviced.quiet, session, beside emptied ended))
      (emptied_noteSignal_child machine.emptied)
  have hemptied : machine.emptied.Unused ended.pid := ⟨hunused.shell, hunused.members⟩
  have hforgotten : (kernel account).poll ended.pid (machine.emptied.beside ended) =
      (.ok (.exited code), machine.emptied.forgotten) :=
    poll_of_exited hemptied hparent hpositive hended
  rw [Wait.run_of_alive halive hserve, Wait.run_of_exited hforgotten]

/-- A process that cannot use a target leaves status one and its report. -/
theorem waitForeground_of_fault (hquiet : machine.Quiet) (hborrows : ¬ machine.Borrows command)
    (hunused : machine.Unused machine.nextPid) (environment : Environment)
    (hopen : (kernel account).openTargets command.targets machine = (.error fault, opened))
    (session : Session) :
    let reported := (opened.print Action.errors (Text.encode (report fault.message))).2
    session.waitForeground (kernel account) { leader := machine.nextPid, others := [] }
        (machine.beside (machine.newcomer environment (loneChild command))) =
      some (.proceed 1, session, reported.emptied.forgotten) := by
  intro reported
  obtain ⟨ended, hpid, hparent, hended, hsleep⟩ :=
    sleep_of_fault hquiet hborrows hunused environment hopen
  have hopened := opened_openTargets account command.targets machine
  rw [hopen] at hopened
  have hsame := hopened.sameProcesses_print Action.errors (Text.encode (report fault.message))
  let member := machine.newcomer environment (loneChild command)
  let started := machine.beside member
  have hmember : machine.Unused member.pid := hunused
  have hemptied : machine.emptied.Unused member.pid := ⟨hunused.shell, hunused.members⟩
  have halive : (kernel account).poll machine.nextPid started = (.ok .alive, started) :=
    poll_of_ready hmember rfl hquiet.positive rfl
  have hstill : (kernel account).poll machine.nextPid started.emptied =
      (.ok .alive, started.emptied) :=
    poll_of_ready hemptied rfl hquiet.positive rfl
  have hends {turns : Nat} (hturns : 4 ≤ turns) :
      (Wait.lone machine.nextPid session started.emptied).run (kernel account) machine.nextPid
          turns = some (.proceed 1, session, reported.emptied.forgotten) :=
    run_of_woken (hsame.unused hunused) hquiet.positive hpid
      (hparent.trans (congrArg Member.pid hsame.shell.symm)) hended
      ((congrArg Recorder.tally hsame.recorder).trans hquiet.unnoted) hstill hsleep session hturns
  by_cases hawake : machine.isAwake = true
  · -- Earlier bytes end the first sleep at once.
    have hsleepless : (kernel account).sleep started = started :=
      started.runUntil_of_stopped isAwake roundLimit hawake
    have hserve : session.serviceSignals (kernel account) ((kernel account).sleep started) =
        (.quiet, session, started.emptied) := by
      rw [hsleepless]
      exact serviceSignals_of_unnoted account session hquiet.unnoted hquiet.wakeups
    calc session.waitForeground (kernel account) { leader := machine.nextPid, others := [] } started
      _ = (Wait.lone machine.nextPid session started.emptied).run (kernel account)
            machine.nextPid (sessionPatience - 2) :=
          Wait.run_of_alive halive hserve _ (sessionPatience - 2)
      _ = some (.proceed 1, session, reported.emptied.forgotten) := hends (by decide)
  · have hempty : machine.recorder.wakeups = 0 := by simpa [isAwake] using hawake
    have hstarted : started.emptied = started := emptied_eq_self hempty
    have hpatience : 4 ≤ sessionPatience := by decide
    have hends := hends hpatience
    rw [hstarted] at hends
    exact hends

end Failing

end Machine

end JobShell
