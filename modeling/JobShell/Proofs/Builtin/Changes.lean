import JobShell.Machine.System
import JobShell.Proofs.Environment.Variables

/-!
# What builtins change

A builtin that fails has changed nothing, however far it had come and whatever it had
printed by then.  One that succeeds has changed what it is for: a variable, or the working
directory with the two variables that record it.
-/

namespace JobShell

/-! ## Directories -/

namespace Machine

/-- The machine with its shell in another directory. -/
def inDirectory (machine : Machine) (directory : Inode) : Machine :=
  { machine with shell := { machine.shell with directory } }

theorem enter_of_ok (account : Account) {machine : Machine} {path : Bytes} {directory : Inode}
    (hfiles : machine.files.enter machine.shell.directory path = .ok directory) :
    (kernel account).enter path machine = (.ok (), machine.inDirectory directory) := by
  simp only [kernel, hfiles]
  rfl

theorem enter_of_error (account : Account) {machine : Machine} {path : Bytes} {errno : Errno}
    (hfiles : machine.files.enter machine.shell.directory path = .error errno) :
    (kernel account).enter path machine = (.error errno, machine) := by
  simp only [kernel, hfiles]

/-- A machine for builtins to run on, with a writer of any kind in the place of the shell's
standard output. -/
def hostWith {ω : Type} (account : Account)
    (write : Bytes → ω → Except StreamFailure Unit × ω) : Builtin.Host (Machine × ω) where
  account
  enter path state :=
    let (answer, machine) := (kernel account).enter path state.1
    (answer, machine, state.2)
  directory state := (kernel account).directory state.1
  print bytes state :=
    let (answer, writer) := write bytes state.2
    (answer, state.1, writer)

end Machine

namespace Builtin

variable {σ : Type}

/-! ## The course of a builtin -/

/-- The environment after a change of directory, with the directories before and after it. -/
def recordMove (previous current : Except Errno Bytes) (environment : Environment) :
    Environment :=
  recordDirectory "PWD" current (recordDirectory "OLDPWD" previous environment)

/-- `cd` fails without a target, or at one that cannot be entered; otherwise it enters its
target and then records the move. -/
theorem runCd_cases (host : Host σ) (arguments : List String) (environment : Environment)
    (state : σ) :
    (∃ fault, cdTarget host.account environment arguments = .error fault ∧
      runCd host arguments environment state = (.error fault, environment, state)) ∨
    ∃ target, cdTarget host.account environment arguments = .ok target ∧
      ((∃ errno left, host.enter target state = (.error errno, left) ∧
          runCd host arguments environment state =
            (.error (.resource target errno), environment, left)) ∨
        ∃ entered, host.enter target state = (.ok (), entered) ∧
          runCd host arguments environment state =
            (.ok (), recordMove (host.directory state) (host.directory entered) environment,
              entered)) := by
  rw [runCd]
  cases htarget : cdTarget host.account environment arguments with
  | error fault => exact .inl ⟨fault, rfl, rfl⟩
  | ok target =>
      refine .inr ⟨target, rfl, ?_⟩
      rcases henter : host.enter target state with ⟨errno | _, left⟩
      · exact .inl ⟨errno, left, rfl, by simp only [henter]⟩
      · exact .inr ⟨left, rfl, by simp only [henter, recordMove]⟩

theorem sameBut_recordDirectory (environment : Environment) {names : List String}
    {name : String} (hname : name ∈ names) (directory : Except Errno Bytes) :
    environment.SameBut names (recordDirectory name directory environment) := by
  cases directory with
  | ok path => exact environment.sameBut_set hname path
  | error errno => exact .refl names environment

theorem sameBut_recordMove (previous current : Except Errno Bytes) (environment : Environment) :
    environment.SameBut ["PWD", "OLDPWD"] (recordMove previous current environment) :=
  (sameBut_recordDirectory environment (by simp) previous).trans
    (sameBut_recordDirectory _ (by simp) current)

/-- A variable that can be set has its value then, and all others are left alone. -/
theorem changed_setVariable {name value : String} {environment after : Environment}
    (hset : setVariable name value environment = .ok after) :
    after.get? name = some (Text.encode value) ∧ environment.SameBut [name] after := by
  rw [setVariable] at hset
  split at hset
  · cases hset
  · split at hset
    · cases hset
    · cases hset
      exact ⟨environment.get?_set_self name _, environment.sameBut_set List.mem_cons_self _⟩

/-! ## Atomicity -/

/-- The arguments with which `setenv` sets a variable; one without a value becomes empty. -/
inductive SetArguments : List String → String → String → Prop where
  | empty (name : String) : SetArguments [name] name ""
  | value (name value : String) : SetArguments [name, value] name value

/-- What a builtin that succeeds with some arguments has changed of the environment and the
machine. -/
inductive Changes (account : Account) (environment : Environment) (machine : Machine) :
    Builtin → List String → Environment → Machine → Prop where
  | enters {arguments : List String} {target : Bytes} {directory : Machine.Inode}
      {after : Environment} (htarget : cdTarget account environment arguments = .ok target)
      (henter : machine.files.enter machine.shell.directory target = .ok directory)
      (hsame : environment.SameBut ["PWD", "OLDPWD"] after) :
      Changes account environment machine .cd arguments after (machine.inDirectory directory)
  | lists : Changes account environment machine .setenv [] environment machine
  | sets {arguments : List String} {name value : String} {after : Environment}
      (harguments : SetArguments arguments name value)
      (hvalue : after.get? name = some (Text.encode value))
      (hsame : environment.SameBut [name] after) :
      Changes account environment machine .setenv arguments after machine
  | removes {name : String} {after : Environment} (hvalue : after.get? name = none)
      (hsame : environment.SameBut [name] after) :
      Changes account environment machine .unsetenv [name] after machine
  | exits {arguments : List String} :
      Changes account environment machine .exit arguments environment machine

/-- What a run of a builtin comes to: a fault with nothing changed, or success with a change
that is all of it. -/
inductive Atomic {ω : Type} (account : Account) (environment : Environment) (machine : Machine)
    (builtin : Builtin) (arguments : List String) :
    Except Fault Outcome × Environment × Machine × ω → Prop where
  | fails (fault : Fault) (printed : ω) :
      Atomic account environment machine builtin arguments
        (.error fault, environment, machine, printed)
  | succeeds {after : Environment} {left : Machine} (outcome : Outcome) (printed : ω)
      (hchanges : Changes account environment machine builtin arguments after left) :
      Atomic account environment machine builtin arguments (.ok outcome, after, left, printed)

section

variable {ω : Type} (account : Account) (write : Bytes → ω → Except StreamFailure Unit × ω)
  (arguments : List String) (environment : Environment) (machine : Machine) (writer : ω)

theorem enter_hostWith (target : Bytes) :
    (∃ errno, (Machine.hostWith account write).enter target (machine, writer) =
      (.error errno, machine, writer)) ∨
    ∃ directory, machine.files.enter machine.shell.directory target = .ok directory ∧
      (Machine.hostWith account write).enter target (machine, writer) =
        (.ok (), machine.inDirectory directory, writer) := by
  cases hfiles : machine.files.enter machine.shell.directory target with
  | error errno =>
      exact .inl ⟨errno, by simp only [Machine.hostWith, Machine.enter_of_error account hfiles]⟩
  | ok directory =>
      exact .inr ⟨directory, rfl,
        by simp only [Machine.hostWith, Machine.enter_of_ok account hfiles]⟩

theorem atomic_cd :
    Atomic account environment machine .cd arguments
      (cd.run (Machine.hostWith account write) arguments environment (machine, writer)) := by
  obtain ⟨fault, -, hrun⟩ | ⟨target, htarget, hrun⟩ :=
    runCd_cases (Machine.hostWith account write) arguments environment (machine, writer)
  · simp only [run, hrun]
    exact .fails fault writer
  · obtain ⟨errno, hrefused⟩ | ⟨directory, hfiles, hentered⟩ :=
      enter_hostWith account write machine writer target
    · obtain ⟨errno, left, henter, hrun⟩ | ⟨entered, henter, -⟩ := hrun
      · cases hrefused.symm.trans henter
        simp only [run, hrun]
        exact .fails _ writer
      · cases hrefused.symm.trans henter
    · obtain ⟨errno, left, henter, -⟩ | ⟨entered, henter, hrun⟩ := hrun
      · cases hentered.symm.trans henter
      · cases hentered.symm.trans henter
        simp only [run, hrun]
        exact .succeeds _ writer (.enters htarget hfiles (sameBut_recordMove _ _ environment))

/-- What is printed goes to the writer and nowhere else. -/
theorem machine_printAll (texts : List Bytes) :
    (printAll (Machine.hostWith account write) texts (machine, writer)).2.1 = machine := by
  induction texts generalizing writer with
  | nil => rfl
  | cons text rest ih =>
      rw [printAll]
      rcases hwrite : write text writer with ⟨failure | _, left⟩
      · simp only [Machine.hostWith, hwrite]
      · simp only [Machine.hostWith, hwrite]
        exact ih left

theorem atomic_list :
    Atomic account environment machine .setenv []
      (setenv.run (Machine.hostWith account write) [] environment (machine, writer)) := by
  have hmachine := machine_printAll account write machine writer
    (environment.entries.map listing)
  rw [run, runSetenv]
  generalize printAll _ _ _ = printed at hmachine ⊢
  obtain ⟨failure | _, left, _⟩ := printed
  all_goals obtain rfl : left = machine := hmachine
  · exact .fails _ _
  · exact .succeeds _ _ .lists

theorem atomic_set {name value : String} (harguments : SetArguments arguments name value) :
    Atomic account environment machine .setenv arguments
      (setenv.run (Machine.hostWith account write) arguments environment (machine, writer)) := by
  cases hvariable : setVariable name value environment with
  | error fault =>
      have hrun : runSetenv (Machine.hostWith account write) arguments environment
          (machine, writer) = (.error fault, environment, machine, writer) := by
        cases harguments <;> simp only [runSetenv, hvariable]
      rw [run, hrun]
      exact .fails fault writer
  | ok after =>
      obtain ⟨hvalue, hsame⟩ := changed_setVariable hvariable
      have hrun : runSetenv (Machine.hostWith account write) arguments environment
          (machine, writer) = (.ok (), after, machine, writer) := by
        cases harguments <;> simp only [runSetenv, hvariable]
      rw [run, hrun]
      exact .succeeds _ writer (.sets harguments hvalue hsame)

/-- A builtin that fails leaves the environment and the machine exactly as they were, its
working directory included; one that succeeds changes what it is for.  This holds for every
writer, of which nothing is known: it may fail at any time, after a part of a line too. -/
theorem run_atomic (builtin : Builtin) :
    Atomic account environment machine builtin arguments
      (builtin.run (Machine.hostWith account write) arguments environment (machine, writer)) := by
  cases builtin with
  | cd => exact atomic_cd account write arguments environment machine writer
  | setenv =>
      match arguments with
      | [] => exact atomic_list account write environment machine writer
      | [name] => exact atomic_set account write _ environment machine writer (.empty name)
      | [name, value] =>
          exact atomic_set account write _ environment machine writer (.value name value)
      | _ :: _ :: _ :: _ => exact .fails _ writer
  | unsetenv =>
      match arguments with
      | [name] =>
          by_cases hname : isValidName name
          · simp only [run, runUnsetenv, hname, if_true]
            exact .succeeds _ writer
              (.removes (environment.get?_unset_self name) (environment.sameBut_unset name))
          · simp only [run, runUnsetenv, hname, if_false, Bool.false_eq_true]
            exact .fails _ writer
      | [] => exact .fails _ writer
      | _ :: _ :: _ => exact .fails _ writer
  | exit =>
      rw [run]
      cases runExit arguments with
      | error fault => exact .fails fault writer
      | ok code => exact .succeeds _ writer .exits

end

end Builtin

end JobShell
