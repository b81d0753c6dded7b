import JobShell.Builtin
import JobShell.Proofs.Builtin.Changes
import JobShell.Proofs.Text.Encoding

/-!
# Changing variables within bounds

Setting and removing a variable are partial operations: there are names and values that no
environment can hold.  The builtins are written here once more with these operations
checked.  Whatever arguments they are given they stay within bounds, because names and
values are looked at before they are used, and because the path of a directory is what the
system says it is.
-/

namespace JobShell

/-- How an operation can be used outside its domain. -/
inductive Misuse where
  /-- An index beyond the end of a list. -/
  | index
  /-- A variable that no environment can hold. -/
  | variable
  deriving DecidableEq, Repr

namespace Environment

/-- A text that can be the name of a variable. -/
structure IsName (name : String) : Prop where
  nonempty : name ≠ ""
  unequal : '=' ∉ name.toList
  unterminated : '\x00' ∉ name.toList

/-- A variable with a value that programs can inherit. -/
structure IsVariable (entry : String × Bytes) : Prop where
  name : IsName entry.1
  value : 0 ∉ entry.2

theorem isValidName_iff (name : String) : Builtin.isValidName name ↔ IsName name := by
  simp only [Builtin.isValidName, ne_eq, decide_not, Bool.and_eq_true, Bool.not_eq_true',
    decide_eq_false_iff_not, List.contains_eq_mem]
  constructor
  · rintro ⟨⟨hnonempty, hunequal⟩, hunterminated⟩
    exact ⟨hnonempty, hunequal, hunterminated⟩
  · intro hname
    exact ⟨⟨hname.nonempty, hname.unequal⟩, hname.unterminated⟩

/-- What `setenv` has looked at is a variable. -/
theorem isVariable_of_valid {name value : String} (hname : Builtin.isValidName name)
    (hvalue : value.toList.contains '\x00' = false) : IsVariable (name, Text.encode value) where
  name := (isValidName_iff name).mp hname
  value := Text.zero_notMem_encode (by simpa using hvalue)

instance (name : String) : Decidable (IsName name) :=
  decidable_of_iff _ (isValidName_iff name)

instance (entry : String × Bytes) : Decidable (IsVariable entry) :=
  decidable_of_iff (IsName entry.1 ∧ 0 ∉ entry.2)
    ⟨fun hentry => ⟨hentry.1, hentry.2⟩, fun hentry => ⟨hentry.name, hentry.value⟩⟩

/-! ## What an environment acquires -/

/-- Whatever an environment holds that it did not hold before is a variable. -/
def Acquires (before after : Environment) : Prop :=
  ∀ entry ∈ after.entries, entry ∈ before.entries ∨ IsVariable entry

namespace Acquires

theorem refl (environment : Environment) : environment.Acquires environment :=
  fun _ hentry => .inl hentry

theorem trans {first second third : Environment} (hfirst : first.Acquires second)
    (hsecond : second.Acquires third) : first.Acquires third := by
  intro entry hentry
  rcases hsecond entry hentry with hearlier | hvariable
  · exact hfirst entry hearlier
  · exact .inr hvariable

end Acquires

theorem mem_set {environment : Environment} {name : String} {value : Bytes}
    {entry : String × Bytes} (hentry : entry ∈ (environment.set name value).entries) :
    entry ∈ environment.entries ∨ entry = (name, value) := by
  obtain ⟨entries⟩ := environment
  change entry ∈ setIn name value entries at hentry
  fun_induction setIn name value entries with
  | case1 => exact .inr (List.mem_singleton.mp hentry)
  | case2 old rest =>
      rcases List.mem_cons.mp hentry with hset | hother
      · exact .inr hset
      · exact .inl (List.mem_cons_of_mem _ hother)
  | case3 key old rest hkey ih =>
      rcases List.mem_cons.mp hentry with hfirst | hother
      · exact .inl (List.mem_cons.mpr (.inl hfirst))
      · exact (ih hother).imp_left (List.mem_cons_of_mem _)

theorem acquires_set {name : String} {value : Bytes} (hvariable : IsVariable (name, value))
    (environment : Environment) : environment.Acquires (environment.set name value) := by
  intro entry hentry
  rcases mem_set hentry with hearlier | rfl
  · exact .inl hearlier
  · exact .inr hvariable

theorem acquires_unset (environment : Environment) (name : String) :
    environment.Acquires (environment.unset name) :=
  fun _ hentry => .inl (List.mem_filter.mp hentry).1

end Environment

namespace Checked

variable {σ : Type}

/-! ## Checked operations -/

def set (environment : Environment) (name : String) (value : Bytes) :
    Except Misuse Environment :=
  if Environment.IsVariable (name, value) then .ok (environment.set name value)
  else .error .variable

def unset (environment : Environment) (name : String) : Except Misuse Environment :=
  if Environment.IsName name then .ok (environment.unset name) else .error .variable

def recordDirectory (name : String) (directory : Except Errno Bytes)
    (environment : Environment) : Except Misuse Environment :=
  match directory with
  | .ok path => set environment name path
  | .error _ => .ok environment

def runCd (host : Builtin.Host σ) (arguments : List String) (environment : Environment)
    (state : σ) : Except Misuse (Except Fault Unit × Environment × σ) :=
  match Builtin.cdTarget host.account environment arguments with
  | .error fault => .ok (.error fault, environment, state)
  | .ok target =>
      let previous := host.directory state
      match host.enter target state with
      | (.error errno, state) => .ok (.error (.resource target errno), environment, state)
      | (.ok (), state) => do
          let environment ← recordDirectory "OLDPWD" previous environment
          let environment ← recordDirectory "PWD" (host.directory state) environment
          pure (.ok (), environment, state)

def setVariable (name value : String) (environment : Environment) :
    Except Misuse (Except Fault Environment) :=
  if !Builtin.isValidName name then .ok (.error (Builtin.invalidName .setenv name))
  else if value.toList.contains '\x00' then .ok (.error (.invalidArgument value))
  else do
    let changed ← set environment name (Text.encode value)
    pure (.ok changed)

def runSetenv (host : Builtin.Host σ) (arguments : List String) (environment : Environment)
    (state : σ) : Except Misuse (Except Fault Unit × Environment × σ) :=
  let change (result : Except Fault Environment) : Except Fault Unit × Environment × σ :=
    match result with
    | .ok changed => (.ok (), changed, state)
    | .error fault => (.error fault, environment, state)
  match arguments with
  | [] =>
      let (result, state) := Builtin.printAll host (environment.entries.map Builtin.listing) state
      .ok (result, environment, state)
  | [name] => do
      let result ← setVariable name "" environment
      pure (change result)
  | [name, value] => do
      let result ← setVariable name value environment
      pure (change result)
  | _ => .ok (.error (.usage "setenv: too many arguments"), environment, state)

def runUnsetenv (arguments : List String) (environment : Environment) :
    Except Misuse (Except Fault Unit × Environment) :=
  match arguments with
  | [name] =>
      if Builtin.isValidName name then do
        let changed ← unset environment name
        pure (.ok (), changed)
      else .ok (.error (Builtin.invalidName .unsetenv name), environment)
  | [] => .ok (.error (.usage "unsetenv: missing variable name"), environment)
  | _ => .ok (.error (.usage "unsetenv: too many arguments"), environment)

def run (host : Builtin.Host σ) (builtin : Builtin) (arguments : List String)
    (environment : Environment) (state : σ) :
    Except Misuse (Except Fault Builtin.Outcome × Environment × σ) :=
  match builtin with
  | .cd => do
      let (result, environment, state) ← runCd host arguments environment state
      pure (result.map fun _ => .status 0, environment, state)
  | .setenv => do
      let (result, environment, state) ← runSetenv host arguments environment state
      pure (result.map fun _ => .status 0, environment, state)
  | .unsetenv => do
      let (result, environment) ← runUnsetenv arguments environment
      pure (result.map fun _ => .status 0, environment, state)
  | .exit => .ok ((Builtin.runExit arguments).map .exit, environment, state)

end Checked

/-- The path of the working directory ends at its first zero byte, so it has none. -/
def Builtin.Host.TellsPaths {σ : Type} (host : Builtin.Host σ) : Prop :=
  ∀ state path, host.directory state = .ok path → 0 ∉ path

namespace Checked

variable {σ : Type} {host : Builtin.Host σ}

/-- An operation that stays in its domain hands its result on. -/
theorem bind_of_ok {α β : Type} {operation : Except Misuse α} {result : α}
    (hoperation : operation = .ok result) (next : α → Except Misuse β) :
    operation >>= next = next result := by
  rw [hoperation]
  rfl

theorem set_eq {name : String} {value : Bytes} (hvariable : Environment.IsVariable (name, value))
    (environment : Environment) : set environment name value = .ok (environment.set name value) :=
  if_pos hvariable

theorem unset_eq {name : String} (hname : Environment.IsName name) (environment : Environment) :
    unset environment name = .ok (environment.unset name) :=
  if_pos hname

theorem recordDirectory_eq {name : String} (hname : Environment.IsName name)
    {directory : Except Errno Bytes} (hpath : ∀ path, directory = .ok path → 0 ∉ path)
    (environment : Environment) :
    recordDirectory name directory environment =
      .ok (Builtin.recordDirectory name directory environment) := by
  cases directory with
  | ok path => exact set_eq ⟨hname, hpath path rfl⟩ environment
  | error errno => rfl

theorem isName_oldpwd : Environment.IsName "OLDPWD" := by
  decide

theorem isName_pwd : Environment.IsName "PWD" := by
  decide

theorem runCd_eq (hpaths : host.TellsPaths) (arguments : List String) (environment : Environment)
    (state : σ) :
    runCd host arguments environment state =
      .ok (Builtin.runCd host arguments environment state) := by
  rw [runCd, Builtin.runCd]
  cases Builtin.cdTarget host.account environment arguments with
  | error fault => rfl
  | ok target =>
      dsimp only
      rcases host.enter target state with ⟨errno | _, entered⟩
      · rfl
      · dsimp only
        rw [bind_of_ok (recordDirectory_eq isName_oldpwd (hpaths state) environment),
          bind_of_ok (recordDirectory_eq isName_pwd (hpaths entered) _)]
        rfl

theorem setVariable_eq (name value : String) (environment : Environment) :
    setVariable name value environment = .ok (Builtin.setVariable name value environment) := by
  rw [setVariable, Builtin.setVariable]
  cases hname : Builtin.isValidName name with
  | false => rfl
  | true =>
      cases hvalue : value.toList.contains '\x00' with
      | true => rfl
      | false =>
          exact bind_of_ok (set_eq (Environment.isVariable_of_valid hname hvalue) environment) _

theorem runSetenv_eq (host : Builtin.Host σ) (arguments : List String) (environment : Environment)
    (state : σ) :
    runSetenv host arguments environment state =
      .ok (Builtin.runSetenv host arguments environment state) := by
  match arguments with
  | [] => rfl
  | [name] => exact bind_of_ok (setVariable_eq name "" environment) _
  | [name, value] => exact bind_of_ok (setVariable_eq name value environment) _
  | _ :: _ :: _ :: _ => rfl

theorem runUnsetenv_eq (arguments : List String) (environment : Environment) :
    runUnsetenv arguments environment = .ok (Builtin.runUnsetenv arguments environment) := by
  match arguments with
  | [] => rfl
  | [name] =>
      simp only [runUnsetenv, Builtin.runUnsetenv]
      cases hname : Builtin.isValidName name with
      | false => rfl
      | true =>
          exact bind_of_ok (unset_eq ((Environment.isValidName_iff name).mp hname) environment) _
  | _ :: _ :: _ => rfl

/-- Builtins stay within bounds, whatever their arguments are. -/
theorem run_eq (hpaths : host.TellsPaths) (builtin : Builtin) (arguments : List String)
    (environment : Environment) (state : σ) :
    run host builtin arguments environment state =
      .ok (builtin.run host arguments environment state) := by
  cases builtin with
  | cd => exact bind_of_ok (runCd_eq hpaths arguments environment state) _
  | setenv => exact bind_of_ok (runSetenv_eq host arguments environment state) _
  | unsetenv => exact bind_of_ok (runUnsetenv_eq arguments environment) _
  | exit => rfl

end Checked

/-! ## What builtins add to an environment -/

namespace Builtin

variable {σ : Type} {host : Host σ}

theorem acquires_recordDirectory {name : String} (hname : Environment.IsName name)
    {directory : Except Errno Bytes} (hpath : ∀ path, directory = .ok path → 0 ∉ path)
    (environment : Environment) :
    environment.Acquires (recordDirectory name directory environment) := by
  cases directory with
  | ok path => exact environment.acquires_set ⟨hname, hpath path rfl⟩
  | error errno => exact .refl environment

theorem acquires_runCd (hpaths : host.TellsPaths) (arguments : List String)
    (environment : Environment) (state : σ) :
    environment.Acquires (runCd host arguments environment state).2.1 := by
  obtain ⟨fault, -, hfailed⟩ | ⟨target, -, ⟨errno, left, -, hfailed⟩ | ⟨entered, -, hentered⟩⟩ :=
    runCd_cases host arguments environment state
  · rw [hfailed]
    exact .refl environment
  · rw [hfailed]
    exact .refl environment
  · rw [hentered]
    exact (acquires_recordDirectory Checked.isName_oldpwd (hpaths state) environment).trans
      (acquires_recordDirectory Checked.isName_pwd (hpaths entered) _)

theorem acquires_setVariable {name value : String} {environment changed : Environment}
    (hset : setVariable name value environment = .ok changed) : environment.Acquires changed := by
  rw [setVariable] at hset
  split at hset
  · cases hset
  · next hname =>
      split at hset
      · cases hset
      · next hvalue =>
          cases hset
          apply environment.acquires_set
          exact Environment.isVariable_of_valid (by simpa using hname) (by simpa using hvalue)

theorem acquires_runSetenv (host : Host σ) (arguments : List String) (environment : Environment)
    (state : σ) : environment.Acquires (runSetenv host arguments environment state).2.1 := by
  have hchange (name value : String) :
      environment.Acquires (match setVariable name value environment with
        | .ok changed => ((.ok (), changed, state) : Except Fault Unit × Environment × σ)
        | .error fault => (.error fault, environment, state)).2.1 := by
    cases hset : setVariable name value environment with
    | ok changed => exact acquires_setVariable hset
    | error fault => exact .refl environment
  match arguments with
  | [] => exact .refl environment
  | [name] => exact hchange name ""
  | [name, value] => exact hchange name value
  | _ :: _ :: _ :: _ => exact .refl environment

theorem acquires_runUnsetenv (arguments : List String) (environment : Environment) :
    environment.Acquires (runUnsetenv arguments environment).2 := by
  match arguments with
  | [] => exact .refl environment
  | [name] =>
      simp only [runUnsetenv]
      split
      · exact environment.acquires_unset name
      · exact .refl environment
  | _ :: _ :: _ => exact .refl environment

/-- Builtins add nothing to an environment but variables. -/
theorem acquires_run (hpaths : host.TellsPaths) (builtin : Builtin) (arguments : List String)
    (environment : Environment) (state : σ) :
    environment.Acquires (builtin.run host arguments environment state).2.1 := by
  cases builtin with
  | cd => exact acquires_runCd hpaths arguments environment state
  | setenv => exact acquires_runSetenv host arguments environment state
  | unsetenv => exact acquires_runUnsetenv arguments environment
  | exit => exact .refl environment

end Builtin

end JobShell
