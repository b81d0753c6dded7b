import JobShell.Environment
import JobShell.Fault
import JobShell.Text.Digits

/-!
# Builtins

The commands that run inside the shell because they change the shell itself: its
directory, its environment, or whether it goes on.  A builtin that fails has
changed nothing.
-/

namespace JobShell

inductive Builtin where
  | cd
  | setenv
  | unsetenv
  | exit
  deriving DecidableEq, Repr, Inhabited

namespace Builtin

def name : Builtin → String
  | .cd => "cd"
  | .setenv => "setenv"
  | .unsetenv => "unsetenv"
  | .exit => "exit"

def ofName? (name : String) : Option Builtin :=
  if name = "cd" then some .cd
  else if name = "setenv" then some .setenv
  else if name = "unsetenv" then some .unsetenv
  else if name = "exit" then some .exit
  else none

/-- Whether the session goes on after a builtin, and with which status. -/
inductive Outcome where
  | status (status : Int)
  | exit (code : Int)
  deriving DecidableEq, Repr, Inhabited

/-- What a builtin needs of the system. -/
structure Host (σ : Type) where
  account : Account
  /-- Changes the working directory. -/
  enter : Bytes → σ → Except Errno Unit × σ
  /-- The path of the working directory. -/
  directory : σ → Except Errno Bytes
  print : Bytes → σ → Except StreamFailure Unit × σ

variable {σ : Type}

/-- The directory that the arguments of `cd` name. -/
def cdTarget (account : Account) (environment : Environment) :
    List String → Except Fault Bytes
  | [] =>
      match (environment.get? "HOME").or account.home with
      | some home => .ok home
      | none => .error (.usage "cd: HOME not set")
  | [target] =>
      if target = "-" then
        match environment.get? "OLDPWD" with
        | some previous => .ok previous
        | none => .error (.usage "cd: OLDPWD not set")
      else .ok (Text.encode target)
  | _ => .error (.usage "cd: too many arguments")

/-- A directory that cannot be read leaves the variable for it as it was. -/
def recordDirectory (name : String) (directory : Except Errno Bytes)
    (environment : Environment) : Environment :=
  match directory with
  | .ok path => environment.set name path
  | .error _ => environment

def runCd (host : Host σ) (arguments : List String) (environment : Environment)
    (state : σ) : Except Fault Unit × Environment × σ :=
  match cdTarget host.account environment arguments with
  | .error fault => (.error fault, environment, state)
  | .ok target =>
      let previous := host.directory state
      match host.enter target state with
      | (.error errno, state) => (.error (.resource target errno), environment, state)
      | (.ok (), state) =>
          let environment := recordDirectory "OLDPWD" previous environment
          (.ok (), recordDirectory "PWD" (host.directory state) environment, state)

def isValidName (name : String) : Bool :=
  name ≠ "" && !name.toList.contains '=' && !name.toList.contains '\x00'

def invalidName (builtin : Builtin) (name : String) : Fault :=
  .usage (builtin.name ++ ": invalid variable name `" ++ name ++ "`")

def setVariable (name value : String) (environment : Environment) :
    Except Fault Environment :=
  if !isValidName name then .error (invalidName .setenv name)
  else if value.toList.contains '\x00' then .error (.invalidArgument value)
  else .ok (environment.set name (Text.encode value))

/-- A variable as it is listed. -/
def listing (entry : String × Bytes) : Bytes :=
  Text.encode (entry.1 ++ "=" ++ Text.lossy entry.2 ++ "\n")

def printAll (host : Host σ) : List Bytes → σ → Except Fault Unit × σ
  | [], state => (.ok (), state)
  | text :: rest, state =>
      match host.print text state with
      | (.error failure, state) => (.error (.stream failure), state)
      | (.ok (), state) => printAll host rest state

def runSetenv (host : Host σ) (arguments : List String) (environment : Environment)
    (state : σ) : Except Fault Unit × Environment × σ :=
  let change (result : Except Fault Environment) : Except Fault Unit × Environment × σ :=
    match result with
    | .ok changed => (.ok (), changed, state)
    | .error fault => (.error fault, environment, state)
  match arguments with
  | [] =>
      let (result, state) := printAll host (environment.entries.map listing) state
      (result, environment, state)
  | [name] => change (setVariable name "" environment)
  | [name, value] => change (setVariable name value environment)
  | _ => (.error (.usage "setenv: too many arguments"), environment, state)

def runUnsetenv (arguments : List String) (environment : Environment) :
    Except Fault Unit × Environment :=
  match arguments with
  | [name] =>
      if isValidName name then (.ok (), environment.unset name)
      else (.error (invalidName .unsetenv name), environment)
  | [] => (.error (.usage "unsetenv: missing variable name"), environment)
  | _ => (.error (.usage "unsetenv: too many arguments"), environment)

/-- A number with an optional sign, if it fits into 32 bits. -/
def exitCode? (text : String) : Option Int :=
  let value := match text.toList with
    | '-' :: digits => (Text.digitsValue? digits).map fun value => -(value : Int)
    | '+' :: digits => (Text.digitsValue? digits).map Int.ofNat
    | digits => (Text.digitsValue? digits).map Int.ofNat
  value.filter fun value => -2147483648 ≤ value && value ≤ 2147483647

def runExit : List String → Except Fault Int
  | [] => .ok 0
  | [code] =>
      match exitCode? code with
      | some value => .ok value
      | none => .error (.usage ("exit: " ++ code ++ ": numeric argument required"))
  | _ => .error (.usage "exit: too many arguments")

/-- Runs a builtin with the words after its name. -/
def run (host : Host σ) (builtin : Builtin) (arguments : List String)
    (environment : Environment) (state : σ) : Except Fault Outcome × Environment × σ :=
  match builtin with
  | .cd =>
      let (result, environment, state) := runCd host arguments environment state
      (result.map fun _ => .status 0, environment, state)
  | .setenv =>
      let (result, environment, state) := runSetenv host arguments environment state
      (result.map fun _ => .status 0, environment, state)
  | .unsetenv =>
      let (result, environment) := runUnsetenv arguments environment
      (result.map fun _ => .status 0, environment, state)
  | .exit => ((runExit arguments).map .exit, environment, state)

end Builtin

end JobShell
