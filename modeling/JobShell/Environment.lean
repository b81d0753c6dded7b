import JobShell.Text.Utf8
import JobShell.Word

/-!
# The environment

Variables in the order in which they were first set.  A value is a string of
bytes; one that is not text exists for programs, which inherit it, but has no
value as far as words are concerned.
-/

namespace JobShell

/-- The user on whose behalf the shell runs. -/
structure Account where
  name : Option String
  home : Option Bytes
  isSuperuser : Bool
  deriving DecidableEq, Repr, Inhabited

/-- The home directory on record, if it is text. -/
def Account.homeText (account : Account) : Option String :=
  account.home.bind Text.decode?

structure Environment where
  entries : List (String × Bytes) := []
  deriving DecidableEq, Repr, Inhabited

namespace Environment

def getFrom (name : String) : List (String × Bytes) → Option Bytes
  | [] => none
  | (key, value) :: rest => if key = name then some value else getFrom name rest

def get? (environment : Environment) (name : String) : Option Bytes :=
  getFrom name environment.entries

/-- The value of a variable, if it has one and it is text. -/
def text? (environment : Environment) (name : String) : Option String :=
  (environment.get? name).bind Text.decode?

/-- Replaces a value in its place; a new variable comes last. -/
def setIn (name : String) (value : Bytes) : List (String × Bytes) → List (String × Bytes)
  | [] => [(name, value)]
  | (key, old) :: rest =>
      if key = name then (name, value) :: rest else (key, old) :: setIn name value rest

def set (environment : Environment) (name : String) (value : Bytes) : Environment :=
  ⟨setIn name value environment.entries⟩

def unset (environment : Environment) (name : String) : Environment :=
  ⟨environment.entries.filter fun entry => entry.1 ≠ name⟩

/-- What words are expanded with. -/
def bindings (environment : Environment) (account : Account) : Bindings :=
  { lookup := environment.text?, accountHome := account.homeText }

end Environment

end JobShell
