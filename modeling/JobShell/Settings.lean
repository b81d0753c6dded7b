import JobShell.Duration
import JobShell.Environment
import JobShell.Text.Blank

/-!
# Settings of a session

They are read once, before the first line.  The init script is named by a variable
or found in the home directory; only a script that was named has to exist.
-/

namespace JobShell

structure Settings where
  /-- The script whose lines come before all input. -/
  initScript : Option String := none
  /-- Whether the script was named, so that its absence is worth a report. -/
  initScriptNamed : Bool := false
  /-- Which of the shell's own records are kept. -/
  logFilter : String := "warn"
  interactive : Bool := false
  /-- How long a quit stays open for confirmation. -/
  quitTimeout : Duration := .ofSeconds 5
  deriving DecidableEq, Repr, Inhabited

namespace Settings

def initScriptVariable : String := "TURNIP_RC"

def logVariable : String := "TURNIP_LOG"

def initScriptName : String := ".turniprc"

/-- A file name below a directory; the empty directory adds nothing. -/
def joinPath (directory name : String) : String :=
  if directory = "" then name
  else if directory.toList.getLast? = some '/' then directory ++ name
  else directory ++ "/" ++ name

def withInitScript (settings : Settings) (lookup : String → Option String) : Settings :=
  match lookup initScriptVariable with
  | some path =>
      if path = "" then settings
      else { settings with initScript := some path, initScriptNamed := true }
  | none =>
      { settings with
        initScript := (lookup "HOME").map fun home => joinPath home initScriptName }

def withLogFilter (settings : Settings) (lookup : String → Option String) : Settings :=
  match (lookup logVariable).map Text.trim with
  | some directives =>
      if directives = "" then settings else { settings with logFilter := directives }
  | none => settings

/-- Settings from the values of variables. -/
def ofLookup (lookup : String → Option String) (interactive : Bool) : Settings :=
  (({ interactive } : Settings).withInitScript lookup).withLogFilter lookup

end Settings

end JobShell
