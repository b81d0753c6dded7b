/-!
# Words

A word as it was typed, before variables and the home directory are filled in.
It is a list of components; a literal never stands next to a literal, so
the different ways of quoting one text give one word.

Expansion is written once, over any monad in which names are looked up.  The
pure expansion and the list of names that it asks for are both instances of it.
-/

namespace JobShell

inductive Component where
  | literal (text : String)
  /-- A variable by its name. -/
  | reference (name : String)
  /-- The user's home directory. -/
  | home
  deriving DecidableEq, Repr, Inhabited

structure Word where
  components : List Component
  deriving DecidableEq, Repr, Inhabited

/-- Values for names, and the home directory on record for the user, which
stands in for `HOME` when that has no value. -/
structure Bindings where
  lookup : String → Option String
  accountHome : Option String

namespace Component

/-- Puts a component before others; a literal joins a literal that follows it. -/
def prepend : Component → List Component → List Component
  | .literal text, .literal next :: rest => .literal (text ++ next) :: rest
  | component, rest => component :: rest

/-- The text that a component stands for, with names looked up by `lookup`. -/
def expandM {m : Type → Type} [Monad m] (lookup : String → m (Option String))
    (accountHome : Option String) : Component → m String
  | .literal text => pure text
  | .reference name => do
      let value ← lookup name
      pure (value.getD "")
  | .home => do
      let value ← lookup "HOME"
      pure ((value.or accountHome).getD "")

def expand (bindings : Bindings) (component : Component) : String :=
  Id.run (component.expandM (fun name => pure (bindings.lookup name)) bindings.accountHome)

/-- The form in which a component is shown: every reference has its braces. -/
def display : Component → String
  | .literal text => text
  | .reference name => "$\x7b" ++ name ++ "\x7d"
  | .home => "~"

end Component

namespace Word

def ofComponents (components : List Component) : Word :=
  ⟨components.foldr Component.prepend []⟩

def literal (text : String) : Word :=
  ⟨[.literal text]⟩

/-- The texts of a word's components, one after the other. -/
def expandM {m : Type → Type} [Monad m] (lookup : String → m (Option String))
    (accountHome : Option String) (word : Word) : m String :=
  go word.components
where
  go : List Component → m String
    | [] => pure ""
    | component :: rest => do
        let text ← component.expandM lookup accountHome
        let tail ← go rest
        pure (text ++ tail)

def expand (bindings : Bindings) (word : Word) : String :=
  Id.run (word.expandM (fun name => pure (bindings.lookup name)) bindings.accountHome)

/-- The names that expansion looks up, in order. -/
def asks (bindings : Bindings) (word : Word) : List String :=
  let lookup (name : String) : StateM (List String) (Option String) := do
    modify (· ++ [name])
    pure (bindings.lookup name)
  ((word.expandM lookup bindings.accountHome).run []).2

def display (word : Word) : String :=
  String.join (word.components.map Component.display)

end Word

end JobShell
