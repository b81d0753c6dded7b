import JobShell.Environment

/-!
# Setting and removing variables

A variable that is set or removed leaves all others alone, their order included.  Two
environments that differ in some variables at most are the same without these.
-/

namespace JobShell.Environment

theorem get?_set (environment : Environment) (name other : String) (value : Bytes) :
    (environment.set name value).get? other =
      if other = name then some value else environment.get? other := by
  obtain ⟨entries⟩ := environment
  change getFrom other (setIn name value entries) = if _ then _ else getFrom other entries
  induction entries with
  | nil => simp [setIn, getFrom, eq_comm]
  | cons entry rest ih =>
      obtain ⟨key, old⟩ := entry
      by_cases hkey : key = name
      · subst hkey
        simp only [setIn, if_true, getFrom]
        grind
      · simp only [setIn, hkey, if_false, getFrom, ih]
        grind

@[simp]
theorem get?_set_self (environment : Environment) (name : String) (value : Bytes) :
    (environment.set name value).get? name = some value := by
  rw [get?_set, if_pos rfl]

theorem get?_set_of_ne (environment : Environment) {name other : String} (value : Bytes)
    (hne : other ≠ name) : (environment.set name value).get? other = environment.get? other := by
  rw [get?_set, if_neg hne]

@[simp]
theorem set_set (environment : Environment) (name : String) (first second : Bytes) :
    (environment.set name first).set name second = environment.set name second := by
  obtain ⟨entries⟩ := environment
  change Environment.mk (setIn name second (setIn name first entries)) = ⟨setIn name second entries⟩
  congr 1
  induction entries with
  | nil => simp [setIn]
  | cons entry rest ih =>
      by_cases hkey : entry.1 = name
      · simp [setIn, hkey]
      · simp [setIn, hkey, ih]

/-- A variable that has the value already is left as it is. -/
theorem set_eq_self {environment : Environment} {name : String} {value : Bytes}
    (hvalue : environment.get? name = some value) : environment.set name value = environment := by
  obtain ⟨entries⟩ := environment
  change getFrom name entries = some value at hvalue
  change Environment.mk (setIn name value entries) = ⟨entries⟩
  congr 1
  induction entries with
  | nil => cases hvalue
  | cons entry rest ih =>
      obtain ⟨key, old⟩ := entry
      rw [getFrom] at hvalue
      rw [setIn]
      split at hvalue
      · next hkey =>
          cases hvalue
          rw [if_pos hkey, hkey]
      · next hkey => rw [if_neg hkey, ih hvalue]

/-- Two variables may be set in either order, unless both of them are new. -/
theorem set_comm {environment : Environment} {name other : String} (hne : name ≠ other)
    (hset : (environment.get? name).isSome) (value otherValue : Bytes) :
    (environment.set other otherValue).set name value =
      (environment.set name value).set other otherValue := by
  obtain ⟨entries⟩ := environment
  change (getFrom name entries).isSome at hset
  change Environment.mk (setIn name value (setIn other otherValue entries)) =
    ⟨setIn other otherValue (setIn name value entries)⟩
  congr 1
  induction entries with
  | nil => cases hset
  | cons entry rest ih =>
      obtain ⟨key, old⟩ := entry
      by_cases hname : key = name
      · simp [setIn, hname, hne]
      · by_cases hother : key = other
        · simp [setIn, hother, hne.symm]
        · rw [getFrom, if_neg hname] at hset
          simp [setIn, hname, hother, ih hset]

/-- The environment without some of its variables. -/
def without (environment : Environment) (names : List String) : Environment :=
  ⟨environment.entries.filter fun entry => entry.1 ∉ names⟩

theorem get?_without (environment : Environment) (names : List String) (name : String) :
    (environment.without names).get? name =
      if name ∈ names then none else environment.get? name := by
  obtain ⟨entries⟩ := environment
  change getFrom name (entries.filter _) = if _ then _ else getFrom name entries
  induction entries with
  | nil => simp [getFrom]
  | cons entry rest ih =>
      obtain ⟨key, old⟩ := entry
      simp only [List.filter_cons, getFrom]
      grind [getFrom]

theorem unset_eq_without (environment : Environment) (name : String) :
    environment.unset name = environment.without [name] := by
  simp [unset, without]

@[simp]
theorem get?_unset_self (environment : Environment) (name : String) :
    (environment.unset name).get? name = none := by
  rw [unset_eq_without, get?_without, if_pos List.mem_cons_self]

/-- The environments differ in the given variables at most. -/
def SameBut (names : List String) (before after : Environment) : Prop :=
  after.without names = before.without names

namespace SameBut

variable {names : List String} {before between after : Environment}

theorem refl (names : List String) (environment : Environment) :
    environment.SameBut names environment := rfl

theorem trans (hfirst : before.SameBut names between) (hsecond : between.SameBut names after) :
    before.SameBut names after :=
  Eq.trans hsecond hfirst

/-- All other variables have the same values. -/
theorem get? (hsame : before.SameBut names after) {name : String} (hother : name ∉ names) :
    after.get? name = before.get? name := by
  have hvalues := congrArg (Environment.get? · name) hsame
  simpa only [get?_without, if_neg hother] using hvalues

end SameBut

theorem sameBut_set (environment : Environment) {names : List String} {name : String}
    (hname : name ∈ names) (value : Bytes) :
    SameBut names environment (environment.set name value) := by
  obtain ⟨entries⟩ := environment
  change Environment.mk ((setIn name value entries).filter _) = ⟨entries.filter _⟩
  congr 1
  induction entries with
  | nil => simp [setIn, hname]
  | cons entry rest ih =>
      by_cases hkey : entry.1 = name
      · simp [setIn, hkey, hname]
      · simp only [setIn, hkey, if_false, List.filter_cons, ih]

theorem sameBut_unset (environment : Environment) (name : String) :
    SameBut [name] environment (environment.unset name) := by
  rw [SameBut, unset_eq_without, without, without, List.filter_filter]
  simp

end JobShell.Environment
