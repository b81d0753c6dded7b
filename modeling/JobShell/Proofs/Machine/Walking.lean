import JobShell.Machine.Files

/-!
# Paths that lead to directories

A path leads from one directory to the next by its names: back to the parent, into a
directory that has the name, or along a link, whose own names are then walked first.  A walk
that can be made in this way is the one that the machine makes.
-/

namespace JobShell.Machine.Files

/-- A directory that the user may walk through, and what it holds. -/
structure Passes (files : Files) (current parent : Inode) (entries : List (Bytes × Inode)) :
    Prop where
  content : ∃ removed, files.content? current = some (.directory parent entries removed)
  search : files.allows current Rights.search

/-- A directory holds a node under a name that can be looked up. -/
structure Holds (files : Files) (current : Inode) (name : Bytes) (inode : Inode) : Prop where
  passes : ∃ parent entries, files.Passes current parent entries ∧
    entries.lookup name = some inode
  ne_dot : name ≠ dot
  ne_dotDot : name ≠ dotDot
  length_le : name.length ≤ longestName

/-- The names lead from one directory to another along so many links at most. -/
inductive Leads (files : Files) : Nat → Inode → List Bytes → Inode → Prop where
  | here (links : Nat) (current : Inode) : Leads files links current [] current
  | parent {links : Nat} {current parent last : Inode} {entries : List (Bytes × Inode)}
      {rest : List Bytes} (hpasses : files.Passes current parent entries)
      (hrest : Leads files links parent rest last) :
      Leads files links current (dotDot :: rest) last
  | directory {links : Nat} {current next last : Inode} {name : Bytes} {rest : List Bytes}
      (hholds : files.Holds current name next) (hdirectory : files.isDirectory next)
      (hrest : Leads files links next rest last) : Leads files links current (name :: rest) last
  | link {links : Nat} {current next last : Inode} {name target : Bytes} {rest : List Bytes}
      (hholds : files.Holds current name next)
      (hlink : files.content? next = some (.link target))
      (hrest : Leads files links (if isAbsolute target then rootInode else current)
        (names target ++ rest) last) :
      Leads files (links + 1) current (name :: rest) last

variable {files : Files}

theorem holds_of_lookup {current parent next : Inode} {name : Bytes}
    {entries : List (Bytes × Inode)} {removed : Bool}
    (hcontent : files.content? current = some (.directory parent entries removed))
    (hsearch : files.allows current Rights.search) (hentry : entries.lookup name = some next)
    (hname : name ≠ dot ∧ name ≠ dotDot ∧ name.length ≤ longestName) :
    files.Holds current name next where
  passes := ⟨parent, entries, ⟨⟨removed, hcontent⟩, hsearch⟩, hentry⟩
  ne_dot := hname.1
  ne_dotDot := hname.2.1
  length_le := hname.2.2

section

variable {current next : Inode} {name : Bytes} (hholds : files.Holds current name next)
  (links : Nat) (rest : List Bytes) (trailing : Bool)

include hholds

theorem walk_directory (hdirectory : files.isDirectory next) :
    files.walk {} links current (name :: rest) trailing =
      files.walk {} links next rest trailing := by
  obtain ⟨⟨parent, entries, ⟨⟨removed, hcontent⟩, hsearch⟩, hentry⟩, hdot, hdotDot, hlength⟩ :=
    hholds
  rw [isDirectory] at hdirectory
  split at hdirectory
  · next hnext =>
      rw [walk]
      simp [hcontent, hsearch, hdot, hdotDot, Nat.not_lt.mpr hlength, hentry, hnext]
  · cases hdirectory

theorem walk_link {target : Bytes} (hlink : files.content? next = some (.link target)) :
    files.walk {} (links + 1) current (name :: rest) trailing =
      files.walk {} links (if isAbsolute target then rootInode else current)
        (names target ++ rest) (trailing || rest.isEmpty && endsInSlash target) := by
  obtain ⟨⟨parent, entries, ⟨⟨removed, hcontent⟩, hsearch⟩, hentry⟩, hdot, hdotDot, hlength⟩ :=
    hholds
  rw [walk]
  simp [hcontent, hsearch, hdot, hdotDot, Nat.not_lt.mpr hlength, hentry, hlink]

end

theorem walk_of_leads {links : Nat} {current last : Inode} {rest : List Bytes}
    (hleads : files.Leads links current rest last) (trailing : Bool) :
    files.walk {} links current rest trailing = .ok (.found last) := by
  induction hleads generalizing trailing with
  | here => rw [walk]
  | parent hpasses _ ih =>
      obtain ⟨⟨removed, hcontent⟩, hsearch⟩ := hpasses
      have hother : dotDot ≠ dot := by decide
      rw [walk]
      simp [hcontent, hsearch, hother, ih]
  | directory hholds hdirectory _ ih =>
      rw [walk_directory hholds _ _ _ hdirectory]
      exact ih trailing
  | link hholds hlink _ ih =>
      rw [walk_link hholds _ _ _ hlink]
      exact ih _

/-- A path that is one name leads where that name does. -/
theorem locate_name {purpose : Purpose} {start : Inode} {path : Bytes}
    (hname : 0 ∉ path ∧ path ≠ [] ∧ path.length < pathLimit ∧ isAbsolute path = false ∧
      endsInSlash path = false ∧ names path = [path]) :
    files.locate purpose start path = files.walk purpose linkLimit start [path] false := by
  obtain ⟨hzero, hnonempty, hlength, habsolute, hslash, hnames⟩ := hname
  simp [locate, hzero, hnonempty, Nat.not_le.mpr hlength, habsolute, hslash, hnames]

theorem enter_of_leads {start last : Inode} {path : Bytes}
    (hpath : 0 ∉ path ∧ path ≠ [] ∧ path.length < pathLimit)
    (hleads : files.Leads linkLimit (if isAbsolute path then rootInode else start) (names path)
      last)
    (hdirectory : files.isDirectory last) (hsearch : files.allows last Rights.search) :
    files.enter start path = .ok last := by
  obtain ⟨hzero, hnonempty, hlength⟩ := hpath
  have hlocate : files.locate {} start path = .ok (.found last) := by
    rw [← walk_of_leads hleads (endsInSlash path)]
    simp [locate, hzero, hnonempty, Nat.not_le.mpr hlength]
  simp [enter, find, hlocate, hdirectory, hsearch]

end JobShell.Machine.Files
