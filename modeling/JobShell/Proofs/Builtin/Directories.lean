import JobShell.Proofs.Builtin.Changes
import JobShell.Proofs.Machine.Walking
import JobShell.Proofs.Quit.Window

/-!
# Going back to a directory

A change of directory leaves both directories in variables.  Going back takes the previous
one from there before it is overwritten, so going back twice is no change at all.
-/

namespace JobShell

namespace Machine

/-- The path of a directory, by which it is found from the root. -/
structure Files.Locates (files : Files) (path : Bytes) (directory : Inode) : Prop where
  pathOf : files.pathOf directory = .ok path
  enter : files.enter rootInode path = .ok directory

namespace Files

variable {files : Files} {path : Bytes} {directory : Inode}

theorem isAbsolute_joinNames (names : List Bytes) : isAbsolute (joinNames names) := by
  cases names with
  | nil => rfl
  | cons name rest => rfl

theorem isAbsolute_of_pathOf (hpath : files.pathOf directory = .ok path) : isAbsolute path := by
  rw [pathOf] at hpath
  cases hnames : files.namesTo (files.nodes.size + 1) directory with
  | error errno =>
      rw [hnames] at hpath
      cases hpath
  | ok names =>
      rw [hnames] at hpath
      cases hpath
      exact isAbsolute_joinNames names

/-- It does not matter where the walk along an absolute path begins. -/
theorem enter_of_isAbsolute (habsolute : isAbsolute path) (start : Inode) :
    files.enter start path = files.enter rootInode path := by
  simp only [enter, find, locate, habsolute, if_true]

theorem Locates.enter_from (hlocates : files.Locates path directory) (start : Inode) :
    files.enter start path = .ok directory :=
  (enter_of_isAbsolute (isAbsolute_of_pathOf hlocates.pathOf) start).trans hlocates.enter

end Files

end Machine

namespace Builtin

/-! ## What is recorded -/

theorem get?_recordMove_oldpwd (previous : Bytes) (current : Except Errno Bytes)
    (environment : Environment) :
    (recordMove (.ok previous) current environment).get? "OLDPWD" = some previous := by
  cases current with
  | error errno => exact environment.get?_set_self "OLDPWD" previous
  | ok path =>
      exact (Environment.get?_set_of_ne _ path (by decide)).trans
        (environment.get?_set_self "OLDPWD" previous)

theorem get?_recordMove_pwd (previous : Except Errno Bytes) (current : Bytes)
    (environment : Environment) :
    (recordMove previous (.ok current) environment).get? "PWD" = some current :=
  Environment.get?_set_self _ "PWD" current

/-- Moving there and back leaves the variables as they were. -/
theorem recordMove_recordMove {environment : Environment} {previous current : Bytes}
    (hprevious : environment.get? "OLDPWD" = some previous)
    (hcurrent : environment.get? "PWD" = some current) :
    recordMove (.ok previous) (.ok current)
      (recordMove (.ok current) (.ok previous) environment) = environment := by
  have hset : ((environment.set "OLDPWD" current).get? "OLDPWD").isSome := by
    rw [Environment.get?_set_self, Option.isSome_some]
  calc
    _ = (((environment.set "OLDPWD" current).set "PWD" previous).set "OLDPWD" previous).set
          "PWD" current := rfl
    _ = (((environment.set "OLDPWD" current).set "OLDPWD" previous).set "PWD" previous).set
          "PWD" current := by rw [Environment.set_comm (by decide) hset]
    _ = (environment.set "OLDPWD" previous).set "PWD" current := by
      rw [Environment.set_set, Environment.set_set]
    _ = environment := by rw [Environment.set_eq_self hprevious, Environment.set_eq_self hcurrent]

/-! ## Moves -/

section

variable {account : Account} {arguments : List String} {environment after : Environment}
  {machine next : Machine} {outcome : Outcome} {here there : Bytes}

/-- A change of directory that succeeds has recorded the directories before and after it. -/
theorem eq_recordMove_of_cd
    (hcd : cd.run (Machine.kernel account).toHost arguments environment machine =
      (.ok outcome, after, next)) :
    after = recordMove (machine.files.pathOf machine.shell.directory)
      (next.files.pathOf next.shell.directory) environment := by
  obtain ⟨fault, -, hrun⟩ | ⟨target, -, ⟨errno, left, -, hrun⟩ | ⟨entered, -, hrun⟩⟩ :=
    runCd_cases (Machine.kernel account).toHost arguments environment machine
  · simp [run, hrun, Except.map] at hcd
  · simp [run, hrun, Except.map] at hcd
  · simp only [run, hrun, Prod.mk.injEq] at hcd
    obtain ⟨-, rfl, rfl⟩ := hcd
    rfl

theorem run_cd_of_enter (account : Account) {target : Bytes} {directory : Machine.Inode}
    (htarget : cdTarget account environment arguments = .ok target)
    (hfiles : machine.files.enter machine.shell.directory target = .ok directory) :
    cd.run (Machine.kernel account).toHost arguments environment machine =
      (.ok (.status 0), recordMove (machine.files.pathOf machine.shell.directory)
        (machine.files.pathOf directory) environment, machine.inDirectory directory) := by
  have hrun : runCd (Machine.kernel account).toHost arguments environment machine =
      (.ok (), recordMove (machine.files.pathOf machine.shell.directory)
        (machine.files.pathOf directory) environment, machine.inDirectory directory) := by
    rw [runCd, show (Machine.kernel account).toHost.account = account from rfl, htarget]
    simp only [Machine.enter_of_ok account hfiles]
    rfl
  simp only [run, hrun, Except.map]

theorem run_cd_of_refused (account : Account) {target : Bytes} {errno : Errno}
    (htarget : cdTarget account environment arguments = .ok target)
    (hfiles : machine.files.enter machine.shell.directory target = .error errno) :
    cd.run (Machine.kernel account).toHost arguments environment machine =
      (.error (.resource target errno), environment, machine) := by
  have hrun : runCd (Machine.kernel account).toHost arguments environment machine =
      (.error (.resource target errno), environment, machine) := by
    rw [runCd, show (Machine.kernel account).toHost.account = account from rfl, htarget]
    simp only [Machine.enter_of_error account hfiles]
  simp only [run, hrun, Except.map]

/-- Going back succeeds if the previous directory is where it was. -/
theorem run_cd_back (account : Account) {directory : Machine.Inode}
    (hprevious : environment.get? "OLDPWD" = some there)
    (hcurrent : machine.files.pathOf machine.shell.directory = .ok here)
    (hlocates : machine.files.Locates there directory) :
    cd.run (Machine.kernel account).toHost ["-"] environment machine =
      (.ok (.status 0), recordMove (.ok here) (.ok there) environment,
        machine.inDirectory directory) := by
  have htarget : cdTarget account environment ["-"] = .ok there := by
    simp [cdTarget, hprevious]
  have hrun := run_cd_of_enter account htarget (hlocates.enter_from machine.shell.directory)
  rwa [hcurrent, hlocates.pathOf] at hrun

/-- A change of directory records where it has led and where it began, whatever the
variables were before.  As long as both directories are found by their paths, going back
returns to where it began and swaps the variables, and going back once more restores the
whole environment and the directory.  Anything else may have happened to the machine in the
meantime. -/
theorem cd_back_twice
    (hcd : cd.run (Machine.kernel account).toHost arguments environment machine =
      (.ok outcome, after, next))
    (hhere : machine.files.pathOf machine.shell.directory = .ok here)
    (hthere : next.files.pathOf next.shell.directory = .ok there) :
    after.get? "PWD" = some there ∧ after.get? "OLDPWD" = some here ∧
      ∀ later : Machine, later.shell.directory = next.shell.directory →
        later.files.Locates here machine.shell.directory →
        later.files.Locates there next.shell.directory →
        ∃ back, cd.run (Machine.kernel account).toHost ["-"] after later =
            (.ok (.status 0), back, later.inDirectory machine.shell.directory) ∧
          back.get? "PWD" = some here ∧ back.get? "OLDPWD" = some there ∧
          ∀ latest : Machine, latest.shell.directory = machine.shell.directory →
            latest.files.Locates here machine.shell.directory →
            latest.files.Locates there next.shell.directory →
            cd.run (Machine.kernel account).toHost ["-"] back latest =
              (.ok (.status 0), after, latest.inDirectory next.shell.directory) := by
  have hafter := eq_recordMove_of_cd hcd
  rw [hhere, hthere] at hafter
  have hpwd : after.get? "PWD" = some there := by rw [hafter, get?_recordMove_pwd]
  have holdpwd : after.get? "OLDPWD" = some here := by rw [hafter, get?_recordMove_oldpwd]
  refine ⟨hpwd, holdpwd, ?_⟩
  intro later hlater hback hforth
  have hcurrent : later.files.pathOf later.shell.directory = .ok there := by
    rw [hlater, hforth.pathOf]
  refine ⟨_, run_cd_back account holdpwd hcurrent hback, get?_recordMove_pwd _ here after,
    get?_recordMove_oldpwd there _ after, ?_⟩
  intro latest hlatest hback hforth
  have hcurrent : latest.files.pathOf latest.shell.directory = .ok here := by
    rw [hlatest, hback.pathOf]
  rw [run_cd_back account (get?_recordMove_oldpwd there _ after) hcurrent hforth,
    recordMove_recordMove holdpwd hpwd]

end

/-- A machine with the shell in a directory that has another one in it, to which there is a
link.  Next to it are a directory with the name that stands for going back, and one whose
name is not text. -/
def linkedTree : Machine :=
  { Session.loneShell with
    files :=
      { nodes := #[
        { content := .directory Machine.Files.rootInode
            [(Text.encode "a", 1), (Text.encode "-", 2), ([0xff], 3), (Text.encode "link", 5)]
            false
          permissions := 0o755 },
        { content := .directory Machine.Files.rootInode [(Text.encode "b", 4)] false
          permissions := 0o755 },
        { content := .directory Machine.Files.rootInode [] false, permissions := 0o755 },
        { content := .directory Machine.Files.rootInode [] false, permissions := 0o755 },
        { content := .directory 1 [] false, permissions := 0o755 },
        { content := .link (Text.encode "a/b"), permissions := 0o777 }] }
    shell := { Session.loneShell.shell with directory := 1 } }

open Machine.Files (enter_of_leads holds_of_lookup rootInode)

theorem linkedTree_holds_a : linkedTree.files.Holds rootInode (Text.encode "a") 1 :=
  holds_of_lookup rfl rfl rfl (by decide)

theorem linkedTree_holds_link : linkedTree.files.Holds rootInode (Text.encode "link") 5 :=
  holds_of_lookup rfl rfl rfl (by decide)

theorem linkedTree_leads_b (links : Nat) :
    linkedTree.files.Leads links rootInode [Text.encode "a", Text.encode "b"] 4 :=
  .directory linkedTree_holds_a rfl
    (.directory (holds_of_lookup rfl rfl rfl (by decide)) rfl (.here links 4))

theorem cd_back_twice_through_link :
    let host := (Machine.kernel linkedTree.account).toHost
    let environment : Environment := ⟨[("OLDPWD", [0xff])]⟩
    ∃ after back,
      cd.run host ["../link"] environment linkedTree =
        (.ok (.status 0), after, linkedTree.inDirectory 4) ∧
      after.get? "PWD" = some (Text.encode "/a/b") ∧
      after.get? "OLDPWD" = some (Text.encode "/a") ∧
      cd.run host ["-"] after (linkedTree.inDirectory 4) =
        (.ok (.status 0), back, linkedTree) ∧
      back.get? "PWD" = some (Text.encode "/a") ∧
      back.get? "OLDPWD" = some (Text.encode "/a/b") ∧
      cd.run host ["-"] back linkedTree =
        (.ok (.status 0), after, linkedTree.inDirectory 4) := by
  intro host environment
  have hlink : linkedTree.files.enter linkedTree.shell.directory (Text.encode "../link") =
      .ok 4 :=
    enter_of_leads (by decide +kernel)
      (.parent ⟨⟨_, rfl⟩, rfl⟩ (.link linkedTree_holds_link rfl (linkedTree_leads_b _))) rfl rfl
  have htarget : cdTarget linkedTree.account environment ["../link"] =
      .ok (Text.encode "../link") := rfl
  have hcd := run_cd_of_enter linkedTree.account htarget hlink
  have hhere : linkedTree.files.Locates (Text.encode "/a") 1 :=
    ⟨rfl, enter_of_leads (by decide +kernel)
      (.directory linkedTree_holds_a rfl (.here _ _)) rfl rfl⟩
  have hthere : linkedTree.files.Locates (Text.encode "/a/b") 4 :=
    ⟨rfl, enter_of_leads (by decide +kernel) (linkedTree_leads_b _) rfl rfl⟩
  obtain ⟨hpwd, holdpwd, hback⟩ := cd_back_twice hcd hhere.pathOf hthere.pathOf
  obtain ⟨back, hreturns, hbackPwd, hbackOldpwd, hforth⟩ :=
    hback (linkedTree.inDirectory 4) rfl hhere hthere
  exact ⟨_, back, hcd, hpwd, holdpwd, hreturns, hbackPwd, hbackOldpwd,
    hforth linkedTree rfl hhere hthere⟩

end Builtin

end JobShell
