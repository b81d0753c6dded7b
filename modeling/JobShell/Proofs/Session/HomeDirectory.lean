import JobShell.Proofs.LineReader.Streaming
import JobShell.Proofs.Session.Dispatching

/-!
# Going home

The home directory is looked up twice: as bytes by a change of directory without an
argument, and as text by a tilde.  Both find the same one if it is text, and then the two
lines come to the same; but a tilde is filled in before the arguments are looked at, so a
home directory with the name for going back is not where it leads.
-/

namespace JobShell

/-- The home directory: that of the environment, or the one on record where none is set. -/
def Environment.home? (environment : Environment) (account : Account) : Option Bytes :=
  (environment.get? "HOME").or account.home

/-- A tilde stands for the home directory, if that is text. -/
theorem Word.expand_home {environment : Environment} {account : Account} {home : String}
    (hhome : environment.home? account = some (Text.encode home)) :
    (Word.mk [.home]).expand (environment.bindings account) = home := by
  have hdecode : Text.decode? (Text.encode home) = some home :=
    (Text.decode?_eq_some_iff _ _).mpr rfl
  have hvalue : (environment.text? "HOME").or account.homeText = some home := by
    rw [Environment.home?] at hhome
    rw [Environment.text?, Account.homeText]
    cases hset : environment.get? "HOME" with
    | none =>
        rw [hset, Option.none_or] at hhome
        rw [Option.bind_none, Option.none_or, hhome, Option.bind_some, hdecode]
    | some bytes =>
        rw [hset, Option.some_or] at hhome
        cases hhome
        rw [Option.bind_some, hdecode, Option.some_or]
  change ((environment.text? "HOME").or account.homeText).getD "" ++ "" = home
  rw [hvalue, Option.getD_some, String.append_empty]

/-- A change of directory depends on its arguments only through the target. -/
theorem Builtin.run_cd_congr {σ : Type} (host : Host σ) {arguments others : List String}
    {environment : Environment}
    (htarget : cdTarget host.account environment arguments =
      cdTarget host.account environment others) (state : σ) :
    cd.run host arguments environment state = cd.run host others environment state := by
  simp only [run, runCd, htarget]

namespace Session

open Machine.Files (enter_of_leads holds_of_lookup)

variable {σ : Type} (kernel : Kernel σ) (session : Session) (state : σ)

/-! ## What the lines are read as -/

/-- What a line is read as that changes the directory and does nothing else. -/
def moveTo (arguments : List String) : Pipeline × Dispatch :=
  ({ commands := [{ argv := "cd" :: arguments }], background := false },
    .builtin .cd { argv := "cd" :: arguments })

theorem read_cd : session.read kernel "cd" = .ok (some (moveTo [])) := rfl

theorem read_cd_back : session.read kernel "cd -" = .ok (some (moveTo ["-"])) := rfl

theorem read_cd_home {home : String}
    (hhome : session.environment.home? kernel.account = some (Text.encode home)) :
    session.read kernel "cd ~" = .ok (some (moveTo [home])) := by
  rw [← Word.expand_home hhome]
  rfl

variable {kernel session}

theorem execute_moveTo {line : String} {arguments : List String} {state final : σ}
    {outcome : Except Fault Builtin.Outcome} {environment : Environment}
    (hline : session.read kernel line = .ok (some (moveTo arguments)))
    (hrun : Builtin.cd.run kernel.toHost arguments session.environment state =
      (outcome, environment, final)) :
    session.execute kernel line state =
      some (outcome.map Builtin.Outcome.flow, { session with environment }, final) := by
  have hbuiltin : session.runBuiltin kernel .cd { argv := "cd" :: arguments } state = _ :=
    runBuiltin_of_opened rfl hrun
  simp only [execute, hline, moveTo, hbuiltin]

/-- Lines that change the directory to the same target come to the same. -/
theorem processLine_moveTo {line other : String} {arguments others : List String}
    (hline : session.read kernel line = .ok (some (moveTo arguments)))
    (hother : session.read kernel other = .ok (some (moveTo others)))
    (htarget : Builtin.cdTarget kernel.account session.environment arguments =
      Builtin.cdTarget kernel.account session.environment others) :
    (∃ result, session.execute kernel line state = some result ∧
        session.execute kernel other state = some result) ∧
      session.processLine kernel line state = session.processLine kernel other state := by
  have hrun := Builtin.run_cd_congr kernel.toHost htarget state
  rcases hresult : Builtin.cd.run kernel.toHost others session.environment state with
    ⟨outcome, environment, final⟩
  rw [hresult] at hrun
  have hexecute := execute_moveTo hline hrun
  have hexecuteOther := execute_moveTo hother hresult
  refine ⟨⟨_, hexecute, hexecuteOther⟩, ?_⟩
  rw [processLine, processLine, hexecute, hexecuteOther]

/-- Where the home directory is text, a change of directory without an argument and one to a
tilde choose it alike and come to the same in everything: status, environment, directory and
report.  Only the name for going back stands for something else as an argument.  If there is
a fault to report that cannot be reported, neither line is done with. -/
theorem cd_home_alike (state : σ) {home : String}
    (hhome : session.environment.home? kernel.account = some (Text.encode home)) :
    (home ≠ "-" →
      Builtin.cdTarget kernel.account session.environment [] = .ok (Text.encode home) ∧
      Builtin.cdTarget kernel.account session.environment
        [(Word.mk [.home]).expand (session.environment.bindings kernel.account)] =
          .ok (Text.encode home) ∧
      (∃ result, session.execute kernel "cd" state = some result ∧
        session.execute kernel "cd ~" state = some result) ∧
      session.processLine kernel "cd" state = session.processLine kernel "cd ~" state) ∧
    (home = "-" →
      (∃ result, session.execute kernel "cd -" state = some result ∧
        session.execute kernel "cd ~" state = some result) ∧
      session.processLine kernel "cd -" state = session.processLine kernel "cd ~" state) := by
  have hread := read_cd_home kernel session hhome
  constructor
  · intro hplain
    have halone : Builtin.cdTarget kernel.account session.environment [] =
        .ok (Text.encode home) := by
      rw [Environment.home?] at hhome
      simp only [Builtin.cdTarget, hhome]
    have hword : Builtin.cdTarget kernel.account session.environment [home] =
        .ok (Text.encode home) := by
      simp only [Builtin.cdTarget, hplain, if_false]
    rw [Word.expand_home hhome]
    refine ⟨halone, hword, ?_⟩
    exact processLine_moveTo state (read_cd kernel session) hread (halone.trans hword.symm)
  · rintro rfl
    exact processLine_moveTo state (read_cd_back kernel session) hread rfl

/-! ## On a machine -/

section

variable {account : Account} {session : Session} {machine : Machine} {line : String}
  {arguments : List String} {target : Bytes}

theorem processLine_of_enter {directory : Machine.Inode}
    (hline : session.read (Machine.kernel account) line = .ok (some (moveTo arguments)))
    (htarget : Builtin.cdTarget account session.environment arguments = .ok target)
    (hfiles : machine.files.enter machine.shell.directory target = .ok directory) :
    session.processLine (Machine.kernel account) line machine =
      some (.proceed 0,
        { session with
          environment := Builtin.recordMove (machine.files.pathOf machine.shell.directory)
            (machine.files.pathOf directory) session.environment
          lastStatus := 0 },
        machine.inDirectory directory) := by
  rw [processLine, execute_moveTo hline (Builtin.run_cd_of_enter account htarget hfiles)]
  rfl

theorem processLine_of_refused {errno : Errno}
    (hline : session.read (Machine.kernel account) line = .ok (some (moveTo arguments)))
    (htarget : Builtin.cdTarget account session.environment arguments = .ok target)
    (hfiles : machine.files.enter machine.shell.directory target = .error errno) :
    session.processLine (Machine.kernel account) line machine =
      (Kernel.written ((Machine.kernel account).complain
        (report (Fault.resource target errno).message) machine)).map fun reported =>
          (.proceed 1, { session with lastStatus := 1 }, reported) := by
  rw [processLine, execute_moveTo hline (Builtin.run_cd_of_refused account htarget hfiles)]
  exact Option.map_map _ _ _

end

/-- The user has a home directory on record and sets none. -/
theorem cd_home_alike_on_record :
    let account : Account :=
      { name := none, home := some (Text.encode "/a"), isSuperuser := false }
    let kernel := Machine.kernel account
    let machine := Builtin.linkedTree.inDirectory Machine.Files.rootInode
    ∃ next : Session,
      ({} : Session).processLine kernel "cd" machine =
        some (.proceed 0, next, Builtin.linkedTree) ∧
      ({} : Session).processLine kernel "cd ~" machine =
        some (.proceed 0, next, Builtin.linkedTree) ∧
      next.environment.get? "PWD" = some (Text.encode "/a") ∧
      next.environment.get? "OLDPWD" = some (Text.encode "/") := by
  intro account kernel machine
  have hfiles : machine.files.enter machine.shell.directory (Text.encode "/a") = .ok 1 :=
    enter_of_leads (by decide +kernel)
      (.directory Builtin.linkedTree_holds_a rfl (.here _ _)) rfl rfl
  have htarget : Builtin.cdTarget account {} [] = .ok (Text.encode "/a") := rfl
  have hhome : ({} : Session).environment.home? kernel.account = some (Text.encode "/a") := rfl
  have hcd := processLine_of_enter (read_cd kernel {}) htarget hfiles
  obtain ⟨-, -, -, halike⟩ := (cd_home_alike machine hhome).1 (by decide)
  exact ⟨_, hcd, halike.symm.trans hcd, rfl, rfl⟩

/-- The status of a line and where it leads to, for a user who is in the root. -/
def leads (account : Account) (environment : Environment) (line : String) :
    Option (Flow × Machine.Inode) :=
  (({ environment } : Session).processLine (Machine.kernel account) line
    (Builtin.linkedTree.inDirectory Machine.Files.rootInode)).map
      fun result => (result.1, result.2.2.shell.directory)

section

variable {account : Account} {environment : Environment} {line : String}
  {arguments : List String} {target : Bytes}

theorem leads_of_enter {directory : Machine.Inode}
    (hline : ({ environment } : Session).read (Machine.kernel account) line =
      .ok (some (moveTo arguments)))
    (htarget : Builtin.cdTarget account environment arguments = .ok target)
    (hfiles : Builtin.linkedTree.files.enter Machine.Files.rootInode target = .ok directory) :
    leads account environment line = some (.proceed 0, directory) :=
  congrArg (Option.map _) (processLine_of_enter hline htarget hfiles)

theorem leads_of_refused {errno : Errno}
    (hline : ({ environment } : Session).read (Machine.kernel account) line =
      .ok (some (moveTo arguments)))
    (htarget : Builtin.cdTarget account environment arguments = .ok target)
    (hfiles : Builtin.linkedTree.files.enter Machine.Files.rootInode target = .error errno) :
    leads account environment line = some (.proceed 1, Machine.Files.rootInode) := by
  let machine := Builtin.linkedTree.inDirectory Machine.Files.rootInode
  have hrefused : ({ environment } : Session).processLine (Machine.kernel account) line machine =
      _ :=
    processLine_of_refused hline htarget hfiles
  exact congrArg (Option.map _) hrefused

end

/-- The lines lead to different places where the home directory has the name for going back,
and where one that is not text is set or on record. -/
theorem cd_home_unlike :
    let known (home : Bytes) : Account := { name := none, home := some home, isSuperuser := false }
    let hyphen : Environment := ⟨[("HOME", Text.encode "-"), ("OLDPWD", Text.encode "/a")]⟩
    let untold : Environment := ⟨[("HOME", [0xff])]⟩
    leads (known (Text.encode "/a")) hyphen "cd" = some (.proceed 0, 2) ∧
      leads (known (Text.encode "/a")) hyphen "cd ~" = some (.proceed 0, 1) ∧
      leads (known (Text.encode "/a")) untold "cd" = some (.proceed 0, 3) ∧
      leads (known (Text.encode "/a")) untold "cd ~" = some (.proceed 0, 1) ∧
      leads (known [0xff]) {} "cd" = some (.proceed 0, 3) ∧
      leads (known [0xff]) {} "cd ~" = some (.proceed 1, 0) := by
  intro known hyphen untold
  have hnamed : Builtin.linkedTree.files.enter Machine.Files.rootInode (Text.encode "/a") =
      .ok 1 :=
    enter_of_leads (by decide +kernel)
      (.directory Builtin.linkedTree_holds_a rfl (.here _ _)) rfl rfl
  have hhyphen : Builtin.linkedTree.files.enter Machine.Files.rootInode (Text.encode "-") =
      .ok 2 :=
    enter_of_leads (by decide +kernel)
      (.directory (holds_of_lookup rfl rfl rfl (by decide)) rfl (.here _ _)) rfl rfl
  have huntold : Builtin.linkedTree.files.enter Machine.Files.rootInode [0xff] = .ok 3 :=
    enter_of_leads (by decide +kernel)
      (.directory (holds_of_lookup rfl rfl rfl (by decide)) rfl (.here _ _)) rfl rfl
  have hempty : Builtin.linkedTree.files.enter Machine.Files.rootInode [] = .error .noEntry :=
    rfl
  have hreadHyphen : ({ environment := hyphen } : Session).read
      (Machine.kernel (known (Text.encode "/a"))) "cd ~" = .ok (some (moveTo ["-"])) := rfl
  have hreadUntold : ({ environment := untold } : Session).read
      (Machine.kernel (known (Text.encode "/a"))) "cd ~" = .ok (some (moveTo ["/a"])) := rfl
  have hreadUnset : ({} : Session).read (Machine.kernel (known [0xff])) "cd ~" =
      .ok (some (moveTo [""])) := rfl
  exact ⟨leads_of_enter (read_cd _ _) rfl hhyphen, leads_of_enter hreadHyphen rfl hnamed,
    leads_of_enter (read_cd _ _) rfl huntold, leads_of_enter hreadUntold rfl hnamed,
    leads_of_enter (read_cd _ _) rfl huntold, leads_of_refused hreadUnset rfl hempty⟩

end Session

end JobShell
