import JobShell.Proofs.Launch.Wiring
import Mathlib.Data.List.Basic
import Mathlib.Data.List.Nodup

/-!
# Pipes and processes of a system

What a system shows of itself while a pipeline is started: the descriptors of the shell,
the files that have been opened, and each process as it was when it was started.  The
laws say what opening a pipe, starting a process and closing pipes do to them; how the
processes run meanwhile is left open, as is what the system does apart from that.

From the laws follows what the pipes of a pipeline and its processes start from.
-/

namespace JobShell.Launch

open Machine (Table FileId Behavior Opening Outcome Course childAction endsOf)

/-- The open files at the ends of a pipe. -/
structure Pipe where
  reader : FileId
  writer : FileId
  deriving DecidableEq, Repr, Inhabited

/-- A process as it was when it was started. -/
structure Process where
  table : Table
  behavior : Behavior
  /-- The files that had been opened before. -/
  isOpened : FileId → Prop

/-- What may become of a process. -/
def Process.Becomes (process : Process) (openings : List Opening) (outcome : Outcome) : Prop :=
  Course (fun file => ¬ process.isOpened file) process.table process.behavior openings outcome

/-- What a system shows of itself. -/
structure View (σ : Type) where
  shell : σ → Table
  isOpened : σ → FileId → Prop
  process? : σ → Pid → Option Process

variable {σ : Type}

namespace View

/-- A pipe has been opened, at descriptors that were free and behind which the ends are
to be closed when a program begins. -/
structure OpensPipe (view : View σ) (before : σ) (ends : PipeEnds) (pipe : Pipe) (after : σ) :
    Prop where
  above : 2 < ends.readEnd ∧ 2 < ends.writeEnd
  free : view.shell before ends.readEnd = none ∧ view.shell before ends.writeEnd = none
  distinct : ends.readEnd ≠ ends.writeEnd
  shell : view.shell after =
    ((view.shell before).set ends.readEnd { file := pipe.reader }).set ends.writeEnd
      { file := pipe.writer }
  new : ¬ view.isOpened before pipe.reader ∧ ¬ view.isOpened before pipe.writer
  apart : pipe.reader ≠ pipe.writer
  opened : view.isOpened after pipe.reader ∧ view.isOpened after pipe.writer
  keeps : ∀ file, view.isOpened before file → view.isOpened after file

/-- A process has been started, as a copy of the shell that does what a child does. -/
structure StartsProcess (view : View σ) (environment : Environment) (child : Child)
    (before : σ) (pid : Pid) (after : σ) : Prop where
  new : view.process? before pid = none
  started : ∃ process, view.process? after pid = some process ∧
    process.table = view.shell before ∧
    process.behavior = childAction environment child Behavior.exit ∧
    ∀ file, view.isOpened before file → process.isOpened file
  others : ∀ other, other ≠ pid → view.process? after other = view.process? before other
  shell : view.shell after = view.shell before
  keeps : ∀ file, view.isOpened before file → view.isOpened after file

/-- Nothing that shows has changed, though files may have been opened. -/
structure Keeps (view : View σ) (before after : σ) : Prop where
  shell : view.shell after = view.shell before
  process? : view.process? after = view.process? before
  opened : ∀ file, view.isOpened before file → view.isOpened after file

/-- Pipes have been closed in the shell. -/
structure ClosesPipes (view : View σ) (pipes : List PipeEnds) (before after : σ) : Prop where
  shell : view.shell after = (view.shell before).without (endsOf pipes)
  process? : view.process? after = view.process? before

end View

/-- The laws of starting pipelines, in the states that are `sound`. -/
structure Starter.Lawful (starter : Starter σ) (view : View σ) (sound : σ → Prop) : Prop where
  opened {state : σ} {descriptor : Descriptor} {slot : Machine.Slot} (hsound : sound state)
    (hslot : view.shell state descriptor = some slot) : view.isOpened state slot.file
  openPipe {state after : σ} {ends : PipeEnds} (hsound : sound state)
    (hopen : starter.openPipe state = (.ok ends, after)) :
    sound after ∧ ∃ pipe, view.OpensPipe state ends pipe after
  blockSignals {state after : σ} (hsound : sound state)
    (hblock : starter.blockSignals state = (.ok (), after)) : sound after ∧ view.Keeps state after
  spawn {state after : σ} {pid : Pid} (environment : Environment) (child : Child)
    (hsound : sound state) (hspawn : starter.spawn environment child state = (.ok pid, after)) :
    sound after ∧ view.StartsProcess environment child state pid after
  closePipes {state : σ} (pipes : List PipeEnds) (hsound : sound state) :
    view.ClosesPipes pipes state (starter.closePipes pipes state)
  unblockSignals (state : σ) : view.Keeps state (starter.unblockSignals state)

/-- A call of the system fails while a pipeline is started: a pipe cannot be had, signals
cannot be held back, or a process cannot be created. -/
inductive Starter.Fails (starter : Starter σ) (environment : Environment)
    (commands : List Command) (state : σ) (errno : Errno) : Prop where
  | pipe (hopen : (openPipes starter (commands.length - 1) state).1 = .error errno)
  | signals {pipes : List PipeEnds} {piped : σ}
      (hopen : openPipes starter (commands.length - 1) state = (.ok (), pipes, piped))
      (hblock : (starter.blockSignals piped).1 = .error errno)
  | process {pipes : List PipeEnds} {piped blocked : σ}
      (hopen : openPipes starter (commands.length - 1) state = (.ok (), pipes, piped))
      (hblock : starter.blockSignals piped = (.ok (), blocked))
      (hspawn : (spawnFrom starter environment pipes none 0 commands blocked).1 = .error errno)

/-! ## All pipes of a pipeline -/

namespace View

variable {view : View σ} {before after last : σ}

/-- Pipes have been opened one after another, each at descriptors of its own. -/
structure OpensPipes (view : View σ) (before : σ) (ends : List PipeEnds) (pipes : List Pipe)
    (after : σ) : Prop where
  leads : List.Forall₂ (fun ends pipe =>
    view.shell after ends.readEnd = some { file := pipe.reader } ∧
      view.shell after ends.writeEnd = some { file := pipe.writer }) ends pipes
  above : ∀ descriptor ∈ endsOf ends, 2 < descriptor
  free : ∀ descriptor ∈ endsOf ends, view.shell before descriptor = none
  elsewhere : (view.shell after).without (endsOf ends) = view.shell before
  new : ∀ pipe ∈ pipes,
    ¬ view.isOpened before pipe.reader ∧ ¬ view.isOpened before pipe.writer
  opened : ∀ pipe ∈ pipes, view.isOpened after pipe.reader ∧ view.isOpened after pipe.writer
  keeps : ∀ file, view.isOpened before file → view.isOpened after file
  readers : (pipes.map Pipe.reader).Nodup
  writers : (pipes.map Pipe.writer).Nodup
  apart : ∀ first ∈ pipes, ∀ second ∈ pipes, first.reader ≠ second.writer

theorem OpensPipes.nil (view : View σ) (state : σ) : view.OpensPipes state [] [] state where
  leads := .nil
  above := nofun
  free := nofun
  elsewhere := Table.without_nil _
  new := nofun
  opened := nofun
  keeps := fun _ hopened => hopened
  readers := List.nodup_nil
  writers := List.nodup_nil
  apart := nofun

theorem OpensPipe.shell_readEnd {ends : PipeEnds} {pipe : Pipe}
    (hopens : view.OpensPipe before ends pipe after) :
    view.shell after ends.readEnd = some { file := pipe.reader } := by
  rw [hopens.shell, Table.set_of_ne hopens.distinct, Table.set_self]

theorem OpensPipe.shell_writeEnd {ends : PipeEnds} {pipe : Pipe}
    (hopens : view.OpensPipe before ends pipe after) :
    view.shell after ends.writeEnd = some { file := pipe.writer } := by
  rw [hopens.shell, Table.set_self]

theorem OpensPipe.shell_of_none {ends : PipeEnds} {pipe : Pipe} {descriptor : Descriptor}
    (hopens : view.OpensPipe before ends pipe after)
    (hnone : view.shell after descriptor = none) : view.shell before descriptor = none := by
  have hread : descriptor ≠ ends.readEnd := by
    rintro rfl
    rw [hopens.shell_readEnd] at hnone
    cases hnone
  have hwrite : descriptor ≠ ends.writeEnd := by
    rintro rfl
    rw [hopens.shell_writeEnd] at hnone
    cases hnone
  rwa [hopens.shell, Table.set_of_ne hwrite, Table.set_of_ne hread] at hnone

theorem OpensPipe.elsewhere {ends : PipeEnds} {pipe : Pipe}
    (hopens : view.OpensPipe before ends pipe after) :
    (view.shell after).without [ends.readEnd, ends.writeEnd] = view.shell before := by
  funext descriptor
  by_cases hmem : descriptor ∈ [ends.readEnd, ends.writeEnd]
  · rw [Table.without, if_pos hmem]
    rcases List.mem_pair.mp hmem with rfl | rfl
    · exact hopens.free.1.symm
    · exact hopens.free.2.symm
  · rw [Table.without_apply_of_notMem hmem, hopens.shell]
    rw [List.mem_pair, not_or] at hmem
    rw [Table.set_of_ne hmem.2, Table.set_of_ne hmem.1]

/-- Pipes that are opened later leave alone what the shell has got before. -/
theorem OpensPipes.shell_of_some {ends : List PipeEnds} {pipes : List Pipe}
    {descriptor : Descriptor} {slot : Machine.Slot}
    (hopens : view.OpensPipes before ends pipes after)
    (hslot : view.shell before descriptor = some slot) :
    view.shell after descriptor = some slot := by
  have hmem : descriptor ∉ endsOf ends := by
    intro hmem
    rw [hopens.free descriptor hmem] at hslot
    cases hslot
  rw [← hopens.elsewhere, Table.without_apply_of_notMem hmem] at hslot
  exact hslot

theorem OpensPipes.cons {head : PipeEnds} {pipe : Pipe} {ends : List PipeEnds}
    {pipes : List Pipe} (hfirst : view.OpensPipe before head pipe after)
    (hrest : view.OpensPipes after ends pipes last) :
    view.OpensPipes before (head :: ends) (pipe :: pipes) last where
  leads := .cons ⟨hrest.shell_of_some hfirst.shell_readEnd,
    hrest.shell_of_some hfirst.shell_writeEnd⟩ hrest.leads
  above := by
    intro descriptor hmem
    simp only [endsOf, List.flatMap_cons, List.cons_append, List.mem_cons] at hmem
    rcases hmem with rfl | rfl | hmem
    · exact hfirst.above.1
    · exact hfirst.above.2
    · exact hrest.above descriptor hmem
  free := by
    intro descriptor hmem
    simp only [endsOf, List.flatMap_cons, List.cons_append, List.mem_cons] at hmem
    rcases hmem with rfl | rfl | hmem
    · exact hfirst.free.1
    · exact hfirst.free.2
    · exact hfirst.shell_of_none (hrest.free descriptor hmem)
  elsewhere := by
    rw [endsOf, List.flatMap_cons, Table.without_append]
    exact (congrArg (Table.without · _) hrest.elsewhere).trans hfirst.elsewhere
  new := by
    rintro other (_ | ⟨_, hmem⟩)
    · exact hfirst.new
    · exact (hrest.new other hmem).imp (mt (hfirst.keeps _)) (mt (hfirst.keeps _))
  opened := by
    rintro other (_ | ⟨_, hmem⟩)
    · exact hfirst.opened.imp (hrest.keeps _) (hrest.keeps _)
    · exact hrest.opened other hmem
  keeps := fun file hopened => hrest.keeps file (hfirst.keeps file hopened)
  readers := by
    refine List.nodup_cons.mpr ⟨fun hmem => ?_, hrest.readers⟩
    obtain ⟨other, hother, hreader⟩ := List.mem_map.mp hmem
    exact (hrest.new other hother).1 (hreader ▸ hfirst.opened.1)
  writers := by
    refine List.nodup_cons.mpr ⟨fun hmem => ?_, hrest.writers⟩
    obtain ⟨other, hother, hwriter⟩ := List.mem_map.mp hmem
    exact (hrest.new other hother).2 (hwriter ▸ hfirst.opened.2)
  apart := by
    rintro first (_ | ⟨_, hfirstMem⟩) second (_ | ⟨_, hsecondMem⟩) hsame
    · exact hfirst.apart hsame
    · exact (hrest.new second hsecondMem).2 (hsame ▸ hfirst.opened.1)
    · exact (hrest.new first hfirstMem).1 (hsame ▸ hfirst.opened.2)
    · exact hrest.apart first hfirstMem second hsecondMem hsame

/-- Processes have been started for commands that stand from the given index on. -/
structure Starts (view : View σ) (environment : Environment) (pipes : List PipeEnds)
    (index : Nat) (commands : List Command) (before : σ) (pids : List Pid) (after : σ) :
    Prop where
  length : pids.length = commands.length
  shell : view.shell after = view.shell before
  keeps : ∀ pid process, view.process? before pid = some process →
    view.process? after pid = some process
  started : ∀ position command pid, commands[position]? = some command →
    pids[position]? = some pid → ∃ group process, view.process? after pid = some process ∧
      process.table = view.shell before ∧
      process.behavior = childAction environment
        { group, wiring := wiring pipes (index + position) command, argv := command.argv }
        Behavior.exit ∧
      ∀ file, view.isOpened before file → process.isOpened file

theorem Starts.nil (view : View σ) (environment : Environment) (pipes : List PipeEnds)
    (index : Nat) (state : σ) : view.Starts environment pipes index [] state [] state where
  length := rfl
  shell := rfl
  keeps := fun _ _ hprocess => hprocess
  started := nofun

theorem Starts.behind {environment : Environment} {pipes : List PipeEnds} {index : Nat}
    {commands : List Command} {pids : List Pid}
    (hstarts : view.Starts environment pipes index commands after pids last)
    (hkeeps : view.Keeps before after) :
    view.Starts environment pipes index commands before pids last where
  length := hstarts.length
  shell := hstarts.shell.trans hkeeps.shell
  keeps := hkeeps.process? ▸ hstarts.keeps
  started := by
    intro position command pid hcommand hpid
    obtain ⟨group, process, hprocess, htable, hbehavior, hopened⟩ :=
      hstarts.started position command pid hcommand hpid
    exact ⟨group, process, hprocess, htable.trans hkeeps.shell, hbehavior,
      fun file hfile => hopened file (hkeeps.opened file hfile)⟩

theorem Starts.cons {environment : Environment} {pipes : List PipeEnds} {index : Nat}
    {group : Option Pid} {command : Command} {commands : List Command} {pid : Pid}
    {pids : List Pid}
    (hfirst : view.StartsProcess environment
      { group, wiring := wiring pipes index command, argv := command.argv } before pid after)
    (hrest : view.Starts environment pipes (index + 1) commands after pids last) :
    view.Starts environment pipes index (command :: commands) before (pid :: pids) last where
  length := congrArg (· + 1) hrest.length
  shell := hrest.shell.trans hfirst.shell
  keeps := by
    intro other process hprocess
    have hne : other ≠ pid := by
      rintro rfl
      rw [hfirst.new] at hprocess
      cases hprocess
    exact hrest.keeps other process ((hfirst.others other hne).trans hprocess)
  started := by
    rintro (_ | position) other found hcommand hpid
    · cases hcommand
      cases hpid
      obtain ⟨process, hprocess, hstarted⟩ := hfirst.started
      exact ⟨group, process, hrest.keeps pid process hprocess, hstarted⟩
    · obtain ⟨joined, process, hprocess, htable, hbehavior, hopened⟩ :=
        hrest.started position other found hcommand hpid
      refine ⟨joined, process, hprocess, htable.trans hfirst.shell, ?_,
        fun file hfile => hopened file (hfirst.keeps file hfile)⟩
      rw [hbehavior, Nat.add_right_comm, Nat.add_assoc]

end View

/-! ## Starting a pipeline -/

namespace Starter.Lawful

variable {starter : Starter σ} {view : View σ} {sound : σ → Prop} {state : σ}

theorem openPipes (hlawful : starter.Lawful view sound) (count : Nat) (hsound : sound state)
    {ends : List PipeEnds} {piped : σ}
    (hopen : openPipes starter count state = (.ok (), ends, piped)) :
    sound piped ∧ ∃ pipes, pipes.length = count ∧ view.OpensPipes state ends pipes piped := by
  induction count generalizing state ends with
  | zero =>
      cases hopen
      exact ⟨hsound, [], rfl, .nil view _⟩
  | succ count ih =>
      rw [Launch.openPipes] at hopen
      split at hopen
      · cases hopen
      · next first next hfirst =>
          obtain ⟨hnext, pipe, hpipe⟩ := hlawful.openPipe hsound hfirst
          rcases hrest : Launch.openPipes starter count next with ⟨answer, others, last⟩
          rw [hrest] at hopen
          cases hopen
          obtain ⟨hlast, pipes, hlength, hopens⟩ := ih hnext hrest
          exact ⟨hlast, pipe :: pipes, congrArg (· + 1) hlength, .cons hpipe hopens⟩

theorem spawnFrom (hlawful : starter.Lawful view sound) (environment : Environment)
    (pipes : List PipeEnds) (group : Option Pid) (index : Nat) (commands : List Command)
    (hsound : sound state) {pids : List Pid} {started : σ}
    (hspawn : spawnFrom starter environment pipes group index commands state =
      (.ok (), pids, started)) :
    sound started ∧ view.Starts environment pipes index commands state pids started := by
  induction commands generalizing group index state pids with
  | nil =>
      cases hspawn
      exact ⟨hsound, .nil view environment pipes index _⟩
  | cons command commands ih =>
      rw [Launch.spawnFrom] at hspawn
      split at hspawn
      · cases hspawn
      · next pid next hfirst =>
          obtain ⟨hnext, hbegins⟩ := hlawful.spawn environment _ hsound hfirst
          rcases hrest : Launch.spawnFrom starter environment pipes (group.or (some pid))
            (index + 1) commands next with ⟨answer, others, last⟩
          rw [hrest] at hspawn
          cases hspawn
          obtain ⟨hlast, hstarts⟩ := ih _ (index + 1) hnext hrest
          exact ⟨hlast, .cons hbegins hstarts⟩

/-- A pipeline is refused for an argument, or the system fails to start it; otherwise its
pipes have been opened, its processes started, and the pipes closed. -/
theorem launch (hlawful : starter.Lawful view sound) (environment : Environment)
    {commands : List Command} (hnonempty : commands ≠ []) (hsound : sound state) :
    (∃ argument, badArgument? commands = some argument ∧
      launch starter environment commands state = (.error (.invalidArgument argument), state)) ∨
    (∃ reason errno failed, starter.Fails environment commands state errno ∧
      launch starter environment commands state = (.error (.launch reason errno), failed)) ∨
    ∃ job ends pipes piped started after,
      launch starter environment commands state = (.ok job, after) ∧
      pipes.length + 1 = commands.length ∧
      Launch.openPipes starter (commands.length - 1) state = (.ok (), ends, piped) ∧
      view.OpensPipes state ends pipes piped ∧
      view.Starts environment ends 0 commands piped job.pids started ∧
      view.ClosesPipes ends started after := by
  have hcomes := comesTo_launch starter environment commands state
  rcases hlaunch : Launch.launch starter environment commands state with ⟨outcome, after⟩
  rw [hlaunch] at hcomes
  cases hcomes with
  | refused hbad => exact .inl ⟨_, hbad, rfl⟩
  | unpiped hgood hopen =>
      exact .inr (.inl ⟨_, _, _, .pipe (congrArg Prod.fst hopen), rfl⟩)
  | unblocked hgood hopen hblock =>
      exact .inr (.inl ⟨_, _, _, .signals hopen (congrArg Prod.fst hblock), rfl⟩)
  | abandoned hgood hopen hblock hspawn =>
      exact .inr (.inl ⟨_, _, _, .process hopen hblock (congrArg Prod.fst hspawn), rfl⟩)
  | empty hgood hopen hblock hspawn =>
      obtain ⟨hpiped, -⟩ := hlawful.openPipes _ hsound hopen
      obtain ⟨hblocked, -⟩ := hlawful.blockSignals hpiped hblock
      obtain ⟨-, hstarts⟩ := hlawful.spawnFrom environment _ none 0 commands hblocked hspawn
      exact absurd (List.length_eq_zero_iff.mp hstarts.length.symm) hnonempty
  | @started job ends piped blocked begun hgood hopen hblock hspawn =>
      obtain ⟨hpiped, pipes, hcount, hopens⟩ := hlawful.openPipes _ hsound hopen
      obtain ⟨hblocked, hkeeps⟩ := hlawful.blockSignals hpiped hblock
      obtain ⟨hbegun, hstarts⟩ := hlawful.spawnFrom environment ends none 0 commands hblocked hspawn
      have hcloses := hlawful.closePipes ends hbegun
      have hunblocked := hlawful.unblockSignals (starter.closePipes ends begun)
      refine .inr (.inr ⟨job, ends, pipes, piped, begun, _, rfl, ?_, hopen, hopens,
        hstarts.behind hkeeps, hunblocked.shell.trans hcloses.shell,
        hunblocked.process?.trans hcloses.process?⟩)
      rw [hcount, Nat.sub_add_cancel (List.length_pos_of_ne_nil hnonempty)]

end Starter.Lawful

/-! ## Files behind the streams, redirections apart -/

def plainInput (stdin : FileId) (pipes : List Pipe) : Nat → FileId
  | 0 => stdin
  | index + 1 => ((pipes.map Pipe.reader)[index]?).getD stdin

def plainOutput (stdout : FileId) (pipes : List Pipe) (index : Nat) : FileId :=
  ((pipes.map Pipe.writer)[index]?).getD stdout

theorem rel_getElem? {α β : Type} {related : α → β → Prop} {firsts : List α} {seconds : List β}
    (hrelated : List.Forall₂ related firsts seconds) (index : Nat) :
    Option.Rel related firsts[index]? seconds[index]? := by
  induction hrelated generalizing index with
  | nil => exact .none
  | cons hhead _ ih =>
      cases index with
      | zero => exact .some hhead
      | succ index => exact ih index

section Files

variable {σ : Type} {view : View σ} {before after : σ} {ends : List PipeEnds} {pipes : List Pipe}
  {stdin stdout : FileId}

theorem View.OpensPipes.inputSource (hopens : view.OpensPipes before ends pipes after)
    (hstdin : view.shell before 0 = some (.handedOn stdin)) (index : Nat) :
    ∃ slot, view.shell after (Machine.inputSource ends index) = some slot ∧
      slot.file = plainInput stdin pipes index := by
  have hshell := hopens.shell_of_some hstdin
  cases index with
  | zero => exact ⟨_, hshell, rfl⟩
  | succ index =>
      have hrelated := rel_getElem? hopens.leads index
      rw [Machine.inputSource, Machine.pipeBefore?, plainInput, List.getElem?_map]
      generalize ends[index]? = first at hrelated ⊢
      generalize pipes[index]? = second at hrelated ⊢
      cases hrelated with
      | none => exact ⟨_, hshell, rfl⟩
      | some hleads => exact ⟨_, hleads.1, rfl⟩

theorem View.OpensPipes.outputSource (hopens : view.OpensPipes before ends pipes after)
    (hstdout : view.shell before 1 = some (.handedOn stdout)) (index : Nat) :
    ∃ slot, view.shell after (Machine.outputSource ends index) = some slot ∧
      slot.file = plainOutput stdout pipes index := by
  have hshell := hopens.shell_of_some hstdout
  have hrelated := rel_getElem? hopens.leads index
  rw [Machine.outputSource, plainOutput, List.getElem?_map]
  generalize ends[index]? = first at hrelated ⊢
  generalize pipes[index]? = second at hrelated ⊢
  cases hrelated with
  | none => exact ⟨_, hshell, rfl⟩
  | some hleads => exact ⟨_, hleads.2, rfl⟩

end Files

section Distinct

variable {files : List FileId} {index position : Nat} {file standard : FileId}

/-- Different ends have different positions, and none is what there is without one. -/
theorem getD_eq_iff (hdistinct : files.Nodup) (hat : files[position]? = some file)
    (hstandard : standard ≠ file) : files[index]?.getD standard = file ↔ index = position := by
  constructor
  · intro hsame
    cases hother : files[index]? with
    | none =>
        rw [hother] at hsame
        exact absurd hsame hstandard
    | some other =>
        rw [hother] at hsame
        obtain rfl : other = file := hsame
        exact (List.getElem?_inj (List.getElem?_eq_some_iff.mp hother).1 hdistinct).mp
          (hother.trans hat.symm)
  · rintro rfl
    rw [hat, Option.getD_some]

theorem getD_ne (hmem : file ∉ files) (hstandard : standard ≠ file) :
    files[index]?.getD standard ≠ file := by
  cases hother : files[index]? with
  | none => exact hstandard
  | some other => exact ne_of_mem_of_not_mem (List.mem_of_getElem? hother) hmem

end Distinct

namespace View.OpensPipes

variable {σ : Type} {view : View σ} {before after : σ} {ends : List PipeEnds} {pipes : List Pipe}
  {pipe : Pipe} {position : Nat} {standard : FileId}

theorem plainInput_eq_reader_iff (hopens : view.OpensPipes before ends pipes after)
    (hpipe : pipes[position]? = some pipe) (hstandard : standard ≠ pipe.reader) (index : Nat) :
    plainInput standard pipes index = pipe.reader ↔ index = position + 1 := by
  cases index with
  | zero => exact iff_of_false hstandard (Nat.succ_ne_zero position).symm
  | succ index =>
      have hat : (pipes.map Pipe.reader)[position]? = some pipe.reader := by
        rw [List.getElem?_map, hpipe, Option.map_some]
      rw [plainInput, getD_eq_iff hopens.readers hat hstandard, Nat.add_right_cancel_iff]

theorem plainOutput_eq_writer_iff (hopens : view.OpensPipes before ends pipes after)
    (hpipe : pipes[position]? = some pipe) (hstandard : standard ≠ pipe.writer) (index : Nat) :
    plainOutput standard pipes index = pipe.writer ↔ index = position := by
  have hat : (pipes.map Pipe.writer)[position]? = some pipe.writer := by
    rw [List.getElem?_map, hpipe, Option.map_some]
  rw [plainOutput, getD_eq_iff hopens.writers hat hstandard]

theorem plainInput_ne_writer (hopens : view.OpensPipes before ends pipes after)
    (hmem : pipe ∈ pipes) (hstandard : standard ≠ pipe.writer) (index : Nat) :
    plainInput standard pipes index ≠ pipe.writer := by
  cases index with
  | zero => exact hstandard
  | succ index =>
      refine getD_ne (fun hwriter => ?_) hstandard
      obtain ⟨other, hother, hsame⟩ := List.mem_map.mp hwriter
      exact hopens.apart other hother pipe hmem hsame

theorem plainOutput_ne_reader (hopens : view.OpensPipes before ends pipes after)
    (hmem : pipe ∈ pipes) (hstandard : standard ≠ pipe.reader) (index : Nat) :
    plainOutput standard pipes index ≠ pipe.reader := by
  refine getD_ne (fun hreader => ?_) hstandard
  obtain ⟨other, hother, hsame⟩ := List.mem_map.mp hreader
  exact hopens.apart pipe hmem other hother hsame.symm

end View.OpensPipes

end JobShell.Launch
