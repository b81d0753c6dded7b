import JobShell.Proofs.Machine.Printing
import JobShell.Session

/-!
# Lines that are refused

A line is refused by the lexer, by the check, because of where it names a builtin, or
because of an argument that no program can be given.  Each of these is found before
anything is done: a line that is refused is reported, and that is all.
-/

namespace JobShell

/-- A line that is refused with a status.  A blank line is not checked, and a builtin is
known by the first argument of a command, whatever it was written as. -/
inductive Session.Refuses (session : Session) (account : Account) (line : String) :
    Int → Prop where
  | unlexed {error : SyntaxError} (hlex : lex line = .error error) : Refuses session account line 2
  | unchecked {tokens : List Token} {error : SyntaxError} (hlex : lex line = .ok tokens)
      (hvisible : tokens ≠ []) (hcheck : Grammar.check tokens = .error error) :
      Refuses session account line 2
  | misplacedBuiltin {tokens : List Token} {pipeline : Pipeline} {command : Command}
      {builtin : Builtin} (hlex : lex line = .ok tokens)
      (hparse : parse (session.environment.bindings account) tokens = .ok pipeline)
      (hcommand : command ∈ pipeline.commands)
      (hbuiltin : Builtin.ofName? command.program = some builtin)
      (hplace : 1 < pipeline.commands.length ∨ pipeline.background = true) :
      Refuses session account line 2
  | zeroCharacter {tokens : List Token} {pipeline : Pipeline} {command : Command}
      {argument : String} (hlex : lex line = .ok tokens)
      (hparse : parse (session.environment.bindings account) tokens = .ok pipeline)
      (hprograms : ∀ command ∈ pipeline.commands, Builtin.ofName? command.program = none)
      (hcommand : command ∈ pipeline.commands) (hargument : argument ∈ command.argv)
      (hzero : '\x00' ∈ argument.toList) :
      Refuses session account line 1

namespace Session

variable {σ : Type}

/-! ## What is found -/

/-- A builtin that is found is refused in a pipeline, and otherwise in the background. -/
theorem dispatch_of_found {pipeline : Pipeline} {builtin : Builtin}
    (hfound : findBuiltin? pipeline = some builtin)
    (hplace : 1 < pipeline.commands.length ∨ pipeline.background = true) :
    dispatch pipeline = .error (notAllowed builtin
      (if 1 < pipeline.commands.length then "in a pipeline" else "in the background")) := by
  rw [dispatch, hfound]
  obtain ⟨commands, background⟩ := pipeline
  rcases commands with _ | ⟨only, _ | ⟨second, others⟩⟩
  · cases hfound
  · obtain rfl : background = true := hplace.resolve_left (Nat.lt_irrefl 1)
    rfl
  · simp

theorem dispatch_of_misplaced {pipeline : Pipeline} {command : Command} {builtin : Builtin}
    (hcommand : command ∈ pipeline.commands)
    (hbuiltin : Builtin.ofName? command.program = some builtin)
    (hplace : 1 < pipeline.commands.length ∨ pipeline.background = true) :
    ∃ error, dispatch pipeline = .error error := by
  have hfind : findBuiltin? pipeline ≠ none := by
    intro hnone
    rw [findBuiltin?, List.findSome?_eq_none_iff] at hnone
    cases (hnone command hcommand).symm.trans hbuiltin
  obtain ⟨found, hfound⟩ := Option.ne_none_iff_exists'.mp hfind
  exact ⟨_, dispatch_of_found hfound hplace⟩

theorem dispatch_of_programs {pipeline : Pipeline}
    (hprograms : ∀ command ∈ pipeline.commands, Builtin.ofName? command.program = none) :
    dispatch pipeline = .ok (if pipeline.background then .background else .foreground) := by
  have hfind : findBuiltin? pipeline = none := by
    rw [findBuiltin?, List.findSome?_eq_none_iff]
    exact hprograms
  rw [dispatch, hfind]

theorem read_of_check {kernel : Kernel σ} {line : String} {session : Session}
    {tokens : List Token} {error : SyntaxError} (hlex : lex line = .ok tokens)
    (hvisible : tokens ≠ []) (hcheck : Grammar.check tokens = .error error) :
    session.read kernel line = .error error := by
  have hnonempty : tokens.isEmpty = false := by simpa using hvisible
  simp [read, hlex, hnonempty, parse, hcheck, bind, Except.bind]

theorem read_of_parse {kernel : Kernel σ} {line : String} {session : Session}
    {tokens : List Token} {pipeline : Pipeline} (hlex : lex line = .ok tokens)
    (hparse : parse (session.environment.bindings kernel.account) tokens = .ok pipeline) :
    session.read kernel line =
      (dispatch pipeline).map fun dispatched => some (pipeline, dispatched) := by
  have hnonempty : tokens.isEmpty = false := by
    cases tokens with
    | nil => cases hparse
    | cons token rest => rfl
  simp only [read, hlex, hnonempty, hparse, bind, Except.bind, Bool.false_eq_true, if_false]
  cases dispatch pipeline <;> rfl

theorem badArgument?_ne_none {commands : List Command} {command : Command} {argument : String}
    (hcommand : command ∈ commands) (hargument : argument ∈ command.argv)
    (hzero : '\x00' ∈ argument.toList) : Launch.badArgument? commands ≠ none := by
  intro hnone
  rw [Launch.badArgument?, List.find?_eq_none] at hnone
  exact hnone argument (List.mem_flatMap.mpr ⟨command, hcommand, hargument⟩)
    (List.contains_iff_mem.mpr hzero)

/-- A line that is refused comes to a fault before anything is done, and to the same one
on every system. -/
theorem execute_of_refuses {session : Session} {account : Account} {line : String}
    {status : Int} (hrefuses : session.Refuses account line status) :
    ∃ fault : Fault, fault.status = status ∧
      ∀ {σ : Type} (kernel : Kernel σ) (state : σ), kernel.account = account →
        session.execute kernel line state = some (.error fault, session, state) := by
  cases hrefuses with
  | @unlexed error hlex =>
      refine ⟨.malformed error, rfl, ?_⟩
      intro σ kernel state _
      simp [execute, read, hlex, bind, Except.bind]
  | @unchecked tokens error hlex hvisible hcheck =>
      refine ⟨.malformed error, rfl, ?_⟩
      intro σ kernel state _
      rw [execute, read_of_check hlex hvisible hcheck]
  | misplacedBuiltin hlex hparse hcommand hbuiltin hplace =>
      obtain ⟨error, hdispatch⟩ := dispatch_of_misplaced hcommand hbuiltin hplace
      refine ⟨.malformed error, rfl, ?_⟩
      rintro σ kernel state rfl
      rw [execute, read_of_parse hlex hparse, hdispatch]
      rfl
  | @zeroCharacter tokens pipeline command argument hlex hparse hprograms hcommand hargument
      hzero =>
      obtain ⟨bad, hbad⟩ := Option.ne_none_iff_exists'.mp
        (badArgument?_ne_none hcommand hargument hzero)
      refine ⟨.invalidArgument bad, rfl, ?_⟩
      rintro σ kernel state rfl
      have hlaunch : Launch.launch kernel.toStarter session.environment pipeline.commands state =
          (.error (.invalidArgument bad), state) := by
        rw [Launch.launch, hbad]
      rw [execute, read_of_parse hlex hparse, dispatch_of_programs hprograms]
      cases pipeline.background with
      | true => simp [Except.map, launchBackground, hlaunch]
      | false => simp [Except.map, launchForeground, hlaunch]

/-- A line that is refused leaves its status, and nothing of a session changes but the
last status.  On every system the report is all that is done, and only if it cannot be
written the line is not done with: nothing is opened or started, and no directory is
entered.  On a machine the report is printed to the standard error stream of the shell. -/
theorem processLine_of_refuses {session : Session} {account : Account} {line : String}
    {status : Int} (hrefuses : session.Refuses account line status) :
    ∃ fault : Fault, fault.status = status ∧
      (∀ {σ : Type} (kernel : Kernel σ) (state : σ), kernel.account = account →
        session.processLine kernel line state =
          (Kernel.written (kernel.complain (report fault.message) state)).map fun reported =>
            (.proceed status, { session with lastStatus := status }, reported)) ∧
      ∀ machine : Machine, machine.Prints Machine.Action.errors
        ((Machine.kernel account).complain (report fault.message) machine).2 := by
  obtain ⟨fault, rfl, hexecute⟩ := execute_of_refuses hrefuses
  refine ⟨fault, rfl, ?_, fun machine => machine.prints_print Machine.Action.errors _⟩
  intro σ kernel state haccount
  rw [processLine, hexecute kernel state haccount]
  simp only [settle, Option.bind_some, Option.map_map]
  rfl

/-- The bad argument is in the last command, and the targets of all commands are left
alone. -/
theorem processLine_of_refuses_last_command :
    let line := "sort < in | tee > copy | echo a\x00b > out"
    let account : Account := { name := none, home := none, isSuperuser := false }
    ({} : Session).Refuses account line 1 ∧
      ∃ fault : Fault, fault.status = 1 ∧
        (∀ {σ : Type} (kernel : Kernel σ) (state : σ), kernel.account = account →
          ({} : Session).processLine kernel line state =
            (Kernel.written (kernel.complain (report fault.message) state)).map fun reported =>
              (.proceed 1, { lastStatus := 1 }, reported)) ∧
        ∀ machine : Machine, machine.Prints Machine.Action.errors
          ((Machine.kernel account).complain (report fault.message) machine).2 := by
  intro line account
  let pipeline : Pipeline :=
    { commands :=
        [{ argv := ["sort"], input := some "in" }, { argv := ["tee"], output := some "copy" },
          { argv := ["echo", "a\x00b"], output := some "out" }]
      background := false }
  let tokens : List Token :=
    [.word (.literal "sort"), .redirect .input, .word (.literal "in"), .pipe,
      .word (.literal "tee"), .redirect .output, .word (.literal "copy"), .pipe,
      .word (.literal "echo"), .word (.literal "a\x00b"), .redirect .output,
      .word (.literal "out")]
  have hlex : lex "sort < in | tee > copy | echo a\x00b > out" = .ok tokens := rfl
  have hparse : parse (({} : Session).environment.bindings account) tokens = .ok pipeline := rfl
  have hrefuses : ({} : Session).Refuses account line 1 :=
    .zeroCharacter hlex hparse (by decide) (List.mem_cons_of_mem _ (List.mem_cons_of_mem _
      List.mem_cons_self)) (List.mem_cons_of_mem _ List.mem_cons_self) (by decide)
  exact ⟨hrefuses, processLine_of_refuses hrefuses⟩

end Session

end JobShell
