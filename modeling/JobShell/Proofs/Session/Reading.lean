import JobShell.Proofs.Session.Rejection

/-!
# What a line is read as

A line that is not rejected is blank, a builtin alone in the foreground, or a pipeline of
programs.  Which of these it is depends on its pipeline only.
-/

namespace JobShell.Session

variable {σ : Type} {kernel : Kernel σ} {line : String} {session : Session}

theorem dispatch_eq_builtin_iff (pipeline : Pipeline) (builtin : Builtin) (command : Command) :
    dispatch pipeline = .ok (.builtin builtin command) ↔
      pipeline = { commands := [command], background := false } ∧
        Builtin.ofName? command.program = some builtin := by
  obtain ⟨commands, background⟩ := pipeline
  rw [dispatch]
  cases hfind : findBuiltin? { commands, background } with
  | none =>
      rw [findBuiltin?, List.findSome?_eq_none_iff] at hfind
      constructor
      · intro hdispatch
        cases background <;> cases hdispatch
      · rintro ⟨hpipeline, hbuiltin⟩
        cases hpipeline
        cases (hfind command List.mem_cons_self).symm.trans hbuiltin
  | some found =>
      rcases commands with _ | ⟨only, _ | ⟨second, others⟩⟩
      · cases hfind
      · have hfound : Builtin.ofName? only.program = some found := by
          simpa [findBuiltin?] using hfind
        cases background with
        | true => simp
        | false =>
            simp only [Bool.false_eq_true, if_false, Except.ok.injEq, Dispatch.builtin.injEq,
              Pipeline.mk.injEq, List.cons.injEq, and_true]
            constructor
            · rintro ⟨rfl, rfl⟩
              exact ⟨rfl, hfound⟩
            · rintro ⟨rfl, hbuiltin⟩
              exact ⟨Option.some.inj (hfound.symm.trans hbuiltin), rfl⟩
      · simp

theorem dispatch_eq_foreground_iff (pipeline : Pipeline) :
    dispatch pipeline = .ok .foreground ↔
      pipeline.background = false ∧
        ∀ command ∈ pipeline.commands, Builtin.ofName? command.program = none := by
  constructor
  · intro hdispatch
    cases hfind : findBuiltin? pipeline with
    | none =>
        rw [dispatch, hfind] at hdispatch
        rw [findBuiltin?, List.findSome?_eq_none_iff] at hfind
        refine ⟨?_, hfind⟩
        cases hbackground : pipeline.background with
        | true => simp [hbackground] at hdispatch
        | false => rfl
    | some builtin =>
        rw [dispatch, hfind] at hdispatch
        dsimp only at hdispatch
        split at hdispatch
        · split at hdispatch <;> cases hdispatch
        · cases hdispatch
  · rintro ⟨hforeground, hprograms⟩
    rw [dispatch_of_programs hprograms, hforeground]
    rfl

theorem read_eq_some_iff (pipeline : Pipeline) (dispatched : Dispatch) :
    session.read kernel line = .ok (some (pipeline, dispatched)) ↔
      ∃ tokens, lex line = .ok tokens ∧
        parse (session.environment.bindings kernel.account) tokens = .ok pipeline ∧
        dispatch pipeline = .ok dispatched := by
  constructor
  · intro hread
    cases hlex : lex line with
    | error error => simp [read, hlex, bind, Except.bind] at hread
    | ok tokens =>
        simp only [read, hlex, bind, Except.bind] at hread
        split at hread
        · cases hread
        · cases hparse : parse (session.environment.bindings kernel.account) tokens with
          | error error => simp [hparse] at hread
          | ok parsed =>
              cases hdispatch : dispatch parsed with
              | error error => simp [hparse, hdispatch] at hread
              | ok found =>
                  simp only [hparse, hdispatch, pure, Except.pure, Except.ok.injEq,
                    Option.some.injEq, Prod.mk.injEq] at hread
                  obtain ⟨rfl, rfl⟩ := hread
                  exact ⟨tokens, rfl, hparse, hdispatch⟩
  · rintro ⟨tokens, hlex, hparse, hdispatch⟩
    rw [read_of_parse hlex hparse, hdispatch]
    rfl

end JobShell.Session
