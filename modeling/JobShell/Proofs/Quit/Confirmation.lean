import JobShell.Session

/-!
# Confirmation over whole runs

What a delivery has to come to is said by the deliveries before it: a quit is
confirmed exactly if an earlier one has not run out.  The responses of a new
controller, up to and including the first that ends the session, are those, and
the state in between is a record of the history with two values only.
-/

namespace JobShell

/-- A mark stands in a list if nothing behind it settles it. -/
def Stands {α : Type} (mark settlement : α) (list : List α) : Prop :=
  ∃ before after, list = before ++ mark :: after ∧ settlement ∉ after

section Stands

variable {α : Type} (mark settlement : α)

theorem not_stands_nil : ¬ Stands mark settlement [] := by
  rintro ⟨before, after, hlist, -⟩
  simp at hlist

theorem stands_concat (list : List α) (last : α) :
    Stands mark settlement (list ++ [last]) ↔
      last = mark ∨ last ≠ settlement ∧ Stands mark settlement list := by
  constructor
  · rintro ⟨before, after, hlist, hsettled⟩
    rcases after.eq_nil_or_concat with rfl | ⟨middle, final, rfl⟩
    · exact .inl (List.singleton_inj.mp (List.append_inj_right' hlist rfl))
    · rw [List.concat_eq_append, ← List.cons_append, ← List.append_assoc] at hlist
      obtain ⟨rfl, hfinal⟩ := List.append_inj' hlist rfl
      obtain rfl := List.singleton_inj.mp hfinal
      simp only [List.concat_eq_append, List.mem_append, List.mem_singleton,
        not_or] at hsettled
      exact .inr ⟨Ne.symm hsettled.2, before, middle, rfl, hsettled.1⟩
  · rintro (rfl | ⟨hlast, before, after, rfl, hsettled⟩)
    · exact ⟨list, [], rfl, List.not_mem_nil⟩
    · exact ⟨before, after ++ [last], by simp, by simp [hsettled, Ne.symm hlast]⟩

end Stands

end JobShell

namespace JobShell.Quit

/-- Some quit of the history has not run out: no timer has expired behind it. -/
def Pending (history : List Delivery) : Prop :=
  ∃ before after, history = before ++ .quit :: after ∧ .timerExpired ∉ after

theorem not_pending_nil : ¬ Pending [] :=
  not_stands_nil Delivery.quit Delivery.timerExpired

theorem pending_concat (history : List Delivery) (delivery : Delivery) :
    Pending (history ++ [delivery]) ↔
      delivery = .quit ∨ delivery ≠ .timerExpired ∧ Pending history :=
  stands_concat Delivery.quit Delivery.timerExpired history delivery

/-- What a delivery has to come to after a history. -/
inductive Answers (timeout : Duration) (history : List Delivery) :
    Delivery → Response → Prop where
  | asks (state : State) (hidle : ¬ Pending history) :
      Answers timeout history .quit
        { state, effects := [.announce timeout, .arm timeout], exitCode := none }
  | confirms (state : State) (hpending : Pending history) :
      Answers timeout history .quit { state, effects := [.cancel], exitCode := some 0 }
  | expires (state : State) :
      Answers timeout history .timerExpired { state, effects := [], exitCode := none }
  | ignores (state : State) :
      Answers timeout history .interrupt { state, effects := [], exitCode := none }

/-- The count of presses says no more than whether the state is armed. -/
structure State.Sound (state : State) : Prop where
  armed : state.armed = true ↔ state.presses = 1
  idle : state.armed = false ↔ state.presses = 0

/-- The responses to deliveries that follow a history, from the state that it has
led to.  Nothing follows a response that ends the session. -/
inductive Follows (timeout : Duration) :
    List Delivery → State → List Delivery → List Response → Prop where
  | nothing {history : List Delivery} {state : State} (hsound : state.Sound) :
      Follows timeout history state [] []
  | goesOn {history rest : List Delivery} {state : State} {delivery : Delivery}
      {response : Response} {later : List Response} (hsound : state.Sound)
      (hpress : state.press.1 ≠ .rearm) (hanswer : Answers timeout history delivery response)
      (hopen : response.exitCode = none)
      (hlater : Follows timeout (history ++ [delivery]) response.state rest later) :
      Follows timeout history state (delivery :: rest) (response :: later)
  | ends {history rest : List Delivery} {state : State} {delivery : Delivery}
      {response : Response} (hsound : state.Sound) (hpress : state.press.1 ≠ .rearm)
      (hanswer : Answers timeout history delivery response)
      (hexit : response.exitCode = some 0) :
      Follows timeout history state (delivery :: rest) [response]

/-! ## One delivery -/

/-- The state holds what matters of the history. -/
structure State.Remembers (state : State) (history : List Delivery) : Prop where
  armed : state.armed = true ↔ Pending history
  presses : state.presses = state.armed.toNat

theorem remembers_new : State.Remembers {} [] :=
  ⟨by simp [not_pending_nil], rfl⟩

namespace State.Remembers

variable {state : State} {history : List Delivery}

theorem sound (hstate : state.Remembers history) : state.Sound := by
  constructor <;> cases harmed : state.armed <;> simp [hstate.presses, harmed]

theorem press_of_pending (hstate : state.Remembers history) (hpending : Pending history) :
    state.press = (.exit, { armed := true, presses := 2 }) := by
  have harmed := hstate.armed.mpr hpending
  simp [State.press, hstate.presses, harmed]

theorem press_of_not_pending (hstate : state.Remembers history)
    (hidle : ¬ Pending history) :
    state.press = (.confirm, { armed := true, presses := 1 }) := by
  have hdisarmed : state.armed = false := by
    simpa using mt hstate.armed.mp hidle
  simp [State.press, hdisarmed]

theorem press_ne_rearm (hstate : state.Remembers history) :
    state.press.1 ≠ .rearm := by
  by_cases hpending : Pending history
  · simp [hstate.press_of_pending hpending]
  · simp [hstate.press_of_not_pending hpending]

/-- A response is the right one, and if the session goes on, the next state
remembers the delivery as well. -/
theorem handle (hstate : state.Remembers history) (timeout : Duration)
    (delivery : Delivery) :
    Answers timeout history delivery (Quit.handle timeout delivery state) ∧
      ((Quit.handle timeout delivery state).exitCode = some 0 ∨
        (Quit.handle timeout delivery state).exitCode = none ∧
          (Quit.handle timeout delivery state).state.Remembers
            (history ++ [delivery])) := by
  cases delivery with
  | quit =>
      by_cases hpending : Pending history
      · rw [Quit.handle, hstate.press_of_pending hpending]
        exact ⟨.confirms _ hpending, .inl rfl⟩
      · rw [Quit.handle, hstate.press_of_not_pending hpending]
        refine ⟨.asks _ hpending, .inr ⟨rfl, ?_, rfl⟩⟩
        simp [pending_concat]
  | timerExpired =>
      refine ⟨.expires _, .inr ⟨rfl, ?_, rfl⟩⟩
      simp [Quit.handle, State.expire, pending_concat]
  | interrupt =>
      refine ⟨.ignores _, .inr ⟨rfl, ?_, hstate.presses⟩⟩
      simpa [Quit.handle, pending_concat] using hstate.armed

end State.Remembers

theorem exitCode_handle (timeout : Duration) (delivery : Delivery) (state : State) :
    (handle timeout delivery state).exitCode = none ∨
      (handle timeout delivery state).exitCode = some 0 := by
  cases delivery with
  | quit =>
      rw [handle]
      split
      · exact .inl rfl
      · exact .inl rfl
      · exact .inr rfl
  | timerExpired => exact .inl rfl
  | interrupt => exact .inl rfl

/-! ## Runs -/

/-- The responses to deliveries up to and including the first that ends the session. -/
def responses (timeout : Duration) : State → List Delivery → List Response
  | _, [] => []
  | state, delivery :: rest =>
      let response := handle timeout delivery state
      match response.exitCode with
      | some _ => [response]
      | none => response :: responses timeout response.state rest

theorem follows_responses (timeout : Duration) {state : State}
    {history : List Delivery} (hstate : state.Remembers history)
    (deliveries : List Delivery) :
    Follows timeout history state deliveries (responses timeout state deliveries) := by
  induction deliveries generalizing state history with
  | nil => exact .nothing hstate.sound
  | cons delivery rest ih =>
      obtain ⟨hanswer, hexit | ⟨hopen, hnext⟩⟩ := hstate.handle timeout delivery
      · simp only [responses, hexit]
        exact .ends hstate.sound hstate.press_ne_rearm hanswer hexit
      · simp only [responses, hopen]
        exact .goesOn hstate.sound hstate.press_ne_rearm hanswer hopen (ih hnext)

/-- The deliveries end the session. -/
def Confirms (timeout : Duration) (state : State) (deliveries : List Delivery) : Prop :=
  ∃ response ∈ responses timeout state deliveries, response.exitCode = some 0

/-- The state that deliveries lead to if they do not end the session. -/
def after (timeout : Duration) (state : State) (deliveries : List Delivery) : State :=
  deliveries.foldl (fun state delivery => (handle timeout delivery state).state) state

theorem not_confirms_nil (timeout : Duration) (state : State) :
    ¬ Confirms timeout state [] := by
  simp [Confirms, responses]

theorem confirms_cons (timeout : Duration) (state : State) (delivery : Delivery)
    (rest : List Delivery) :
    Confirms timeout state (delivery :: rest) ↔
      (handle timeout delivery state).exitCode = some 0 ∨
        Confirms timeout (handle timeout delivery state).state rest := by
  rcases exitCode_handle timeout delivery state with hexit | hexit <;>
    simp [Confirms, responses, hexit]

theorem confirms_append (timeout : Duration) (state : State)
    (front back : List Delivery) :
    Confirms timeout state (front ++ back) ↔
      Confirms timeout state front ∨ Confirms timeout (after timeout state front) back := by
  induction front generalizing state with
  | nil => simp [not_confirms_nil, after]
  | cons delivery rest ih =>
      rw [List.cons_append, confirms_cons, ih, confirms_cons, or_assoc]
      rfl

end JobShell.Quit

/-! ## Sessions -/

namespace JobShell.Session

variable {σ : Type}

theorem shown_ne_exit {serviced : Serviced} (asks : Bool)
    (hserviced : ∀ code, serviced ≠ .exit code) (code : Int) :
    (if asks then .redraw else serviced) ≠ Serviced.exit code := by
  cases asks with
  | false => exact hserviced code
  | true => nofun

/-- Serving deliveries changes nothing in a session but what it knows of quits, and
ends the session exactly if the deliveries do. -/
theorem serveAll_session (kernel : Kernel σ) (deliveries : List Quit.Delivery)
    (serviced : Serviced) (session : Session) (state : σ)
    (hserviced : ∀ code, serviced ≠ .exit code) :
    ∃ served quit final,
      serveAll kernel deliveries serviced session state =
        (served, { session with quit }, final) ∧
      (Quit.Confirms session.settings.quitTimeout session.quit deliveries ∧
          served = .exit 0 ∨
        ¬ Quit.Confirms session.settings.quitTimeout session.quit deliveries ∧
          (∀ code, served ≠ .exit code) ∧
          quit = Quit.after session.settings.quitTimeout session.quit deliveries) := by
  fun_induction serveAll kernel deliveries serviced session state with
  | case1 serviced session state =>
      exact ⟨serviced, session.quit, state, rfl,
        .inr ⟨Quit.not_confirms_nil _ _, hserviced, rfl⟩⟩
  | case2 rest serviced session state group hforeground ih =>
      simpa [Quit.confirms_cons, Quit.after, Quit.handle] using ih hserviced
  | case3 rest serviced session state hforeground ih =>
      simpa [Quit.confirms_cons, Quit.after, Quit.handle] using ih nofun
  | case4 delivery rest serviced session state hdelivery response performed served code hexit =>
      have hzero : response.exitCode = some 0 :=
        (Quit.exitCode_handle _ delivery session.quit).resolve_left (by simp [response, hexit])
      obtain rfl : code = 0 := by
        simpa [hexit] using hzero
      exact ⟨_, _, _, rfl, .inl ⟨(Quit.confirms_cons _ _ _ _).mpr (.inl hexit), rfl⟩⟩
  | case5 delivery rest serviced session state hdelivery response performed served hopen shown ih =>
      have hshown : ∀ code, shown ≠ .exit code := shown_ne_exit _ hserviced
      simpa [Quit.confirms_cons, Quit.after, response, hopen] using ih hshown

/-- Without a pipeline in the foreground, what happens to the system is what the
responses ask for, in their order, whatever comes of it. -/
theorem serveAll_system (kernel : Kernel σ) (deliveries : List Quit.Delivery)
    (serviced : Serviced) (session : Session) (state : σ)
    (hforeground : session.foreground = none) :
    (serveAll kernel deliveries serviced session state).2.2 =
      performEffects kernel
        ((Quit.responses session.settings.quitTimeout session.quit deliveries).flatMap
          Quit.Response.effects) state := by
  fun_induction serveAll kernel deliveries serviced session state with
  | case1 serviced session state => rfl
  | case2 rest serviced session state group hgroup ih =>
      rw [hforeground] at hgroup
      cases hgroup
  | case3 rest serviced session state _ ih =>
      simpa [Quit.responses, Quit.handle] using ih hforeground
  | case4 delivery rest serviced session state _ response performed served code hexit =>
      simp [Quit.responses, response, performed, hexit]
  | case5 delivery rest serviced session state _ response performed served hopen shown ih =>
      rw [ih hforeground]
      simp [Quit.responses, response, performed, served, hopen, performEffects]

end JobShell.Session

namespace JobShell.Quit

/-- A new controller answers every sequence of deliveries as the history asks, up to
and including the first answer that ends the session.  Whatever becomes of what is
printed, a new session does what the answers say and ends with them. -/
theorem follows_new (timeout : Duration) (deliveries : List Delivery) :
    Follows timeout [] {} deliveries (responses timeout {} deliveries) ∧
      ∀ (σ : Type) (kernel : Kernel σ) (system : σ),
        let session : Session := { settings := { quitTimeout := timeout } }
        let served := session.serveAll kernel deliveries .quiet system
        (served.1 = .exit 0 ↔ Confirms timeout {} deliveries) ∧
          served.2.2 =
            Session.performEffects kernel
              ((responses timeout {} deliveries).flatMap Response.effects) system := by
  refine ⟨follows_responses timeout remembers_new deliveries, ?_⟩
  intro σ kernel system session served
  refine ⟨?_, Session.serveAll_system kernel deliveries .quiet session system rfl⟩
  obtain ⟨_, _, _, hserved, ⟨hconfirms, hexit⟩ | ⟨hopen, hgoes, -⟩⟩ :=
    session.serveAll_session kernel deliveries .quiet system nofun
  · simpa only [served, hserved, hexit, true_iff] using hconfirms
  · simpa only [served, hserved, hgoes 0, false_iff] using hopen

example :
    (responses (.ofSeconds 5) {}
      [.quit, .timerExpired, .quit, .interrupt, .quit, .quit]).map Response.exitCode =
    [none, none, none, none, some 0] := rfl

end JobShell.Quit
