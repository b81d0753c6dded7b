import JobShell.Proofs.Quit.Vigil

/-!
# Two presses in one window

A quit is confirmed by two presses, and the alarm is not to come between them.  A
confirmed quit has two such presses in its past, with one exception: when an alarm and a
press behind it both come after the alarm has been looked for and before the presses are
taken, the press is collected and the alarm is not, and the press is taken for one that
came before the alarm.
-/

namespace JobShell

namespace Quit

/-- Of the deliveries of one collection with one quit at most, only that quit can confirm,
and only in a session whose timer has not been collected with it. -/
theorem confirms_deliveries {timeout : Duration} {quit : State} {quits : Nat}
    {alarmed interrupted : Bool} (hone : quits ≤ 1)
    (hconfirms : Confirms timeout quit (Collector.deliveries alarmed quits interrupted)) :
    quit.armed = true ∧ alarmed = false ∧ quits = 1 := by
  obtain rfl | rfl : quits = 0 ∨ quits = 1 := by omega
  · cases alarmed <;> cases interrupted <;>
      simp [Collector.deliveries, confirms_cons, not_confirms_nil, handle] at hconfirms
  · have hafter (quit : State) :
        ¬ Confirms timeout quit (if interrupted then [.interrupt] else []) := by
      cases interrupted <;> simp [confirms_cons, not_confirms_nil, handle]
    cases alarmed with
    | true =>
        simp [Collector.deliveries, confirms_cons, hafter, handle, State.expire,
          State.press] at hconfirms
    | false =>
        cases harmed : quit.armed with
        | true => exact ⟨rfl, rfl, rfl⟩
        | false =>
            simp [Collector.deliveries, confirms_cons, hafter,
              handle_of_idle timeout harmed] at hconfirms

end Quit

namespace Session

variable {σ : Type} {kernel : Kernel σ} {view : σ → Vigil}

/-! ## Collecting -/

theorem balanced_drain (hkernel : kernel.KeepsVigil view) (limit : Nat) (state : σ)
    (hbalanced : (view state).Balanced []) :
    (view (kernel.drain limit state)).Balanced [] := by
  let related (state next : σ) : Prop := (view state).Balanced [] → (view next).Balanced []
  have hread (state : σ) : related state (kernel.readWakeups state).2 := by
    intro hbalanced
    obtain ⟨met, hcomes, -, hread⟩ := hkernel.readWakeups state
    rw [hread]
    exact (hcomes.balanced hbalanced).marked (by simp) rfl
  exact Collector.drain_related related (fun _ => id)
    (fun hfirst hsecond => hsecond ∘ hfirst) hread limit state hbalanced

/-- One press is taken in a session whose timer is on its way and has not been collected,
and it is not paired.  The timer can only have gone off since the alarm was looked for,
and the press has come behind it. -/
theorem overtaken_of_press {asked counted : Vigil} {window : List Signal} {quit : Quit.State}
    {unserved : List Quit.Delivery} (hrecords : asked.Records counted window)
    (hcame : counted.signals.recorder.alarmed = true →
      asked.signals.recorder.alarmed = true ∨ .alarm ∈ window)
    (hdown : asked.signals.recorder.alarmed = false)
    (htimes : quit.Times counted.signals unserved) (harmed : quit.armed = true)
    (hunserved : unserved.count .timerExpired = 0) (hbalanced : counted.Balanced [])
    (hpress : counted.signals.recorder.quits = 1) (hunpaired : ¬ counted.past.Paired) :
    Past.Overtaken window := by
  have hone := hbalanced.le_one hunpaired
  have hpast := hbalanced hunpaired
  have htimer := htimes.timer
  rw [List.count_nil, hpress] at hone hpast
  rw [harmed, hunserved, Bool.toNat_true] at htimer
  have hflag : counted.signals.recorder.alarmed = true := by
    cases hup : counted.signals.recorder.alarmed with
    | true => rfl
    | false =>
        rw [hup, Bool.toNat_false] at htimer
        omega
  have hmissed : .alarm ∈ window := by
    refine (hcame hflag).resolve_left ?_
    rw [hdown]
    exact Bool.false_ne_true
  apply Past.overtaken_of_sinceAlarm_pos asked.past _ hmissed
  rw [← hrecords, ← hpast]
  omega

/-- What a collection adds to the past, and what it means if its deliveries confirm a
quit. -/
structure Collects (quit : Quit.State) (deliveries : List Quit.Delivery) (vigil : Vigil)
    (before : Past) (window later : List Signal) : Prop where
  past : vigil.past = before ++ .alarmTaken :: (Past.recorded window ++
    .quitsTaken :: Past.recorded later)
  balanced : vigil.Balanced deliveries
  confirms : ∀ timeout, Quit.Confirms timeout quit deliveries →
    Past.Paired (before ++ .alarmTaken :: Past.recorded window) ∨ Past.Overtaken window

theorem collects_takePending (hkernel : kernel.KeepsVigil view) {quit : Quit.State}
    (limit : Nat) {state next : σ} {deliveries : List Quit.Delivery}
    (htimes : quit.Times (view state).signals []) (hbalanced : (view state).Balanced [])
    (hpending : kernel.takePending limit state = (deliveries, next)) :
    ∃ before window later, Collects quit deliveries (view next) before window later := by
  have hdrained := times_drain hkernel.keepsAlarm limit state htimes
  obtain ⟨alarmed, afterAlarm, quits, afterQuits, interrupted, halarm, hquit, hinterrupt, rfl⟩ :=
    kernel.takePending_steps hpending
  obtain ⟨asked, hasked, hanswer, hmarked⟩ := hkernel.takeAlarm (kernel.drain limit state)
  obtain ⟨counted, hcounted, hcount, hquitted⟩ := hkernel.takeQuits afterAlarm
  obtain ⟨last, hlast, -, hfinal⟩ := hkernel.takeInterrupt afterQuits
  rw [halarm] at hanswer hmarked
  rw [hquit] at hcount hquitted
  rw [hinterrupt] at hfinal
  dsimp only at hanswer hmarked hcount hquitted hfinal
  obtain ⟨window, hwindow, hcame⟩ := hcounted.records
  obtain ⟨later, hlater, -⟩ := hlast.records
  have hcollected : counted.past = asked.past ++ .alarmTaken :: Past.recorded window := by
    rw [hwindow, hmarked, List.append_assoc, List.singleton_append]
  have hafter : (view afterAlarm).Balanced [] := by
    rw [hmarked]
    exact (hasked.balanced (balanced_drain hkernel limit state hbalanced)).marked (by simp) rfl
  have hmet : counted.Balanced [] := hcounted.balanced hafter
  refine ⟨asked.past, window, later, ?_, ?_, ?_⟩
  · rw [hfinal, List.append_nil, hlater, hquitted, hcollected]
    simp
  · have hquits : (view afterQuits).Balanced
        (Collector.deliveries alarmed quits interrupted) := by
      rw [hquitted]
      refine hmet.marked (by simp) ?_
      rw [Collector.count_quit_deliveries, hcount]
      exact congrArg (· + _) (Nat.add_comm _ _)
    rw [hfinal]
    exact (hlast.balanced hquits).marked (by simp) rfl
  · intro timeout hconfirms
    rw [← hcollected]
    refine or_iff_not_imp_left.mpr fun hunpaired => ?_
    have hone := hmet.le_one hunpaired
    have hquits : counted.signals.recorder.quits ≤ 1 := by omega
    obtain ⟨harmed, rfl, hpress⟩ := Quit.confirms_deliveries (hcount ▸ hquits) hconfirms
    have hflag : asked.signals.recorder.alarmed = false := hanswer.symm
    have hserved : quit.Times (view afterAlarm).signals [] := by
      have htimer := (hdrained.comes hasked.signals).timer
      rw [hflag] at htimer
      rw [hmarked]
      exact ⟨htimer, hdrained.presses⟩
    have hdown : (view afterAlarm).signals.recorder.alarmed = false := by
      rw [hmarked]
      rfl
    exact overtaken_of_press hwindow hcame hdown (hserved.comes hcounted.signals) harmed rfl hmet
      (hcount.symm.trans hpress) hunpaired

/-! ## Serving -/

/-- What is done about deliveries adds nothing to the past but signals. -/
theorem respondsWithin_records (hkernel : kernel.KeepsVigil view) :
    kernel.RespondsWithin fun state next =>
      ∃ signals, (view state).Records (view next) signals where
  refl state := ⟨[], .refl _⟩
  trans := by
    rintro _ _ _ ⟨earlier, hearlier⟩ ⟨later, hlater⟩
    exact ⟨earlier ++ later, hearlier.trans hlater⟩
  print bytes state := (hkernel.print bytes state).records.imp fun _ => And.left
  interruptGroup group state :=
    (hkernel.interruptGroup group state).records.imp fun _ => And.left
  setAlarm seconds state hseconds := by
    obtain ⟨met, hcomes, hset⟩ := hkernel.setAlarm seconds state hseconds
    obtain ⟨signals, hrecords, -⟩ := hcomes.records
    exact ⟨signals, (congrArg Vigil.past hset).trans hrecords⟩
  cancelAlarm state := by
    obtain ⟨met, hcomes, hcancelled⟩ := hkernel.cancelAlarm state
    obtain ⟨signals, hrecords, -⟩ := hcomes.records
    exact ⟨signals, (congrArg Vigil.past hcancelled).trans hrecords⟩

/-- A press that confirms nothing is one that sets the alarm. -/
theorem balanced_handle (hkernel : kernel.KeepsVigil view) (timeout : Duration)
    {quit : Quit.State} {delivery : Quit.Delivery} {rest : List Quit.Delivery} {state : σ}
    (htimes : quit.Times (view state).signals (delivery :: rest))
    (hbalanced : (view state).Balanced (delivery :: rest))
    (hopen : (Quit.handle timeout delivery quit).exitCode = none) :
    (view (performEffects kernel (Quit.handle timeout delivery quit).effects state)).Balanced
      rest := by
  cases delivery with
  | quit =>
      cases harmed : quit.armed with
      | true =>
          rw [htimes.handle_of_armed harmed] at hopen
          cases hopen
      | false =>
          have hannounced := hkernel.print (Text.encode (Quit.announcement timeout)) state
          obtain ⟨met, hcomes, hset⟩ := hkernel.setAlarm (Quit.alarmSeconds timeout)
            (kernel.say (Quit.announcement timeout) state).2 (Quit.alarmSeconds_pos timeout)
          have htimer := ((htimes.comes hannounced.signals).comes hcomes.signals).timer
          have hmet := hcomes.balanced (hannounced.balanced hbalanced)
          rw [Quit.handle_of_idle timeout harmed]
          simp only [performEffects, List.foldl_cons, List.foldl_nil, performEffect, hset]
          intro hunpaired
          have hpast := hmet hunpaired
          rw [harmed, Bool.toNat_false] at htimer
          rw [List.count_cons_self] at hpast
          dsimp only
          rw [Bool.toNat_true]
          omega
  | timerExpired => exact hbalanced.recount (List.count_cons_of_ne (by decide))
  | interrupt => exact hbalanced.recount (List.count_cons_of_ne (by decide))

theorem balanced_serveAll (hkernel : kernel.KeepsVigil view)
    (deliveries : List Quit.Delivery) (serviced : Serviced) (session : Session) (state : σ)
    (htimes : session.quit.Times (view state).signals deliveries)
    (hbalanced : (view state).Balanced deliveries)
    (hopen : ∀ code, (serveAll kernel deliveries serviced session state).1 ≠ .exit code) :
    (view (serveAll kernel deliveries serviced session state).2.2).Balanced [] := by
  fun_induction serveAll kernel deliveries serviced session state with
  | case1 serviced session state => exact hbalanced
  | case2 rest serviced session state group hforeground ih =>
      have hforwarded := hkernel.interruptGroup group state
      have htimes := htimes.comes hforwarded.signals
      refine ih ⟨?_, htimes.presses⟩ ?_ hopen
      · simpa using htimes.timer
      · exact (hforwarded.balanced hbalanced).recount (List.count_cons_of_ne (by decide))
  | case3 rest serviced session state hforeground ih =>
      refine ih ⟨?_, htimes.presses⟩ ?_ hopen
      · simpa using htimes.timer
      · exact hbalanced.recount (List.count_cons_of_ne (by decide))
  | case4 delivery rest serviced session state _ response performed served code hexit =>
      exact absurd rfl (hopen code)
  | case5 delivery rest serviced session state _ response performed served hgoes shown ih =>
      obtain ⟨hexit, -⟩ | ⟨-, htimer⟩ :=
        times_handle hkernel.keepsAlarm session.settings.quitTimeout htimes
      · cases hgoes.symm.trans hexit
      · exact ih htimer (balanced_handle hkernel _ htimes hbalanced hgoes) hopen

/-! ## Whole sessions -/

/-- The states of a session between its rounds of serving signals, from one that has
just begun and has no past. -/
inductive Watched (kernel : Kernel σ) (view : σ → Vigil) : Session → σ → Prop where
  | begins {session : Session} {state : σ} (hquit : session.quit = {})
      (hsignals : (view state).signals.pending = false)
      (halarmed : (view state).signals.recorder.alarmed = false)
      (hquits : (view state).signals.recorder.quits = 0) (hpast : (view state).past = []) :
      Watched kernel view session state
  | goesOn {session next : Session} {state final : σ}
      (hwatched : Watched kernel view session state) (hquit : next.quit = session.quit)
      (hcomes : (view state).Comes (view final)) :
      Watched kernel view next final
  | serves {session next : Session} {state final : σ} {served : Serviced}
      (hwatched : Watched kernel view session state)
      (hserve : session.serviceSignals kernel state = (served, next, final))
      (hopen : ∀ code, served ≠ .exit code) :
      Watched kernel view next final

theorem Watched.ongoing {session : Session} {state : σ}
    (hwatched : Watched kernel view session state) :
    Ongoing kernel (fun state => (view state).signals) session state := by
  induction hwatched with
  | begins hquit hsignals halarmed _ _ => exact .begins hquit hsignals halarmed
  | goesOn _ hquit hcomes ih => exact ih.goesOn hquit hcomes.signals
  | serves _ hserve hopen ih => exact ih.serves hserve hopen

theorem balanced_watched (hkernel : kernel.KeepsVigil view) {session : Session} {state : σ}
    (hwatched : Watched kernel view session state) : (view state).Balanced [] := by
  induction hwatched with
  | begins _ hsignals _ hquits hpast =>
      intro _
      rw [hsignals, hquits, hpast]
      rfl
  | goesOn _ _ hcomes ih => exact hcomes.balanced ih
  | @serves session next state final served hwatched hserve hopen ih =>
      have htimes := times_ongoing hkernel.keepsAlarm hwatched.ongoing
      rw [serviceSignals] at hserve
      generalize hpending : kernel.takePending kernel.patience state = pending at hserve
      obtain ⟨deliveries, taken⟩ := pending
      obtain ⟨_, _, _, hcollects⟩ := collects_takePending hkernel _ htimes ih hpending
      have htaken := times_takePending hkernel.keepsAlarm _ htimes hpending
      have hserved := balanced_serveAll hkernel deliveries .quiet session taken htaken
        hcollects.balanced
      dsimp only at hserve
      rw [hserve] at hserved
      exact hserved hopen

/-- Whenever signals come, the past of a confirmed quit ends with the collection that
confirmed it.  Two quits have been recorded by then with no alarm between them, or an
alarm and a quit behind it have come in the window of that collection, after the alarm
has been looked for and before the presses are taken. -/
theorem confirmed_paired_or_overtaken (hkernel : kernel.KeepsVigil view)
    {session next : Session} {state final : σ} {code : Int}
    (hwatched : Watched kernel view session state)
    (hserve : session.serviceSignals kernel state = (.exit code, next, final)) :
    ∃ before window later,
      (view final).past = before ++ .alarmTaken :: (Past.recorded window ++
        .quitsTaken :: Past.recorded later) ∧
      (Past.Paired (before ++ .alarmTaken :: Past.recorded window) ∨
        Past.Overtaken window) := by
  have htimes := times_ongoing hkernel.keepsAlarm hwatched.ongoing
  rw [serviceSignals] at hserve
  generalize hpending : kernel.takePending kernel.patience state = pending at hserve
  obtain ⟨deliveries, taken⟩ := pending
  obtain ⟨before, window, later, hcollects⟩ :=
    collects_takePending hkernel _ htimes (balanced_watched hkernel hwatched) hpending
  obtain ⟨after, hafter⟩ :=
    (respondsWithin_records hkernel).serveAll deliveries .quiet session taken
  have hquiet (code : Int) : Serviced.quiet ≠ .exit code := by simp
  obtain ⟨served, quit, last, hserved, ⟨hconfirms, -⟩ | ⟨-, hopen, -⟩⟩ :=
    session.serveAll_session kernel deliveries .quiet taken hquiet
  · rw [show serveAll kernel deliveries .quiet session taken = (.exit code, next, final)
      from hserve] at hafter
    refine ⟨before, window, later ++ after, ?_, hcollects.confirms _ hconfirms⟩
    rw [hafter, hcollects.past]
    simp [Past.recorded]
  · rw [show serveAll kernel deliveries .quiet session taken = (.exit code, next, final)
      from hserve, Prod.mk.injEq] at hserved
    exact absurd hserved.1.symm (hopen code)

theorem eq_of_serviced {result : Serviced × Session × σ} {served : Serviced}
    (hserved : result.1 = served) : result = (served, result.2.1, result.2.2) := by
  rw [← hserved]

theorem confirmed_paired_or_overtaken_third_press :
    ∃ (session next : Session) (state final : Rehearsal),
      Watched Rehearsal.kernel Rehearsal.vigil session state ∧
      session.serviceSignals Rehearsal.kernel state = (.exit 0, next, final) ∧
      ∃ before window later,
        final.vigil.past = before ++ .alarmTaken :: (Past.recorded window ++
          .quitsTaken :: Past.recorded later) ∧
        (Past.Paired (before ++ .alarmTaken :: Past.recorded window) ∨
          Past.Overtaken window) := by
  -- The alarm comes behind the first press, and two more presses behind the alarm.
  let session : Session := {}
  let begun : Rehearsal := { arrivals := [[.quit], [], [], [], [], [], [.alarm, .quit], [.quit]] }
  let asked := session.serviceSignals Rehearsal.kernel begun
  let confirmed := asked.2.1.serviceSignals Rehearsal.kernel asked.2.2
  have hask : asked = (.redraw, asked.2.1, asked.2.2) :=
    eq_of_serviced (by decide +kernel)
  have hconfirm : confirmed = (.exit 0, confirmed.2.1, confirmed.2.2) :=
    eq_of_serviced (by decide +kernel)
  have hbegun : Watched Rehearsal.kernel Rehearsal.vigil session begun :=
    .begins rfl rfl rfl rfl rfl
  have hasked := hbegun.serves hask nofun
  exact ⟨_, _, _, _, hasked, hconfirm,
    confirmed_paired_or_overtaken Rehearsal.kernel_keepsVigil hasked hconfirm⟩

/-- The alarm that the first press has set comes between it and the second, and both come
after the alarm has been looked for.  The quit is confirmed. -/
theorem confirmed_unpaired :
    ∃ (session next : Session) (state final : Rehearsal),
      Rehearsal.kernel.KeepsVigil Rehearsal.vigil ∧
      Watched Rehearsal.kernel Rehearsal.vigil session state ∧
      session.serviceSignals Rehearsal.kernel state = (.exit 0, next, final) ∧
      final.vigil.past =
        [.recorded .quit, .alarmTaken, .quitsTaken,
          .alarmTaken, .recorded .alarm, .recorded .quit, .quitsTaken] ∧
      ¬ final.vigil.past.Paired := by
  let session : Session := {}
  let begun : Rehearsal :=
    { arrivals := [[.quit], [], [], [], [], [], [], [], [.alarm, .quit]] }
  let asked := session.serviceSignals Rehearsal.kernel begun
  let confirmed := asked.2.1.serviceSignals Rehearsal.kernel asked.2.2
  have hask : asked = (.redraw, asked.2.1, asked.2.2) :=
    eq_of_serviced (by decide +kernel)
  have hconfirm : confirmed = (.exit 0, confirmed.2.1, confirmed.2.2) :=
    eq_of_serviced (by decide +kernel)
  have hbegun : Watched Rehearsal.kernel Rehearsal.vigil session begun :=
    .begins rfl rfl rfl rfl rfl
  have hasked := hbegun.serves hask nofun
  exact ⟨_, _, _, _, Rehearsal.kernel_keepsVigil, hasked, hconfirm, by decide +kernel,
    by decide +kernel⟩

end Session

end JobShell
