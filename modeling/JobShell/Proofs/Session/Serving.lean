import JobShell.Proofs.Quit.Confirmation

/-!
# Where serving signals leads

Serving signals is a course of few operations: the wakeups are read, the notes are
taken, and the deliveries are answered by printing, by setting or cancelling the alarm
and by interrupting a group.  If each of these leads from a state to a related one, so
does serving as a whole.
-/

namespace JobShell

variable {σ : Type}

theorem Collector.drain_related {collector : Collector σ} (related : σ → σ → Prop)
    (hrefl : ∀ state, related state state)
    (htrans : ∀ {first second third}, related first second → related second third →
      related first third)
    (hread : ∀ state, related state (collector.readWakeups state).2) (limit : Nat) (state : σ) :
    related state (collector.drain limit state) := by
  induction limit generalizing state with
  | zero => exact hrefl state
  | succ limit ih =>
      dsimp only [Collector.drain]
      split
      · exact hread state
      · exact htrans (hread state) (ih _)

/-- What is done about signals leads from a state to a related one.  Nothing is said
about setting the alarm for no time at all. -/
structure Kernel.RespondsWithin (kernel : Kernel σ) (related : σ → σ → Prop) : Prop where
  refl : ∀ state, related state state
  trans : ∀ {first second third}, related first second → related second third →
    related first third
  print : ∀ bytes state, related state (kernel.print bytes state).2
  interruptGroup : ∀ group state, related state (kernel.interruptGroup group state)
  setAlarm : ∀ seconds state, 0 < seconds → related state (kernel.setAlarm seconds state)
  cancelAlarm : ∀ state, related state (kernel.cancelAlarm state)

namespace Kernel.RespondsWithin

variable {kernel : Kernel σ} {related : σ → σ → Prop}

theorem sayAll (hresponds : kernel.RespondsWithin related) (texts : List String) (state : σ) :
    related state (kernel.sayAll texts state).2 := by
  fun_induction Kernel.sayAll kernel texts state with
  | case1 state => exact hresponds.refl state
  | case2 text rest state printed hprint ih =>
      have hprinted := hresponds.print (Text.encode text) state
      rw [show kernel.print (Text.encode text) state = _ from hprint] at hprinted
      exact hresponds.trans hprinted ih
  | case3 text rest state failure printed hprint =>
      have hprinted := hresponds.print (Text.encode text) state
      rwa [show kernel.print (Text.encode text) state = _ from hprint] at hprinted

theorem performEffects (hresponds : kernel.RespondsWithin related)
    (effects : List Quit.Effect) (state : σ) :
    related state (Session.performEffects kernel effects state) := by
  induction effects generalizing state with
  | nil => exact hresponds.refl state
  | cons effect rest ih =>
      refine hresponds.trans ?_ (ih _)
      cases effect with
      | announce timeout => exact hresponds.print _ state
      | arm timeout => exact hresponds.setAlarm _ state (Quit.alarmSeconds_pos timeout)
      | cancel => exact hresponds.cancelAlarm state

theorem serveAll (hresponds : kernel.RespondsWithin related)
    (deliveries : List Quit.Delivery) (serviced : Serviced) (session : Session) (state : σ) :
    related state (session.serveAll kernel deliveries serviced state).2.2 := by
  fun_induction Session.serveAll kernel deliveries serviced session state with
  | case1 serviced session state => exact hresponds.refl state
  | case2 rest serviced session state group hforeground ih =>
      exact hresponds.trans (hresponds.interruptGroup group state) ih
  | case3 rest serviced session state hforeground ih => exact ih
  | case4 delivery rest serviced session state _ response performed served code hexit =>
      exact hresponds.performEffects response.effects state
  | case5 delivery rest serviced session state _ response performed served hopen shown ih =>
      exact hresponds.trans (hresponds.performEffects response.effects state) ih

end Kernel.RespondsWithin

/-- Collecting leads to a related state as well. -/
structure Kernel.ServesWithin (kernel : Kernel σ) (related : σ → σ → Prop) : Prop
    extends kernel.RespondsWithin related where
  readWakeups : ∀ state, related state (kernel.readWakeups state).2
  takeAlarm : ∀ state, related state (kernel.takeAlarm state).2
  takeQuits : ∀ state, related state (kernel.takeQuits state).2
  takeInterrupt : ∀ state, related state (kernel.takeInterrupt state).2

namespace Kernel.ServesWithin

variable {kernel : Kernel σ} {related : σ → σ → Prop}

theorem takePending (hserves : kernel.ServesWithin related) (limit : Nat) (state : σ) :
    related state (kernel.takePending limit state).2 := by
  have hdrained : related state (kernel.drain limit state) :=
    Collector.drain_related related hserves.refl hserves.trans hserves.readWakeups limit state
  have halarm := hserves.trans hdrained (hserves.takeAlarm _)
  have hquits := hserves.trans halarm (hserves.takeQuits _)
  exact hserves.trans hquits (hserves.takeInterrupt _)

theorem serviceSignals (hserves : kernel.ServesWithin related) (session : Session)
    (state : σ) : related state (session.serviceSignals kernel state).2.2 :=
  hserves.trans (hserves.takePending _ state) (hserves.serveAll _ _ session _)

end Kernel.ServesWithin

end JobShell
