import JobShell.Machine.System
import JobShell.Proofs.Recorder.Bookkeeping

/-!
# No signal is lost

Handlers may run before any operation of a program, those of a collection included.
Whenever they do, every quit is counted once, an alarm or an interrupt is reported by
the next collection and only if one has come since the last report, and between two
collections the pipe holds a byte as long as something has not been taken.  Inside a
collection the last of these does not hold: the pipe is emptied before the notes are
taken.  It holds again afterwards, for what a kind of note says by then has come behind
the read.
-/

namespace JobShell

/-- A recorder, the signals that are still to arrive, and what has happened. -/
structure Recording where
  recorder : Recorder := {}
  /-- The signals that arrive before each of the operations to come, next first. -/
  arrivals : Nat → List Signal
  log : Log := []

namespace Recording

/-- The handlers run for the signals that arrive before the next operation. -/
def arrive (recording : Recording) : Recording where
  recorder := (recording.arrivals 0).foldl Recorder.record recording.recorder
  arrivals turn := recording.arrivals (turn + 1)
  log := recording.log ++ (recording.arrivals 0).map .recorded

/-- An operation on the recorder, with what it adds to the log. -/
def perform {α : Type} (operation : Recorder → α × Recorder) (occurrences : α → Log)
    (recording : Recording) : α × Recording :=
  let arrived := recording.arrive
  let (answer, recorder) := operation arrived.recorder
  (answer, { arrived with recorder, log := arrived.log ++ occurrences answer })

/-- Collecting while handlers run between any two operations. -/
def collector : Collector Recording where
  readWakeups := perform Recorder.readWakeups fun _ => [.read]
  takeAlarm := perform Recorder.takeAlarm fun alarmed =>
    (Collector.deliveries alarmed 0 false).map .collected
  takeQuits := perform Recorder.takeQuits fun quits =>
    (Collector.deliveries false quits false).map .collected
  takeInterrupt := perform Recorder.takeInterrupt fun interrupted =>
    (Collector.deliveries false 0 interrupted).map .collected

/-- What a program does next. -/
inductive Task where
  /-- Something that leaves the recorder alone. -/
  | work
  /-- Collecting, with so many reads at most. -/
  | collect (limit : Nat)

/-- The deliveries that are returned to a program, and where it leaves the recorder. -/
def run : List Task → Recording → List Quit.Delivery × Recording
  | [], recording => ([], recording)
  | .work :: rest, recording => run rest recording.arrive
  | .collect limit :: rest, recording =>
      let (deliveries, recording) := collector.takePending limit recording
      let (later, recording) := run rest recording
      (deliveries ++ later, recording)

/-- The log tells how the recorder has come about. -/
def Sound (recording : Recording) : Prop :=
  recording.log.Tells recording.recorder

/-- What is held for a delivery has left a byte in the pipe. -/
def Awake (delivery : Quit.Delivery) (recording : Recording) : Prop :=
  recording.recorder.Holds delivery → 0 < recording.recorder.wakeups

variable {recording : Recording}

/-! ## Arrivals -/

theorem sound_arrive (hsound : recording.Sound) : recording.arrive.Sound :=
  hsound.arrive (recording.arrivals 0)

theorem deliveries_arrive (recording : Recording) :
    recording.arrive.log.deliveries = recording.log.deliveries := by
  simp [arrive, Log.deliveries_append]

theorem holds_arrive (recording : Recording) {delivery : Quit.Delivery}
    (hholds : recording.recorder.Holds delivery) :
    recording.arrive.recorder.Holds delivery :=
  Recorder.holds_foldl_record _ _ hholds

theorem awake_arrive (hsound : recording.Sound) {delivery : Quit.Delivery}
    (hawake : recording.Awake delivery) : recording.arrive.Awake delivery := by
  rw [Awake, arrive]
  rcases (recording.arrivals 0).eq_nil_or_concat with hnone | ⟨earlier, last, hsome⟩
  · rw [hnone]
    exact hawake
  · intro _
    rw [hsome, List.concat_eq_append, List.foldl_append]
    apply Recorder.wakeups_record_pos
    rw [Recorder.capacity_foldl_record]
    exact hsound.capacity_pos

/-! ## One operation of a collection -/

/-- Between two states of a recording one kind of notes has been taken. -/
structure Takes (delivery : Quit.Delivery) (recording : Recording)
    (returned : List Quit.Delivery) (next : Recording) : Prop where
  sound : recording.Sound → next.Sound
  deliveries : next.log.deliveries = recording.log.deliveries ++ returned
  reported : recording.recorder.Holds delivery → delivery ∈ returned
  others : ∀ other, other ≠ delivery →
    recording.recorder.Holds other → next.recorder.Holds other
  awake : recording.Sound → ∀ other, (other ≠ delivery → recording.Awake other) →
    next.Awake other

theorem takes_perform {α : Type} {delivery : Quit.Delivery}
    (operation : Recorder → α × Recorder) (returned : α → List Quit.Delivery)
    (htakes : ∀ recorder : Recorder,
      recorder.Takes delivery (returned (operation recorder).1) (operation recorder).2)
    {answer : α} {next : Recording}
    (hperform : perform operation (fun answer => (returned answer).map .collected) recording =
      (answer, next)) :
    Takes delivery recording (returned answer) next := by
  obtain ⟨htells, hreported, hemptied, hothers, hwakeups⟩ := htakes recording.arrive.recorder
  cases hperform
  refine ⟨fun hsound => htells _ (sound_arrive hsound), ?_, ?_, ?_, ?_⟩
  · rw [← deliveries_arrive recording]
    simp [Log.deliveries_append]
  · intro hholds
    exact hreported (holds_arrive recording hholds)
  · intro other hother hholds
    exact (hothers other hother).mpr (holds_arrive recording hholds)
  · intro hsound other hawake hholds
    by_cases hother : other = delivery
    · rw [hother] at hholds
      exact absurd hholds hemptied
    · rw [hwakeups]
      exact awake_arrive hsound (hawake hother) ((hothers other hother).mp hholds)

/-- Reading from the pipe takes no notes. -/
structure Drains (recording next : Recording) : Prop where
  sound : recording.Sound → next.Sound
  deliveries : next.log.deliveries = recording.log.deliveries
  holds : ∀ delivery, recording.recorder.Holds delivery → next.recorder.Holds delivery

theorem drains_readWakeups (recording : Recording) :
    Drains recording (collector.readWakeups recording).2 where
  sound hsound := (sound_arrive hsound).step (.read _)
  deliveries := by
    rw [← deliveries_arrive recording]
    exact (Log.deliveries_append _ [.read]).trans (List.append_nil _)
  holds delivery hholds := by
    have harrived := holds_arrive recording hholds
    cases delivery <;> exact harrived

theorem drains_drain (limit : Nat) (recording : Recording) :
    Drains recording (collector.drain limit recording) := by
  induction limit generalizing recording with
  | zero => exact ⟨id, rfl, fun _ => id⟩
  | succ limit ih =>
      have hread := drains_readWakeups recording
      by_cases hshort : (collector.readWakeups recording).1 < Recorder.readSize
      · simpa [Collector.drain, hshort] using hread
      · have hrest := ih (collector.readWakeups recording).2
        simp only [Collector.drain, hshort, if_false]
        exact ⟨hrest.sound ∘ hread.sound, hrest.deliveries.trans hread.deliveries,
          fun delivery hholds => hrest.holds delivery (hread.holds delivery hholds)⟩

/-! ## Whole collections -/

/-- Collecting returns whatever is held when it begins, and whatever is held when it
ends has left a byte in the pipe. -/
structure Collects (recording : Recording) (returned : List Quit.Delivery)
    (next : Recording) : Prop where
  sound : recording.Sound → next.Sound
  deliveries : next.log.deliveries = recording.log.deliveries ++ returned
  reported : ∀ delivery, recording.recorder.Holds delivery → delivery ∈ returned
  awake : recording.Sound → ∀ delivery, next.Awake delivery

theorem collects_takePending (limit : Nat) {returned : List Quit.Delivery}
    {next : Recording}
    (hpending : collector.takePending limit recording = (returned, next)) :
    recording.Collects returned next := by
  have hdrains := drains_drain limit recording
  obtain ⟨alarmed, afterAlarm, quits, afterQuits, interrupted, halarm, hquit, hinterrupt, rfl⟩ :=
    collector.takePending_steps hpending
  generalize collector.drain limit recording = drained at hdrains halarm
  have htimer := takes_perform Recorder.takeAlarm
    (fun alarmed => Collector.deliveries alarmed 0 false) Recorder.takes_takeAlarm halarm
  have hpresses := takes_perform Recorder.takeQuits
    (fun quits => Collector.deliveries false quits false) Recorder.takes_takeQuits hquit
  have hlast := takes_perform Recorder.takeInterrupt
    (fun interrupted => Collector.deliveries false 0 interrupted)
    Recorder.takes_takeInterrupt hinterrupt
  have hsplit : Collector.deliveries alarmed quits interrupted =
      Collector.deliveries alarmed 0 false ++ Collector.deliveries false quits false ++
        Collector.deliveries false 0 interrupted := by
    simp [Collector.deliveries]
  refine ⟨?_, ?_, ?_, ?_⟩
  · exact hlast.sound ∘ hpresses.sound ∘ htimer.sound ∘ hdrains.sound
  · rw [hlast.deliveries, hpresses.deliveries, htimer.deliveries, hdrains.deliveries, hsplit]
    simp only [List.append_assoc]
  · intro delivery hholds
    have hdrained := hdrains.holds delivery hholds
    rw [hsplit, List.mem_append, List.mem_append]
    cases delivery with
    | timerExpired => exact .inl (.inl (htimer.reported hdrained))
    | quit => exact .inl (.inr (hpresses.reported (htimer.others _ (by decide) hdrained)))
    | interrupt =>
        have hheld :=
          hpresses.others .interrupt (by decide) (htimer.others .interrupt (by decide) hdrained)
        exact .inr (hlast.reported hheld)
  · -- Nothing is known of the pipe when the first notes are taken: each kind in turn is
    -- empty afterwards, and what comes behind it finds the pipe written to.
    intro hsound delivery
    have hdrained := hdrains.sound hsound
    have htaken := htimer.sound hdrained
    apply hlast.awake (hpresses.sound htaken)
    intro hinterrupt
    apply hpresses.awake htaken
    intro hquit
    apply htimer.awake hdrained
    intro htimer
    cases delivery with
    | quit => exact absurd rfl hquit
    | timerExpired => exact absurd rfl htimer
    | interrupt => exact absurd rfl hinterrupt

/-! ## Whole programs -/

/-- What a program may rely on between its operations. -/
structure Accounted (returned : List Quit.Delivery) (recording : Recording) : Prop where
  sound : recording.Sound
  deliveries : recording.log.deliveries = returned
  awake : ∀ delivery, recording.Awake delivery

theorem accounted_run (tasks : List Task) {earlier : List Quit.Delivery}
    (haccounted : Accounted earlier recording) {returned : List Quit.Delivery}
    {next : Recording} (hrun : run tasks recording = (returned, next)) :
    Accounted (earlier ++ returned) next := by
  induction tasks generalizing recording earlier returned with
  | nil =>
      cases hrun
      rwa [List.append_nil]
  | cons task rest ih =>
      cases task with
      | work =>
          refine ih ⟨sound_arrive haccounted.sound, ?_, ?_⟩ hrun
          · rw [deliveries_arrive, haccounted.deliveries]
          · intro delivery
            exact awake_arrive haccounted.sound (haccounted.awake delivery)
      | collect limit =>
          rw [run] at hrun
          generalize hpending : collector.takePending limit recording = pending at hrun
          obtain ⟨deliveries, collected⟩ := pending
          have hcollects := collects_takePending limit hpending
          cases hrun
          rw [← List.append_assoc]
          refine ih ⟨hcollects.sound haccounted.sound, ?_,
            hcollects.awake haccounted.sound⟩ rfl
          rw [hcollects.deliveries, haccounted.deliveries]

end Recording

/-! ## Sleeping -/

theorem Machine.runUntil_of_stopped (stop : Machine → Bool) (rounds : Nat)
    (machine : Machine) (hstop : stop machine = true) :
    machine.runUntil stop rounds = machine := by
  cases rounds with
  | zero => rfl
  | succ rounds => simp [runUntil, hstop]

namespace Recorder

/-- On a machine with this recorder a sleep is over before it begins, and a wait for a
line ends without one. -/
def EndsSleep (recorder : Recorder) : Prop :=
  ∀ (account : Account) (machine : Machine), machine.recorder = recorder →
    (Machine.kernel account).sleep machine = machine ∧
      ∀ (reader : LineReader) (limit : Nat), LineReader.splitLine reader.pending = none →
        reader.next (Machine.kernel account).toLineSource (limit + 1) machine =
          some (.ok .interrupted, reader, machine)

theorem endsSleep {recorder : Recorder} (hwakeups : 0 < recorder.wakeups) :
    recorder.EndsSleep := by
  rintro account machine rfl
  have hawake : machine.isAwake = true := decide_eq_true hwakeups
  refine ⟨machine.runUntil_of_stopped Machine.isAwake Machine.roundLimit hawake, ?_⟩
  intro reader limit hsplit
  simp [LineReader.next, hsplit, Machine.kernel, hawake]

end Recorder

namespace Recording

/-- What has been returned to a program and what is left in the recorder account for
every signal. -/
structure Lossless (returned : List Quit.Delivery) (recording : Recording) : Prop where
  logged : recording.log.deliveries = returned
  quits : returned.count .quit + recording.recorder.quits =
    recording.log.count (.recorded .quit)
  held : ∀ delivery, recording.recorder.Holds delivery ↔ recording.log.Untaken delivery
  reported : ∀ delivery, recording.recorder.Holds delivery →
    ∀ limit, delivery ∈ (collector.takePending limit recording).1
  founded : ∀ delivery before after,
    recording.log = before ++ .collected delivery :: after → Log.Untaken before delivery
  awake : (∃ delivery, recording.log.Untaken delivery) ∨
      (∃ signal, Stands (.recorded signal) .read recording.log) →
    0 < recording.recorder.wakeups ∧ recording.recorder.EndsSleep

/-- No signal is lost and no wakeup is missed, whatever a program does, whenever signals
arrive and however small the pipe is. -/
theorem lossless_run (tasks : List Task) (arrivals : Nat → List Signal) {capacity : Nat}
    (hcapacity : 0 < capacity) {returned : List Quit.Delivery} {recording : Recording}
    (hrun : run tasks { recorder := { capacity }, arrivals } = (returned, recording)) :
    Lossless returned recording := by
  have hnew : Accounted [] { recorder := { capacity }, arrivals } := by
    refine ⟨.new hcapacity, rfl, ?_⟩
    intro delivery hholds
    cases delivery <;> cases hholds
  obtain ⟨hsound, hlogged, hawake⟩ := accounted_run tasks hnew hrun
  refine ⟨hlogged, ?_, hsound.holds_iff, ?_, ?_, ?_⟩
  · rw [← List.nil_append returned, ← hlogged, Log.count_deliveries]
    exact hsound.quits
  · intro delivery hholds limit
    exact (collects_takePending limit rfl).reported delivery hholds
  · intro delivery before after hlog
    exact hsound.untaken_of_collected hlog
  · intro huntaken
    have hwakeups : 0 < recording.recorder.wakeups := by
      rcases huntaken with ⟨delivery, huntaken⟩ | ⟨signal, hunread⟩
      · exact hawake delivery ((hsound.holds_iff delivery).mpr huntaken)
      · exact hsound.wakeups_pos hunread
    exact ⟨hwakeups, Recorder.endsSleep hwakeups⟩

/-- Signals that arrive during a collection: before the read, and before each kind of
note is taken. -/
def scattered : Nat → List Signal
  | 0 => [.quit, .quit]
  | 1 => [.alarm]
  | 2 => [.quit, .alarm]
  | 3 => [.alarm, .interrupt]
  | 4 => [.quit, .child]
  | _ => []

theorem lossless_run_scattered :
    ∃ recording : Recording,
      run [.work, .collect 2] { recorder := { capacity := 1 }, arrivals := scattered } =
        ([.timerExpired, .quit, .quit, .quit, .interrupt], recording) ∧
      recording.recorder =
        { quits := 1, alarmed := true, wakeups := 1, capacity := 1 } ∧
      Lossless [.timerExpired, .quit, .quit, .quit, .interrupt] recording := by
  have hreturned :
      (run [.work, .collect 2] { recorder := { capacity := 1 }, arrivals := scattered }).1 =
        [.timerExpired, .quit, .quit, .quit, .interrupt] := by
    decide +kernel
  have hrun := Prod.ext hreturned rfl
  exact ⟨_, hrun, by decide +kernel, lossless_run [.work, .collect 2] scattered (by decide) hrun⟩

end Recording
end JobShell
