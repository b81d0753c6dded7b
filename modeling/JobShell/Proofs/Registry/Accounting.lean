import JobShell.Proofs.Session.Timetable

/-!
# Accounting for background processes

Every process that has been pushed stands in a ledger, with a mark for whether it is
still listed.  Asking for the processes goes through the ledger in order, and between any
two questions more children may end.  A registry holds what its ledger lists, whatever
calls are made, and each end of a child is reported at most once.
-/

namespace JobShell

/-- What a process is to the shell.  A child that has ended is one until it is reaped. -/
inductive Standing where
  | stranger
  | alive
  | ended (ending : Ending)
  deriving DecidableEq, Repr

/-- An end as it is reported. -/
def Ending.report (pid : Pid) (ending : Ending) : Pid × Int :=
  (pid, ending.status.exitStatus)

/-- What each process is, and the children that have been reaped, in order. -/
structure Children where
  standing : Pid → Standing
  reaped : List (Pid × Ending)

namespace Children

/-- Some children end, and nothing else happens. -/
structure Ends (before after : Children) : Prop where
  standing : ∀ pid, after.standing pid = before.standing pid ∨
    before.standing pid = .alive ∧ ∃ ending, after.standing pid = .ended ending
  reaped : after.reaped = before.reaped

def reap (children : Children) (pid : Pid) (ending : Ending) : Children where
  standing := Function.update children.standing pid .stranger
  reaped := children.reaped ++ [(pid, ending)]

/-- One thing that may happen while the registry is not asked for anything. -/
inductive Passes (before : Children) : Children → Prop where
  | ends {after : Children} (hends : before.Ends after) : Passes before after
  | born {pid : Pid} (hstranger : before.standing pid = .stranger) :
      Passes before { before with standing := Function.update before.standing pid .alive }
  | reaped {pid : Pid} {ending : Ending} (hended : before.standing pid = .ended ending) :
      Passes before (before.reap pid ending)

/-- What is answered to a question, which children may end before.  An error may lose the
end of the child. -/
inductive Answers (before : Children) (pid : Pid) :
    Except Errno WaitStatus → Children → Prop where
  | alive {now : Children} (hends : before.Ends now) (halive : now.standing pid = .alive) :
      Answers before pid (.ok .alive) now
  | ended {now : Children} {ending : Ending} (hends : before.Ends now)
      (hended : now.standing pid = .ended ending) :
      Answers before pid (.ok ending.status) (now.reap pid ending)
  | stranger {now : Children} (hends : before.Ends now)
      (hstranger : now.standing pid = .stranger) : Answers before pid (.error .noChild) now
  | failed {now : Children} {errno : Errno} (hends : before.Ends now)
      (herrno : errno ≠ .noChild) : Answers before pid (.error errno) now
  | lost {now : Children} {errno : Errno} {ending : Ending} (hends : before.Ends now)
      (herrno : errno ≠ .noChild) (hended : now.standing pid = .ended ending) :
      Answers before pid (.error errno) (now.reap pid ending)

variable {before now after : Children} {pid : Pid} {answer : Except Errno WaitStatus}

theorem Ends.alive (hends : before.Ends after) (halive : after.standing pid = .alive) :
    before.standing pid = .alive := by
  rcases hends.standing pid with hsame | ⟨hbefore, -⟩
  · rw [← hsame, halive]
  · exact hbefore

theorem standing_reap_eq_alive_iff (children : Children) (pid other : Pid) (ending : Ending) :
    (children.reap pid ending).standing other = .alive ↔
      other ≠ pid ∧ children.standing other = .alive := by
  by_cases hother : other = pid
  · simp [reap, hother]
  · simp [reap, hother]

/-- No child comes to life by a question. -/
theorem Answers.alive_of_alive (hanswers : before.Answers pid answer after) {other : Pid}
    (halive : after.standing other = .alive) : before.standing other = .alive := by
  cases hanswers with
  | alive hends _ => exact hends.alive halive
  | ended hends _ => exact hends.alive ((standing_reap_eq_alive_iff _ _ _ _).mp halive).2
  | stranger hends _ => exact hends.alive halive
  | failed hends _ => exact hends.alive halive
  | lost hends _ _ => exact hends.alive ((standing_reap_eq_alive_iff _ _ _ _).mp halive).2

theorem Answers.of_alive (hanswers : before.Answers pid (.ok .alive) now) :
    before.Ends now ∧ now.standing pid = .alive := by
  generalize hanswer : (.ok .alive : Except Errno WaitStatus) = answer at hanswers
  cases hanswers with
  | alive hends halive => exact ⟨hends, halive⟩
  | @ended _ ending _ _ => cases ending <;> cases hanswer
  | stranger => cases hanswer
  | failed => cases hanswer
  | lost => cases hanswer

theorem Answers.of_noChild (hanswers : before.Answers pid (.error .noChild) now) :
    before.Ends now ∧ now.standing pid = .stranger := by
  cases hanswers with
  | stranger hends hstranger => exact ⟨hends, hstranger⟩
  | failed _ herrno => exact absurd rfl herrno
  | lost _ herrno _ => exact absurd rfl herrno

/-- An answer other than that a child is alive reaps it. -/
theorem Answers.of_ok {status : WaitStatus} (hanswers : before.Answers pid (.ok status) after)
    (halive : status ≠ .alive) :
    ∃ (now : Children) (ending : Ending), before.Ends now ∧ now.standing pid = .ended ending ∧
      ending.status = status ∧ after = now.reap pid ending := by
  cases hanswers with
  | alive => exact absurd rfl halive
  | ended hends hended => exact ⟨_, _, hends, hended, rfl, rfl⟩

/-- The reports are of ends that have been reaped since, each of them of another end. -/
def Reported (before after : Children) (reports : List (Pid × Int)) : Prop :=
  ∃ since, after.reaped = before.reaped ++ since ∧
    reports.Sublist (since.map fun done => done.2.report done.1)

theorem Reported.refl (children : Children) : children.Reported children [] :=
  ⟨[], (List.append_nil _).symm, List.Sublist.refl _⟩

theorem Reported.trans {front back : List (Pid × Int)} (hfront : before.Reported now front)
    (hback : now.Reported after back) : before.Reported after (front ++ back) := by
  obtain ⟨first, hfirst, hreports⟩ := hfront
  obtain ⟨second, hsecond, hothers⟩ := hback
  refine ⟨first ++ second, by rw [hsecond, hfirst, List.append_assoc], ?_⟩
  rw [List.map_append]
  exact hreports.append hothers

theorem reported_reap (children : Children) (pid : Pid) (ending : Ending) :
    children.Reported (children.reap pid ending) [ending.report pid] :=
  ⟨[(pid, ending)], rfl, List.Sublist.refl _⟩

theorem Ends.reported (hends : before.Ends after) : before.Reported after [] :=
  ⟨[], by rw [hends.reaped, List.append_nil], List.Sublist.refl _⟩

/-- An end need not be reported. -/
theorem Reported.unreported {reports : List (Pid × Int)}
    (hreported : before.Reported after reports) : before.Reported after [] := by
  obtain ⟨since, hsince, -⟩ := hreported
  exact ⟨since, hsince, List.nil_sublist _⟩

theorem Answers.reported (hanswers : before.Answers pid answer after) :
    before.Reported after [] := by
  cases hanswers with
  | alive hends _ => exact hends.reported
  | ended hends _ => exact (hends.reported.trans (reported_reap _ _ _)).unreported
  | stranger hends _ => exact hends.reported
  | failed hends _ => exact hends.reported
  | lost hends _ _ => exact (hends.reported.trans (reported_reap _ _ _)).unreported

theorem Passes.reported (hpasses : before.Passes after) : before.Reported after [] := by
  cases hpasses with
  | ends hends => exact hends.reported
  | born _ => exact Reported.refl before
  | reaped _ => exact (reported_reap _ _ _).unreported

end Children

namespace Registry

/-! ## The ledger -/

/-- A process that has been pushed. -/
structure Push where
  pid : Pid
  listed : Bool
  deriving DecidableEq, Repr

/-- The processes that are still listed, in the order in which they were pushed. -/
def listed (ledger : List Push) : List Pid :=
  (ledger.filter Push.listed).map Push.pid

/-- One pass through the ledger.  The processes that have ended are reported in order; they
and those that are no children are listed no more. -/
inductive Sweeps : Children → List Push → List (Pid × Int) → Children → List Push → Prop where
  | done (children : Children) : Sweeps children [] [] children []
  | unlisted {before after : Children} {pid : Pid} {ledger swept : List Push}
      {finished : List (Pid × Int)} (hrest : Sweeps before ledger finished after swept) :
      Sweeps before (⟨pid, false⟩ :: ledger) finished after (⟨pid, false⟩ :: swept)
  | alive {before now after : Children} {pid : Pid} {ledger swept : List Push}
      {finished : List (Pid × Int)} (hends : before.Ends now)
      (halive : now.standing pid = .alive)
      (hrest : Sweeps now ledger finished after swept) :
      Sweeps before (⟨pid, true⟩ :: ledger) finished after (⟨pid, true⟩ :: swept)
  | ended {before now after : Children} {pid : Pid} {ending : Ending} {ledger swept : List Push}
      {finished : List (Pid × Int)} (hends : before.Ends now)
      (hended : now.standing pid = .ended ending)
      (hrest : Sweeps (now.reap pid ending) ledger finished after swept) :
      Sweeps before (⟨pid, true⟩ :: ledger) (ending.report pid :: finished) after
        (⟨pid, false⟩ :: swept)
  | stranger {before now after : Children} {pid : Pid} {ledger swept : List Push}
      {finished : List (Pid × Int)} (hends : before.Ends now)
      (hstranger : now.standing pid = .stranger)
      (hrest : Sweeps now ledger finished after swept) :
      Sweeps before (⟨pid, true⟩ :: ledger) finished after (⟨pid, false⟩ :: swept)
  | failed {before now after : Children} {pid : Pid} {errno : Errno} {ledger swept : List Push}
      {finished : List (Pid × Int)} (herrno : errno ≠ .noChild)
      (hanswers : before.Answers pid (.error errno) now)
      (hrest : Sweeps now ledger finished after swept) :
      Sweeps before (⟨pid, true⟩ :: ledger) finished after (⟨pid, true⟩ :: swept)

/-- A call and what it has returned. -/
inductive Call where
  | push (pid : Pid)
  | pop (popped : Option Pid)
  | reap (finished : List (Pid × Int))
  | drain (finished : List (Pid × Int))

/-- The ledger that calls come to. -/
inductive Accounts (first : Children) : List Call → List Push → Children → Prop where
  | begins : Accounts first [] [] first
  | passes {calls : List Call} {ledger : List Push} {before after : Children}
      (haccounts : Accounts first calls ledger before) (hpasses : before.Passes after) :
      Accounts first calls ledger after
  | push {calls : List Call} {ledger : List Push} {children : Children}
      (haccounts : Accounts first calls ledger children) (pid : Pid) :
      Accounts first (calls ++ [.push pid]) (ledger ++ [⟨pid, true⟩]) children
  | popNothing {calls : List Call} {ledger : List Push} {children : Children}
      (haccounts : Accounts first calls ledger children) (hnothing : listed ledger = []) :
      Accounts first (calls ++ [.pop none]) ledger children
  | pop {calls : List Call} {earlier later : List Push} {pid : Pid} {children : Children}
      (haccounts : Accounts first calls (earlier ++ ⟨pid, true⟩ :: later) children)
      (hlast : listed later = []) :
      Accounts first (calls ++ [.pop (some pid)]) (earlier ++ ⟨pid, false⟩ :: later) children
  | reap {calls : List Call} {ledger swept : List Push} {before after : Children}
      {finished : List (Pid × Int)} (haccounts : Accounts first calls ledger before)
      (hsweeps : Sweeps before ledger finished after swept) :
      Accounts first (calls ++ [.reap finished]) swept after
  | drain {calls : List Call} {ledger swept : List Push} {before after : Children}
      {finished : List (Pid × Int)} (haccounts : Accounts first calls ledger before)
      (hsweeps : Sweeps before ledger finished after swept) :
      Accounts first (calls ++ [.drain finished])
        (swept.map fun push => { push with listed := false }) after

namespace Call

def pushed? : Call → Option Pid
  | .push pid => some pid
  | _ => none

def reports : Call → List (Pid × Int)
  | .reap finished | .drain finished => finished
  | _ => []

end Call

variable {σ : Type}

/-- The answers to questions are those that the children give. -/
def Tells (poll : Pid → σ → Except Errno WaitStatus × σ) (children : σ → Children) : Prop :=
  ∀ pid state,
    (children state).Answers pid (poll pid state).1 (children (poll pid state).2)

/-- Calls of a new registry, in any order, and what may happen between them. -/
inductive Runs (poll : Pid → σ → Except Errno WaitStatus × σ) (children : σ → Children)
    (first : σ) : List Call → Registry → σ → Prop where
  | begins : Runs poll children first [] {} first
  | passes {calls : List Call} {registry : Registry} {before after : σ}
      (hruns : Runs poll children first calls registry before)
      (hpasses : (children before).Passes (children after)) :
      Runs poll children first calls registry after
  | push {calls : List Call} {registry : Registry} {state : σ}
      (hruns : Runs poll children first calls registry state) (pid : Pid) :
      Runs poll children first (calls ++ [.push pid]) (registry.push pid) state
  | pop {calls : List Call} {registry : Registry} {state : σ}
      (hruns : Runs poll children first calls registry state) :
      Runs poll children first (calls ++ [.pop registry.pop.1]) registry.pop.2 state
  | reap {calls : List Call} {registry left : Registry} {before after : σ}
      {finished : List (Pid × Int)} (hruns : Runs poll children first calls registry before)
      (hreap : registry.reap poll before = (finished, left, after)) :
      Runs poll children first (calls ++ [.reap finished]) left after
  | drain {calls : List Call} {registry left : Registry} {before after : σ}
      {finished : List (Pid × Int)} (hruns : Runs poll children first calls registry before)
      (hdrain : registry.drain poll before = (finished, left, after)) :
      Runs poll children first (calls ++ [.drain finished]) left after

/-! ## What a ledger lists -/

@[simp]
theorem listed_nil : listed [] = [] := rfl

@[simp]
theorem listed_cons_listed (pid : Pid) (ledger : List Push) :
    listed (⟨pid, true⟩ :: ledger) = pid :: listed ledger := rfl

@[simp]
theorem listed_cons_unlisted (pid : Pid) (ledger : List Push) :
    listed (⟨pid, false⟩ :: ledger) = listed ledger := rfl

@[simp]
theorem listed_append (front back : List Push) :
    listed (front ++ back) = listed front ++ listed back := by
  simp [listed]

theorem listed_forgotten (ledger : List Push) :
    listed (ledger.map fun push => { push with listed := false }) = [] := by
  simp [listed, List.filter_map]

/-- The last process that is listed, with nothing listed behind it. -/
theorem exists_last_listed {ledger : List Push} {pids : List Pid} {pid : Pid}
    (hlisted : listed ledger = pids ++ [pid]) :
    ∃ earlier later, ledger = earlier ++ ⟨pid, true⟩ :: later ∧ listed earlier = pids ∧
      listed later = [] := by
  induction ledger using List.reverseRecOn with
  | nil => simp at hlisted
  | append_singleton ledger last ih =>
      obtain ⟨other, _ | _⟩ := last
      · rw [listed_append, listed_cons_unlisted, listed_nil, List.append_nil] at hlisted
        obtain ⟨earlier, later, rfl, hearlier, hlater⟩ := ih hlisted
        exact ⟨earlier, later ++ [⟨other, false⟩], by simp, hearlier, by simp [hlater]⟩
      · rw [listed_append] at hlisted
        obtain ⟨rfl, hlast⟩ := List.append_inj' hlisted rfl
        obtain rfl : other = pid := List.singleton_inj.mp hlast
        exact ⟨ledger, [], rfl, rfl, rfl⟩

/-! ## One pass -/

variable {poll : Pid → σ → Except Errno WaitStatus × σ} {children : σ → Children}

/-- Asking for what a ledger lists is a pass through it. -/
theorem sweeps_reapFrom (htells : Tells poll children) (ledger : List Push) (state : σ)
    {finished : List (Pid × Int)} {kept : List Pid} {final : σ}
    (hreap : reapFrom poll (listed ledger) state = (finished, kept, final)) :
    ∃ swept, Sweeps (children state) ledger finished (children final) swept ∧
      listed swept = kept := by
  induction ledger generalizing state finished kept final with
  | nil =>
      cases hreap
      exact ⟨[], .done _, rfl⟩
  | cons push ledger ih =>
      obtain ⟨pid, _ | _⟩ := push
      · obtain ⟨swept, hsweeps, hkept⟩ := ih state hreap
        exact ⟨_, .unlisted hsweeps, hkept⟩
      · rw [listed_cons_listed, reapFrom] at hreap
        have hanswers := htells pid state
        generalize poll pid state = polled at hanswers hreap
        obtain ⟨answer, asked⟩ := polled
        dsimp only at hanswers hreap
        generalize hrest : reapFrom poll (listed ledger) asked = rest at hreap
        obtain ⟨others, remaining, last⟩ := rest
        obtain ⟨swept, hsweeps, rfl⟩ := ih asked hrest
        split at hreap
        · cases hreap
          obtain ⟨hends, halive⟩ := hanswers.of_alive
          exact ⟨_, .alive hends halive hsweeps, rfl⟩
        · next status hended =>
            cases hreap
            obtain ⟨now, ending, hends, hending, rfl, hnow⟩ := hanswers.of_ok hended
            rw [hnow] at hsweeps
            exact ⟨_, .ended hends hending hsweeps, rfl⟩
        · cases hreap
          obtain ⟨hends, hstranger⟩ := hanswers.of_noChild
          exact ⟨_, .stranger hends hstranger hsweeps, rfl⟩
        · next errno herrno =>
            cases hreap
            exact ⟨_, .failed herrno hanswers hsweeps, rfl⟩

theorem sweeps_reap (htells : Tells poll children) {ledger : List Push}
    {registry left : Registry} {before after : σ} {finished : List (Pid × Int)}
    (hlisted : listed ledger = registry.pids)
    (hreap : registry.reap poll before = (finished, left, after)) :
    ∃ swept, Sweeps (children before) ledger finished (children after) swept ∧
      listed swept = left.pids := by
  rw [reap, ← hlisted] at hreap
  obtain ⟨swept, hsweeps, hkept⟩ := sweeps_reapFrom htells ledger before rfl
  cases hreap
  exact ⟨swept, hsweeps, hkept⟩

theorem Sweeps.alive_of_alive {before after : Children} {ledger swept : List Push}
    {finished : List (Pid × Int)} (hsweeps : Sweeps before ledger finished after swept)
    {pid : Pid} (halive : after.standing pid = .alive) : before.standing pid = .alive := by
  induction hsweeps with
  | done => exact halive
  | unlisted _ ih => exact ih halive
  | alive hends _ _ ih => exact hends.alive (ih halive)
  | ended hends _ _ ih =>
      exact hends.alive ((Children.standing_reap_eq_alive_iff _ _ _ _).mp (ih halive)).2
  | stranger hends _ _ ih => exact hends.alive (ih halive)
  | failed _ hanswers _ ih => exact hanswers.alive_of_alive (ih halive)

/-- A child that is alive in the end stays listed. -/
theorem Sweeps.mem_listed_of_alive {before after : Children} {ledger swept : List Push}
    {finished : List (Pid × Int)} (hsweeps : Sweeps before ledger finished after swept)
    {pid : Pid} (hpid : pid ∈ listed ledger) (halive : after.standing pid = .alive) :
    pid ∈ listed swept := by
  induction hsweeps with
  | done => exact hpid
  | unlisted _ ih => exact ih hpid halive
  | alive _ _ _ ih =>
      rcases List.mem_cons.mp hpid with rfl | hlater
      · exact List.mem_cons_self
      · exact List.mem_cons_of_mem _ (ih hlater halive)
  | ended _ _ hrest ih =>
      rcases List.mem_cons.mp hpid with rfl | hlater
      · have hnow := hrest.alive_of_alive halive
        exact absurd rfl ((Children.standing_reap_eq_alive_iff _ _ _ _).mp hnow).1
      · exact ih hlater halive
  | stranger _ hstranger hrest ih =>
      rcases List.mem_cons.mp hpid with rfl | hlater
      · have hnow := hrest.alive_of_alive halive
        rw [hstranger] at hnow
        cases hnow
      · exact ih hlater halive
  | failed _ hanswers _ ih =>
      rcases List.mem_cons.mp hpid with rfl | hlater
      · exact List.mem_cons_self
      · exact List.mem_cons_of_mem _ (ih hlater halive)

theorem Sweeps.pids {before after : Children} {ledger swept : List Push}
    {finished : List (Pid × Int)} (hsweeps : Sweeps before ledger finished after swept) :
    swept.map Push.pid = ledger.map Push.pid := by
  induction hsweeps <;> simp [*]

theorem Sweeps.reported {before after : Children} {ledger swept : List Push}
    {finished : List (Pid × Int)} (hsweeps : Sweeps before ledger finished after swept) :
    before.Reported after finished := by
  induction hsweeps with
  | done children => exact .refl children
  | unlisted _ ih => exact ih
  | alive hends _ _ ih => exact hends.reported.trans ih
  | ended hends _ _ ih => exact (hends.reported.trans (Children.reported_reap _ _ _)).trans ih
  | stranger hends _ _ ih => exact hends.reported.trans ih
  | failed _ hanswers _ ih => exact hanswers.reported.trans ih

/-! ## Whole runs -/

section Accounts

variable {before after : Children} {calls : List Call} {ledger : List Push}

/-- Everything that has been pushed stands in the ledger, in order. -/
theorem Accounts.pids (haccounts : Accounts before calls ledger after) :
    ledger.map Push.pid = calls.filterMap Call.pushed? := by
  induction haccounts with
  | begins => rfl
  | passes _ _ ih => exact ih
  | push _ pid ih => simp [ih, Call.pushed?]
  | popNothing _ _ ih => simp [ih, Call.pushed?]
  | pop _ _ ih =>
      rw [List.filterMap_append, ← ih]
      simp [Call.pushed?]
  | reap _ hsweeps ih => simp [hsweeps.pids, ih, Call.pushed?]
  | drain _ hsweeps ih =>
      rw [List.map_map, List.filterMap_append, ← ih, ← hsweeps.pids]
      exact (List.append_nil _).symm

theorem Accounts.reported (haccounts : Accounts before calls ledger after) :
    before.Reported after (calls.flatMap Call.reports) := by
  induction haccounts with
  | begins => exact .refl _
  | passes _ hpasses ih =>
      have hlater := ih.trans hpasses.reported
      rwa [List.append_nil] at hlater
  | push _ pid ih =>
      rw [List.flatMap_append]
      exact ih.trans (.refl _)
  | popNothing _ _ ih =>
      rw [List.flatMap_append]
      exact ih.trans (.refl _)
  | pop _ _ ih =>
      rw [List.flatMap_append]
      exact ih.trans (.refl _)
  | reap _ hsweeps ih =>
      rw [List.flatMap_append, List.flatMap_singleton]
      exact ih.trans hsweeps.reported
  | drain _ hsweeps ih =>
      rw [List.flatMap_append, List.flatMap_singleton]
      exact ih.trans hsweeps.reported

end Accounts

/-- A registry holds what the ledger of its calls lists. -/
theorem exists_accounts (htells : Tells poll children) {first state : σ} {calls : List Call}
    {registry : Registry} (hruns : Runs poll children first calls registry state) :
    ∃ ledger, Accounts (children first) calls ledger (children state) ∧
      listed ledger = registry.pids := by
  induction hruns with
  | begins => exact ⟨[], .begins, rfl⟩
  | passes _ hpasses ih =>
      obtain ⟨ledger, haccounts, hlisted⟩ := ih
      exact ⟨ledger, haccounts.passes hpasses, hlisted⟩
  | push _ pid ih =>
      obtain ⟨ledger, haccounts, hlisted⟩ := ih
      exact ⟨_, haccounts.push pid, by simp [hlisted, push]⟩
  | @pop _ registry _ _ ih =>
      obtain ⟨ledger, haccounts, hlisted⟩ := ih
      obtain ⟨pids⟩ := registry
      rcases pids.eq_nil_or_concat' with rfl | ⟨pids, pid, rfl⟩
      · exact ⟨ledger, haccounts.popNothing hlisted, hlisted⟩
      · obtain ⟨earlier, later, rfl, hearlier, hlater⟩ := exists_last_listed hlisted
        rw [pop, List.getLast?_concat, List.dropLast_concat]
        exact ⟨_, haccounts.pop hlater, by simp [hearlier, hlater]⟩
  | @reap _ registry left before after finished _ hreap ih =>
      obtain ⟨ledger, haccounts, hlisted⟩ := ih
      obtain ⟨swept, hsweeps, hleft⟩ := sweeps_reap htells hlisted hreap
      exact ⟨swept, haccounts.reap hsweeps, hleft⟩
  | @drain _ registry left before after finished _ hdrain ih =>
      obtain ⟨ledger, haccounts, hlisted⟩ := ih
      obtain ⟨swept, hsweeps, -⟩ := sweeps_reap htells hlisted rfl
      cases hdrain
      exact ⟨_, haccounts.drain hsweeps, listed_forgotten swept⟩

/-- Whatever calls are made and whatever happens between them, there is a ledger of
everything that has been pushed, the registry holds what it lists, and the ledger accounts
for each call.  No end of a child is reported twice, a child that is alive stays listed
until it is popped or all are forgotten, and what is forgotten is asked for first. -/
theorem accounts_of_runs (htells : Tells poll children) {first state : σ} {calls : List Call}
    {registry : Registry} (hruns : Runs poll children first calls registry state) :
    (∃ ledger, Accounts (children first) calls ledger (children state) ∧
      ledger.map Push.pid = calls.filterMap Call.pushed? ∧ listed ledger = registry.pids) ∧
    (children first).Reported (children state) (calls.flatMap Call.reports) ∧
    ∀ finished left final, registry.reap poll state = (finished, left, final) →
      (∀ pid ∈ registry.pids, (children final).standing pid = .alive → pid ∈ left.pids) ∧
        registry.drain poll state = (finished, {}, final) := by
  obtain ⟨ledger, haccounts, hlisted⟩ := exists_accounts htells hruns
  refine ⟨⟨ledger, haccounts, haccounts.pids, hlisted⟩, haccounts.reported, ?_⟩
  intro finished left final hreap
  obtain ⟨swept, hsweeps, hleft⟩ := sweeps_reap htells hlisted hreap
  constructor
  · intro pid hpid halive
    rw [← hlisted] at hpid
    rw [← hleft]
    exact hsweeps.mem_listed_of_alive hpid halive
  · rw [drain, hreap]

end Registry

/-! ## Children by a timetable -/

namespace Timetable

variable (course : Course)

def children (table : Timetable) : Children where
  standing pid :=
    if pid ∉ table.history.unreaped then .stranger
    else if table.clock < (course.ends pid).1 then .alive
    else .ended (course.ends pid).2
  reaped := table.history.endings

theorem ends_tick (table : Timetable) :
    (table.children course).Ends ((table.tick course).children course) where
  standing pid := by
    by_cases hchild : pid ∈ table.history.unreaped
    · by_cases halive : table.clock < (course.ends pid).1
      · by_cases hlater : table.clock + 1 < (course.ends pid).1
        · simp [children, tick, hchild, halive, hlater]
        · simp [children, tick, hchild, halive, hlater]
      · have hlater : ¬ table.clock + 1 < (course.ends pid).1 := by omega
        simp [children, tick, hchild, halive, hlater]
    · simp [children, tick, hchild]
  reaped := rfl

theorem children_reaped (table : Timetable) (pid : Pid) (ending : Ending) :
    children course { table with history := table.history ++ [.reaped pid ending] } =
      (table.children course).reap pid ending := by
  rw [children, Children.reap, Children.mk.injEq]
  constructor
  · funext other
    by_cases hother : other = pid
    · simp [History.follow, hother]
    · simp [History.follow, hother, children]
  · exact History.endings_append _ _

theorem tells_poll : Registry.Tells (kernel course).poll (children course) := by
  intro pid table
  have hends := ends_tick course table
  change Children.Answers _ pid ((table.tick course).poll course pid).1
    (((table.tick course).poll course pid).2.children course)
  generalize table.tick course = now at hends
  by_cases hchild : pid ∈ now.history.unreaped
  · by_cases halive : now.clock < (course.ends pid).1
    · have hpoll : now.poll course pid = (.ok .alive, now) := by
        simp [poll, hchild, halive]
      rw [hpoll]
      exact .alive hends (by simp [children, hchild, halive])
    · have hpoll : now.poll course pid = ((course.ends pid).2.answer,
          { now with history := now.history ++ [.reaped pid (course.ends pid).2] }) := by
        simp [poll, hchild, halive]
      have hended : (now.children course).standing pid = .ended (course.ends pid).2 := by
        simp [children, hchild, halive]
      rw [hpoll, children_reaped]
      rcases (course.ends pid).2.answer_cases with hanswer | hanswer
      · rw [hanswer]
        exact .ended hends hended
      · rw [hanswer]
        exact .lost hends (by decide) hended
  · have hpoll : now.poll course pid = (.error .noChild, now) := by
      simp [poll, hchild]
    rw [hpoll]
    exact .stranger hends (by simp [children, hchild])

/-- The first child ends between two questions for it. -/
def staggeredCourse : Course where
  ends
    | 1 => (3, .exited 7)
    | 2 => (7, .signaled .terminate false)
    | _ => (100, .exited 0)

theorem accounts_of_runs_staggered :
    let poll := (kernel staggeredCourse).poll
    let children := children staggeredCourse
    let first : Timetable := { history := History.created [1, 2, 3] }
    let calls : List Registry.Call :=
      [.push 1, .push 2, .push 1, .push 9, .reap [(1, 7)], .push 3, .pop (some 3),
        .drain [(2, 143)]]
    ∃ state ledger, Registry.Runs poll children first calls {} state ∧
      Registry.Accounts (children first) calls ledger (children state) ∧
      ledger.map Registry.Push.pid = [1, 2, 1, 9, 3] ∧
      (children first).Reported (children state) [(1, 7), (2, 143)] := by
  intro poll children first calls
  let asked : Timetable :=
    { clock := 4, recorder := { wakeups := 1 },
      history := History.created [1, 2, 3] ++ [.reaped 1 (.exited 7)] }
  let drained : Timetable :=
    { clock := 7, recorder := { wakeups := 2 },
      history := asked.history ++ [.reaped 2 (.signaled .terminate false)] }
  have hreap : (⟨[1, 2, 1, 9]⟩ : Registry).reap poll first = ([(1, 7)], ⟨[1, 2]⟩, asked) := by
    decide +kernel
  have hdrain : (⟨[1, 2]⟩ : Registry).drain poll (asked.tick staggeredCourse) =
      ([(2, 143)], {}, drained) := by
    decide +kernel
  have hruns : Registry.Runs poll children first calls {} drained := by
    refine .drain (.passes (.pop (.push (.reap (.push (.push (.push (.push .begins 1) 2) 1) 9)
      hreap) 3)) (.ends (ends_tick staggeredCourse asked))) hdrain
  obtain ⟨⟨ledger, haccounts, hpids, -⟩, hreported, -⟩ :=
    Registry.accounts_of_runs (tells_poll staggeredCourse) hruns
  exact ⟨_, ledger, hruns, haccounts, hpids, hreported⟩

end Timetable

end JobShell
