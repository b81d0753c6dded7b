import JobShell.Proofs.Shell.Scripting

/-!
# What a whole session comes to

A shell is given the lines of its init script and then, if none of them has ended the
session, the lines that its input delivers.  Its code is that of the line that ends the
session, or tells how the input has ended; and whichever way it leaves, it lists no
process any more.  If script and input are finite, a shell that never leaves has been given
a line that is never done with, or has come down over something that could not be written.
-/

namespace JobShell

variable {σ : Type}

namespace Shell

open LineReader (Intake Ends Piece cut delivered texts texts_append)

/-! ## Leaving -/

section Leaving

variable (kernel : Kernel σ) (drawn : σ → List Intake → List Intake → σ → Prop)
  (session : Session) (state : σ)

/-- How the init script is handed to a session, and what ends the session if that does.
Nothing is taken in of the input meanwhile. -/
inductive Sourced : Option Int → Session → σ → Prop where
  | absent (hscript : session.settings.initScript = none) : Sourced none session state
  /-- A script that cannot be opened is reported at most. -/
  | unopened {path : String} {errno : Errno} {opened handed : σ}
      (hscript : session.settings.initScript = some path)
      (hopen : kernel.openScript (Text.encode path) state = (.error errno, opened))
      (hinterlude : Interlude kernel session opened session handed)
      (hdrawn : drawn state [] [] handed) : Sourced none session handed
  | read {path : String} {script : Descriptor} {opened sourced : σ} {taken : List Intake}
      {ended : Option Int} {given : Session}
      (hscript : session.settings.initScript = some path)
      (hopen : kernel.openScript (Text.encode path) state = (.ok script, opened))
      (hfeeds : Feeds kernel (readable (Script.delivered taken)) session opened ended given sourced)
      (hfinishes : ended = none → Script.Finishes taken (Script.delivered taken))
      (hdrawn : drawn state taken [] (kernel.closeScript script sourced)) :
      Sourced ended given (kernel.closeScript script sourced)

/-- How a shell comes to its code: a line of the script ends the session, or, behind the
script, a line of the input does or the input ends. -/
inductive Performs : Int → Session → σ → Prop where
  | script {code : Int} {last : Session} {reached : σ}
      (hscript : Sourced kernel drawn session state (some code) last reached) :
      Performs code last reached
  | line {taken : List Intake} {given last : Session} {handed reached : σ} {code : Int}
      (hscript : Sourced kernel drawn session state none given handed)
      (hdrawn : drawn handed [] taken reached)
      (hinput : Feeds kernel (delivered taken) given handed (some code) last reached) :
      Performs code last reached
  | input {taken : List Intake} {given last : Session} {handed reached : σ} {code : Int}
      (hscript : Sourced kernel drawn session state none given handed)
      (hdrawn : drawn handed [] taken reached)
      (hinput : Feeds kernel (delivered taken) given handed none last reached)
      (hends : Ends taken code) : Performs code last reached

end Leaving

variable {kernel : Kernel σ} {drawn : σ → List Intake → List Intake → σ → Prop}

theorem sourced_sourceInitScript (hattends : kernel.Attends drawn) {session next : Session}
    {state final : σ} {code : Option Int}
    (hsource : sourceInitScript kernel session state = some (code, next, final)) :
    Sourced kernel drawn session state code next final := by
  simp only [sourceInitScript] at hsource
  split at hsource
  · next hscript =>
      cases hsource
      exact .absent hscript
  · next path hscript =>
      split at hsource
      · next script opened hopen =>
          obtain ⟨⟨ended, given, sourced⟩, hfrom, hresult⟩ := Option.map_eq_some_iff.mp hsource
          obtain ⟨taken, hdrawn, hfeeds, hfinishes⟩ :=
            feeds_sourceScript hattends _ [] session opened hfrom
          cases hresult
          exact .read hscript hopen hfeeds hfinishes
            (hattends.ahead (hattends.openScript hopen)
              (hattends.behind hdrawn (hattends.closeScript script sourced)))
      · next errno opened hopen =>
          have hopened := hattends.openScript hopen
          split at hsource
          · cases hsource
            exact .unopened hscript hopen .nothing hopened
          · obtain ⟨reported, hcomplain, hresult⟩ := Option.map_eq_some_iff.mp hsource
            cases hresult
            exact .unopened hscript hopen (Interlude.nothing.complains hcomplain)
              (hattends.behind hopened (hattends.within.complained hcomplain))

/-! ## Getting there -/

/-- Something that is printed cannot be written. -/
inductive Mute (kernel : Kernel σ) (session : Session) (state : σ) : Prop where
  | prints {text : String} (hsay : Kernel.written (kernel.say text state) = none)
  | complains {text : String} (hcomplain : Kernel.written (kernel.complain text state) = none)
  | reports (hreport : Kernel.written (session.printFinishedJobs kernel state) = none)

theorem mute_of_newlineIf {interactive : Bool} {state : σ}
    (hnewline : newlineIf kernel interactive state = none) (session : Session) :
    Mute kernel session state := by
  cases interactive with
  | false => cases hnewline
  | true => exact .prints hnewline

/-- Lines are handed to a session up to one that is never done with, or until something that
is printed cannot be written, in the last state. -/
inductive Strands (kernel : Kernel σ) : List String → Session → σ → σ → Prop where
  | here {session given : Session} {state handed : σ} {line : String} (rest : List String)
      (hinterlude : Interlude kernel session state given handed)
      (hline : given.processLine kernel line handed = none) :
      Strands kernel (line :: rest) session state handed
  | mute {session given : Session} {state handed : σ} (rest : List String)
      (hinterlude : Interlude kernel session state given handed)
      (hmute : Mute kernel given handed) : Strands kernel rest session state handed
  | later {session given taken : Session} {state handed left stop : σ} {line : String}
      {rest : List String} {status : Int}
      (hinterlude : Interlude kernel session state given handed)
      (hline : given.processLine kernel line handed = some (.proceed status, taken, left))
      (hrest : Strands kernel rest taken left stop) :
      Strands kernel (line :: rest) session state stop

/-- Of an earlier interlude. -/
theorem Interlude.behind {session middle next : Session} {state between final : σ}
    (hfront : Interlude kernel session state middle between)
    (hback : Interlude kernel middle between next final) :
    Interlude kernel session state next final := by
  induction hback with
  | nothing => exact hfront
  | serves _ hserve ih => exact ih.serves hserve
  | reports _ hreport ih => exact ih.reports hreport
  | prints _ hsay ih => exact ih.prints hsay
  | prompts _ ih => exact ih.prompts
  | complains _ hcomplain ih => exact ih.complains hcomplain
  | reads _ hread ih => exact ih.reads hread
  | opens _ hopen ih => exact ih.opens hopen
  | scripts _ hread ih => exact ih.scripts hread
  | closes _ script ih => exact ih.closes script

theorem Strands.behind {lines : List String} {session given : Session} {state handed stop : σ}
    (hstrands : Strands kernel lines given handed stop)
    (hearlier : Interlude kernel session state given handed) :
    Strands kernel lines session state stop := by
  cases hstrands with
  | here rest hinterlude hline => exact .here rest (hearlier.behind hinterlude) hline
  | mute _ hinterlude hmute => exact .mute _ (hearlier.behind hinterlude) hmute
  | later hinterlude hline hrest => exact .later (hearlier.behind hinterlude) hline hrest

end Shell

/-- What is left of scripts, of an input and of the interruptions to come.  Reading takes two
away for each byte, and a line gives one of them back at most: it may start processes, the
ends of which interrupt, but no more of them than it has bytes. -/
structure Kernel.Exhausts (kernel : Kernel σ) (left : σ → Nat) : Prop where
  serves : kernel.ServesWithin fun state next => left next ≤ left state
  complain : ∀ text state, left (kernel.complain text state).2 ≤ left state
  poll : ∀ pid state, left (kernel.poll pid state).2 ≤ left state
  openScript : ∀ path state, left (kernel.openScript path state).2 ≤ left state
  readScript : ∀ {script state final answer}, kernel.readScript script state = (answer, final) →
    left final ≤ left state ∧ (answer = .error .interrupted → left final < left state) ∧
      ∀ bytes, answer = .ok bytes → left final + 2 * bytes.length ≤ left state
  closeScript : ∀ script state, left (kernel.closeScript script state) ≤ left state
  await : ∀ {state final answer}, kernel.await state = (answer, final) →
    left final ≤ left state ∧
      (answer = .ok true ∨ answer = .error .interrupted → left final < left state)
  read : ∀ {state final answer}, kernel.read state = (answer, final) →
    left final ≤ left state ∧ (answer = .error .interrupted → left final < left state) ∧
      ∀ bytes, answer = .ok bytes → left final + 2 * bytes.length ≤ left state
  line : ∀ {session next : Session} {line state final flow},
    session.processLine kernel line state = some (flow, next, final) →
      left final ≤ left state + (Text.encode line).length

namespace LineReader

variable {kernel : Kernel σ} {left : σ → Nat}

/-- What is left when a part of a stream is pending. -/
def weight (left : σ → Nat) (pending : Bytes) (state : σ) : Nat :=
  left state + 2 * pending.length

theorem left_lt_of_weight_lt {limit : Nat} {pending : Bytes} {state : σ}
    (hweight : weight left pending state < limit) : left state < limit :=
  Nat.lt_of_le_of_lt (Nat.le_add_right _ _) hweight

/-- What an answer takes away of that. -/
def cost : Except Errno Event → Nat
  | .ok (.line text) => (Text.encode text).length + 1
  | .ok (.invalid _) | .ok .interrupted => 1
  | .ok .endOfInput | .error _ => 0

theorem cost_ofBytes_le (bytes : Bytes) : cost (.ok (.ofBytes bytes)) ≤ bytes.length + 1 := by
  rw [Event.ofBytes]
  cases hdecode : Text.decode? bytes with
  | some text =>
      rw [Text.decode?_eq_some_iff] at hdecode
      rw [cost, hdecode]
  | none => exact Nat.le_add_left 1 _

/-- While something is left a call has an answer, which takes something away. -/
theorem exists_next (hexhausts : kernel.Exhausts left) (limit : Nat) (reader : LineReader)
    (state : σ) (hlimit : left state < limit) :
    ∃ answer after final, reader.next kernel.toLineSource limit state =
        some (answer, after, final) ∧
      weight left after.pending final + cost answer ≤ weight left reader.pending state := by
  fun_induction next kernel.toLineSource limit reader state with
  | case1 => exact absurd hlimit (Nat.not_lt_zero _)
  | case2 limit reader state line rest hsplit =>
      obtain ⟨hpending, -⟩ := splitLine_eq_some hsplit
      have hcost := cost_ofBytes_le line
      refine ⟨_, _, _, rfl, ?_⟩
      simp only [weight, hpending, List.length_append, List.length_cons]
      omega
  | case3 limit reader state hsplit waited hawait =>
      have hwaited := (hexhausts.await hawait).2 (.inl rfl)
      refine ⟨_, _, _, rfl, ?_⟩
      simp only [weight, cost]
      omega
  | case4 limit reader state hsplit waited hawait =>
      have hwaited := (hexhausts.await hawait).2 (.inr rfl)
      refine ⟨_, _, _, rfl, ?_⟩
      simp only [weight, cost]
      omega
  | case5 limit reader state hsplit errno waited hother hawait =>
      have hwaited := (hexhausts.await hawait).1
      refine ⟨_, _, _, rfl, ?_⟩
      simp only [weight, cost]
      omega
  | case6 limit reader state hsplit waited hawait read hread hpending =>
      have hwaited := (hexhausts.await hawait).1
      have hclosed := (hexhausts.read hread).1
      refine ⟨_, _, _, rfl, ?_⟩
      simp only [weight, cost]
      omega
  | case7 limit reader state hsplit waited hawait read hread hpending =>
      have hwaited := (hexhausts.await hawait).1
      have hclosed := (hexhausts.read hread).1
      have hcost := cost_ofBytes_le reader.pending
      have hnonempty : 0 < reader.pending.length := by
        rw [List.length_pos_iff]
        simpa using hpending
      refine ⟨_, _, _, rfl, ?_⟩
      simp only [weight, List.length_nil]
      omega
  | case8 limit reader state hsplit waited hawait bytes read hnonempty hread ih =>
      have hwaited := (hexhausts.await hawait).1
      have hchunk := (hexhausts.read hread).2.2 bytes rfl
      have hlength : 0 < bytes.length := List.length_pos_iff.mpr hnonempty
      obtain ⟨answer, after, final, hnext, hweight⟩ := ih (by omega)
      refine ⟨answer, after, final, hnext, hweight.trans ?_⟩
      simp only [weight, List.length_append]
      omega
  | case9 limit reader state hsplit waited hawait read hread =>
      have hwaited := (hexhausts.await hawait).1
      have hbroken := (hexhausts.read hread).2.1 rfl
      refine ⟨_, _, _, rfl, ?_⟩
      simp only [weight, cost]
      omega
  | case10 limit reader state hsplit waited hawait errno read hother hread =>
      have hwaited := (hexhausts.await hawait).1
      have hfailed := (hexhausts.read hread).1
      refine ⟨_, _, _, rfl, ?_⟩
      simp only [weight, cost]
      omega

theorem weight_next_le (hexhausts : kernel.Exhausts left) {limit : Nat} {reader after : LineReader}
    {state final : σ} {answer : Except Errno Event} (hlimit : left state < limit)
    (hnext : reader.next kernel.toLineSource limit state = some (answer, after, final)) :
    weight left after.pending final + cost answer ≤ weight left reader.pending state := by
  obtain ⟨_, _, _, hsome, hweight⟩ := exists_next hexhausts limit reader state hlimit
  rw [hnext] at hsome
  cases hsome
  exact hweight

/-- A call whose answer takes something away leaves less, and what follows it adds nothing. -/
theorem weight_lt_of_next (hexhausts : kernel.Exhausts left) {limit : Nat}
    {reader after : LineReader} {state final shown : σ} {answer : Except Errno Event}
    (hlimit : left state < limit)
    (hnext : reader.next kernel.toLineSource limit state = some (answer, after, final))
    (hcost : 0 < cost answer) (hshown : left shown ≤ left final) :
    weight left after.pending shown < weight left reader.pending state := by
  have hweight := weight_next_le hexhausts hlimit hnext
  have hafter : weight left after.pending shown ≤ weight left after.pending final :=
    Nat.add_le_add_right hshown _
  omega

end LineReader

namespace Script

open LineReader (left_lt_of_weight_lt splitLine_eq_some weight)

variable {kernel : Kernel σ} {left : σ → Nat}

/-- What an answer takes away of that. -/
def cost : Except StreamFailure (Option String) → Nat
  | .ok (some text) => (Text.encode text).length + 1
  | .ok none | .error _ => 0

theorem cost_decode_le (line : Bytes) : cost (decode (.ok (some line))) ≤ line.length + 1 := by
  rw [decode]
  cases hdecode : Text.decode? line with
  | some text =>
      rw [Text.decode?_eq_some_iff] at hdecode
      rw [cost, hdecode]
  | none => exact Nat.zero_le _

theorem length_dropReturn_le (line : Bytes) : (dropReturn line).length ≤ line.length := by
  rw [dropReturn]
  split
  · rw [List.length_dropLast]
    exact Nat.sub_le _ _
  · exact Nat.le_refl _

/-- While something is left the next line is found, which takes something away. -/
theorem exists_nextBytes (hexhausts : kernel.Exhausts left) (script : Descriptor) (limit : Nat)
    (pending : Bytes) (state : σ) (hlimit : left state < limit) :
    ∃ answer after final, nextBytes (kernel.readScript script) limit pending state =
        some (answer, after, final) ∧
      weight left after final + cost (decode answer) ≤ weight left pending state := by
  fun_induction nextBytes (kernel.readScript script) limit pending state with
  | case1 => exact absurd hlimit (Nat.not_lt_zero _)
  | case2 limit pending state line rest hsplit =>
      obtain ⟨hpending, -⟩ := splitLine_eq_some hsplit
      have hcost := cost_decode_le (dropReturn line)
      have hdropped := length_dropReturn_le line
      refine ⟨_, _, _, rfl, ?_⟩
      simp only [weight, hpending, List.length_append, List.length_cons]
      omega
  | case3 limit pending state hsplit read hread =>
      have hclosed := (hexhausts.readScript hread).1
      refine ⟨_, _, _, rfl, ?_⟩
      by_cases hempty : pending = []
      · simp only [weight, hempty, List.isEmpty_nil, if_pos, decode, cost]
        omega
      · have hcost := cost_decode_le pending
        have hnonempty : 0 < pending.length := List.length_pos_iff.mpr hempty
        rw [if_neg (by simpa using hempty)]
        simp only [weight, List.length_nil]
        omega
  | case4 limit pending state hsplit bytes read hnonempty hread ih =>
      have hchunk := (hexhausts.readScript hread).2.2 bytes rfl
      have hlength : 0 < bytes.length := List.length_pos_iff.mpr hnonempty
      obtain ⟨answer, after, final, hnext, hweight⟩ := ih (by omega)
      refine ⟨answer, after, final, hnext, hweight.trans ?_⟩
      simp only [weight, List.length_append]
      omega
  | case5 limit pending state hsplit read hread ih =>
      have hbroken := (hexhausts.readScript hread).2.1 rfl
      obtain ⟨answer, after, final, hnext, hweight⟩ := ih (by omega)
      refine ⟨answer, after, final, hnext, hweight.trans ?_⟩
      simp only [weight]
      omega
  | case6 limit pending state hsplit errno read hother hread =>
      have hfailed := (hexhausts.readScript hread).1
      refine ⟨_, _, _, rfl, ?_⟩
      simp only [weight, decode, cost]
      omega

theorem exists_nextRead (hexhausts : kernel.Exhausts left) (script : Descriptor) {limit : Nat}
    {pending : Bytes} {state : σ} (hlimit : weight left pending state < limit) :
    ∃ answer after final, nextRead (kernel.readScript script) limit pending state =
        some (answer, after, final) ∧
      weight left after final + cost answer ≤ weight left pending state := by
  obtain ⟨answer, after, final, hnext, hweight⟩ :=
    exists_nextBytes hexhausts script limit pending state (left_lt_of_weight_lt hlimit)
  exact ⟨decode answer, after, final, by rw [nextRead, hnext]; rfl, hweight⟩

theorem weight_nextRead_le (hexhausts : kernel.Exhausts left) {script : Descriptor} {limit : Nat}
    {pending after : Bytes} {state final : σ} {answer : Except StreamFailure (Option String)}
    (hlimit : weight left pending state < limit)
    (hnext : nextRead (kernel.readScript script) limit pending state =
      some (answer, after, final)) :
    weight left after final + cost answer ≤ weight left pending state := by
  obtain ⟨_, _, _, hsome, hweight⟩ := exists_nextRead hexhausts script hlimit
  rw [hnext] at hsome
  cases hsome
  exact hweight

end Script

namespace Shell

open LineReader (Intake Ends Piece Yields cut delivered texts texts_append weight)

variable {kernel : Kernel σ} {left : σ → Nat}

theorem left_complained_le (hexhausts : kernel.Exhausts left) {text : String} {state reported : σ}
    (hcomplain : Kernel.written (kernel.complain text state) = some reported) :
    left reported ≤ left state := by
  have hreported := hexhausts.complain text state
  rwa [Kernel.written_eq_some_iff.mp hcomplain] at hreported

/-! ### Scripts -/

section Sourcing

variable {drawn : σ → List Intake → List Intake → σ → Prop}

/-- A script that is done with leaves no more than there was. -/
theorem left_sourceScript_le (hexhausts : kernel.Exhausts left) {name : Bytes}
    {script : Descriptor} {limit : Nat} (turns : Nat) (pending : Bytes) (session : Session)
    (state : σ) (hlimit : weight left pending state < limit)
    {result : Option Int × Session × σ}
    (hsource : sourceFrom kernel name (Script.nextRead (kernel.readScript script) limit) turns
      pending session state = some result) :
    left result.2.2 ≤ weight left pending state := by
  fun_induction sourceFrom kernel name (Script.nextRead (kernel.readScript script) limit) turns
    pending session state with
  | case1 => cases hsource
  | case2 => cases hsource
  | case3 turns pending session state kept read hnext =>
      have hweight := Script.weight_nextRead_le hexhausts hlimit hnext
      cases hsource
      simp only [weight] at hweight ⊢
      omega
  | case4 turns pending session state failure kept read hnext message =>
      have hweight := Script.weight_nextRead_le hexhausts hlimit hnext
      obtain ⟨reported, hcomplain, hresult⟩ := Option.map_eq_some_iff.mp hsource
      have hreported := left_complained_le hexhausts hcomplain
      cases hresult
      simp only [weight] at hweight ⊢
      omega
  | case5 => cases hsource
  | case6 turns pending session state line kept read hnext code ended final hline =>
      have hweight := Script.weight_nextRead_le hexhausts hlimit hnext
      have hdone := hexhausts.line hline
      cases hsource
      simp only [weight, Script.cost] at hweight hdone ⊢
      omega
  | case7 turns pending session state line kept read hnext status taken final hline ih =>
      have hweight := Script.weight_nextRead_le hexhausts hlimit hnext
      have hdone := hexhausts.line hline
      have hless : weight left kept final ≤ weight left pending state := by
        simp only [weight, Script.cost] at hweight hdone ⊢
        omega
      exact (ih (hless.trans_lt hlimit) hsource).trans hless

/-- If there is patience for what is left, a script is never done with only if one of its
lines is not, or if its report cannot be written. -/
theorem strands_sourceScript (hattends : kernel.Attends drawn) (hexhausts : kernel.Exhausts left)
    {name : Bytes} {script : Descriptor} {limit : Nat} (turns : Nat) (pending : Bytes)
    (session : Session) (state : σ) (hturns : weight left pending state < turns)
    (hlimit : turns ≤ limit)
    (hsource : sourceFrom kernel name (Script.nextRead (kernel.readScript script) limit) turns
      pending session state = none) :
    ∃ taken stop, drawn state taken [] stop ∧
      Strands kernel (readable ((cut pending taken).map Script.text?)) session state stop := by
  fun_induction sourceFrom kernel name (Script.nextRead (kernel.readScript script) limit) turns
    pending session state with
  | case1 => exact absurd hturns (Nat.not_lt_zero _)
  | case2 turns pending session state hnext =>
      obtain ⟨_, _, _, hsome, -⟩ :=
        Script.exists_nextRead hexhausts script (hturns.trans_le hlimit)
      cases hnext.symm.trans hsome
  | case3 => cases hsource
  | case4 turns pending session state failure kept read hnext message =>
      obtain ⟨taken, hdrawn, htells⟩ := Script.tells_nextRead hattends hnext
      exact ⟨taken, read, hdrawn, .mute _ (Interlude.nothing.scripts hnext)
        (.complains (Option.map_eq_none_iff.mp hsource))⟩
  | case5 turns pending session state line kept read hnext hline =>
      obtain ⟨taken, hdrawn, htells⟩ := Script.tells_nextRead hattends hnext
      cases htells with
      | line hyields htext =>
          refine ⟨taken, read, hdrawn, ?_⟩
          rw [hyields.cut_eq, List.map_append, List.map_singleton, htext]
          exact .here _ (Interlude.nothing.scripts hnext) hline
  | case6 => cases hsource
  | case7 turns pending session state line kept read hnext status given final hline ih =>
      have hweight := Script.weight_nextRead_le hexhausts (hturns.trans_le hlimit) hnext
      have hdone := hexhausts.line hline
      have hless : weight left kept final < turns := by
        simp only [weight, Script.cost] at hweight hdone hturns ⊢
        omega
      obtain ⟨taken, hdrawn, htells⟩ := Script.tells_nextRead hattends hnext
      cases htells with
      | line hyields htext =>
          obtain ⟨later, stop, hlater, hstrands⟩ := ih hless (by omega) hsource
          have hleft := hattends.within.processLine line _ read hline
          refine ⟨taken ++ later, stop, hattends.trans hdrawn (hattends.ahead hleft hlater), ?_⟩
          rw [hyields, List.map_append, List.map_singleton, htext]
          exact .later (Interlude.nothing.scripts hnext) hline hstrands

theorem left_sourceInitScript_le (hexhausts : kernel.Exhausts left) {session : Session} {state : σ}
    (hpatience : left state < kernel.patience) {result : Option Int × Session × σ}
    (hsource : sourceInitScript kernel session state = some result) :
    left result.2.2 ≤ left state := by
  simp only [sourceInitScript] at hsource
  split at hsource
  · cases hsource
    exact Nat.le_refl _
  · next path hscript =>
      have hopened := hexhausts.openScript (Text.encode path) state
      split at hsource
      · next script opened hopen =>
          rw [hopen] at hopened
          obtain ⟨sourced, hfrom, rfl⟩ := Option.map_eq_some_iff.mp hsource
          have hdone := left_sourceScript_le hexhausts _ [] session opened
            (hopened.trans_lt hpatience) hfrom
          exact (hexhausts.closeScript script _).trans (hdone.trans hopened)
      · next errno opened hopen =>
          rw [hopen] at hopened
          split at hsource
          · cases hsource
            exact hopened
          · obtain ⟨reported, hcomplain, rfl⟩ := Option.map_eq_some_iff.mp hsource
            exact (left_complained_le hexhausts hcomplain).trans hopened

theorem strands_sourceInitScript (hattends : kernel.Attends drawn)
    (hexhausts : kernel.Exhausts left) {session : Session} {state : σ}
    (hpatience : left state < kernel.patience)
    (hsource : sourceInitScript kernel session state = none) :
    ∃ taken stop, drawn state taken [] stop ∧
      Strands kernel (readable (Script.delivered taken)) session state stop := by
  simp only [sourceInitScript] at hsource
  split at hsource
  · cases hsource
  · next path hscript =>
      have hleft := hexhausts.openScript (Text.encode path) state
      split at hsource
      · next script opened hopen =>
          rw [hopen] at hleft
          obtain ⟨taken, stop, hdrawn, hstrands⟩ := strands_sourceScript hattends hexhausts
            kernel.patience [] session opened (hleft.trans_lt hpatience) le_rfl
            (Option.map_eq_none_iff.mp hsource)
          exact ⟨taken, stop, hattends.ahead (hattends.openScript hopen) hdrawn,
            hstrands.behind (Interlude.nothing.opens hopen)⟩
      · next errno opened hopen =>
          split at hsource
          · cases hsource
          · exact ⟨[], opened, hattends.openScript hopen, .mute _ (Interlude.nothing.opens hopen)
              (.complains (Option.map_eq_none_iff.mp hsource))⟩

end Sourcing

/-! ### The input -/

section Input

variable {drawn : σ → List Intake → σ → Prop}

theorem left_said_le (hexhausts : kernel.Exhausts left) {text : String} {state said : σ}
    (hsay : Kernel.written (kernel.say text state) = some said) : left said ≤ left state := by
  have hsaid := hexhausts.serves.print (Text.encode text) state
  rwa [show kernel.print _ state = _ from Kernel.written_eq_some_iff.mp hsay] at hsaid

theorem left_promptIf_le (hexhausts : kernel.Exhausts left) (interactive : Bool) (state : σ) :
    left (promptIf kernel interactive state) ≤ left state := by
  cases interactive with
  | false => exact Nat.le_refl _
  | true => exact hexhausts.serves.print _ state

theorem left_newlineIf_le (hexhausts : kernel.Exhausts left) {interactive : Bool}
    {state shown : σ} (hnewline : newlineIf kernel interactive state = some shown) :
    left shown ≤ left state := by
  cases interactive with
  | false =>
      obtain rfl := Option.some_inj.mp hnewline
      exact Nat.le_refl _
  | true => exact left_said_le hexhausts hnewline

theorem left_serviceSignals_le (hexhausts : kernel.Exhausts left) {session served : Session}
    {state final : σ} {serviced : Serviced}
    (hserve : session.serviceSignals kernel state = (serviced, served, final)) :
    left final ≤ left state := by
  have hserved := hexhausts.serves.serviceSignals session state
  rwa [hserve] at hserved

theorem left_printFinishedJobs_le (hexhausts : kernel.Exhausts left) {session reported : Session}
    {state told : σ}
    (hreport : Kernel.written (session.printFinishedJobs kernel state) = some (reported, told)) :
    left told ≤ left state := by
  have hreaped := Registry.reapFrom_related (fun state next => left next ≤ left state)
    hexhausts.serves.refl hexhausts.serves.trans hexhausts.poll session.jobs.pids state
  have htold : left (session.reportFinishedJobs kernel state).2 ≤ left state :=
    hexhausts.serves.trans hreaped (hexhausts.serves.sayAll _ _)
  rwa [Session.reportFinishedJobs, Kernel.written_eq_some_iff.mp hreport] at htold

/-- What is left behind a line that has been waited for, with the length of the line, is less
than before. -/
theorem weight_awaitLine_lt (hexhausts : kernel.Exhausts left) (turns : Nat) (reader : LineReader)
    (session : Session) (state : σ) (hturns : weight left reader.pending state < turns)
    (hpatience : turns ≤ kernel.patience) {text : String} {after : LineReader} {next : Session}
    {final : σ} (hawait : awaitLine kernel turns reader session state =
      some (.line text, after, next, final)) :
    weight left after.pending final + (Text.encode text).length <
      weight left reader.pending state := by
  fun_induction awaitLine kernel turns reader session state with
  | case1 => cases hawait
  | case2 => cases hawait
  | case3 turns reader session state text kept read hnext =>
      have hlimit := (LineReader.left_lt_of_weight_lt hturns).trans_le hpatience
      cases hawait
      exact LineReader.weight_next_le hexhausts hlimit hnext
  | case4 => cases hawait
  | case5 turns reader session state interactive bytes kept read hnext message reported
      hcomplain ih =>
      have hlimit := (LineReader.left_lt_of_weight_lt hturns).trans_le hpatience
      have hleft := (left_promptIf_le hexhausts interactive reported).trans
        (left_complained_le hexhausts hcomplain)
      have hless := LineReader.weight_lt_of_next hexhausts hlimit hnext Nat.one_pos hleft
      exact (ih (by omega) (by omega) hawait).trans hless
  | case6 turns reader session state interactive kept read hnext =>
      obtain ⟨shown, -, hresult⟩ := Option.map_eq_some_iff.mp hawait
      cases hresult
  | case7 => cases hawait
  | case8 => cases hawait
  | case9 turns reader session state interactive kept read hnext served answered hserve ended
      hnewline ih =>
      have hlimit := (LineReader.left_lt_of_weight_lt hturns).trans_le hpatience
      have hleft := ((left_promptIf_le hexhausts interactive ended).trans
        (left_newlineIf_le hexhausts hnewline)).trans (left_serviceSignals_le hexhausts hserve)
      have hless := LineReader.weight_lt_of_next hexhausts hlimit hnext Nat.one_pos hleft
      exact (ih (by omega) (by omega) hawait).trans hless
  | case10 turns reader session state kept read hnext served answered hserve ih =>
      have hlimit := (LineReader.left_lt_of_weight_lt hturns).trans_le hpatience
      have hless := LineReader.weight_lt_of_next hexhausts hlimit hnext Nat.one_pos
        (left_serviceSignals_le hexhausts hserve)
      exact (ih (by omega) (by omega) hawait).trans hless
  | case11 turns reader session state errno kept read hnext message =>
      obtain ⟨shown, -, hresult⟩ := Option.map_eq_some_iff.mp hawait
      cases hresult

/-- If there is patience for what is left, a line is waited for without an end only if
something that is printed meanwhile cannot be written. -/
theorem mute_of_awaitLine (hdraws : kernel.Draws drawn) (hexhausts : kernel.Exhausts left)
    {first : Session} {start : σ} (turns : Nat) (reader : LineReader) (session : Session)
    (state : σ) (hturns : weight left reader.pending state < turns)
    (hpatience : turns ≤ kernel.patience)
    (hearlier : Interlude kernel first start session state)
    (hawait : awaitLine kernel turns reader session state = none) :
    ∃ taken given stop, drawn state taken stop ∧ Interlude kernel first start given stop ∧
      Mute kernel given stop := by
  fun_induction awaitLine kernel turns reader session state with
  | case1 => exact absurd hturns (Nat.not_lt_zero _)
  | case2 turns reader session state hnext =>
      have hlimit := (LineReader.left_lt_of_weight_lt hturns).trans_le hpatience
      obtain ⟨_, _, _, hsome, -⟩ := LineReader.exists_next hexhausts _ reader state hlimit
      cases hnext.symm.trans hsome
  | case3 => cases hawait
  | case4 turns reader session state bytes kept read hnext message hcomplain =>
      obtain ⟨taken, hdrawn, -⟩ := LineReader.answers_next hdraws _ _ _ hnext
      exact ⟨taken, session, read, hdrawn, hearlier.reads hnext, .complains hcomplain⟩
  | case5 turns reader session state interactive bytes kept read hnext message reported
      hcomplain ih =>
      have hlimit := (LineReader.left_lt_of_weight_lt hturns).trans_le hpatience
      have hleft := (left_promptIf_le hexhausts interactive reported).trans
        (left_complained_le hexhausts hcomplain)
      have hless := LineReader.weight_lt_of_next hexhausts hlimit hnext Nat.one_pos hleft
      obtain ⟨taken, hdrawn, -⟩ := LineReader.answers_next hdraws _ _ _ hnext
      have hshowed := hdraws.behind (hdraws.behind hdrawn (hdraws.within.complained hcomplain))
        (drawn_promptIf hdraws interactive reported)
      obtain ⟨later, given, stop, hlater, hinterlude, hmute⟩ := ih (by omega) (by omega)
        (((hearlier.reads hnext).complains hcomplain).promptIf interactive) hawait
      exact ⟨taken ++ later, given, stop, hdraws.trans hshowed hlater, hinterlude, hmute⟩
  | case6 turns reader session state interactive kept read hnext =>
      obtain ⟨taken, hdrawn, -⟩ := LineReader.answers_next hdraws _ _ _ hnext
      exact ⟨taken, session, read, hdrawn, hearlier.reads hnext,
        mute_of_newlineIf (Option.map_eq_none_iff.mp hawait) session⟩
  | case7 => cases hawait
  | case8 turns reader session state interactive kept read hnext served answered hserve hmute =>
      obtain ⟨_, hquiet, -⟩ := serviceSignals_quiet hdraws session read
      rw [hserve] at hquiet
      cases hquiet
  | case9 turns reader session state interactive kept read hnext served answered hserve =>
      obtain ⟨_, hquiet, -⟩ := serviceSignals_quiet hdraws session read
      rw [hserve] at hquiet
      cases hquiet
  | case10 turns reader session state kept read hnext served answered hserve ih =>
      have hlimit := (LineReader.left_lt_of_weight_lt hturns).trans_le hpatience
      have hless := LineReader.weight_lt_of_next hexhausts hlimit hnext Nat.one_pos
        (left_serviceSignals_le hexhausts hserve)
      obtain ⟨taken, hdrawn, -⟩ := LineReader.answers_next hdraws _ _ _ hnext
      have hserved := hdraws.within.serviceSignals session read
      rw [hserve] at hserved
      obtain ⟨later, given, stop, hlater, hinterlude, hmute⟩ := ih (by omega) (by omega)
        ((hearlier.reads hnext).serves hserve) hawait
      exact ⟨taken ++ later, given, stop, hdraws.trans (hdraws.behind hdrawn hserved) hlater,
        hinterlude, hmute⟩
  | case11 turns reader session state errno kept read hnext message =>
      obtain ⟨taken, hdrawn, -⟩ := LineReader.answers_next hdraws _ _ _ hnext
      exact ⟨taken, session, read, hdrawn, hearlier.reads hnext,
        .complains (Option.map_eq_none_iff.mp hawait)⟩

theorem left_before_line_le (hexhausts : kernel.Exhausts left)
    {session known reported : Session} {state served told : σ} {serviced : Serviced}
    (hserve : session.serviceSignals kernel state = (serviced, known, served))
    (hreport : Kernel.written (known.printFinishedJobs kernel served) = some (reported, told))
    (interactive : Bool) : left (promptIf kernel interactive told) ≤ left state :=
  calc
    left (promptIf kernel interactive told) ≤ left told := left_promptIf_le hexhausts _ told
    _ ≤ left served := left_printFinishedJobs_le hexhausts hreport
    _ ≤ left state := left_serviceSignals_le hexhausts hserve

/-- If there is patience for what is left, an input is never done with only if one of its lines
is not, or if something that is printed cannot be written. -/
theorem strands_runInput (hdraws : kernel.Draws drawn) (hexhausts : kernel.Exhausts left)
    (turns : Nat) (reader : LineReader) (session : Session) (state : σ)
    (hturns : weight left reader.pending state < turns) (hpatience : turns ≤ kernel.patience)
    (hrun : runInput kernel turns reader session state = none) :
    ∃ taken stop, drawn state taken stop ∧
      Strands kernel (texts (cut reader.pending taken)) session state stop := by
  fun_induction runInput kernel turns reader session state with
  | case1 => exact absurd hturns (Nat.not_lt_zero _)
  | case2 => cases hrun
  | case3 turns reader session state serviced known served _ hserve hreport =>
      have hserved := hdraws.within.serviceSignals session state
      rw [hserve] at hserved
      exact ⟨[], served, hserved, .mute _ (Interlude.nothing.serves hserve) (.reports hreport)⟩
  | case4 turns reader session state serviced known served _ hserve reported told hreport
      hawait =>
      have hleft := left_before_line_le hexhausts hserve hreport reported.settings.interactive
      have hweight := (Nat.add_le_add_right hleft _).trans_lt (hturns.trans_le hpatience)
      obtain ⟨hinterlude, hbefore⟩ := interlude_before_line hdraws hserve hreport _
      obtain ⟨taken, given, stop, hdrawn, hinterlude, hmute⟩ := mute_of_awaitLine hdraws hexhausts
        kernel.patience reader reported _ hweight le_rfl hinterlude hawait
      exact ⟨taken, stop, hdraws.ahead hbefore hdrawn, .mute _ hinterlude hmute⟩
  | case5 => cases hrun
  | case6 turns reader session state serviced known served _ hserve reported told hreport
      text kept awaited shown hawait hline =>
      obtain ⟨hinterlude, hbefore⟩ := interlude_before_line hdraws hserve hreport _
      obtain ⟨hinterlude, taken, hdrawn, hawaits⟩ := awaitLine_next hdraws _ _ _ _ hinterlude hawait
      cases hawaits with
      | line hyields htexts =>
          refine ⟨taken, shown, hdraws.ahead hbefore hdrawn, ?_⟩
          rw [hyields.cut_eq, texts_append, htexts]
          exact .here _ hinterlude hline
  | case7 => cases hrun
  | case8 turns reader session state serviced known served _ hserve reported told hreport
      text kept awaited shown hawait status given final hline ih =>
      have hleft := left_before_line_le hexhausts hserve hreport reported.settings.interactive
      have hweight := (Nat.add_le_add_right hleft (2 * reader.pending.length)).trans_lt hturns
      have hkept := weight_awaitLine_lt hexhausts kernel.patience reader reported _
        (hweight.trans_le hpatience) le_rfl hawait
      have hfinal := hexhausts.line hline
      have hless : weight left kept.pending final < turns := by
        simp only [weight] at hkept hturns hweight ⊢
        omega
      obtain ⟨hinterlude, hbefore⟩ := interlude_before_line hdraws hserve hreport _
      obtain ⟨hinterlude, taken, hdrawn, hawaits⟩ :=
        awaitLine_next hdraws _ _ _ _ hinterlude hawait
      cases hawaits with
      | line hyields htexts =>
          obtain ⟨later, stop, hlater, hstrands⟩ := ih hless (by omega) hrun
          have hdone := hdraws.within.processLine text _ shown hline
          refine ⟨taken ++ later, stop, ?_, ?_⟩
          · exact hdraws.ahead hbefore (hdraws.trans hdrawn (hdraws.ahead hdone hlater))
          · rw [hyields, texts_append, htexts]
            exact .later hinterlude hline hstrands

end Input

/-! ## Whole sessions -/

end Shell

/-! ## A script and an input that are settled beforehand -/

open LineReader (Intake)

/-- A script and an input of which it is settled beforehand what each read comes to; both end
behind the last. -/
structure Desk where
  script : List (Except Errno Bytes)
  answers : List (Except Errno Bytes)
  sourced : List Intake := []
  taken : List Intake := []
  deriving DecidableEq

namespace Desk

def readScript (desk : Desk) : Except Errno Bytes × Desk :=
  let answer := desk.script.headD (.ok [])
  (answer,
    { desk with
      script := desk.script.tail, sourced := desk.sourced ++ Intake.ofRead answer })

def read (desk : Desk) : Except Errno Bytes × Desk :=
  let answer := desk.answers.headD (.ok [])
  (answer,
    { desk with answers := desk.answers.tail, taken := desk.taken ++ Intake.ofRead answer })

def drawn (before : Desk) (sourced taken : List Intake) (after : Desk) : Prop :=
  after.sourced = before.sourced ++ sourced ∧ after.taken = before.taken ++ taken

/-- What an answer takes of what is left. -/
def price : Except Errno Bytes → Nat
  | .ok bytes => 2 * bytes.length
  | .error _ => 1

def total (answers : List (Except Errno Bytes)) : Nat :=
  answers.foldr (fun answer rest => rest + price answer) 0

def left (desk : Desk) : Nat :=
  total desk.script + total desk.answers

theorem total_tail (answers : List (Except Errno Bytes)) :
    total answers.tail + price (answers.headD (.ok [])) = total answers := by
  cases answers <;> rfl

theorem left_readScript (desk : Desk) :
    desk.readScript.2.left + price desk.readScript.1 = desk.left := by
  have htotal := total_tail desk.script
  simp only [readScript, left]
  omega

theorem left_read (desk : Desk) : desk.read.2.left + price desk.read.1 = desk.left := by
  have htotal := total_tail desk.answers
  simp only [read, left]
  omega

/-- What a read takes away when its answer has the price. -/
theorem left_le_of_price {before after : Desk} {answer : Except Errno Bytes}
    (hprice : after.left + price answer = before.left) :
    after.left ≤ before.left ∧ (answer = .error .interrupted → after.left < before.left) ∧
      ∀ bytes, answer = .ok bytes → after.left + 2 * bytes.length ≤ before.left := by
  refine ⟨hprice ▸ Nat.le_add_right _ _, ?_, ?_⟩
  · rintro rfl
    exact hprice.le
  · rintro bytes rfl
    exact hprice.le

/-- A kernel with nothing but such an input and one script. -/
def kernel : Kernel Desk :=
  { Kernel.still Desk with
    openScript := fun path desk =>
      (if path = Text.encode "rc" then .ok 3 else .error .noEntry, desk)
    readScript := fun _ => readScript
    read := read }

theorem kernel_within : kernel.Within fun desk next => next = desk := by
  constructor
  case trans =>
    intro first second third hfirst hsecond
    exact hsecond.trans hfirst
  all_goals
    intros
    rfl

theorem drawn_nothing (desk : Desk) : desk.drawn [] [] desk :=
  ⟨(List.append_nil _).symm, (List.append_nil _).symm⟩

theorem drawn_trans {first second third : Desk} {scripted sourced front back : List Intake}
    (hfront : first.drawn scripted front second) (hback : second.drawn sourced back third) :
    first.drawn (scripted ++ sourced) (front ++ back) third := by
  rw [drawn] at *
  rw [hback.1, hback.2, hfront.1, hfront.2, List.append_assoc, List.append_assoc]
  exact ⟨rfl, rfl⟩

theorem kernel_attends : kernel.Attends drawn where
  within := by
    refine kernel_within.imp ?_ drawn_trans
    rintro desk _ rfl
    exact drawn_nothing _
  trans := drawn_trans
  openScript hopen := by
    cases hopen
    exact drawn_nothing _
  readScript hread := by
    cases hread
    exact ⟨rfl, (List.append_nil _).symm⟩
  closeScript _ desk := drawn_nothing desk
  await hawait := by
    cases hawait
    exact drawn_nothing _
  read hread := by
    cases hread
    exact ⟨(List.append_nil _).symm, rfl⟩
  takeAlarm _ := rfl
  takeQuits _ := rfl
  takeInterrupt _ := rfl

theorem kernel_exhausts : kernel.Exhausts left where
  serves := (kernel_within.imp (fun hsame => (congrArg left hsame).le) fun hfirst hsecond =>
    hsecond.trans hfirst).servesWithin
  complain _ _ := Nat.le_refl _
  poll _ _ := Nat.le_refl _
  openScript _ _ := Nat.le_refl _
  readScript {_ desk _ _} hread := by
    have hprice := desk.left_readScript
    rw [show desk.readScript = _ from hread] at hprice
    exact left_le_of_price hprice
  closeScript _ _ := Nat.le_refl _
  await hawait := by
    cases hawait
    exact ⟨Nat.le_refl _, by simp⟩
  read {desk _ _} hread := by
    have hprice := desk.left_read
    rw [show desk.read = _ from hread] at hprice
    exact left_le_of_price hprice
  line {_ _ _ state final _} hline := by
    have hsame : final = state := kernel_within.processLine _ _ _ hline
    rw [hsame]
    exact Nat.le_add_right _ _

end Desk

namespace Shell

end Shell

end JobShell
