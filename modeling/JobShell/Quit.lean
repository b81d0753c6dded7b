import JobShell.Duration

/-!
# Confirmed quits

One quit never ends a session.  The first press asks for confirmation and starts
a timer; a second press before the timer runs out ends the session, and when it
has run out the next press is a first one again.

`handle` says what one delivery does to the state and which effects it asks for;
performing them is left to the session.
-/

namespace JobShell.Quit

inductive Action where
  | confirm
  | rearm
  | exit
  deriving DecidableEq, Repr, Inhabited

structure State where
  armed : Bool := false
  presses : Nat := 0
  deriving DecidableEq, Repr, Inhabited

namespace State

def press (state : State) : Action × State :=
  if !state.armed then (.confirm, { armed := true, presses := 1 })
  else
    let pressed := { state with presses := state.presses + 1 }
    (if pressed.presses ≥ 2 then .exit else .rearm, pressed)

/-- The timer has run out. -/
def expire (_ : State) : State :=
  { armed := false, presses := 0 }

end State

/-- What a signal means to a session. -/
inductive Delivery where
  | quit
  | timerExpired
  | interrupt
  deriving DecidableEq, Repr, Inhabited

inductive Effect where
  | announce (timeout : Duration)
  | arm (timeout : Duration)
  | cancel
  deriving DecidableEq, Repr, Inhabited

/-- The request for confirmation, which starts on a line of its own. -/
def announcement (timeout : Duration) : String :=
  "\nPress Ctrl-\\ again within " ++ toString timeout.seconds ++ " seconds to quit.\n"

/-- What comes of one delivery. -/
structure Response where
  state : State
  effects : List Effect := []
  exitCode : Option Int := none
  deriving DecidableEq, Repr, Inhabited

def handle (timeout : Duration) (delivery : Delivery) (state : State) : Response :=
  match delivery with
  | .quit =>
      match state.press with
      | (.confirm, next) => { state := next, effects := [.announce timeout, .arm timeout] }
      | (.rearm, next) => { state := next, effects := [.arm timeout] }
      | (.exit, next) => { state := next, effects := [.cancel], exitCode := some 0 }
  | .timerExpired => { state := state.expire }
  | .interrupt => { state }

/-- The seconds for which a timeout sets the alarm: at least one, since zero would
cancel it, and at most what the alarm can count. -/
def alarmSeconds (timeout : Duration) : Nat :=
  max 1 (min timeout.seconds 4294967295)

theorem alarmSeconds_pos (timeout : Duration) : 0 < alarmSeconds timeout :=
  Nat.lt_of_lt_of_le Nat.zero_lt_one (Nat.le_max_left 1 _)

end JobShell.Quit
