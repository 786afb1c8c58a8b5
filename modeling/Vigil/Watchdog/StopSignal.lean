/-!
# Asking for a stop

A request to stop is a flag, which the loop reads before each turn, and a token, which wakes a
loop that rests.

* `StopSignal.raise`, `StopSignal.wake`, `StopSignal.request`: asking, in its two steps and whole;
* `StopSignal.takeToken`: resting until the time is over or a token is there.
-/

namespace Vigil

/-- Whether a stop was asked for, and whether a token lies ready to wake the loop.  There is room
for one token. -/
structure StopSignal where
  requested : Bool := false
  token : Bool := false
  deriving DecidableEq, Repr, Inhabited

namespace StopSignal

/-- Note that a stop is asked for. -/
def raise (s : StopSignal) : StopSignal := { s with requested := true }

/-- Lay a token down; if there is one already, that will do. -/
def wake (s : StopSignal) : StopSignal := { s with token := true }

/-- Ask for a stop. -/
def request (s : StopSignal) : StopSignal := s.raise.wake

/-- Ask for a stop if that is wanted. -/
def requestIf (s : StopSignal) (wanted : Bool) : StopSignal := if wanted then s.request else s

/-- Take the token, if there is one; whether there was one. -/
def takeToken (s : StopSignal) : Bool × StopSignal := (s.token, { s with token := false })

@[simp]
theorem requested_request (s : StopSignal) : s.request.requested = true := rfl

@[simp]
theorem token_request (s : StopSignal) : s.request.token = true := rfl

/-- A request that was made stays made. -/
@[simp]
theorem requested_requestIf (s : StopSignal) (wanted : Bool) :
    (s.requestIf wanted).requested = (s.requested || wanted) := by
  cases wanted <;> simp [requestIf]

@[simp]
theorem requested_takeToken (s : StopSignal) : s.takeToken.2.requested = s.requested := rfl

end StopSignal

end Vigil
