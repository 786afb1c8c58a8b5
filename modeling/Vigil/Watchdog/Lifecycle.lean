/-!
# The life of a watchdog

* `Lifecycle`: idle, running, stopped;
* `Lifecycle.start?`, `Lifecycle.stop?`: the two steps of that life.
-/

namespace Vigil

/-- Where in its life a watchdog is. -/
inductive Lifecycle where
  | idle
  | running
  | stopped
  deriving DecidableEq, Repr, Inhabited

namespace Lifecycle

/-- The name for messages. -/
def name : Lifecycle → String
  | idle => "Idle"
  | running => "Running"
  | stopped => "Stopped"

/-- Only an idle watchdog starts. -/
def start? : Lifecycle → Option Lifecycle
  | idle => some running
  | _ => none

/-- Only a running watchdog stops. -/
def stop? : Lifecycle → Option Lifecycle
  | running => some stopped
  | _ => none

/-- Starting succeeds from one state only. -/
theorem start?_eq_some_iff {l m : Lifecycle} : l.start? = some m ↔ l = idle ∧ m = running := by
  cases l <;> simp [start?, eq_comm]

end Lifecycle

end Vigil
