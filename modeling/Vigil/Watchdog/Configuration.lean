import Vigil.Handler.Basic
import Vigil.Notice
import Vigil.Toggles

/-!
# Configuration

* `Hook`, `Toggles`, `Pause`: what a watchdog calls besides monitors, handler and reporter;
* `Configuration`: what a run needs; `Configuration.apply`, `Configuration.validate`.
-/

namespace Vigil

/-- What is called with the name of a monitor that ran out of strikes, before the handler. -/
abbrev Hook (σ : Type) := String → Call σ Unit

/-- Do nothing. -/
def Hook.none {σ : Type} : Hook σ := fun _ => Call.pure ()

/-- Where the two switches are read: whether monitors are to be run, and whether the configured
handler is to be used. -/
structure Toggles (σ : Type) where
  watchdogEnabled : Call σ Bool
  enforcementEnabled : Call σ Bool

/-- Switches that never change. -/
def StaticToggles.toggles {σ : Type} (t : StaticToggles) : Toggles σ :=
  ⟨Call.pure t.watchdog, Call.pure t.enforce⟩

/-- How a watchdog rests between two turns: until the time is over or a stop is asked for, or in
some other way. -/
inductive Pause (σ : Type) where
  | interruptible
  | custom (rest : Duration → Call σ Unit)

/-- What a run needs: the time between two turns, what to do once a monitor runs out of strikes, who
is told of what happens, the monitors, and what is called before the handler. -/
structure Configuration (σ : Type) where
  sleepTime : Duration := .ofSeconds 60
  handler : Handler σ := .null
  reporter : Reporter σ
  monitors : MonitorSet σ := []
  diagnostics : Hook σ := Hook.none

namespace Configuration

variable {σ : Type}

/-- No monitors, a minute between two turns, and records of all that happens. -/
def default [Journal σ] : Configuration σ := { reporter := .journal }

/-- Take over what settings say of the loop. -/
def apply (c : Configuration σ) (s : Settings) : Configuration σ :=
  { c with sleepTime := s.sleepTime }

/-- The time between two turns in seconds. -/
def sleepSeconds (c : Configuration σ) : Binary64 := .ofFloat c.sleepTime.seconds

/-- A loop has to rest between two turns. -/
def validate (c : Configuration σ) : Except Fault Unit :=
  if c.sleepTime.isZero then .error (.configValidation .zeroSleepTime) else .ok ()

end Configuration

end Vigil
