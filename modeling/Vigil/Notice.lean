import Vigil.Json.Printer
import Vigil.Monitor
import Vigil.Record

/-!
# Reports of the loop

* `StopReason`: why a run ended;
* `Notice`: what is reported;
* `Reporter`: who is told; `Reporter.journal`: one that keeps a record of each notice.
-/

namespace Vigil

/-- Why a run ended: there is no monitor, a handler succeeded, or somebody asked for a stop. -/
inductive StopReason where
  | monitorsNotConfigured
  | successfullyHandled
  | backgroundTaskStopped
  deriving DecidableEq, Repr

/-- Why a run ended, in words. -/
def StopReason.text : StopReason → String
  | monitorsNotConfigured => "monitors are not configured"
  | successfullyHandled => "successfully handled"
  | backgroundTaskStopped => "background task stopped"

/-- What the loop reports: that a run begins or ends, that a monitor's threshold is violated, and
that a monitor has run out of strikes.  `sleep` is the time between two passes in seconds. -/
inductive Notice where
  | started (handler : String) (sleep : Binary64)
  | stopped (handler : String) (sleep : Binary64) (reason : StopReason)
  | thresholdViolated (monitor : String)
  | strikesExceeded (monitor handler : String) (sleep : Binary64) (strikes : Strikes)
      (payload : Payload)

/-- Who is told of notices. -/
abbrev Reporter (σ : Type) := Notice → Call σ Unit

/-- A payload as JSON text. -/
def Payload.text (p : Payload) : String := (Json.object p.entries).compact

namespace Notice

/-- The part of the program that writes records of notices. -/
def target : String := "memwatch::reporter"

/-- The record of a notice. -/
def record : Notice → Record
  | started handler sleep =>
    ⟨.info, target, "memwatch: started",
      [("pid", .process .self), ("memwatch_handler_class", .text handler),
       ("memwatch_sleep_time_s", .number sleep)]⟩
  | stopped handler sleep reason =>
    ⟨.info, target, "memwatch: stopped",
      [("pid", .process .self), ("memwatch_handler_class", .text handler),
       ("memwatch_sleep_time_s", .number sleep), ("memwatch_reason", .text reason.text)]⟩
  | thresholdViolated monitor =>
    ⟨.warn, target, "memwatch: threshold violated",
      [("pid", .process .self), ("memwatch_monitor", .text monitor)]⟩
  | strikesExceeded monitor handler sleep strikes payload =>
    ⟨.warn, target, "memwatch: strikes exceeded",
      [("pid", .process .self), ("memwatch_monitor", .text monitor),
       ("memwatch_handler_class", .text handler), ("memwatch_sleep_time_s", .number sleep),
       ("memwatch_cur_strikes", .integer strikes.count.toNat),
       ("memwatch_max_strikes", .integer strikes.limit.toNat),
       ("memwatch_payload", .text payload.text)]⟩

end Notice

/-- Keep a record of each notice. -/
def Reporter.journal {σ : Type} [Journal σ] : Reporter σ :=
  fun n => Call.modify (Journal.log n.record)

end Vigil
