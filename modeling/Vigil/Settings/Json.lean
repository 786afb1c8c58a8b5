import Vigil.Handler.Json
import Vigil.Settings.Basic

/-!
# Settings from JSON

The counterpart of `Settings.toJson`: fields are found by name, what is left out has its default,
and names that mean nothing here are passed over.

* `field`: a field of an object, or its default;
* `WatchdogSettings.ofJson?`, `MonitorSettings.ofJson?`, `Settings.ofJson?`.
-/

namespace Vigil

namespace Settings

/-- The field of an object with a name, or a default if there is none. -/
def field {α : Type} (fields : List (String × Json)) (name : String) (default : α)
    (decode : Json → Option α) : Option α :=
  match fields.find? (fun f => f.1 == name) with
  | none => some default
  | some f => decode f.2

/-- A truth value. -/
def boolOf? : Json → Option Bool
  | .bool b => some b
  | _ => none

/-- An integer from zero up to, but not including, a bound. -/
def natOf? (bound : Nat) : Json → Option Nat
  | .int i => if 0 ≤ i ∧ i < bound then some i.toNat else none
  | _ => none

/-- A limit, or null where none is set. -/
def limitOf? : Json → Option (Option UInt32)
  | .null => some none
  | v => (natOf? UInt32.size v).map fun n => some (UInt32.ofNat n)

/-- The remediation that a value names. -/
def handlerOf? (v : Json) : Option HandlerKind :=
  match HandlerKind.ofJson v with
  | .ok kind => some kind
  | .error _ => none

end Settings

open Settings in
/-- The settings of the loop that a JSON object describes. -/
def WatchdogSettings.ofJson? : Json → Option WatchdogSettings
  | .object fields => do
    let standard : WatchdogSettings := {}
    let secs ← field fields "sleep_time_seconds" standard.sleepTimeSeconds fun v =>
      (natOf? UInt64.size v).map UInt64.ofNat
    let handler ← field fields "handler" standard.handler handlerOf?
    let enabled ← field fields "enabled" standard.enabled boolOf?
    let enforce ← field fields "enforce" standard.enforce boolOf?
    return ⟨secs, handler, enabled, enforce⟩
  | _ => none

open Settings in
/-- The settings of a monitor that a JSON object describes. -/
def MonitorSettings.ofJson? : Json → Option MonitorSettings
  | .object fields => do
    let standard : MonitorSettings := {}
    let enabled ← field fields "enabled" standard.enabled boolOf?
    let maxStrikes ← field fields "max_strikes" standard.maxStrikes limitOf?
    return ⟨enabled, maxStrikes⟩
  | _ => none

namespace Settings

/-- The settings of monitors that a JSON object describes, by name. -/
def monitorsOf? : Json → Option (SortedMap MonitorSettings)
  | .object fields => do
    let monitors ← fields.mapM fun f => do return (f.1, ← MonitorSettings.ofJson? f.2)
    return SortedMap.ofList monitors
  | _ => none

/-- The settings that a JSON object describes. -/
def ofJson? : Json → Option Settings
  | .object fields => do
    let watchdog ← field fields "watchdog" {} WatchdogSettings.ofJson?
    let monitors ← field fields "monitors" SortedMap.empty monitorsOf?
    return ⟨watchdog, monitors⟩
  | _ => none

end Settings

end Vigil
