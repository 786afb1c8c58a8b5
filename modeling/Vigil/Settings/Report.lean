import Vigil.Json.Printer
import Vigil.Settings.Basic

/-!
# Reports on settings

* `Settings.toJson`: settings as a JSON value, fields in their order;
* `Settings.jsonReport`, `Settings.plainReport`: the texts that a check prints.
-/

namespace Vigil

/-- The settings of the loop as a JSON object. -/
def WatchdogSettings.toJson (w : WatchdogSettings) : Json :=
  .object
    [("sleep_time_seconds", .int w.sleepTimeSeconds.toNat),
     ("handler", .string w.handler.name),
     ("enabled", .bool w.enabled),
     ("enforce", .bool w.enforce)]

/-- The settings of a monitor as a JSON object. -/
def MonitorSettings.toJson (m : MonitorSettings) : Json :=
  .object
    [("enabled", .bool m.enabled),
     ("max_strikes", match m.maxStrikes with
       | some n => .int n.toNat
       | none => .null)]

namespace Settings

/-- Settings as a JSON object. -/
def toJson (s : Settings) : Json :=
  .object
    [("watchdog", s.watchdog.toJson),
     ("monitors", .object (s.monitors.entries.map fun e => (e.1, e.2.toJson)))]

/-- The report for machines. -/
def jsonReport (s : Settings) : String := s.toJson.pretty ++ "\n"

/-- The line of the plain report on a monitor. -/
def monitorLine (name : String) (m : MonitorSettings) : String :=
  "    " ++ name ++ " (" ++ (if m.enabled then "enabled" else "disabled") ++ ", max strikes: " ++
    (match m.maxStrikes with
      | some n => toString n.toNat
      | none => "default") ++ ")\n"

/-- The part of the plain report on monitors. -/
def monitorLines (monitors : SortedMap MonitorSettings) : String :=
  if monitors.isEmpty then "  Monitors: (defaults)\n"
  else "  Monitors:\n" ++ String.join (monitors.entries.map fun e => monitorLine e.1 e.2)

/-- The report for people. -/
def plainReport (s : Settings) : String :=
  "Configuration is valid\n" ++
  "  Sleep time: " ++ toString s.watchdog.sleepTimeSeconds.toNat ++ "s\n" ++
  "  Handler: " ++ s.watchdog.handler.name ++ "\n" ++
  "  Watchdog enabled: " ++ toString s.watchdog.enabled ++ "\n" ++
  "  Enforcement enabled: " ++ toString s.watchdog.enforce ++ "\n" ++
  monitorLines s.monitors

end Settings

end Vigil
