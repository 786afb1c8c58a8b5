import Vigil.Duration
import Vigil.Handler.Kind
import Vigil.SortedMap
import Vigil.Text.Blank

/-!
# Settings

* `WatchdogSettings`, `MonitorSettings`, `Settings`: what a settings file says, with defaults for
  what it leaves out;
* `Settings.monitor?`, `Settings.sleepTime`: reading;
* `Settings.Problem`, `Settings.problem?`: what makes settings unusable.
-/

namespace Vigil

/-- Settings of the loop: the seconds between two passes over the monitors, what to do once a
monitor runs out of strikes, whether monitors are run at all, and whether the handler is used. -/
structure WatchdogSettings where
  sleepTimeSeconds : UInt64 := 60
  handler : HandlerKind := .null
  enabled : Bool := true
  enforce : Bool := true
  deriving DecidableEq, Repr, Inhabited

/-- Settings of one monitor: whether it is registered at all, and the strikes it may have, if not
its own default. -/
structure MonitorSettings where
  enabled : Bool := true
  maxStrikes : Option UInt32 := none
  deriving DecidableEq, Repr, Inhabited

/-- What a settings file says of the loop, and of monitors, by name. -/
structure Settings where
  watchdog : WatchdogSettings := {}
  monitors : SortedMap MonitorSettings := SortedMap.empty
  deriving DecidableEq, Inhabited

namespace Settings

/-- The settings of a monitor, if there are any. -/
def monitor? (s : Settings) (name : String) : Option MonitorSettings := s.monitors.get? name

/-- The time between two passes. -/
def sleepTime (s : Settings) : Duration := .ofSeconds s.watchdog.sleepTimeSeconds

/-- What makes settings unusable: there is no time between two passes, or a monitor's name has no
character that shows. -/
inductive Problem where
  | zeroSleepTime
  | blankMonitorName
  deriving DecidableEq, Repr

/-- The first problem, if there is one. -/
def problem? (s : Settings) : Option Problem :=
  if s.watchdog.sleepTimeSeconds = 0 then some .zeroSleepTime
  else if s.monitors.keys.any Text.allBlank then some .blankMonitorName
  else none

end Settings

end Vigil
