import Vigil.Record
import Vigil.Settings.Decode
import Vigil.Watchdog.Lifecycle

/-!
# Faults

* `IoFault`, `Errno`: what the operating system refuses;
* `Invalid`, `RetireFault`, `LifecycleFault`: what the watchdog itself refuses;
* `Fault`: all of them, with what was being done;
* `Fault.message`, `Fault.cause?`: their words.
-/

namespace Vigil

/-- Why a file could not be read as text: among others, it is not text in UTF-8, or its path holds
the character that ends paths. -/
inductive IoFault where
  | notFound
  | notADirectory
  | isADirectory
  | nameTooLong
  | notText
  | nulInPath
  | other (text : String)
  deriving DecidableEq, Repr

/-- Why a file could not be read, in words. -/
def IoFault.text : IoFault → String
  | notFound => "No such file or directory (os error 2)"
  | notADirectory => "Not a directory (os error 20)"
  | isADirectory => "Is a directory (os error 21)"
  | nameTooLong => "File name too long (os error 36)"
  | notText => "stream did not contain valid UTF-8"
  | nulInPath => "file name contained an unexpected NUL byte"
  | other text => text

/-- Why a signal could not be sent. -/
inductive Errno where
  | notPermitted
  | noSuchProcess
  | invalidArgument
  deriving DecidableEq, Repr

/-- Why a signal could not be sent, in words. -/
def Errno.text : Errno → String
  | notPermitted => "EPERM: Operation not permitted"
  | noSuchProcess => "ESRCH: No such process"
  | invalidArgument => "EINVAL: Invalid argument"

/-- What makes a configuration unusable: something in the settings, a loop that would not rest
between two passes, or the lack of a worker manager by which to retire workers. -/
inductive Invalid where
  | settings (problem : Settings.Problem)
  | zeroSleepTime
  | managerMissing
  | other (text : String)
  deriving DecidableEq, Repr

/-- What is unusable, in words. -/
def Invalid.text : Invalid → String
  | settings .zeroSleepTime => "sleep_time_seconds must be greater than zero"
  | settings .blankMonitorName => "Monitor name cannot be empty"
  | zeroSleepTime => "sleep_time must be greater than zero"
  | managerMissing => "managed_process handler requires a worker manager"
  | other text => text

/-- Why a worker manager did not take a request.  Nobody receives requests once the channel is
closed. -/
inductive RetireFault where
  | channelClosed
  | other (text : String)
  deriving DecidableEq, Repr

/-- Why a request was not taken, in words. -/
def RetireFault.text : RetireFault → String
  | channelClosed => "worker manager channel closed"
  | other text => text

/-- Why a watchdog did not run to its end: it cannot start or stop from where it is in its life, or
it crashed on its thread. -/
inductive LifecycleFault where
  | cannotStart (state : Lifecycle)
  | cannotStop (state : Lifecycle)
  | crashed
  | other (text : String)
  deriving DecidableEq, Repr

/-- A step of its life that a watchdog cannot take, as it is printed. -/
def Lifecycle.invalidTransition (state : Lifecycle) (event : String) : String :=
  "InvalidTransition \x7b from: \"" ++ state.name ++ "\", event: \"" ++ event ++ "\" \x7d"

/-- Why a watchdog did not run to its end, in words. -/
def LifecycleFault.text : LifecycleFault → String
  | cannotStart state =>
    "cannot start from " ++ state.name ++ ": " ++ state.invalidTransition "start"
  | cannotStop state => "cannot stop: " ++ state.invalidTransition "stop"
  | crashed => "watchdog thread panicked"
  | other text => text

/-- What went wrong. -/
inductive Fault where
  | io (cause : IoFault)
  | configRead (path : String) (cause : IoFault)
  | configParse (cause : Settings.ParseFault)
  | configValidation (cause : Invalid)
  | signal (pid : ProcessId) (cause : Errno)
  | workerManager (cause : RetireFault)
  | spawn (cause : IoFault)
  | lifecycle (cause : LifecycleFault)

namespace Fault

/-- What went wrong, in words. -/
def message : Fault → String
  | io cause => "IO error: " ++ cause.text
  | configRead path cause => "Failed to read config file '" ++ path ++ "': " ++ cause.text
  | configParse cause => "Failed to parse config: " ++ cause.message
  | configValidation cause => "Config validation failed: " ++ cause.text
  | signal pid cause => "Failed to signal process " ++ pid.text ++ ": " ++ cause.text
  | workerManager cause => "Worker manager request failed: " ++ cause.text
  | spawn cause => "Failed to spawn watchdog thread: " ++ cause.text
  | lifecycle cause => "Watchdog lifecycle error: " ++ cause.text

/-- The words of a cause that is an error of its own. -/
def cause? : Fault → Option String
  | io cause => some cause.text
  | configRead _ cause => some cause.text
  | configParse cause => some cause.message
  | signal _ cause => some cause.text
  | configValidation _ | workerManager _ | spawn _ | lifecycle _ => none

end Fault

namespace Settings

/-- Settings are usable if the loop rests between two passes and every monitor's name shows. -/
def validate (s : Settings) : Except Fault Unit :=
  match s.problem? with
  | some p => .error (.configValidation (.settings p))
  | none => .ok ()

end Settings

end Vigil
