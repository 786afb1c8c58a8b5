import Vigil.Watchdog.Lifecycle
import Vigil.Watchdog.Loop

/-!
# Watchdogs

* `Watchdog`, `Watchdog.new`, `Watchdog.configure`: a watchdog before it runs;
* `Watchdog.stop`, `Watchdog.isStopped`: asking for a stop;
* `Run`, `Watchdog.run`: a run on the caller's thread; a watchdog runs at most once;
* `RunResult.joined`: what is heard of a run on a thread of its own.
-/

namespace Vigil

/-- A watchdog in worlds of type `σ`: what a run needs, the switches it reads, how it rests, the
request to stop, and where in its life it is. -/
structure Watchdog (σ : Type) where
  configuration : Configuration σ
  toggles : Toggles σ := StaticToggles.toggles {}
  pause : Pause σ := .interruptible
  signal : StopSignal := {}
  lifecycle : Lifecycle := .idle

/-- How a run ended: it returned; something that it called did not, be it that the callee crashed or
that it waits for good; or it did not end within the turns that were allowed. -/
inductive RunResult where
  | returned (result : Except Fault StopReason)
  | crashed
  | unfinished

/-- A run: how it ended, what happened in it, in order, and the watchdog and the world after it. -/
structure Run (σ : Type) where
  result : RunResult
  events : List Event
  watchdog : Watchdog σ
  world : σ

namespace Watchdog

variable {σ : Type}

/-- A watchdog with the default configuration. -/
def new [Journal σ] : Watchdog σ := { configuration := .default }

/-- Change the configuration. -/
def configure (d : Watchdog σ) (f : Configuration σ → Configuration σ) : Watchdog σ :=
  { d with configuration := f d.configuration }

/-- Read the switches elsewhere. -/
def withToggles (d : Watchdog σ) (toggles : Toggles σ) : Watchdog σ := { d with toggles }

/-- Rest in another way. -/
def withPause (d : Watchdog σ) (pause : Pause σ) : Watchdog σ := { d with pause }

/-- Ask the loop to end before its next turn. -/
def stop (d : Watchdog σ) : Watchdog σ := { d with signal := d.signal.request }

/-- Whether a stop was asked for. -/
def isStopped (d : Watchdog σ) : Bool := d.signal.requested

/-- What the loop calls. -/
def surroundings (d : Watchdog σ) : Surroundings σ := ⟨d.configuration, d.toggles, d.pause⟩

/-- Report something with the name of the handler that is in effect; nothing if something
crashed. -/
def announce (d : Watchdog σ) (notice : String → Notice) : Act σ (Option Unit) := do
  let handler? ← Loop.currentHandler d.surroundings
  match handler? with
  | none => return none
  | some handler => Loop.report d.configuration (notice handler.name)

/-- Report the beginning, take turns, and report the end. -/
def session (d : Watchdog σ) (allowed : Nat) : Act σ (MonitorSet σ × Ending) := do
  let ms := d.configuration.monitors
  let sleep := d.configuration.sleepSeconds
  let began ← d.announce (.started · sleep)
  if began.isNone then return (ms, .crashed)
  else
    let (ms, ending) ← Loop.turns d.surroundings allowed ms
    match ending with
    | .done reason =>
      let ended ← d.announce (.stopped · sleep reason)
      return (ms, if ended.isNone then .crashed else .done reason)
    | ending => return (ms, ending)

/-- The watchdog with other monitors. -/
def withMonitors (d : Watchdog σ) (monitors : MonitorSet σ) : Watchdog σ :=
  d.configure ({ · with monitors })

/-- A run that was refused: nothing happened. -/
def refused (d : Watchdog σ) (world : σ) (fault : Fault) : Run σ :=
  ⟨.returned (.error fault), [], d, world⟩

/-- Run the loop, for as many turns as are allowed.  The configuration is checked before the life
of the watchdog: only an idle watchdog with a usable configuration begins, and once its end is
reported it stops. -/
def run (d : Watchdog σ) (allowed : Nat) (world : σ) : Run σ :=
  match d.configuration.validate with
  | .error fault => d.refused world fault
  | .ok () =>
    match d.lifecycle.start? with
    | none => d.refused world (.lifecycle (.cannotStart d.lifecycle))
    | some lifecycle =>
      let s := d.session allowed ⟨world, d.signal⟩
      let after : Watchdog σ :=
        { d.withMonitors s.value.1 with lifecycle, signal := s.scene.signal }
      match s.value.2 with
      | .crashed => ⟨.crashed, s.events, after, s.scene.world⟩
      | .unfinished => ⟨.unfinished, s.events, after, s.scene.world⟩
      | .done reason =>
        match lifecycle.stop? with
        | none =>
          ⟨.returned (.error (.lifecycle (.cannotStop lifecycle))), s.events, after,
            s.scene.world⟩
        | some lifecycle =>
          ⟨.returned (.ok reason), s.events, { after with lifecycle }, s.scene.world⟩

end Watchdog

/-- What is heard of a run on a thread of its own: a crash there is a fault here.  Nothing is heard
of a run that does not end, nor of one in which a callee does not crash but waits for good. -/
def RunResult.joined : RunResult → Option (Except Fault StopReason)
  | returned result => some result
  | crashed => some (.error (.lifecycle .crashed))
  | unfinished => none

end Vigil
