import Vigil.Rehearsal.Doubles

/-!
# The stage of a rehearsal

* `Stage`: a watchdog, its world, and the settings that were read last;
* `Stage.run`, `Stage.spawn`: a run on the caller's thread, and one on a thread of its own, after
  which only the request to stop is left of the watchdog.
-/

namespace Vigil.Rehearsal

/-- How many turns a run may take here. -/
def allowedTurns : Nat := 100000

/-- A watchdog, until it is given to a thread, the request to stop, once it is gone, and the world;
also the settings that were read last. -/
structure Stage where
  watchdog : Option (Watchdog World)
  signal : StopSignal
  world : World
  settings : Settings

namespace Stage

/-- The beginning of a rehearsal. -/
def start : Stage := ⟨some .new, {}, {}, {}⟩

/-- Whether a stop was asked for. -/
def isStopped (s : Stage) : Bool :=
  match s.watchdog with
  | some d => d.isStopped
  | none => s.signal.requested

/-- Ask for a stop. -/
def stop (s : Stage) : Stage :=
  { s with watchdog := s.watchdog.map (·.stop), signal := s.signal.request }

/-- Ask for a stop if that is wanted. -/
def stopIf (s : Stage) (wanted : Bool) : Stage := if wanted then s.stop else s

/-- What happened since the last time, and the stage without it. -/
def takeTrace (s : Stage) : List Entry × Stage :=
  let (trace, world) := s.world.takeTrace
  (trace, { s with world })

/-- Run the watchdog. -/
def run (s : Stage) (d : Watchdog World) : RunResult × Stage :=
  let r := d.run allowedTurns s.world
  (r.result, { s with watchdog := some r.watchdog, world := r.world })

/-- What is done with a thread: wait for its end, perhaps after asking for a stop once monitors were
called so often. -/
inductive Farewell where
  | join
  | stopAfter (checks : Nat)

/-- Give the watchdog to a thread of its own and wait for its end. -/
def spawn (s : Stage) (d : Watchdog World) (farewell : Farewell) : RunResult × Stage :=
  let d := match farewell, d.pause with
    | .stopAfter 0, _ => d.stop
    | .stopAfter checks, .interruptible => d.withPause (outsideStop (s.world.checks + checks))
    | _, _ => d
  let r := d.run allowedTurns s.world
  let signal := match farewell with
    | .join => r.watchdog.signal
    | .stopAfter _ => r.watchdog.signal.request
  (r.result, { s with watchdog := none, signal, world := r.world })

end Stage

end Vigil.Rehearsal
