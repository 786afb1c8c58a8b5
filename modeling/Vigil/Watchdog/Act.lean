import Vigil.Notice
import Vigil.Watchdog.StopSignal

/-!
# What a loop does

* `Event`: a call that a loop made, and what it returned;
* `Scene`: the world around a loop, and whether a stop was asked for;
* `Stretch`: what a stretch of a loop returned, the events in it, and the scene after it;
* `Act`: such a stretch, as a function of the scene before it; acts form a monad, in which events
  follow each other;
* `Act.call`: call into the surroundings and note the event.
-/

namespace Vigil

/-- A call that a loop made: the switch for monitors or the one for the handler was read, the
monitor with an index was called, the reporter was told, the hook or a handler was called, or the
loop rested.  A result is missing if the callee did not return. -/
inductive Event where
  | watchdogRead (on : Option Bool)
  | enforcementRead (on : Option Bool)
  | checked (index : Nat) (monitor : String) (verdict : Option Verdict)
  | reported (notice : Notice)
  | diagnosed (monitor : String)
  | handled (handler : String) (success : Option Bool)
  | paused (time : Duration)

/-- The world around a loop, and the request to stop. -/
structure Scene (σ : Type) where
  world : σ
  signal : StopSignal

/-- What a stretch of a loop comes to: what it returned, what happened in it, in order, and the
scene after it. -/
structure Stretch (σ α : Type) where
  value : α
  events : List Event
  scene : Scene σ

/-- A stretch of a loop, as a function of the scene before it. -/
def Act (σ α : Type) := Scene σ → Stretch σ α

namespace Act

variable {σ α β : Type}

/-- Return a value; nothing happens. -/
protected def pure (a : α) : Act σ α := fun s => ⟨a, [], s⟩

/-- One act after another. -/
protected def bind (x : Act σ α) (f : α → Act σ β) : Act σ β := fun s =>
  let first := x s
  let second := f first.value first.scene
  ⟨second.value, first.events ++ second.events, second.scene⟩

instance : Monad (Act σ) where
  pure := Act.pure
  bind := Act.bind

theorem pure_apply (a : α) (s : Scene σ) : (pure a : Act σ α) s = ⟨a, [], s⟩ := rfl

theorem bind_apply (x : Act σ α) (f : α → Act σ β) (s : Scene σ) :
    (x >>= f) s =
      ⟨(f (x s).value (x s).scene).value, (x s).events ++ (f (x s).value (x s).scene).events,
        (f (x s).value (x s).scene).scene⟩ := rfl

theorem map_apply (g : α → β) (x : Act σ α) (s : Scene σ) :
    (g <$> x) s = ⟨g (x s).value, (x s).events, (x s).scene⟩ := by
  show (x >>= fun a => pure (g a)) s = _
  simp [bind_apply, pure_apply]

instance : LawfulMonad (Act σ) := LawfulMonad.mk' (Act σ)
  (fun x => by funext s; rw [map_apply]; rfl)
  (fun a f => by funext s; simp [bind_apply, pure_apply])
  (fun x f g => by funext s; simp [bind_apply, List.append_assoc])

/-- Call into the surroundings and note the event. -/
def call (c : Call σ α) (event : Option α → Event) : Act σ (Option α) := fun s =>
  let r := c s.world
  ⟨r.value, [event r.value], ⟨r.world, s.signal.requestIf r.stop⟩⟩

/-- Whether a stop was asked for. -/
def stopRequested : Act σ Bool := fun s => ⟨s.signal.requested, [], s⟩

end Act

end Vigil
