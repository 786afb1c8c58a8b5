/-!
# Calls into the surroundings

Monitors, handlers, reporters, hooks, toggles and pauses are foreign code.  All the watchdog knows
of a call is what it leaves behind.

* `Reply`: a value if the callee returned, whether a stop was asked for, and the world it left;
* `Call`: what can be called in a world.
-/

namespace Vigil

/-- What a call leaves behind: what it returned, whether a stop was asked for in it, and the world
after it.  A missing value stands for a callee that crashed, and also for one that waits for good:
to its caller, neither returns. -/
structure Reply (σ α : Type) where
  value : Option α
  stop : Bool
  world : σ

/-- Something that can be called in a world. -/
abbrev Call (σ α : Type) := σ → Reply σ α

namespace Call

variable {σ α : Type}

/-- Return a value and leave the world as it is. -/
def pure (a : α) : Call σ α := fun w => ⟨some a, false, w⟩

/-- Change the world. -/
def modify (f : σ → σ) : Call σ Unit := fun w => ⟨some (), false, f w⟩

/-- Look at the world, return something and perhaps change the world. -/
def step (f : σ → α × σ) : Call σ α := fun w => ⟨some (f w).1, false, (f w).2⟩

end Call

end Vigil
