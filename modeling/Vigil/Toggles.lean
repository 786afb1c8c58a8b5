import Vigil.Settings.Basic

/-!
# Toggles

Two switches: whether monitors are run, and whether the configured handler is used.

* `Switch`, `StaticToggles`: the switches, and fixed values of both;
* `ToggleStore`: switches that can be flipped, and the handles that share them;
* `ToggleStore.create`, `ToggleStore.clone`, `ToggleStore.setWatchdog`, `ToggleStore.setEnforce`,
  `ToggleStore.read`: what can be done with handles.
-/

namespace Vigil

/-- One of the two switches: whether monitors are run, or whether the configured handler is. -/
inductive Switch where
  | watchdog
  | enforce
  deriving DecidableEq, Repr, Inhabited

/-- Fixed values of the two switches. -/
structure StaticToggles where
  watchdog : Bool := true
  enforce : Bool := true
  deriving DecidableEq, Repr, Inhabited

/-- The value of a switch. -/
def StaticToggles.get (t : StaticToggles) : Switch → Bool
  | .watchdog => t.watchdog
  | .enforce => t.enforce

/-- The switches as settings have them at first. -/
def Settings.toggles (s : Settings) : StaticToggles := ⟨s.watchdog.enabled, s.watchdog.enforce⟩

/-- Where a handle keeps its switches: the numbers of two cells. -/
structure ToggleHandle where
  watchdog : Nat
  enforce : Nat
  deriving DecidableEq, Repr, Inhabited

/-- The cell of a switch. -/
def ToggleHandle.cell (h : ToggleHandle) : Switch → Nat
  | .watchdog => h.watchdog
  | .enforce => h.enforce

/-- Switches in cells, and handles that may have cells in common, in the order in which they were
made. -/
structure ToggleStore where
  cells : List Bool := []
  handles : List ToggleHandle := []
  deriving DecidableEq, Repr, Inhabited

namespace ToggleStore

/-- A new handle, with cells of its own. -/
def create (s : ToggleStore) (initial : StaticToggles) : ToggleStore :=
  { cells := s.cells ++ [initial.watchdog, initial.enforce]
    handles := s.handles ++ [⟨s.cells.length, s.cells.length + 1⟩] }

/-- A new handle, with the cells of another. -/
def clone (s : ToggleStore) (handle : Nat) : ToggleStore :=
  match s.handles[handle]? with
  | some h => { s with handles := s.handles ++ [h] }
  | none => s

/-- Turn a switch of a handle on or off. -/
def set (s : ToggleStore) (switch : Switch) (handle : Nat) (on : Bool) : ToggleStore :=
  match s.handles[handle]? with
  | some h => { s with cells := s.cells.set (h.cell switch) on }
  | none => s

/-- Switch the monitors on or off. -/
def setWatchdog (s : ToggleStore) (handle : Nat) (on : Bool) : ToggleStore :=
  s.set .watchdog handle on

/-- Switch the handler on or off. -/
def setEnforce (s : ToggleStore) (handle : Nat) (on : Bool) : ToggleStore :=
  s.set .enforce handle on

/-- A switch of a handle, on or off. -/
def get? (s : ToggleStore) (switch : Switch) (handle : Nat) : Option Bool := do
  s.cells[(← s.handles[handle]?).cell switch]?

/-- Both switches of a handle. -/
def read (s : ToggleStore) (handle : Nat) : Option StaticToggles := do
  return ⟨← s.get? .watchdog handle, ← s.get? .enforce handle⟩

/-- Both switches of each handle. -/
def readAll (s : ToggleStore) : List StaticToggles :=
  (List.range s.handles.length).filterMap s.read

end ToggleStore

end Vigil
