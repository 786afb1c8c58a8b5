import Vigil.Rehearsal.World

/-!
# Stand-ins

Monitors, handlers, reporters, hooks, switches and pauses that follow a script.  Each note that it
was called, does what the script says, and returns what the script says.

* `Cue`: a line of a script; `cueAt`: the line for a call;
* `monitor`, `handler`, `recorder`, `hook`, `sharedToggles`, `scriptedToggles`, `pause`;
* `refusingManager`, `outsideStop`.
-/

namespace Vigil.Rehearsal

/-- A line of a script: what to do, and what to return. -/
structure Cue (α : Type) where
  value : α
  actions : List Action := []

/-- The line for the n-th call, counted from zero; the last line is repeated. -/
def cueAt {α : Type} (script : List α) (n : Nat) (default : α) : α :=
  (script[n]? <|> script.getLast?).getD default

/-- A monitor. -/
def monitor (id : Nat) (name : String) (script : List (Cue Verdict)) : Monitor World where
  name
  check w :=
    let (n, w) := w.count id
    let cue := cueAt script n ⟨.ok, []⟩
    let w := { w with checks := w.checks + 1 }
    World.performThen cue.actions cue.value (w.note (.monitor name))

/-- A handler. -/
def handler (id : Nat) (name : String) (script : List (Cue Bool)) : Handler World where
  name
  call w :=
    let (n, w) := w.count id
    let cue := cueAt script n ⟨false, []⟩
    World.performThen cue.actions cue.value (w.note (.handler name))

/-- A reporter that does something after each notice. -/
def recorder (actions : Notice → List Action) : Reporter World :=
  fun n w => World.perform (actions n) (w.note (.notice n))

/-- A hook. -/
def hook (actions : List Action) : Hook World :=
  fun name w => World.perform actions (w.note (.diagnosed name))

/-- The switches that all stand-ins share. -/
def sharedToggles : Toggles World :=
  ⟨Call.step fun w => (w.shared.watchdog, w), Call.step fun w => (w.shared.enforce, w)⟩

/-- A switch that reads as a script says. -/
def scriptedToggle (id : Nat) (script : List Bool) : Call World Bool :=
  Call.step fun w =>
    let (n, w) := w.count id
    (cueAt script n false, w)

/-- Switches that read as scripts say. -/
def scriptedToggles (watchdogId : Nat) (watchdog : List Bool) (enforceId : Nat)
    (enforce : List Bool) : Toggles World :=
  ⟨scriptedToggle watchdogId watchdog, scriptedToggle enforceId enforce⟩

/-- A pause that takes no time, does something at given calls, and asks for a stop from the call
with the number `limit` on. -/
def pause (id : Nat) (limit : Nat) (actions : Nat → List Action) : Pause World :=
  .custom fun time w =>
    let (before, w) := w.count id
    let n := before + 1
    let r := World.perform (actions n) (w.note (.paused n time))
    ⟨r.value, r.stop || (r.value.isSome && limit ≤ n), r.world⟩

/-- A worker manager that takes no requests. -/
def refusingManager (fault : Fault) : WorkerManager World := ⟨fun _ => Call.pure (.error fault)⟩

/-- A pause during which somebody outside asks for a stop, once monitors were called often
enough. -/
def outsideStop (checks : Nat) : Pause World :=
  .custom fun _ w => ⟨some (), checks ≤ w.checks, w⟩

end Vigil.Rehearsal
