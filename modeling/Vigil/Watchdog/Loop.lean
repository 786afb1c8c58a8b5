import Vigil.Watchdog.Act
import Vigil.Watchdog.Configuration

/-!
# The loop

Each turn of the loop passes over the monitors in order.  A verdict without violation clears the
strikes of its monitor, a violation adds one, and the first monitor to go past its limit ends the
pass: it is reported, the hook and the handler are called, and its strikes are cleared.  The loop
ends when a handler succeeds, when a stop was asked for, or when there are no monitors.

* `Surroundings`: what a loop calls;
* `examine`, `scan`: one monitor, and the monitors of a pass;
* `tick`: a pass and what follows from it;
* `turn`, `turns`: one turn of the loop, and as many as there may be.
-/

namespace Vigil

/-- What a loop calls, apart from its monitors: it does not use those of the configuration. -/
structure Surroundings (σ : Type) where
  configuration : Configuration σ
  toggles : Toggles σ
  pause : Pause σ

/-- What came of examining a monitor: it has strikes left, it has run out of them, or it crashed, or
the reporter did. -/
inductive Finding where
  | passed
  | exceeded
  | crashed
  deriving DecidableEq, Repr

/-- What came of a pass over monitors: all have strikes left, the one with an index has run out of
them, or a monitor or the reporter crashed. -/
inductive Outcome where
  | quiet
  | exceeded (index : Nat)
  | crashed
  deriving DecidableEq, Repr

/-- How a number of turns ended: for a reason, because something that was called did not return, or
not within the turns that were allowed. -/
inductive Ending where
  | done (reason : StopReason)
  | crashed
  | unfinished
  deriving DecidableEq, Repr

namespace Loop

variable {σ : Type}

/-- The handler in effect: the configured one if it is to be used, or else the one that does
nothing. -/
def select (configured : Handler σ) (enforce : Bool) : Handler σ :=
  if enforce then configured else .null

/-- Tell the reporter. -/
def report (c : Configuration σ) (n : Notice) : Act σ (Option Unit) :=
  Act.call (c.reporter n) fun _ => .reported n

/-- Read the switch for the handler, and select the handler. -/
def currentHandler (s : Surroundings σ) : Act σ (Option (Handler σ)) := do
  let on ← Act.call s.toggles.enforcementEnabled .enforcementRead
  return on.map (select s.configuration.handler)

/-- Call a monitor, count its verdict, and report a violation. -/
def examine (c : Configuration σ) (handler : Handler σ) (index : Nat) (m : Registered σ) :
    Act σ (Registered σ × Finding) := do
  let verdict? ← Act.call m.monitor.check (.checked index m.name)
  match verdict? with
  | none => return (m, .crashed)
  | some verdict =>
    let m := m.record verdict
    if !verdict.violated then return (m, .passed)
    else
      let told ← report c (.thresholdViolated m.name)
      if told.isNone then return (m, .crashed)
      else if !m.strikes.exceeded then return (m, .passed)
      else
        let told ← report c
          (.strikesExceeded m.name handler.name c.sleepSeconds m.strikes verdict.payload)
        return (m, if told.isNone then .crashed else .exceeded)

/-- Examine monitors in order, the first of which has the index `index`, until one has run out of
strikes. -/
def scan (c : Configuration σ) (handler : Handler σ) (index : Nat) :
    MonitorSet σ → Act σ (MonitorSet σ × Outcome)
  | [] => return ([], .quiet)
  | m :: ms => do
    let (m, finding) ← examine c handler index m
    match finding with
    | .passed => do
      let (ms, outcome) ← scan c handler (index + 1) ms
      return (m :: ms, outcome)
    | .exceeded => return (m :: ms, .exceeded index)
    | .crashed => return (m :: ms, .crashed)

/-- Call the hook and then the handler for a monitor that has run out of strikes, and clear its
strikes; whether the handler succeeded. -/
def remedy (c : Configuration σ) (handler : Handler σ) (index : Nat) (ms : MonitorSet σ) :
    Act σ (MonitorSet σ × Option Bool) :=
  match ms[index]? with
  | none => return (ms, some false)
  | some m => do
    let looked ← Act.call (c.diagnostics m.name) fun _ => .diagnosed m.name
    if looked.isNone then return (ms, none)
    else
      let success ← Act.call handler.call (.handled handler.name)
      return (if success.isSome then MonitorSet.reset ms index else ms, success)

/-- One pass over the monitors, and what follows from it; whether a handler succeeded, or nothing
if something crashed.  The handler is selected before any monitor is called. -/
def tick (s : Surroundings σ) (ms : MonitorSet σ) : Act σ (MonitorSet σ × Option Bool) := do
  let handler? ← currentHandler s
  match handler? with
  | none => return (ms, none)
  | some handler =>
    let (ms, outcome) ← scan s.configuration handler 0 ms
    match outcome with
    | .quiet => return (ms, some false)
    | .exceeded index => remedy s.configuration handler index ms
    | .crashed => return (ms, none)

/-- Rest between two turns. -/
def rest (s : Surroundings σ) : Act σ (Option Unit) :=
  let time := s.configuration.sleepTime
  match s.pause with
  | .interruptible => fun scene =>
    ⟨some (), [.paused time], { scene with signal := scene.signal.takeToken.2 }⟩
  | .custom sleep => Act.call (sleep time) fun _ => .paused time

/-- A pass if the switch for monitors is on; whether a handler succeeded, or nothing if something
crashed. -/
def watch (s : Surroundings σ) (ms : MonitorSet σ) : Act σ (MonitorSet σ × Option Bool) := do
  let on ← Act.call s.toggles.watchdogEnabled .watchdogRead
  match on with
  | none => return (ms, none)
  | some false => return (ms, some false)
  | some true => tick s ms

/-- One turn of the loop; nothing if the loop goes on. -/
def turn (s : Surroundings σ) (ms : MonitorSet σ) : Act σ (MonitorSet σ × Option Ending) := do
  if ← Act.stopRequested then return (ms, some (.done .backgroundTaskStopped))
  else if ms.isEmpty then return (ms, some (.done .monitorsNotConfigured))
  else
    let (ms, handled) ← watch s ms
    match handled with
    | none => return (ms, some .crashed)
    | some true => return (ms, some (.done .successfullyHandled))
    | some false =>
      let rested ← rest s
      return (ms, if rested.isNone then some .crashed else none)

/-- Turns of the loop until it ends, but not more than are allowed. -/
def turns (s : Surroundings σ) : Nat → MonitorSet σ → Act σ (MonitorSet σ × Ending)
  | 0, ms => return (ms, .unfinished)
  | allowed + 1, ms => do
    let (ms, ending) ← turn s ms
    match ending with
    | some ending => return (ms, ending)
    | none => turns s allowed ms

end Loop

end Vigil
