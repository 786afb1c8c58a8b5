import Vigil.Watchdog.Basic

/-!
# The world of a rehearsal

A rehearsal runs a watchdog among stand-ins that follow scripts.  Its world keeps what the
stand-ins share, and everything that happens in the order in which it happens.

* `Entry`: something that happened;
* `World`, `World.note`, `World.count`: the world;
* `Action`, `World.perform`: what a stand-in can be told to do.
-/

namespace Vigil.Rehearsal

/-- Something that happened: a record was kept, a monitor, a handler, a reporter or a hook was
called, the loop rested for the n-th time, or requests to the worker manager were looked up. -/
inductive Entry where
  | record (r : Record)
  | monitor (name : String)
  | handler (name : String)
  | notice (n : Notice)
  | diagnosed (monitor : String)
  | paused (n : Nat) (time : Duration)
  | received (r : Received)

/-- What the stand-ins share: what happened, the last first, switches that can be flipped, the queue
of requests to the worker manager, if it was ever opened, and how often it was; and counts of the
calls of each stand-in, of the calls of monitors, and of the requests to the watchdog's own process
to terminate. -/
structure World where
  trace : List Entry := []
  shared : StaticToggles := {}
  channel : Option WorkerChannel := none
  generation : Nat := 0
  counts : List Nat := []
  checks : Nat := 0
  terminations : Nat := 0
  deriving Inhabited

namespace World

/-- Something happens. -/
def note (w : World) (e : Entry) : World := { w with trace := e :: w.trace }

/-- What happened, in order, and the world in which that is forgotten. -/
def takeTrace (w : World) : List Entry × World := (w.trace.reverse, { w with trace := [] })

/-- A new stand-in's number. -/
def enter (w : World) : Nat × World :=
  (w.counts.length, { w with counts := w.counts ++ [0] })

/-- How often a stand-in was called before, with one more call counted. -/
def count (w : World) (id : Nat) : Nat × World :=
  (w.counts[id]?.getD 0, { w with counts := w.counts.modify id (· + 1) })

/-- A queue that nobody reads any more. -/
def deadChannel : WorkerChannel := (WorkerChannel.create 1).dropReceiver

/-- The queue that was opened at a given count; an older one is dead. -/
def channelOf (generation : Nat) (w : World) : WorkerChannel :=
  if w.generation = generation then w.channel.getD deadChannel else deadChannel

/-- Change the queue that was opened at a given count. -/
def setChannelOf (generation : Nat) (c : WorkerChannel) (w : World) : World :=
  if w.generation = generation then { w with channel := some c } else w

/-- Open a queue, in the place of any other. -/
def openChannel (w : World) (capacity : Nat) : World :=
  { w with channel := some (.create capacity), generation := w.generation + 1 }

/-- The worker manager behind the present queue. -/
def manager (w : World) : WorkerManager World :=
  WorkerChannel.retire (channelOf w.generation) (setChannelOf w.generation)

/-- Take the oldest request from the queue. -/
def receive (w : World) : Received × World :=
  match w.channel with
  | none => (.noReceiver, w)
  | some c =>
    let (r, c) := c.receive
    (r, { w with channel := some c })

/-- Give up the receiving end of the queue. -/
def dropReceiver (w : World) : World := { w with channel := w.channel.map (·.dropReceiver) }

end World

instance : Journal World := ⟨fun r w => w.note (.record r)⟩

/-- The watchdog's own process can be asked to terminate, and there are no others. -/
instance : Processes World where
  terminate
    | .self, w => (.ok (), { w with terminations := w.terminations + 1 })
    | .number _, w => (.error .noSuchProcess, w)

/-- What a stand-in can be told to do: ask the watchdog to stop, flip one of the shared switches,
give up the receiving end of the queue, look up a request in the queue, or crash. -/
inductive Action where
  | stop
  | watchdog (on : Bool)
  | enforce (on : Bool)
  | dropReceiver
  | receive
  | crash
  deriving DecidableEq, Repr

namespace World

/-- Do things in order, up to a crash. -/
def perform : List Action → Call World Unit
  | [], w => ⟨some (), false, w⟩
  | .stop :: as, w => { perform as w with stop := true }
  | .watchdog on :: as, w => perform as { w with shared := { w.shared with watchdog := on } }
  | .enforce on :: as, w => perform as { w with shared := { w.shared with enforce := on } }
  | .dropReceiver :: as, w => perform as w.dropReceiver
  | .receive :: as, w =>
    let (r, w) := w.receive
    perform as (w.note (.received r))
  | .crash :: _, w => ⟨none, false, w⟩

/-- Do things in order and then return a value. -/
def performThen {α : Type} (actions : List Action) (a : α) : Call World α := fun w =>
  let r := perform actions w
  ⟨r.value.map fun _ => a, r.stop, r.world⟩

end World

end Vigil.Rehearsal
