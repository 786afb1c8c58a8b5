import Vigil.Duration
import Vigil.Fault

/-!
# Retiring workers

* `RetireOptions`: which worker is to be stopped and replaced, and how long it may take to stop;
* `WorkerManager`: who sees to that;
* `RetireRequest`, `RetireOptions.request`: the request that a manager with a queue sends;
* `WorkerChannel`: a bounded queue of requests, first in, first out;
* `WorkerChannel.send`, `WorkerChannel.receive`, `WorkerChannel.close`: its operations;
* `WorkerChannel.send_of_room`, `WorkerChannel.send_of_full`, `WorkerChannel.send_of_not_open`: what
  becomes of a request.
-/

namespace Vigil

/-- The worker that is to be retired, by its process, and the time it has to finish what it is
doing. -/
structure RetireOptions where
  pid : ProcessId
  gracefulTimeout : Option Duration := none
  deriving DecidableEq, Repr

/-- Who can have workers retired.  A manager that does not answer leaves its caller waiting for
good, and the reply has no value then. -/
structure WorkerManager (σ : Type) where
  retire : RetireOptions → Call σ (Except Fault Unit)

/-- A request to stop a worker gently, within a time if there is one, and to start another in its
place. -/
structure RetireRequest where
  pid : ProcessId
  gracefulTimeout : Option Duration
  deriving DecidableEq, Repr

/-- The request that is sent for a worker. -/
def RetireOptions.request (o : RetireOptions) : RetireRequest := ⟨o.pid, o.gracefulTimeout⟩

/-- What became of the receiving end of a queue.  Once closed it takes no more requests, but those
that are queued can be read; once dropped it is gone, and so are they. -/
inductive Receiver where
  | open
  | closed
  | dropped
  deriving DecidableEq, Repr

/-- A queue of requests, the oldest first, that holds no more than its capacity.  It is connected
as long as anybody can send. -/
structure WorkerChannel where
  capacity : Nat
  queue : List RetireRequest := []
  receiver : Receiver := .open
  connected : Bool := true
  deriving DecidableEq, Repr

/-- What became of a request: it was accepted, it was refused since nobody will receive it, or its
sender waits for room in the queue. -/
inductive Sent where
  | accepted
  | refused
  | waiting
  deriving DecidableEq, Repr

/-- What a receiver got: a request, or none.  If nothing is queued, it is disconnected if nothing
ever will be; and it may be gone itself. -/
inductive Received where
  | request (r : RetireRequest)
  | empty
  | disconnected
  | noReceiver
  deriving DecidableEq, Repr

namespace WorkerChannel

/-- A queue for at least one request. -/
def create (capacity : Nat) : WorkerChannel := { capacity := max capacity 1 }

/-- Whether a sender would have to wait. -/
def isFull (c : WorkerChannel) : Bool := c.receiver = .open && c.capacity ≤ c.queue.length

/-- Send a request. -/
def send (c : WorkerChannel) (r : RetireRequest) : Sent × WorkerChannel :=
  if c.receiver ≠ .open then (.refused, c)
  else if c.capacity ≤ c.queue.length then (.waiting, c)
  else (.accepted, { c with queue := c.queue ++ [r] })

theorem send_of_room {c : WorkerChannel} (hopen : c.receiver = .open)
    (hroom : c.queue.length < c.capacity) (r : RetireRequest) :
    c.send r = (.accepted, { c with queue := c.queue ++ [r] }) := by
  simp [send, hopen, Nat.not_le.2 hroom]

theorem send_of_full {c : WorkerChannel} (hopen : c.receiver = .open)
    (hfull : c.capacity ≤ c.queue.length) (r : RetireRequest) : c.send r = (.waiting, c) := by
  simp [send, hopen, hfull]

theorem send_of_not_open {c : WorkerChannel} (hopen : c.receiver ≠ .open) (r : RetireRequest) :
    c.send r = (.refused, c) := by
  simp [send, hopen]

/-- Take the oldest request. -/
def receive (c : WorkerChannel) : Received × WorkerChannel :=
  if c.receiver = .dropped then (.noReceiver, c)
  else
    match c.queue with
    | r :: rest => (.request r, { c with queue := rest })
    | [] => (if c.receiver = .closed || !c.connected then .disconnected else .empty, c)

/-- Take no more requests. -/
def close (c : WorkerChannel) : WorkerChannel :=
  { c with receiver := if c.receiver = .open then .closed else c.receiver }

/-- Give up the receiving end. -/
def dropReceiver (c : WorkerChannel) : WorkerChannel := { c with receiver := .dropped, queue := [] }

/-- Give up the sending end. -/
def dropSender (c : WorkerChannel) : WorkerChannel := { c with connected := false }

/-- The answer to a request.  There is none as long as the sender waits. -/
def answer? : Sent → Option (Except Fault Unit)
  | .accepted => some (.ok ())
  | .refused => some (.error (.workerManager .channelClosed))
  | .waiting => none

/-- Send a request for a worker.  A sender that waits does not come back. -/
def retire {σ : Type} (get : σ → WorkerChannel) (set : WorkerChannel → σ → σ) :
    WorkerManager σ where
  retire options w :=
    let (sent, c) := (get w).send options.request
    ⟨answer? sent, false, set c w⟩

end WorkerChannel

end Vigil
