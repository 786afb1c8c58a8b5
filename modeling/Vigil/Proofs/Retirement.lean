import Mathlib.Data.List.Nodup
import Mathlib.Logic.Function.Basic
import Vigil.Handler.Basic

/-!
# Requests to retire workers

Any number of requests to retire workers, made of one queue in any order, some of the queue's
manager and some through handlers, while the other end receives, closes the queue or drops it.

* `World`, `manager`: the queue, the records that are kept, and the manager that all handles of the
  queue stand for;
* `Order`, `Order.request`, `Order.attempt`, `attempted`: for which worker a request is made and in
  which way, what is sent for it, and all that can come of it;
* `State`, `Action`, `State.apply`: one action at a time, in any order;
* `Tried`, `tried`: what an attempt does to the state;
* `Outcomes`, `Sound`, `Sound.apply`, `sound_after`: what holds at any moment;
* `receiver_foldl`, `foldl_closed`: when the receiver is open, and what is left to be done once it
  is closed;
* `requests_conserved`: no request is lost, doubled, reordered or altered.
-/

namespace Vigil

/-- What was received, if that was a request. -/
def Received.requests : Received → List RetireRequest
  | .request r => [r]
  | _ => []

namespace Retirement

/-- A queue of requests, and the records that are kept. -/
structure World where
  channel : WorkerChannel
  records : List Record := []

instance : Journal World := ⟨fun r w => { w with records := w.records ++ [r] }⟩

/-- The manager that all handles of the queue stand for. -/
def manager : WorkerManager World :=
  WorkerChannel.retire World.channel fun channel w => { w with channel }

/-- How a request is made: of the manager, by one of its handles, or through a handler. -/
inductive Route where
  | direct
  | handler
  deriving DecidableEq, Repr

/-- For which worker a request is made, and in which way. -/
structure Order where
  options : RetireOptions
  route : Route := .direct

/-- What the caller of a request gets back, from the manager or from a handler. -/
inductive Answer where
  | result (r : Except Fault Unit)
  | success (ok : Bool)

namespace Order

/-- What the queue takes for it: the process and the time that its options name. -/
def request (o : Order) : RetireRequest := ⟨o.options.pid, o.options.gracefulTimeout⟩

/-- Make the request, or go on waiting with it; the answer, once there is one. -/
def attempt (o : Order) (w : World) : Option Answer × World :=
  match o.route with
  | .direct =>
    let r := manager.retire o.options w
    (r.value.map .result, r.world)
  | .handler =>
    let r := (Handler.managed manager o.options).call w
    (r.value.map .success, r.world)

/-- The answer to a request that was accepted, or refused. -/
def answer (o : Order) (accepted : Bool) : Answer :=
  match o.route with
  | .direct => .result (if accepted then .ok () else .error (.workerManager .channelClosed))
  | .handler => .success accepted

/-- The records of a request that was refused. -/
def complaint (o : Order) : List Record :=
  match o.route with
  | .direct => []
  | .handler => [Handler.retirementFailed o.options.pid (.workerManager .channelClosed)]

theorem answer_injective (o : Order) : Function.Injective o.answer := by
  intro a b h
  unfold answer at h
  split at h <;> cases a <;> cases b <;> simp_all

theorem answer_ne (o : Order) (accepted : Bool) : o.answer accepted ≠ o.answer (!accepted) :=
  fun h => by simpa using o.answer_injective h

end Order

/-- All that can come of an attempt: the answer, and the world after it.  The request is accepted if
there is room in the queue, and refused if nobody will receive it; otherwise it waits. -/
inductive Attempted (o : Order) (w : World) : Option Answer → World → Prop
  | accepted (hopen : w.channel.receiver = .open)
      (hroom : w.channel.queue.length < w.channel.capacity) :
      Attempted o w (some (o.answer true))
        { w with channel := { w.channel with queue := w.channel.queue ++ [o.request] } }
  | refused (hopen : w.channel.receiver ≠ .open) :
      Attempted o w (some (o.answer false)) { w with records := w.records ++ o.complaint }
  | waiting (hopen : w.channel.receiver = .open)
      (hfull : w.channel.capacity ≤ w.channel.queue.length) : Attempted o w none w

/-- What the manager answers is what the queue does with the request. -/
theorem retire_eq (options : RetireOptions) (w : World) :
    manager.retire options w = ⟨WorkerChannel.answer? (w.channel.send options.request).1, false,
      { w with channel := (w.channel.send options.request).2 }⟩ := rfl

theorem attempted (o : Order) (w : World) : Attempted o w (o.attempt w).1 (o.attempt w).2 := by
  obtain ⟨options, route⟩ := o
  by_cases hopen : w.channel.receiver = .open
  · by_cases hfull : w.channel.capacity ≤ w.channel.queue.length
    · have hsend := WorkerChannel.send_of_full hopen hfull options.request
      cases route <;>
        simp only [Order.attempt, Handler.managed, retire_eq, hsend, WorkerChannel.answer?] <;>
        exact .waiting hopen hfull
    · have hsend := WorkerChannel.send_of_room hopen (Nat.not_le.1 hfull) options.request
      cases route <;>
        simp only [Order.attempt, Handler.managed, retire_eq, hsend, WorkerChannel.answer?] <;>
        exact .accepted hopen (Nat.not_le.1 hfull)
  · have hsend := WorkerChannel.send_of_not_open hopen options.request
    cases route with
    | direct =>
      simp only [Order.attempt, retire_eq, hsend, WorkerChannel.answer?]
      have h := Attempted.refused (o := ⟨options, .direct⟩) hopen
      rw [Order.complaint, List.append_nil] at h
      exact h
    | handler =>
      simp only [Order.attempt, Handler.managed, retire_eq, hsend, WorkerChannel.answer?]
      exact .refused hopen

/-! ### Interleavings -/

/-- How far a request has come: it was not made yet, it was made while there was no room, or it has
returned. -/
inductive Progress where
  | pending
  | waiting
  | returned (a : Answer)

/-- Requests, which are told apart by indices from `ι`, and what became of them: how far each has
come, those that the queue took and those that it refused, each in that order, and what was
received. -/
structure State (ι : Type) where
  world : World
  progress : ι → Progress := fun _ => .pending
  accepted : List ι := []
  refused : List ι := []
  received : List RetireRequest := []

/-- What is done by those who make requests, and by the receiver.  A request is made, or one that
waits is tried again; the receiver takes the oldest request if there is one, it is closed to further
requests, or it is given up. -/
inductive Action (ι : Type) where
  | attempt (j : ι)
  | receive
  | close
  | drop
  deriving DecidableEq

namespace State

variable {ι : Type} [DecidableEq ι]

/-- At first the queue is empty and nothing has been done. -/
def start (capacity : ℕ) : State ι := { world := { channel := .create capacity } }

/-- The queue. -/
abbrev channel (s : State ι) : WorkerChannel := s.world.channel

/-- The request with an index has returned. -/
def Returned (s : State ι) (j : ι) : Prop := ∃ a, s.progress j = .returned a

/-- Make a request, or try one again that waits.  One that has returned is left alone. -/
def attempt (orders : ι → Order) (s : State ι) (j : ι) : State ι :=
  match s.progress j with
  | .returned _ => s
  | _ =>
    let (answer, world) := (orders j).attempt s.world
    let sent := (s.channel.send (orders j).request).1
    { s with
      world
      progress := Function.update s.progress j (answer.elim .waiting .returned)
      accepted := s.accepted ++ if sent = .accepted then [j] else []
      refused := s.refused ++ if sent = .refused then [j] else [] }

/-- Put another queue in the place of the queue. -/
def setChannel (s : State ι) (channel : WorkerChannel) : State ι :=
  { s with world := { s.world with channel } }

/-- The state after an action. -/
def apply (orders : ι → Order) (s : State ι) : Action ι → State ι
  | .attempt j => s.attempt orders j
  | .receive =>
    let (got, channel) := s.channel.receive
    { s.setChannel channel with received := s.received ++ got.requests }
  | .close => s.setChannel s.channel.close
  | .drop => s.setChannel s.channel.dropReceiver

/-- The state after actions, from the beginning. -/
def after (orders : ι → Order) (capacity : ℕ) (as : List (Action ι)) : State ι :=
  as.foldl (State.apply orders) (State.start capacity)

end State

variable {ι : Type} [DecidableEq ι] {orders : ι → Order}

/-- What an attempt does for a request that has not returned.  If there is room, the request is put
at the end of the queue and returns with success; if nobody will receive it, it returns with a
fault, and the queue stays as it is; if the queue is full, it waits. -/
inductive Tried (orders : ι → Order) (s : State ι) (j : ι) : State ι → Prop
  | accepted (hopen : s.channel.receiver = .open)
      (hroom : s.channel.queue.length < s.channel.capacity) :
      Tried orders s j
        { s.setChannel { s.channel with queue := s.channel.queue ++ [(orders j).request] } with
          progress := Function.update s.progress j (.returned ((orders j).answer true))
          accepted := s.accepted ++ [j] }
  | refused (hopen : s.channel.receiver ≠ .open) :
      Tried orders s j
        { s with
          world := { s.world with records := s.world.records ++ (orders j).complaint }
          progress := Function.update s.progress j (.returned ((orders j).answer false))
          refused := s.refused ++ [j] }
  | waiting (hopen : s.channel.receiver = .open)
      (hfull : s.channel.capacity ≤ s.channel.queue.length) :
      Tried orders s j { s with progress := Function.update s.progress j .waiting }

theorem tried {s : State ι} {j : ι} (hj : ¬ s.Returned j) :
    Tried orders s j (s.attempt orders j) := by
  have hattempt : s.attempt orders j =
      { s with
        world := ((orders j).attempt s.world).2
        progress := Function.update s.progress j
          (((orders j).attempt s.world).1.elim .waiting .returned)
        accepted := s.accepted ++
          if (s.channel.send (orders j).request).1 = .accepted then [j] else []
        refused := s.refused ++
          if (s.channel.send (orders j).request).1 = .refused then [j] else [] } := by
    unfold State.attempt
    split
    next a ha => exact absurd ⟨a, ha⟩ hj
    next => rfl
  have h := attempted (orders j) s.world
  rw [hattempt]
  generalize ((orders j).attempt s.world).1 = answer, ((orders j).attempt s.world).2 = world at h ⊢
  cases h with
  | accepted hopen hroom =>
    rw [WorkerChannel.send_of_room hopen hroom, if_pos rfl, if_neg nofun, List.append_nil]
    exact .accepted hopen hroom
  | refused hopen =>
    rw [WorkerChannel.send_of_not_open hopen, if_neg nofun, if_pos rfl, List.append_nil]
    exact .refused hopen
  | waiting hopen hfull =>
    rw [WorkerChannel.send_of_full hopen hfull, if_neg nofun, if_neg nofun, List.append_nil,
      List.append_nil]
    exact .waiting hopen hfull

/-- A request that has returned is not made again. -/
theorem attempt_of_returned {s : State ι} {j : ι} (hj : s.Returned j) : s.attempt orders j = s := by
  obtain ⟨a, ha⟩ := hj
  rw [State.attempt, ha]

/-- Receiving takes the oldest request, unless there is none or the receiver is gone. -/
theorem receive_cases (c : WorkerChannel) :
    (∃ r rest, c.receiver ≠ .dropped ∧ c.queue = r :: rest ∧
        c.receive = (.request r, { c with queue := rest })) ∨
      ∃ got : Received, got.requests = [] ∧ c.receive = (got, c) := by
  unfold WorkerChannel.receive
  split
  · exact .inr ⟨_, rfl, rfl⟩
  next hdropped =>
    split
    next r rest hqueue => exact .inl ⟨r, rest, hdropped, hqueue, rfl⟩
    next hqueue =>
      refine .inr ⟨_, ?_, rfl⟩
      split <;> rfl

theorem close_receiver {c : WorkerChannel} (hdropped : c.receiver ≠ .dropped) :
    c.close.receiver = .closed := by
  obtain ⟨_, _, receiver, _⟩ := c
  cases receiver with
  | «open» | closed => rfl
  | dropped => exact absurd rfl hdropped

/-! ### What holds at any moment -/

/-- How far requests have come, and which of them were accepted and refused, agree; and each is
accepted or refused at most once. -/
structure Outcomes (orders : ι → Order) (progress : ι → Progress) (accepted refused : List ι) :
    Prop where
  nodup : (accepted ++ refused).Nodup
  mem_accepted : ∀ j, j ∈ accepted ↔ progress j = .returned ((orders j).answer true)
  mem_refused : ∀ j, j ∈ refused ↔ progress j = .returned ((orders j).answer false)
  mem_of_returned : ∀ j a, progress j = .returned a → j ∈ accepted ∨ j ∈ refused

namespace Outcomes

variable {progress : ι → Progress} {accepted refused : List ι} {j : ι}

omit [DecidableEq ι] in
theorem not_mem (h : Outcomes orders progress accepted refused)
    (hj : ∀ a, progress j ≠ .returned a) : j ∉ accepted ∧ j ∉ refused :=
  ⟨fun hmem => hj _ ((h.mem_accepted j).1 hmem), fun hmem => hj _ ((h.mem_refused j).1 hmem)⟩

theorem wait (h : Outcomes orders progress accepted refused) (hj : ∀ a, progress j ≠ .returned a) :
    Outcomes orders (Function.update progress j .waiting) accepted refused := by
  obtain ⟨haccepted, hrefused⟩ := h.not_mem hj
  refine ⟨h.nodup, fun i => ?_, fun i => ?_, fun i a hi => ?_⟩ <;>
    obtain rfl | hij := eq_or_ne i j
  · simp [haccepted]
  · simpa [hij] using h.mem_accepted i
  · simp [hrefused]
  · simpa [hij] using h.mem_refused i
  · simp at hi
  · exact h.mem_of_returned i a (by simpa [hij] using hi)

theorem accept (h : Outcomes orders progress accepted refused)
    (hj : ∀ a, progress j ≠ .returned a) :
    Outcomes orders (Function.update progress j (.returned ((orders j).answer true)))
      (accepted ++ [j]) refused := by
  obtain ⟨haccepted, hrefused⟩ := h.not_mem hj
  refine ⟨?_, fun i => ?_, fun i => ?_, fun i a hi => ?_⟩
  · rw [List.append_assoc, List.singleton_append, List.nodup_middle]
    exact List.nodup_cons.2 ⟨by simp [haccepted, hrefused], h.nodup⟩
  all_goals obtain rfl | hij := eq_or_ne i j
  · simp
  · simpa [hij] using h.mem_accepted i
  · simpa [hrefused] using (orders i).answer_ne true
  · simpa [hij] using h.mem_refused i
  · simp
  · simpa [hij] using h.mem_of_returned i a (by simpa [hij] using hi)

theorem refuse (h : Outcomes orders progress accepted refused)
    (hj : ∀ a, progress j ≠ .returned a) :
    Outcomes orders (Function.update progress j (.returned ((orders j).answer false)))
      accepted (refused ++ [j]) := by
  obtain ⟨haccepted, hrefused⟩ := h.not_mem hj
  refine ⟨?_, fun i => ?_, fun i => ?_, fun i a hi => ?_⟩
  · rw [← List.append_assoc, List.nodup_middle, List.append_nil]
    exact List.nodup_cons.2 ⟨by simp [haccepted, hrefused], h.nodup⟩
  all_goals obtain rfl | hij := eq_or_ne i j
  · simpa [haccepted] using (orders i).answer_ne false
  · simpa [hij] using h.mem_accepted i
  · simp
  · simpa [hij] using h.mem_refused i
  · simp
  · have := h.mem_of_returned i a (by simpa [hij] using hi)
    exact this.imp_right (List.mem_append_left _)

end Outcomes

/-- What holds of requests, queue and records at any moment.  What was accepted is what was received
and what is queued, or was until the receiver was given up. -/
structure Sound (orders : ι → Order) (capacity : ℕ) (s : State ι) : Prop where
  capacity_eq : s.channel.capacity = max capacity 1
  conserved : ∃ rest, s.accepted.map (fun j => (orders j).request) = s.received ++ rest ∧
    (s.channel.receiver ≠ .dropped → rest = s.channel.queue)
  length_le : s.channel.queue.length ≤ max capacity 1
  outcomes : Outcomes orders s.progress s.accepted s.refused
  records_eq : s.world.records = s.refused.flatMap fun j => (orders j).complaint

omit [DecidableEq ι] in
theorem sound_start (orders : ι → Order) (capacity : ℕ) :
    Sound orders capacity (State.start capacity : State ι) where
  capacity_eq := rfl
  conserved := ⟨[], rfl, fun _ => rfl⟩
  length_le := Nat.zero_le _
  outcomes := ⟨List.nodup_nil, fun _ => ⟨nofun, nofun⟩, fun _ => ⟨nofun, nofun⟩, nofun⟩
  records_eq := rfl

namespace Sound

variable {capacity : ℕ} {s t : State ι}

/-- An attempt keeps it. -/
theorem tried (hs : Sound orders capacity s) {j : ι} (hj : ¬ s.Returned j)
    (h : Tried orders s j t) : Sound orders capacity t := by
  have hj' (a : Answer) : s.progress j ≠ .returned a := fun ha => hj ⟨a, ha⟩
  obtain ⟨rest, hrest, hqueue⟩ := hs.conserved
  cases h with
  | accepted hopen hroom =>
    refine ⟨hs.capacity_eq, ⟨rest ++ [(orders j).request], ?_, fun _ => ?_⟩, ?_,
      hs.outcomes.accept hj', hs.records_eq⟩
    · rw [List.map_append, hrest, List.append_assoc]
      rfl
    · rw [hqueue (by rw [hopen]; nofun)]
      rfl
    · rw [hs.capacity_eq] at hroom
      simp only [State.setChannel, List.length_append, List.length_singleton]
      omega
  | refused hopen =>
    refine ⟨hs.capacity_eq, hs.conserved, hs.length_le, hs.outcomes.refuse hj', ?_⟩
    rw [List.flatMap_append, hs.records_eq, List.flatMap_singleton]
  | waiting hopen hfull =>
    exact ⟨hs.capacity_eq, hs.conserved, hs.length_le, hs.outcomes.wait hj', hs.records_eq⟩

omit [DecidableEq ι] in
/-- So does putting another queue in the place of the queue, if the new one fits what was accepted
and received. -/
theorem setChannel (hs : Sound orders capacity s) {c : WorkerChannel}
    {received : List RetireRequest} (hcapacity : c.capacity = s.channel.capacity)
    (hlength : c.queue.length ≤ s.channel.queue.length)
    (hconserved : ∃ rest, s.accepted.map (fun j => (orders j).request) = received ++ rest ∧
      (c.receiver ≠ .dropped → rest = c.queue)) :
    Sound orders capacity { s.setChannel c with received } where
  capacity_eq := hcapacity.trans hs.capacity_eq
  conserved := hconserved
  length_le := Nat.le_trans hlength hs.length_le
  outcomes := hs.outcomes
  records_eq := hs.records_eq

theorem apply (hs : Sound orders capacity s) (a : Action ι) :
    Sound orders capacity (s.apply orders a) := by
  obtain ⟨rest, hrest, hqueue⟩ := hs.conserved
  cases a with
  | attempt j =>
    by_cases hj : s.Returned j
    · rw [State.apply, attempt_of_returned hj]
      exact hs
    · exact hs.tried hj (Retirement.tried hj)
  | receive =>
    unfold State.apply
    rcases receive_cases s.channel with ⟨r, queue, hdropped, heq, hreceive⟩ | ⟨got, hgot, hreceive⟩
    · rw [hreceive]
      refine hs.setChannel rfl ?_ ⟨queue, ?_, fun _ => rfl⟩
      · rw [heq]
        exact Nat.le_succ _
      · rw [hrest, hqueue hdropped, heq, List.append_assoc]
        rfl
    · rw [hreceive]
      dsimp only
      rw [hgot, List.append_nil]
      exact hs.setChannel rfl (Nat.le_refl _) ⟨rest, hrest, hqueue⟩
  | close =>
    refine hs.setChannel rfl (Nat.le_refl _) ⟨rest, hrest, fun h => hqueue fun hdropped => ?_⟩
    exact h (by simp [WorkerChannel.close, hdropped])
  | drop => exact hs.setChannel rfl (Nat.zero_le _) ⟨rest, hrest, fun h => absurd rfl h⟩

end Sound

theorem sound_after (orders : ι → Order) (capacity : ℕ) (as : List (Action ι)) :
    Sound orders capacity (State.after orders capacity as) := by
  unfold State.after
  suffices h : ∀ s : State ι, Sound orders capacity s →
      Sound orders capacity (as.foldl (State.apply orders) s) from h _ (sound_start orders capacity)
  induction as with
  | nil => exact fun s hs => hs
  | cons a as ih => exact fun s hs => ih _ (hs.apply a)

/-! ### The receiver -/

/-- Only closing the receiver and giving it up change what became of it. -/
theorem receiver_apply (orders : ι → Order) (s : State ι) (a : Action ι) :
    ((s.apply orders a).channel.receiver ≠ .open ↔
        s.channel.receiver ≠ .open ∨ a = .close ∨ a = .drop) ∧
      ((s.apply orders a).channel.receiver = .dropped ↔
        s.channel.receiver = .dropped ∨ a = .drop) := by
  cases a with
  | attempt j =>
    suffices h : (s.attempt orders j).channel.receiver = s.channel.receiver by
      simp [State.apply, h]
    by_cases hj : s.Returned j
    · rw [attempt_of_returned hj]
    · have h : Tried orders s j (s.attempt orders j) := tried hj
      generalize s.attempt orders j = t at h ⊢
      cases h <;> rfl
  | receive =>
    suffices h : (s.apply orders .receive).channel.receiver = s.channel.receiver by simp [h]
    show s.channel.receive.2.receiver = _
    rcases receive_cases s.channel with ⟨r, queue, -, -, hreceive⟩ | ⟨got, -, hreceive⟩ <;>
      rw [hreceive]
  | close =>
    simp only [State.apply, State.setChannel, WorkerChannel.close]
    cases s.channel.receiver <;> simp
  | drop => simp [State.apply, State.setChannel, WorkerChannel.dropReceiver]

theorem receiver_foldl (orders : ι → Order) (as : List (Action ι)) (s : State ι) :
    ((as.foldl (State.apply orders) s).channel.receiver ≠ .open ↔
        s.channel.receiver ≠ .open ∨ .close ∈ as ∨ .drop ∈ as) ∧
      ((as.foldl (State.apply orders) s).channel.receiver = .dropped ↔
        s.channel.receiver = .dropped ∨ .drop ∈ as) := by
  induction as generalizing s with
  | nil => simp
  | cons a as ih =>
    obtain ⟨hopen, hdropped⟩ := receiver_apply orders s a
    rw [List.foldl_cons, (ih _).1, (ih _).2, hopen, hdropped, List.mem_cons, List.mem_cons,
      eq_comm (a := Action.close), eq_comm (a := Action.drop)]
    tauto

/-- Without a receiver that is open, an attempt leaves the queue alone, and what was received. -/
theorem Tried.of_ne_open {s t : State ι} {j : ι} (h : Tried orders s j t)
    (hopen : s.channel.receiver ≠ .open) : t.channel = s.channel ∧ t.received = s.received := by
  cases h with
  | accepted h _ => exact absurd h hopen
  | refused _ => exact ⟨rfl, rfl⟩
  | waiting h _ => exact absurd h hopen

/-- Once the receiver is closed, an action only takes from the queue. -/
theorem apply_closed (orders : ι → Order) {s : State ι} (hclosed : s.channel.receiver = .closed)
    {a : Action ι} (ha : a ≠ .drop) :
    (s.apply orders a).channel =
        { s.channel with queue := s.channel.queue.drop ([a].count .receive) } ∧
      (s.apply orders a).received =
        s.received ++ s.channel.queue.take ([a].count .receive) := by
  cases a with
  | attempt j =>
    rw [List.count_eq_zero.2 (by simp), List.drop_zero, List.take_zero, List.append_nil]
    by_cases hj : s.Returned j
    · rw [State.apply, attempt_of_returned hj]
      exact ⟨rfl, rfl⟩
    · exact (tried hj).of_ne_open (by rw [hclosed]; nofun)
  | receive =>
    rw [List.count_singleton_self]
    obtain ⟨⟨⟨capacity, queue, receiver, connected⟩, records⟩, progress, _, _, _⟩ := s
    obtain rfl : receiver = .closed := hclosed
    cases queue <;>
      simp [State.apply, State.setChannel, WorkerChannel.receive, Received.requests]
  | close =>
    rw [List.count_eq_zero.2 (by simp), List.drop_zero, List.take_zero, List.append_nil]
    simp [State.apply, State.setChannel, WorkerChannel.close, hclosed]
  | drop => exact absurd rfl ha

/-- So actions in any order take what was queued, the oldest first. -/
theorem foldl_closed (orders : ι → Order) (as : List (Action ι)) (has : .drop ∉ as) {s : State ι}
    (hclosed : s.channel.receiver = .closed) :
    (as.foldl (State.apply orders) s).channel =
        { s.channel with queue := s.channel.queue.drop (as.count .receive) } ∧
      (as.foldl (State.apply orders) s).received =
        s.received ++ s.channel.queue.take (as.count .receive) := by
  induction as generalizing s with
  | nil => simp
  | cons a as ih =>
    rw [List.mem_cons, not_or] at has
    obtain ⟨hchannel, hreceived⟩ := apply_closed orders hclosed (Ne.symm has.1)
    obtain ⟨ihchannel, ihreceived⟩ := ih has.2 (s := s.apply orders a) (by rw [hchannel, hclosed])
    have hcount : (a :: as).count .receive = [a].count .receive + as.count .receive := by
      rw [← List.count_append, List.singleton_append]
    rw [List.foldl_cons, ihchannel, ihreceived, hchannel, hreceived, hcount, List.take_add,
      List.append_assoc]
    exact ⟨by simp only [List.drop_drop], rfl⟩

/-! ### The theorem -/

/-- What is accepted later comes after what was accepted before. -/
theorem accepted_prefix (s : State ι) (a : Action ι) :
    s.accepted <+: (s.apply orders a).accepted := by
  cases a with
  | attempt j =>
    rw [State.apply]
    by_cases hj : s.Returned j
    · exact ⟨[], by rw [attempt_of_returned hj, List.append_nil]⟩
    · have h : Tried orders s j (s.attempt orders j) := tried hj
      generalize s.attempt orders j = t at h ⊢
      cases h with
      | accepted => exact List.prefix_append _ _
      | refused | waiting => exact List.prefix_refl _
  | receive | close | drop => exact List.prefix_refl _

/-- An attempt for a request that has not returned is answered with a fault if the receiver is not
open, and with success if it is and there is room. -/
theorem Tried.returned_iff {s t : State ι} {j : ι} (h : Tried orders s j t) :
    (t.progress j = .returned ((orders j).answer false) ↔ s.channel.receiver ≠ .open) ∧
      (t.progress j = .returned ((orders j).answer true) ↔
        s.channel.receiver = .open ∧ s.channel.queue.length < s.channel.capacity) := by
  cases h with
  | accepted hopen hroom => simpa [hopen, hroom] using (orders j).answer_ne true
  | refused hopen => simpa [hopen] using (orders j).answer_ne false
  | waiting hopen hfull => simp [hopen, hfull]

/-- **Requests are neither lost nor doubled, reordered or altered.**  Whatever is done by those who
make requests and by the receiver, and in whatever order:

* the receiver is open until it is closed or given up, and once given up it stays so;
* as long as the receiver is not given up, the requests that were accepted are, in that order, the
  ones that were received and then the ones that are queued, and even after that what was received
  is what was accepted first;
* those that were accepted are those that returned with success, each of them once, and the queue
  never holds more than its capacity, which is at least one;
* an attempt is answered with a fault if and only if the receiver is closed or given up, and then
  the queue stays as it is; through a handler that is a failure with one record;
* what is queued when the receiver is closed can still be received. -/
theorem requests_conserved (orders : ι → Order) (capacity : ℕ) (as : List (Action ι)) :
    let s := State.after orders capacity as
    (s.channel.receiver ≠ .open ↔ .close ∈ as ∨ .drop ∈ as) ∧
      (s.channel.receiver = .dropped ↔ .drop ∈ as) ∧
      (s.channel.receiver ≠ .dropped →
        s.accepted.map (fun j => (orders j).request) = s.received ++ s.channel.queue) ∧
      s.received <+: s.accepted.map (fun j => (orders j).request) ∧
      s.channel.queue.length ≤ max capacity 1 ∧
      (s.accepted ++ s.refused).Nodup ∧
      (∀ j, j ∈ s.accepted ↔ s.progress j = .returned ((orders j).answer true)) ∧
      (∀ j, j ∈ s.refused ↔ s.progress j = .returned ((orders j).answer false)) ∧
      (∀ j, s.Returned j → j ∈ s.accepted ∨ j ∈ s.refused) ∧
      s.world.records = s.refused.flatMap (fun j => (orders j).complaint) ∧
      (∀ j, ¬ s.Returned j →
        let t := s.apply orders (.attempt j)
        Tried orders s j t ∧
          (t.progress j = .returned ((orders j).answer false) ↔ s.channel.receiver ≠ .open) ∧
          (t.progress j = .returned ((orders j).answer true) ↔
            s.channel.receiver = .open ∧ s.channel.queue.length < max capacity 1) ∧
          (s.channel.receiver ≠ .open → t.channel = s.channel)) ∧
      (∀ a, s.accepted <+: (s.apply orders a).accepted) ∧
      (s.channel.receiver ≠ .dropped → ∀ bs : List (Action ι), .drop ∉ bs →
        let t := bs.foldl (State.apply orders) (s.apply orders .close)
        t.received = s.received ++ s.channel.queue.take (bs.count .receive) ∧
          t.channel.queue = s.channel.queue.drop (bs.count .receive)) := by
  intro s
  have hs : Sound orders capacity s := sound_after orders capacity as
  obtain ⟨rest, hrest, hqueue⟩ := hs.conserved
  obtain ⟨hclosed, hgone⟩ := receiver_foldl orders as (State.start capacity)
  refine ⟨hclosed.trans (or_iff_right (absurd rfl)), hgone.trans (or_iff_right nofun),
    fun hdropped => by rw [← hqueue hdropped, hrest], ⟨rest, hrest.symm⟩, hs.length_le,
    hs.outcomes.nodup, hs.outcomes.mem_accepted, hs.outcomes.mem_refused,
    fun j ⟨a, ha⟩ => hs.outcomes.mem_of_returned j a ha, hs.records_eq, fun j hj => ?_,
    accepted_prefix s, fun hdropped bs hbs => ?_⟩
  · have htried : Tried orders s j (s.apply orders (.attempt j)) := tried hj
    exact ⟨htried, htried.returned_iff.1, hs.capacity_eq ▸ htried.returned_iff.2,
      fun hopen => (htried.of_ne_open hopen).1⟩
  · obtain ⟨hchannel, hreceived⟩ := foldl_closed orders bs hbs
      (s := s.apply orders .close) (close_receiver hdropped)
    exact ⟨hreceived, by rw [hchannel]; rfl⟩

/-- A request that is accepted, one that waits until that was received, and one that comes too
late. -/
def someOrders : Fin 3 → Order
  | 0 => { options := { pid := .number 7 } }
  | 1 =>
    { options := { pid := .number 8, gracefulTimeout := some (.ofSeconds 5) }, route := .handler }
  | 2 => { options := { pid := .number 9 }, route := .handler }

/-- What is done with them. -/
def someActions : List (Action (Fin 3)) :=
  [.attempt 0, .attempt 1, .receive, .attempt 1, .close, .attempt 2]

theorem some_requests_conserved :
    let s := State.after someOrders 0 someActions
    s.channel.receiver ≠ .open ∧ s.channel.receiver ≠ .dropped ∧ s.accepted = [0, 1] ∧
      s.refused = [2] ∧
      s.accepted.map (fun j => (someOrders j).request) = s.received ++ s.channel.queue := by
  intro s
  obtain ⟨hclosed, hgone, hconserved, -⟩ := requests_conserved someOrders 0 someActions
  have hdropped : s.channel.receiver ≠ .dropped := fun h => absurd (hgone.1 h) (by decide)
  exact ⟨hclosed.2 (by decide), hdropped, rfl, rfl, hconserved hdropped⟩

end Retirement

end Vigil
