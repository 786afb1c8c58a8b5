import Vigil.Proofs.Watchdog.HandlerCalls
import Vigil.Proofs.Watchdog.Lifetime

/-!
# One remediation

A handler that succeeds ends the loop, and a watchdog has one loop in its life.  So of all calls of
handlers in a lifetime at most one succeeds, and it is the last.

* `Handler.value_term`, `Handler.world_term`: asking a process to terminate;
* `WorkerChannel.Requested`, `Handler.managed_requested`: what becomes of a request to retire a
  worker;
* `run_succeeds_iff`, `countP_succeeds_run`: a handler succeeds in a run, and only one does, exactly
  if the run ends for that reason, or crashes in the report of that;
* `remedies`, `remedies_last`: the calls of handlers in a lifetime, of which a success is the last;
* `Launch.Terminates`, `Launch.Retires`: what is decided of runs with either kind of handler;
* `one_remediation`: all of that for a lifetime.
-/

namespace Vigil

variable {σ : Type}

/-! ### Two kinds of handlers -/

/-- Asking a process to terminate counts as a success, whatever came of it. -/
theorem Handler.value_term [Journal σ] [Processes σ] (pid : ProcessId) (w : σ) :
    ((Handler.term pid).call w).value = some true := by
  dsimp only [Handler.term]
  split <;> rfl

/-- The world after an attempt to ask a process to terminate; a failure is recorded. -/
def Handler.attempted [Journal σ] [Processes σ] (pid : ProcessId) (w : σ) : σ :=
  match Processes.terminate pid w with
  | (.ok (), w) => w
  | (.error cause, w) => Journal.log (deliveryFailed (.signal pid cause)) w

theorem Handler.world_term [Journal σ] [Processes σ] (pid : ProcessId) (w : σ) :
    ((Handler.term pid).call w).world = attempted pid w := by
  dsimp only [Handler.term, Handler.signal, attempted]
  generalize Processes.terminate pid w = sent
  obtain ⟨_ | ⟨⟩, w'⟩ := sent <;> rfl

theorem HandlerCall.Prepared.value_of_term [Journal σ] [Processes σ] {s : Surroundings σ}
    {c : HandlerCall σ} {es : List Event} (hc : c.Prepared s es) {pid : ProcessId}
    (hs : s.configuration.handler = .term pid) (hon : c.on = true) :
    c.reply.value = some true := by
  rw [HandlerCall.reply, hc.handler_of_on hon, hs]
  exact Handler.value_term pid c.world

namespace WorkerChannel

/-- Requests through a queue to which a sender comes when it is its turn: until there is room, or
nobody will receive the request, others change the world as `meanwhile` says. -/
def retireAfter (meanwhile : σ → σ) (get : σ → WorkerChannel) (set : WorkerChannel → σ → σ) :
    WorkerManager σ where
  retire options w := (retire get set).retire options (meanwhile w)

theorem send_cases (c : WorkerChannel) (r : RetireRequest) :
    c.send r = (.accepted, { c with queue := c.queue ++ [r] }) ∨ c.send r = (.refused, c) ∨
      c.send r = (.waiting, c) := by
  unfold send
  split
  · exact .inr (.inl rfl)
  · split
    · exact .inr (.inr rfl)
    · exact .inl rfl

/-- What becomes of a request for a worker: whether the handler succeeded, and the queue after it.
The sender of a request that waits does not come back. -/
inductive Requested (c : WorkerChannel) (o : RetireOptions) : Option Bool → WorkerChannel → Prop
  | accepted (h : (c.send o.request).1 = .accepted) :
      Requested c o (some true) { c with queue := c.queue ++ [⟨o.pid, o.gracefulTimeout⟩] }
  | refused (h : (c.send o.request).1 = .refused) : Requested c o (some false) c
  | waiting (h : (c.send o.request).1 = .waiting) : Requested c o none c

theorem Requested.eq_some_true_iff {c c' : WorkerChannel} {o : RetireOptions}
    {success : Option Bool} (h : c.Requested o success c') :
    success = some true ↔ (c.send o.request).1 = .accepted := by
  cases h with
  | accepted h => simp [h]
  | refused h => simp [h]
  | waiting h => simp [h]

theorem Requested.eq_some_false_iff {c c' : WorkerChannel} {o : RetireOptions}
    {success : Option Bool} (h : c.Requested o success c') :
    success = some false ↔ (c.send o.request).1 = .refused := by
  cases h with
  | accepted h => simp [h]
  | refused h => simp [h]
  | waiting h => simp [h]

end WorkerChannel

theorem Handler.managed_requested [Journal σ] {meanwhile : σ → σ} {get : σ → WorkerChannel}
    {set : WorkerChannel → σ → σ} (hset : ∀ c w, get (set c w) = c)
    (hlog : ∀ r w, get (Journal.log r w) = get w) (options : RetireOptions) (w : σ) :
    let r := (Handler.managed (WorkerChannel.retireAfter meanwhile get set) options).call w
    (get (meanwhile w)).Requested options r.value (get r.world) := by
  dsimp only [Handler.managed, WorkerChannel.retireAfter, WorkerChannel.retire]
  rcases (get (meanwhile w)).send_cases options.request with h | h | h <;>
    simp only [h, WorkerChannel.answer?, hset, hlog]
  · exact .accepted (by rw [h])
  · exact .refused (by rw [h])
  · exact .waiting (by rw [h])

/-! ### Runs -/

/-- The handler succeeded. -/
def HandlerCall.succeeds (c : HandlerCall σ) : Bool := c.reply.value == some true

theorem HandlerCall.succeeds_iff {c : HandlerCall σ} :
    c.succeeds = true ↔ c.reply.value = some true := beq_iff_eq

/-- A request to retire a worker is sent in the call, and accepted. -/
def HandlerCall.accepts (meanwhile : σ → σ) (get : σ → WorkerChannel) (options : RetireOptions)
    (c : HandlerCall σ) : Bool :=
  c.on && ((get (meanwhile c.world)).send options.request).1 = .accepted

namespace Watchdog

/-- A handler succeeded in a run, and the report of that crashed. -/
def Unheard (d : Watchdog σ) (r : Run σ) : Prop :=
  r.result = .crashed ∧ ∃ (before : List Event) (name : String) (es : List Event),
    r.events = before ++ .handled name (some true) :: es ∧
      Announced d (.stopped · d.configuration.sleepSeconds .successfullyHandled) es none

theorem exists_call_of_mem_events {d : Watchdog σ} {allowed : ℕ} {w : σ} {name : String}
    {success : Option Bool} (h : .handled name success ∈ (d.run allowed w).events) :
    ∃ c ∈ d.handlerCalls allowed w, c.reply.value = success := by
  have hmem : .handled name success ∈ (d.handlerCalls allowed w).map HandlerCall.event := by
    rw [← filter_isHandled_run]
    exact List.mem_filter.2 ⟨h, rfl⟩
  obtain ⟨c, hc, hevent⟩ := List.mem_map.1 hmem
  exact ⟨c, hc, (Event.handled.inj hevent).2⟩

/-- A handler succeeds in a run exactly if the run ends for that reason, or crashes in the report of
that. -/
theorem run_succeeds_iff (d : Watchdog σ) (allowed : ℕ) (w : σ) :
    (∃ c ∈ d.handlerCalls allowed w, c.reply.value = some true) ↔
      (d.run allowed w).result = .returned (.ok .successfullyHandled) ∨
        d.Unheard (d.run allowed w) := by
  have hcalled := run_called d allowed w
  constructor
  · rintro ⟨c, hc, htrue⟩
    generalize d.handlerCalls allowed w = cs, d.run allowed w = r at hcalled hc ⊢
    cases hcalled with
    | failing hcs =>
      rw [hcs c hc] at htrue
      cases htrue
    | crashing hcs hnone =>
      rcases List.mem_append.1 hc with hc | hc
      · rw [hcs c hc] at htrue
        cases htrue
      · rw [List.mem_singleton.1 hc, hnone] at htrue
        cases htrue
    | @succeeding _ c before es x _ _ hsucceeds _ _ hes hr =>
      have htold := announce_ensures d
        (.stopped · d.configuration.sleepSeconds .successfullyHandled) x
      cases hvalue : (d.announce
        (.stopped · d.configuration.sleepSeconds .successfullyHandled) x).value with
      | some _ => exact .inl (by rw [hr, hvalue]; rfl)
      | none =>
        refine .inr ⟨by rw [hr, hvalue]; rfl, before ++ es, c.handler.name, _, ?_, hvalue ▸ htold⟩
        rw [hes, HandlerCall.event, hsucceeds]
        simp
  · rintro (hok | ⟨-, before, name, es, hes, -⟩)
    · generalize d.handlerCalls allowed w = cs, d.run allowed w = r at hcalled hok ⊢
      cases hcalled with
      | failing _ hr => exact absurd hok hr
      | crashing _ _ hr =>
        rw [hr] at hok
        cases hok
      | @succeeding cs c _ _ _ _ _ hc => exact ⟨c, by simp, hc⟩
    · have hmem : .handled name (some true) ∈ (d.run allowed w).events := by
        rw [hes]
        simp
      exact exists_call_of_mem_events hmem

/-- Of the calls in a run at most one does not fail, and that is the last. -/
theorem Called.split {d : Watchdog σ} {cs : List (HandlerCall σ)} {r : Run σ}
    (h : Called d cs r) {before after : List (HandlerCall σ)} {c : HandlerCall σ}
    (hcs : cs = before ++ c :: after) (hc : c.reply.value ≠ some false) :
    after = [] ∧ ∀ c' ∈ before, c'.reply.value = some false := by
  have last {cs : List (HandlerCall σ)} {c' : HandlerCall σ}
      (hfail : ∀ c ∈ cs, c.reply.value = some false) (hcs : cs ++ [c'] = before ++ c :: after) :
      after = [] ∧ ∀ c' ∈ before, c'.reply.value = some false := by
    rcases List.eq_nil_or_concat after with rfl | ⟨after, b, rfl⟩
    · obtain ⟨rfl, -⟩ := List.append_inj' hcs rfl
      exact ⟨rfl, hfail⟩
    · rw [List.concat_eq_append, ← List.cons_append, ← List.append_assoc] at hcs
      obtain ⟨rfl, -⟩ := List.append_inj' hcs rfl
      exact absurd (hfail c (by simp)) hc
  cases h with
  | failing hfail => exact absurd (hfail c (by rw [hcs]; simp)) hc
  | crashing hfail => exact last hfail hcs
  | succeeding hfail => exact last hfail hcs

theorem Called.countP_le_one {d : Watchdog σ} {cs : List (HandlerCall σ)} {r : Run σ}
    (h : Called d cs r) {p : HandlerCall σ → Bool}
    (hp : ∀ c ∈ cs, p c = true → c.reply.value ≠ some false) : cs.countP p ≤ 1 := by
  have none_of {cs : List (HandlerCall σ)} (hfail : ∀ c ∈ cs, c.reply.value = some false)
      (hp : ∀ c ∈ cs, p c = true → c.reply.value ≠ some false) : cs.countP p = 0 :=
    List.countP_eq_zero.2 fun c hc htrue => hp c hc htrue (hfail c hc)
  have last {cs : List (HandlerCall σ)} {c : HandlerCall σ}
      (hfail : ∀ c ∈ cs, c.reply.value = some false)
      (hp : ∀ c' ∈ cs ++ [c], p c' = true → c'.reply.value ≠ some false) :
      (cs ++ [c]).countP p ≤ 1 := by
    rw [List.countP_append, none_of hfail (List.forall_mem_append.1 hp).1, List.countP_singleton]
    split <;> decide
  cases h with
  | failing hfail => rw [none_of hfail hp]; exact Nat.zero_le 1
  | crashing hfail => exact last hfail hp
  | succeeding hfail => exact last hfail hp

/-- How many calls of handlers succeed in a run: one if the run ends for that reason, or crashes in
the report of that, and else none. -/
theorem countP_succeeds_run (d : Watchdog σ) (allowed : ℕ) (w : σ) :
    let heeded := (d.run allowed w).result = .returned (.ok .successfullyHandled) ∨
      d.Unheard (d.run allowed w)
    (heeded → (d.handlerCalls allowed w).countP HandlerCall.succeeds = 1) ∧
      (¬ heeded → (d.handlerCalls allowed w).countP HandlerCall.succeeds = 0) := by
  have hle : (d.handlerCalls allowed w).countP HandlerCall.succeeds ≤ 1 := by
    refine (run_called d allowed w).countP_le_one fun c _ hc => ?_
    rw [HandlerCall.succeeds_iff.1 hc]
    nofun
  dsimp only
  rw [← run_succeeds_iff]
  refine ⟨fun ⟨c, hc, htrue⟩ => ?_, fun hnone => ?_⟩
  · have hpos := List.countP_pos_iff.2 ⟨c, hc, HandlerCall.succeeds_iff.2 htrue⟩
    omega
  · exact List.countP_eq_zero.2 fun c hc htrue =>
      hnone ⟨c, hc, HandlerCall.succeeds_iff.1 htrue⟩

/-! ### Lifetimes -/

/-- The calls of handlers in a run that is asked for. -/
def Launch.handlerCalls (l : Launch σ) : List (HandlerCall σ) :=
  l.watchdog.handlerCalls l.allowed l.world

/-- The calls of handlers in a lifetime. -/
def remedies (d : Watchdog σ) (os : List (Operation σ)) : List (HandlerCall σ) :=
  (launches d os).flatMap Launch.handlerCalls

theorem filter_isHandled_history (d : Watchdog σ) (os : List (Operation σ)) :
    (history d os).filter Event.isHandled = (remedies d os).map HandlerCall.event := by
  unfold history remedies
  rw [List.filter_flatMap, List.map_flatMap]
  exact List.flatMap_congr fun l _ => filter_isHandled_run l.watchdog l.allowed l.world

/-- All calls of handlers in a lifetime are in one run. -/
theorem remedies_cases (d : Watchdog σ) (os : List (Operation σ)) :
    remedies d os = [] ∨
      ∃ l ∈ launches d os, l.watchdog.Ready ∧ remedies d os = l.handlerCalls := by
  rcases flatMap_launches (fun l hl => handlerCalls_of_not_ready hl l.allowed l.world) d os with
    hnil | ⟨l, hl, heq⟩
  · exact .inl hnil
  · by_cases hready : l.watchdog.Ready
    · exact .inr ⟨l, hl, hready, heq⟩
    · exact .inl (heq.trans (handlerCalls_of_not_ready hready l.allowed l.world))

/-- A call that succeeds is the last, and all before it fail. -/
theorem remedies_last {d : Watchdog σ} {os : List (Operation σ)}
    {before after : List (HandlerCall σ)} {c : HandlerCall σ}
    (h : remedies d os = before ++ c :: after) (hc : c.reply.value = some true) :
    after = [] ∧ ∀ c' ∈ before, c'.reply.value = some false := by
  rcases remedies_cases d os with hnil | ⟨l, -, -, hl⟩
  · rw [hnil] at h
    simp at h
  · exact (run_called l.watchdog l.allowed l.world).split (hl.symm.trans h) (by rw [hc]; nofun)

/-- There is such a call exactly if a run ends for that reason. -/
theorem remedies_succeeds_iff (d : Watchdog σ) (os : List (Operation σ)) :
    (∃ c ∈ remedies d os, c.reply.value = some true) ↔
      ∃ l ∈ launches d os, l.run.result = .returned (.ok .successfullyHandled) ∨
        l.watchdog.Unheard l.run := by
  have hrun (l : Launch σ) := run_succeeds_iff l.watchdog l.allowed l.world
  constructor
  · rintro ⟨c, hc, htrue⟩
    obtain ⟨l, hl, hmem⟩ := List.mem_flatMap.1 hc
    exact ⟨l, hl, (hrun l).1 ⟨c, hmem, htrue⟩⟩
  · rintro ⟨l, hl, hheeded⟩
    obtain ⟨c, hc, htrue⟩ := (hrun l).2 hheeded
    exact ⟨c, List.mem_flatMap.2 ⟨l, hl, hc⟩, htrue⟩

/-! ### What is decided of a run -/

/-- A run that has all its turns, and a turn of it in which strikes are spent while the handler is
on: with a handler that asks a process to terminate, that turn is the last. -/
theorem run_succ_of_term [Journal σ] [Processes σ] {d : Watchdog σ} {pid : ProcessId}
    (hd : d.configuration.handler = .term pid) {allowed : ℕ} {w : σ}
    (hr : (d.run allowed w).result = .unfinished)
    (hon : .enforcementRead (some true) ∈ (d.nextTurn allowed w).events)
    (hspent : ∃ e ∈ (d.nextTurn allowed w).events, e.isSpent = true) :
    (d.run (allowed + 1) w).result = .returned (.ok .successfullyHandled) ∨
      (d.run (allowed + 1) w).result = .crashed := by
  have hacted := d.nextTurn_acted allowed w
  have hsucc := run_succ_cases hr
  generalize d.nextCall? allowed w = c?, d.nextTurn allowed w = p
    at hacted hsucc hon hspent
  have ends {e : Ending} (he : p.value.2 = some e) : (d.run (allowed + 1) w).result = e.result ∨
      (d.run (allowed + 1) w).result = .crashed := by
    rcases hsucc with ⟨hnone, -⟩ | ⟨e', he', hresult⟩
    · rw [he] at hnone
      cases hnone
    · rw [he] at he'
      obtain rfl := Option.some.inj he'
      exact hresult
  have switched {c : HandlerCall σ} {es es' : List Event} (hc : c.Prepared d.surroundings es)
      (hes : p.events = es ++ es') (hes' : .enforcementRead (some true) ∉ es') :
      c.reply.value = some true := by
    rw [hes, List.mem_append] at hon
    have hread := hc.reads _ (hon.resolve_right hes')
    exact hc.value_of_term hd (Option.some.inj hread).symm
  cases hacted with
  | crashed _ hp => exact .inr ((ends hp).elim id id)
  | quiet hes =>
    obtain ⟨e, he, htrue⟩ := hspent
    rw [(hes e he).2] at htrue
    cases htrue
  | unanswered _ _ _ hp => exact .inr ((ends hp).elim id id)
  | failed hc hreply hes =>
    rw [switched hc hes (by simp [HandlerCall.event])] at hreply
    cases hreply
  | succeeded _ _ _ hp => exact ends hp

/-- A handler that fails lets the run go on. -/
theorem run_succ_of_failed {d : Watchdog σ} {allowed : ℕ} {w : σ}
    (hr : (d.run allowed w).result = .unfinished) {c : HandlerCall σ}
    (hnext : d.handlerCalls (allowed + 1) w = d.handlerCalls allowed w ++ [c])
    (hc : c.reply.value = some false) :
    (d.run (allowed + 1) w).result = .unfinished ∨ (d.run (allowed + 1) w).result = .crashed := by
  rw [handlerCalls_succ hr] at hnext
  obtain hcall := List.append_cancel_left hnext
  have hacted := d.nextTurn_acted allowed w
  have hsucc := run_succ_cases hr
  generalize d.nextCall? allowed w = c?, d.nextTurn allowed w = p at hacted hsucc hcall
  cases hacted with
  | crashed => simp at hcall
  | quiet => simp at hcall
  | unanswered _ hreply | succeeded _ hreply =>
    obtain rfl : _ = c := by simpa using hcall
    rw [hc] at hreply
    cases hreply
  | failed _ _ _ hp =>
    rcases hsucc with ⟨-, hgoing⟩ | ⟨e, he, hresult⟩
    · exact .inl hgoing
    · obtain rfl : e = .crashed := by
        rw [he] at hp
        simpa using hp
      exact .inr (hresult.elim id id)

/-- What is decided of a run whose handler sends requests to retire a worker.  A call of the handler
succeeds if its request is accepted, and a request that is refused leaves the queue as it was and
lets the run go on; one request is accepted if the run ends for that reason, and else none. -/
structure Launch.Retires (l : Launch σ) (meanwhile : σ → σ) (get : σ → WorkerChannel)
    (options : RetireOptions) : Prop where
  requested : ∀ c ∈ l.handlerCalls, c.on = true →
    (get (meanwhile c.world)).Requested options c.reply.value (get c.reply.world)
  accepted :
    let heeded := l.run.result = .returned (.ok .successfullyHandled) ∨ l.watchdog.Unheard l.run
    (heeded → l.handlerCalls.countP (·.accepts meanwhile get options) = 1) ∧
      (¬ heeded → l.handlerCalls.countP (·.accepts meanwhile get options) = 0)
  continues : l.run.result = .unfinished → ∀ c,
    l.watchdog.handlerCalls (l.allowed + 1) l.world = l.handlerCalls ++ [c] → c.on = true →
      ((get (meanwhile c.world)).send options.request).1 = .refused →
        (l.watchdog.run (l.allowed + 1) l.world).result = .unfinished ∨
          ((l.watchdog.run (l.allowed + 1) l.world).result = .crashed ∧ ¬ l.watchdog.Answers)

theorem Launch.retires [Journal σ] (l : Launch σ) {meanwhile : σ → σ} {get : σ → WorkerChannel}
    {set : WorkerChannel → σ → σ} {options : RetireOptions}
    (hl : l.watchdog.configuration.handler =
      .managed (WorkerChannel.retireAfter meanwhile get set) options)
    (hset : ∀ c w, get (set c w) = c) (hlog : ∀ r w, get (Journal.log r w) = get w) :
    l.Retires meanwhile get options := by
  have requested {es : List Event} {c : HandlerCall σ} (hc : c.Prepared l.watchdog.surroundings es)
      (hon : c.on = true) :
      (get (meanwhile c.world)).Requested options c.reply.value (get c.reply.world) := by
    have hcall : c.handler = .managed (WorkerChannel.retireAfter meanwhile get set) options :=
      (hc.handler_of_on hon).trans hl
    rw [HandlerCall.reply, hcall]
    exact Handler.managed_requested hset hlog options c.world
  have hcount : l.handlerCalls.countP (·.accepts meanwhile get options) =
      l.handlerCalls.countP HandlerCall.succeeds := by
    refine List.countP_congr fun c hc => ?_
    obtain ⟨es, hprepared⟩ := prepared_of_mem_handlerCalls hc
    rw [HandlerCall.succeeds_iff]
    cases hon : c.on with
    | true =>
      rw [(requested hprepared hon).eq_some_true_iff]
      simp [HandlerCall.accepts, hon]
    | false => simp [HandlerCall.accepts, hon, hprepared.reply_of_off hon]
  refine ⟨fun c hc hon => ?_, ?_, fun hr c hnext hon hrefused => ?_⟩
  · obtain ⟨es, hprepared⟩ := prepared_of_mem_handlerCalls hc
    exact requested hprepared hon
  · rw [hcount]
    exact countP_succeeds_run l.watchdog l.allowed l.world
  · have hc : c ∈ l.watchdog.handlerCalls (l.allowed + 1) l.world := by rw [hnext]; simp
    obtain ⟨es, hprepared⟩ := prepared_of_mem_handlerCalls hc
    have hfalse := (requested hprepared hon).eq_some_false_iff.2 hrefused
    refine (run_succ_of_failed hr hnext hfalse).imp id fun hcrashed => ⟨hcrashed, fun hd => ?_⟩
    exact run_ne_crashed hd _ _ hcrashed

/-- What is decided of a run whose handler asks a process to terminate.  With the handler on, there
is one attempt in a call, which succeeds whatever came of the attempt, and with the handler off
there is none; the first turn in which strikes are spent while the handler is on ends the run. -/
structure Launch.Terminates [Journal σ] [Processes σ] (l : Launch σ) (pid : ProcessId) :
    Prop where
  attempts : ∀ c ∈ l.handlerCalls,
    c.reply.value = some c.on ∧
      c.reply.world = if c.on then Handler.attempted pid c.world else c.world
  ends : l.run.result = .unfinished →
    .enforcementRead (some true) ∈ (l.watchdog.nextTurn l.allowed l.world).events →
      (∃ e ∈ (l.watchdog.nextTurn l.allowed l.world).events, e.isSpent = true) →
        (l.watchdog.run (l.allowed + 1) l.world).result = .returned (.ok .successfullyHandled) ∨
          ((l.watchdog.run (l.allowed + 1) l.world).result = .crashed ∧ ¬ l.watchdog.Answers)

theorem Launch.terminates [Journal σ] [Processes σ] (l : Launch σ) {pid : ProcessId}
    (hl : l.watchdog.configuration.handler = .term pid) : l.Terminates pid := by
  refine ⟨fun c hc => ?_, fun hr hon hspent => ?_⟩
  · obtain ⟨es, hprepared⟩ := prepared_of_mem_handlerCalls hc
    cases hon : c.on with
    | true =>
      refine ⟨hprepared.value_of_term hl hon, ?_⟩
      rw [HandlerCall.reply, hprepared.handler_of_on hon]
      exact hl ▸ Handler.world_term pid c.world
    | false =>
      rw [hprepared.reply_of_off hon]
      exact ⟨rfl, rfl⟩
  · refine (run_succ_of_term hl hr hon hspent).imp id fun hcrashed => ⟨hcrashed, fun hd => ?_⟩
    exact run_ne_crashed hd _ _ hcrashed

/-- **One remediation.**  Of all calls of handlers in the lifetime of a watchdog at most one
succeeds; it is the last call, and there is one exactly if a run ends for that reason, or crashes in
the report of that.  A process is asked to terminate at most once, and a request to retire a worker
is accepted once if there is such a call, and else never. -/
theorem one_remediation [Journal σ] [Processes σ] (d : Watchdog σ) (os : List (Operation σ)) :
    (history d os).filter Event.isHandled = (remedies d os).map HandlerCall.event ∧
      (∀ before c after, remedies d os = before ++ c :: after → c.reply.value = some true →
        after = [] ∧ ∀ c' ∈ before, c'.reply.value = some false) ∧
      ((∃ c ∈ remedies d os, c.reply.value = some true) ↔
        ∃ l ∈ launches d os, l.run.result = .returned (.ok .successfullyHandled) ∨
          l.watchdog.Unheard l.run) ∧
      ((∀ l ∈ launches d os, l.run.result ≠ .crashed) →
        ((∃ c ∈ remedies d os, c.reply.value = some true) ↔
          ∃ l ∈ launches d os, l.run.result = .returned (.ok .successfullyHandled))) ∧
      (∀ l ∈ launches d os, ∀ pid, l.watchdog.configuration.handler = .term pid →
        l.Terminates pid) ∧
      ((∀ l ∈ launches d os, l.watchdog.Ready →
          ∃ pid, l.watchdog.configuration.handler = .term pid) →
        (remedies d os).countP (·.on) ≤ 1) ∧
      ∀ l ∈ launches d os, ∀ meanwhile get set options,
        l.watchdog.configuration.handler =
            .managed (WorkerChannel.retireAfter meanwhile get set) options →
          (∀ c w, get (set c w) = c) → (∀ r w, get (Journal.log r w) = get w) →
            l.Retires meanwhile get options := by
  refine ⟨filter_isHandled_history d os, fun _ _ _ h hc => remedies_last h hc,
    remedies_succeeds_iff d os, fun hcrash => ?_, fun l _ pid hl => l.terminates hl,
    fun hterm => ?_, fun l _ _ _ _ _ hl hset hlog => l.retires hl hset hlog⟩
  · rw [remedies_succeeds_iff]
    refine exists_congr fun l => and_congr_right fun hl => or_iff_left fun hunheard => ?_
    exact hcrash l hl hunheard.1
  · rcases remedies_cases d os with hnil | ⟨l, hl, hready, heq⟩
    · rw [hnil]
      exact Nat.zero_le 1
    · obtain ⟨pid, hpid⟩ := hterm l hl hready
      rw [heq]
      refine (run_called l.watchdog l.allowed l.world).countP_le_one fun c hc hon => ?_
      rw [((l.terminates hpid).attempts c hc).1, hon]
      nofun

/-- A world in which there is only a queue of requests. -/
structure Depot where
  queue : WorkerChannel

instance : Journal Depot := ⟨fun _ w => w⟩

instance : Processes Depot := ⟨fun _ w => (.ok (), w)⟩

/-- A watchdog that has a worker retired at the first violation. -/
def retiring : Watchdog Depot where
  configuration :=
    { reporter := fun _ => Call.pure ()
      handler := .managed (WorkerChannel.retireAfter id Depot.queue fun c _ => ⟨c⟩)
        { pid := .number 7 }
      monitors := [⟨⟨"alarm", Call.pure .violation⟩, { limit := 0 }⟩] }

/-- Run twice, it sends one request, which is accepted. -/
theorem retiring_one_remediation :
    let os : List (Operation Depot) := [.run 3 ⟨.create 1⟩, .run 3 ⟨.create 1⟩]
    let l : Launch Depot := ⟨retiring, 3, ⟨.create 1⟩⟩
    l ∈ launches retiring os ∧ l.run.result = .returned (.ok .successfullyHandled) ∧
      l.handlerCalls.countP (·.accepts id Depot.queue { pid := .number 7 }) = 1 ∧
      ∃ c ∈ remedies retiring os, c.reply.value = some true := by
  intro os l
  have hl : l ∈ launches retiring os := List.mem_cons_self
  have hresult : l.run.result = .returned (.ok .successfullyHandled) := rfl
  obtain ⟨-, -, hsucceeds, -, -, -, hretires⟩ := one_remediation retiring os
  have h := hretires l hl id Depot.queue (fun c _ => ⟨c⟩) { pid := .number 7 } rfl
    (fun _ _ => rfl) (fun _ _ => rfl)
  exact ⟨hl, hresult, h.accepted.1 (.inl hresult), hsucceeds.2 ⟨l, hl, .inl hresult⟩⟩

end Watchdog

end Vigil
