import Mathlib.Data.List.Forall2
import Vigil.Proofs.Watchdog.Replay

/-!
# Two runs side by side

Two watchdogs in worlds of their own, whose parts answer so that the worlds stay related.  The runs
then stay in step: the same happens in both, as far as it is looked at.

* `Sight`: what is not told apart in events; `Comparison`: that, how worlds are related, and which
  readings of the switch for the handler there are;
* `Act.Related`: two acts that stay in step, with the rules for returning a value, for a call and
  for one act after another;
* `Surroundings.Related`, `Watchdog.Related`: parts that answer so;
* `turn_related` and the lemmas before it: one turn;
* `run_related`: runs that find the same requests to stop.
-/

namespace Vigil

variable {σ τ α β γ δ : Type}

/-! ### Comparing -/

/-- What is looked at in events: how far names of handlers, and readings of the switch for the
handler, are told apart. -/
structure Sight where
  name : String → String
  reading : Bool → Bool

namespace Sight

/-- Everything is told apart. -/
def full : Sight := ⟨id, id⟩

/-- What is seen of a notice. -/
def notice (g : Sight) : Notice → Notice
  | .started handler sleep => .started (g.name handler) sleep
  | .stopped handler sleep reason => .stopped (g.name handler) sleep reason
  | .thresholdViolated monitor => .thresholdViolated monitor
  | .strikesExceeded monitor handler sleep strikes payload =>
    .strikesExceeded monitor (g.name handler) sleep strikes payload

/-- What is seen of an event. -/
def event (g : Sight) : Event → Event
  | .enforcementRead on => .enforcementRead (on.map g.reading)
  | .reported n => .reported (g.notice n)
  | .handled handler success => .handled (g.name handler) success
  | e => e

@[simp]
theorem notice_full (n : Notice) : full.notice n = n := by cases n <;> rfl

@[simp]
theorem event_full (e : Event) : full.event e = e := by
  cases e with
  | enforcementRead on => cases on <;> rfl
  | reported n => exact congrArg Event.reported (notice_full n)
  | _ => rfl

@[simp]
theorem map_event_full (es : List Event) : es.map full.event = es :=
  List.map_id'' event_full es

end Sight

/-- How two runs are compared: which worlds belong together, and the readings of the switch for the
handler that there are in the first run. -/
structure Comparison (σ τ : Type) extends Sight where
  related : σ → τ → Prop
  read : Bool → Prop := fun _ => True

/-- Everything is told apart in runs whose worlds are related by `R`. -/
def Comparison.full (R : σ → τ → Prop) : Comparison σ τ := { Sight.full with related := R }

/-- There are no other readings among the events. -/
def Comparison.Reads (C : Comparison σ τ) (es : List Event) : Prop :=
  ∀ on, .enforcementRead (some on) ∈ es → C.read on

theorem Comparison.reads_full (R : σ → τ → Prop) (es : List Event) : (full R).Reads es :=
  fun _ _ => trivial

theorem Comparison.reads_append {C : Comparison σ τ} {es es' : List Event} :
    C.Reads (es ++ es') ↔ C.Reads es ∧ C.Reads es' := by
  simp only [Reads, List.mem_append, or_imp, forall_and]

/-- In related worlds, two calls answer with values that are related by `V`, and leave related
worlds. -/
def Call.Related (R : σ → τ → Prop) (V : Option α → Option β → Prop) (c : Call σ α)
    (c' : Call τ β) : Prop :=
  ∀ w x, R w x → V (c w).value (c' x).value ∧ R (c w).world (c' x).world

/-- Two stretches in which the same is seen, and which come to values that are related by `V`. -/
structure Stretch.Related (C : Comparison σ τ) (V : α → β → Prop) (p : Stretch σ α)
    (q : Stretch τ β) : Prop where
  value : V p.value q.value
  events : p.events.map C.event = q.events.map C.event
  world : C.related p.scene.world q.scene.world

theorem Stretch.Related.events_eq {R : σ → τ → Prop} {V : α → β → Prop} {p : Stretch σ α}
    {q : Stretch τ β} (h : p.Related (.full R) V q) : p.events = q.events := by
  have hevents := h.events
  rwa [Comparison.full, Sight.map_event_full, Sight.map_event_full] at hevents

variable {C : Comparison σ τ}

theorem Stretch.Related.andThen {V : α → β → Prop} {U : γ → δ → Prop} {p : Stretch σ α}
    {q : Stretch τ β} {f : α → Act σ γ} {g : β → Act τ δ} (hpq : p.Related C V q)
    (hfg : (f p.value p.scene).Related C U (g q.value q.scene)) :
    (p.andThen f).Related C U (q.andThen g) := by
  refine ⟨hfg.value, ?_, hfg.world⟩
  show List.map _ (_ ++ _) = List.map _ (_ ++ _)
  rw [List.map_append, List.map_append, hpq.events, hfg.events]

namespace Act

/-- From scenes in related worlds, two acts are related stretches. -/
def Related (C : Comparison σ τ) (V : α → β → Prop) (x : Act σ α) (y : Act τ β) : Prop :=
  ∀ s t, C.related s.world t.world → C.Reads (x s).events → (x s).Related C V (y t)

theorem related_pure {V : α → β → Prop} {a : α} {b : β} (h : V a b) :
    Related C V (pure a) (pure b) := fun _ _ hw _ => ⟨h, rfl, hw⟩

theorem related_call {V : Option α → Option β → Prop} {c : Call σ α} {c' : Call τ β}
    (hc : c.Related C.related V c') {event : Option α → Event} {event' : Option β → Event}
    (he : ∀ a b, V a b → C.event (event a) = C.event (event' b)) :
    Related C V (call c event) (call c' event') := by
  intro s t hw _
  obtain ⟨hvalue, hworld⟩ := hc s.world t.world hw
  exact ⟨hvalue, congrArg (fun e => [e]) (he _ _ hvalue), hworld⟩

theorem Related.bind {V : α → β → Prop} {U : γ → δ → Prop} {x : Act σ α} {y : Act τ β}
    {f : α → Act σ γ} {g : β → Act τ δ} (hxy : Related C V x y)
    (hfg : ∀ a b, V a b → Related C U (f a) (g b)) : Related C U (x >>= f) (y >>= g) := by
  intro s t hw hreads
  obtain ⟨hfirst, hsecond⟩ := Comparison.reads_append.1 hreads
  have hx := hxy s t hw hfirst
  exact hx.andThen (hfg _ _ hx.value _ _ hx.world hsecond)

end Act

/-! ### Parts -/

/-- Two monitors with one name and the same strikes, which answer the same. -/
structure Registered.Related (R : σ → τ → Prop) (m : Registered σ) (m' : Registered τ) : Prop where
  name : m.name = m'.name
  strikes : m.strikes = m'.strikes
  check : m.monitor.check.Related R Eq m'.monitor.check

/-- Two handlers whose names are not told apart, which answer the same. -/
structure Handler.Related (C : Comparison σ τ) (h : Handler σ) (h' : Handler τ) : Prop where
  name : C.name h.name = C.name h'.name
  call : h.call.Related C.related Eq h'.call

/-- Two surroundings that answer the same, but for readings of the switch for the handler that are
not told apart.  Nothing is said of their handlers. -/
structure Surroundings.NearlyRelated (C : Comparison σ τ) (s : Surroundings σ)
    (s' : Surroundings τ) : Prop where
  sleepTime : s.configuration.sleepTime = s'.configuration.sleepTime
  reporter : ∀ n n', C.notice n = C.notice n' →
    (s.configuration.reporter n).Related C.related Eq (s'.configuration.reporter n')
  diagnostics : ∀ name,
    (s.configuration.diagnostics name).Related C.related Eq (s'.configuration.diagnostics name)
  watchdogEnabled : s.toggles.watchdogEnabled.Related C.related Eq s'.toggles.watchdogEnabled
  enforcementEnabled : s.toggles.enforcementEnabled.Related C.related
    (fun on on' => on.map C.reading = on'.map C.reading) s'.toggles.enforcementEnabled
  pause : ∀ time, (s.pause.call time).Related C.related Eq (s'.pause.call time)

/-- Two surroundings that answer the same.  So do the handlers that are selected by readings that
are not told apart. -/
structure Surroundings.Related (C : Comparison σ τ) (s : Surroundings σ) (s' : Surroundings τ) :
    Prop extends s.NearlyRelated C s' where
  handler : ∀ on on', C.read on → C.reading on = C.reading on' →
    Handler.Related C (Loop.select s.configuration.handler on)
      (Loop.select s'.configuration.handler on')

theorem sleepSeconds_eq {c : Configuration σ} {c' : Configuration τ}
    (h : c.sleepTime = c'.sleepTime) : c.sleepSeconds = c'.sleepSeconds := by
  simp only [Configuration.sleepSeconds, h]

/-- Related monitors, and the same of whatever comes with them. -/
def MonitorSet.RelatedWith (R : σ → τ → Prop) (r : MonitorSet σ × α) (r' : MonitorSet τ × α) :
    Prop :=
  List.Forall₂ (Registered.Related R) r.1 r'.1 ∧ r.2 = r'.2

section Monitors

variable {R : σ → τ → Prop}

theorem Registered.Related.record {m : Registered σ} {m' : Registered τ} (h : m.Related R m')
    (v : Verdict) : (m.record v).Related R (m'.record v) :=
  ⟨h.name, by simp only [Registered.record, h.strikes], h.check⟩

theorem Registered.Related.reset {m : Registered σ} {m' : Registered τ} (h : m.Related R m') :
    m.reset.Related R m'.reset :=
  ⟨h.name, by simp only [Registered.reset, h.strikes], h.check⟩

theorem MonitorSet.reset_related {ms : MonitorSet σ} {ms' : MonitorSet τ}
    (h : List.Forall₂ (Registered.Related R) ms ms') (i : ℕ) :
    List.Forall₂ (Registered.Related R) (ms.reset i) (ms'.reset i) := by
  induction h generalizing i with
  | nil => cases i <;> exact .nil
  | cons hm hms ih =>
    cases i with
    | zero => exact .cons hm.reset hms
    | succ i => exact .cons hm (ih i)

theorem MonitorSet.getElem?_related {ms : MonitorSet σ} {ms' : MonitorSet τ}
    (h : List.Forall₂ (Registered.Related R) ms ms') (i : ℕ) :
    Option.Rel (Registered.Related R) ms[i]? ms'[i]? := by
  induction h generalizing i with
  | nil => exact .none
  | cons hm hms ih =>
    cases i with
    | zero => exact .some hm
    | succ i => simpa using ih i

theorem MonitorSet.map_strikes_related {ms : MonitorSet σ} {ms' : MonitorSet τ}
    (h : List.Forall₂ (Registered.Related R) ms ms') :
    ms.map Registered.strikes = ms'.map Registered.strikes := by
  induction h with
  | nil => rfl
  | cons hm _ ih => rw [List.map_cons, List.map_cons, hm.strikes, ih]

end Monitors

namespace Loop

/-! ### Passes -/

variable {s : Surroundings σ} {s' : Surroundings τ} {h : Handler σ} {h' : Handler τ}

theorem report_related (hs : s.Related C s') {n n' : Notice} (hn : C.notice n = C.notice n') :
    Act.Related C Eq (report s.configuration n) (report s'.configuration n') :=
  Act.related_call (hs.reporter n n' hn) fun _ _ _ => congrArg Event.reported hn

theorem currentHandler_related (hs : s.Related C s') :
    Act.Related C (Option.Rel (Handler.Related C)) (currentHandler s) (currentHandler s') := by
  intro x y hw hreads
  obtain ⟨hreading, hworld⟩ := hs.enforcementEnabled x.world y.world hw
  refine ⟨?_, congrArg (fun on => [Event.enforcementRead on]) hreading, hworld⟩
  have hread : ∀ on, (s.toggles.enforcementEnabled x.world).value = some on → C.read on :=
    fun on hon => hreads on (by rw [← hon]; exact List.mem_singleton_self _)
  change Option.Rel _ ((s.toggles.enforcementEnabled x.world).value.map _)
    ((s'.toggles.enforcementEnabled y.world).value.map _)
  generalize (s.toggles.enforcementEnabled x.world).value = on?,
    (s'.toggles.enforcementEnabled y.world).value = on?' at hreading hread
  match on?, on?', hreading with
  | none, none, _ => exact .none
  | some on, some on', hreading =>
    exact .some (hs.handler on on' (hread on rfl) (Option.some.inj hreading))

theorem examine_related (hs : s.Related C s') (hh : h.Related C h') (i : ℕ) {m : Registered σ}
    {m' : Registered τ} (hm : m.Related C.related m') :
    Act.Related C (fun r r' => r.1.Related C.related r'.1 ∧ r.2 = r'.2)
      (examine s.configuration h i m) (examine s'.configuration h' i m') := by
  unfold examine
  rw [hm.name]
  refine .bind (Act.related_call hm.check fun _ _ h => by rw [h]) ?_
  rintro verdict? _ rfl
  cases verdict? with
  | none => exact Act.related_pure ⟨hm, rfl⟩
  | some v =>
    have hrecord := hm.record v
    dsimp only
    rw [hrecord.name, hrecord.strikes, sleepSeconds_eq hs.sleepTime]
    split
    · exact Act.related_pure ⟨hrecord, rfl⟩
    · refine .bind (report_related hs rfl) ?_
      rintro told _ rfl
      split
      · exact Act.related_pure ⟨hrecord, rfl⟩
      · split
        · exact Act.related_pure ⟨hrecord, rfl⟩
        · refine .bind (report_related hs (by simp only [Sight.notice, hh.name])) ?_
          rintro told _ rfl
          exact Act.related_pure ⟨hrecord, rfl⟩

theorem scan_related (hs : s.Related C s') (hh : h.Related C h') (i : ℕ) {ms : MonitorSet σ}
    {ms' : MonitorSet τ} (hms : List.Forall₂ (Registered.Related C.related) ms ms') :
    Act.Related C (MonitorSet.RelatedWith C.related) (scan s.configuration h i ms)
      (scan s'.configuration h' i ms') := by
  induction hms generalizing i with
  | nil => exact Act.related_pure ⟨.nil, rfl⟩
  | cons hm hms ih =>
    refine .bind (examine_related hs hh i hm) ?_
    rintro ⟨m, finding⟩ ⟨m', _⟩ ⟨hm', rfl⟩
    cases finding with
    | passed =>
      refine .bind (ih (i + 1)) ?_
      rintro ⟨ms, out⟩ ⟨ms', _⟩ ⟨hms', rfl⟩
      exact Act.related_pure ⟨.cons hm' hms', rfl⟩
    | exceeded => exact Act.related_pure ⟨.cons hm' hms, rfl⟩
    | crashed => exact Act.related_pure ⟨.cons hm' hms, rfl⟩

theorem remedy_related (hs : s.Related C s') (hh : h.Related C h') (i : ℕ) {ms : MonitorSet σ}
    {ms' : MonitorSet τ} (hms : List.Forall₂ (Registered.Related C.related) ms ms') :
    Act.Related C (MonitorSet.RelatedWith C.related) (remedy s.configuration h i ms)
      (remedy s'.configuration h' i ms') := by
  unfold remedy
  have hi := MonitorSet.getElem?_related hms i
  generalize ms[i]? = m?, ms'[i]? = m?' at hi
  cases hi with
  | none => exact Act.related_pure ⟨hms, rfl⟩
  | some hm =>
    dsimp only
    rw [hm.name]
    refine .bind (Act.related_call (hs.diagnostics _) fun _ _ _ => rfl) ?_
    rintro looked _ rfl
    split
    · exact Act.related_pure ⟨hms, rfl⟩
    · refine .bind (Act.related_call hh.call fun _ _ h => by
        simp only [Sight.event, hh.name, h]) ?_
      rintro success _ rfl
      refine Act.related_pure ⟨?_, rfl⟩
      split
      · exact MonitorSet.reset_related hms i
      · exact hms

theorem tick_related (hs : s.Related C s') {ms : MonitorSet σ} {ms' : MonitorSet τ}
    (hms : List.Forall₂ (Registered.Related C.related) ms ms') :
    Act.Related C (MonitorSet.RelatedWith C.related) (tick s ms) (tick s' ms') := by
  refine .bind (currentHandler_related hs) ?_
  rintro handler? handler?' hh
  cases hh with
  | none => exact Act.related_pure ⟨hms, rfl⟩
  | some hh =>
    refine .bind (scan_related hs hh 0 hms) ?_
    rintro ⟨ms, out⟩ ⟨ms', _⟩ ⟨hms', rfl⟩
    cases out with
    | quiet => exact Act.related_pure ⟨hms', rfl⟩
    | exceeded i => exact remedy_related hs hh i hms'
    | crashed => exact Act.related_pure ⟨hms', rfl⟩

theorem watch_related (hs : s.Related C s') {ms : MonitorSet σ} {ms' : MonitorSet τ}
    (hms : List.Forall₂ (Registered.Related C.related) ms ms') :
    Act.Related C (MonitorSet.RelatedWith C.related) (watch s ms) (watch s' ms') := by
  refine .bind (Act.related_call hs.watchdogEnabled fun _ _ h => by rw [h]) ?_
  rintro on _ rfl
  match on with
  | none => exact Act.related_pure ⟨hms, rfl⟩
  | some false => exact Act.related_pure ⟨hms, rfl⟩
  | some true => exact tick_related hs hms

/-! ### Turns -/

theorem value_rest (s : Surroundings σ) (x : Scene σ) :
    (rest s x).value = (s.pause.call s.configuration.sleepTime x.world).value := by
  unfold rest
  cases s.pause <;> rfl

theorem world_rest (s : Surroundings σ) (x : Scene σ) :
    (rest s x).scene.world = (s.pause.call s.configuration.sleepTime x.world).world := by
  unfold rest
  cases s.pause <;> rfl

theorem rest_related (hs : s.Related C s') : Act.Related C Eq (rest s) (rest s') := by
  intro x y hw _
  obtain ⟨hvalue, hworld⟩ := hs.pause s'.configuration.sleepTime x.world y.world hw
  refine ⟨?_, ?_, ?_⟩
  · rw [value_rest, value_rest, hs.sleepTime, hvalue]
  · rw [rest_ensures s x, rest_ensures s' y, hs.sleepTime]
  · rw [world_rest, world_rest, hs.sleepTime]
    exact hworld

theorem settle_related (hs : s.Related C s') {r : MonitorSet σ × Option Bool}
    {r' : MonitorSet τ × Option Bool} (hr : MonitorSet.RelatedWith C.related r r') :
    Act.Related C (MonitorSet.RelatedWith C.related) (settle s r) (settle s' r') := by
  obtain ⟨ms, handled⟩ := r
  obtain ⟨ms', _⟩ := r'
  obtain ⟨hms, rfl⟩ := hr
  match handled with
  | none => exact Act.related_pure ⟨hms, rfl⟩
  | some true => exact Act.related_pure ⟨hms, rfl⟩
  | some false =>
    refine .bind (rest_related hs) ?_
    rintro rested _ rfl
    exact Act.related_pure ⟨hms, rfl⟩

/-- Turns that begin with the same request to stop, or none, stay in step. -/
theorem turn_related (hs : s.Related C s') {ms : MonitorSet σ} {ms' : MonitorSet τ}
    (hms : List.Forall₂ (Registered.Related C.related) ms ms') {x : Scene σ} {y : Scene τ}
    (hw : C.related x.world y.world) (hxy : x.signal.requested = y.signal.requested)
    (hreads : C.Reads (turn s ms x).events) :
    (turn s ms x).Related C (MonitorSet.RelatedWith C.related) (turn s' ms' y) := by
  cases hx : x.signal.requested with
  | true =>
    rw [turn_of_requested s ms hx, turn_of_requested s' ms' (hxy ▸ hx)]
    exact ⟨⟨hms, rfl⟩, rfl, hw⟩
  | false =>
    have hy : y.signal.requested = false := hxy ▸ hx
    by_cases hnil : ms = []
    · subst hnil
      cases hms
      rw [turn_nil s hx, turn_nil s' hy]
      exact ⟨⟨.nil, rfl⟩, rfl, hw⟩
    · have hnil' : ms' ≠ [] := by
        rintro rfl
        cases hms
        exact hnil rfl
      -- Requests that are made from here on are not looked at before the next turn.
      rw [turn_of_ne_nil s hnil hx] at hreads ⊢
      rw [turn_of_ne_nil s' hnil' hy]
      exact (watch_related hs hms).bind (fun _ _ => settle_related hs) x y hw hreads

end Loop

/-! ### Runs -/

/-- Two watchdogs at one point of their lives, whose parts answer the same. -/
structure Watchdog.Related (C : Comparison σ τ) (d : Watchdog σ) (d' : Watchdog τ) : Prop where
  surroundings : d.surroundings.Related C d'.surroundings
  monitors : List.Forall₂ (Registered.Related C.related) d.configuration.monitors
    d'.configuration.monitors
  lifecycle : d.lifecycle = d'.lifecycle

/-- The same but for their handlers, of which nothing is said. -/
structure Watchdog.NearlyRelated (C : Comparison σ τ) (d : Watchdog σ) (d' : Watchdog τ) :
    Prop where
  surroundings : d.surroundings.NearlyRelated C d'.surroundings
  monitors : List.Forall₂ (Registered.Related C.related) d.configuration.monitors
    d'.configuration.monitors
  lifecycle : d.lifecycle = d'.lifecycle

/-- Which readings there are bears on handlers only. -/
theorem Watchdog.NearlyRelated.withRead {d : Watchdog σ} {d' : Watchdog τ}
    (hd : d.NearlyRelated C d') (read : Bool → Prop) : d.NearlyRelated { C with read } d' :=
  ⟨{ hd.surroundings with }, hd.monitors, hd.lifecycle⟩

theorem Watchdog.NearlyRelated.related {d : Watchdog σ} {d' : Watchdog τ}
    (hd : d.NearlyRelated C d')
    (hh : ∀ on on', C.read on → C.reading on = C.reading on' →
      Handler.Related C (Loop.select d.configuration.handler on)
        (Loop.select d'.configuration.handler on')) : d.Related C d' :=
  ⟨{ hd.surroundings with handler := hh }, hd.monitors, hd.lifecycle⟩

/-- Two runs in which the same is seen. -/
structure Run.Related (C : Comparison σ τ) (r : Run σ) (r' : Run τ) : Prop where
  result : r.result = r'.result
  events : r.events.map C.event = r'.events.map C.event
  monitors : List.Forall₂ (Registered.Related C.related) r.watchdog.configuration.monitors
    r'.watchdog.configuration.monitors
  world : C.related r.world r'.world

namespace Watchdog

/-- Before each of the turns that are allowed, both runs find a request to stop, or neither does. -/
def SameRequests (d : Watchdog σ) (w : σ) (d' : Watchdog τ) (x : τ) (allowed : ℕ) : Prop :=
  ∀ n < allowed, (d.run n w).result = .unfinished → (d'.run n x).result = .unfinished →
    (d.run n w).watchdog.isStopped = (d'.run n x).watchdog.isStopped

variable {d : Watchdog σ} {d' : Watchdog τ}

theorem announce_related (hd : d.surroundings.Related C d'.surroundings)
    {notice notice' : String → Notice}
    (hn : ∀ name name', C.name name = C.name name' →
      C.notice (notice name) = C.notice (notice' name')) :
    Act.Related C Eq (d.announce notice) (d'.announce notice') := by
  refine .bind (Loop.currentHandler_related hd) ?_
  rintro handler? handler?' hh
  cases hh with
  | none => exact Act.related_pure rfl
  | some hh => exact Loop.report_related hd (hn _ _ hh.name)

theorem sleepSeconds_related (hd : d.surroundings.Related C d'.surroundings) :
    d.configuration.sleepSeconds = d'.configuration.sleepSeconds := by
  have htime : d.configuration.sleepTime = d'.configuration.sleepTime := hd.sleepTime
  exact sleepSeconds_eq htime

theorem started_related (hd : d.surroundings.Related C d'.surroundings) :
    Act.Related C Eq (d.announce (.started · d.configuration.sleepSeconds))
      (d'.announce (.started · d'.configuration.sleepSeconds)) :=
  announce_related hd fun _ _ h => by
    rw [Sight.notice, Sight.notice, h, sleepSeconds_related hd]

theorem stopped_related (hd : d.surroundings.Related C d'.surroundings) (reason : StopReason) :
    Act.Related C Eq (d.announce (.stopped · d.configuration.sleepSeconds reason))
      (d'.announce (.stopped · d'.configuration.sleepSeconds reason)) :=
  announce_related hd fun _ _ h => by
    rw [Sight.notice, Sight.notice, h, sleepSeconds_related hd]

theorem conclude_related (hd : d.surroundings.Related C d'.surroundings)
    {r : MonitorSet σ × Ending} {r' : MonitorSet τ × Ending}
    (hr : MonitorSet.RelatedWith C.related r r') :
    Act.Related C (MonitorSet.RelatedWith C.related) (d.conclude r) (d'.conclude r') := by
  obtain ⟨ms, ending⟩ := r
  obtain ⟨ms', _⟩ := r'
  obtain ⟨hms, rfl⟩ := hr
  cases ending with
  | done reason =>
    refine .bind (stopped_related hd reason) ?_
    rintro ended _ rfl
    exact Act.related_pure ⟨hms, rfl⟩
  | crashed => exact Act.related_pure ⟨hms, rfl⟩
  | unfinished => exact Act.related_pure ⟨hms, rfl⟩

theorem resume_one_related (hd : d.surroundings.Related C d'.surroundings) {ms : MonitorSet σ}
    {ms' : MonitorSet τ} (hms : List.Forall₂ (Registered.Related C.related) ms ms') {x : Scene σ}
    {y : Scene τ} (hw : C.related x.world y.world)
    (hxy : x.signal.requested = y.signal.requested)
    (hreads : C.Reads (d.resume 1 ms x).events) :
    (d.resume 1 ms x).Related C (MonitorSet.RelatedWith C.related) (d'.resume 1 ms' y) := by
  rw [resume_one] at hreads ⊢
  rw [resume_one]
  obtain ⟨hturn, hrest⟩ := Comparison.reads_append.1 hreads
  have hp := Loop.turn_related hd hms hw hxy hturn
  refine hp.andThen (conclude_related hd ⟨hp.value.1, ?_⟩ _ _ hp.world hrest)
  exact congrArg (Option.getD · Ending.unfinished) hp.value.2

theorem run_zero_related (hd : d.Related C d') (hready : d.Ready) (hready' : d'.Ready) {w : σ}
    {x : τ} (hw : C.related w x) (hreads : C.Reads (d.run 0 w).events) :
    (d.run 0 w).Related C (d'.run 0 x) := by
  rw [run_of_ready hready] at hreads ⊢
  rw [run_of_ready hready']
  have hsession : (d.session 0 ⟨w, d.signal⟩).Related C (MonitorSet.RelatedWith C.related)
      (d'.session 0 ⟨x, d'.signal⟩) := by
    rw [session_eq, session_eq] at *
    refine Act.Related.bind (started_related hd.surroundings) ?_ _ _ hw hreads
    rintro began _ rfl
    split
    · exact Act.related_pure ⟨hd.monitors, rfl⟩
    · exact Act.related_pure ⟨hd.monitors, rfl⟩
  exact ⟨congrArg Ending.result hsession.value.2, hsession.events, hsession.value.1,
    hsession.world⟩

theorem validate_related (hd : d.surroundings.Related C d'.surroundings) :
    d.configuration.validate = d'.configuration.validate := by
  have htime : d.configuration.sleepTime = d'.configuration.sleepTime := hd.sleepTime
  rw [Configuration.validate, Configuration.validate, htime]

theorem ready_related (hd : d.surroundings.Related C d'.surroundings)
    (hlife : d.lifecycle = d'.lifecycle) (h : d.Ready) : d'.Ready :=
  ⟨(validate_related hd).symm.trans h.1, hlife.symm.trans h.2⟩

/-- Watchdogs whose parts answer the same are refused for the same fault. -/
theorem refused_related (hd : d.surroundings.Related C d'.surroundings)
    (hlife : d.lifecycle = d'.lifecycle) (hready : ¬ d.Ready) : ∃ fault,
    (∀ allowed w, d.run allowed w = d.refused w fault) ∧
      ∀ allowed x, d'.run allowed x = d'.refused x fault := by
  unfold run
  rw [← validate_related hd, ← hlife]
  cases hvalid : d.configuration.validate with
  | error fault => exact ⟨fault, fun _ _ => rfl, fun _ _ => rfl⟩
  | ok _ =>
    cases hstart : d.lifecycle.start? with
    | none => exact ⟨_, fun _ _ => rfl, fun _ _ => rfl⟩
    | some _ => exact absurd ⟨hvalid, (Lifecycle.start?_eq_some_iff.1 hstart).1⟩ hready

/-- **Runs of related watchdogs stay in step**, if they find the same requests to stop. -/
theorem run_related (hd : d.Related C d') {allowed : ℕ} {w : σ} {x : τ} (hw : C.related w x)
    (hstop : d.SameRequests w d' x allowed) (hreads : C.Reads (d.run allowed w).events) :
    (d.run allowed w).Related C (d'.run allowed x) := by
  by_cases hready : d.Ready
  · have hready' := ready_related hd.surroundings hd.lifecycle hready
    induction allowed with
    | zero => exact run_zero_related hd hready hready' hw hreads
    | succ allowed ih =>
      have hstop' : d.SameRequests w d' x allowed := fun n hn => hstop n (by omega)
      by_cases hr : (d.run allowed w).result = .unfinished
      · rw [run_add_eq hr 1] at hreads ⊢
        obtain ⟨hbefore, hturn⟩ := Comparison.reads_append.1 hreads
        have hrun := ih hstop' hbefore
        have hr' := hrun.result.symm.trans hr
        rw [run_add_eq hr' 1]
        have hstep := resume_one_related hd.surroundings hrun.monitors
          (x := ⟨_, (d.run allowed w).watchdog.signal⟩)
          (y := ⟨_, (d'.run allowed x).watchdog.signal⟩) hrun.world
          (hstop allowed (by omega) hr hr') hturn
        refine ⟨congrArg Ending.result hstep.value.2, ?_, hstep.value.1, hstep.world⟩
        dsimp only
        rw [List.map_append, List.map_append, hrun.events, hstep.events]
      · rw [run_add_of_ne_unfinished hr 1] at hreads ⊢
        have hrun := ih hstop' hreads
        rw [run_add_of_ne_unfinished (hrun.result ▸ hr) 1]
        exact hrun
  · obtain ⟨fault, hrefused, hrefused'⟩ := refused_related hd.surroundings hd.lifecycle hready
    rw [hrefused, hrefused']
    exact ⟨rfl, rfl, hd.monitors, hw⟩

end Watchdog

end Vigil
