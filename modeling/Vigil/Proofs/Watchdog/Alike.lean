import Vigil.Proofs.Watchdog.Related

/-!
# Watchdogs that differ in when a stop is asked for

Two watchdogs whose parts answer alike, although the one may ask for a stop where the other does
not.  As long as neither has begun a turn with a request, they do the same.

* `Registered.Alike`, `Handler.Alike`, `Configuration.Alike`, `Surroundings.Alike`,
  `Watchdog.Alike`: the same but for requests;
* `Surroundings.Alike.related`: such parts are related, with nothing left out;
* `turn_alike`: turns that begin without a request are the same, whether or not a stop is asked for
  in them;
* `run_alike`: so are runs.
-/

namespace Vigil

variable {σ : Type}

/-! ### Parts -/

/-- Two monitors with one name and the same strikes, which answer alike. -/
structure Registered.Alike (m m' : Registered σ) : Prop where
  name : m.name = m'.name
  strikes : m.strikes = m'.strikes
  check : m.monitor.check.Alike m'.monitor.check

/-- Two handlers with one name, which answer alike. -/
structure Handler.Alike (h h' : Handler σ) : Prop where
  name : h.name = h'.name
  call : h.call.Alike h'.call

/-- Two configurations whose parts answer alike. -/
structure Configuration.Alike (c c' : Configuration σ) : Prop where
  sleepTime : c.sleepTime = c'.sleepTime
  handler : c.handler.Alike c'.handler
  reporter : ∀ n, (c.reporter n).Alike (c'.reporter n)
  monitors : List.Forall₂ Registered.Alike c.monitors c'.monitors
  diagnostics : ∀ name, (c.diagnostics name).Alike (c'.diagnostics name)

/-- Two surroundings that answer alike. -/
structure Surroundings.Alike (s s' : Surroundings σ) : Prop where
  configuration : s.configuration.Alike s'.configuration
  watchdogEnabled : s.toggles.watchdogEnabled.Alike s'.toggles.watchdogEnabled
  enforcementEnabled : s.toggles.enforcementEnabled.Alike s'.toggles.enforcementEnabled
  pause : ∀ time, (s.pause.call time).Alike (s'.pause.call time)

/-- The same monitors, and the same of whatever comes with them. -/
def MonitorSet.AlikeWith {α : Type} (r r' : MonitorSet σ × α) : Prop :=
  List.Forall₂ Registered.Alike r.1 r'.1 ∧ r.2 = r'.2

/-! ### As a comparison -/

theorem Call.Alike.related {α : Type} {c c' : Call σ α} (h : c.Alike c') : c.Related Eq Eq c' := by
  rintro w _ rfl
  exact h w

theorem Registered.related_eq_iff {m m' : Registered σ} : m.Related Eq m' ↔ m.Alike m' :=
  ⟨fun h => ⟨h.name, h.strikes, fun w => h.check w w rfl⟩,
    fun h => ⟨h.name, h.strikes, h.check.related⟩⟩

theorem MonitorSet.forall₂_related_iff {ms ms' : MonitorSet σ} :
    List.Forall₂ (Registered.Related Eq) ms ms' ↔ List.Forall₂ Registered.Alike ms ms' :=
  ⟨fun h => h.imp fun _ _ => Registered.related_eq_iff.1,
    fun h => h.imp fun _ _ => Registered.related_eq_iff.2⟩

theorem Registered.Alike.refl (m : Registered σ) : m.Alike m :=
  ⟨rfl, rfl, Call.Alike.refl m.monitor.check⟩

theorem Handler.Alike.refl (h : Handler σ) : h.Alike h := ⟨rfl, Call.Alike.refl h.call⟩

theorem Handler.Alike.select {h h' : Handler σ} (hh : h.Alike h') (on : Bool) :
    (Loop.select h on).Alike (Loop.select h' on) := by
  cases on with
  | true => exact hh
  | false => exact .refl _

theorem Surroundings.Alike.related {s s' : Surroundings σ} (hs : s.Alike s') :
    s.Related (.full Eq) s' where
  sleepTime := hs.configuration.sleepTime
  reporter n n' hn := by
    rw [Comparison.full, Sight.notice_full, Sight.notice_full] at hn
    exact hn ▸ (hs.configuration.reporter n).related
  diagnostics name := (hs.configuration.diagnostics name).related
  watchdogEnabled := hs.watchdogEnabled.related
  enforcementEnabled w x hw := by
    obtain ⟨hvalue, hworld⟩ := hs.enforcementEnabled.related w x hw
    exact ⟨congrArg _ hvalue, hworld⟩
  pause time := (hs.pause time).related
  handler on _ _ h := by
    obtain rfl := h
    have hon := hs.configuration.handler.select on
    exact ⟨hon.name, hon.call.related⟩

/-- Turns that begin without a request do the same, whether or not a stop is asked for in them. -/
theorem Loop.turn_alike {s s' : Surroundings σ} (hs : s.Alike s') {ms ms' : MonitorSet σ}
    (hms : List.Forall₂ Registered.Alike ms ms') {x x' : Scene σ} (hw : x.world = x'.world)
    (hx : x.signal.requested = false) (hx' : x'.signal.requested = false) :
    (turn s ms x).Alike MonitorSet.AlikeWith (turn s' ms' x') := by
  have hturn := turn_related hs.related (MonitorSet.forall₂_related_iff.2 hms) hw
    (hx.trans hx'.symm) (Comparison.reads_full _ _)
  exact ⟨⟨MonitorSet.forall₂_related_iff.1 hturn.value.1, hturn.value.2⟩, hturn.events_eq,
    hturn.world⟩

/-! ### Runs -/

/-- Two watchdogs at one point of their lives that differ at most in requests to stop. -/
structure Watchdog.Alike (d d' : Watchdog σ) : Prop where
  surroundings : d.surroundings.Alike d'.surroundings
  lifecycle : d.lifecycle = d'.lifecycle

/-- Two runs in which the same happened. -/
structure Run.Alike (r r' : Run σ) : Prop where
  result : r.result = r'.result
  events : r.events = r'.events
  watchdog : r.watchdog.Alike r'.watchdog
  world : r.world = r'.world

namespace Watchdog

variable {d d' : Watchdog σ}

/-- Stopping a watchdog leaves all of it as it is but for the request. -/
theorem alike_stop (d : Watchdog σ) : d.Alike d.stop :=
  have hmonitors := List.forall₂_same.2 fun m (_ : m ∈ d.configuration.monitors) =>
    Registered.Alike.refl m
  ⟨⟨⟨rfl, .refl _, fun _ => .refl _, hmonitors, fun _ => .refl _⟩, .refl _, .refl _,
    fun _ => .refl _⟩, rfl⟩

theorem Alike.configuration (hd : d.Alike d') : d.configuration.Alike d'.configuration :=
  hd.surroundings.configuration

theorem Alike.related (hd : d.Alike d') : d.Related (.full Eq) d' :=
  ⟨hd.surroundings.related,
    MonitorSet.forall₂_related_iff.2 hd.surroundings.configuration.monitors, hd.lifecycle⟩

/-- What was not asked for at the end of a run was not asked for before. -/
theorem isStopped_of_run_add {allowed : ℕ} {w : σ} (hr : (d.run allowed w).result = .unfinished)
    (more : ℕ) (h : (d.run (allowed + more) w).watchdog.isStopped = false) :
    (d.run allowed w).watchdog.isStopped = false := by
  rw [run_add_eq hr more] at h
  exact (d.resume_keeps more _).requested_eq_false h

theorem after_alike (hd : d.Alike d') {p p' : Stretch σ (MonitorSet σ × Ending)}
    (hms : List.Forall₂ Registered.Alike p.value.1 p'.value.1) (he : p.value.2 = p'.value.2) :
    (d.after p).Alike (d'.after p') := by
  obtain ⟨hc, hwatchdog, henforcement, hpause⟩ := hd.surroundings
  refine ⟨⟨{ hc with monitors := hms }, hwatchdog, henforcement, hpause⟩, ?_⟩
  simp only [after, he]

/-- **Before a request, two runs do the same.** -/
theorem run_alike (hd : d.Alike d') (hready : d.Ready) (allowed : ℕ) (w : σ)
    (hr : (d.run allowed w).watchdog.isStopped = false)
    (hr' : (d'.run allowed w).watchdog.isStopped = false) :
    (d.run allowed w).Alike (d'.run allowed w) := by
  have hstop : d.SameRequests w d' w allowed := by
    intro n hn hn₁ hn₂
    obtain ⟨more, rfl⟩ := Nat.exists_eq_add_of_lt hn
    rw [isStopped_of_run_add hn₁ (more + 1) hr, isStopped_of_run_add hn₂ (more + 1) hr']
  have hrun := run_related hd.related rfl hstop (Comparison.reads_full _ _)
  have hready' : d'.Ready := ready_related hd.surroundings.related hd.lifecycle hready
  refine ⟨hrun.result, ?_, ?_, hrun.world⟩
  · have hevents := hrun.events
    rwa [Comparison.full, Sight.map_event_full, Sight.map_event_full] at hevents
  · rw [run_of_ready hready, run_of_ready hready'] at hrun ⊢
    exact after_alike hd (MonitorSet.forall₂_related_iff.1 hrun.monitors)
      (Ending.result_injective hrun.result)

end Watchdog

end Vigil
