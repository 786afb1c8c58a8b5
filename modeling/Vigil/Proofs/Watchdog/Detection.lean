import Vigil.Proofs.Watchdog.Moments
import Vigil.Proofs.Watchdog.Related
import Vigil.Proofs.Watchdog.Remediation

/-!
# Detection and enforcement

What is detected does not depend on the switch for the handler.  Two runs whose monitors, reporter,
hook, rests and switch for monitors answer the same, and whose handlers always fail if they are
called, see the same violations, however that switch is read in each of them.

* `Sight.detection`: neither names of handlers nor readings of the switch for the handler are told
  apart;
* `Moment.SameStrikes`: the strikes at two moments, which follow from what is seen;
* `handlerCalls_read`: the reading by which a handler was selected is among the events of a run;
* `SameDetection`: the same is detected in two runs;
* `same_detection`: so it is, whatever the readings; and with the switch always off, the configured
  handler is never called.
-/

namespace Vigil

variable {σ τ : Type}

/-- Neither names of handlers nor readings of the switch for the handler are told apart. -/
def Sight.detection : Sight := ⟨fun _ => "", fun _ => true⟩

/-- So two runs are compared whose worlds are related by `R`. -/
def Comparison.detection (R : σ → τ → Prop) : Comparison σ τ :=
  { Sight.detection with related := R }

/-- In worlds with the property `I`, the handler fails and leaves such a world. -/
def Handler.Fails (I : σ → Prop) (h : Handler σ) : Prop :=
  ∀ w, I w → (h.call w).value = some false ∧ I (h.call w).world

theorem Handler.null_fails (I : σ → Prop) : (Handler.null (σ := σ)).Fails I :=
  fun _ hw => ⟨rfl, hw⟩

/-- Two handlers that fail answer the same. -/
theorem Handler.Fails.related {C : Comparison σ τ} {h : Handler σ} {h' : Handler τ}
    (hname : C.name h.name = C.name h'.name) (hh : ∀ x, h.Fails (C.related · x))
    (hh' : ∀ w, h'.Fails (C.related w ·)) : h.Related C h' := by
  refine ⟨hname, fun w x hw => ?_⟩
  obtain ⟨hvalue, hworld⟩ := hh x w hw
  obtain ⟨hvalue', hworld'⟩ := hh' _ x hworld
  exact ⟨hvalue.trans hvalue'.symm, hworld'⟩

theorem Handler.Fails.select {I : σ → Prop} {h : Handler σ} (hh : h.Fails I) (on : Bool) :
    (Loop.select h on).Fails I := by
  cases on with
  | true => exact hh
  | false => exact null_fails I

/-! ### Strikes -/

theorem MonitorSet.map_strikes_record (ms : MonitorSet σ) (i : ℕ) (v : Verdict) :
    (ms.record i v).map Registered.strikes =
      (ms.map Registered.strikes).modify i (·.record v.violated) :=
  map_modify (p := Registered.strikes) (fun _ => rfl) ms i

theorem MonitorSet.map_strikes_reset (ms : MonitorSet σ) (i : ℕ) :
    (ms.reset i).map Registered.strikes = (ms.map Registered.strikes).modify i Strikes.reset :=
  map_modify (p := Registered.strikes) (fun _ => rfl) ms i

namespace Moment

/-- At two moments the monitors have the same strikes, and the same monitor was called last. -/
structure SameStrikes (t : Moment σ) (t' : Moment τ) : Prop where
  strikes : t.monitors.map Registered.strikes = t'.monitors.map Registered.strikes
  last : t.last = t'.last

theorem SameStrikes.next {t : Moment σ} {t' : Moment τ} (h : t.SameStrikes t') (e : Event) :
    (t.next e).SameStrikes (t'.next e) := by
  obtain ⟨hstrikes, hlast⟩ := h
  fun_cases Moment.next t e with
  | case1 i name v =>
    refine ⟨?_, rfl⟩
    show List.map _ (MonitorSet.record _ i v) = List.map _ (MonitorSet.record _ i v)
    rw [MonitorSet.map_strikes_record, MonitorSet.map_strikes_record, hstrikes]
  | case2 handler success =>
    refine ⟨?_, hlast⟩
    show List.map _ (MonitorSet.reset _ _) = List.map _ (MonitorSet.reset _ _)
    rw [MonitorSet.map_strikes_reset, MonitorSet.map_strikes_reset, hstrikes, hlast]
  | case3 e hchecked hhandled =>
    have hnext : t'.next e = t' := by
      fun_cases Moment.next t' e with
      | case1 => exact absurd rfl (hchecked _ _ _)
      | case2 => exact absurd rfl (hhandled _ _)
      | case3 => rfl
    rw [hnext]
    exact ⟨hstrikes, hlast⟩

theorem SameStrikes.after {t : Moment σ} {t' : Moment τ} (h : t.SameStrikes t')
    (es : List Event) : (t.after es).SameStrikes (t'.after es) := by
  induction es generalizing t t' with
  | nil => exact h
  | cons e es ih => exact ih (h.next e)

/-- Strikes follow from what is seen of the events. -/
theorem next_event (g : Sight) (t : Moment σ) (e : Event) : t.next (g.event e) = t.next e := by
  cases e with
  | checked i name verdict => cases verdict <;> rfl
  | handled handler success => cases success <;> rfl
  | _ => rfl

theorem after_map_event (g : Sight) (t : Moment σ) (es : List Event) :
    t.after (es.map g.event) = t.after es := by
  induction es generalizing t with
  | nil => rfl
  | cons e es ih => rw [List.map_cons, after_cons, after_cons, next_event, ih]

end Moment

namespace Loop

/-! ### Readings -/

/-- The reading by which a handler is selected is the first event of the pass. -/
theorem tickCall?_read {s : Surroundings σ} {ms : MonitorSet σ} {x : Scene σ} {c : HandlerCall σ}
    (h : tickCall? s ms x = some c) : .enforcementRead (some c.on) ∈ (tick s ms x).events := by
  have hevents : ∃ es, (tick s ms x).events =
      .enforcementRead (s.toggles.enforcementEnabled x.world).value :: es := ⟨_, rfl⟩
  obtain ⟨es, hes⟩ := hevents
  unfold tickCall? at h
  dsimp only at h
  split at h
  · cases h
  next due hdue =>
    obtain rfl := Option.some.inj h
    rw [hes, approach_on hdue]
    exact List.mem_cons_self

theorem watchCall?_read {s : Surroundings σ} {ms : MonitorSet σ} {x : Scene σ} {c : HandlerCall σ}
    (h : watchCall? s ms x = some c) : .enforcementRead (some c.on) ∈ (watch s ms x).events := by
  rw [watch, Act.bind_eq_andThen]
  unfold watchCall? at h
  dsimp only at h
  generalize Act.call s.toggles.watchdogEnabled .watchdogRead x = p at h ⊢
  obtain ⟨on?, es, y⟩ := p
  split at h
  next hon =>
    obtain rfl : on? = some true := hon
    exact List.mem_append_right es (tickCall?_read h)
  · cases h

theorem call?_read {s : Surroundings σ} {ms : MonitorSet σ} {x : Scene σ} {c : HandlerCall σ}
    (h : call? s ms x = some c) : .enforcementRead (some c.on) ∈ (turn s ms x).events := by
  unfold call? at h
  split at h
  · cases h
  next hgo =>
    obtain ⟨hx, hms⟩ : x.signal.requested = false ∧ ms ≠ [] := by simpa using hgo
    rw [turn_of_ne_nil s hms hx]
    exact List.mem_append_left _ (watchCall?_read h)

theorem calls_read {s : Surroundings σ} {allowed : ℕ} {ms : MonitorSet σ} {x : Scene σ}
    {c : HandlerCall σ} (hc : c ∈ calls s allowed ms x) :
    .enforcementRead (some c.on) ∈ (turns s allowed ms x).events := by
  induction allowed generalizing ms x with
  | zero => cases hc
  | succ allowed ih =>
    have hturn (h : call? s ms x = some c) := call?_read h
    rw [turns_succ]
    rw [calls_turn, List.mem_append, Option.mem_toList] at hc
    generalize turn s ms x = p at hturn hc ⊢
    obtain ⟨⟨ms', ending⟩, es, y⟩ := p
    rcases hc with hc | hc
    · exact List.mem_append_left _ (hturn hc)
    · cases ending with
      | some e => cases hc
      | none => exact List.mem_append_right es (ih hc)

end Loop

namespace Watchdog

theorem handlerCalls_read {d : Watchdog σ} {allowed : ℕ} {w : σ} {c : HandlerCall σ}
    (hc : c ∈ d.handlerCalls allowed w) :
    .enforcementRead (some c.on) ∈ (d.run allowed w).events := by
  by_cases hd : d.Ready
  · rcases run_opened hd allowed w with ⟨hcalls, -⟩ | ⟨hcalls, -, hevents⟩
    · rw [hcalls] at hc
      cases hc
    · rw [hcalls] at hc
      rw [hevents, resume, Act.bind_apply]
      exact List.mem_append_right _ (List.mem_append_left _ (Loop.calls_read hc))
  · rw [handlerCalls_of_not_ready hd] at hc
    cases hc

/-! ### Runs -/

/-- If the switch is always off, all that is called is the handler that does nothing. -/
theorem handler_eq_null_of_off {d : Watchdog σ} {allowed : ℕ} {w : σ}
    (hoff : .enforcementRead (some true) ∉ (d.run allowed w).events) {c : HandlerCall σ}
    (hc : c ∈ d.handlerCalls allowed w) :
    c.handler = .null ∧ c.event = .handled "NullHandler" (some false) := by
  have hon : c.on = false := by
    have hread := handlerCalls_read hc
    cases hon : c.on with
    | false => rfl
    | true =>
      rw [hon] at hread
      exact absurd hread hoff
  obtain ⟨es, hprepared⟩ := prepared_of_mem_handlerCalls hc
  have hhandler : c.handler = .null := by
    rw [hprepared.handler, hon]
    rfl
  exact ⟨hhandler, by rw [HandlerCall.event, HandlerCall.reply, hhandler]; rfl⟩

/-- The same is detected in two runs: they end in the same way, the same happens in them but for
handlers and their switch, and the strikes are the same after each event. -/
structure SameDetection (d : Watchdog σ) (r : Run σ) (d' : Watchdog τ) (r' : Run τ) : Prop where
  result : r.result = r'.result
  events : r.events.map Sight.detection.event = r'.events.map Sight.detection.event
  strikes : ∀ n,
    (d.outset.after (r.events.take n)).monitors.map Registered.strikes =
      (d'.outset.after (r'.events.take n)).monitors.map Registered.strikes

theorem SameDetection.of_related {R : σ → τ → Prop} {d : Watchdog σ} {d' : Watchdog τ} {r : Run σ}
    {r' : Run τ}
    (hms : List.Forall₂ (Registered.Related R) d.configuration.monitors d'.configuration.monitors)
    {C : Comparison σ τ} (hC : C.toSight = .detection) (h : r.Related C r') :
    SameDetection d r d' r' := by
  have hevents := h.events
  rw [hC] at hevents
  refine ⟨h.result, hevents, fun n => ?_⟩
  have hstart : d.outset.SameStrikes d'.outset := ⟨MonitorSet.map_strikes_related hms, rfl⟩
  rw [← Moment.after_map_event .detection, ← Moment.after_map_event .detection d'.outset,
    List.map_take, List.map_take, hevents]
  exact (hstart.after _).strikes

/-- **Enforcement does not influence detection.**  Let all that bears on detection answer the same
in two runs that find the same requests to stop, and let their handlers always fail, the one of the
first run only if it is ever called.  Then the same is detected in both, however the switch for the
handler is read in each of them.

With the switch always off, the configured handler, which may be any, is never called, and the run
does not end because of a handler. -/
theorem same_detection (d : Watchdog σ) (allowed : ℕ) (w : σ) :
    (∀ {τ : Type} {R : σ → τ → Prop} {d' : Watchdog τ} {x : τ},
        d.NearlyRelated (.detection R) d' → R w x → d.SameRequests w d' x allowed →
        (∀ w, d'.configuration.handler.Fails (R w ·)) →
        (∀ x, d.configuration.handler.Fails (R · x)) ∨
          .enforcementRead (some true) ∉ (d.run allowed w).events →
        SameDetection d (d.run allowed w) d' (d'.run allowed x)) ∧
      (.enforcementRead (some true) ∉ (d.run allowed w).events →
        (d.run allowed w).events.filter Event.isHandled =
            (d.handlerCalls allowed w).map HandlerCall.event ∧
          (∀ c ∈ d.handlerCalls allowed w,
            c.handler = .null ∧ c.event = .handled "NullHandler" (some false)) ∧
          (d.run allowed w).result ≠ .returned (.ok .successfullyHandled)) := by
  refine ⟨?_, fun hoff => ⟨filter_isHandled_run d allowed w, fun c => handler_eq_null_of_off hoff,
    fun hr => ?_⟩⟩
  · intro τ R d' x hd hw hstop hfails' hfails
    rcases hfails with hfails | hoff
    · refine .of_related hd.monitors rfl (run_related (hd.related ?_) hw hstop fun _ _ => trivial)
      intro on on' _ _
      exact Handler.Fails.related rfl (fun x => (hfails x).select on)
        fun w => (hfails' w).select on'
    · -- No reading selects the configured handler, so nothing has to be known of it.
      refine .of_related hd.monitors rfl
        (run_related ((hd.withRead (· = false)).related ?_) hw hstop ?_)
      · rintro _ on' rfl _
        exact Handler.Fails.related rfl (fun _ => Handler.null_fails _)
          fun w => (hfails' w).select on'
      · intro on hon
        cases on with
        | false => rfl
        | true => exact absurd hon hoff
  · obtain ⟨c, hc, hreply⟩ := (run_succeeds_iff d allowed w).2 (.inl hr)
    have hevent := (handler_eq_null_of_off hoff hc).2
    rw [HandlerCall.event, hreply] at hevent
    simp at hevent

/-- The switch for the handler is read, and is on. -/
def Event.isReadOn : Event → Bool
  | .enforcementRead on => on == some true
  | _ => false

/-- A watchdog over a monitor that always sees a violation and asks for a stop in the fourth turn.
The switch for the handler is read off a list that stands beside the number of the turn; after the
end of the list it is off. -/
def switching (handler : Handler (ℕ × List Bool)) : Watchdog (ℕ × List Bool) where
  configuration :=
    { reporter := fun _ => Call.pure ()
      handler
      monitors := [⟨⟨"alarm", fun w => ⟨some .violation, w.1 == 3, w⟩⟩, { limit := 1 }⟩] }
  toggles := ⟨Call.pure true, fun w => ⟨some (w.2.headD false), false, (w.1, w.2.tail)⟩⟩
  pause := .custom fun _ w => ⟨some (), false, (w.1 + 1, w.2)⟩

theorem switching_nearlyRelated (h h' : Handler (ℕ × List Bool)) :
    (switching h).NearlyRelated (.detection fun w x => w.1 = x.1) (switching h') where
  surroundings :=
    { sleepTime := rfl
      reporter := fun _ _ _ _ _ hw => ⟨rfl, hw⟩
      diagnostics := fun _ _ _ hw => ⟨rfl, hw⟩
      watchdogEnabled := fun _ _ hw => ⟨rfl, hw⟩
      enforcementEnabled := fun _ _ hw => ⟨rfl, hw⟩
      pause := fun _ _ _ hw => ⟨rfl, congrArg (· + 1) hw⟩ }
  monitors := .cons ⟨rfl, rfl, fun _ _ hw => ⟨rfl, hw⟩⟩ .nil
  lifecycle := rfl

/-- Read in three ways, with handlers that fail, and with one that would succeed but is never
called. -/
theorem switching_same_detection :
    let failing := switching ⟨"Failing", Call.pure false⟩
    let succeeding := switching ⟨"Succeeding", Call.pure true⟩
    SameDetection failing (failing.run 6 (0, [true, false, true])) failing (failing.run 6 (0, [])) ∧
      SameDetection succeeding (succeeding.run 6 (0, [])) failing
        (failing.run 6 (0, List.replicate 9 true)) ∧
      (succeeding.run 6 (0, [])).result ≠ .returned (.ok .successfullyHandled) ∧
      (failing.run 6 (0, [])).result = .returned (.ok .backgroundTaskStopped) := by
  intro failing succeeding
  have hoff : .enforcementRead (some true) ∉ (succeeding.run 6 (0, [])).events := by
    intro hread
    have hany : (succeeding.run 6 (0, [])).events.any Event.isReadOn = false := by decide
    exact List.any_eq_false.1 hany _ hread rfl
  have hstop : failing.SameRequests (0, [true, false, true]) failing (0, []) 6 := by
    have hall : ∀ n < 6, (failing.run n (0, [true, false, true])).watchdog.isStopped =
        (failing.run n (0, [])).watchdog.isStopped := by decide
    exact fun n hn _ _ => hall n hn
  have hstop' : succeeding.SameRequests (0, []) failing (0, List.replicate 9 true) 6 := by
    have hall : ∀ n < 6, (succeeding.run n (0, [])).watchdog.isStopped =
        (failing.run n (0, List.replicate 9 true)).watchdog.isStopped := by decide
    exact fun n hn _ _ => hall n hn
  refine ⟨?_, ?_, ?_, rfl⟩
  · exact (same_detection failing 6 _).1 (switching_nearlyRelated _ _) rfl hstop
      (fun _ _ hw => ⟨rfl, hw⟩) (.inl fun _ _ hw => ⟨rfl, hw⟩)
  · exact (same_detection succeeding 6 _).1 (switching_nearlyRelated _ _) rfl hstop'
      (fun _ _ hw => ⟨rfl, hw⟩) (.inr hoff)
  · exact ((same_detection succeeding 6 _).2 hoff).2.2

end Watchdog

end Vigil
