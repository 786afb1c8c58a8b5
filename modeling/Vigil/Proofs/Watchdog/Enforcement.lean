import Vigil.Proofs.Watchdog.HandlerCalls

/-!
# The switch for the handler

Before a pass the switch for the handler is read, and by what is read a handler is selected.  Until
that handler is called, monitors, reporter and hook have their turn, and any of them may flip the
switch, or somebody else may meanwhile.  The name in the report of the end comes from reading it
once more.

* `Toggles.shared`: switches that are part of the world;
* `Call.Leaves`, `Act.Leaves`: calls and acts that leave some part of the world as it is;
* `calls_leave`: between reading the switch and calling the handler, only monitors, reporter and
  hook change the world;
* `enforcement_of_call`: when a handler that is called is the one that the switch asks for;
* `stopped_of_success`: whose name is in the report of a success.
-/

namespace Vigil

variable {σ α β γ : Type}

/-- Switches that are part of the world, so that others may flip them; what is flipped while
something is called counts as done by it. -/
def Toggles.shared (look : σ → StaticToggles) : Toggles σ :=
  ⟨Call.step fun w => ((look w).watchdog, w), Call.step fun w => ((look w).enforce, w)⟩

/-! ### Parts of the world that are left as they are -/

/-- The callee leaves what `view` sees as it is. -/
def Call.Leaves (view : σ → γ) (c : Call σ α) : Prop := ∀ w, view (c w).world = view w

/-- Monitors, reporter and hook do. -/
structure Configuration.Leaves (view : σ → γ) (c : Configuration σ) : Prop where
  monitors : ∀ m ∈ c.monitors, m.monitor.check.Leaves view
  reporter : ∀ n, (c.reporter n).Leaves view
  diagnostics : ∀ name, (c.diagnostics name).Leaves view

namespace Act

/-- An act leaves what `view` sees as it is. -/
def Leaves (view : σ → γ) (x : Act σ α) : Prop := ∀ s, view (x s).scene.world = view s.world

variable {view : σ → γ}

theorem leaves_pure (a : α) : (pure a : Act σ α).Leaves view := fun _ => rfl

theorem leaves_call {c : Call σ α} (hc : c.Leaves view) (event : Option α → Event) :
    (call c event).Leaves view := fun s => hc s.world

theorem Leaves.bind {x : Act σ α} {f : α → Act σ β} (hx : x.Leaves view)
    (hf : ∀ a, (f a).Leaves view) : (x >>= f).Leaves view :=
  fun s => (hf (x s).value (x s).scene).trans (hx s)

theorem leaves_closed : Closed (Leaves (σ := σ) view) := ⟨leaves_pure, Leaves.bind⟩

end Act

namespace Loop

variable {view : σ → γ}

theorem approach_leaves {s : Surroundings σ} (hs : s.configuration.Leaves view)
    (hread : s.toggles.enforcementEnabled.Leaves view) {ms : MonitorSet σ}
    (hms : ∀ m ∈ ms, m.monitor.check.Leaves view) : (approach s ms).Leaves view := by
  refine .bind (Act.leaves_call hread _) fun on? => ?_
  cases on? with
  | none => exact Act.leaves_pure _
  | some on =>
    have hscan := scan_closed Act.leaves_closed (fun n => Act.leaves_call (hs.reporter n) _)
      (select s.configuration.handler on) 0
      fun _ m hm => Act.leaves_call (hms m (List.mem_of_getElem? hm)) _
    refine .bind hscan fun ⟨ms', outcome⟩ => ?_
    cases outcome with
    | quiet => exact Act.leaves_pure _
    | crashed => exact Act.leaves_pure _
    | exceeded i =>
      dsimp only
      split
      · exact Act.leaves_pure _
      · exact .bind (Act.leaves_call (hs.diagnostics _) _) fun _ => Act.leaves_pure _

theorem tickCall?_leaves {s : Surroundings σ} (hs : s.configuration.Leaves view)
    (hread : s.toggles.enforcementEnabled.Leaves view) {ms : MonitorSet σ}
    (hms : ∀ m ∈ ms, m.monitor.check.Leaves view) {x : Scene σ} {c : HandlerCall σ}
    (hc : tickCall? s ms x = some c) : view c.world = view c.asked := by
  have happroach := approach_leaves hs hread hms x
  unfold tickCall? at hc
  dsimp only at hc
  split at hc
  · cases hc
  · obtain rfl := Option.some.inj hc
    exact happroach

theorem call?_leaves {s : Surroundings σ} (hs : s.configuration.Leaves view)
    (hread : s.toggles.enforcementEnabled.Leaves view) {ms : MonitorSet σ}
    (hms : ∀ m ∈ ms, m.monitor.check.Leaves view) {x : Scene σ} {c : HandlerCall σ}
    (hc : call? s ms x = some c) : view c.world = view c.asked := by
  unfold call? at hc
  split at hc
  · cases hc
  · unfold watchCall? at hc
    dsimp only at hc
    split at hc
    · exact tickCall?_leaves hs hread hms hc
    · cases hc

/-- Between reading the switch and calling the handler, only monitors, reporter and hook can change
what `view` sees. -/
theorem calls_leave {s : Surroundings σ} (hs : s.configuration.Leaves view)
    (hread : s.toggles.enforcementEnabled.Leaves view) {allowed : ℕ} {ms : MonitorSet σ}
    (hms : ∀ m ∈ ms, m.monitor.check.Leaves view) {x : Scene σ} :
    ∀ c ∈ calls s allowed ms x, view c.world = view c.asked := by
  induction allowed generalizing ms x with
  | zero => simp [calls]
  | succ allowed ih =>
    have hturned := turn_ensures s ms x
    rw [calls_turn, List.forall_mem_append]
    refine ⟨fun c hc => ?_, ?_⟩
    · rw [Option.mem_toList] at hc
      exact call?_leaves hs hread hms hc
    · split
      · simp
      · exact ih (MonitorSet.forall_monitor_of_map_descriptor (P := fun m => m.check.Leaves view)
          hturned.map_descriptor hms)

end Loop

namespace Watchdog

/-! ### The handler that is called -/

theorem handlerCalls_leave {d : Watchdog σ} {view : σ → γ} (hd : d.configuration.Leaves view)
    (hread : d.toggles.enforcementEnabled.Leaves view) {allowed : ℕ} {w : σ} :
    ∀ c ∈ d.handlerCalls allowed w, view c.world = view c.asked := by
  by_cases hready : d.Ready
  · rcases run_opened hready allowed w with ⟨hcalls, -⟩ | ⟨hcalls, -⟩
    · simp [hcalls]
    · rw [hcalls]
      exact Loop.calls_leave hd hread hd.monitors
  · simp [handlerCalls_of_not_ready hready]

/-- **The handler that is called.**  It is the configured one if the switch was on before the pass,
and else the one that does nothing.  So a run calls the configured handler only while the switch is
on exactly if the switch is never turned off between that reading and the call; and it never is if
monitors, reporter and hook leave the switch alone. -/
theorem enforcement_of_call {d : Watchdog σ} {look : σ → StaticToggles}
    (hd : d.toggles = .shared look) (allowed : ℕ) (w : σ) :
    (d.run allowed w).events.filter Event.isHandled =
        (d.handlerCalls allowed w).map HandlerCall.event ∧
      (∀ c ∈ d.handlerCalls allowed w, c.on = (look c.asked).enforce ∧
        c.handler = if c.on then d.configuration.handler else .null) ∧
      ((∀ c ∈ d.handlerCalls allowed w, c.on = true → (look c.world).enforce = true) ↔
        ∀ c ∈ d.handlerCalls allowed w,
          ¬ ((look c.asked).enforce = true ∧ (look c.world).enforce = false)) ∧
      (d.configuration.Leaves (fun w => (look w).enforce) →
        ∀ c ∈ d.handlerCalls allowed w, c.on = (look c.world).enforce) := by
  have read : ∀ c ∈ d.handlerCalls allowed w, c.on = (look c.asked).enforce ∧
      c.handler = if c.on then d.configuration.handler else .null := by
    intro c hc
    obtain ⟨es, hprepared⟩ := prepared_of_mem_handlerCalls hc
    have hread := hprepared.read
    change (d.toggles.enforcementEnabled c.asked).value = some c.on at hread
    rw [hd] at hread
    exact ⟨(Option.some.inj hread).symm, hprepared.handler⟩
  refine ⟨filter_isHandled_run d allowed w, read, ?_, fun hleaves c hc => ?_⟩
  · refine forall₂_congr fun c hc => ?_
    rw [(read c hc).1]
    cases (look c.asked).enforce <;> cases (look c.world).enforce <;> simp
  · have hread : d.toggles.enforcementEnabled.Leaves fun w => (look w).enforce := by
      rw [hd]
      exact fun _ => rfl
    rw [(read c hc).1, handlerCalls_leave hleaves hread c hc]

/-- A watchdog with a monitor that always sees a violation, none of which is tolerated, and a
handler that always succeeds.  The world consists of the switches, and either of the two may turn
the one for the handler off. -/
def flipping (byMonitor byHandler : Bool) : Watchdog StaticToggles where
  configuration :=
    { reporter := fun _ => Call.pure ()
      handler :=
        ⟨"Remedy", fun t => ⟨some true, false, { t with enforce := t.enforce && !byHandler }⟩⟩
      monitors :=
        [⟨⟨"alarm", fun t =>
          ⟨some .violation, false, { t with enforce := t.enforce && !byMonitor }⟩⟩,
          { limit := 0 }⟩] }
  toggles := .shared id

/-- If neither does, the handler is called while the switch is on. -/
theorem flipping_enforcement_of_call :
    (flipping false true).toggles = .shared id ∧
      ((flipping false true).run 1 {}).events.any Event.isHandled = true ∧
      ∀ c ∈ (flipping false true).handlerCalls 1 {}, c.on = c.world.enforce := by
  obtain ⟨-, -, -, h⟩ := enforcement_of_call (d := flipping false true) rfl 1 {}
  refine ⟨rfl, rfl, h ⟨?_, fun _ _ => rfl, fun _ _ => rfl⟩⟩
  exact List.forall_mem_singleton.2 fun t => Bool.and_true t.enforce

/-- If the monitor does, the configured handler is called although the switch is off. -/
theorem flipping_called_when_off :
    ∃ c ∈ (flipping true false).handlerCalls 1 {},
      c.event = .handled "Remedy" (some true) ∧ c.world.enforce = false :=
  ⟨_, List.mem_singleton_self _, rfl, rfl⟩

/-! ### The name in the last report -/

theorem announce_eq (d : Watchdog σ) (notice : String → Notice) :
    d.announce notice = Act.call d.toggles.enforcementEnabled .enforcementRead >>= fun
      | none => pure none
      | some on => Loop.report d.configuration
          (notice (Loop.select d.configuration.handler on).name) := by
  rw [announce, Loop.currentHandler, bind_assoc]
  refine bind_congr fun on? => ?_
  rw [pure_bind]
  cases on? <;> rfl

/-- A report that is heard has the name of the handler that the switch asks for at that moment. -/
theorem announce_read {d : Watchdog σ} {notice : String → Notice} {x : Scene σ}
    (h : (d.announce notice x).value.isNone = false) :
    ∃ on, (d.toggles.enforcementEnabled x.world).value = some on ∧
      (d.announce notice x).events =
        [.enforcementRead (some on),
          .reported (notice (Loop.select d.configuration.handler on).name)] := by
  rw [announce_eq, Act.bind_apply] at h ⊢
  dsimp only [Act.call] at h ⊢
  cases hread : (d.toggles.enforcementEnabled x.world).value with
  | none =>
    rw [hread] at h
    cases h
  | some on => exact ⟨on, rfl, rfl⟩

/-- **The name in the last report.**  If a run ends because a handler succeeded, that was the
configured handler, and it has the name in the last report of spent strikes; but the name in the
report of the end is that of the handler that the switch asks for after the call. -/
theorem stopped_of_success {d : Watchdog σ} {allowed : ℕ} {w : σ}
    (h : (d.run allowed w).result = .returned (.ok .successfullyHandled)) :
    ∃ (earlier : List (HandlerCall σ)) (c : HandlerCall σ) (before : List Event)
      (monitor : String) (strikes : Strikes) (payload : Payload) (on : Bool),
      d.handlerCalls allowed w = earlier ++ [c] ∧ c.reply.value = some true ∧
      c.handler = d.configuration.handler ∧
      (d.toggles.enforcementEnabled c.asked).value = some true ∧
      (d.toggles.enforcementEnabled c.reply.world).value = some on ∧
      (d.run allowed w).events = before ++
        [.reported (.strikesExceeded monitor d.configuration.handler.name
            d.configuration.sleepSeconds strikes payload),
          .diagnosed monitor, .handled d.configuration.handler.name (some true),
          .enforcementRead (some on),
          .reported (.stopped (if on then d.configuration.handler.name else "NullHandler")
            d.configuration.sleepSeconds .successfullyHandled)] := by
  have hcalled := run_called d allowed w
  generalize d.handlerCalls allowed w = cs at hcalled ⊢
  cases hcalled with
  | failing _ hr => exact absurd h hr
  | crashing _ _ hr => rw [hr] at h; cases h
  | @succeeding cs c before es x _ _ hc hprepared hx hes hr =>
    -- A handler that succeeds is not the one that does nothing.
    have hon : c.on = true := by
      by_contra hoff
      rw [hprepared.reply_of_off (Bool.eq_false_iff.2 hoff)] at hc
      cases hc
    have hhandler : c.handler = d.configuration.handler := hprepared.handler_of_on hon
    have htold : (d.announce (.stopped · d.configuration.sleepSeconds .successfullyHandled)
        x).value.isNone = false := by
      rw [h] at hr
      split at hr
      · cases hr
      · exact Bool.eq_false_iff.2 ‹_›
    obtain ⟨on, hread, hreported⟩ := announce_read htold
    obtain ⟨before', monitor, strikes, payload, rfl⟩ := hprepared.spent
    refine ⟨cs, c, before ++ before', monitor, strikes, payload, on, rfl, hc, hhandler,
      hon ▸ hprepared.read, hx ▸ hread, ?_⟩
    rw [hes, hreported, HandlerCall.event, hc, hhandler]
    cases on <;> simp [Loop.select, Handler.null, surroundings]

/-- With switches that nobody can flip, the report of the end has the name of the handler that
succeeded. -/
theorem flipping_stopped_of_success :
    let d := (flipping false true).withToggles (StaticToggles.toggles {})
    (d.run 1 {}).result = .returned (.ok .successfullyHandled) ∧
      .handled "Remedy" (some true) ∈ (d.run 1 {}).events ∧
      .reported (.stopped "Remedy" d.configuration.sleepSeconds .successfullyHandled) ∈
        (d.run 1 {}).events := by
  intro d
  have hresult : (d.run 1 {}).result = .returned (.ok .successfullyHandled) := rfl
  obtain ⟨_, _, _, _, _, _, on, -, -, -, -, hread, hevents⟩ := stopped_of_success hresult
  obtain rfl : true = on := Option.some.inj hread
  have hname : d.configuration.handler.name = "Remedy" := rfl
  rw [hevents, hname]
  exact ⟨hresult, by simp, by simp⟩

/-- If the handler turns its switch off, it has the other name. -/
theorem flipping_stopped_otherwise :
    (flipping false true).configuration.handler.name = "Remedy" ∧
      ((flipping false true).run 1 {}).result = .returned (.ok .successfullyHandled) ∧
      ((flipping false true).run 1 {}).events.drop 8 =
        [.handled "Remedy" (some true), .enforcementRead (some false),
          .reported (.stopped "NullHandler" (flipping false true).configuration.sleepSeconds
            .successfullyHandled)] :=
  ⟨rfl, rfl, rfl⟩

end Watchdog

end Vigil
