import Vigil.Proofs.Watchdog.Moments
import Vigil.Proofs.Watchdog.Requests

/-!
# Turns with the switch off

A turn that finds the switch off leaves nothing behind but that reading and a pause.  So two runs
whose switch is read off two lists do the same if the lists only differ in readings that find it
off.

* `Call.beside`, `Configuration.beside`: what is called, in a world with something beside it that
  it does not see;
* `Watchdog.driven`: a watchdog with a list of readings beside its world;
* `Act.Blind`: acts that do not depend on the list; `tick_blind`, `announce_blind`;
* `Thinned`: events without the turns that find the switch off;
* `turns_thin`, `disabled_turns_invisible`: turns and runs with and without them.
-/

namespace Vigil

variable {ρ κ σ α β : Type}

/-! ### Worlds with something beside them -/

/-- A call in a world with something beside it that the callee does not see. -/
def Call.beside (κ : Type) (c : Call ρ α) : Call (ρ × κ) α := fun w =>
  let r := c w.1
  ⟨r.value, r.stop, (r.world, w.2)⟩

/-- A monitor with such a call. -/
def Registered.beside (κ : Type) (m : Registered ρ) : Registered (ρ × κ) :=
  ⟨⟨m.name, m.monitor.check.beside κ⟩, m.strikes⟩

/-- A handler with such a call. -/
def Handler.beside (κ : Type) (h : Handler ρ) : Handler (ρ × κ) := ⟨h.name, h.call.beside κ⟩

/-- A configuration whose parts do not see what stands beside the world. -/
def Configuration.beside (κ : Type) (c : Configuration ρ) : Configuration (ρ × κ) where
  sleepTime := c.sleepTime
  handler := c.handler.beside κ
  reporter n := (c.reporter n).beside κ
  monitors := c.monitors.map (Registered.beside κ)
  diagnostics name := (c.diagnostics name).beside κ

/-- The watchdog with readings of its switch beside the world.  Each turn takes the next of them,
and the pause after the last asks for a stop. -/
def Watchdog.driven (d : Watchdog ρ) : Watchdog (ρ × List Bool) where
  configuration := d.configuration.beside (List Bool)
  toggles :=
    ⟨fun w => ⟨some (w.2.headD false), false, (w.1, w.2.tail)⟩,
      d.toggles.enforcementEnabled.beside (List Bool)⟩
  pause := .custom fun _ w => ⟨some (), w.2.isEmpty, w⟩
  signal := d.signal
  lifecycle := d.lifecycle

/-- The switch for monitors was found off. -/
def Event.isOff : Event → Bool
  | .watchdogRead (some false) => true
  | _ => false

namespace Act

/-- An act that does not look at what stands beside the world, and in which the switch is not found
off. -/
def Blind (a : Act (ρ × κ) α) : Prop :=
  ∀ x, ∃ v es y wanted, (∀ e ∈ es, e.isOff = false) ∧
    ∀ k signal, a ⟨(x, k), signal⟩ = ⟨v, es, ⟨(y, k), signal.requestIf wanted⟩⟩

theorem blind_pure (a : α) : (pure a : Act (ρ × κ) α).Blind :=
  fun x => ⟨a, [], x, false, by simp, fun _ _ => rfl⟩

theorem blind_call (c : Call ρ α) {event : Option α → Event}
    (hevent : ∀ r, (event r).isOff = false) : (call (c.beside κ) event).Blind :=
  fun x => ⟨(c x).value, [event (c x).value], (c x).world, (c x).stop, by simp [hevent],
    fun _ _ => rfl⟩

theorem Blind.bind {a : Act (ρ × κ) α} {f : α → Act (ρ × κ) β} (ha : a.Blind)
    (hf : ∀ v, (f v).Blind) : (a >>= f).Blind := by
  intro x
  obtain ⟨v, es, y, wanted, hes, ha⟩ := ha x
  obtain ⟨v', es', z, wanted', hes', hf⟩ := hf v y
  refine ⟨v', es ++ es', z, wanted || wanted', ?_, fun k signal => ?_⟩
  · exact List.forall_mem_append.2 ⟨hes, hes'⟩
  · rw [bind_apply, ha, hf]
    cases wanted <;> cases wanted' <;> rfl

theorem blind_closed : Closed (σ := ρ × κ) Blind := ⟨blind_pure, Blind.bind⟩

end Act

/-- No monitor sees what stands beside the world. -/
def MonitorSet.Blind (ms : MonitorSet (ρ × κ)) : Prop :=
  ∀ m ∈ ms, ∃ check : Call ρ Verdict, m.monitor.check = check.beside κ

theorem MonitorSet.Blind.of_map_descriptor {ms ms' : MonitorSet (ρ × κ)} (h : MonitorSet.Blind ms)
    (hms : ms'.map Registered.descriptor = ms.map Registered.descriptor) : MonitorSet.Blind ms' :=
  MonitorSet.forall_monitor_of_map_descriptor
    (P := fun m => ∃ check : Call ρ Verdict, m.check = check.beside κ) hms h

namespace Watchdog

variable (d : Watchdog ρ)

theorem driven_uses : Loop.Uses Act.Blind d.driven.surroundings where
  enforcement := Act.blind_call _ fun _ => rfl
  reporter _ := Act.blind_call _ fun _ => rfl
  diagnostics _ := Act.blind_call _ fun _ => rfl
  handler on := by
    cases on with
    | true => exact Act.blind_call _ fun _ => rfl
    -- The handler that does nothing is the same in any world.
    | false => exact Act.blind_call (Call.pure false) fun _ => rfl

theorem driven_blind : MonitorSet.Blind d.driven.configuration.monitors := by
  intro m hm
  obtain ⟨m, -, rfl⟩ := List.mem_map.1 hm
  exact ⟨_, rfl⟩

theorem tick_blind {ms : MonitorSet (ρ × List Bool)} (hms : MonitorSet.Blind ms) :
    (Loop.tick d.driven.surroundings ms).Blind := by
  refine Loop.tick_closed Act.blind_closed d.driven_uses fun _ m hm => ?_
  obtain ⟨check, hcheck⟩ := hms m (List.mem_of_getElem? hm)
  rw [hcheck]
  exact Act.blind_call check fun _ => rfl

theorem announce_blind (notice : String → Notice) : (d.driven.announce notice).Blind :=
  announce_closed Act.blind_closed d.driven_uses notice

theorem conclude_blind (r : MonitorSet (ρ × List Bool) × Ending) : (d.driven.conclude r).Blind :=
  conclude_closed Act.blind_closed d.driven_uses r

end Watchdog

/-! ### Events without the turns that find the switch off -/

/-- The second list of events is the first without the turns that find the switch off. -/
inductive Thinned : List Event → List Event → Prop
  | nil : Thinned [] []
  | kept {e : Event} {es es' : List Event} (he : e.isOff = false) (h : Thinned es es') :
      Thinned (e :: es) (e :: es')
  | skipped (time : Duration) {es es' : List Event} (h : Thinned es es') :
      Thinned (.watchdogRead (some false) :: .paused time :: es) es'

namespace Thinned

variable {es es' : List Event}

theorem refl (hes : ∀ e ∈ es, e.isOff = false) : Thinned es es := by
  induction es with
  | nil => exact .nil
  | cons e es ih =>
    obtain ⟨he, hes⟩ := List.forall_mem_cons.1 hes
    exact .kept he (ih hes)

theorem append {fs fs' : List Event} (h : Thinned es es') (h' : Thinned fs fs') :
    Thinned (es ++ fs) (es' ++ fs') := by
  induction h with
  | nil => exact h'
  | kept he _ ih => exact .kept he ih
  | skipped time _ ih => exact .skipped time ih

/-- What is left out are as many pauses as turns that find the switch off. -/
theorem countP_isPaused (h : Thinned es es') :
    es.countP Event.isPaused = es'.countP Event.isPaused + es.countP Event.isOff ∧
      es'.countP Event.isOff = 0 := by
  induction h with
  | nil => exact ⟨rfl, rfl⟩
  | kept he _ ih =>
    obtain ⟨hpaused, hoff⟩ := ih
    rw [List.countP_cons, List.countP_cons, List.countP_cons, List.countP_cons, he, hpaused, hoff]
    exact ⟨by simp; omega, rfl⟩
  | skipped _ _ ih =>
    obtain ⟨hpaused, hoff⟩ := ih
    simp only [List.countP_cons, Event.isPaused, Event.isOff, hpaused, hoff]
    exact ⟨by simp; omega, trivial⟩

end Thinned

/-- All events but the readings of the switch for monitors, and the pauses. -/
def Event.isSeen : Event → Bool
  | .watchdogRead _ => false
  | .paused _ => false
  | _ => true

/-- Those events, and the strikes of all monitors after each. -/
def Moment.sightings (t : Moment σ) : List Event → List (Event × List Strikes)
  | [] => []
  | e :: es =>
    let seen := (t.next e).sightings es
    if e.isSeen then (e, (t.next e).monitors.map Registered.strikes) :: seen else seen

theorem Thinned.sightings_eq {es es' : List Event} (h : Thinned es es') (t : Moment σ) :
    t.sightings es = t.sightings es' := by
  induction h generalizing t with
  | nil => rfl
  | kept _ _ ih => simp only [Moment.sightings, ih]
  | skipped _ _ ih => exact ih t

/-- The second stretch comes to what the first does, without the turns that find the switch off. -/
structure Stretch.Thins (p q : Stretch (ρ × κ) α) : Prop where
  value : p.value = q.value
  events : Thinned p.events q.events
  world : p.scene.world.1 = q.scene.world.1

theorem Stretch.Thins.andThen {p q : Stretch (ρ × κ) α} (h : p.Thins q)
    {f g : α → Act (ρ × κ) β} (hfg : (f p.value p.scene).Thins (g q.value q.scene)) :
    (p.andThen f).Thins (q.andThen g) :=
  ⟨hfg.value, h.events.append hfg.events, hfg.world⟩

theorem Act.Blind.thins {a : Act (ρ × κ) α} (ha : a.Blind) {s t : Scene (ρ × κ)}
    (hst : s.world.1 = t.world.1) : (a s).Thins (a t) := by
  obtain ⟨⟨x, k⟩, signal⟩ := s
  obtain ⟨⟨_, k'⟩, signal'⟩ := t
  obtain rfl := hst
  obtain ⟨v, es, y, wanted, hes, ha⟩ := ha x
  rw [ha, ha]
  exact ⟨rfl, .refl hes, rfl⟩

namespace Loop

/-! ### Turns -/

variable (d : Watchdog ρ) {ms : MonitorSet (ρ × List Bool)}

/-- A turn that finds the switch off does nothing but rest. -/
theorem turn_off (hms : ms ≠ []) (x : ρ) (w : List Bool) {signal : StopSignal}
    (hsignal : signal.requested = false) :
    turn d.driven.surroundings ms ⟨(x, false :: w), signal⟩ =
      ⟨(ms, none), [.watchdogRead (some false), .paused d.configuration.sleepTime],
        ⟨(x, w), signal.requestIf w.isEmpty⟩⟩ := by
  rw [turn_of_ne_nil _ hms hsignal]
  rfl

theorem watch_on (ms : MonitorSet (ρ × List Bool)) (x : ρ) (w : List Bool) (signal : StopSignal) :
    watch d.driven.surroundings ms ⟨(x, true :: w), signal⟩ =
      (Stretch.mk () [.watchdogRead (some true)] ⟨(x, w), signal⟩).andThen
        fun _ => tick d.driven.surroundings ms := rfl

/-- What a turn that finds the switch on comes to does not depend on the readings that are left,
but that the pause after the last asks for a stop. -/
theorem turn_on (hms : ms ≠ []) (hblind : MonitorSet.Blind ms) (x : ρ) {signal : StopSignal}
    (hsignal : signal.requested = false) :
    ∃ ms' es y signal', (∀ e ∈ es, e.isOff = false) ∧
      ((∃ e, e ≠ .unfinished ∧ ∀ w, turn d.driven.surroundings ms ⟨(x, true :: w), signal⟩ =
          ⟨(ms', some e), es, ⟨(y, w), signal'⟩⟩) ∨
        ms' ≠ [] ∧ MonitorSet.Blind ms' ∧
          ∀ w, turn d.driven.surroundings ms ⟨(x, true :: w), signal⟩ =
            ⟨(ms', none), es, ⟨(y, w), signal'.requestIf w.isEmpty⟩⟩) := by
  obtain ⟨⟨ms', handled⟩, es, y, wanted, hes, htick⟩ := d.tick_blind hblind x
  have hticked : Ticked d.driven.surroundings ms es ms' handled := by
    have hticked := tick_ensures d.driven.surroundings ms ⟨(x, []), signal⟩
    rwa [htick] at hticked
  have hturn (w : List Bool) : turn d.driven.surroundings ms ⟨(x, true :: w), signal⟩ =
      (Stretch.mk (ms', handled) (.watchdogRead (some true) :: es)
        ⟨(y, w), signal.requestIf wanted⟩).andThen (settle d.driven.surroundings) := by
    have hwatch := watch_on d ms x w signal
    rw [Stretch.andThen, htick] at hwatch
    rw [turn_of_ne_nil _ hms hsignal, Act.bind_eq_andThen, hwatch]
    rfl
  have hread : ∀ e ∈ .watchdogRead (some true) :: es, e.isOff = false :=
    List.forall_mem_cons.2 ⟨rfl, hes⟩
  cases handled with
  | none =>
    refine ⟨ms', _, y, signal.requestIf wanted, hread, .inl ⟨.crashed, by simp, fun w => ?_⟩⟩
    rw [hturn, Stretch.andThen, settle, Act.pure_apply, List.append_nil]
  | some success =>
    cases success with
    | true =>
      refine ⟨ms', _, y, signal.requestIf wanted, hread,
        .inl ⟨.done .successfullyHandled, by simp, fun w => ?_⟩⟩
      rw [hturn, Stretch.andThen, settle, Act.pure_apply, List.append_nil]
    | false =>
      refine ⟨ms', .watchdogRead (some true) :: es ++ [.paused d.configuration.sleepTime], y,
        signal.requestIf wanted, ?_, .inr ⟨?_, hblind.of_map_descriptor hticked.map_descriptor,
          fun w => ?_⟩⟩
      · exact List.forall_mem_append.2 ⟨hread, List.forall_mem_singleton.2 rfl⟩
      · rintro rfl
        exact hms (List.map_eq_nil_iff.1 hticked.map_descriptor.symm)
      · rw [hturn]
        rfl

theorem turns_of_requested (s : Surroundings σ) (allowed : ℕ) (ms : MonitorSet σ) {x : Scene σ}
    (hx : x.signal.requested = true) :
    turns s (allowed + 1) ms x = ⟨(ms, .done .backgroundTaskStopped), [], x⟩ := by
  rw [turns_succ, turn_of_requested s ms hx]
  rfl

/-- After a pause, turns go on as if there were only the readings that find the switch on. -/
theorem turns_thin (hms : ms ≠ []) (hblind : MonitorSet.Blind ms) (x : ρ) (w : List Bool)
    (signal : StopSignal) :
    (turns d.driven.surroundings (w.length + 1) ms
        ⟨(x, w), signal.requestIf w.isEmpty⟩).value.2 ≠ .unfinished ∧
      (turns d.driven.surroundings (w.length + 1) ms
        ⟨(x, w), signal.requestIf w.isEmpty⟩).Thins
        (turns d.driven.surroundings ((w.filter id).length + 1) ms
          ⟨(x, w.filter id), signal.requestIf (w.filter id).isEmpty⟩) := by
  induction w generalizing ms x signal with
  | nil =>
    rw [turns_of_requested _ _ ms (by simp)]
    exact ⟨nofun, rfl, .nil, rfl⟩
  | cons on w ih =>
    by_cases hsignal : signal.requested = true
    -- If a stop was asked for, there are no more turns, whatever the readings.
    · rw [turns_of_requested _ _ ms (by simp [hsignal]),
        turns_of_requested _ _ ms (by simp [hsignal])]
      exact ⟨nofun, rfl, .nil, rfl⟩
    rw [Bool.not_eq_true] at hsignal
    rw [turns_succ, show signal.requestIf (on :: w).isEmpty = signal from rfl]
    cases on with
    | false =>
      rw [turn_off d hms x w hsignal]
      obtain ⟨hunfinished, hthin⟩ := ih hms hblind x signal
      exact ⟨hunfinished, hthin.value, .skipped _ hthin.events, hthin.world⟩
    | true =>
      rw [List.filter_cons_of_pos rfl, turns_succ,
        show signal.requestIf (true :: w.filter id).isEmpty = signal from rfl]
      obtain ⟨ms', es, y, signal', hes, ⟨e, he, hturn⟩ | ⟨hms', hblind', hturn⟩⟩ :=
        turn_on d hms hblind x hsignal
      · rw [hturn, hturn]
        refine ⟨he, .andThen ?_ ⟨rfl, .nil, rfl⟩⟩
        exact ⟨rfl, .refl hes, rfl⟩
      · rw [hturn, hturn]
        obtain ⟨hunfinished, hthin⟩ := ih hms' hblind' y signal'
        refine ⟨hunfinished, .andThen ?_ hthin⟩
        exact ⟨rfl, .refl hes, rfl⟩

/-- The first turn comes after no pause; there is a reading for it either way. -/
theorem turns_thin_of_mem (hblind : MonitorSet.Blind ms) (x : ρ) {w : List Bool} (hw : true ∈ w)
    (signal : StopSignal) :
    (turns d.driven.surroundings (w.length + 1) ms ⟨(x, w), signal⟩).value.2 ≠ .unfinished ∧
      (turns d.driven.surroundings (w.length + 1) ms ⟨(x, w), signal⟩).Thins
        (turns d.driven.surroundings ((w.filter id).length + 1) ms
          ⟨(x, w.filter id), signal⟩) := by
  by_cases hms : ms = []
  · subst hms
    rw [turns_succ, turns_succ]
    cases hsignal : signal.requested with
    | true =>
      rw [turn_of_requested _ _ hsignal, turn_of_requested _ _ hsignal]
      exact ⟨nofun, rfl, .nil, rfl⟩
    | false =>
      rw [turn_nil _ hsignal, turn_nil _ hsignal]
      exact ⟨nofun, rfl, .nil, rfl⟩
  · have hfilter : true ∈ w.filter id := List.mem_filter.2 ⟨hw, rfl⟩
    have hthin := turns_thin d hms hblind x w signal
    rwa [List.isEmpty_eq_false_iff.2 (List.ne_nil_of_mem hw),
      List.isEmpty_eq_false_iff.2 (List.ne_nil_of_mem hfilter)] at hthin

end Loop

namespace Watchdog

/-! ### Runs -/

theorem resume_thin (d : Watchdog ρ) {ms : MonitorSet (ρ × List Bool)}
    (hblind : MonitorSet.Blind ms) (x : ρ) {w : List Bool} (hw : true ∈ w) (signal : StopSignal) :
    (d.driven.resume (w.length + 1) ms ⟨(x, w), signal⟩).value.2 ≠ .unfinished ∧
      (d.driven.resume (w.length + 1) ms ⟨(x, w), signal⟩).Thins
        (d.driven.resume ((w.filter id).length + 1) ms ⟨(x, w.filter id), signal⟩) := by
  obtain ⟨hunfinished, hthin⟩ := Loop.turns_thin_of_mem d hblind x hw signal
  refine ⟨fun hresume => ?_, hthin.andThen ?_⟩
  · exact hunfinished (d.driven.conclude_of_unfinished hresume).1
  · rw [hthin.value]
    exact (d.conclude_blind _).thins hthin.world

theorem session_thin (d : Watchdog ρ) (x : ρ) {w : List Bool} (hw : true ∈ w) :
    (d.driven.session (w.length + 1) ⟨(x, w), d.signal⟩).value.2 ≠ .unfinished ∧
      (d.driven.session (w.length + 1) ⟨(x, w), d.signal⟩).Thins
        (d.driven.session ((w.filter id).length + 1) ⟨(x, w.filter id), d.signal⟩) := by
  obtain ⟨began, es, y, wanted, hes, hannounce⟩ :=
    d.announce_blind (.started · d.driven.configuration.sleepSeconds) x
  rw [session_eq, session_eq, Act.bind_eq_andThen, Act.bind_eq_andThen, hannounce, hannounce]
  cases began with
  | none =>
    refine ⟨nofun, .andThen ?_ ⟨rfl, .nil, rfl⟩⟩
    exact ⟨rfl, .refl hes, rfl⟩
  | some _ =>
    obtain ⟨hunfinished, hthin⟩ := d.resume_thin d.driven_blind y hw (d.signal.requestIf wanted)
    refine ⟨hunfinished, .andThen ?_ hthin⟩
    exact ⟨rfl, .refl hes, rfl⟩

/-- **Turns with the switch off are invisible.**  A run whose switch is read off a list does what it
does with only those readings of the list that find the switch on: the same happens but for the
turns that find it off, after each event all monitors have the same strikes, and of the pauses
there are as many more as there are such turns.  In such a turn nothing is called but the pause. -/
theorem disabled_turns_invisible (d : Watchdog ρ) (x : ρ) {w : List Bool} (hw : true ∈ w) :
    let r := d.driven.run (w.length + 1) (x, w)
    let r' := d.driven.run ((w.filter id).length + 1) (x, w.filter id)
    r.result = r'.result ∧ r.result ≠ .unfinished ∧
      Thinned r.events r'.events ∧
      d.driven.outset.sightings r.events = d.driven.outset.sightings r'.events ∧
      r.events.countP Event.isPaused =
        r'.events.countP Event.isPaused + r.events.countP Event.isOff ∧
      r.watchdog.configuration = r'.watchdog.configuration ∧ r.world.1 = r'.world.1 ∧
      ∀ (ms : MonitorSet (ρ × List Bool)) (y : ρ) (readings : List Bool) (signal : StopSignal),
        ms ≠ [] → signal.requested = false →
          Loop.turn d.driven.surroundings ms ⟨(y, false :: readings), signal⟩ =
            ⟨(ms, none), [.watchdogRead (some false), .paused d.configuration.sleepTime],
              ⟨(y, readings), signal.requestIf readings.isEmpty⟩⟩ := by
  intro r r'
  have hoff (ms : MonitorSet (ρ × List Bool)) (y : ρ) (readings : List Bool)
      (signal : StopSignal) (hms : ms ≠ []) (hsignal : signal.requested = false) :=
    Loop.turn_off d hms y readings hsignal
  by_cases hd : d.driven.Ready
  · have hr : r = _ := run_of_ready hd (w.length + 1) (x, w)
    have hr' : r' = _ := run_of_ready hd ((w.filter id).length + 1) (x, w.filter id)
    obtain ⟨hunfinished, hvalue, hevents, hworld⟩ := d.session_thin x hw
    rw [hr, hr']
    refine ⟨congrArg (fun v => v.2.result) hvalue,
      fun hresult => hunfinished (Ending.eq_unfinished_of_result hresult), hevents,
      hevents.sightings_eq _, hevents.countP_isPaused.1, ?_, hworld, hoff⟩
    exact congrArg (fun v => (d.driven.withMonitors v.1).configuration) hvalue
  · obtain ⟨fault, hrun⟩ := exists_fault_of_not_ready hd
    have hr : r = d.driven.refused _ fault := hrun _ _
    have hr' : r' = d.driven.refused _ fault := hrun _ _
    rw [hr, hr']
    exact ⟨rfl, nofun, .nil, rfl, rfl, rfl, rfl, hoff⟩

/-- A watchdog over a monitor that tolerates one strike and sees a violation at those of its calls
that a list says. -/
def scripted (violations : List Bool) : Watchdog ℕ where
  configuration :=
    { reporter := fun _ => Call.pure ()
      monitors := [⟨⟨"scripted", fun calls =>
        ⟨some { violated := violations.getD calls false }, false, calls + 1⟩⟩, { limit := 1 }⟩] }

/-- The second of two violations goes past the limit however many turns there are between them that
find the switch off. -/
theorem scripted_disabled_turns_invisible :
    true ∈ [true, false, false, true, false] ∧
      Thinned ((scripted [true, true]).driven.run 6 (0, [true, false, false, true, false])).events
        ((scripted [true, true]).driven.run 3 (0, [true, true])).events ∧
      ((scripted [true, true]).driven.run 6
        (0, [true, false, false, true, false])).events.countP Event.isPaused = 5 ∧
      ((scripted [true, true]).driven.run 3 (0, [true, true])).events.countP Event.isSpent = 1 := by
  have hw : true ∈ [true, false, false, true, false] := by decide
  obtain ⟨-, -, hthinned, -, hpaused, -⟩ := disabled_turns_invisible (scripted [true, true]) 0 hw
  exact ⟨hw, hthinned, hpaused, rfl⟩

end Watchdog

end Vigil
