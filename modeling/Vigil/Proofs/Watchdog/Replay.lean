import Vigil.Proofs.Watchdog.Requests

/-!
# Replaying events

Each event of a run is a call of its surroundings or of one of its monitors, made in the world that
the call before it left.  So the events of a run can be replayed: they tell the world after the run,
and whether a stop is asked for then.

* `Pause.call`: resting as a call;
* `Noted`: what the call comes to that an event notes;
* `Replayed`: calls one after another;
* `turn_replays`, `turns_replays`: the events of turns are such calls;
* `run_replayed`: so are those of a run, refused or not.
-/

namespace Vigil

variable {σ α β : Type}

/-- Resting as a call.  An interruptible rest leaves the world as it is, whether or not a stop is
asked for meanwhile. -/
def Pause.call : Pause σ → Duration → Call σ Unit
  | interruptible, _ => Call.pure ()
  | custom rest, time => rest time

namespace Loop

/-- The event notes a call that is made in the world `w`: whether a stop is asked for in it, and the
world it leaves. -/
inductive Noted (s : Surroundings σ) (monitors : List (Monitor σ)) (w : σ) :
    Event → Bool → σ → Prop
  | watchdogRead {r : Reply σ Bool} (hr : s.toggles.watchdogEnabled w = r) :
      Noted s monitors w (.watchdogRead r.value) r.stop r.world
  | enforcementRead {r : Reply σ Bool} (hr : s.toggles.enforcementEnabled w = r) :
      Noted s monitors w (.enforcementRead r.value) r.stop r.world
  | checked {i : ℕ} {m : Monitor σ} {r : Reply σ Verdict} (hm : monitors[i]? = some m)
      (hr : m.check w = r) :
      Noted s monitors w (.checked i m.name r.value) r.stop r.world
  | reported {n : Notice} {r : Reply σ Unit} (hr : s.configuration.reporter n w = r) :
      Noted s monitors w (.reported n) r.stop r.world
  | diagnosed {name : String} {r : Reply σ Unit} (hr : s.configuration.diagnostics name w = r) :
      Noted s monitors w (.diagnosed name) r.stop r.world
  | handled {on : Bool} {r : Reply σ Bool} (hr : (select s.configuration.handler on).call w = r) :
      Noted s monitors w (.handled (select s.configuration.handler on).name r.value) r.stop r.world
  | paused {r : Reply σ Unit} (hr : s.pause.call s.configuration.sleepTime w = r) :
      Noted s monitors w (.paused s.configuration.sleepTime) r.stop r.world

/-- The events note calls that are made one after another from the world `w` on, and leave the last
world.  The first of the two flags says whether a stop was asked for before them; the second, which
says whether one is after them, is set if the first is, or if a stop is asked for in one of the
calls, and only then. -/
inductive Replayed (s : Surroundings σ) (monitors : List (Monitor σ)) :
    σ → Bool → List Event → σ → Bool → Prop
  | nil (w : σ) (stopped : Bool) : Replayed s monitors w stopped [] w stopped
  | cons {w w' w'' : σ} {stopped asked stopped' : Bool} {e : Event} {es : List Event}
      (he : Noted s monitors w e asked w')
      (hes : Replayed s monitors w' (stopped || asked) es w'' stopped') :
      Replayed s monitors w stopped (e :: es) w'' stopped'

end Loop

variable {s : Surroundings σ} {monitors : List (Monitor σ)}

theorem Loop.Replayed.append {w w' w'' : σ} {stopped stopped' stopped'' : Bool}
    {es es' : List Event} (h : Replayed s monitors w stopped es w' stopped')
    (h' : Replayed s monitors w' stopped' es' w'' stopped'') :
    Replayed s monitors w stopped (es ++ es') w'' stopped'' := by
  induction h with
  | nil => exact h'
  | cons he _ ih => exact .cons he (ih h')

namespace Act

/-- Wherever it begins, what happens in an act can be replayed. -/
def Replays (s : Surroundings σ) (monitors : List (Monitor σ)) (x : Act σ α) : Prop :=
  ∀ scene, Loop.Replayed s monitors scene.world scene.signal.requested (x scene).events
    (x scene).scene.world (x scene).scene.signal.requested

theorem replays_pure (a : α) : (pure a : Act σ α).Replays s monitors := fun _ => .nil _ _

theorem replays_call {c : Call σ α} {event : Option α → Event}
    (h : ∀ w, Loop.Noted s monitors w (event (c w).value) (c w).stop (c w).world) :
    (call c event).Replays s monitors := by
  intro scene
  refine .cons (h scene.world) ?_
  rw [← StopSignal.requested_requestIf]
  exact .nil _ _

theorem Replays.bind {x : Act σ α} {f : α → Act σ β} (hx : x.Replays s monitors)
    (hf : ∀ a, (f a).Replays s monitors) : (x >>= f).Replays s monitors :=
  fun scene => (hx scene).append (hf _ _)

theorem replays_closed : Closed (Replays s monitors) := ⟨replays_pure, Replays.bind⟩

end Act

namespace Loop

/-! ### Turns -/

theorem uses_replays (s : Surroundings σ) (monitors : List (Monitor σ)) :
    Uses (Act.Replays s monitors) s :=
  ⟨Act.replays_call fun _ => .enforcementRead rfl, fun _ => Act.replays_call fun _ => .reported rfl,
    fun _ => Act.replays_call fun _ => .diagnosed rfl,
    fun _ => Act.replays_call fun _ => .handled rfl⟩

/-- An interruptible rest asks for nothing, and what it takes is not the flag. -/
theorem rest_replays (s : Surroundings σ) (monitors : List (Monitor σ)) :
    (rest s).Replays s monitors := by
  have hpaused (w : σ) : Noted s monitors w (.paused s.configuration.sleepTime)
      (s.pause.call s.configuration.sleepTime w).stop
      (s.pause.call s.configuration.sleepTime w).world := .paused rfl
  unfold rest
  cases hpause : s.pause with
  | interruptible =>
    rw [hpause] at hpaused
    intro scene
    refine .cons (hpaused scene.world) ?_
    rw [show (Pause.interruptible.call s.configuration.sleepTime scene.world).stop = false
      from rfl, Bool.or_false]
    exact .nil _ _
  | custom sleep =>
    rw [hpause] at hpaused
    exact Act.replays_call hpaused

theorem turn_replays (s : Surroundings σ) {ms : MonitorSet σ} {monitors : List (Monitor σ)}
    (hms : ms.map Registered.monitor = monitors) : (turn s ms).Replays s monitors := by
  refine turn_closed Act.replays_closed (fun _ => .nil _ _) ?_ (rest_replays s monitors)
  refine watch_closed Act.replays_closed (uses_replays s monitors)
    (Act.replays_call fun _ => .watchdogRead rfl) fun i m hm => ?_
  refine Act.replays_call fun _ => .checked ?_ rfl
  rw [← hms, List.getElem?_map, hm]
  rfl

theorem turns_replays (s : Surroundings σ) (allowed : ℕ) {ms : MonitorSet σ}
    (hms : ms.map Registered.monitor = monitors) : (turns s allowed ms).Replays s monitors := by
  -- A turn leaves the same monitors to the turns after it.
  induction allowed generalizing ms with
  | zero => exact Act.replays_pure _
  | succ allowed ih =>
    intro scene
    have hturn := turn_replays s hms scene
    have hmonitors :=
      MonitorSet.map_monitor_of_map_descriptor (turn_ensures s ms scene).map_descriptor
    rw [turns_succ]
    generalize turn s ms scene = p at hturn hmonitors ⊢
    obtain ⟨⟨ms', ending⟩, es, y⟩ := p
    cases ending with
    | some e => exact hturn.append (.nil _ _)
    | none => exact hturn.append (ih (hmonitors.trans hms) y)

end Loop

namespace Watchdog

/-! ### Runs -/

/-- The monitors that a watchdog calls. -/
def watched (d : Watchdog σ) : List (Monitor σ) := d.configuration.monitors.map Registered.monitor

theorem Held.map_monitor {d : Watchdog σ} {es : List Event} {ms : MonitorSet σ} {e : Ending}
    (h : Held d es ms e) : ms.map Registered.monitor = d.watched := by
  cases h with
  | unopened => rfl
  | unclosed _ ht => exact MonitorSet.map_monitor_of_map_descriptor ht.map_descriptor
  | closed _ ht => exact MonitorSet.map_monitor_of_map_descriptor ht.map_descriptor

/-- A run leaves the watchdog the monitors that it had. -/
theorem watched_run (d : Watchdog σ) (allowed : ℕ) (w : σ) :
    (d.run allowed w).watchdog.watched = d.watched := by
  by_cases hready : d.Ready
  · obtain ⟨e, hheld, -⟩ := held_of_ready hready allowed w
    exact hheld.map_monitor
  · obtain ⟨fault, hrun⟩ := run_of_not_ready hready allowed w
    rw [hrun]
    rfl

theorem announce_replays (d : Watchdog σ) (monitors : List (Monitor σ))
    (notice : String → Notice) : (d.announce notice).Replays d.surroundings monitors :=
  announce_closed Act.replays_closed (Loop.uses_replays _ _) notice

theorem session_replays (d : Watchdog σ) (allowed : ℕ) :
    (d.session allowed).Replays d.surroundings d.watched := by
  rw [session_eq]
  refine .bind (d.announce_replays _ _) fun began => ?_
  split
  · exact Act.replays_pure _
  · exact .bind (Loop.turns_replays d.surroundings allowed rfl)
      (conclude_closed Act.replays_closed (Loop.uses_replays _ _))

/-- **The events of a run can be replayed.**  So a stop is asked for after a run exactly if it was
before, or if one of the calls in the run asks for it. -/
theorem run_replayed (d : Watchdog σ) (allowed : ℕ) (w : σ) :
    Loop.Replayed d.surroundings d.watched w d.isStopped (d.run allowed w).events
      (d.run allowed w).world (d.run allowed w).watchdog.isStopped := by
  by_cases hready : d.Ready
  · rw [run_of_ready hready]
    exact d.session_replays allowed ⟨w, d.signal⟩
  · obtain ⟨fault, hrun⟩ := run_of_not_ready hready allowed w
    rw [hrun]
    exact .nil _ _

end Watchdog

end Vigil
