import Vigil.Proofs.Watchdog.Replay

/-!
# The grammar of a run

The events of a run that returns are a report of the beginning, iterations, and a report of the
end.  What an iteration consists of depends only on what the surroundings answer and on the strikes
of the monitors, which are carried along; why the loop ends depends on whether a stop was asked for,
which is carried along as well.

* `Loop.Iteration`: the events of one iteration;
* `Loop.Iterations`: iterations up to the reason for which the loop ends;
* `Loop.turns_iterations`: turns that come to an end are such iterations;
* `Watchdog.iterations_of_returned`, `Watchdog.events_of_returned`: the grammar.
-/

namespace Vigil

variable {σ : Type}

/-- The reporter is told of the beginning. -/
def Event.isStarted : Event → Bool
  | .reported (.started ..) => true
  | _ => false

/-- The reporter is told of the end. -/
def Event.isStopped : Event → Bool
  | .reported (.stopped ..) => true
  | _ => false

theorem Event.not_framing_of_ofPass {e : Event} (he : e.ofPass = true) :
    e.isStarted = false ∧ e.isStopped = false := by
  revert he
  fun_cases Event.ofPass e <;> simp [Event.isStarted, Event.isStopped]

namespace Loop

/-- One iteration: its events, the monitors after it, and whether the handler succeeded.  The switch
for monitors is off; or all monitors have strikes left; or the monitor `m` has not, and the handler
fails or succeeds. -/
inductive Iteration (s : Surroundings σ) (ms : MonitorSet σ) :
    List Event → MonitorSet σ → Bool → Prop
  | off : Iteration s ms [.watchdogRead (some false), .paused s.configuration.sleepTime] ms false
  | quiet {on : Bool} {es : List Event} {ms' : MonitorSet σ}
      (hs : Scanned s.configuration (select s.configuration.handler on) 0 ms es ms' .quiet) :
      Iteration s ms
        ([.watchdogRead (some true), .enforcementRead (some on)] ++ es ++
          [.paused s.configuration.sleepTime])
        ms' false
  | failed {on : Bool} {i : ℕ} {m : Registered σ} {es : List Event} {ms' : MonitorSet σ}
      (hs : Scanned s.configuration (select s.configuration.handler on) 0 ms es ms' (.exceeded i))
      (hm : ms'[i]? = some m) :
      Iteration s ms
        ([.watchdogRead (some true), .enforcementRead (some on)] ++ es ++
          [.diagnosed m.name, .handled (select s.configuration.handler on).name (some false),
            .paused s.configuration.sleepTime])
        (MonitorSet.reset ms' i) false
  | handled {on : Bool} {i : ℕ} {m : Registered σ} {es : List Event} {ms' : MonitorSet σ}
      (hs : Scanned s.configuration (select s.configuration.handler on) 0 ms es ms' (.exceeded i))
      (hm : ms'[i]? = some m) :
      Iteration s ms
        ([.watchdogRead (some true), .enforcementRead (some on)] ++ es ++
          [.diagnosed m.name, .handled (select s.configuration.handler on).name (some true)])
        (MonitorSet.reset ms' i) true

/-- Iterations from a world on up to the end of the loop: their events, the monitors after them, and
the reason.  The flag says whether a stop was asked for before them.  If one was, there is no
further iteration; else there is one, unless there is no monitor, and what its calls ask for decides
of the next. -/
inductive Iterations (s : Surroundings σ) :
    σ → Bool → MonitorSet σ → List (List Event) → MonitorSet σ → StopReason → Prop
  | stopped (w : σ) (ms : MonitorSet σ) : Iterations s w true ms [] ms .backgroundTaskStopped
  | empty (w : σ) : Iterations s w false [] [] [] .monitorsNotConfigured
  | handled {w w' : σ} {stopped : Bool} {ms ms' : MonitorSet σ} {es : List Event}
      (h : Iteration s ms es ms' true)
      (hr : Replayed s (ms.map Registered.monitor) w false es w' stopped) :
      Iterations s w false ms [es] ms' .successfullyHandled
  | next {w w' : σ} {stopped : Bool} {ms ms' ms'' : MonitorSet σ} {es : List Event}
      {its : List (List Event)} {reason : StopReason} (hms : ms ≠ [])
      (h : Iteration s ms es ms' false)
      (hr : Replayed s (ms.map Registered.monitor) w false es w' stopped)
      (hs : Iterations s w' stopped ms' its ms'' reason) :
      Iterations s w false ms (es :: its) ms'' reason

theorem Watched.iteration_of_failed {s : Surroundings σ} {ms ms' : MonitorSet σ}
    {es : List Event} (hw : Watched s ms es ms' (some false)) :
    Iteration s ms (es ++ [.paused s.configuration.sleepTime]) ms' false := by
  cases hw with
  | off => exact .off
  | on ht =>
    cases ht with
    | quiet hs => exact .quiet hs
    | remedied hs hm hr =>
      cases hr
      simpa using Iteration.failed hs hm

theorem Watched.iteration_of_handled {s : Surroundings σ} {ms ms' : MonitorSet σ}
    {es : List Event} (hw : Watched s ms es ms' (some true)) : Iteration s ms es ms' true := by
  cases hw with
  | on ht =>
    cases ht with
    | remedied hs hm hr =>
      cases hr
      exact .handled hs hm

/-- A turn that begins with monitors and without a request is an iteration, unless it crashes. -/
theorem turn_iteration (s : Surroundings σ) {ms : MonitorSet σ} (hms : ms ≠ []) {x : Scene σ}
    (hx : x.signal.requested = false) :
    let p := turn s ms x
    (p.value.2 = none → Iteration s ms p.events p.value.1 false) ∧
      ∀ reason, p.value.2 = some (.done reason) →
        reason = .successfullyHandled ∧ Iteration s ms p.events p.value.1 true := by
  have hw := watch_ensures s ms x
  rw [turn_of_ne_nil s hms hx, Act.bind_eq_andThen]
  generalize watch s ms x = p at hw ⊢
  obtain ⟨⟨ms', handled⟩, es, y⟩ := p
  match handled with
  | none => exact ⟨nofun, nofun⟩
  | some true =>
    refine ⟨nofun, ?_⟩
    rintro _ ⟨⟩
    exact ⟨rfl, by simpa [Stretch.andThen, settle, Act.pure_apply] using hw.iteration_of_handled⟩
  | some false =>
    have hrest := rest_ensures s y
    have hiteration := hw.iteration_of_failed
    simp only [Stretch.andThen, settle, Act.bind_apply, Act.pure_apply, List.append_nil]
    dsimp only at hrest
    rw [hrest]
    refine ⟨fun _ => hiteration, fun reason hreason => ?_⟩
    split at hreason <;> cases hreason

/-- Turns that come to an end of their own are iterations. -/
theorem turns_iterations (s : Surroundings σ) {allowed : ℕ} {ms : MonitorSet σ} {x : Scene σ}
    {reason : StopReason} (h : (turns s allowed ms x).value.2 = .done reason) :
    ∃ its, (turns s allowed ms x).events = its.flatten ∧
      Iterations s x.world x.signal.requested ms its (turns s allowed ms x).value.1 reason := by
  induction allowed generalizing ms x with
  | zero => cases h
  | succ allowed ih =>
    rw [turns_succ] at h ⊢
    cases hx : x.signal.requested with
    | true =>
      rw [turn_of_requested s ms hx] at h ⊢
      cases h
      exact ⟨[], rfl, .stopped x.world ms⟩
    | false =>
      by_cases hms : ms = []
      · subst hms
        rw [turn_nil s hx] at h ⊢
        cases h
        exact ⟨[], rfl, .empty x.world⟩
      · obtain ⟨hgoes, hends⟩ := turn_iteration s hms hx
        have hreplayed : Replayed s (ms.map Registered.monitor) x.world x.signal.requested _ _ _ :=
          turn_replays s rfl x
        rw [hx] at hreplayed
        generalize turn s ms x = p at h hgoes hends hreplayed ⊢
        obtain ⟨⟨ms', ending⟩, es, y⟩ := p
        cases ending with
        | none =>
          obtain ⟨its, hes, hits⟩ := ih h
          exact ⟨es :: its, congrArg (es ++ ·) hes, .next hms (hgoes rfl) hreplayed hits⟩
        | some e =>
          obtain rfl : e = .done reason := h
          obtain ⟨rfl, hiteration⟩ := hends reason rfl
          exact ⟨[es], rfl, .handled hiteration hreplayed⟩

theorem Scanned.not_framing {c : Configuration σ} {h : Handler σ} {i : ℕ}
    {ms ms' : MonitorSet σ} {es : List Event} {out : Outcome}
    (hs : Scanned c h i ms es ms' out) : ∀ e ∈ es, e.isStarted = false ∧ e.isStopped = false :=
  fun e he => Event.not_framing_of_ofPass (hs.ofPass e he)

/-- The beginning and the end of a run are not reported in an iteration. -/
theorem Iteration.not_framing {s : Surroundings σ} {ms ms' : MonitorSet σ} {es : List Event}
    {success : Bool} (h : Iteration s ms es ms' success) :
    ∀ e ∈ es, e.isStarted = false ∧ e.isStopped = false := by
  cases h with
  | off => simp [Event.isStarted, Event.isStopped]
  | quiet hs | failed hs | handled hs =>
    rw [List.forall_mem_append, List.forall_mem_append]
    exact ⟨⟨by simp [Event.isStarted, Event.isStopped], hs.not_framing⟩,
      by simp [Event.isStarted, Event.isStopped]⟩

theorem Iterations.exists_iteration {s : Surroundings σ} {w : σ} {stopped : Bool}
    {ms ms' : MonitorSet σ} {its : List (List Event)} {reason : StopReason}
    (h : Iterations s w stopped ms its ms' reason) {it : List Event} (hit : it ∈ its) :
    ∃ ms₁ ms₂ success, Iteration s ms₁ it ms₂ success := by
  induction h with
  | stopped => cases hit
  | empty => cases hit
  | handled h =>
    obtain rfl := List.mem_singleton.1 hit
    exact ⟨_, _, true, h⟩
  | next _ h _ _ ih =>
    rcases List.mem_cons.1 hit with rfl | hit
    · exact ⟨_, _, false, h⟩
    · exact ih hit

/-- An iteration ends as its handler does. -/
theorem Iteration.eq_of_handled {s : Surroundings σ} {ms ms' : MonitorSet σ} {es : List Event}
    {success : Bool} (h : Iteration s ms es ms' success) {name : String} {success' : Bool}
    (he : .handled name (some success') ∈ es) : success = success' := by
  have scanned {h : Handler σ} {ms ms' : MonitorSet σ} {es : List Event} {out : Outcome}
      (hs : Scanned s.configuration h 0 ms es ms' out) : .handled name (some success') ∉ es :=
    fun he => by cases hs.ofPass _ he
  cases h with
  | off => simp at he
  | quiet hs => simp [scanned hs] at he
  | failed hs =>
    obtain ⟨-, rfl⟩ : name = _ ∧ success' = false := by simpa [scanned hs] using he
    rfl
  | handled hs =>
    obtain ⟨-, rfl⟩ : name = _ ∧ success' = true := by simpa [scanned hs] using he
    rfl

theorem Iterations.not_framing {s : Surroundings σ} {w : σ} {stopped : Bool}
    {ms ms' : MonitorSet σ} {its : List (List Event)} {reason : StopReason}
    (h : Iterations s w stopped ms its ms' reason) :
    ∀ e ∈ its.flatten, e.isStarted = false ∧ e.isStopped = false := by
  induction h with
  | stopped => simp
  | empty => simp
  | handled h => simpa using h.not_framing
  | next _ h _ _ ih =>
    rw [List.flatten_cons, List.forall_mem_append]
    exact ⟨h.not_framing, ih⟩

/-- Nor are they in turns, however these end. -/
theorem Watched.not_framing {s : Surroundings σ} {ms ms' : MonitorSet σ} {es : List Event}
    {success : Option Bool} (hw : Watched s ms es ms' success) :
    ∀ e ∈ es, e.isStarted = false ∧ e.isStopped = false := by
  cases hw with
  | unread => simp [Event.isStarted, Event.isStopped]
  | off => simp [Event.isStarted, Event.isStopped]
  | on ht =>
    refine List.forall_mem_cons.2 ⟨⟨rfl, rfl⟩, ?_⟩
    cases ht with
    | unread => simp [Event.isStarted, Event.isStopped]
    | quiet hs => exact List.forall_mem_cons.2 ⟨⟨rfl, rfl⟩, hs.not_framing⟩
    | crashed hs => exact List.forall_mem_cons.2 ⟨⟨rfl, rfl⟩, hs.not_framing⟩
    | remedied hs _ hr =>
      refine List.forall_mem_cons.2 ⟨⟨rfl, rfl⟩, List.forall_mem_append.2 ⟨hs.not_framing, ?_⟩⟩
      cases hr <;> simp [Event.isStarted, Event.isStopped]

theorem Turned.not_framing {s : Surroundings σ} {ms ms' : MonitorSet σ} {es : List Event}
    {e : Option Ending} (ht : Turned s ms es ms' e) :
    ∀ e ∈ es, e.isStarted = false ∧ e.isStopped = false := by
  cases ht with
  | stopped => simp
  | empty => simp
  | crashed _ hw => exact hw.not_framing
  | handled _ hw => exact hw.not_framing
  | rested _ hw =>
    rw [List.forall_mem_append]
    exact ⟨hw.not_framing, by simp [Event.isStarted, Event.isStopped]⟩

theorem Took.not_framing {s : Surroundings σ} {ms ms' : MonitorSet σ} {es : List Event}
    {e : Ending} (ht : Took s ms es ms' e) :
    ∀ e ∈ es, e.isStarted = false ∧ e.isStopped = false := by
  induction ht with
  | unfinished => simp
  | last ht => exact ht.not_framing
  | next ht _ ih =>
    rw [List.forall_mem_append]
    exact ⟨ht.not_framing, ih⟩

end Loop

namespace Watchdog

/-- A report that does not crash begins with a reading that does not. -/
theorem Announced.exists_events {d : Watchdog σ} {notice : String → Notice} {es : List Event}
    (h : Announced d notice es (some ())) :
    ∃ on, es = [.enforcementRead (some on),
      .reported (notice (Loop.select d.configuration.handler on).name)] := by
  cases h with
  | reported on => exact ⟨on, rfl⟩

theorem resume_iterations (d : Watchdog σ) {allowed : ℕ} {ms : MonitorSet σ} {x : Scene σ}
    {reason : StopReason} (h : (d.resume allowed ms x).value.2 = .done reason) :
    ∃ (on : Bool) (its : List (List Event)),
      (d.resume allowed ms x).events =
        its.flatten ++
          [.enforcementRead (some on),
            .reported (.stopped (Loop.select d.configuration.handler on).name
              d.configuration.sleepSeconds reason)] ∧
      Loop.Iterations d.surroundings x.world x.signal.requested ms its
        (d.resume allowed ms x).value.1 reason := by
  have hits := fun reason
      (hdone : (Loop.turns d.surroundings allowed ms x).value.2 = .done reason) =>
    Loop.turns_iterations d.surroundings hdone
  unfold resume at h ⊢
  rw [Act.bind_eq_andThen] at h ⊢
  generalize Loop.turns d.surroundings allowed ms x = p at h hits ⊢
  obtain ⟨⟨ms', ending⟩, es, y⟩ := p
  cases ending with
  | crashed => cases h
  | unfinished => cases h
  | done reason' =>
    have ho := announce_ensures d (.stopped · d.configuration.sleepSeconds reason') y
    simp only [Stretch.andThen, conclude, Act.bind_apply, Act.pure_apply] at h ⊢
    generalize d.announce _ y = q at h ho ⊢
    obtain ⟨told, closing, z⟩ := q
    cases told with
    | none => cases h
    | some _ =>
      obtain rfl : reason' = reason := Ending.done.inj h
      obtain ⟨on, rfl⟩ := ho.exists_events
      obtain ⟨its, rfl, hits⟩ := hits reason' rfl
      exact ⟨on, its, by simp, hits⟩

/-- A run that returns is framed by the two reports. -/
theorem iterations_of_returned {d : Watchdog σ} {allowed : ℕ} {w : σ} {reason : StopReason}
    (h : (d.run allowed w).result = .returned (.ok reason)) :
    ∃ (on on' : Bool) (its : List (List Event)) (w' : σ) (stopped : Bool),
      let opening : List Event :=
        [.enforcementRead (some on),
          .reported (.started (Loop.select d.configuration.handler on).name
            d.configuration.sleepSeconds)]
      (d.run allowed w).events =
        opening ++ its.flatten ++
          [.enforcementRead (some on'),
            .reported (.stopped (Loop.select d.configuration.handler on').name
              d.configuration.sleepSeconds reason)] ∧
      Loop.Replayed d.surroundings d.watched w d.isStopped opening w' stopped ∧
      Loop.Iterations d.surroundings w' stopped d.configuration.monitors its
        (d.run allowed w).watchdog.configuration.monitors reason := by
  have ho := announce_ensures d (.started · d.configuration.sleepSeconds) ⟨w, d.signal⟩
  have hr := d.announce_replays d.watched (.started · d.configuration.sleepSeconds) ⟨w, d.signal⟩
  have hd := ready_of_run h nofun
  rw [run_of_ready hd] at h ⊢
  have hdone := Ending.eq_done_of_result h
  rw [session_eq, Act.bind_eq_andThen] at hdone ⊢
  generalize d.announce _ ⟨w, d.signal⟩ = p at ho hr hdone ⊢
  obtain ⟨began, opening, y⟩ := p
  cases began with
  | none => cases hdone
  | some _ =>
    obtain ⟨on, rfl⟩ := ho.exists_events
    obtain ⟨on', its, hevents, hits⟩ := d.resume_iterations hdone
    refine ⟨on, on', its, _, _, ?_, hr, hits⟩
    rw [List.append_assoc, ← hevents]
    rfl

/-- **The grammar of a run.**  A run that returns reports its beginning, goes through iterations,
and reports its end with the reason that it returns; neither is reported at another place.  Whether
a stop was asked for before the first iteration depends on what is asked for in the report of the
beginning. -/
theorem events_of_returned {d : Watchdog σ} {allowed : ℕ} {w : σ} {reason : StopReason}
    (h : (d.run allowed w).result = .returned (.ok reason)) :
    ∃ (on on' : Bool) (its : List (List Event)) (w' : σ) (stopped : Bool),
      let opening : List Event :=
        [.enforcementRead (some on),
          .reported (.started (Loop.select d.configuration.handler on).name
            d.configuration.sleepSeconds)]
      (d.run allowed w).events =
        opening ++ its.flatten ++
          [.enforcementRead (some on'),
            .reported (.stopped (Loop.select d.configuration.handler on').name
              d.configuration.sleepSeconds reason)] ∧
      Loop.Replayed d.surroundings d.watched w d.isStopped opening w' stopped ∧
      Loop.Iterations d.surroundings w' stopped d.configuration.monitors its
        (d.run allowed w).watchdog.configuration.monitors reason ∧
      (d.run allowed w).events.countP Event.isStarted = 1 ∧
      (d.run allowed w).events.countP Event.isStopped = 1 := by
  obtain ⟨on, on', its, w', stopped, hevents, hopening, hits⟩ := iterations_of_returned h
  -- Only the frame counts: no iteration reports a beginning or an end.
  have hstarted : its.flatten.countP Event.isStarted = 0 :=
    List.countP_eq_zero.2 fun e he => by simp [(hits.not_framing e he).1]
  have hstopped : its.flatten.countP Event.isStopped = 0 :=
    List.countP_eq_zero.2 fun e he => by simp [(hits.not_framing e he).2]
  refine ⟨on, on', its, w', stopped, hevents, hopening, hits, ?_, ?_⟩
  · rw [hevents, List.countP_append, List.countP_append, hstarted]
    rfl
  · rw [hevents, List.countP_append, List.countP_append, hstopped]
    rfl

/-- Asked for a stop in the turn after the first failure of its handler, the small watchdog still
ends that turn.  The failure is in an iteration that goes on with a rest. -/
theorem small_events_of_returned :
    ((small (some 2)).run 4 0).result = .returned (.ok .backgroundTaskStopped) ∧
      ((small (some 2)).run 4 0).events.countP Event.isStarted = 1 ∧
      ((small (some 2)).run 4 0).events.countP Event.isStopped = 1 ∧
      ∃ it ms ms', .handled "NullHandler" (some false) ∈ it ∧
        it <:+: ((small (some 2)).run 4 0).events ∧
        Loop.Iteration (small (some 2)).surroundings ms it ms' false := by
  have h : ((small (some 2)).run 4 0).result = .returned (.ok .backgroundTaskStopped) := rfl
  obtain ⟨on, on', its, w', stopped, hevents, -, hits, hstarted, hstopped⟩ := events_of_returned h
  have hmem : .handled "NullHandler" (some false) ∈ ((small (some 2)).run 4 0).events :=
    List.mem_of_getElem? (i := 13) rfl
  obtain ⟨it, hit, hhandled⟩ : ∃ it ∈ its, .handled "NullHandler" (some false) ∈ it := by
    rw [hevents] at hmem
    simpa using hmem
  obtain ⟨ms, ms', success, hiteration⟩ := hits.exists_iteration hit
  obtain rfl := hiteration.eq_of_handled hhandled
  refine ⟨h, hstarted, hstopped, it, ms, ms', hhandled, ?_, hiteration⟩
  rw [hevents]
  exact (List.infix_of_mem_flatten hit).trans (List.infix_append _ _ _)

end Watchdog

end Vigil
