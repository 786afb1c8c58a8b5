import Vigil.Proofs.Watchdog.Trace

/-!
# Runs

A run that is not refused reports its beginning, takes turns, and reports its end.

* `Ready`: a watchdog that is not refused a run; `run_of_ready`, `run_of_not_ready`;
* `Announced`, `Held`: what the reports around the turns and the whole of a run can be;
* `held_of_ready`: each run of a ready watchdog is such a whole;
* `conclude`, `resume`, `run_add`: what is left of a run that is not finished yet, which goes on as
  if more turns had been allowed at once.
-/

namespace Vigil

variable {σ : Type}

/-- How a run ended whose turns ended so. -/
def Ending.result : Ending → RunResult
  | done reason => .returned (.ok reason)
  | crashed => .crashed
  | unfinished => .unfinished

theorem Ending.result_injective : Function.Injective Ending.result := by
  intro e e' h
  cases e <;> cases e' <;> cases h <;> rfl

theorem Ending.eq_done_of_result {e : Ending} {reason : StopReason}
    (h : e.result = .returned (.ok reason)) : e = .done reason := by
  cases e <;> cases h
  rfl

theorem Ending.eq_unfinished_of_result {e : Ending} (h : e.result = .unfinished) :
    e = .unfinished := by
  cases e <;> cases h
  rfl

namespace Loop

/-! ### More turns -/

theorem turns_succ (s : Surroundings σ) (allowed : ℕ) (ms : MonitorSet σ) (x : Scene σ) :
    turns s (allowed + 1) ms x = (turn s ms x).andThen fun r =>
      match r.2 with
      | some e => pure (r.1, e)
      | none => turns s allowed r.1 := rfl

/-- Turns that did not come to an end go on with the turns that are allowed beyond them. -/
theorem turns_add (s : Surroundings σ) {allowed : ℕ} (more : ℕ) {ms : MonitorSet σ} {x : Scene σ}
    (h : (turns s allowed ms x).value.2 = .unfinished) :
    turns s (allowed + more) ms x =
      (turns s allowed ms x).andThen fun r => turns s more r.1 := by
  induction allowed generalizing ms x with
  | zero =>
    rw [Nat.zero_add]
    rfl
  | succ allowed ih =>
    have hturned := turn_ensures s ms x
    rw [show allowed + 1 + more = allowed + more + 1 by omega, turns_succ, turns_succ,
      Stretch.andThen_andThen]
    rw [turns_succ] at h
    generalize turn s ms x = r at h hturned ⊢
    obtain ⟨⟨ms', ending⟩, es, y⟩ := r
    cases ending with
    -- A turn that ends the loop leaves nothing unfinished.
    | some e => exact absurd h hturned.ne_unfinished
    | none => simp only [Stretch.andThen, ih h, Act.bind_apply]

/-- Turns that came to an end stay as they are if more are allowed. -/
theorem turns_add_of_ne_unfinished (s : Surroundings σ) {allowed : ℕ} (more : ℕ)
    {ms : MonitorSet σ} {x : Scene σ} (h : (turns s allowed ms x).value.2 ≠ .unfinished) :
    turns s (allowed + more) ms x = turns s allowed ms x := by
  induction allowed generalizing ms x with
  | zero => exact absurd rfl h
  | succ allowed ih =>
    rw [show allowed + 1 + more = allowed + more + 1 by omega, turns_succ, turns_succ]
    rw [turns_succ] at h
    generalize turn s ms x = r at h ⊢
    obtain ⟨⟨ms', ending⟩, es, y⟩ := r
    cases ending with
    | some e => rfl
    | none =>
      have hrest := ih h
      simp only [Stretch.andThen, hrest]

end Loop

namespace Watchdog

/-! ### Runs that are refused -/

/-- The watchdog may begin a run. -/
def Ready (d : Watchdog σ) : Prop :=
  d.configuration.validate = .ok () ∧ d.lifecycle = .idle

/-- A watchdog that has begun a run, after a stretch of it. -/
def after (d : Watchdog σ) (s : Stretch σ (MonitorSet σ × Ending)) : Watchdog σ :=
  { d.withMonitors s.value.1 with
    lifecycle := match s.value.2 with
      | .done _ => .stopped
      | _ => .running
    signal := s.scene.signal }

theorem run_of_ready {d : Watchdog σ} (hd : d.Ready) (allowed : ℕ) (w : σ) :
    d.run allowed w =
      let s := d.session allowed ⟨w, d.signal⟩
      ⟨s.value.2.result, s.events, d.after s, s.scene.world⟩ := by
  obtain ⟨hvalid, hidle⟩ := hd
  unfold run after
  rw [hvalid, hidle]
  dsimp only [Lifecycle.start?, Lifecycle.stop?]
  cases (d.session allowed ⟨w, d.signal⟩).value.2 <;> rfl

/-- A watchdog that is refused a run is refused any for the same fault. -/
theorem exists_fault_of_not_ready {d : Watchdog σ} (hd : ¬ d.Ready) :
    ∃ fault, ∀ allowed w, d.run allowed w = d.refused w fault := by
  unfold run
  cases hvalid : d.configuration.validate with
  | error fault => exact ⟨fault, fun _ _ => rfl⟩
  | ok _ =>
    cases hstart : d.lifecycle.start? with
    | none => exact ⟨_, fun _ _ => rfl⟩
    | some lifecycle => exact absurd ⟨hvalid, (Lifecycle.start?_eq_some_iff.1 hstart).1⟩ hd

theorem run_of_not_ready {d : Watchdog σ} (hd : ¬ d.Ready) (allowed : ℕ) (w : σ) :
    ∃ fault, d.run allowed w = d.refused w fault := by
  obtain ⟨fault, hrun⟩ := exists_fault_of_not_ready hd
  exact ⟨fault, hrun allowed w⟩

/-- A run that does not return a fault was not refused. -/
theorem ready_of_run {d : Watchdog σ} {allowed : ℕ} {w : σ} {r : RunResult}
    (h : (d.run allowed w).result = r) (hr : ∀ fault, r ≠ .returned (.error fault)) :
    d.Ready := by
  by_contra hd
  obtain ⟨fault, hrun⟩ := run_of_not_ready hd allowed w
  exact hr fault (by rw [← h, hrun]; rfl)

/-! ### What a run can be -/

/-- A report with the name of the handler in effect: what happens, and whether it was heard. -/
inductive Announced (d : Watchdog σ) (notice : String → Notice) :
    List Event → Option Unit → Prop
  | unread : Announced d notice [.enforcementRead none] none
  | reported (on : Bool) (told : Option Unit) :
      Announced d notice
        [.enforcementRead (some on),
          .reported (notice (Loop.select d.configuration.handler on).name)] told

theorem announce_ensures (d : Watchdog σ) (notice : String → Notice) :
    (d.announce notice).Ensures fun es r => Announced d notice es r := by
  refine .bind (Loop.currentHandler_ensures d.surroundings) ?_
  rintro _ _ ⟨on, rfl, rfl⟩
  cases on with
  | none => exact Act.ensures_pure .unread
  | some on =>
    intro scene
    exact .reported on _

/-- The whole of a run: what happens in it, the monitors after it, and how it ended.  Something
crashes before the first turn; or the turns do not come to an end of their own; or they do, and the
end is reported, at which the reporter may crash. -/
inductive Held (d : Watchdog σ) : List Event → MonitorSet σ → Ending → Prop
  | unopened {es : List Event}
      (ho : Announced d (.started · d.configuration.sleepSeconds) es none) :
      Held d es d.configuration.monitors .crashed
  | unclosed {es es' : List Event} {ms : MonitorSet σ} {e : Ending}
      (ho : Announced d (.started · d.configuration.sleepSeconds) es (some ()))
      (ht : Loop.Took d.surroundings d.configuration.monitors es' ms e)
      (he : ∀ reason, e ≠ .done reason) :
      Held d (es ++ es') ms e
  | closed {es es' es'' : List Event} {ms : MonitorSet σ} {reason : StopReason}
      {told : Option Unit} {e : Ending}
      (ho : Announced d (.started · d.configuration.sleepSeconds) es (some ()))
      (ht : Loop.Took d.surroundings d.configuration.monitors es' ms (.done reason))
      (hc : Announced d (.stopped · d.configuration.sleepSeconds reason) es'' told)
      (he : e = if told.isNone then .crashed else .done reason) :
      Held d (es ++ es' ++ es'') ms e

theorem session_ensures (d : Watchdog σ) (allowed : ℕ) :
    (d.session allowed).Ensures fun es r => Held d es r.1 r.2 := by
  refine .bind (announce_ensures d _) ?_
  rintro es began ho
  cases began with
  | none => exact Act.ensures_pure (by simpa using .unopened ho)
  | some _ =>
    refine .bind (Loop.turns_ensures d.surroundings allowed d.configuration.monitors) ?_
    rintro es' ⟨ms, e⟩ ht
    cases e with
    | done reason =>
      refine .bind (announce_ensures d _) ?_
      rintro es'' told hc
      refine Act.ensures_pure ?_
      simpa using Held.closed ho ht hc rfl
    | crashed => exact Act.ensures_pure (by simpa using Held.unclosed ho ht (by simp))
    | unfinished => exact Act.ensures_pure (by simpa using Held.unclosed ho ht (by simp))

theorem held_of_ready {d : Watchdog σ} (hd : d.Ready) (allowed : ℕ) (w : σ) :
    ∃ e, Held d (d.run allowed w).events (d.run allowed w).watchdog.configuration.monitors e ∧
      (d.run allowed w).result = e.result := by
  rw [run_of_ready hd]
  exact ⟨_, session_ensures d allowed _, rfl⟩

/-! ### The rest of a run -/

/-- Report the end of turns that came to an end of their own. -/
def conclude (d : Watchdog σ) : MonitorSet σ × Ending → Act σ (MonitorSet σ × Ending)
  | (ms, .done reason) => do
    let ended ← d.announce (.stopped · d.configuration.sleepSeconds reason)
    return (ms, if ended.isNone then .crashed else .done reason)
  | (ms, ending) => return (ms, ending)

/-- What is left of a run that has begun. -/
def resume (d : Watchdog σ) (allowed : ℕ) (ms : MonitorSet σ) :
    Act σ (MonitorSet σ × Ending) :=
  Loop.turns d.surroundings allowed ms >>= d.conclude

theorem session_eq (d : Watchdog σ) (allowed : ℕ) :
    d.session allowed = d.announce (.started · d.configuration.sleepSeconds) >>= fun began =>
      if began.isNone then pure (d.configuration.monitors, .crashed)
      else d.resume allowed d.configuration.monitors := by
  refine bind_congr fun began => ?_
  split
  · rfl
  · refine bind_congr fun ⟨_, ending⟩ => ?_
    cases ending <;> rfl

theorem conclude_of_unfinished (d : Watchdog σ) {r : MonitorSet σ × Ending} {x : Scene σ}
    (h : (d.conclude r x).value.2 = .unfinished) :
    r.2 = .unfinished ∧ d.conclude r x = ⟨r, [], x⟩ := by
  obtain ⟨ms, ending⟩ := r
  cases ending with
  | done reason =>
    simp only [conclude, Act.bind_apply, Act.pure_apply] at h
    split at h <;> cases h
  | crashed => cases h
  | unfinished => exact ⟨rfl, rfl⟩

theorem resume_add (d : Watchdog σ) {allowed : ℕ} (more : ℕ) {ms : MonitorSet σ} {x : Scene σ}
    (h : (d.resume allowed ms x).value.2 = .unfinished) :
    d.resume (allowed + more) ms x =
      (d.resume allowed ms x).andThen fun r => d.resume more r.1 := by
  obtain ⟨hturns, hconclude⟩ := d.conclude_of_unfinished h
  unfold resume
  rw [Act.bind_eq_andThen, Act.bind_eq_andThen, Loop.turns_add _ more hturns,
    Stretch.andThen_andThen, Stretch.andThen_andThen]
  simp only [Stretch.andThen, Act.bind_apply, hconclude, List.nil_append]

/-- The next turn, and what follows it. -/
theorem resume_succ (d : Watchdog σ) (more : ℕ) (ms : MonitorSet σ) (x : Scene σ) :
    d.resume (more + 1) ms x = (Loop.turn d.surroundings ms x).andThen fun r =>
      match r.2 with
      | some e => d.conclude (r.1, e)
      | none => d.resume more r.1 := by
  unfold resume
  rw [Act.bind_eq_andThen, Loop.turns_succ, Stretch.andThen_andThen]
  generalize Loop.turn d.surroundings ms x = p
  obtain ⟨⟨ms', ending⟩, es, y⟩ := p
  cases ending <;> rfl

/-- One more turn, and what follows it if it is the last. -/
theorem resume_one (d : Watchdog σ) (ms : MonitorSet σ) (x : Scene σ) :
    d.resume 1 ms x = (Loop.turn d.surroundings ms x).andThen fun r =>
      d.conclude (r.1, r.2.getD .unfinished) := by
  rw [d.resume_succ 0]
  generalize Loop.turn d.surroundings ms x = p
  obtain ⟨⟨ms', ending⟩, es, y⟩ := p
  cases ending <;> rfl

theorem resume_add_of_ne_unfinished (d : Watchdog σ) {allowed : ℕ} (more : ℕ)
    {ms : MonitorSet σ} {x : Scene σ} (h : (d.resume allowed ms x).value.2 ≠ .unfinished) :
    d.resume (allowed + more) ms x = d.resume allowed ms x := by
  have hturns : (Loop.turns d.surroundings allowed ms x).value.2 ≠ .unfinished := by
    intro hunfinished
    refine h ?_
    rw [resume, Act.bind_apply]
    generalize Loop.turns d.surroundings allowed ms x = p at hunfinished ⊢
    obtain ⟨⟨ms', _⟩, es, y⟩ := p
    obtain rfl := hunfinished
    rfl
  unfold resume
  rw [Act.bind_eq_andThen, Act.bind_eq_andThen, Loop.turns_add_of_ne_unfinished _ more hturns]

theorem session_add (d : Watchdog σ) {allowed : ℕ} (more : ℕ) {x : Scene σ}
    (h : (d.session allowed x).value.2 = .unfinished) :
    d.session (allowed + more) x =
      (d.session allowed x).andThen fun r => d.resume more r.1 := by
  rw [session_eq, Act.bind_eq_andThen] at h ⊢
  rw [session_eq, Act.bind_eq_andThen, Stretch.andThen_andThen]
  generalize d.announce (.started · d.configuration.sleepSeconds) x = r at h ⊢
  obtain ⟨began, es, y⟩ := r
  cases began with
  | none => cases h
  | some _ =>
    simp only [Stretch.andThen, Option.isNone_some, Bool.false_eq_true, if_false,
      Act.bind_apply] at h ⊢
    rw [d.resume_add more h]
    rfl

/-- A run that is not finished goes on with the turns that are allowed beyond. -/
theorem run_add_eq {d : Watchdog σ} {allowed : ℕ} {w : σ}
    (h : (d.run allowed w).result = .unfinished) (more : ℕ) :
    let r := d.run allowed w
    let rest := d.resume more r.watchdog.configuration.monitors ⟨r.world, r.watchdog.signal⟩
    d.run (allowed + more) w =
      ⟨rest.value.2.result, r.events ++ rest.events, d.after rest, rest.scene.world⟩ := by
  have hd := ready_of_run h nofun
  rw [run_of_ready hd] at h
  have hunfinished := Ending.eq_unfinished_of_result h
  rw [run_of_ready hd, run_of_ready hd, d.session_add more hunfinished]
  rfl

theorem run_add {d : Watchdog σ} {allowed : ℕ} {w : σ}
    (h : (d.run allowed w).result = .unfinished) (more : ℕ) :
    let r := d.run allowed w
    let rest := d.resume more r.watchdog.configuration.monitors ⟨r.world, r.watchdog.signal⟩
    (d.run (allowed + more) w).result = rest.value.2.result ∧
      (d.run (allowed + more) w).events = r.events ++ rest.events := by
  rw [run_add_eq h more]
  exact ⟨rfl, rfl⟩

theorem session_add_of_ne_unfinished (d : Watchdog σ) {allowed : ℕ} (more : ℕ) {x : Scene σ}
    (h : (d.session allowed x).value.2 ≠ .unfinished) :
    d.session (allowed + more) x = d.session allowed x := by
  rw [session_eq, Act.bind_eq_andThen] at h ⊢
  rw [session_eq, Act.bind_eq_andThen]
  generalize d.announce (.started · d.configuration.sleepSeconds) x = r at h ⊢
  obtain ⟨began, es, y⟩ := r
  cases began with
  | none => rfl
  | some _ =>
    have hrest := d.resume_add_of_ne_unfinished more h
    simp only [Stretch.andThen, Option.isNone_some, Bool.false_eq_true, if_false, hrest]

/-- A run that is over, or was refused, stays as it is if more turns are allowed. -/
theorem run_add_of_ne_unfinished {d : Watchdog σ} {allowed : ℕ} {w : σ}
    (h : (d.run allowed w).result ≠ .unfinished) (more : ℕ) :
    d.run (allowed + more) w = d.run allowed w := by
  by_cases hd : d.Ready
  · rw [run_of_ready hd] at h ⊢
    rw [run_of_ready hd]
    have hsession := d.session_add_of_ne_unfinished more fun he => h (congrArg Ending.result he)
    simp only [hsession]
  · obtain ⟨fault, hrun⟩ := exists_fault_of_not_ready hd
    rw [hrun, hrun]

theorem ne_crashed_of_run_add {d : Watchdog σ} {allowed more : ℕ} {w : σ}
    (h : (d.run (allowed + more) w).result ≠ .crashed) : (d.run allowed w).result ≠ .crashed := by
  intro hcrashed
  rw [run_add_of_ne_unfinished (by rw [hcrashed]; nofun) more] at h
  exact h hcrashed

/-! ### A small watchdog -/

/-- A monitor that sees a violation at each call, and tolerates one.  In the world it finds the
number of the turn, and in one turn it may ask for a stop. -/
def alarm (stop : Option ℕ) : Registered ℕ :=
  ⟨⟨"alarm", fun turn => ⟨some .violation, stop == some turn, turn⟩⟩, { limit := 1 }⟩

/-- A watchdog over that monitor, with a handler that never succeeds; its pause counts the turns. -/
def small (stop : Option ℕ) : Watchdog ℕ where
  configuration := { reporter := fun _ => Call.pure (), monitors := [alarm stop] }
  pause := .custom fun _ turn => ⟨some (), false, turn + 1⟩

end Watchdog

end Vigil
