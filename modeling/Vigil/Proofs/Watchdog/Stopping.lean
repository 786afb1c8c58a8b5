import Vigil.Proofs.Watchdog.Alike

/-!
# Stopping

What a request to stop does to a run, wherever it is made.

* `nextTurn`, `nextTurn_replayed`: the turn that follows a run that is not finished;
* `Concluded`: what is left once the turns have ended for a reason;
* `Forestalled`, `run_forestalled`: a run that begins after a request;
* `run_of_isStopped`, `resume_of_requesting`: what follows a request, and a turn in which one is
  made;
* `run_of_stop`: a request lets the turn in which it is made go on, and no turn begins after it.
-/

namespace Vigil

variable {σ : Type}

/-- A handler succeeds. -/
def Event.isSuccess : Event → Bool
  | .handled _ (some true) => true
  | _ => false

theorem Event.isSuccess_of_ofPass {e : Event} (he : e.ofPass = true) : e.isSuccess = false := by
  revert he
  fun_cases Event.ofPass e <;> simp [Event.isSuccess]

namespace Loop

theorem Watched.any_isSuccess {s : Surroundings σ} {ms ms' : MonitorSet σ} {es : List Event}
    {success : Option Bool} (hw : Watched s ms es ms' success) :
    es.any Event.isSuccess = (success == some true) := by
  have scanned {h : Handler σ} {ms ms' : MonitorSet σ} {es : List Event} {out : Outcome}
      (hs : Scanned s.configuration h 0 ms es ms' out) : es.any Event.isSuccess = false :=
    List.any_eq_false.2 fun e he => by simp [Event.isSuccess_of_ofPass (hs.ofPass e he)]
  cases hw with
  | unread => rfl
  | off => rfl
  | on ht =>
    cases ht with
    | unread => rfl
    | quiet hs => simp [Event.isSuccess, scanned hs]
    | crashed hs => simp [Event.isSuccess, scanned hs]
    | remedied hs _ hr =>
      rw [List.any_cons, List.any_cons, List.any_append, scanned hs]
      cases hr with
      | undiagnosed => rfl
      | unanswered => rfl
      | answered success => cases success <;> rfl

/-- A turn that does not crash ends the loop with success exactly if a handler succeeds in it. -/
theorem Turned.any_isSuccess {s : Surroundings σ} {ms ms' : MonitorSet σ} {es : List Event}
    {e : Option Ending} (ht : Turned s ms es ms' e) :
    es.any Event.isSuccess = (e == some (.done .successfullyHandled)) := by
  cases ht with
  | stopped => rfl
  | empty => rfl
  | crashed _ hw => rw [hw.any_isSuccess]; rfl
  | handled _ hw => rw [hw.any_isSuccess]; rfl
  | rested _ hw he =>
    rw [List.any_append, hw.any_isSuccess]
    rcases he with rfl | rfl <;> rfl

theorem Turned.countP_isPaused {s : Surroundings σ} {ms ms' : MonitorSet σ} {es : List Event}
    {e : Option Ending} (ht : Turned s ms es ms' e) : es.countP Event.isPaused ≤ 1 := by
  cases ht with
  | stopped => simp
  | empty => simp
  | crashed _ hw => simp [hw.countP_isPaused]
  | handled _ hw => simp [hw.countP_isPaused]
  | rested _ hw => simp [List.countP_append, hw.countP_isPaused, Event.isPaused]

theorem Turned.monitors_eq_nil {s : Surroundings σ} {ms ms' : MonitorSet σ} {es : List Event}
    (ht : Turned s ms es ms' (some (.done .monitorsNotConfigured))) : ms = [] := by
  cases ht with
  | empty hms => exact hms
  | rested _ _ he => simp at he

end Loop

namespace Watchdog

/-- The turn after a run that took all turns that were allowed. -/
def nextTurn (d : Watchdog σ) (allowed : ℕ) (w : σ) : Stretch σ (MonitorSet σ × Option Ending) :=
  let r := d.run allowed w
  Loop.turn d.surroundings r.watchdog.configuration.monitors ⟨r.world, r.watchdog.signal⟩

/-- Its events can be replayed as well. -/
theorem nextTurn_replayed (d : Watchdog σ) (allowed : ℕ) (w : σ) :
    let r := d.run allowed w
    let p := d.nextTurn allowed w
    Loop.Replayed d.surroundings d.watched r.world r.watchdog.isStopped p.events p.scene.world
      p.scene.signal.requested :=
  let r := d.run allowed w
  Loop.turn_replays d.surroundings (d.watched_run allowed w) ⟨r.world, r.watchdog.signal⟩

/-- What is left of a run whose turns have ended for a reason: the report of that, and the result,
which is the reason unless the report crashes. -/
def Concluded (d : Watchdog σ) (reason : StopReason) (es : List Event) (result : RunResult) :
    Prop :=
  ∃ told, Announced d (.stopped · d.configuration.sleepSeconds reason) es told ∧
    result = if told.isNone then .crashed else .returned (.ok reason)

theorem conclude_ensures (d : Watchdog σ) (ms : MonitorSet σ) (reason : StopReason) :
    (d.conclude (ms, .done reason)).Ensures fun es r => Concluded d reason es r.2.result := by
  refine .bind (announce_ensures d _) ?_
  rintro es told ho
  refine Act.ensures_pure ⟨told, by simpa using ho, ?_⟩
  cases told <;> rfl

theorem resume_of_requested (d : Watchdog σ) (more : ℕ) (ms : MonitorSet σ) {x : Scene σ}
    (hx : x.signal.requested = true) :
    d.resume (more + 1) ms x = d.conclude (ms, .done .backgroundTaskStopped) x := by
  unfold resume
  rw [Act.bind_eq_andThen, Loop.turns_succ, Loop.turn_of_requested _ _ hx]
  rfl

/-- A run that begins although a stop was asked for: its beginning is reported, and unless that
crashes, its end is; there is nothing else in it. -/
def Forestalled (d : Watchdog σ) (r : Run σ) : Prop :=
  ∃ es es' told, Announced d (.started · d.configuration.sleepSeconds) es told ∧
    r.events = es ++ es' ∧
    if told.isNone then es' = [] ∧ r.result = .crashed
    else Concluded d .backgroundTaskStopped es' r.result

theorem run_forestalled {d : Watchdog σ} (hd : d.Ready) (hs : d.isStopped = true) (more : ℕ)
    (w : σ) : Forestalled d (d.run (more + 1) w) := by
  have ho := announce_ensures d (.started · d.configuration.sleepSeconds) ⟨w, d.signal⟩
  have hkept := d.announce_keeps (.started · d.configuration.sleepSeconds) ⟨w, d.signal⟩ hs
  rw [run_of_ready hd, session_eq, Act.bind_eq_andThen]
  generalize d.announce _ ⟨w, d.signal⟩ = p at ho hkept ⊢
  obtain ⟨began, es, y⟩ := p
  refine ⟨es, _, began, ho, rfl, ?_⟩
  cases began with
  | none => exact ⟨rfl, rfl⟩
  | some _ =>
    simp only [Option.isNone_some, Bool.false_eq_true, if_false, Stretch.andThen]
    rw [d.resume_of_requested more _ hkept]
    exact d.conclude_ensures _ _ y

/-- After a request, the run ends before its next turn. -/
theorem run_of_isStopped {d : Watchdog σ} {allowed : ℕ} {w : σ}
    (hr : (d.run allowed w).result = .unfinished)
    (hs : (d.run allowed w).watchdog.isStopped = true) (more : ℕ) :
    ∃ es, (d.run (allowed + 1 + more) w).events = (d.run allowed w).events ++ es ∧
      Concluded d .backgroundTaskStopped es (d.run (allowed + 1 + more) w).result := by
  obtain ⟨hresult, hevents⟩ := run_add hr (more + 1)
  rw [show allowed + 1 + more = allowed + (more + 1) by omega, hresult, hevents,
    d.resume_of_requested more _ hs]
  exact ⟨_, rfl, d.conclude_ensures _ _ _⟩

/-- A run in which more turns are allowed goes on with the next turn. -/
theorem events_nextTurn {d : Watchdog σ} {allowed : ℕ} {w : σ}
    (hr : (d.run allowed w).result = .unfinished) (more : ℕ) :
    (d.run allowed w).events ++ (d.nextTurn allowed w).events <+:
      (d.run (allowed + 1 + more) w).events := by
  obtain ⟨-, hevents⟩ := run_add hr (more + 1)
  rw [show allowed + 1 + more = allowed + (more + 1) by omega, hevents, d.resume_succ]
  exact ⟨_, List.append_assoc _ _ _⟩

/-- A turn in which a stop is asked for is the last. -/
theorem resume_of_requesting (d : Watchdog σ) (more : ℕ) (ms : MonitorSet σ) {x : Scene σ}
    (hx : x.signal.requested = false)
    (hturn : (Loop.turn d.surroundings ms x).scene.signal.requested = true) :
    ∃ es, (d.resume (more + 2) ms x).events = (Loop.turn d.surroundings ms x).events ++ es ∧
      if (Loop.turn d.surroundings ms x).value.2 = some .crashed then
        es = [] ∧ (d.resume (more + 2) ms x).value.2 = .crashed
      else
        Concluded d
          (if (Loop.turn d.surroundings ms x).events.any Event.isSuccess then .successfullyHandled
            else .backgroundTaskStopped)
          es (d.resume (more + 2) ms x).value.2.result := by
  have hturned := Loop.turn_ensures d.surroundings ms x
  -- A turn without monitors asks for nothing.
  have hmonitors : (Loop.turn d.surroundings ms x).value.2 ≠
      some (.done .monitorsNotConfigured) := by
    intro he
    have hms := hturned
    dsimp only at hms
    rw [he] at hms
    rw [hms.monitors_eq_nil, Loop.turn_nil _ hx, hx] at hturn
    cases hturn
  rw [d.resume_succ, hturned.any_isSuccess]
  generalize Loop.turn d.surroundings ms x = p at hturn hmonitors hturned ⊢
  obtain ⟨⟨ms', ending⟩, es, y⟩ := p
  dsimp only at hturn hmonitors hturned
  cases ending with
  | none =>
    refine ⟨_, rfl, ?_⟩
    dsimp only [Stretch.andThen]
    rw [d.resume_of_requested more ms' hturn]
    exact d.conclude_ensures ms' .backgroundTaskStopped y
  | some e =>
    refine ⟨_, rfl, ?_⟩
    cases e with
    | unfinished => exact absurd rfl hturned.ne_unfinished
    | crashed => exact ⟨rfl, rfl⟩
    | done reason =>
      cases reason with
      | monitorsNotConfigured => exact absurd rfl hmonitors
      | successfullyHandled => exact d.conclude_ensures ms' .successfullyHandled y
      | backgroundTaskStopped => exact d.conclude_ensures ms' .backgroundTaskStopped y

/-- A run that is not finished has begun with the report of that. -/
theorem announced_of_unfinished {d : Watchdog σ} {allowed : ℕ} {w : σ}
    (hr : (d.run allowed w).result = .unfinished) :
    Announced d (.started · d.configuration.sleepSeconds) (d.run 0 w).events (some ()) := by
  have hd := ready_of_run hr nofun
  rw [run_of_ready hd] at hr
  have hunfinished := Ending.eq_unfinished_of_result hr
  rw [session_eq, Act.bind_eq_andThen] at hunfinished
  rw [run_of_ready hd, session_eq, Act.bind_eq_andThen]
  have ho := announce_ensures d (.started · d.configuration.sleepSeconds) ⟨w, d.signal⟩
  generalize d.announce _ ⟨w, d.signal⟩ = p at ho hunfinished ⊢
  obtain ⟨began, es, y⟩ := p
  cases began with
  | none => cases hunfinished
  | some _ =>
    simpa [Stretch.andThen, resume, Loop.turns, conclude, Act.bind_apply, Act.pure_apply] using ho

/-- **Stopping.**  Let a run have taken some turns without coming to its end, and let `d'` be a
watchdog like `d` but for requests to stop.

If a stop was asked for so far, no turn follows, not even one without monitors: only the end is
reported.  If not, both runs go on with the same turn, whether or not a stop is asked for in it; and
if one is, then there is at most one rest in the turn, and no turn follows.

A stop was asked for after the run, or after the next turn, exactly if it was before or if one of
the calls asked for it that were made there.  And so it was once a watchdog is stopped, which else
leaves it as it is: no operation on the watchdog takes that back, and a run of it that is not
refused reports its beginning and its end only. -/
theorem run_of_stop {d d' : Watchdog σ} (hd : d.Alike d') {allowed : ℕ} {w : σ}
    (hr : (d.run allowed w).result = .unfinished) :
    Announced d (.started · d.configuration.sleepSeconds) (d.run 0 w).events (some ()) ∧
      ((d.run allowed w).watchdog.isStopped = true → ∀ more, ∃ es,
        (d.run (allowed + 1 + more) w).events = (d.run allowed w).events ++ es ∧
          Concluded d .backgroundTaskStopped es (d.run (allowed + 1 + more) w).result) ∧
      ((d.run allowed w).watchdog.isStopped = false →
        ((d'.run allowed w).watchdog.isStopped = false →
          (d.run allowed w).Alike (d'.run allowed w) ∧
            (d.nextTurn allowed w).Alike MonitorSet.AlikeWith (d'.nextTurn allowed w) ∧
            ∀ more,
              (d.run allowed w).events ++ (d.nextTurn allowed w).events <+:
                  (d.run (allowed + 1 + more) w).events ∧
                (d.run allowed w).events ++ (d.nextTurn allowed w).events <+:
                  (d'.run (allowed + 1 + more) w).events) ∧
        ((d.nextTurn allowed w).scene.signal.requested = true →
          (d.nextTurn allowed w).events.countP Event.isPaused ≤ 1 ∧ ∀ more, ∃ es,
            (d.run (allowed + 2 + more) w).events =
                (d.run allowed w).events ++ (d.nextTurn allowed w).events ++ es ∧
              if (d.nextTurn allowed w).value.2 = some .crashed then
                es = [] ∧ (d.run (allowed + 2 + more) w).result = .crashed
              else
                Concluded d
                  (if (d.nextTurn allowed w).events.any Event.isSuccess then .successfullyHandled
                    else .backgroundTaskStopped)
                  es (d.run (allowed + 2 + more) w).result)) ∧
      Loop.Replayed d.surroundings d.watched w d.isStopped (d.run allowed w).events
        (d.run allowed w).world (d.run allowed w).watchdog.isStopped ∧
      Loop.Replayed d.surroundings d.watched (d.run allowed w).world
        (d.run allowed w).watchdog.isStopped (d.nextTurn allowed w).events
        (d.nextTurn allowed w).scene.world (d.nextTurn allowed w).scene.signal.requested ∧
      ∀ e : Watchdog σ, e.stop.isStopped = true ∧ e.Alike e.stop ∧
        ∀ os : List (Operation σ), e.isStopped = true →
          (os.foldl Operation.apply e).isStopped = true ∧
            ((os.foldl Operation.apply e).Ready → ∀ more v,
              Forestalled (os.foldl Operation.apply e)
                ((os.foldl Operation.apply e).run (more + 1) v)) := by
  have hready := ready_of_run hr nofun
  refine ⟨announced_of_unfinished hr, run_of_isStopped hr, fun hs => ⟨?_, ?_⟩,
    d.run_replayed allowed w, d.nextTurn_replayed allowed w, fun e => ⟨rfl, e.alike_stop, ?_⟩⟩
  · intro hs'
    have hrun := run_alike hd hready allowed w hs hs'
    have hmonitors := hrun.watchdog.configuration.monitors
    have hnext : (d.nextTurn allowed w).Alike MonitorSet.AlikeWith (d'.nextTurn allowed w) :=
      Loop.turn_alike hd.surroundings hmonitors hrun.world hs hs'
    refine ⟨hrun, hnext, fun more => ⟨events_nextTurn hr more, ?_⟩⟩
    rw [hrun.events, hnext.events]
    exact events_nextTurn (hrun.result.symm.trans hr) more
  · intro hturn
    refine ⟨(Loop.turn_ensures _ _ _).countP_isPaused, fun more => ?_⟩
    obtain ⟨hresult, hevents⟩ := run_add hr (more + 2)
    obtain ⟨es, hes, hclosed⟩ := d.resume_of_requesting more _ hs hturn
    rw [show allowed + 2 + more = allowed + (more + 2) by omega, hresult, hevents, hes]
    refine ⟨es, (List.append_assoc _ _ _).symm, ?_⟩
    revert hclosed
    unfold nextTurn
    dsimp only
    split
    · rintro ⟨hnil, hcrashed⟩
      exact ⟨hnil, by rw [hcrashed]; rfl⟩
    · exact id
  · intro os he
    have hstopped := isStopped_foldl he os
    exact ⟨hstopped, fun hready' more v => run_forestalled hready' hstopped more v⟩

/-- The small watchdog is asked for a stop in its second turn, by its monitor; stopped before its
run, it would have had no turn. -/
theorem small_run_of_stop :
    ((small (some 1)).run 1 0).result = .unfinished ∧
      ((small (some 1)).nextTurn 1 0).Alike MonitorSet.AlikeWith ((small none).nextTurn 1 0) ∧
      ((small (some 1)).nextTurn 1 0).events.countP Event.isPaused ≤ 1 ∧
      (∃ es, ((small (some 1)).run 5 0).events =
          ((small (some 1)).run 1 0).events ++ ((small (some 1)).nextTurn 1 0).events ++ es ∧
        Concluded (small (some 1)) .backgroundTaskStopped es ((small (some 1)).run 5 0).result) ∧
      Loop.Replayed (small (some 1)).surroundings [(alarm (some 1)).monitor] 1 false
        ((small (some 1)).nextTurn 1 0).events 2 true ∧
      (small (some 1)).stop.isStopped = true ∧
      Forestalled (small (some 1)).stop ((small (some 1)).stop.run 5 0) ∧
      ((small (some 1)).stop.run 5 0).result = .returned (.ok .backgroundTaskStopped) := by
  have hmonitors : List.Forall₂ Registered.Alike [alarm (some 1)] [alarm none] :=
    .cons ⟨rfl, rfl, fun _ => ⟨rfl, rfl⟩⟩ .nil
  have hsmall : (small (some 1)).Alike (small none) :=
    ⟨⟨⟨rfl, .refl _, fun _ => .refl _, hmonitors, fun _ => .refl _⟩, .refl _, .refl _,
      fun _ => .refl _⟩, rfl⟩
  have hr : ((small (some 1)).run 1 0).result = .unfinished := rfl
  obtain ⟨-, -, hturn, -, hreplayed, hstopped⟩ := run_of_stop hsmall hr
  obtain ⟨halike, hstop⟩ := hturn rfl
  obtain ⟨hpaused, hends⟩ := hstop rfl
  obtain ⟨-, -, hoperations⟩ := hstopped (small (some 1)).stop
  obtain ⟨-, hforestalled⟩ := hoperations [] (hstopped (small (some 1))).1
  exact ⟨hr, (halike rfl).2.1, hpaused, hends 2, hreplayed, (hstopped _).1,
    hforestalled ⟨rfl, rfl⟩ 4 0, rfl⟩

end Watchdog

end Vigil
