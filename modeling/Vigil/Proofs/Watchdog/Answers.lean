import Vigil.Proofs.Watchdog.Stopping

/-!
# Watchdogs whose calls are answered

What a loop calls is foreign code, and may crash.  Where it does not, nothing in a run does.

* `Call.Answers`, `Surroundings.Answers`, `MonitorSet.Answers`, `Watchdog.Answers`: each call
  returns a value, in whatever world;
* `examine_answers` and the lemmas after it: no part of the loop ends in a crash;
* `run_ne_crashed`: nor does a run;
* `run_succ_of_isStopped`: one more turn ends a run in which a stop was asked for.
-/

namespace Vigil

variable {σ α : Type}

/-- The callee returns a value in each world. -/
def Call.Answers (c : Call σ α) : Prop := ∀ w, (c w).value.isSome = true

/-- What a loop calls apart from its monitors answers. -/
structure Surroundings.Answers (s : Surroundings σ) : Prop where
  handler : s.configuration.handler.call.Answers
  reporter : ∀ n, (s.configuration.reporter n).Answers
  diagnostics : ∀ name, (s.configuration.diagnostics name).Answers
  watchdogEnabled : s.toggles.watchdogEnabled.Answers
  enforcementEnabled : s.toggles.enforcementEnabled.Answers
  pause : ∀ time, (s.pause.call time).Answers

/-- All monitors answer. -/
def MonitorSet.Answers (ms : MonitorSet σ) : Prop := ∀ m ∈ ms, m.monitor.check.Answers

/-- All that a watchdog calls answers. -/
structure Watchdog.Answers (d : Watchdog σ) : Prop where
  surroundings : d.surroundings.Answers
  monitors : MonitorSet.Answers d.configuration.monitors

/-- Monitors answer as long as they are the same monitors. -/
theorem MonitorSet.Answers.of_map_descriptor {ms ms' : MonitorSet σ} (h : MonitorSet.Answers ms)
    (hms : ms'.map Registered.descriptor = ms.map Registered.descriptor) :
    MonitorSet.Answers ms' :=
  MonitorSet.forall_monitor_of_map_descriptor (P := fun m => m.check.Answers) hms h

theorem Act.ensures_call_isSome {c : Call σ α} (hc : c.Answers) (event : Option α → Event) :
    (Act.call c event).Ensures fun _ r => r.isSome = true := fun s => hc s.world

namespace Loop

variable {s : Surroundings σ}

/-! ### Passes -/

theorem report_answers (hs : s.Answers) (n : Notice) :
    (report s.configuration n).Ensures fun _ told => told.isSome = true :=
  Act.ensures_call_isSome (hs.reporter n) _

theorem select_answers (hs : s.Answers) (on : Bool) :
    (select s.configuration.handler on).call.Answers := by
  cases on with
  | true => exact hs.handler
  | false => exact fun _ => rfl

theorem currentHandler_answers (hs : s.Answers) :
    (currentHandler s).Ensures fun _ r =>
      ∃ on, r = some (select s.configuration.handler on) := by
  refine .bind (Act.ensures_call_isSome hs.enforcementEnabled _) ?_
  intro _ on hon
  obtain ⟨on, rfl⟩ := Option.isSome_iff_exists.1 hon
  exact Act.ensures_pure ⟨on, rfl⟩

theorem examine_answers (hs : s.Answers) (h : Handler σ) (i : ℕ) {m : Registered σ}
    (hm : m.monitor.check.Answers) :
    (examine s.configuration h i m).Ensures fun _ r => r.2 ≠ .crashed := by
  refine .bind (Act.ensures_call_isSome hm _) ?_
  intro _ verdict? hverdict
  obtain ⟨verdict, rfl⟩ := Option.isSome_iff_exists.1 hverdict
  dsimp only
  split
  · exact Act.ensures_pure nofun
  · refine .bind (report_answers hs _) ?_
    intro _ told htold
    obtain ⟨_, rfl⟩ := Option.isSome_iff_exists.1 htold
    simp only [Option.isNone_some, Bool.false_eq_true, if_false]
    split
    · exact Act.ensures_pure nofun
    · refine .bind (report_answers hs _) ?_
      intro _ told htold
      obtain ⟨_, rfl⟩ := Option.isSome_iff_exists.1 htold
      exact Act.ensures_pure nofun

theorem scan_answers (hs : s.Answers) (h : Handler σ) (i : ℕ) {ms : MonitorSet σ}
    (hms : MonitorSet.Answers ms) :
    (scan s.configuration h i ms).Ensures fun _ r => r.2 ≠ .crashed := by
  induction ms generalizing i with
  | nil => exact Act.ensures_pure nofun
  | cons m ms ih =>
    refine .bind (examine_answers hs h i (hms m List.mem_cons_self)) ?_
    rintro _ ⟨m', finding⟩ hfinding
    cases finding with
    | passed =>
      refine .bind (ih (i + 1) fun m hm => hms m (List.mem_cons_of_mem _ hm)) ?_
      rintro _ ⟨ms', out⟩ hout
      exact Act.ensures_pure hout
    | exceeded => exact Act.ensures_pure nofun
    | crashed => exact absurd rfl hfinding

theorem remedy_answers (hs : s.Answers) (on : Bool) (i : ℕ) (ms : MonitorSet σ) :
    (remedy s.configuration (select s.configuration.handler on) i ms).Ensures
      fun _ r => r.2.isSome = true := by
  unfold remedy
  split
  · exact Act.ensures_pure rfl
  · refine .bind (Act.ensures_call_isSome (hs.diagnostics _) _) ?_
    intro _ looked hlooked
    obtain ⟨_, rfl⟩ := Option.isSome_iff_exists.1 hlooked
    refine .bind (Act.ensures_call_isSome (select_answers hs on) _) ?_
    intro _ success hsuccess
    exact Act.ensures_pure hsuccess

theorem tick_answers (hs : s.Answers) {ms : MonitorSet σ} (hms : MonitorSet.Answers ms) :
    (tick s ms).Ensures fun _ r => r.2.isSome = true := by
  refine .bind (currentHandler_answers hs) ?_
  rintro _ _ ⟨on, rfl⟩
  refine .bind (scan_answers hs _ 0 hms) ?_
  rintro _ ⟨ms', out⟩ hout
  cases out with
  | quiet => exact Act.ensures_pure rfl
  | exceeded i => exact remedy_answers hs on i ms'
  | crashed => exact absurd rfl hout

theorem watch_answers (hs : s.Answers) {ms : MonitorSet σ} (hms : MonitorSet.Answers ms) :
    (watch s ms).Ensures fun _ r => r.2.isSome = true := by
  refine .bind (Act.ensures_call_isSome hs.watchdogEnabled _) ?_
  intro _ on hon
  match on with
  | some false => exact Act.ensures_pure rfl
  | some true => exact tick_answers hs hms

/-! ### Turns -/

theorem rest_answers (hs : s.Answers) : (rest s).Ensures fun _ r => r.isSome = true := by
  intro x
  rw [value_rest]
  exact hs.pause _ _

theorem turn_answers (hs : s.Answers) {ms : MonitorSet σ} (hms : MonitorSet.Answers ms) :
    (turn s ms).Ensures fun _ r => r.2 ≠ some .crashed := by
  refine .bind (P := fun _ _ => True) (fun _ => trivial) ?_
  intro _ stop _
  split
  · exact Act.ensures_pure nofun
  · split
    · exact Act.ensures_pure nofun
    · refine .bind (watch_answers hs hms) ?_
      rintro _ ⟨ms', handled⟩ hhandled
      match handled with
      | some true => exact Act.ensures_pure nofun
      | some false =>
        refine .bind (rest_answers hs) ?_
        intro _ rested hrested
        obtain ⟨_, rfl⟩ := Option.isSome_iff_exists.1 hrested
        exact Act.ensures_pure nofun

/-- Turns do not crash: whatever happened in one turn, the next calls the same monitors. -/
theorem turns_answers (hs : s.Answers) (allowed : ℕ) {ms : MonitorSet σ}
    (hms : MonitorSet.Answers ms) : (turns s allowed ms).Ensures fun _ r => r.2 ≠ .crashed := by
  induction allowed generalizing ms with
  | zero => exact Act.ensures_pure nofun
  | succ allowed ih =>
    intro x
    have hturned := turn_ensures s ms x
    have hturn := turn_answers hs hms x
    rw [turns_succ]
    generalize turn s ms x = p at hturned hturn ⊢
    obtain ⟨⟨ms', ending⟩, es, y⟩ := p
    cases ending with
    | some e => exact fun he => hturn (congrArg some he)
    | none => exact ih (hms.of_map_descriptor hturned.map_descriptor) y

end Loop

namespace Watchdog

variable {d : Watchdog σ}

/-! ### Runs -/

theorem announce_answers (hd : d.Answers) (notice : String → Notice) :
    (d.announce notice).Ensures fun _ told => told.isSome = true := by
  refine .bind (Loop.currentHandler_answers hd.surroundings) ?_
  rintro _ _ ⟨on, rfl⟩
  exact Loop.report_answers hd.surroundings _

theorem session_answers (hd : d.Answers) (allowed : ℕ) :
    (d.session allowed).Ensures fun _ r => r.2 ≠ .crashed := by
  refine .bind (announce_answers hd _) ?_
  intro _ began hbegan
  obtain ⟨_, rfl⟩ := Option.isSome_iff_exists.1 hbegan
  refine .bind (Loop.turns_answers hd.surroundings allowed hd.monitors) ?_
  rintro _ ⟨ms, e⟩ he
  cases e with
  | done reason =>
    refine .bind (announce_answers hd _) ?_
    intro _ ended hended
    obtain ⟨_, rfl⟩ := Option.isSome_iff_exists.1 hended
    exact Act.ensures_pure nofun
  | crashed => exact absurd rfl he
  | unfinished => exact Act.ensures_pure nofun

/-- Nothing crashes in a run in which all calls are answered. -/
theorem run_ne_crashed (hd : d.Answers) (allowed : ℕ) (w : σ) :
    (d.run allowed w).result ≠ .crashed := by
  by_cases hready : d.Ready
  · have hsession := session_answers hd allowed ⟨w, d.signal⟩
    rw [run_of_ready hready]
    dsimp only at hsession ⊢
    cases he : (d.session allowed ⟨w, d.signal⟩).value.2 with
    | crashed => exact absurd he hsession
    | _ => nofun
  · obtain ⟨fault, hrun⟩ := run_of_not_ready hready allowed w
    rw [hrun]
    nofun

/-- One more turn ends a run in which a stop was asked for. -/
theorem run_succ_of_isStopped (hd : d.Answers) {allowed : ℕ} {w : σ}
    (hr : (d.run allowed w).result = .unfinished)
    (hs : (d.run allowed w).watchdog.isStopped = true) :
    (d.run (allowed + 1) w).result = .returned (.ok .backgroundTaskStopped) := by
  obtain ⟨es, -, told, -, hresult⟩ := run_of_isStopped hr hs 0
  rw [Nat.add_zero] at hresult
  cases told with
  | none => exact absurd hresult (run_ne_crashed hd _ _)
  | some _ => exact hresult

end Watchdog

end Vigil
