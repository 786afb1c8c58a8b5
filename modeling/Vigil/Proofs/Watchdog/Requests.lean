import Vigil.Proofs.Watchdog.Session

/-!
# The request to stop

Nothing ever takes a request to stop back.  What a loop calls can only make one, resting can only
take the token, and of all that can be done with a watchdog nothing clears the request.

* `tick_closed`, `watch_closed`, `turn_closed`, `conclude_closed`: a kind of statement that holds of
  the calls in a pass, in a turn, or in the report of the end, holds of the whole;
* `watch_asks`: a pass changes the request only by asking for a stop;
* `turns_keeps`, `isStopped_run`: a request stays made in turns and in runs;
* `Operation`, `isStopped_foldl`: and through any operations on a watchdog.
-/

namespace Vigil

variable {σ : Type}

namespace Loop

/-- Examining a monitor is calling it and the reporter, and nothing else. -/
theorem examine_closed {P : ∀ {α : Type}, Act σ α → Prop} (hP : Act.Closed P)
    {c : Configuration σ} (hreport : ∀ n, P (report c n)) (h : Handler σ) (i : ℕ)
    {m : Registered σ} (hm : P (Act.call m.monitor.check (.checked i m.name))) :
    P (examine c h i m) := by
  refine hP.bind hm fun verdict? => ?_
  cases verdict? with
  | none => exact hP.pure _
  | some v =>
    dsimp only
    split
    · exact hP.pure _
    · refine hP.bind (hreport _) fun told => ?_
      split
      · exact hP.pure _
      · split
        · exact hP.pure _
        · exact hP.bind (hreport _) fun _ => hP.pure _

theorem scan_closed {P : ∀ {α : Type}, Act σ α → Prop} (hP : Act.Closed P)
    {c : Configuration σ} (hreport : ∀ n, P (report c n)) (h : Handler σ) (i : ℕ)
    {ms : MonitorSet σ}
    (hms : ∀ j m, ms[j]? = some m → P (Act.call m.monitor.check (.checked (i + j) m.name))) :
    P (scan c h i ms) := by
  induction ms generalizing i with
  | nil => exact hP.pure _
  | cons m ms ih =>
    refine hP.bind (examine_closed hP hreport h i (hms 0 m rfl)) fun ⟨_, finding⟩ => ?_
    cases finding with
    | passed =>
      refine hP.bind (ih (i + 1) fun j m' hm' => ?_) fun _ => hP.pure _
      rw [Nat.add_right_comm]
      exact hms (j + 1) m' hm'
    | exceeded => exact hP.pure _
    | crashed => exact hP.pure _

theorem remedy_closed {P : ∀ {α : Type}, Act σ α → Prop} (hP : Act.Closed P)
    {c : Configuration σ}
    (hlook : ∀ name, P (Act.call (c.diagnostics name) fun _ => .diagnosed name)) {h : Handler σ}
    (hh : P (Act.call h.call (.handled h.name))) (i : ℕ) (ms : MonitorSet σ) :
    P (remedy c h i ms) := by
  unfold remedy
  split
  · exact hP.pure _
  · refine hP.bind (hlook _) fun looked => ?_
    split
    · exact hP.pure _
    · exact hP.bind hh fun _ => hP.pure _

/-- What a pass calls apart from monitors are acts with the property `P`. -/
structure Uses (P : ∀ {α : Type}, Act σ α → Prop) (s : Surroundings σ) : Prop where
  enforcement : P (Act.call s.toggles.enforcementEnabled .enforcementRead)
  reporter : ∀ n, P (report s.configuration n)
  diagnostics : ∀ name, P (Act.call (s.configuration.diagnostics name) fun _ => .diagnosed name)
  handler : ∀ on, P (Act.call (select s.configuration.handler on).call
    (.handled (select s.configuration.handler on).name))

theorem currentHandler_closed {P : ∀ {α : Type}, Act σ α → Prop} (hP : Act.Closed P)
    {s : Surroundings σ} (hs : Uses P s) : P (currentHandler s) :=
  hP.bind hs.enforcement fun _ => hP.pure _

/-- A pass and what follows from it is calling the monitors and the surroundings. -/
theorem tick_closed {P : ∀ {α : Type}, Act σ α → Prop} (hP : Act.Closed P)
    {s : Surroundings σ} (hs : Uses P s) {ms : MonitorSet σ}
    (hms : ∀ i m, ms[i]? = some m → P (Act.call m.monitor.check (.checked i m.name))) :
    P (tick s ms) := by
  -- The handler that is called is one that the switch selects.
  unfold tick currentHandler
  rw [bind_assoc]
  refine hP.bind hs.enforcement fun on? => ?_
  rw [pure_bind]
  cases on? with
  | none => exact hP.pure _
  | some on =>
    have hscan := scan_closed hP hs.reporter (select s.configuration.handler on) 0 fun i m hm => by
      rw [Nat.zero_add]
      exact hms i m hm
    refine hP.bind hscan fun ⟨ms', out⟩ => ?_
    cases out with
    | quiet => exact hP.pure _
    | exceeded i => exact remedy_closed hP hs.diagnostics (hs.handler on) i ms'
    | crashed => exact hP.pure _

theorem watch_closed {P : ∀ {α : Type}, Act σ α → Prop} (hP : Act.Closed P)
    {s : Surroundings σ} (hs : Uses P s)
    (hread : P (Act.call s.toggles.watchdogEnabled .watchdogRead)) {ms : MonitorSet σ}
    (hms : ∀ i m, ms[i]? = some m → P (Act.call m.monitor.check (.checked i m.name))) :
    P (watch s ms) := by
  refine hP.bind hread fun on => ?_
  match on with
  | none => exact hP.pure _
  | some false => exact hP.pure _
  | some true => exact tick_closed hP hs hms

/-- A turn is a look at the request, a pass and a rest. -/
theorem turn_closed {P : ∀ {α : Type}, Act σ α → Prop} (hP : Act.Closed P) {s : Surroundings σ}
    {ms : MonitorSet σ} (hlook : P Act.stopRequested) (hwatch : P (watch s ms))
    (hrest : P (rest s)) : P (turn s ms) := by
  refine hP.bind hlook fun stop => ?_
  split
  · exact hP.pure _
  · split
    · exact hP.pure _
    · refine hP.bind hwatch fun ⟨_, handled⟩ => ?_
      match handled with
      | none => exact hP.pure _
      | some true => exact hP.pure _
      | some false => exact hP.bind hrest fun _ => hP.pure _

theorem uses_asks (s : Surroundings σ) : Uses Act.Asks s :=
  ⟨Act.asks_call _ _, fun _ => Act.asks_call _ _, fun _ => Act.asks_call _ _,
    fun _ => Act.asks_call _ _⟩

theorem watch_asks (s : Surroundings σ) (ms : MonitorSet σ) : (watch s ms).Asks :=
  watch_closed Act.asks_closed (uses_asks s) (Act.asks_call _ _) fun _ _ _ => Act.asks_call _ _

/-- Resting takes the token and leaves the flag. -/
theorem rest_keeps (s : Surroundings σ) : (rest s).Keeps := by
  unfold rest
  cases s.pause with
  | interruptible => exact fun _ => id
  | custom sleep => exact (Act.asks_call _ _).keeps

theorem turn_keeps (s : Surroundings σ) (ms : MonitorSet σ) : (turn s ms).Keeps :=
  turn_closed Act.keeps_closed (fun _ => id) (watch_asks s ms).keeps (rest_keeps s)

theorem turns_keeps (s : Surroundings σ) (allowed : ℕ) (ms : MonitorSet σ) :
    (turns s allowed ms).Keeps := by
  induction allowed generalizing ms with
  | zero => exact (Act.asks_pure _).keeps
  | succ allowed ih =>
    refine .bind (turn_keeps s ms) fun ⟨ms', ending⟩ => ?_
    cases ending with
    | some _ => exact (Act.asks_pure _).keeps
    | none => exact ih ms'

/-! ### Turns -/

/-- A stop that was asked for ends the loop before anything is called. -/
theorem turn_of_requested (s : Surroundings σ) (ms : MonitorSet σ) {x : Scene σ}
    (hx : x.signal.requested = true) :
    turn s ms x = ⟨(ms, some (.done .backgroundTaskStopped)), [], x⟩ := by
  rw [turn, Act.bind_eq_andThen, Act.stopRequested_apply, hx]
  rfl

theorem turn_nil (s : Surroundings σ) {x : Scene σ} (hx : x.signal.requested = false) :
    turn s [] x = ⟨([], some (.done .monitorsNotConfigured)), [], x⟩ := by
  rw [turn, Act.bind_eq_andThen, Act.stopRequested_apply, hx]
  rfl

/-- What a turn makes of a pass. -/
def settle (s : Surroundings σ) : MonitorSet σ × Option Bool → Act σ (MonitorSet σ × Option Ending)
  | (ms, none) => return (ms, some .crashed)
  | (ms, some true) => return (ms, some (.done .successfullyHandled))
  | (ms, some false) => do
    let rested ← rest s
    return (ms, if rested.isNone then some .crashed else none)

theorem turn_of_ne_nil (s : Surroundings σ) {ms : MonitorSet σ} (hms : ms ≠ []) {x : Scene σ}
    (hx : x.signal.requested = false) : turn s ms x = (watch s ms >>= settle s) x := by
  obtain ⟨m, ms, rfl⟩ := List.exists_cons_of_ne_nil hms
  rw [turn, Act.bind_eq_andThen, Act.stopRequested_apply, hx, Stretch.nil_andThen]
  refine congrFun (bind_congr fun ⟨ms', handled⟩ => ?_) x
  match handled with
  | none => rfl
  | some true => rfl
  | some false => rfl

end Loop

namespace Watchdog

theorem announce_closed {P : ∀ {α : Type}, Act σ α → Prop} (hP : Act.Closed P) {d : Watchdog σ}
    (hs : Loop.Uses P d.surroundings) (notice : String → Notice) : P (d.announce notice) := by
  refine hP.bind (Loop.currentHandler_closed hP hs) fun handler? => ?_
  cases handler? with
  | none => exact hP.pure _
  | some h => exact hs.reporter _

theorem conclude_closed {P : ∀ {α : Type}, Act σ α → Prop} (hP : Act.Closed P) {d : Watchdog σ}
    (hs : Loop.Uses P d.surroundings) (r : MonitorSet σ × Ending) : P (d.conclude r) := by
  obtain ⟨ms, ending⟩ := r
  cases ending with
  | done reason => exact hP.bind (announce_closed hP hs _) fun _ => hP.pure _
  | crashed => exact hP.pure _
  | unfinished => exact hP.pure _

theorem announce_keeps (d : Watchdog σ) (notice : String → Notice) :
    (d.announce notice).Keeps :=
  (announce_closed Act.asks_closed (Loop.uses_asks _) notice).keeps

theorem conclude_keeps (d : Watchdog σ) (r : MonitorSet σ × Ending) : (d.conclude r).Keeps :=
  (conclude_closed Act.asks_closed (Loop.uses_asks _) r).keeps

theorem resume_keeps (d : Watchdog σ) (allowed : ℕ) (ms : MonitorSet σ) :
    (d.resume allowed ms).Keeps :=
  .bind (Loop.turns_keeps d.surroundings allowed ms) d.conclude_keeps

theorem session_keeps (d : Watchdog σ) (allowed : ℕ) : (d.session allowed).Keeps := by
  rw [session_eq]
  refine .bind (d.announce_keeps _) fun began => ?_
  split
  · exact (Act.asks_pure _).keeps
  · exact d.resume_keeps allowed _

/-! ### Operations -/

/-- A request survives a run, and a run that is refused. -/
theorem isStopped_run {d : Watchdog σ} (hd : d.isStopped = true) (allowed : ℕ) (w : σ) :
    (d.run allowed w).watchdog.isStopped = true := by
  by_cases hready : d.Ready
  · rw [run_of_ready hready]
    exact d.session_keeps allowed ⟨w, d.signal⟩ hd
  · obtain ⟨fault, hrun⟩ := run_of_not_ready hready allowed w
    rw [hrun]
    exact hd

/-- What can be done with a watchdog. -/
inductive Operation (σ : Type) where
  | configure (f : Configuration σ → Configuration σ)
  | withToggles (toggles : Toggles σ)
  | withPause (pause : Pause σ)
  | stop
  | run (allowed : ℕ) (w : σ)

/-- The watchdog after an operation. -/
def Operation.apply (d : Watchdog σ) : Operation σ → Watchdog σ
  | configure f => d.configure f
  | withToggles toggles => d.withToggles toggles
  | withPause pause => d.withPause pause
  | stop => d.stop
  | run allowed w => (d.run allowed w).watchdog

theorem isStopped_apply {d : Watchdog σ} (hd : d.isStopped = true) (o : Operation σ) :
    (o.apply d).isStopped = true := by
  cases o with
  | configure => exact hd
  | withToggles => exact hd
  | withPause => exact hd
  | stop => rfl
  | run allowed w => exact isStopped_run hd allowed w

/-- No sequence of operations takes a request back. -/
theorem isStopped_foldl {d : Watchdog σ} (hd : d.isStopped = true) (os : List (Operation σ)) :
    (os.foldl Operation.apply d).isStopped = true := by
  induction os generalizing d with
  | nil => exact hd
  | cons o os ih => exact ih (isStopped_apply hd o)

end Watchdog

end Vigil
