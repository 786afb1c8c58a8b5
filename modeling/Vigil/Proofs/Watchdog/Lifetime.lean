import Vigil.Proofs.Watchdog.Answers
import Vigil.Proofs.Watchdog.Grammar

/-!
# The lifetime of a watchdog

A watchdog is configured, asked for a stop and asked to run, in any order and as often as anybody
likes.  Of all the runs that are asked for at most one begins; the others are refused, and nothing
happens in them.

* `Launch`, `launches`: the runs that a sequence of operations asks for;
* `launches_cases`: at most one of them begins;
* `history`: all that happens in a lifetime, which is what happens in that run;
* `lifecycle_foldl`: where in its life a watchdog is after operations;
* `Launch.Decided`: what is decided of a run that is asked for;
* `runs_once`: a watchdog runs once, and runs that are refused change nothing.
-/

namespace Vigil

variable {σ β : Type}

/-- A run came to an end for a reason. -/
def RunResult.isOk : RunResult → Bool
  | returned (.ok _) => true
  | _ => false

namespace Watchdog

/-! ### Which runs are refused -/

theorem validate_eq_ok_iff (c : Configuration σ) :
    c.validate = .ok () ↔ c.sleepTime ≠ .ofSeconds 0 := by
  rw [Ne, ← Duration.isZero_iff]
  unfold Configuration.validate
  split <;> simp_all

theorem ready_iff {d : Watchdog σ} :
    d.Ready ↔ d.configuration.sleepTime ≠ .ofSeconds 0 ∧ d.lifecycle = .idle := by
  rw [Ready, validate_eq_ok_iff]

/-- A configuration without rests is refused first. -/
theorem run_of_zeroSleepTime {d : Watchdog σ} (hd : d.configuration.sleepTime = .ofSeconds 0)
    (allowed : ℕ) (w : σ) :
    d.run allowed w = d.refused w (.configValidation .zeroSleepTime) := by
  unfold run Configuration.validate
  rw [(Duration.isZero_iff _).2 hd]
  rfl

/-- After that, a watchdog that is not idle is. -/
theorem run_of_not_idle {d : Watchdog σ} (hd : d.configuration.sleepTime ≠ .ofSeconds 0)
    (hl : d.lifecycle ≠ .idle) (allowed : ℕ) (w : σ) :
    d.run allowed w = d.refused w (.lifecycle (.cannotStart d.lifecycle)) := by
  unfold run
  rw [(validate_eq_ok_iff _).2 hd]
  cases hstart : d.lifecycle.start? with
  | none => rfl
  | some _ => exact absurd (Lifecycle.start?_eq_some_iff.1 hstart).1 hl

/-- A run that begins ends for a reason, or it crashes, or it is not finished. -/
theorem result_of_ready {d : Watchdog σ} (hd : d.Ready) (allowed : ℕ) (w : σ) :
    (∃ reason, (d.run allowed w).result = .returned (.ok reason)) ∨
      (d.run allowed w).result = .unfinished ∨ (d.run allowed w).result = .crashed := by
  rw [run_of_ready hd]
  dsimp only
  cases (d.session allowed ⟨w, d.signal⟩).value.2 with
  | done reason => exact .inl ⟨reason, rfl⟩
  | crashed => exact .inr (.inr rfl)
  | unfinished => exact .inr (.inl rfl)

theorem not_ready_of_fault {d : Watchdog σ} {allowed : ℕ} {w : σ} {fault : Fault}
    (h : (d.run allowed w).result = .returned (.error fault)) : ¬ d.Ready := by
  intro hd
  rcases result_of_ready hd allowed w with ⟨reason, hr⟩ | hr | hr <;> rw [hr] at h <;> cases h

theorem ready_of_isOk {d : Watchdog σ} {allowed : ℕ} {w : σ}
    (h : (d.run allowed w).result.isOk = true) : d.Ready := by
  by_contra hd
  obtain ⟨fault, hrun⟩ := run_of_not_ready hd allowed w
  rw [hrun] at h
  cases h

/-- A run that begins leaves the watchdog stopped if it returns, and running if not. -/
theorem lifecycle_run_of_ready {d : Watchdog σ} (hd : d.Ready) (allowed : ℕ) (w : σ) :
    (d.run allowed w).watchdog.lifecycle =
      if (d.run allowed w).result.isOk then .stopped else .running := by
  rw [run_of_ready hd]
  generalize d.session allowed ⟨w, d.signal⟩ = p
  obtain ⟨⟨ms, e⟩, es, y⟩ := p
  cases e <;> rfl

/-! ### The runs of a lifetime -/

/-- A run that is asked for: the watchdog at that moment, how many turns are allowed, and the world
around it. -/
structure Launch (σ : Type) where
  watchdog : Watchdog σ
  allowed : ℕ
  world : σ

/-- The run. -/
def Launch.run (l : Launch σ) : Run σ := l.watchdog.run l.allowed l.world

/-- The run that an operation asks for. -/
def Operation.launch? (d : Watchdog σ) : Operation σ → Option (Launch σ)
  | run allowed w => some ⟨d, allowed, w⟩
  | _ => none

/-- The runs that operations ask for, in order. -/
def launches (d : Watchdog σ) : List (Operation σ) → List (Launch σ)
  | [] => []
  | o :: os => (o.launch? d).toList ++ launches (o.apply d) os

/-- All that happens in a lifetime. -/
def history (d : Watchdog σ) (os : List (Operation σ)) : List Event :=
  (launches d os).flatMap fun l => l.run.events

/-- Other operations leave the lifecycle as it is. -/
theorem lifecycle_apply_of_launch?_eq_none {d : Watchdog σ} {o : Operation σ}
    (ho : o.launch? d = none) : (o.apply d).lifecycle = d.lifecycle := by
  cases o with
  | run => cases ho
  | _ => rfl

theorem apply_of_launch?_eq_some {d : Watchdog σ} {o : Operation σ} {l : Launch σ}
    (ho : o.launch? d = some l) : l.watchdog = d ∧ o.apply d = l.run.watchdog := by
  cases o with
  | run =>
    obtain rfl := Option.some.inj ho
    exact ⟨rfl, rfl⟩
  | _ => cases ho

/-- A watchdog that is not idle has only refused runs before it. -/
theorem lifecycle_apply_of_ne_idle {d : Watchdog σ} (hd : d.lifecycle ≠ .idle)
    (o : Operation σ) : (o.apply d).lifecycle = d.lifecycle := by
  cases ho : o.launch? d with
  | none => exact lifecycle_apply_of_launch?_eq_none ho
  | some l =>
    obtain ⟨rfl, hl⟩ := apply_of_launch?_eq_some ho
    obtain ⟨fault, hrun⟩ := run_of_not_ready (fun h => hd h.2) l.allowed l.world
    rw [hl, Launch.run, hrun]
    rfl

theorem lifecycle_foldl_of_ne_idle {d : Watchdog σ} (hd : d.lifecycle ≠ .idle)
    (os : List (Operation σ)) : (os.foldl Operation.apply d).lifecycle = d.lifecycle := by
  induction os generalizing d with
  | nil => rfl
  | cons o os ih =>
    have ho := lifecycle_apply_of_ne_idle hd o
    exact (ih (ho ▸ hd)).trans ho

theorem not_ready_of_mem_launches {d : Watchdog σ} (hd : d.lifecycle ≠ .idle)
    {os : List (Operation σ)} {l : Launch σ} (hl : l ∈ launches d os) : ¬ l.watchdog.Ready := by
  induction os generalizing d with
  | nil => simp [launches] at hl
  | cons o os ih =>
    rcases List.mem_append.1 hl with hl | hl
    · rw [Option.mem_toList] at hl
      rw [(apply_of_launch?_eq_some hl).1]
      exact fun h => hd h.2
    · exact ih (lifecycle_apply_of_ne_idle hd o ▸ hd) hl

/-- Of the runs of a lifetime at most one begins. -/
theorem launches_cases (d : Watchdog σ) (os : List (Operation σ)) :
    (∀ l ∈ launches d os, ¬ l.watchdog.Ready) ∨
      ∃ before l after, launches d os = before ++ l :: after ∧ l.watchdog.Ready ∧
        (∀ l' ∈ before, ¬ l'.watchdog.Ready) ∧ ∀ l' ∈ after, ¬ l'.watchdog.Ready := by
  induction os generalizing d with
  | nil => exact .inl (by simp [launches])
  | cons o os ih =>
    rw [launches]
    cases ho : o.launch? d with
    | none => exact ih (o.apply d)
    | some l =>
      by_cases hready : l.watchdog.Ready
      · -- Once it has begun a run, the watchdog is not idle any more.
        have hlifecycle : (o.apply d).lifecycle ≠ .idle := by
          rw [(apply_of_launch?_eq_some ho).2, Launch.run, lifecycle_run_of_ready hready]
          split <;> nofun
        exact .inr ⟨[], l, launches (o.apply d) os, rfl, hready, by simp,
          fun l' hl' => not_ready_of_mem_launches hlifecycle hl'⟩
      · rcases ih (o.apply d) with hnone | ⟨before, l', after, heq, hl', hbefore, hafter⟩
        · exact .inl (List.forall_mem_cons.2 ⟨hready, hnone⟩)
        · rw [heq]
          exact .inr ⟨l :: before, l', after, rfl, hl', List.forall_mem_cons.2 ⟨hready, hbefore⟩,
            hafter⟩

/-- What comes only of runs that begin comes of one run. -/
theorem flatMap_launches {f : Launch σ → List β} (hf : ∀ l, ¬ l.watchdog.Ready → f l = [])
    (d : Watchdog σ) (os : List (Operation σ)) :
    (launches d os).flatMap f = [] ∨ ∃ l ∈ launches d os, (launches d os).flatMap f = f l := by
  have refused {ls : List (Launch σ)} (hls : ∀ l ∈ ls, ¬ l.watchdog.Ready) : ls.flatMap f = [] :=
    List.flatMap_eq_nil_iff.2 fun l hl => hf l (hls l hl)
  rcases launches_cases d os with hnone | ⟨before, l, after, heq, -, hbefore, hafter⟩
  · exact .inl (refused hnone)
  · refine .inr ⟨l, by rw [heq]; simp, ?_⟩
    rw [heq, List.flatMap_append, List.flatMap_cons, refused hbefore, refused hafter,
      List.nil_append, List.append_nil]

/-- What holds only of runs that begin holds of at most one. -/
theorem countP_launches_le_one {p : Launch σ → Bool}
    (hp : ∀ l, p l = true → l.watchdog.Ready) (d : Watchdog σ) (os : List (Operation σ)) :
    (launches d os).countP p ≤ 1 := by
  have refused {ls : List (Launch σ)} (hls : ∀ l ∈ ls, ¬ l.watchdog.Ready) : ls.countP p = 0 :=
    List.countP_eq_zero.2 fun l hl h => hls l hl (hp l h)
  rcases launches_cases d os with hnone | ⟨before, l, after, heq, -, hbefore, hafter⟩
  · rw [refused hnone]
    exact Nat.zero_le 1
  · rw [heq, List.countP_append, List.countP_cons, refused hbefore, refused hafter]
    split <;> decide

/-- Nothing happens in a run that is refused. -/
theorem Launch.events_of_not_ready (l : Launch σ) (hl : ¬ l.watchdog.Ready) :
    l.run.events = [] := by
  obtain ⟨fault, hrun⟩ := run_of_not_ready hl l.allowed l.world
  rw [run, hrun]
  rfl

theorem history_cases (d : Watchdog σ) (os : List (Operation σ)) :
    history d os = [] ∨ ∃ l ∈ launches d os, history d os = l.run.events :=
  flatMap_launches Launch.events_of_not_ready d os

/-- As long as all runs return, a watchdog is stopped once one of them was not refused. -/
theorem lifecycle_foldl {d : Watchdog σ} (hd : d.lifecycle = .idle) {os : List (Operation σ)}
    (hos : ∀ l ∈ launches d os, ∃ result, l.run.result = .returned result) :
    (os.foldl Operation.apply d).lifecycle =
      if (launches d os).any (·.run.result.isOk) then .stopped else .idle := by
  induction os generalizing d with
  | nil => exact hd
  | cons o os ih =>
    rw [launches, List.forall_mem_append] at hos
    rw [List.foldl_cons, launches, List.any_append]
    cases ho : o.launch? d with
    | none => exact ih ((lifecycle_apply_of_launch?_eq_none ho).trans hd) hos.2
    | some l =>
      obtain ⟨rfl, happly⟩ := apply_of_launch?_eq_some ho
      obtain ⟨result, hresult⟩ := hos.1 l (by simp [ho])
      cases result with
      | error fault =>
        obtain ⟨fault', hrun⟩ :=
          run_of_not_ready (not_ready_of_fault hresult) l.allowed l.world
        have hsame : o.apply l.watchdog = l.watchdog := by rw [happly, Launch.run, hrun]; rfl
        simp only [hsame] at hos ⊢
        rw [ih hd hos.2]
        simp [hresult, RunResult.isOk]
      | ok reason =>
        have hok : l.run.result.isOk = true := by rw [hresult]; rfl
        have hstopped : (o.apply l.watchdog).lifecycle = .stopped := by
          rw [happly, Launch.run, lifecycle_run_of_ready (ready_of_isOk hok)]
          exact if_pos hok
        rw [lifecycle_foldl_of_ne_idle (by rw [hstopped]; nofun), hstopped]
        simp [hok]

/-! ### Beginnings and ends -/

theorem Held.countP_framing {d : Watchdog σ} {es : List Event} {ms : MonitorSet σ} {e : Ending}
    (h : Held d es ms e) :
    es.countP Event.isStarted ≤ 1 ∧ es.countP Event.isStopped ≤ 1 := by
  have opening {es : List Event} {told : Option Unit}
      (ho : Announced d (.started · d.configuration.sleepSeconds) es told) :
      es.countP Event.isStarted ≤ 1 ∧ es.countP Event.isStopped = 0 := by
    cases ho with
    | unread => exact ⟨by decide, rfl⟩
    | reported => exact ⟨by simp [Event.isStarted], rfl⟩
  have closing {reason : StopReason} {es : List Event} {told : Option Unit}
      (hc : Announced d (.stopped · d.configuration.sleepSeconds reason) es told) :
      es.countP Event.isStarted = 0 ∧ es.countP Event.isStopped ≤ 1 := by
    cases hc with
    | unread => exact ⟨rfl, by decide⟩
    | reported => exact ⟨rfl, by simp [Event.isStopped]⟩
  have turns {es : List Event} {ms : MonitorSet σ} {e : Ending}
      (ht : Loop.Took d.surroundings d.configuration.monitors es ms e) :
      es.countP Event.isStarted = 0 ∧ es.countP Event.isStopped = 0 :=
    ⟨List.countP_eq_zero.2 fun e he => by simp [(ht.not_framing e he).1],
      List.countP_eq_zero.2 fun e he => by simp [(ht.not_framing e he).2]⟩
  cases h with
  | unopened ho =>
    obtain ⟨hstarted, hstopped⟩ := opening ho
    exact ⟨hstarted, by omega⟩
  | unclosed ho ht =>
    obtain ⟨hstarted, hstopped⟩ := opening ho
    obtain ⟨hstarted', hstopped'⟩ := turns ht
    rw [List.countP_append, List.countP_append]
    omega
  | closed ho ht hc =>
    obtain ⟨hstarted, hstopped⟩ := opening ho
    obtain ⟨hstarted', hstopped'⟩ := turns ht
    obtain ⟨hstarted'', hstopped''⟩ := closing hc
    simp only [List.countP_append]
    omega

theorem countP_framing_run (d : Watchdog σ) (allowed : ℕ) (w : σ) :
    (d.run allowed w).events.countP Event.isStarted ≤ 1 ∧
      (d.run allowed w).events.countP Event.isStopped ≤ 1 := by
  by_cases hd : d.Ready
  · obtain ⟨e, hheld, -⟩ := held_of_ready hd allowed w
    exact hheld.countP_framing
  · obtain ⟨fault, hrun⟩ := run_of_not_ready hd allowed w
    rw [hrun]
    exact ⟨Nat.zero_le 1, Nat.zero_le 1⟩

theorem countP_framing_history (d : Watchdog σ) (os : List (Operation σ)) :
    (history d os).countP Event.isStarted ≤ 1 ∧ (history d os).countP Event.isStopped ≤ 1 := by
  rcases history_cases d os with hnil | ⟨l, -, hl⟩
  · rw [hnil]
    exact ⟨Nat.zero_le 1, Nat.zero_le 1⟩
  · rw [hl]
    exact countP_framing_run l.watchdog l.allowed l.world

/-! ### One run -/

/-- What is decided of a run that is asked for.  It is refused for its configuration exactly if the
loop would not rest, in whatever state the watchdog is; and if the loop would rest, it is refused
exactly if the watchdog is not idle.  Else it returns a reason, unless it goes on or something that
was called crashed; and a run that goes on although a stop was asked for returns with the next turn.
If it is refused, nothing happens and nothing changes, and an idle watchdog that was refused a run
is not refused it after a suitable change of its configuration. -/
structure Launch.Decided (l : Launch σ) : Prop where
  invalid_iff : (∃ cause, l.run.result = .returned (.error (.configValidation cause))) ↔
    l.watchdog.configuration.sleepTime = .ofSeconds 0
  late_iff : l.watchdog.configuration.sleepTime ≠ .ofSeconds 0 →
    ((∃ cause, l.run.result = .returned (.error (.lifecycle cause))) ↔
      l.watchdog.lifecycle ≠ .idle)
  begun : l.watchdog.configuration.sleepTime ≠ .ofSeconds 0 → l.watchdog.lifecycle = .idle →
    (∃ reason, l.run.result = .returned (.ok reason)) ∨ l.run.result = .unfinished ∨
      (l.run.result = .crashed ∧ ¬ l.watchdog.Answers)
  ends : l.watchdog.Answers → l.run.result = .unfinished → l.run.watchdog.isStopped = true →
    (l.watchdog.run (l.allowed + 1) l.world).result = .returned (.ok .backgroundTaskStopped)
  unchanged : ∀ fault, l.run.result = .returned (.error fault) →
    l.run.events = [] ∧ l.run.watchdog = l.watchdog ∧ l.run.world = l.world
  repaired : ∀ fault, l.run.result = .returned (.error fault) → l.watchdog.lifecycle = .idle →
    ∀ f, (f l.watchdog.configuration).sleepTime ≠ .ofSeconds 0 → ∀ allowed w fault',
      ((l.run.watchdog.configure f).run allowed w).result ≠ .returned (.error fault')

theorem Launch.decided (l : Launch σ) : l.Decided := by
  obtain ⟨d, allowed, w⟩ := l
  have unchanged (fault : Fault) (h : (d.run allowed w).result = .returned (.error fault)) :
      (d.run allowed w).events = [] ∧ (d.run allowed w).watchdog = d ∧
        (d.run allowed w).world = w := by
    obtain ⟨fault', hrun⟩ := run_of_not_ready (not_ready_of_fault h) allowed w
    rw [hrun]
    exact ⟨rfl, rfl, rfl⟩
  have begins (hsleep : d.configuration.sleepTime ≠ .ofSeconds 0) (hidle : d.lifecycle = .idle)
      (fault : Fault) : (d.run allowed w).result ≠ .returned (.error fault) :=
    fun h => not_ready_of_fault h (ready_iff.2 ⟨hsleep, hidle⟩)
  refine ⟨⟨?_, ?_⟩, fun hsleep => ⟨?_, ?_⟩, ?_,
    fun hd hgoing hstop => run_succ_of_isStopped hd hgoing hstop, unchanged, ?_⟩
  · rintro ⟨cause, h⟩
    by_contra hsleep
    by_cases hidle : d.lifecycle = .idle
    · exact begins hsleep hidle _ h
    · rw [run, run_of_not_idle hsleep hidle] at h
      cases h
  · intro hsleep
    exact ⟨_, congrArg Run.result (run_of_zeroSleepTime hsleep allowed w)⟩
  · rintro ⟨cause, h⟩ hidle
    exact begins hsleep hidle _ h
  · intro hidle
    exact ⟨_, congrArg Run.result (run_of_not_idle hsleep hidle allowed w)⟩
  · intro hsleep hidle
    rcases result_of_ready (ready_iff.2 ⟨hsleep, hidle⟩) allowed w with hok | hgoing | hcrashed
    · exact .inl hok
    · exact .inr (.inl hgoing)
    · exact .inr (.inr ⟨hcrashed, fun hd => run_ne_crashed hd allowed w hcrashed⟩)
  · intro fault h hidle f hf allowed' w' fault' h'
    obtain ⟨-, hsame, -⟩ := unchanged fault h
    refine not_ready_of_fault h' (ready_iff.2 ?_)
    rw [run, hsame]
    exact ⟨hf, hidle⟩

/-- **A watchdog runs once, and runs that are refused change nothing.**  Whatever operations are
applied to an idle watchdog, all that is said in `Launch.Decided` holds of each run they ask for; at
most one run returns a reason, the beginning and the end of a run are reported at most once in all;
and as long as all runs return, the watchdog is idle up to the run that returns a reason, and
stopped from then on. -/
theorem runs_once {d : Watchdog σ} (hd : d.lifecycle = .idle) (os : List (Operation σ)) :
    (∀ l ∈ launches d os, l.Decided) ∧
      (launches d os).countP (·.run.result.isOk) ≤ 1 ∧
      (history d os).countP Event.isStarted ≤ 1 ∧
      (history d os).countP Event.isStopped ≤ 1 ∧
      ((∀ l ∈ launches d os, ∃ result, l.run.result = .returned result) →
        (os.foldl Operation.apply d).lifecycle =
          if (launches d os).any (·.run.result.isOk) then .stopped else .idle) ∧
      ((os.foldl Operation.apply d).lifecycle = .stopped →
        ∀ more, ((os ++ more).foldl Operation.apply d).lifecycle = .stopped) := by
  obtain ⟨hstarted, hstopped⟩ := countP_framing_history d os
  refine ⟨fun l _ => l.decided, countP_launches_le_one (fun l => ready_of_isOk) d os, hstarted,
    hstopped, lifecycle_foldl hd, fun h more => ?_⟩
  rw [List.foldl_append, lifecycle_foldl_of_ne_idle (by rw [h]; nofun), h]

/-- Refused a run without rests, the small watchdog runs after a change of its configuration, and
not once more. -/
theorem small_runs_once :
    let os : List (Operation ℕ) :=
      [.configure ({ · with sleepTime := .ofSeconds 0 }), .run 4 0, .stop,
        .configure ({ · with sleepTime := .ofSeconds 1 }), .run 4 0, .run 4 0]
    (small none).lifecycle = .idle ∧
      ((launches (small none) os).map fun l => l.run.result.isOk) = [false, true, false] ∧
      (history (small none) os).countP Event.isStarted ≤ 1 ∧
      (os.foldl Operation.apply (small none)).lifecycle = .stopped := by
  intro os
  obtain ⟨-, -, hstarted, -, hlifecycle, -⟩ := runs_once (d := small none) rfl os
  have hreturned : ∀ l ∈ launches (small none) os, ∃ result, l.run.result = .returned result :=
    List.forall_mem_cons.2 ⟨⟨_, rfl⟩, List.forall_mem_cons.2 ⟨⟨_, rfl⟩,
      List.forall_mem_cons.2 ⟨⟨_, rfl⟩, List.forall_mem_nil _⟩⟩⟩
  exact ⟨rfl, rfl, hstarted, (hlifecycle hreturned).trans rfl⟩

end Watchdog

end Vigil
