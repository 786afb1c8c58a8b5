import Vigil.Proofs.Watchdog.Conservation
import Vigil.Proofs.Watchdog.Lifetime

/-!
# Accounts of a run

Each turn reads the switch for monitors once, and rests once unless a handler succeeds in it.  The
switch for the handler is read in each turn that finds the other one on, and for the two reports
around the turns.  So a pause that asks for a stop bounds the turns there can be.

* `Loop.Accounted`: how often a stretch of turns reads and rests; `Iterations.accounted`: how often
  turns do that came to an end;
* `Loop.restReply?`, `Loop.rests`, `Watchdog.rests`: what the pause leaves behind at each rest;
* `length_rests`, `length_rests_of_unfinished`, `isStopped_of_mem_rests`: there are as many rests as
  pauses in the trace, one for each turn after which the loop goes on, and a stop that is asked for
  in one of them stays asked for;
* `Watchdog.Accounted`: how a run comes out that returns a reason;
* `run_accounted`: the rest that asks for a stop is the last, and a run comes out so.
-/

namespace Vigil

variable {σ : Type}

/-- The switch for monitors was read. -/
def Event.isRead : Event → Bool
  | .watchdogRead _ => true
  | _ => false

/-- The switch for the handler was read. -/
def Event.isEnforcementRead : Event → Bool
  | .enforcementRead _ => true
  | _ => false

theorem Event.unread_of_ofPass {e : Event} (he : e.ofPass = true) :
    e.isRead = false ∧ e.isEnforcementRead = false := by
  revert he
  fun_cases Event.ofPass e <;> simp [Event.isRead, Event.isEnforcementRead]

namespace Loop

/-! ### Turns that came to an end -/

/-- In a stretch of turns the switch for monitors is read `reads` times, the loop rests `rests`
times, each time as long as it should, and the switch for the handler is read whenever the other
one is found on. -/
structure Accounted (s : Surroundings σ) (reads rests : ℕ) (es : List Event) : Prop where
  reads : es.countP Event.isRead = reads
  rests : es.countP Event.isPaused = rests
  times : ∀ time, .paused time ∈ es → time = s.configuration.sleepTime
  enforcement : es.countP Event.isEnforcementRead = es.countP Event.isEnabled

theorem Accounted.append {s : Surroundings σ} {m n m' n' : ℕ} {es es' : List Event}
    (h : Accounted s m n es) (h' : Accounted s m' n' es') :
    Accounted s (m + m') (n + n') (es ++ es') where
  reads := by rw [List.countP_append, h.reads, h'.reads]
  rests := by rw [List.countP_append, h.rests, h'.rests]
  times time htime := (List.mem_append.1 htime).elim (h.times time) (h'.times time)
  enforcement := by rw [List.countP_append, List.countP_append, h.enforcement, h'.enforcement]

/-- Calling monitors and reporting violations reads no switch and is no rest. -/
theorem Scanned.accounted {s : Surroundings σ} {c : Configuration σ} {h : Handler σ} {i : ℕ}
    {ms ms' : MonitorSet σ} {es : List Event} {out : Outcome} (hs : Scanned c h i ms es ms' out) :
    Accounted s 0 0 es := by
  have absent {p : Event → Bool} (hp : ∀ e, e.ofPass = true → p e = false) : es.countP p = 0 :=
    List.countP_eq_zero.2 fun e he => by simp [hp e (hs.ofPass e he)]
  refine ⟨absent fun e he => (Event.unread_of_ofPass he).1,
    absent fun e he => Event.isPaused_of_ofPass he, fun time htime => ?_, ?_⟩
  · cases hs.ofPass _ htime
  · rw [absent fun e he => (Event.unread_of_ofPass he).2,
      absent fun e he => (Event.uncounted_of_ofPass he).1]

theorem Iteration.accounted {s : Surroundings σ} {ms ms' : MonitorSet σ} {es : List Event}
    {success : Bool} (h : Iteration s ms es ms' success) :
    Accounted s 1 (if success then 0 else 1) es := by
  have opening (on : Bool) :
      Accounted s 1 0 [.watchdogRead (some true), .enforcementRead (some on)] :=
    ⟨rfl, rfl, by simp, rfl⟩
  have handled (name handler : String) (success : Option Bool) :
      Accounted s 0 0 [.diagnosed name, .handled handler success] := ⟨rfl, rfl, by simp, rfl⟩
  have rested : Accounted s 0 1 [.paused s.configuration.sleepTime] := ⟨rfl, rfl, by simp, rfl⟩
  cases h with
  | off => exact ⟨rfl, rfl, by simp, rfl⟩
  | quiet hs => exact ((opening _).append hs.accounted).append rested
  | failed hs =>
    exact ((opening _).append hs.accounted).append ((handled _ _ _).append rested)
  | handled hs => exact ((opening _).append hs.accounted).append (handled _ _ _)

/-- In turns up to the end of the loop there is a rest for each reading, but for the last one if a
handler succeeds. -/
theorem Iterations.accounted {s : Surroundings σ} {w : σ} {stopped : Bool}
    {ms ms' : MonitorSet σ} {its : List (List Event)} {reason : StopReason}
    (h : Iterations s w stopped ms its ms' reason) :
    ∃ rests, Accounted s (rests + if reason = .successfullyHandled then 1 else 0) rests
      its.flatten := by
  induction h with
  | stopped => exact ⟨0, rfl, rfl, by simp, rfl⟩
  | empty => exact ⟨0, rfl, rfl, by simp, rfl⟩
  | handled h => exact ⟨0, by simpa using h.accounted⟩
  | next _ h _ _ ih =>
    obtain ⟨rests, ih⟩ := ih
    refine ⟨1 + rests, ?_⟩
    rw [Nat.add_assoc]
    exact h.accounted.append ih

/-! ### Rests -/

/-- What the pause leaves behind in a turn, if the loop rests in it. -/
def restReply? (s : Surroundings σ) (ms : MonitorSet σ) (x : Scene σ) : Option (Reply σ Unit) :=
  if x.signal.requested || ms.isEmpty then none
  else
    let p := watch s ms x
    if p.value.2 = some false then some (s.pause.call s.configuration.sleepTime p.scene.world)
    else none

/-- A turn and the rest in it.  If a stop is asked for in the rest, it stays asked for. -/
inductive Rested : Option (Reply σ Unit) → Stretch σ (MonitorSet σ × Option Ending) → Prop
  | ended {p : Stretch σ (MonitorSet σ × Option Ending)}
      (hes : p.events.countP Event.isPaused = 0) (hp : p.value.2 ≠ none) : Rested none p
  | rested {r : Reply σ Unit} {p : Stretch σ (MonitorSet σ × Option Ending)}
      (hes : p.events.countP Event.isPaused = 1)
      (hstop : r.stop = true → p.scene.signal.requested = true) : Rested (some r) p

theorem requested_rest (s : Surroundings σ) (x : Scene σ)
    (h : (s.pause.call s.configuration.sleepTime x.world).stop = true) :
    (rest s x).scene.signal.requested = true := by
  unfold rest
  cases hpause : s.pause with
  | interruptible => rw [hpause] at h; cases h
  | custom sleep =>
    rw [hpause] at h
    show (x.signal.requestIf (sleep s.configuration.sleepTime x.world).stop).requested = true
    rw [StopSignal.requested_requestIf, show (sleep s.configuration.sleepTime x.world).stop = true
      from h, Bool.or_true]

theorem turn_rested (s : Surroundings σ) (ms : MonitorSet σ) (x : Scene σ) :
    Rested (restReply? s ms x) (turn s ms x) := by
  unfold restReply?
  cases hx : x.signal.requested with
  | true =>
    rw [turn_of_requested s ms hx]
    exact .ended rfl (Option.some_ne_none _)
  | false =>
    by_cases hms : ms = []
    · subst hms
      rw [turn_nil s hx]
      exact .ended rfl (Option.some_ne_none _)
    · rw [turn_of_ne_nil s hms hx, Act.bind_eq_andThen, if_neg (by simp [hms])]
      have hwatched := (watch_ensures s ms x).countP_isPaused
      generalize watch s ms x = p at hwatched ⊢
      obtain ⟨⟨ms', handled⟩, es, y⟩ := p
      cases handled with
      | none =>
        exact .ended (by simpa [Stretch.andThen, settle, Act.pure_apply] using hwatched)
          (Option.some_ne_none _)
      | some success =>
        cases success with
        | true =>
          exact .ended (by simpa [Stretch.andThen, settle, Act.pure_apply] using hwatched)
            (Option.some_ne_none _)
        | false =>
          obtain ⟨hrested, -⟩ := settle_failed_ensures s ms' y
          refine .rested ?_ fun hstop => requested_rest s y hstop
          dsimp only [Stretch.andThen]
          rw [hrested, List.countP_append, hwatched]
          rfl

/-- What the pause leaves behind at each rest in turns, in order. -/
def rests (s : Surroundings σ) : ℕ → MonitorSet σ → Scene σ → List (Reply σ Unit)
  | 0, _, _ => []
  | allowed + 1, ms, x =>
    let p := turn s ms x
    (restReply? s ms x).toList ++
      match p.value.2 with
      | some _ => []
      | none => rests s allowed p.value.1 p.scene

theorem rests_turn (s : Surroundings σ) (allowed : ℕ) (ms : MonitorSet σ) (x : Scene σ) :
    rests s (allowed + 1) ms x = (restReply? s ms x).toList ++
      match (turn s ms x).value.2 with
      | some _ => []
      | none => rests s allowed (turn s ms x).value.1 (turn s ms x).scene := rfl

theorem length_rests (s : Surroundings σ) (allowed : ℕ) (ms : MonitorSet σ) (x : Scene σ) :
    (rests s allowed ms x).length = (turns s allowed ms x).events.countP Event.isPaused := by
  induction allowed generalizing ms x with
  | zero => rfl
  | succ allowed ih =>
    have hturn := turn_rested s ms x
    rw [turns_succ, rests_turn]
    generalize restReply? s ms x = r?, turn s ms x = p at hturn ⊢
    obtain ⟨⟨ms', ending⟩, es, y⟩ := p
    have hes : r?.toList.length = es.countP Event.isPaused := by
      cases hturn with
      | ended hes => exact hes.symm
      | rested hes => exact hes.symm
    rw [List.length_append, hes]
    cases ending with
    | some e => simp [Stretch.andThen, Act.pure_apply]
    | none => simp [Stretch.andThen, ih]

/-- Each turn after which the loop goes on has a rest. -/
theorem length_rests_of_unfinished {s : Surroundings σ} {allowed : ℕ} {ms : MonitorSet σ}
    {x : Scene σ} (h : (turns s allowed ms x).value.2 = .unfinished) :
    (rests s allowed ms x).length = allowed := by
  induction allowed generalizing ms x with
  | zero => rfl
  | succ allowed ih =>
    have hturned := turn_ensures s ms x
    have hturn := turn_rested s ms x
    rw [turns_succ] at h
    rw [rests_turn]
    generalize restReply? s ms x = r?, turn s ms x = p at h hturned hturn ⊢
    obtain ⟨⟨ms', ending⟩, es, y⟩ := p
    cases ending with
    | some e => exact absurd h hturned.ne_unfinished
    | none =>
      cases hturn with
      | ended _ hp => exact absurd rfl hp
      | rested => simp [ih h]

/-- A stop that is asked for at a rest stays asked for. -/
theorem requested_of_mem_rests {s : Surroundings σ} {allowed : ℕ} {ms : MonitorSet σ}
    {x : Scene σ} {r : Reply σ Unit} (hr : r ∈ rests s allowed ms x) (hstop : r.stop = true) :
    (turns s allowed ms x).scene.signal.requested = true := by
  induction allowed generalizing ms x with
  | zero => cases hr
  | succ allowed ih =>
    have hturn := turn_rested s ms x
    rw [rests_turn, List.mem_append] at hr
    rw [turns_succ]
    generalize restReply? s ms x = r?, turn s ms x = p at hr hturn ⊢
    obtain ⟨⟨ms', ending⟩, es, y⟩ := p
    rcases hr with hr | hr
    · rw [Option.mem_toList] at hr
      subst hr
      cases hturn with
      | rested _ hrequested =>
        have hy : y.signal.requested = true := hrequested hstop
        cases ending with
        | some e => exact hy
        | none => exact turns_keeps s allowed ms' y hy
    · cases ending with
      | some e => cases hr
      | none => exact ih hr

theorem Ticked.countP_isRead {s : Surroundings σ} {ms ms' : MonitorSet σ} {es : List Event}
    {success : Option Bool} (ht : Ticked s ms es ms' success) : es.countP Event.isRead = 0 := by
  cases ht with
  | unread => rfl
  | quiet hs => simpa [Event.isRead] using (hs.accounted (s := s)).reads
  | crashed hs => simpa [Event.isRead] using (hs.accounted (s := s)).reads
  | remedied hs _ hr =>
    have hreads := (hs.accounted (s := s)).reads
    cases hr <;> simpa [Event.isRead, List.countP_append] using hreads

theorem Watched.countP_isRead {s : Surroundings σ} {ms ms' : MonitorSet σ} {es : List Event}
    {success : Option Bool} (hw : Watched s ms es ms' success) : es.countP Event.isRead = 1 := by
  cases hw with
  | unread => rfl
  | off => rfl
  | on ht => rw [List.countP_cons, ht.countP_isRead]; rfl

/-- However a turn ends, it reads the switch for monitors at most once. -/
theorem Turned.countP_isRead_le {s : Surroundings σ} {ms ms' : MonitorSet σ} {es : List Event}
    {e : Option Ending} (ht : Turned s ms es ms' e) : es.countP Event.isRead ≤ 1 := by
  cases ht with
  | stopped => exact Nat.zero_le 1
  | empty => exact Nat.zero_le 1
  | crashed _ hw => exact hw.countP_isRead.le
  | handled _ hw => exact hw.countP_isRead.le
  | rested _ hw =>
    rw [List.countP_append, hw.countP_isRead]
    exact Nat.le_refl 1

theorem countP_isRead_turns_le (s : Surroundings σ) (allowed : ℕ) (ms : MonitorSet σ) :
    (turns s allowed ms).Ensures fun es _ => es.countP Event.isRead ≤ allowed := by
  induction allowed generalizing ms with
  | zero => exact Act.ensures_pure (Nat.le_refl 0)
  | succ allowed ih =>
    intro x
    have hturn := (turn_ensures s ms x).countP_isRead_le
    rw [turns_succ]
    generalize turn s ms x = p at hturn ⊢
    obtain ⟨⟨ms', ending⟩, es, y⟩ := p
    cases ending with
    | some e =>
      simp only [Stretch.andThen, Act.pure_apply, List.append_nil]
      exact Nat.le_trans hturn (Nat.le_add_left 1 allowed)
    | none =>
      have hturns := ih ms' y
      dsimp only at hturn hturns
      simp only [Stretch.andThen, List.countP_append]
      omega

end Loop

namespace Watchdog

/-! ### Runs -/

/-- What the pause leaves behind at each rest in a run that begins. -/
def sessionRests (d : Watchdog σ) (allowed : ℕ) (x : Scene σ) : List (Reply σ Unit) :=
  let p := d.announce (.started · d.configuration.sleepSeconds) x
  if p.value.isNone then []
  else Loop.rests d.surroundings allowed d.configuration.monitors p.scene

/-- What the pause leaves behind at each rest in a run, in order. -/
def rests (d : Watchdog σ) (allowed : ℕ) (w : σ) : List (Reply σ Unit) :=
  match d.configuration.validate, d.lifecycle.start? with
  | .ok (), some _ => d.sessionRests allowed ⟨w, d.signal⟩
  | _, _ => []

theorem rests_of_not_ready {d : Watchdog σ} (hd : ¬ d.Ready) (allowed : ℕ) (w : σ) :
    d.rests allowed w = [] := by
  unfold rests
  split
  next _ hvalid hstart =>
    exact absurd ⟨hvalid, (Lifecycle.start?_eq_some_iff.1 hstart).1⟩ hd
  next => rfl

/-- A run that begins rests in its turns, unless its opening report crashes. -/
theorem rests_cases {d : Watchdog σ} (hd : d.Ready) (allowed : ℕ) (w : σ) :
    let p := d.announce (.started · d.configuration.sleepSeconds) ⟨w, d.signal⟩
    (d.rests allowed w = [] ∧
        d.session allowed ⟨w, d.signal⟩ =
          p.andThen fun _ => pure (d.configuration.monitors, .crashed)) ∨
      (d.rests allowed w =
          Loop.rests d.surroundings allowed d.configuration.monitors p.scene ∧
        d.session allowed ⟨w, d.signal⟩ =
          p.andThen fun _ => d.resume allowed d.configuration.monitors) := by
  have hrests : d.rests allowed w = d.sessionRests allowed ⟨w, d.signal⟩ := by
    rw [rests, hd.1, hd.2]
    rfl
  rw [hrests, session_eq, sessionRests, Act.bind_eq_andThen]
  generalize d.announce _ ⟨w, d.signal⟩ = p
  obtain ⟨began, es, y⟩ := p
  cases began with
  | none => exact .inl ⟨rfl, rfl⟩
  | some _ => exact .inr ⟨rfl, rfl⟩

/-- A report around the turns reads the switch for the handler, and that is all that counts. -/
theorem Announced.accounted {d : Watchdog σ} {notice : String → Notice} {es : List Event}
    {told : Option Unit} (h : Announced d notice es told) :
    es.countP Event.isRead = 0 ∧ es.countP Event.isPaused = 0 ∧
      es.countP Event.isEnforcementRead = 1 ∧ es.countP Event.isEnabled = 0 ∧
      (∀ i, timesCalled i es = 0) ∧ ∀ time, .paused time ∉ es := by
  cases h with
  | unread => exact ⟨rfl, rfl, rfl, rfl, fun _ => rfl, by simp⟩
  | reported => exact ⟨rfl, rfl, rfl, rfl, fun _ => rfl, by simp⟩

/-- The report of the end is no turn. -/
theorem conclude_accounted (d : Watchdog σ) (r : MonitorSet σ × Ending) (x : Scene σ) :
    (d.conclude r x).events.countP Event.isRead = 0 ∧
      (d.conclude r x).events.countP Event.isPaused = 0 := by
  obtain ⟨ms, e⟩ := r
  cases e with
  | done reason =>
    obtain ⟨told, ho, -⟩ := d.conclude_ensures ms reason x
    exact ⟨ho.accounted.1, ho.accounted.2.1⟩
  | crashed => exact ⟨rfl, rfl⟩
  | unfinished => exact ⟨rfl, rfl⟩

/-- The rests in a run are the pauses that are seen in its events. -/
theorem length_rests (d : Watchdog σ) (allowed : ℕ) (w : σ) :
    (d.rests allowed w).length = (d.run allowed w).events.countP Event.isPaused := by
  by_cases hd : d.Ready
  · obtain ⟨-, hopen, -⟩ :=
      (announce_ensures d (.started · d.configuration.sleepSeconds) ⟨w, d.signal⟩).accounted
    rw [run_of_ready hd]
    rcases rests_cases hd allowed w with ⟨hrests, hsession⟩ | ⟨hrests, hsession⟩
    · rw [hrests, hsession]
      simp only [Stretch.andThen, Act.pure_apply, List.append_nil]
      exact hopen.symm
    · rw [hrests, hsession, Loop.length_rests]
      simp [Stretch.andThen, resume, Act.bind_apply, List.countP_append, hopen,
        (d.conclude_accounted _ _).2]
  · obtain ⟨fault, hrun⟩ := run_of_not_ready hd allowed w
    rw [hrun, rests_of_not_ready hd]
    rfl

/-- A run that is not finished has rested in each of its turns. -/
theorem length_rests_of_unfinished {d : Watchdog σ} {allowed : ℕ} {w : σ}
    (h : (d.run allowed w).result = .unfinished) : (d.rests allowed w).length = allowed := by
  have hd := ready_of_run h nofun
  rw [run_of_ready hd] at h
  have hunfinished := Ending.eq_unfinished_of_result h
  rcases rests_cases hd allowed w with ⟨-, hsession⟩ | ⟨hrests, hsession⟩
  · rw [hsession] at hunfinished
    cases hunfinished
  · rw [hsession] at hunfinished
    rw [hrests]
    exact Loop.length_rests_of_unfinished (d.conclude_of_unfinished hunfinished).1

/-- A stop that is asked for at a rest stays asked for. -/
theorem isStopped_of_mem_rests {d : Watchdog σ} {allowed : ℕ} {w : σ} {r : Reply σ Unit}
    (hr : r ∈ d.rests allowed w) (hstop : r.stop = true) :
    (d.run allowed w).watchdog.isStopped = true := by
  by_cases hd : d.Ready
  · rw [run_of_ready hd]
    rcases rests_cases hd allowed w with ⟨hrests, -⟩ | ⟨hrests, hsession⟩
    · rw [hrests] at hr
      cases hr
    · rw [hrests] at hr
      rw [hsession]
      exact d.conclude_keeps _ _ (Loop.requested_of_mem_rests hr hstop)
  · rw [rests_of_not_ready hd] at hr
    cases hr

/-- A run reads the switch for monitors no more often than it may take turns. -/
theorem countP_isRead_run_le (d : Watchdog σ) (allowed : ℕ) (w : σ) :
    (d.run allowed w).events.countP Event.isRead ≤ allowed := by
  by_cases hd : d.Ready
  · obtain ⟨hopen, -⟩ :=
      (announce_ensures d (.started · d.configuration.sleepSeconds) ⟨w, d.signal⟩).accounted
    rw [run_of_ready hd]
    rcases rests_cases hd allowed w with ⟨-, hsession⟩ | ⟨-, hsession⟩
    · rw [hsession]
      simp [Stretch.andThen, Act.pure_apply, hopen]
    · rw [hsession]
      simpa [Stretch.andThen, resume, Act.bind_apply, List.countP_append, hopen,
        (d.conclude_accounted _ _).1] using Loop.countP_isRead_turns_le _ _ _ _
  · obtain ⟨fault, hrun⟩ := run_of_not_ready hd allowed w
    rw [hrun]
    exact Nat.zero_le allowed

/-! ### Ends -/

/-- If the pause asks for a stop at its `limit`-th call, the loop ends before it takes another turn
after that. -/
theorem run_of_stopping_rest {d : Watchdog σ} {limit : ℕ} (hlimit : 0 < limit) {w : σ}
    (hstop : ∀ r ∈ (d.rests limit w)[limit - 1]?, r.stop = true) (more : ℕ) :
    (d.run (limit + 1 + more) w).result ≠ .unfinished ∧
      (d.run (limit + 1 + more) w).events.countP Event.isRead ≤ limit := by
  have hreads := countP_isRead_run_le d limit w
  by_cases hunfinished : (d.run limit w).result = .unfinished
  · -- The loop has rested in each turn, the last time with a request to stop.
    have hlast : limit - 1 < (d.rests limit w).length := by
      rw [length_rests_of_unfinished hunfinished]
      omega
    have hrequest := hstop _ (Option.mem_def.2 (List.getElem?_eq_getElem hlast))
    have hstopped := isStopped_of_mem_rests (List.getElem_mem hlast) hrequest
    obtain ⟨es, hevents, told, ho, hresult⟩ := run_of_isStopped hunfinished hstopped more
    refine ⟨?_, ?_⟩
    · rw [hresult]
      split <;> nofun
    · rw [hevents, List.countP_append, ho.accounted.1]
      exact hreads
  · rw [show limit + 1 + more = limit + (1 + more) by omega, run_add_of_ne_unfinished hunfinished]
    exact ⟨hunfinished, hreads⟩

/-- How a run comes out that returns a reason.  The loop rests after each reading of the switch for
monitors, but for the last one if a handler succeeds, and each rest is as long as it should be.  The
switch for the handler is read where the other one is found on, and for the two reports around the
turns.  Without monitors, and if a stop was asked for before, there are no turns. -/
structure Accounted (d : Watchdog σ) (reason : StopReason) (es : List Event) : Prop where
  rests : es.countP Event.isPaused + (if reason = .successfullyHandled then 1 else 0) =
    es.countP Event.isRead
  times : ∀ time, .paused time ∈ es → time = d.configuration.sleepTime
  enforcement : es.countP Event.isEnforcementRead = es.countP Event.isEnabled + 2
  idle : d.configuration.monitors = [] ∨ d.isStopped = true →
    es.countP Event.isPaused = 0 ∧ es.countP Event.isRead = 0 ∧ ∀ i, timesCalled i es = 0

/-- Turns do nothing if a stop was asked for before, or if there are no monitors. -/
theorem resume_of_idle (d : Watchdog σ) (more : ℕ) {x : Scene σ}
    (h : d.configuration.monitors = [] ∨ x.signal.requested = true) :
    ∃ reason, d.resume (more + 1) d.configuration.monitors x =
      d.conclude (d.configuration.monitors, .done reason) x := by
  cases hx : x.signal.requested with
  | true => exact ⟨_, d.resume_of_requested more _ hx⟩
  | false =>
    obtain hms := h.resolve_right (by simp [hx])
    refine ⟨.monitorsNotConfigured, ?_⟩
    rw [hms, d.resume_succ, Loop.turn_nil _ hx]
    rfl

theorem accounted_of_idle {d : Watchdog σ} {allowed : ℕ} {w : σ} {reason : StopReason}
    (hr : (d.run allowed w).result = .returned (.ok reason))
    (h : d.configuration.monitors = [] ∨ d.isStopped = true) :
    let es := (d.run allowed w).events
    es.countP Event.isPaused = 0 ∧ es.countP Event.isRead = 0 ∧ ∀ i, timesCalled i es = 0 := by
  have hd := ready_of_run hr nofun
  obtain ⟨hreads, hpauses, -, -, hcalls, -⟩ :=
    (announce_ensures d (.started · d.configuration.sleepSeconds) ⟨w, d.signal⟩).accounted
  have hkept := d.announce_keeps (.started · d.configuration.sleepSeconds) ⟨w, d.signal⟩
  rw [run_of_ready hd] at hr ⊢
  have hdone := Ending.eq_done_of_result hr
  rcases rests_cases hd allowed w with ⟨-, hsession⟩ | ⟨-, hsession⟩
  · rw [hsession] at hdone
    cases hdone
  · cases allowed with
    | zero =>
      rw [hsession] at hdone
      cases hdone
    | succ allowed =>
      obtain ⟨reason', hresume⟩ := d.resume_of_idle allowed (h.imp_right hkept)
      obtain ⟨told, hclose, -⟩ := d.conclude_ensures d.configuration.monitors reason'
        (d.announce (.started · d.configuration.sleepSeconds) ⟨w, d.signal⟩).scene
      obtain ⟨hreads', hpauses', -, -, hcalls', -⟩ := hclose.accounted
      rw [hsession, Stretch.andThen, hresume]
      dsimp only
      refine ⟨?_, ?_, fun i => ?_⟩
      · rw [List.countP_append, hpauses, hpauses']
      · rw [List.countP_append, hreads, hreads']
      · rw [timesCalled_append, hcalls, hcalls']

/-- A run that returns a reason is turns that came to an end between two reports. -/
theorem accounted_of_returned {d : Watchdog σ} {allowed : ℕ} {w : σ} {reason : StopReason}
    (hr : (d.run allowed w).result = .returned (.ok reason)) :
    d.Accounted reason (d.run allowed w).events := by
  have hidle := accounted_of_idle hr
  obtain ⟨on, on', its, _, _, hevents, -, hits⟩ := iterations_of_returned hr
  obtain ⟨rests, hturns⟩ := hits.accounted
  rw [hevents] at hidle ⊢
  generalize its.flatten = turns at hidle hturns ⊢
  refine ⟨?_, fun time htime => ?_, ?_, hidle⟩
  · simp [List.countP_append, Event.isPaused, Event.isRead, hturns.rests, hturns.reads]
  · exact hturns.times time (by simpa using htime)
  · rw [List.countP_append, List.countP_append, hturns.enforcement, List.countP_append,
      List.countP_append]
    show 1 + turns.countP Event.isEnabled + 1 = 0 + turns.countP Event.isEnabled + 0 + 2
    omega

/-- **Accounts of a run.**  If the pause asks for a stop at its `limit`-th call, a run ends after at
most `limit` turns, in each of which the switch for monitors is read once; and where all calls are
answered it returns.  A run that returns a reason rests once for each such reading, or once less if
a handler succeeded, each time for the time that is configured; and the switch for the handler is
read in each turn that finds the other one on, and for the reports of the beginning and the end. -/
theorem run_accounted (d : Watchdog σ) (w : σ) :
    (∀ limit, 0 < limit → (∀ r ∈ (d.rests limit w)[limit - 1]?, r.stop = true) → ∀ more,
      (d.run (limit + 1 + more) w).result ≠ .unfinished ∧
        (d.run (limit + 1 + more) w).events.countP Event.isRead ≤ limit ∧
        (d.Answers → ∃ result, (d.run (limit + 1 + more) w).result = .returned result)) ∧
    ∀ allowed,
      (d.rests allowed w).length = (d.run allowed w).events.countP Event.isPaused ∧
      ∀ reason, (d.run allowed w).result = .returned (.ok reason) →
        d.Accounted reason (d.run allowed w).events := by
  refine ⟨fun limit hlimit hstop more => ?_, fun allowed => ⟨d.length_rests allowed w,
    fun reason hr => accounted_of_returned hr⟩⟩
  obtain ⟨hunfinished, hreads⟩ := run_of_stopping_rest hlimit hstop more
  refine ⟨hunfinished, hreads, fun hd => ?_⟩
  have hcrashed := run_ne_crashed hd (limit + 1 + more) w
  cases hresult : (d.run (limit + 1 + more) w).result with
  | returned result => exact ⟨result, rfl⟩
  | crashed => exact absurd hresult hcrashed
  | unfinished => exact absurd hresult hunfinished

/-- The small watchdog with a switch for monitors that is off in every other turn, and a pause that
asks for a stop at its `limit`-th call. -/
def limited (limit : ℕ) : Watchdog ℕ :=
  { small none with
    toggles := ⟨fun turn => ⟨some (turn % 2 == 0), false, turn⟩, Call.pure true⟩
    pause := .custom fun _ turn => ⟨some (), turn + 1 == limit, turn + 1⟩ }

theorem limited_answers (limit : ℕ) : (limited limit).Answers where
  surroundings :=
    ⟨fun _ => rfl, fun _ _ => rfl, fun _ _ => rfl, fun _ => rfl, fun _ => rfl, fun _ _ => rfl⟩
  monitors := List.forall_mem_singleton.2 fun _ => rfl

/-- In three turns with the first and the last of them on, the limited watchdog reads the switch
for its handler twice and for its reports twice, and rests three times. -/
theorem limited_run_accounted :
    (∀ r ∈ ((limited 3).rests 3 0)[3 - 1]?, r.stop = true) ∧ (limited 3).Answers ∧
      (∃ result, ((limited 3).run 7 0).result = .returned result) ∧
      ((limited 3).run 7 0).events.countP Event.isRead = 3 ∧
      ((limited 3).run 7 0).events.countP Event.isPaused = 3 ∧
      ((limited 3).run 7 0).events.countP Event.isEnforcementRead = 4 := by
  have hstop : ∀ r ∈ ((limited 3).rests 3 0)[3 - 1]?, r.stop = true := by
    intro r hr
    obtain rfl := Option.some.inj hr
    rfl
  obtain ⟨hends, hcomes⟩ := run_accounted (limited 3) 0
  obtain ⟨-, -, hreturns⟩ := hends 3 (by decide) hstop 3
  have haccounted := (hcomes 7).2 .backgroundTaskStopped rfl
  exact ⟨hstop, limited_answers 3, hreturns (limited_answers 3), rfl, haccounted.rests,
    haccounted.enforcement⟩

end Watchdog

end Vigil
