import Mathlib.Logic.Function.Basic
import Vigil.Proofs.Watchdog.Requests

/-!
# Resting and waking between threads

A loop that rests interruptibly, and any number of requests to stop that other threads make of it.
The loop checks the flag, works, and rests until a token is there or the time is over.  A request
raises the flag, and then it sends a token; all sorts of things may happen between the two.

* `State`, `Action`, `Step`, `Path`: one step at a time, in any order;
* `Sound`: what holds of flag, token and requests at any moment; `Path.sound`;
* `Woken`, `Answered`: what is left to happen once a token was taken, and once a request returned;
* `wakeUps_of_path`: no wake-up is lost, and none is spurious;
* `Path.exists_turns`: the turns of a loop are such paths.
-/

namespace Vigil

namespace Threads

/-- Where the loop is: before a check of the flag, the first one included, between a check and a
rest, at rest, or at its end. -/
inductive Phase where
  | checking
  | working
  | resting
  | over
  deriving DecidableEq, Repr

/-- How far a request to stop has come: the flag is raised, then its token was sent, or there was no
room for it. -/
inductive Progress where
  | pending
  | raised
  | returned
  deriving DecidableEq, Repr

/-- A loop and the requests to stop, which are told apart by indices from `ι`: where the loop is,
the flag and the token that all requests share, how far each request has come, and whether the loop
still holds its end of the channel for tokens. -/
structure State (ι : Type) where
  phase : Phase := .checking
  signal : StopSignal := {}
  progress : ι → Progress := fun _ => .pending
  connected : Bool := true

/-- What the loop does, and what the requests do.  The loop looks at the flag, ends for another
reason, begins to rest, takes the token and ends the rest, ends it because the time is over, and
gives up the channel after its end; a request raises the flag, then sends its token and returns. -/
inductive Action (ι : Type) where
  | check
  | leave
  | pause
  | wakeUp
  | timeOut
  | close
  | raise (j : ι)
  | send (j : ι)
  deriving DecidableEq

variable {ι : Type} [DecidableEq ι]

/-! ### Steps -/

/-- One step.  A rest does not go on until the time is over if there is a token, and a token that
finds no room or no receiver is dropped. -/
inductive Step (s : State ι) : Action ι → State ι → Prop
  | proceed (hp : s.phase = .checking) (hr : s.signal.requested = false) :
      Step s .check { s with phase := .working }
  | quit (hp : s.phase = .checking) (hr : s.signal.requested = true) :
      Step s .check { s with phase := .over }
  | leave (hp : s.phase = .working) : Step s .leave { s with phase := .over }
  | pause (hp : s.phase = .working) : Step s .pause { s with phase := .resting }
  | wakeUp (hp : s.phase = .resting) (ht : s.signal.takeToken.1 = true) :
      Step s .wakeUp { s with phase := .checking, signal := s.signal.takeToken.2 }
  | timeOut (hp : s.phase = .resting) (ht : s.signal.takeToken.1 = false) :
      Step s .timeOut { s with phase := .checking, signal := s.signal.takeToken.2 }
  | close (hp : s.phase = .over) : Step s .close { s with connected := false }
  | raise {j : ι} (hj : s.progress j = .pending) :
      Step s (.raise j)
        { s with signal := s.signal.raise, progress := Function.update s.progress j .raised }
  | send {j : ι} (hj : s.progress j = .raised) :
      Step s (.send j)
        { s with
          signal := if s.connected then s.signal.wake else s.signal
          progress := Function.update s.progress j .returned }

/-- Steps, with what was done in them. -/
inductive Path (s : State ι) : List (Action ι) → State ι → Prop
  | nil : Path s [] s
  | snoc {as : List (Action ι)} {t u : State ι} {a : Action ι} (ht : Path s as t)
      (hu : Step t a u) : Path s (as ++ [a]) u

theorem Path.append {s t u : State ι} {as bs : List (Action ι)} (ht : Path s as t)
    (hu : Path t bs u) : Path s (as ++ bs) u := by
  induction hu with
  | nil => rwa [List.append_nil]
  | snoc _ hstep ih =>
    rw [← List.append_assoc]
    exact ih.snoc hstep

/-! ### Flag, token and requests -/

/-- A request that has returned has left a token, unless the loop was past its last rest. -/
structure Sound (s : State ι) : Prop where
  requested_of_token : s.signal.token = true → s.signal.requested = true
  requested_of_progress : ∀ j, s.progress j ≠ .pending → s.signal.requested = true
  token_of_returned : ∀ j, s.progress j = .returned →
    s.phase = .working ∨ s.phase = .resting → s.signal.token = true
  connected_of_phase : s.phase ≠ .over → s.connected = true

omit [DecidableEq ι] in
theorem sound_start : Sound ({} : State ι) :=
  ⟨nofun, fun _ h => absurd rfl h, nofun, fun _ => rfl⟩

theorem Step.sound {s t : State ι} {a : Action ι} (hs : Sound s) (h : Step s a t) : Sound t := by
  obtain ⟨htoken, hprogress, hreturned, hconnected⟩ := hs
  cases h with
  | proceed hp hr =>
    refine ⟨htoken, hprogress, fun j hj _ => ?_, fun _ => hconnected (by simp [hp])⟩
    -- The check would have seen a request that has returned.
    change s.progress j = .returned at hj
    have hrequested := hprogress j (by simp [hj])
    simp [hr] at hrequested
  | quit => exact ⟨htoken, hprogress, by simp, by simp⟩
  | leave => exact ⟨htoken, hprogress, by simp, by simp⟩
  | pause hp =>
    exact ⟨htoken, hprogress, fun j hj _ => hreturned j hj (.inl hp),
      fun _ => hconnected (by simp [hp])⟩
  | wakeUp hp => exact ⟨nofun, hprogress, by simp, fun _ => hconnected (by simp [hp])⟩
  | timeOut hp => exact ⟨nofun, hprogress, by simp, fun _ => hconnected (by simp [hp])⟩
  | close hp => exact ⟨htoken, hprogress, hreturned, fun h => absurd hp h⟩
  | @raise i hi =>
    refine ⟨fun _ => rfl, fun _ _ => rfl, fun j hj hp => ?_, hconnected⟩
    -- The request that has raised the flag has not returned yet.
    by_cases hij : j = i
    · simp [hij] at hj
    · exact hreturned j (by simpa [hij] using hj) hp
  | @send i hi =>
    have hrequested : s.signal.requested = true := hprogress i (by simp [hi])
    have hsignal : (if s.connected then s.signal.wake else s.signal).requested = true := by
      split <;> exact hrequested
    refine ⟨fun _ => hsignal, fun _ _ => hsignal, fun j _ hp => ?_, hconnected⟩
    -- Before its end the loop holds the channel, so there is a token now if there was none.
    have hover : s.phase ≠ .over := by
      intro h
      simp [h] at hp
    simp [hconnected hover, StopSignal.wake]

theorem Path.sound {s t : State ι} {as : List (Action ι)} (hs : Sound s) (h : Path s as t) :
    Sound t := by
  induction h with
  | nil => exact hs
  | snoc _ hstep ih => exact hstep.sound ih

theorem Step.requested {s t : State ι} {a : Action ι} (hs : s.signal.requested = true)
    (h : Step s a t) : t.signal.requested = true := by
  cases h with
  | raise => rfl
  | send =>
    show (if s.connected then s.signal.wake else s.signal).requested = true
    split <;> exact hs
  | _ => exact hs

theorem Step.returned {s t : State ι} {a : Action ι} {j : ι} (hs : s.progress j = .returned)
    (h : Step s a t) : t.progress j = .returned := by
  cases h with
  | @raise i hi =>
    have hij : j ≠ i := by
      rintro rfl
      rw [hi] at hs
      cases hs
    simpa [hij] using hs
  | @send i hi =>
    by_cases hij : j = i
    · simp [hij]
    · simpa [hij] using hs
  | _ => exact hs

/-! ### What is left to happen -/

/-- Once a token was taken: no rest begins, and the next check ends the loop. -/
structure Woken (bs : List (Action ι)) (t : State ι) : Prop where
  phase : t.phase = .checking ∨ t.phase = .over
  pause : .pause ∉ bs
  check : .check ∈ bs → t.phase = .over

/-- Once a request has returned: the loop begins at most one rest, none goes on until the time is
over, and the next check ends the loop. -/
structure Answered (bs : List (Action ι)) (t : State ι) : Prop where
  pause : bs.count .pause + (if t.phase = .working then 1 else 0) ≤ 1
  token : t.phase = .working ∨ t.phase = .resting → t.signal.token = true
  timeOut : .timeOut ∉ bs
  check : .check ∈ bs → t.phase = .over

theorem Path.requested {s t : State ι} {as : List (Action ι)} (hs : s.signal.requested = true)
    (h : Path s as t) : t.signal.requested = true := by
  induction h with
  | nil => exact hs
  | snoc _ hstep ih => exact hstep.requested ih

theorem Path.returned {s t : State ι} {as : List (Action ι)} {j : ι}
    (hs : s.progress j = .returned) (h : Path s as t) : t.progress j = .returned := by
  induction h with
  | nil => exact hs
  | snoc _ hstep ih => exact hstep.returned ih

/-- A token is taken only after a flag was raised. -/
theorem Path.requested_of_wakeUp {s t : State ι} {as : List (Action ι)} (hs : Sound s)
    (h : Path s as t) (ha : .wakeUp ∈ as) : t.signal.requested = true := by
  induction h with
  | nil => simp at ha
  | @snoc as t u a ht hstep ih =>
    rcases List.mem_append.1 ha with ha | ha
    · exact hstep.requested (ih ha)
    · obtain rfl : Action.wakeUp = a := by simpa using ha
      cases hstep with
      | wakeUp _ htoken => exact (ht.sound hs).requested_of_token htoken

theorem Step.woken {s t : State ι} {as : List (Action ι)} {a : Action ι}
    (hr : s.signal.requested = true) (hs : Woken as s) (h : Step s a t) :
    Woken (as ++ [a]) t := by
  obtain ⟨hphase, hpause, hcheck⟩ := hs
  cases h with
  | proceed _ hr' => simp [hr] at hr'
  | quit => exact ⟨.inr rfl, by simpa using hpause, fun _ => rfl⟩
  | leave hp => simp [hp] at hphase
  | pause hp => simp [hp] at hphase
  | wakeUp hp => simp [hp] at hphase
  | timeOut hp => simp [hp] at hphase
  | close => exact ⟨hphase, by simpa using hpause, by simpa using hcheck⟩
  | raise => exact ⟨hphase, by simpa using hpause, by simpa using hcheck⟩
  | send => exact ⟨hphase, by simpa using hpause, by simpa using hcheck⟩

theorem Path.woken {s t : State ι} {as : List (Action ι)} (hr : s.signal.requested = true)
    (hp : s.phase = .checking) (h : Path s as t) : Woken as t := by
  induction h with
  | nil => exact ⟨.inl hp, by simp, by simp⟩
  | snoc ht hstep ih => exact hstep.woken (ht.requested hr) ih

theorem Step.answered {s t : State ι} {as : List (Action ι)} {a : Action ι} {j : ι}
    (hs : Sound s) (hj : s.progress j = .returned) (has : Answered as s) (h : Step s a t) :
    Answered (as ++ [a]) t := by
  have htoken := (h.sound hs).token_of_returned j (h.returned hj)
  have hrequested : s.signal.requested = true := hs.requested_of_progress j (by simp [hj])
  obtain ⟨hpause, htoken', htimeOut, hcheck⟩ := has
  cases h with
  | proceed _ hr => simp [hr] at hrequested
  | quit hp => exact ⟨by simpa [hp] using hpause, htoken, by simpa using htimeOut, fun _ => rfl⟩
  | leave hp =>
    refine ⟨?_, htoken, by simpa using htimeOut, fun _ => rfl⟩
    simp only [hp, if_true] at hpause
    simp [List.count_append]
    omega
  | pause hp | wakeUp hp =>
    simp only [hp, reduceCtorEq, imp_false] at hcheck
    refine ⟨?_, htoken, by simpa using htimeOut, by simpa using hcheck⟩
    simpa [hp, List.count_append] using hpause
  | timeOut hp ht =>
    -- The token of the request that has returned is there.
    have := htoken' (.inr hp)
    simp [StopSignal.takeToken, this] at ht
  | close | raise | send =>
    exact ⟨by simpa using hpause, htoken, by simpa using htimeOut, by simpa using hcheck⟩

theorem Path.answered {s t : State ι} {as : List (Action ι)} {j : ι} (hs : Sound s)
    (hj : s.progress j = .returned) (h : Path s as t) : Answered as t := by
  induction h with
  | nil => exact ⟨by simp; split <;> simp, hs.token_of_returned j hj, by simp, by simp⟩
  | snoc ht hstep ih => exact hstep.answered (ht.sound hs) (ht.returned hj) ih

/-- **No wake-up is lost, and none is spurious.**  However the loop and the requests take their
steps, there is or was a token only if the flag is raised; after a token was taken no rest begins
and the next check ends the loop; and after a request has returned the loop begins at most one
rest, a rest finds a token and does not go on until the time is over, and the next check ends the
loop. -/
theorem wakeUps_of_path {s : State ι} {as : List (Action ι)} (hs : Path {} as s) :
    (s.signal.token = true ∨ .wakeUp ∈ as → s.signal.requested = true) ∧
      (∀ t, Step s .wakeUp t → ∀ bs u, Path t bs u → Woken bs u) ∧
      ∀ j, s.progress j = .returned → ∀ bs t, Path s bs t →
        Answered bs t ∧
          (t.phase = .resting → (∃ u, Step t .wakeUp u) ∧ ∀ u, ¬ Step t .timeOut u) := by
  have hsound := hs.sound sound_start
  refine ⟨?_, ?_, ?_⟩
  · rintro (htoken | htaken)
    · exact hsound.requested_of_token htoken
    · exact hs.requested_of_wakeUp sound_start htaken
  · intro t hst bs u hu
    cases hst with
    | wakeUp _ ht =>
      refine hu.woken ?_ rfl
      exact hsound.requested_of_token ht
  · intro j hj bs t ht
    have hanswered := ht.answered hsound hj
    refine ⟨hanswered, fun hp => ?_⟩
    have htoken : t.signal.takeToken.1 = true := hanswered.token (.inr hp)
    refine ⟨⟨_, .wakeUp hp htoken⟩, fun u hu => ?_⟩
    cases hu with
    | timeOut _ hnone => simp [hnone] at htoken

/-- A request that raises the flag after the check and returns during the rest ends that rest. -/
theorem wakeUps_of_late_request :
    ∃ s : State ℕ, Path {} [.check, .raise 0, .pause, .send 0] s ∧ s.phase = .resting ∧
      s.progress 0 = .returned ∧ ∀ u, ¬ Step s .timeOut u := by
  have hs : Path ({} : State ℕ) [.check, .raise 0, .pause, .send 0] _ :=
    (((Path.nil.snoc (.proceed rfl rfl)).snoc (.raise rfl)).snoc (.pause rfl)).snoc (.send rfl)
  exact ⟨_, hs, rfl, rfl, (((wakeUps_of_path hs).2.2 0 rfl [] _ .nil).2 rfl).2⟩

/-! ### The turns of a loop -/

variable {σ : Type}

/-- A state of the loop with this signal, while not all requests were made. -/
structure Fits (s : State ℕ) (signal : StopSignal) : Prop where
  signal : s.signal = signal
  connected : s.connected = true
  pending : ∃ n, ∀ j ≥ n, s.progress j = .pending

/-- What a stretch of the loop asks for is one more request, or none. -/
theorem Fits.exists_request {s : State ℕ} {signal : StopSignal} (hs : Fits s signal)
    (wanted : Bool) :
    ∃ as t, Path s as t ∧ Fits t (signal.requestIf wanted) ∧ t.phase = s.phase ∧
      as.count .pause = 0 := by
  cases wanted with
  | false => exact ⟨[], s, .nil, hs, rfl, rfl⟩
  | true =>
    obtain ⟨rfl, hconnected, n, hn⟩ := hs
    have hraise := Step.raise (hn n (Nat.le_refl n))
    refine ⟨[.raise n, .send n], _, (Path.nil.snoc hraise).snoc (.send (by simp)), ?_, rfl, rfl⟩
    refine ⟨by simp [hconnected]; rfl, hconnected, n + 1, fun j hj => ?_⟩
    have hne : j ≠ n := by omega
    simpa [hne] using hn j (by omega)

/-- A rest ends with a step, by the token if there is one. -/
theorem Fits.exists_rest {s : State ℕ} {signal : StopSignal} (hs : Fits s signal)
    (hp : s.phase = .working) :
    ∃ as t, Path s as t ∧ Fits t signal.takeToken.2 ∧ t.phase = .checking ∧
      as.count .pause = 1 := by
  obtain ⟨rfl, hconnected, hpending⟩ := hs
  have hpause := Path.nil.snoc (Step.pause hp)
  cases htoken : s.signal.takeToken.1 with
  | true =>
    exact ⟨[.pause, .wakeUp], _, hpause.snoc (.wakeUp rfl htoken), ⟨rfl, hconnected, hpending⟩,
      rfl, rfl⟩
  | false =>
    exact ⟨[.pause, .timeOut], _, hpause.snoc (.timeOut rfl htoken), ⟨rfl, hconnected, hpending⟩,
      rfl, rfl⟩

theorem settle_of_interruptible {s : Surroundings σ} (hs : s.pause = .interruptible)
    (ms : MonitorSet σ) (x : Scene σ) :
    Loop.settle s (ms, some false) x =
      ⟨(ms, none), [.paused s.configuration.sleepTime],
        { x with signal := x.signal.takeToken.2 }⟩ := by
  simp only [Loop.settle, Loop.rest, hs]
  rfl

/-- One turn of the loop is a path from one check to the next. -/
theorem Path.exists_turn {s : Surroundings σ} (hs : s.pause = .interruptible) (ms : MonitorSet σ)
    {x : Scene σ} {p : State ℕ} (hp : p.phase = .checking) (hfit : Fits p x.signal) :
    ∃ as q, Path p as q ∧ Fits q (Loop.turn s ms x).scene.signal ∧
      q.phase = (if (Loop.turn s ms x).value.2.isNone then .checking else .over) ∧
      as.count .pause = (Loop.turn s ms x).events.countP Event.isPaused := by
  obtain ⟨hsignal, hconnected, hpending⟩ := hfit
  cases hr : x.signal.requested with
  | true =>
    rw [Loop.turn_of_requested s ms hr]
    exact ⟨[.check], _, Path.nil.snoc (.quit hp (by rw [hsignal, hr])),
      ⟨hsignal, hconnected, hpending⟩, rfl, rfl⟩
  | false =>
    have hcheck := Path.nil.snoc (Step.proceed hp (by rw [hsignal, hr]))
    by_cases hms : ms = []
    · subst hms
      rw [Loop.turn_nil s hr]
      exact ⟨[.check, .leave], _, hcheck.snoc (.leave rfl), ⟨hsignal, hconnected, hpending⟩,
        rfl, rfl⟩
    · have hwatched := (Loop.watch_ensures s ms x).countP_isPaused
      obtain ⟨wanted, hwanted⟩ := Loop.watch_asks s ms x
      obtain ⟨as, q, hq, hfit, hphase, hcount⟩ :=
        Fits.exists_request (s := { p with phase := .working })
          ⟨hsignal, hconnected, hpending⟩ wanted
      rw [← hwanted] at hfit
      -- Requests that the pass makes come between the check and the rest.
      have hworked := hcheck.append hq
      have hleft : Path p _ { q with phase := .over } := hworked.snoc (.leave hphase)
      rw [Loop.turn_of_ne_nil s hms hr, Act.bind_eq_andThen]
      generalize Loop.watch s ms x = r at hwatched hfit
      obtain ⟨⟨ms', handled⟩, es, y⟩ := r
      match handled with
      | none | some true =>
        exact ⟨_, _, hleft, ⟨hfit.signal, hfit.connected, hfit.pending⟩, rfl,
          by simp [Stretch.andThen, Loop.settle, Act.pure_apply, hwatched, hcount]⟩
      | some false =>
        obtain ⟨bs, t, ht, hfit', hphase', hcount'⟩ := hfit.exists_rest hphase
        have hsettle := settle_of_interruptible hs ms' y
        refine ⟨_, t, hworked.append ht, ?_, ?_, ?_⟩
        · simpa [Stretch.andThen, hsettle] using hfit'
        · simpa [Stretch.andThen, hsettle] using hphase'
        · simp [Stretch.andThen, hsettle, hwatched, hcount, hcount', Event.isPaused]

/-- **The step relation covers the loop.**  Turns with an interruptible pause are a path with as
many rests. -/
theorem Path.exists_turns {s : Surroundings σ} (hs : s.pause = .interruptible) (allowed : ℕ)
    (ms : MonitorSet σ) {x : Scene σ} {p : State ℕ} (hp : p.phase = .checking)
    (hfit : Fits p x.signal) :
    ∃ as q, Path p as q ∧ Fits q (Loop.turns s allowed ms x).scene.signal ∧
      q.phase = (if (Loop.turns s allowed ms x).value.2 = .unfinished then .checking else .over) ∧
      as.count .pause = (Loop.turns s allowed ms x).events.countP Event.isPaused := by
  induction allowed generalizing ms x p with
  | zero => exact ⟨[], p, .nil, hfit, hp, rfl⟩
  | succ allowed ih =>
    obtain ⟨as, q, hq, hfit', hphase, hcount⟩ := Path.exists_turn hs ms hp hfit
    have hturned := Loop.turn_ensures s ms x
    rw [Loop.turns_succ]
    generalize Loop.turn s ms x = r at hfit' hphase hcount hturned
    obtain ⟨⟨ms', ending⟩, es, y⟩ := r
    cases ending with
    | some e =>
      refine ⟨as, q, hq, hfit', ?_, by simpa [Stretch.andThen, Act.pure_apply] using hcount⟩
      simpa [Stretch.andThen, Act.pure_apply, hturned.ne_unfinished] using hphase
    | none =>
      obtain ⟨bs, t, ht, hfit'', hphase', hcount'⟩ := ih ms' hphase hfit'
      exact ⟨as ++ bs, t, hq.append ht, hfit'', hphase', by
        simp only [Stretch.andThen, List.count_append, List.countP_append, hcount, hcount']⟩

end Threads

end Vigil
