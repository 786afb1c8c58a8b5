import Vigil.Proofs.Watchdog.Answers

/-!
# Calls of handlers

Each call of a handler in a run, with the worlds around it: the one in which the switch for the
handler was read, and the one in which the call began.  Between the two lie the calls of monitors,
the reports and the hook, any of which may change the world.

* `HandlerCall`: a call of a handler;
* `Loop.approach`, `Loop.Due.remedy`: a pass up to the call of a handler, and the call;
* `Loop.call?`, `Loop.calls`: the call in a turn, and those in turns;
* `Loop.Attended`, `Loop.Acted`, `Loop.Called`: what passes, turns and many turns have to do with
  the calls in them;
* `Watchdog.handlerCalls`: the calls in a run; `Watchdog.Called`, `Watchdog.run_called`: how the
  run ends decides how they went.
-/

namespace Vigil

variable {σ : Type}

/-- A handler is called. -/
def Event.isHandled : Event → Bool
  | .handled .. => true
  | _ => false

/-- Strikes are reported as spent. -/
def Event.isSpent : Event → Bool
  | .reported (.strikesExceeded ..) => true
  | _ => false

theorem Event.isHandled_of_ofPass {e : Event} (he : e.ofPass = true) : e.isHandled = false := by
  revert he
  fun_cases Event.ofPass e <;> simp [Event.isHandled]

/-- A call of a handler: how the switch for the handler was read, the handler, the world in which
the switch was read, and the world in which the call began. -/
structure HandlerCall (σ : Type) where
  on : Bool
  handler : Handler σ
  asked : σ
  world : σ

namespace HandlerCall

/-- What the call left behind. -/
def reply (c : HandlerCall σ) : Reply σ Bool := c.handler.call c.world

/-- The call as an event. -/
def event (c : HandlerCall σ) : Event := .handled c.handler.name c.reply.value

/-- Before the call, the events `es`: the switch was read and the handler selected, and in the end
a monitor was reported to have spent its strikes, and the hook called. -/
structure Prepared (s : Surroundings σ) (c : HandlerCall σ) (es : List Event) : Prop where
  handler : c.handler = Loop.select s.configuration.handler c.on
  read : (s.toggles.enforcementEnabled c.asked).value = some c.on
  reads : ∀ on, .enforcementRead on ∈ es → on = some c.on
  spent : ∃ (before : List Event) (monitor : String) (strikes : Strikes) (payload : Payload),
    es = before ++
      [.reported (.strikesExceeded monitor c.handler.name s.configuration.sleepSeconds strikes
        payload), .diagnosed monitor]
  unhandled : ∀ e ∈ es, e.isHandled = false

/-- With the switch on, the configured handler is called. -/
theorem Prepared.handler_of_on {s : Surroundings σ} {c : HandlerCall σ} {es : List Event}
    (h : c.Prepared s es) (hon : c.on = true) : c.handler = s.configuration.handler := by
  rw [h.handler, hon]
  rfl

/-- With the switch off, the call fails and leaves the world as it is. -/
theorem Prepared.reply_of_off {s : Surroundings σ} {c : HandlerCall σ} {es : List Event}
    (h : c.Prepared s es) (hoff : c.on = false) : c.reply = ⟨some false, false, c.world⟩ := by
  rw [reply, h.handler, hoff]
  rfl

theorem Prepared.cons {s : Surroundings σ} {c : HandlerCall σ} {es : List Event}
    (h : c.Prepared s es) {e : Event} (hon : ∀ on, .enforcementRead on ≠ e)
    (he : e.isHandled = false) : c.Prepared s (e :: es) where
  handler := h.handler
  read := h.read
  reads on hmem := (List.mem_cons.1 hmem).elim (absurd · (hon on)) (h.reads on)
  spent := by
    obtain ⟨before, monitor, strikes, payload, rfl⟩ := h.spent
    exact ⟨e :: before, monitor, strikes, payload, rfl⟩
  unhandled := List.forall_mem_cons.2 ⟨he, h.unhandled⟩

end HandlerCall

namespace Loop

/-! ### Passes -/

/-- A handler that is to be called: how the switch for the handler was read, the index of the
monitor that has spent its strikes, and the monitors. -/
structure Due (σ : Type) where
  on : Bool
  index : ℕ
  monitors : MonitorSet σ

/-- A pass up to the call of a handler, or to its end if no handler is called. -/
def approach (s : Surroundings σ) (ms : MonitorSet σ) :
    Act σ (Except (MonitorSet σ × Option Bool) (Due σ)) := do
  let on? ← Act.call s.toggles.enforcementEnabled .enforcementRead
  match on? with
  | none => return .error (ms, none)
  | some on =>
    let (ms, outcome) ← scan s.configuration (select s.configuration.handler on) 0 ms
    match outcome with
    | .quiet => return .error (ms, some false)
    | .crashed => return .error (ms, none)
    | .exceeded index =>
      match ms[index]? with
      | none => return .error (ms, some false)
      | some m =>
        let looked ← Act.call (s.configuration.diagnostics m.name) fun _ => .diagnosed m.name
        return if looked.isNone then .error (ms, none) else .ok ⟨on, index, ms⟩

/-- Call the handler, and clear the strikes. -/
def Due.remedy (s : Surroundings σ) (due : Due σ) : Act σ (MonitorSet σ × Option Bool) := do
  let handler := select s.configuration.handler due.on
  let success ← Act.call handler.call (.handled handler.name)
  return (if success.isSome then MonitorSet.reset due.monitors due.index else due.monitors, success)

theorem tick_eq (s : Surroundings σ) (ms : MonitorSet σ) :
    tick s ms = approach s ms >>= fun
      | .error r => pure r
      | .ok due => due.remedy s := by
  unfold tick approach currentHandler
  simp only [bind_assoc, pure_bind]
  refine bind_congr fun on? => ?_
  cases on? with
  | none => rw [Option.map_none]; rfl
  | some on =>
    simp only [Option.map_some, bind_assoc]
    refine bind_congr fun ⟨ms', outcome⟩ => ?_
    cases outcome with
    | quiet => rfl
    | crashed => rfl
    | exceeded index =>
      unfold Loop.remedy
      dsimp only
      cases ms'[index]? with
      | none => rfl
      | some m =>
        simp only [bind_assoc, pure_bind]
        refine bind_congr fun looked => ?_
        cases looked <;> rfl

/-- If all monitors have strikes left, none are reported as spent. -/
theorem Scanned.not_spent {c : Configuration σ} {h : Handler σ} {i : ℕ} {ms ms' : MonitorSet σ}
    {es : List Event} (hs : Scanned c h i ms es ms' .quiet) : ∀ e ∈ es, e.isSpent = false := by
  generalize hout : Outcome.quiet = out at hs
  induction hs with
  | nil => simp
  | passed hm _ ih =>
    rw [List.forall_mem_append]
    refine ⟨?_, ih hout⟩
    cases hm with
    | spent _ _ hf => simp at hf
    | _ => simp [Event.isSpent]
  | exceeded => cases hout
  | crashed => cases hout

/-- If not, the last event is that report. -/
theorem Scanned.exists_spent {c : Configuration σ} {h : Handler σ} {i j : ℕ}
    {ms ms' : MonitorSet σ} {es : List Event} (hs : Scanned c h i ms es ms' (.exceeded j)) :
    ∃ (k : ℕ) (m : Registered σ) (before : List Event) (payload : Payload),
      j = i + k ∧ ms'[k]? = some m ∧
        es = before ++
          [.reported (.strikesExceeded m.name h.name c.sleepSeconds m.strikes payload)] := by
  generalize hout : Outcome.exceeded j = out at hs
  induction hs with
  | nil => cases hout
  | @passed i _ _ _ _ es _ _ _ _ ih =>
    obtain ⟨k, m, before, payload, rfl, hm, rfl⟩ := ih hout
    exact ⟨k + 1, m, es ++ before, payload, by omega, hm, (List.append_assoc _ _ _).symm⟩
  | exceeded hm =>
    cases hout
    cases hm with
    | spent => exact ⟨0, _, [_, _], _, rfl, rfl, rfl⟩
  | crashed => cases hout

/-- What can happen up to the call of a handler. -/
inductive Approached (s : Surroundings σ) :
    List Event → Except (MonitorSet σ × Option Bool) (Due σ) → Prop
  | crashed {es : List Event} {ms : MonitorSet σ} (hes : ∀ e ∈ es, e.isHandled = false) :
      Approached s es (.error (ms, none))
  | quiet {es : List Event} {ms : MonitorSet σ}
      (hes : ∀ e ∈ es, e.isHandled = false ∧ e.isSpent = false) :
      Approached s es (.error (ms, some false))
  | due {on : Bool} {i : ℕ} {m : Registered σ} {before : List Event} {ms : MonitorSet σ}
      {payload : Payload} (hes : ∀ e ∈ before, e.ofPass = true) :
      Approached s
        (.enforcementRead (some on) :: (before ++
          [.reported (.strikesExceeded m.name (select s.configuration.handler on).name
            s.configuration.sleepSeconds m.strikes payload), .diagnosed m.name]))
        (.ok ⟨on, i, ms⟩)

theorem approach_ensures (s : Surroundings σ) (ms : MonitorSet σ) :
    (approach s ms).Ensures fun es r => Approached s es r := by
  refine .bind (Act.ensures_call _ _) ?_
  rintro _ on? rfl
  cases on? with
  | none => exact Act.ensures_pure (.crashed (by simp [Event.isHandled]))
  | some on =>
    refine .bind (scan_ensures _ _ 0 ms) ?_
    rintro es ⟨ms', outcome⟩ hs
    have hpass := hs.ofPass
    have unhandled : ∀ e ∈ es, e.isHandled = false :=
      fun e he => Event.isHandled_of_ofPass (hpass e he)
    cases outcome with
    | quiet =>
      have hspent := hs.not_spent
      refine Act.ensures_pure (.quiet ?_)
      simpa [Event.isHandled, Event.isSpent, or_imp, forall_and] using ⟨unhandled, hspent⟩
    | crashed =>
      refine Act.ensures_pure (.crashed ?_)
      simpa [Event.isHandled] using unhandled
    | exceeded i =>
      obtain ⟨k, m, before, payload, hi, hm, rfl⟩ := hs.exists_spent
      obtain rfl : i = k := by omega
      dsimp only
      rw [hm]
      refine .bind (Act.ensures_call _ _) ?_
      rintro _ looked rfl
      cases looked with
      | none =>
        refine Act.ensures_pure (.crashed ?_)
        simpa [Event.isHandled, or_imp, forall_and] using fun e he => unhandled e (by simp [he])
      | some _ =>
        refine Act.ensures_pure ?_
        simpa using Approached.due fun e he => hpass e (by simp [he])

/-- The handler that is due was selected by what was read before the pass. -/
theorem approach_on {s : Surroundings σ} {ms : MonitorSet σ} {x : Scene σ} {due : Due σ}
    (h : (approach s ms x).value = .ok due) :
    (s.toggles.enforcementEnabled x.world).value = some due.on := by
  have hread : (Act.call s.toggles.enforcementEnabled .enforcementRead x).value =
      (s.toggles.enforcementEnabled x.world).value := rfl
  rw [approach, Act.bind_eq_andThen] at h
  rw [← hread]
  generalize Act.call s.toggles.enforcementEnabled .enforcementRead x = p at h ⊢
  obtain ⟨on?, es, y⟩ := p
  cases on? with
  | none => cases h
  | some on =>
    dsimp only [Stretch.andThen] at h ⊢
    rw [Act.bind_eq_andThen] at h
    generalize scan s.configuration (select s.configuration.handler on) 0 ms y = q at h
    obtain ⟨⟨ms', outcome⟩, es', z⟩ := q
    cases outcome with
    | quiet => cases h
    | crashed => cases h
    | exceeded i =>
      dsimp only [Stretch.andThen] at h
      cases hm : ms'[i]? with
      | none => rw [hm] at h; cases h
      | some m =>
        rw [hm] at h
        dsimp only [Act.bind_apply, Act.pure_apply] at h
        split at h
        · cases h
        · cases h
          rfl

/-- The call of a handler in a pass. -/
def tickCall? (s : Surroundings σ) (ms : MonitorSet σ) (x : Scene σ) : Option (HandlerCall σ) :=
  let p := approach s ms x
  match p.value with
  | .error _ => none
  | .ok due => some ⟨due.on, select s.configuration.handler due.on, x.world, p.scene.world⟩

/-- A pass and the call of a handler in it, with which the pass is over. -/
inductive Attended (s : Surroundings σ) :
    Option (HandlerCall σ) → Stretch σ (MonitorSet σ × Option Bool) → Prop
  | crashed {p : Stretch σ (MonitorSet σ × Option Bool)}
      (hes : ∀ e ∈ p.events, e.isHandled = false) (hp : p.value.2 = none) : Attended s none p
  | quiet {p : Stretch σ (MonitorSet σ × Option Bool)}
      (hes : ∀ e ∈ p.events, e.isHandled = false ∧ e.isSpent = false)
      (hp : p.value.2 = some false) : Attended s none p
  | called {c : HandlerCall σ} {es : List Event} {p : Stretch σ (MonitorSet σ × Option Bool)}
      (hc : c.Prepared s es) (hes : p.events = es ++ [c.event]) (hp : p.value.2 = c.reply.value)
      (hw : p.scene.world = c.reply.world) : Attended s (some c) p

theorem tick_attended (s : Surroundings σ) (ms : MonitorSet σ) (x : Scene σ) :
    Attended s (tickCall? s ms x) (tick s ms x) := by
  have hevents := approach_ensures s ms x
  have hon (due : Due σ) (h : (approach s ms x).value = .ok due) := approach_on h
  rw [tick_eq, Act.bind_eq_andThen]
  unfold tickCall?
  dsimp only at hevents ⊢
  generalize approach s ms x = p at hevents hon ⊢
  obtain ⟨r, es, y⟩ := p
  cases hevents with
  | crashed hes => exact .crashed (by simpa [Stretch.andThen, Act.pure_apply] using hes) rfl
  | quiet hes => exact .quiet (by simpa [Stretch.andThen, Act.pure_apply] using hes) rfl
  | @due on i m before ms' payload hes =>
    refine .called (c := ⟨on, select s.configuration.handler on, x.world, y.world⟩)
      ⟨rfl, hon _ rfl, ?_, ⟨_ :: before, m.name, m.strikes, payload, rfl⟩, ?_⟩ rfl rfl rfl
    · intro on' hmem
      simp only [List.mem_cons, List.mem_append, Event.enforcementRead.injEq, reduceCtorEq,
        List.not_mem_nil, or_false] at hmem
      exact hmem.elim id fun h => absurd (hes _ h) Bool.false_ne_true
    · have unhandled (e : Event) (he : e ∈ before) := Event.isHandled_of_ofPass (hes e he)
      simpa [Event.isHandled, or_imp, forall_and] using unhandled

/-- The call of a handler in a pass behind the switch for monitors. -/
def watchCall? (s : Surroundings σ) (ms : MonitorSet σ) (x : Scene σ) : Option (HandlerCall σ) :=
  let p := Act.call s.toggles.watchdogEnabled .watchdogRead x
  if p.value = some true then tickCall? s ms p.scene else none

theorem watch_attended (s : Surroundings σ) (ms : MonitorSet σ) (x : Scene σ) :
    Attended s (watchCall? s ms x) (watch s ms x) := by
  have hevents : (Act.call s.toggles.watchdogEnabled .watchdogRead x).events =
      [.watchdogRead (Act.call s.toggles.watchdogEnabled .watchdogRead x).value] := rfl
  rw [watch, Act.bind_eq_andThen]
  unfold watchCall?
  dsimp only
  generalize Act.call s.toggles.watchdogEnabled .watchdogRead x = p at hevents ⊢
  obtain ⟨on?, es, y⟩ := p
  dsimp only at hevents
  subst hevents
  cases on? with
  | none => exact .crashed (by simp [Stretch.andThen, Act.pure_apply, Event.isHandled]) rfl
  | some on =>
    cases on with
    | false =>
      exact .quiet (by simp [Stretch.andThen, Act.pure_apply, Event.isHandled, Event.isSpent]) rfl
    | true =>
      rw [if_pos rfl]
      have htick := tick_attended s ms y
      dsimp only [Stretch.andThen]
      generalize tickCall? s ms y = c?, tick s ms y = q at htick ⊢
      cases htick with
      | crashed hes hq => exact .crashed (List.forall_mem_cons.2 ⟨rfl, hes⟩) hq
      | quiet hes hq => exact .quiet (List.forall_mem_cons.2 ⟨⟨rfl, rfl⟩, hes⟩) hq
      | called hc hes hq hw =>
        exact .called (hc.cons (fun _ => by simp) rfl)
          (congrArg (Event.watchdogRead (some true) :: ·) hes) hq hw

/-! ### Turns -/

/-- The call of a handler in a turn. -/
def call? (s : Surroundings σ) (ms : MonitorSet σ) (x : Scene σ) : Option (HandlerCall σ) :=
  if x.signal.requested || ms.isEmpty then none else watchCall? s ms x

/-- A turn and the call of a handler in it.  If the handler fails, the loop rests, and unless that
crashes it goes on; if it succeeds, the loop ends at once. -/
inductive Acted (s : Surroundings σ) :
    Option (HandlerCall σ) → Stretch σ (MonitorSet σ × Option Ending) → Prop
  | crashed {p : Stretch σ (MonitorSet σ × Option Ending)}
      (hes : ∀ e ∈ p.events, e.isHandled = false) (hp : p.value.2 = some .crashed) :
      Acted s none p
  | quiet {p : Stretch σ (MonitorSet σ × Option Ending)}
      (hes : ∀ e ∈ p.events, e.isHandled = false ∧ e.isSpent = false)
      (hp : p.value.2 ≠ some (.done .successfullyHandled)) : Acted s none p
  | unanswered {c : HandlerCall σ} {es : List Event}
      {p : Stretch σ (MonitorSet σ × Option Ending)} (hc : c.Prepared s es)
      (hreply : c.reply.value = none) (hes : p.events = es ++ [c.event])
      (hp : p.value.2 = some .crashed) : Acted s (some c) p
  | failed {c : HandlerCall σ} {es : List Event} {p : Stretch σ (MonitorSet σ × Option Ending)}
      (hc : c.Prepared s es) (hreply : c.reply.value = some false)
      (hes : p.events = es ++ [c.event, .paused s.configuration.sleepTime])
      (hp : p.value.2 = none ∨ p.value.2 = some .crashed) : Acted s (some c) p
  | succeeded {c : HandlerCall σ} {es : List Event} {p : Stretch σ (MonitorSet σ × Option Ending)}
      (hc : c.Prepared s es) (hreply : c.reply.value = some true) (hes : p.events = es ++ [c.event])
      (hp : p.value.2 = some (.done .successfullyHandled)) (hw : p.scene.world = c.reply.world) :
      Acted s (some c) p

/-- After a pass without success, the loop rests. -/
theorem settle_failed_ensures (s : Surroundings σ) (ms : MonitorSet σ) :
    (settle s (ms, some false)).Ensures fun es r =>
      es = [.paused s.configuration.sleepTime] ∧ (r.2 = none ∨ r.2 = some .crashed) := by
  refine .bind (rest_ensures s) ?_
  rintro _ rested rfl
  refine Act.ensures_pure ⟨rfl, ?_⟩
  cases rested <;> simp

theorem turn_acted (s : Surroundings σ) (ms : MonitorSet σ) (x : Scene σ) :
    Acted s (call? s ms x) (turn s ms x) := by
  unfold call?
  cases hx : x.signal.requested with
  | true =>
    rw [turn_of_requested s ms hx]
    exact .quiet (by simp) (by simp)
  | false =>
    by_cases hms : ms = []
    · subst hms
      rw [turn_nil s hx]
      exact .quiet (by simp) (by simp)
    · rw [turn_of_ne_nil s hms hx, Act.bind_eq_andThen, if_neg (by simp [hms])]
      have hwatch := watch_attended s ms x
      generalize watchCall? s ms x = c?, watch s ms x = p at hwatch ⊢
      obtain ⟨⟨ms', handled⟩, es, y⟩ := p
      obtain ⟨hrested, hgoing⟩ := settle_failed_ensures s ms' y
      cases hwatch with
      | crashed hes hp =>
        obtain rfl : handled = none := hp
        exact .crashed (by simpa [Stretch.andThen, settle, Act.pure_apply] using hes) rfl
      | quiet hes hp =>
        obtain rfl : handled = some false := hp
        refine .quiet ?_ ?_
        · dsimp only [Stretch.andThen]
          rw [hrested, List.forall_mem_append]
          exact ⟨hes, by simp [Event.isHandled, Event.isSpent]⟩
        · dsimp only [Stretch.andThen]
          rcases hgoing with h | h <;> simp [h]
      | @called c es' _ hc hes hp hw =>
        dsimp only at hes hp hw
        subst hes hp
        cases hreply : c.reply.value with
        | none => exact .unanswered hc hreply (List.append_nil _) rfl
        | some success =>
          cases success with
          | true => exact .succeeded hc hreply (List.append_nil _) rfl hw
          | false =>
            refine .failed hc hreply ?_ hgoing
            dsimp only [Stretch.andThen]
            rw [hrested, List.append_assoc]
            rfl

/-- The call in a turn is the one that is seen in its events. -/
theorem Acted.filter_isHandled {s : Surroundings σ} {c? : Option (HandlerCall σ)}
    {p : Stretch σ (MonitorSet σ × Option Ending)} (h : Acted s c? p) :
    p.events.filter Event.isHandled = c?.toList.map HandlerCall.event := by
  have unhandled {es : List Event} (hes : ∀ e ∈ es, e.isHandled = false) :
      es.filter Event.isHandled = [] := List.filter_eq_nil_iff.2 fun e he => by simp [hes e he]
  cases h with
  | crashed hes => exact unhandled hes
  | quiet hes => exact unhandled fun e he => (hes e he).1
  | unanswered hc _ hes => rw [hes, List.filter_append, unhandled hc.unhandled]; rfl
  | failed hc _ hes => rw [hes, List.filter_append, unhandled hc.unhandled]; rfl
  | succeeded hc _ hes => rw [hes, List.filter_append, unhandled hc.unhandled]; rfl

/-- The calls of handlers in turns, in order. -/
def calls (s : Surroundings σ) : ℕ → MonitorSet σ → Scene σ → List (HandlerCall σ)
  | 0, _, _ => []
  | allowed + 1, ms, x =>
    let p := turn s ms x
    (call? s ms x).toList ++
      match p.value.2 with
      | some _ => []
      | none => calls s allowed p.value.1 p.scene

theorem calls_turn (s : Surroundings σ) (allowed : ℕ) (ms : MonitorSet σ) (x : Scene σ) :
    calls s (allowed + 1) ms x = (call? s ms x).toList ++
      match (turn s ms x).value.2 with
      | some _ => []
      | none => calls s allowed (turn s ms x).value.1 (turn s ms x).scene := rfl

theorem calls_succ (s : Surroundings σ) {allowed : ℕ} {ms : MonitorSet σ} {x : Scene σ}
    (h : (turns s allowed ms x).value.2 = .unfinished) :
    calls s (allowed + 1) ms x = calls s allowed ms x ++
      (call? s (turns s allowed ms x).value.1 (turns s allowed ms x).scene).toList := by
  induction allowed generalizing ms x with
  | zero =>
    simp only [calls, turns, Act.pure_apply, List.nil_append]
    split <;> exact List.append_nil _
  | succ allowed ih =>
    have hturned := turn_ensures s ms x
    rw [calls_turn s (allowed + 1), calls_turn s allowed ms, turns_succ]
    rw [turns_succ] at h
    generalize turn s ms x = p at h hturned ⊢
    obtain ⟨⟨ms', ending⟩, es, y⟩ := p
    cases ending with
    | some e => exact absurd h hturned.ne_unfinished
    | none =>
      dsimp only [Stretch.andThen] at h ⊢
      rw [ih h, List.append_assoc]

theorem filter_isHandled_turns (s : Surroundings σ) (allowed : ℕ) (ms : MonitorSet σ)
    (x : Scene σ) :
    (turns s allowed ms x).events.filter Event.isHandled =
      (calls s allowed ms x).map HandlerCall.event := by
  induction allowed generalizing ms x with
  | zero => rfl
  | succ allowed ih =>
    have hturn := (turn_acted s ms x).filter_isHandled
    rw [turns_succ, calls_turn]
    generalize turn s ms x = p at hturn ⊢
    obtain ⟨⟨ms', ending⟩, es, y⟩ := p
    dsimp only at hturn
    cases ending with
    | some e => simp [Stretch.andThen, Act.pure_apply, hturn]
    | none => simp [Stretch.andThen, hturn, ih]

/-- Before each call the handler was selected as the switch was read. -/
theorem prepared_of_mem_calls {s : Surroundings σ} {allowed : ℕ} {ms : MonitorSet σ}
    {x : Scene σ} {c : HandlerCall σ} (hc : c ∈ calls s allowed ms x) :
    ∃ es, c.Prepared s es := by
  induction allowed generalizing ms x with
  | zero => cases hc
  | succ allowed ih =>
    have hturn := turn_acted s ms x
    rw [calls, List.mem_append] at hc
    rcases hc with hc | hc
    · rw [Option.mem_toList] at hc
      rw [hc] at hturn
      cases hturn with
      | unanswered hc => exact ⟨_, hc⟩
      | failed hc => exact ⟨_, hc⟩
      | succeeded hc => exact ⟨_, hc⟩
    · split at hc
      · cases hc
      · exact ih hc

/-- Turns and the calls of handlers in them. -/
inductive Called (s : Surroundings σ) :
    List (HandlerCall σ) → Stretch σ (MonitorSet σ × Ending) → Prop
  | failing {cs : List (HandlerCall σ)} {p : Stretch σ (MonitorSet σ × Ending)}
      (hcs : ∀ c ∈ cs, c.reply.value = some false)
      (hp : p.value.2 ≠ .done .successfullyHandled) : Called s cs p
  | crashing {cs : List (HandlerCall σ)} {c : HandlerCall σ}
      {p : Stretch σ (MonitorSet σ × Ending)} (hcs : ∀ c ∈ cs, c.reply.value = some false)
      (hc : c.reply.value = none) (hp : p.value.2 = .crashed) : Called s (cs ++ [c]) p
  | succeeding {cs : List (HandlerCall σ)} {c : HandlerCall σ} {before es : List Event}
      {p : Stretch σ (MonitorSet σ × Ending)} (hcs : ∀ c ∈ cs, c.reply.value = some false)
      (hc : c.reply.value = some true) (hprepared : c.Prepared s es)
      (hes : p.events = before ++ (es ++ [c.event]))
      (hp : p.value.2 = .done .successfullyHandled) (hw : p.scene.world = c.reply.world) :
      Called s (cs ++ [c]) p

theorem Called.after {s : Surroundings σ} {cs : List (HandlerCall σ)}
    {p : Stretch σ (MonitorSet σ × Ending)} (h : Called s cs p) {cs' : List (HandlerCall σ)}
    (hcs' : ∀ c ∈ cs', c.reply.value = some false) (es' : List Event) :
    Called s (cs' ++ cs) ⟨p.value, es' ++ p.events, p.scene⟩ := by
  cases h with
  | failing hcs hp => exact .failing (List.forall_mem_append.2 ⟨hcs', hcs⟩) hp
  | crashing hcs hc hp =>
    rw [← List.append_assoc]
    exact .crashing (List.forall_mem_append.2 ⟨hcs', hcs⟩) hc hp
  | succeeding hcs hc hprepared hes hp hw =>
    rw [← List.append_assoc, hes, ← List.append_assoc es']
    exact .succeeding (List.forall_mem_append.2 ⟨hcs', hcs⟩) hc hprepared rfl hp hw

theorem turns_called (s : Surroundings σ) (allowed : ℕ) (ms : MonitorSet σ) (x : Scene σ) :
    Called s (calls s allowed ms x) (turns s allowed ms x) := by
  induction allowed generalizing ms x with
  | zero => exact .failing (by simp [calls]) nofun
  | succ allowed ih =>
    have hturn := turn_acted s ms x
    rw [turns_succ, calls_turn]
    generalize call? s ms x = c?, turn s ms x = p at hturn ⊢
    obtain ⟨⟨ms', ending⟩, es, y⟩ := p
    cases hturn with
    | crashed _ hp =>
      obtain rfl : ending = some .crashed := hp
      exact .failing (by simp) nofun
    | quiet _ hp =>
      cases ending with
      | some e => exact .failing (by simp) fun he => hp (congrArg some he)
      | none => exact (ih ms' y).after (by simp) es
    | @unanswered c _ _ _ hreply _ hp =>
      obtain rfl : ending = some .crashed := hp
      show Called s ([] ++ [c]) _
      exact .crashing (List.forall_mem_nil _) hreply rfl
    | @failed c _ _ _ hreply _ hp =>
      have hc : ∀ c' ∈ [c], c'.reply.value = some false := by simpa using hreply
      cases ending with
      | none => exact (ih ms' y).after hc es
      | some e =>
        obtain rfl : e = .crashed := by simpa using hp
        exact .failing hc nofun
    | @succeeded c es' _ hc hreply hes hp hw =>
      obtain rfl : ending = some (.done .successfullyHandled) := hp
      obtain rfl : es = [] ++ (es' ++ [c.event]) := hes
      show Called s ([] ++ [c]) _
      exact .succeeding (List.forall_mem_nil _) hreply hc (List.append_nil _) rfl hw

end Loop

namespace Watchdog

/-! ### Runs -/

/-- The calls of handlers in a run that begins. -/
def sessionCalls (d : Watchdog σ) (allowed : ℕ) (x : Scene σ) : List (HandlerCall σ) :=
  let p := d.announce (.started · d.configuration.sleepSeconds) x
  if p.value.isNone then []
  else Loop.calls d.surroundings allowed d.configuration.monitors p.scene

/-- The calls of handlers in a run. -/
def handlerCalls (d : Watchdog σ) (allowed : ℕ) (w : σ) : List (HandlerCall σ) :=
  match d.configuration.validate, d.lifecycle.start? with
  | .ok (), some _ => d.sessionCalls allowed ⟨w, d.signal⟩
  | _, _ => []

theorem handlerCalls_of_ready {d : Watchdog σ} (hd : d.Ready) (allowed : ℕ) (w : σ) :
    d.handlerCalls allowed w = d.sessionCalls allowed ⟨w, d.signal⟩ := by
  obtain ⟨hvalid, hidle⟩ := hd
  rw [handlerCalls, hvalid, hidle]
  rfl

theorem handlerCalls_of_not_ready {d : Watchdog σ} (hd : ¬ d.Ready) (allowed : ℕ) (w : σ) :
    d.handlerCalls allowed w = [] := by
  unfold handlerCalls
  split
  next _ hvalid hstart =>
    exact absurd ⟨hvalid, (Lifecycle.start?_eq_some_iff.1 hstart).1⟩ hd
  next => rfl

/-- The run of a watchdog that may begin: unless its opening report crashes, what is left of it is
that report and what follows it. -/
theorem run_opened {d : Watchdog σ} (hd : d.Ready) (allowed : ℕ) (w : σ) :
    let p := d.announce (.started · d.configuration.sleepSeconds) ⟨w, d.signal⟩
    let q := d.resume allowed d.configuration.monitors p.scene
    (d.handlerCalls allowed w = [] ∧ (d.run allowed w).result = .crashed ∧
        (d.run allowed w).events = p.events) ∨
      (d.handlerCalls allowed w =
          Loop.calls d.surroundings allowed d.configuration.monitors p.scene ∧
        (d.run allowed w).result = q.value.2.result ∧
        (d.run allowed w).events = p.events ++ q.events) := by
  rw [run_of_ready hd, handlerCalls_of_ready hd, session_eq, sessionCalls, Act.bind_eq_andThen]
  generalize d.announce _ ⟨w, d.signal⟩ = p
  obtain ⟨began, es, y⟩ := p
  cases began with
  | none => exact .inl ⟨rfl, rfl, List.append_nil es⟩
  | some _ => exact .inr ⟨rfl, rfl, rfl⟩

/-- No handler is called for a report. -/
theorem Announced.unhandled {d : Watchdog σ} {notice : String → Notice} {es : List Event}
    {told : Option Unit} (h : Announced d notice es told) : es.filter Event.isHandled = [] := by
  cases h <;> rfl

theorem conclude_unhandled (d : Watchdog σ) (r : MonitorSet σ × Ending) (x : Scene σ) :
    (d.conclude r x).events.filter Event.isHandled = [] := by
  obtain ⟨ms, e⟩ := r
  cases e with
  | done reason =>
    rw [conclude, Act.bind_apply, List.filter_append, (announce_ensures d _ x).unhandled]
    rfl
  | _ => rfl

/-- The calls in a run are those that are seen in its events. -/
theorem filter_isHandled_run (d : Watchdog σ) (allowed : ℕ) (w : σ) :
    (d.run allowed w).events.filter Event.isHandled =
      (d.handlerCalls allowed w).map HandlerCall.event := by
  by_cases hd : d.Ready
  · have hopen := (announce_ensures d (.started · d.configuration.sleepSeconds)
      ⟨w, d.signal⟩).unhandled
    rcases run_opened hd allowed w with ⟨hcalls, -, hevents⟩ | ⟨hcalls, -, hevents⟩
    · rw [hcalls, hevents, hopen]
      rfl
    · rw [hcalls, hevents, List.filter_append, hopen, resume, Act.bind_apply, List.filter_append,
        Loop.filter_isHandled_turns, d.conclude_unhandled, List.append_nil]
      rfl
  · obtain ⟨fault, hrun⟩ := run_of_not_ready hd allowed w
    rw [hrun, handlerCalls_of_not_ready hd]
    rfl

/-- The handler that is called was selected as the switch was read. -/
theorem prepared_of_mem_handlerCalls {d : Watchdog σ} {allowed : ℕ} {w : σ} {c : HandlerCall σ}
    (hc : c ∈ d.handlerCalls allowed w) : ∃ es, c.Prepared d.surroundings es := by
  by_cases hd : d.Ready
  · rw [handlerCalls_of_ready hd, sessionCalls] at hc
    split at hc
    · cases hc
    · exact Loop.prepared_of_mem_calls hc
  · rw [handlerCalls_of_not_ready hd] at hc
    cases hc

/-- A run and the calls of handlers in it. -/
inductive Called (d : Watchdog σ) : List (HandlerCall σ) → Run σ → Prop
  | failing {cs : List (HandlerCall σ)} {r : Run σ} (hcs : ∀ c ∈ cs, c.reply.value = some false)
      (hr : r.result ≠ .returned (.ok .successfullyHandled)) : Called d cs r
  | crashing {cs : List (HandlerCall σ)} {c : HandlerCall σ} {r : Run σ}
      (hcs : ∀ c ∈ cs, c.reply.value = some false) (hc : c.reply.value = none)
      (hr : r.result = .crashed) : Called d (cs ++ [c]) r
  | succeeding {cs : List (HandlerCall σ)} {c : HandlerCall σ} {before es : List Event}
      {x : Scene σ} {r : Run σ} (hcs : ∀ c ∈ cs, c.reply.value = some false)
      (hc : c.reply.value = some true) (hprepared : c.Prepared d.surroundings es)
      (hx : x.world = c.reply.world)
      (hes : r.events = before ++ (es ++ [c.event]) ++
        (d.announce (.stopped · d.configuration.sleepSeconds .successfullyHandled) x).events)
      (hr : r.result =
        if (d.announce (.stopped · d.configuration.sleepSeconds .successfullyHandled) x).value.isNone
        then .crashed else .returned (.ok .successfullyHandled)) : Called d (cs ++ [c]) r

theorem conclude_done (d : Watchdog σ) (ms : MonitorSet σ) (reason : StopReason) (x : Scene σ) :
    (d.conclude (ms, .done reason) x).events =
        (d.announce (.stopped · d.configuration.sleepSeconds reason) x).events ∧
      (d.conclude (ms, .done reason) x).value.2.result =
        if (d.announce (.stopped · d.configuration.sleepSeconds reason) x).value.isNone then .crashed
        else .returned (.ok reason) := by
  rw [conclude, Act.bind_apply]
  refine ⟨List.append_nil _, ?_⟩
  cases (d.announce (.stopped · d.configuration.sleepSeconds reason) x).value <;> rfl

theorem conclude_cases (d : Watchdog σ) (r : MonitorSet σ × Ending) (x : Scene σ) :
    (d.conclude r x).value.2 = r.2 ∨ (d.conclude r x).value.2 = .crashed := by
  obtain ⟨ms, e⟩ := r
  cases e with
  | done reason =>
    simp only [conclude, Act.bind_apply, Act.pure_apply]
    split
    · exact .inr rfl
    · exact .inl rfl
  | crashed => exact .inl rfl
  | unfinished => exact .inl rfl

theorem run_called (d : Watchdog σ) (allowed : ℕ) (w : σ) :
    Called d (d.handlerCalls allowed w) (d.run allowed w) := by
  by_cases hd : d.Ready
  · rcases run_opened hd allowed w with ⟨hcalls, hresult, -⟩ | ⟨hcalls, hresult, hevents⟩
    · rw [hcalls]
      exact .failing (by simp) (by simp [hresult])
    · rw [resume, Act.bind_eq_andThen] at hresult hevents
      rw [hcalls]
      have hturns := Loop.turns_called d.surroundings allowed d.configuration.monitors
        (d.announce (.started · d.configuration.sleepSeconds) ⟨w, d.signal⟩).scene
      generalize Loop.calls d.surroundings _ _ _ = cs, Loop.turns d.surroundings _ _ _ = q
        at hturns hresult hevents ⊢
      obtain ⟨⟨ms, e⟩, es, y⟩ := q
      cases hturns with
      | failing hcs hp =>
        refine .failing hcs fun h => hp ?_
        have hdone := Ending.eq_done_of_result (hresult.symm.trans h)
        rcases d.conclude_cases (ms, e) y with he | he
        · exact he.symm.trans hdone
        · cases he.symm.trans hdone
      | crashing hcs hc hp =>
        obtain rfl : e = .crashed := hp
        exact .crashing hcs hc hresult
      | succeeding hcs hc hprepared hes hp hw =>
        obtain rfl : e = .done .successfullyHandled := hp
        dsimp only at hes hw
        subst hes
        obtain ⟨hclosed, hreported⟩ := d.conclude_done ms .successfullyHandled y
        dsimp only [Stretch.andThen] at hevents
        rw [hclosed, ← List.append_assoc, ← List.append_assoc] at hevents
        exact .succeeding hcs hc hprepared hw hevents (hresult.trans hreported)
  · obtain ⟨fault, hrun⟩ := run_of_not_ready hd allowed w
    rw [hrun, handlerCalls_of_not_ready hd]
    exact .failing (by simp) (by simp [refused])

/-! ### One more turn -/

/-- The call of a handler in the turn after a run that took all turns that were allowed. -/
def nextCall? (d : Watchdog σ) (allowed : ℕ) (w : σ) : Option (HandlerCall σ) :=
  let r := d.run allowed w
  Loop.call? d.surroundings r.watchdog.configuration.monitors ⟨r.world, r.watchdog.signal⟩

theorem nextTurn_acted (d : Watchdog σ) (allowed : ℕ) (w : σ) :
    Loop.Acted d.surroundings (d.nextCall? allowed w) (d.nextTurn allowed w) :=
  Loop.turn_acted _ _ _

theorem resume_of_unfinished {d : Watchdog σ} {allowed : ℕ} {ms : MonitorSet σ} {x : Scene σ}
    (h : (d.resume allowed ms x).value.2 = .unfinished) :
    (Loop.turns d.surroundings allowed ms x).value.2 = .unfinished ∧
      d.resume allowed ms x = Loop.turns d.surroundings allowed ms x := by
  obtain ⟨hturns, hconclude⟩ := d.conclude_of_unfinished h
  refine ⟨hturns, ?_⟩
  rw [resume, Act.bind_apply, hconclude, List.append_nil]

theorem handlerCalls_succ {d : Watchdog σ} {allowed : ℕ} {w : σ}
    (hr : (d.run allowed w).result = .unfinished) :
    d.handlerCalls (allowed + 1) w =
      d.handlerCalls allowed w ++ (d.nextCall? allowed w).toList := by
  have hd := ready_of_run hr nofun
  unfold nextCall?
  rw [run_of_ready hd] at hr
  have hunfinished := Ending.eq_unfinished_of_result hr
  rw [session_eq, Act.bind_eq_andThen] at hunfinished
  rw [handlerCalls_of_ready hd, handlerCalls_of_ready hd, run_of_ready hd, session_eq,
    Act.bind_eq_andThen, sessionCalls, sessionCalls]
  generalize d.announce _ ⟨w, d.signal⟩ = p at hunfinished ⊢
  obtain ⟨began, es, y⟩ := p
  cases began with
  | none => cases hunfinished
  | some _ =>
    obtain ⟨hturns, hresume⟩ := resume_of_unfinished hunfinished
    dsimp only [Stretch.andThen]
    simp only [Option.isNone_some, Bool.false_eq_true, if_false]
    rw [Loop.calls_succ _ hturns, hresume]
    rfl

/-- A run in which one more turn is allowed goes on if that turn does, and else ends as the turn
does, or in a crash after it. -/
theorem run_succ_cases {d : Watchdog σ} {allowed : ℕ} {w : σ}
    (hr : (d.run allowed w).result = .unfinished) :
    ((d.nextTurn allowed w).value.2 = none ∧ (d.run (allowed + 1) w).result = .unfinished) ∨
      ∃ e, (d.nextTurn allowed w).value.2 = some e ∧
        ((d.run (allowed + 1) w).result = e.result ∨
          (d.run (allowed + 1) w).result = .crashed) := by
  obtain ⟨hresult, -⟩ := run_add hr 1
  rw [hresult, d.resume_succ 0]
  dsimp only [nextTurn]
  generalize Loop.turn d.surroundings _ _ = p
  obtain ⟨⟨ms, ending⟩, es, y⟩ := p
  cases ending with
  | none => exact .inl ⟨rfl, rfl⟩
  | some e =>
    refine .inr ⟨e, rfl, ?_⟩
    exact (d.conclude_cases (ms, e) y).imp (congrArg Ending.result) (congrArg Ending.result)

end Watchdog

end Vigil
