import Vigil.Proofs.Watchdog.HandlerCalls
import Vigil.Proofs.Watchdog.Streaks

/-!
# The monitors at each moment of a run

The monitors that a run leaves are those at its end.  Those at any moment in it can be told from
the events so far: a call of a monitor counts the verdict, and the answer of a handler clears the
strikes of the monitor that was called last.

* `Moment`, `Moment.after`: the monitors after some events;
* `Examined.after_eq` and the lemmas after it: what each part of the loop returns is what is told
  from its events;
* `JustFired`: a monitor has run out of strikes, and the handler has not answered yet;
* `Moment.Bounded`: at each moment of a stretch no monitor is past its limit, but for one that has
  just fired; `Moment.Bounded.append`: one such stretch after another;
* `strikes_le_limit`: a run is such a stretch.
-/

namespace Vigil

variable {σ : Type}

theorem prefix_append_cases {α : Type} {p xs ys : List α} (h : p <+: xs ++ ys) :
    p <+: xs ∨ ∃ q, q <+: ys ∧ p = xs ++ q := by
  rcases List.prefix_or_prefix_of_prefix h (List.prefix_append xs ys) with hp | ⟨q, rfl⟩
  · exact .inl hp
  · exact .inr ⟨q, (List.prefix_append_right_inj xs).1 h, rfl⟩

theorem concat_prefix_append_cases {α : Type} {p xs ys : List α} {x : α}
    (h : p ++ [x] <+: xs ++ ys) : p ++ [x] <+: xs ∨ ∃ q, q ++ [x] <+: ys ∧ p = xs ++ q := by
  rcases prefix_append_cases h with hp | ⟨q, hq, hpq⟩
  · exact .inl hp
  · rcases List.eq_nil_or_concat q with rfl | ⟨q, y, rfl⟩
    · exact .inl ⟨[], by rw [hpq, List.append_nil, List.append_nil]⟩
    · rw [List.concat_eq_append, ← List.append_assoc] at hpq
      obtain ⟨rfl, hxy⟩ := List.append_inj' hpq rfl
      obtain rfl := (List.cons.inj hxy).1
      exact .inr ⟨q, by rwa [List.concat_eq_append] at hq, rfl⟩

namespace MonitorSet

/-- Count a verdict of the monitor with an index. -/
def record (ms : MonitorSet σ) (i : ℕ) (v : Verdict) : MonitorSet σ :=
  List.modify ms i (·.record v)

theorem record_append_cons (pre : MonitorSet σ) (m : Registered σ) (post : MonitorSet σ)
    (v : Verdict) : record (pre ++ m :: post) pre.length v = pre ++ m.record v :: post := by
  induction pre with
  | nil => rfl
  | cons m₀ pre ih => exact congrArg (m₀ :: ·) ih

theorem getElem?_record_self (ms : MonitorSet σ) (i : ℕ) (v : Verdict) :
    (ms.record i v)[i]? = ms[i]?.map (·.record v) :=
  List.getElem?_modify_eq _ i ms

theorem getElem?_record_of_ne (ms : MonitorSet σ) {i j : ℕ} (h : i ≠ j) (v : Verdict) :
    (ms.record i v)[j]? = ms[j]? :=
  List.getElem?_modify_ne _ ms h

theorem map_descriptor_record (ms : MonitorSet σ) (i : ℕ) (v : Verdict) :
    (ms.record i v).map Registered.descriptor = ms.map Registered.descriptor :=
  ms.map_descriptor_modify i fun _ => rfl

end MonitorSet

/-- The monitors at a moment of a run, and the index of the one that was called last. -/
structure Moment (σ : Type) where
  monitors : MonitorSet σ
  last : ℕ := 0

namespace Moment

/-- The moment after an event. -/
def next (t : Moment σ) : Event → Moment σ
  | .checked i _ (some v) => ⟨t.monitors.record i v, i⟩
  | .handled _ (some _) => ⟨MonitorSet.reset t.monitors t.last, t.last⟩
  | _ => t

/-- The moment after some events. -/
def after (t : Moment σ) (es : List Event) : Moment σ := es.foldl next t

@[simp]
theorem after_cons (t : Moment σ) (e : Event) (es : List Event) :
    t.after (e :: es) = (t.next e).after es := rfl

@[simp]
theorem after_append (t : Moment σ) (es es' : List Event) :
    t.after (es ++ es') = (t.after es).after es' := List.foldl_append

/-- Whatever happens, the monitors and their limits stay as they are. -/
theorem map_descriptor_after (t : Moment σ) (es : List Event) :
    (t.after es).monitors.map Registered.descriptor = t.monitors.map Registered.descriptor := by
  induction es generalizing t with
  | nil => rfl
  | cons e es ih =>
    rw [after_cons, ih]
    fun_cases next t e with
    | case1 => exact MonitorSet.map_descriptor_record _ _ _
    | case2 => exact MonitorSet.map_descriptor_reset _ _
    | case3 => rfl

end Moment

/-! ### The moments of a loop -/

namespace Loop

theorem Examined.after_eq {c : Configuration σ} {h : Handler σ} {i : ℕ} {m m' : Registered σ}
    {es : List Event} {f : Finding} (hm : Examined c h i m es m' f) {t : Moment σ}
    {pre post : MonitorSet σ} (ht : t.monitors = pre ++ m :: post) (hi : pre.length = i) :
    (t.after es).monitors = pre ++ m' :: post ∧ (f ≠ .crashed → (t.after es).last = i) := by
  subst hi
  have hrecord (v : Verdict) :
      t.monitors.record pre.length v = pre ++ m.record v :: post := by
    rw [ht, MonitorSet.record_append_cons]
  cases hm with
  | unanswered => exact ⟨ht, fun hf => absurd rfl hf⟩
  | respected => exact ⟨hrecord _, fun _ => rfl⟩
  | untold => exact ⟨hrecord _, fun hf => absurd rfl hf⟩
  | tolerated => exact ⟨hrecord _, fun _ => rfl⟩
  | spent => exact ⟨hrecord _, fun _ => rfl⟩

theorem Scanned.after_eq {c : Configuration σ} {h : Handler σ} {i : ℕ} {ms ms' : MonitorSet σ}
    {es : List Event} {out : Outcome} (hs : Scanned c h i ms es ms' out) {t : Moment σ}
    (pre post : MonitorSet σ) (ht : t.monitors = pre ++ (ms ++ post)) (hi : pre.length = i) :
    (t.after es).monitors = pre ++ (ms' ++ post) ∧
      ∀ j, out = .exceeded j → (t.after es).last = j := by
  induction hs generalizing t pre with
  | nil => exact ⟨ht, nofun⟩
  | @passed i m m' ms ms' es es' out hm _ ih =>
    obtain ⟨hes, -⟩ := hm.after_eq ht hi
    rw [Moment.after_append]
    simpa using ih (pre ++ [m']) (by simpa using hes) (by simpa using hi)
  | exceeded hm =>
    obtain ⟨hes, hlast⟩ := hm.after_eq ht hi
    exact ⟨hes, fun j hj => by rw [hlast nofun]; exact Outcome.exceeded.inj hj⟩
  | crashed hm => exact ⟨(hm.after_eq ht hi).1, nofun⟩

/-- A pass over all monitors. -/
theorem Scanned.after_eq_of_all {c : Configuration σ} {h : Handler σ} {ms ms' : MonitorSet σ}
    {es : List Event} {out : Outcome} (hs : Scanned c h 0 ms es ms' out) {t : Moment σ}
    (ht : t.monitors = ms) :
    (t.after es).monitors = ms' ∧ ∀ j, out = .exceeded j → (t.after es).last = j := by
  simpa using hs.after_eq [] [] (by simpa using ht) rfl

theorem Remedied.after_eq {h : Handler σ} {i : ℕ} {m : Registered σ} {ms ms' : MonitorSet σ}
    {es : List Event} {success : Option Bool} (hr : Remedied h i m ms es ms' success)
    {t : Moment σ} (ht : t.monitors = ms) (hi : t.last = i) : (t.after es).monitors = ms' := by
  subst ht hi
  cases hr <;> rfl

theorem Ticked.after_eq {s : Surroundings σ} {ms ms' : MonitorSet σ} {es : List Event}
    {success : Option Bool} (ht : Ticked s ms es ms' success) {t : Moment σ}
    (hms : t.monitors = ms) : (t.after es).monitors = ms' := by
  cases ht with
  | unread => exact hms
  | quiet hs => exact (hs.after_eq_of_all hms).1
  | crashed hs => exact (hs.after_eq_of_all hms).1
  | remedied hs _ hr =>
    obtain ⟨hscan, hlast⟩ := hs.after_eq_of_all hms
    rw [Moment.after_cons, Moment.after_append]
    exact hr.after_eq hscan (hlast _ rfl)

theorem Watched.after_eq {s : Surroundings σ} {ms ms' : MonitorSet σ} {es : List Event}
    {success : Option Bool} (hw : Watched s ms es ms' success) {t : Moment σ}
    (hms : t.monitors = ms) : (t.after es).monitors = ms' := by
  cases hw with
  | unread => exact hms
  | off => exact hms
  | on ht => exact ht.after_eq hms

theorem Turned.after_eq {s : Surroundings σ} {ms ms' : MonitorSet σ} {es : List Event}
    {e : Option Ending} (ht : Turned s ms es ms' e) {t : Moment σ} (hms : t.monitors = ms) :
    (t.after es).monitors = ms' := by
  cases ht with
  | stopped => exact hms
  | empty => exact hms
  | crashed _ hw => exact hw.after_eq hms
  | handled _ hw => exact hw.after_eq hms
  | rested _ hw => rw [Moment.after_append]; exact hw.after_eq hms

theorem Took.after_eq {s : Surroundings σ} {ms ms' : MonitorSet σ} {es : List Event} {e : Ending}
    (ht : Took s ms es ms' e) {t : Moment σ} (hms : t.monitors = ms) :
    (t.after es).monitors = ms' := by
  induction ht generalizing t with
  | unfinished => exact hms
  | last ht => exact ht.after_eq hms
  | next ht _ ih => rw [Moment.after_append]; exact ih (ht.after_eq hms)

end Loop

namespace Watchdog

/-- Reports of the beginning and the end change nothing. -/
theorem Announced.after_eq {d : Watchdog σ} {notice : String → Notice} {es : List Event}
    {told : Option Unit} (h : Announced d notice es told) (t : Moment σ) : t.after es = t := by
  cases h <;> rfl

theorem Held.after_eq {d : Watchdog σ} {es : List Event} {ms : MonitorSet σ} {e : Ending}
    (h : Held d es ms e) {t : Moment σ} (ht : t.monitors = d.configuration.monitors) :
    (t.after es).monitors = ms := by
  cases h with
  | unopened ho => rw [ho.after_eq, ht]
  | unclosed ho hts => rw [Moment.after_append, ho.after_eq]; exact hts.after_eq ht
  | closed ho hts hc =>
    rw [Moment.after_append, Moment.after_append, ho.after_eq, hc.after_eq]
    exact hts.after_eq ht

end Watchdog

/-! ### Past the limit -/

theorem Strikes.toNat_count_of_exceeded {s : Strikes} (h : s.exceeded = false)
    (h' : (s.record true).exceeded = true) :
    (s.record true).count.toNat = s.limit.toNat + 1 := by
  have hwithin : ¬ s.limit.toNat < s.count.toNat := by
    rw [← Strikes.exceeded_iff, h]
    nofun
  rw [Strikes.exceeded_iff, Strikes.limit_record, Strikes.toNat_count_record_true] at h'
  rw [Strikes.toNat_count_record_true]
  omega

theorem Strikes.exceeded_eq_false_iff {s : Strikes} :
    s.exceeded = false ↔ s.count ≤ s.limit := by
  simp [Strikes.exceeded, UInt32.not_lt]

/-- No monitor is past its limit. -/
def MonitorSet.Within (ms : MonitorSet σ) : Prop := ∀ m ∈ ms, m.strikes.count ≤ m.strikes.limit

/-- The monitor `m` with the index `i` is past its limit by one, and no other is. -/
structure MonitorSet.Over (ms : MonitorSet σ) (i : ℕ) (m : Registered σ) : Prop where
  getElem?_eq : ms[i]? = some m
  count_eq : m.strikes.count.toNat = m.strikes.limit.toNat + 1
  others : ∀ j m', i ≠ j → ms[j]? = some m' → m'.strikes.exceeded = false

namespace MonitorSet

variable {ms : MonitorSet σ} {i : ℕ} {m : Registered σ}

theorem Within.getElem? (h : ms.Within) (hm : ms[i]? = some m) : m.strikes.exceeded = false :=
  Strikes.exceeded_eq_false_iff.2 (h m (List.mem_of_getElem? hm))

theorem within_of_getElem?
    (h : ∀ (i : ℕ) (m : Registered σ), ms[i]? = some m → m.strikes.exceeded = false) :
    ms.Within := by
  intro m hm
  obtain ⟨i, hi⟩ := List.getElem?_of_mem hm
  exact Strikes.exceeded_eq_false_iff.1 (h i m hi)

theorem Over.eq_of_exceeded (h : ms.Over i m) {j : ℕ} {m' : Registered σ} (hm' : ms[j]? = some m')
    (hst : m'.strikes.exceeded = true) : j = i ∧ m' = m := by
  by_cases hij : i = j
  · subst hij
    rw [h.getElem?_eq] at hm'
    exact ⟨rfl, (Option.some.inj hm').symm⟩
  · rw [h.others j m' hij hm'] at hst
    cases hst

theorem Within.record (h : ms.Within) (hm : ms[i]? = some m) {v : Verdict}
    (hst : (m.record v).strikes.exceeded = false) : (ms.record i v).Within := by
  refine within_of_getElem? fun j m' hj => ?_
  by_cases hij : i = j
  · subst hij
    rw [getElem?_record_self, hm] at hj
    obtain rfl := Option.some.inj hj
    exact hst
  · rw [getElem?_record_of_ne ms hij] at hj
    exact h.getElem? hj

/-- Clearing the strikes of that monitor helps. -/
theorem Over.within_reset (h : ms.Over i m) : (ms.reset i).Within := by
  refine within_of_getElem? fun j m' hj => ?_
  by_cases hij : i = j
  · subst hij
    rw [getElem?_reset_self, h.getElem?_eq] at hj
    obtain rfl := Option.some.inj hj
    simp [Registered.reset, Strikes.exceeded]
  · rw [getElem?_reset_of_ne ms hij] at hj
    exact h.others j m' hij hj

/-- A call goes past the limit by one. -/
theorem Within.over_of_exceeded (h : ms.Within) (hm : ms[i]? = some m) {v : Verdict}
    (hv : v.violated = true) (hst : (m.record v).strikes.exceeded = true) :
    (ms.record i v).Over i (m.record v) where
  getElem?_eq := by rw [getElem?_record_self, hm, Option.map_some]
  count_eq := by
    simp only [Registered.record, hv] at hst ⊢
    exact Strikes.toNat_count_of_exceeded (h.getElem? hm) hst
  others j m' hij hm' := by
    rw [getElem?_record_of_ne ms hij] at hm'
    exact h.getElem? hm'

end MonitorSet

/-- What a monitor that runs out of strikes brings about up to the call of the handler. -/
def Loop.firing (i : ℕ) (name : String) (v : Verdict) (handler : String) (sleep : Binary64)
    (st : Strikes) : List Event :=
  [.checked i name (some v), .reported (.thresholdViolated name),
    .reported (.strikesExceeded name handler sleep st v.payload), .diagnosed name]

/-- Up to there, it has been called, and its strikes are not yet cleared. -/
theorem Loop.after_of_prefix_firing {t : Moment σ} {i : ℕ} {name : String} {v : Verdict}
    {handler : String} {sleep : Binary64} {st : Strikes} {p : List Event} (hne : p ≠ [])
    (hp : p <+: firing i name v handler sleep st) :
    t.after p = ⟨t.monitors.record i v, i⟩ := by
  obtain rfl | ⟨q, rfl, hq⟩ := List.prefix_cons_iff.1 hp
  · exact absurd rfl hne
  · simp only [List.prefix_cons_iff, List.prefix_nil] at hq
    rcases hq with rfl | ⟨_, rfl, rfl | ⟨_, rfl, rfl | ⟨_, rfl, rfl⟩⟩⟩ <;> rfl

/-- The last that happened is that the monitor with the index `i` ran out of strikes; the handler
has not answered yet. -/
def JustFired (i : ℕ) (es : List Event) : Prop :=
  ∃ name v handler sleep st p, v.violated = true ∧ p ≠ [] ∧ p <:+ es ∧
    p <+: Loop.firing i name v handler sleep st ++ [.handled handler none]

theorem JustFired.append {i : ℕ} {es : List Event} (h : JustFired i es) (es' : List Event) :
    JustFired i (es' ++ es) := by
  obtain ⟨name, v, handler, sleep, st, p, hv, hne, hp, hfiring⟩ := h
  exact ⟨name, v, handler, sleep, st, p, hv, hne, hp.trans (List.suffix_append es' es), hfiring⟩

namespace Moment

/-- Along the events `es`, no monitor is past its limit, but for one that has just fired.  That one
is past it by one, and so it is reported; once the handler has answered, it has no strikes left. -/
structure Bounded (t : Moment σ) (es : List Event) : Prop where
  exceeded : ∀ p, p <+: es → ∀ i m, (t.after p).monitors[i]? = some m →
    m.strikes.exceeded = true →
      JustFired i p ∧ m.strikes.count.toNat = m.strikes.limit.toNat + 1
  reported : ∀ p name handler sleep st payload,
    p ++ [.reported (.strikesExceeded name handler sleep st payload)] <+: es →
      ∃ i m, JustFired i p ∧ (t.after p).monitors[i]? = some m ∧ m.name = name ∧
        m.strikes = st ∧ st.count.toNat = st.limit.toNat + 1
  cleared : ∀ p handler success, p ++ [.handled handler (some success)] <+: es →
    ∃ i m, JustFired i p ∧
      (t.after (p ++ [.handled handler (some success)])).monitors[i]? = some m ∧
        m.strikes.count = 0

namespace Bounded

variable {t : Moment σ} {es es' : List Event}

theorem of_isInitial (h : t.Bounded es) (hes : es' <+: es) : t.Bounded es' where
  exceeded p hp := h.exceeded p (hp.trans hes)
  reported p name handler sleep st payload hp :=
    h.reported p name handler sleep st payload (hp.trans hes)
  cleared p handler success hp := h.cleared p handler success (hp.trans hes)

theorem append (h : t.Bounded es) (h' : (t.after es).Bounded es') : t.Bounded (es ++ es') where
  exceeded p hp i m hm hst := by
    rcases prefix_append_cases hp with hp | ⟨q, hq, rfl⟩
    · exact h.exceeded p hp i m hm hst
    · rw [after_append] at hm
      obtain ⟨hfired, hcount⟩ := h'.exceeded q hq i m hm hst
      exact ⟨hfired.append es, hcount⟩
  reported p name handler sleep st payload hp := by
    rcases concat_prefix_append_cases hp with hp | ⟨q, hq, rfl⟩
    · exact h.reported p name handler sleep st payload hp
    · obtain ⟨i, m, hfired, hm⟩ := h'.reported q name handler sleep st payload hq
      exact ⟨i, m, hfired.append es, by rwa [after_append]⟩
  cleared p handler success hp := by
    rcases concat_prefix_append_cases hp with hp | ⟨q, hq, rfl⟩
    · exact h.cleared p handler success hp
    · obtain ⟨i, m, hfired, hm⟩ := h'.cleared q handler success hq
      exact ⟨i, m, hfired.append es, by rwa [List.append_assoc, after_append]⟩

theorem nil (ht : t.monitors.Within) : t.Bounded [] where
  exceeded p hp i m hm hst := by
    obtain rfl := List.prefix_nil.1 hp
    rw [ht.getElem? hm] at hst
    cases hst
  reported p _ _ _ _ _ hp := by simp at hp
  cleared p _ _ hp := by simp at hp

/-- An event that is neither a report of spent strikes nor an answer of a handler is harmless. -/
theorem cons (ht : t.monitors.Within) {e : Event} (hspent : e.isSpent = false)
    (hhandled : e.isHandled = false) (h : (t.next e).Bounded es) : t.Bounded (e :: es) := by
  constructor
  · intro p hp i m hm hst
    obtain rfl | ⟨q, rfl, hq⟩ := List.prefix_cons_iff.1 hp
    · rw [ht.getElem? hm] at hst
      cases hst
    · obtain ⟨hfired, hcount⟩ := h.exceeded q hq i m hm hst
      exact ⟨hfired.append [e], hcount⟩
  · intro p name handler sleep st payload hp
    cases p with
    | nil =>
      obtain ⟨rfl, -⟩ := List.cons_prefix_cons.1 hp
      cases hspent
    | cons e' p =>
      rw [List.cons_append, List.cons_prefix_cons] at hp
      obtain ⟨rfl, hp⟩ := hp
      obtain ⟨i, m, hfired, hm⟩ := h.reported p name handler sleep st payload hp
      exact ⟨i, m, hfired.append [e'], hm⟩
  · intro p handler success hp
    cases p with
    | nil =>
      obtain ⟨rfl, -⟩ := List.cons_prefix_cons.1 hp
      cases hhandled
    | cons e' p =>
      rw [List.cons_append, List.cons_prefix_cons] at hp
      obtain ⟨rfl, hp⟩ := hp
      obtain ⟨i, m, hfired, hm⟩ := h.cleared p handler success hp
      exact ⟨i, m, hfired.append [e'], hm⟩

/-- A monitor runs out of strikes, and perhaps the handler answers. -/
theorem firing (ht : t.monitors.Within) {i : ℕ} {m : Registered σ} (hm : t.monitors[i]? = some m)
    {v : Verdict} (hv : v.violated = true) (hst : (m.record v).strikes.exceeded = true)
    (handler : String) (sleep : Binary64) (success : Option Bool) :
    t.Bounded (Loop.firing i m.name v handler sleep (m.record v).strikes ++
      [.handled handler success]) := by
  have hover := ht.over_of_exceeded hm hv hst
  have hfired (p : List Event) (hne : p ≠ [])
      (hp : p <+: Loop.firing i m.name v handler sleep (m.record v).strikes ++
        [.handled handler none]) : JustFired i p :=
    ⟨_, v, handler, sleep, _, p, hv, hne, List.suffix_refl p, hp⟩
  constructor
  · intro p hp j m' hm' hexceeded
    rcases List.prefix_concat_iff.1 hp with rfl | hp
    · cases success with
      | none =>
        obtain ⟨rfl, rfl⟩ := hover.eq_of_exceeded hm' hexceeded
        exact ⟨hfired _ (by simp) (List.prefix_refl _), hover.count_eq⟩
      | some success =>
        rw [hover.within_reset.getElem? hm'] at hexceeded
        cases hexceeded
    · rcases eq_or_ne p [] with rfl | hne
      · rw [ht.getElem? hm'] at hexceeded
        cases hexceeded
      · rw [Loop.after_of_prefix_firing hne hp] at hm'
        obtain ⟨rfl, rfl⟩ := hover.eq_of_exceeded hm' hexceeded
        exact ⟨hfired p hne (hp.trans (List.prefix_append _ _)), hover.count_eq⟩
  · intro p name handler' sleep' st payload hp
    rcases p with _ | ⟨_, _ | ⟨_, _ | ⟨_, _ | ⟨_, _ | ⟨_, p⟩⟩⟩⟩⟩ <;>
      simp [Loop.firing] at hp
    obtain ⟨rfl, rfl, rfl, rfl, rfl, rfl, rfl⟩ := hp
    exact ⟨i, _, hfired _ (by simp) ⟨[_, _, _], rfl⟩, hover.getElem?_eq, rfl, rfl, hover.count_eq⟩
  · intro p handler' success' hp
    rcases p with _ | ⟨_, _ | ⟨_, _ | ⟨_, _ | ⟨_, _ | ⟨_, p⟩⟩⟩⟩⟩ <;>
      simp [Loop.firing] at hp
    obtain ⟨rfl, rfl, rfl, rfl, rfl, rfl⟩ := hp
    refine ⟨i, (m.record v).reset, hfired _ (by simp) ⟨[_], rfl⟩, ?_, rfl⟩
    show (MonitorSet.reset (t.monitors.record i v) i)[i]? = _
    rw [MonitorSet.getElem?_reset_self, hover.getElem?_eq, Option.map_some]

end Bounded

end Moment

/-! ### Runs within the limits -/

namespace Loop

/-- A pass that does not go through all monitors is quiet up to the monitor at which it stops. -/
theorem Scanned.split {c : Configuration σ} {h : Handler σ} {i : ℕ} {ms ms' : MonitorSet σ}
    {es : List Event} {out : Outcome} (hs : Scanned c h i ms es ms' out) (hout : out ≠ .quiet) :
    ∃ pre pre' m m' post es₁ es₂ f, ms = pre ++ m :: post ∧ ms' = pre' ++ m' :: post ∧
      es = es₁ ++ es₂ ∧ Scanned c h i pre es₁ pre' .quiet ∧
      Examined c h (i + pre.length) m es₂ m' f ∧
      (f = .exceeded ∧ out = .exceeded (i + pre.length) ∨ f = .crashed ∧ out = .crashed) := by
  induction hs with
  | nil => exact absurd rfl hout
  | @passed i m₀ m₀' ms ms' es es' out hm hms ih =>
    obtain ⟨pre, pre', m, m', post, es₁, es₂, f, rfl, rfl, rfl, hpre, hm', hf⟩ := ih hout
    rw [show i + 1 + pre.length = i + (m₀ :: pre).length by simp; omega] at hm' hf
    exact ⟨m₀ :: pre, m₀' :: pre', m, m', post, es ++ es₁, es₂, f, rfl, rfl,
      (List.append_assoc _ _ _).symm, .passed hm hpre, hm', hf⟩
  | @exceeded i m m' ms es hm =>
    exact ⟨[], [], m, m', ms, [], es, _, rfl, rfl, rfl, .nil i, hm, .inl ⟨rfl, rfl⟩⟩
  | @crashed i m m' ms es hm =>
    exact ⟨[], [], m, m', ms, [], es, _, rfl, rfl, rfl, .nil i, hm, .inr ⟨rfl, rfl⟩⟩

/-- An examination either leaves the monitor within its limit at each moment, or the monitor runs
out of strikes. -/
theorem Examined.bounded {c : Configuration σ} {h : Handler σ} {i : ℕ} {m m' : Registered σ}
    {es : List Event} {f : Finding} (hm : Examined c h i m es m' f) {t : Moment σ}
    (ht : t.monitors.Within) (hi : t.monitors[i]? = some m) : t.Bounded es := by
  have told {v : Verdict} (hst : (m.record v).strikes.exceeded = false) :
      t.Bounded [.checked i m.name (some v), .reported (.thresholdViolated m.name)] :=
    .cons ht rfl rfl (.cons (ht.record hi hst) rfl rfl (.nil (ht.record hi hst)))
  cases hm with
  | unanswered => exact .cons ht rfl rfl (.nil ht)
  | respected hv =>
    refine .cons ht rfl rfl (.nil (ht.record hi ?_))
    simp [Registered.record, hv, Strikes.exceeded]
  | @untold v hv =>
    cases hst : (m.record v).strikes.exceeded with
    | false => exact told hst
    | true =>
      exact (Moment.Bounded.firing ht hi hv hst h.name c.sleepSeconds none).of_isInitial
        ⟨[_, _, _], rfl⟩
  | tolerated hv hst => exact told hst
  | spent hv hst =>
    exact (Moment.Bounded.firing ht hi hv hst h.name c.sleepSeconds none).of_isInitial
      ⟨[_, _], rfl⟩

theorem Examined.within {c : Configuration σ} {h : Handler σ} {i : ℕ} {m m' : Registered σ}
    {es : List Event} (hm : Examined c h i m es m' .passed) {t : Moment σ}
    (ht : t.monitors.Within) (hi : t.monitors[i]? = some m) : (t.after es).monitors.Within := by
  cases hm with
  | respected hv =>
    refine ht.record hi ?_
    simp [Registered.record, hv, Strikes.exceeded]
  | tolerated hv hst => exact ht.record hi hst
  | spent _ _ hf => simp at hf

theorem Scanned.bounded_of_quiet {c : Configuration σ} {h : Handler σ} {i : ℕ}
    {ms ms' : MonitorSet σ} {es : List Event} (hs : Scanned c h i ms es ms' .quiet)
    {t : Moment σ} (ht : t.monitors.Within) (pre post : MonitorSet σ)
    (hms : t.monitors = pre ++ (ms ++ post)) (hi : pre.length = i) :
    t.Bounded es ∧ (t.after es).monitors.Within := by
  generalize hout : Outcome.quiet = out at hs
  induction hs generalizing t pre with
  | nil => exact ⟨.nil ht, ht⟩
  | @passed i m m' ms ms' es es' out hm hs ih =>
    have hget : t.monitors[i]? = some m := by simp [hms, ← hi]
    obtain ⟨hafter, -⟩ := hm.after_eq hms hi
    obtain ⟨hbounded, hwithin⟩ := ih (hm.within ht hget) (pre ++ [m'])
      (by simpa using hafter) (by simpa using hi) hout
    exact ⟨(hm.bounded ht hget).append hbounded, by rwa [Moment.after_append]⟩
  | exceeded => cases hout
  | crashed => cases hout

/-- A pass that does not go through all monitors is within the limits up to the monitor at which it
stops. -/
theorem Scanned.bounded_of_ne_quiet {c : Configuration σ} {h : Handler σ} {ms ms' : MonitorSet σ}
    {es : List Event} {out : Outcome} (hs : Scanned c h 0 ms es ms' out) (hout : out ≠ .quiet)
    {t : Moment σ} (hms : t.monitors = ms) (ht : t.monitors.Within) :
    ∃ i m m' es₁ es₂ f, es = es₁ ++ es₂ ∧ t.Bounded es₁ ∧ (t.after es₁).monitors.Within ∧
      (t.after es₁).monitors[i]? = some m ∧ Examined c h i m es₂ m' f ∧
      (f = .exceeded ∧ out = .exceeded i ∧ ms'[i]? = some m' ∨ f = .crashed ∧ out = .crashed) := by
  obtain ⟨pre, pre', m, m', post, es₁, es₂, f, rfl, rfl, rfl, hpre, hm, hf⟩ := hs.split hout
  have hlength := MonitorSet.length_eq_of_map_descriptor hpre.map_descriptor
  obtain ⟨hbounded, hwithin⟩ := hpre.bounded_of_quiet ht [] _ hms rfl
  obtain ⟨hafter, -⟩ := hpre.after_eq [] _ hms rfl
  rw [Nat.zero_add] at hm hf
  refine ⟨_, m, m', es₁, es₂, f, rfl, hbounded, hwithin, ?_, hm, ?_⟩
  · simp [hafter, ← hlength]
  · refine hf.imp_left fun ⟨hf, hout⟩ => ⟨hf, hout, ?_⟩
    simp [← hlength]

/-- Hook and handler follow the monitor that has run out of strikes. -/
theorem Examined.bounded_append {c : Configuration σ} {h : Handler σ} {i : ℕ}
    {m m' : Registered σ} {ms ms' : MonitorSet σ} {es es' : List Event} {success : Option Bool}
    (hm : Examined c h i m es m' .exceeded) (hr : Remedied h i m' ms es' ms' success)
    {t : Moment σ} (ht : t.monitors.Within) (hi : t.monitors[i]? = some m) :
    t.Bounded (es ++ es') := by
  cases hm with
  | spent hv hst =>
    have hfiring (success : Option Bool) := Moment.Bounded.firing ht hi hv hst h.name
      c.sleepSeconds success
    cases hr with
    | undiagnosed => exact (hfiring none).of_isInitial ⟨[_], rfl⟩
    | unanswered => exact hfiring none
    | answered success => exact hfiring (some success)

theorem Ticked.bounded {s : Surroundings σ} {ms ms' : MonitorSet σ} {es : List Event}
    {success : Option Bool} (ht : Ticked s ms es ms' success) {t : Moment σ}
    (hms : t.monitors = ms) (hwithin : t.monitors.Within) : t.Bounded es := by
  cases ht with
  | unread => exact .cons hwithin rfl rfl (.nil hwithin)
  | quiet hs =>
    refine .cons hwithin rfl rfl ?_
    exact (hs.bounded_of_quiet hwithin [] [] (by simpa using hms) rfl).1
  | crashed hs =>
    refine .cons hwithin rfl rfl ?_
    obtain ⟨i, m, m', es₁, es₂, f, rfl, hbounded, hmid, hi, hm, -⟩ :=
      hs.bounded_of_ne_quiet nofun hms hwithin
    exact hbounded.append (hm.bounded hmid hi)
  | remedied hs hget hr =>
    refine .cons hwithin rfl rfl ?_
    obtain ⟨i, m, m', es₁, es₂, f, rfl, hbounded, hmid, hi, hm, hf⟩ :=
      hs.bounded_of_ne_quiet nofun hms hwithin
    obtain ⟨rfl, hout, hm'⟩ := hf.resolve_right nofun
    obtain rfl := Outcome.exceeded.inj hout
    rw [hm'] at hget
    obtain rfl := Option.some.inj hget
    rw [List.append_assoc]
    exact hbounded.append (hm.bounded_append hr hmid hi)

theorem Watched.bounded {s : Surroundings σ} {ms ms' : MonitorSet σ} {es : List Event}
    {success : Option Bool} (hw : Watched s ms es ms' success) {t : Moment σ}
    (hms : t.monitors = ms) (hwithin : t.monitors.Within) : t.Bounded es := by
  cases hw with
  | unread => exact .cons hwithin rfl rfl (.nil hwithin)
  | off => exact .cons hwithin rfl rfl (.nil hwithin)
  | on ht => exact .cons hwithin rfl rfl (ht.bounded hms hwithin)

/-- Unless something crashes, a monitor stays within its limit. -/
theorem Counted.within {broken mute : Prop} {st st' : Strikes} {cs : List Checkup}
    (hc : Counted broken mute st cs st') (hb : ¬ broken) (hst : st.exceeded = false) :
    st'.exceeded = false := by
  cases hc with
  | skipped => exact hst
  | @passed violated h =>
    cases violated with
    | false => simp [Strikes.exceeded]
    | true => exact h rfl
  | spent => simp [Strikes.exceeded]
  | torn hbroken => exact absurd hbroken hb

theorem Watched.within {s : Surroundings σ} {ms ms' : MonitorSet σ} {es : List Event}
    {success : Bool} (hw : Watched s ms es ms' (some success)) (hms : ms.Within) :
    ms'.Within := by
  refine MonitorSet.within_of_getElem? fun i m' hi' => ?_
  have hlt : i < ms.length := by
    rw [← MonitorSet.length_eq_of_map_descriptor hw.map_descriptor]
    exact (List.getElem?_eq_some_iff.1 hi').1
  obtain ⟨m'', hi, hcounted⟩ := hw.counted (List.getElem?_eq_getElem hlt)
  rw [hi] at hi'
  obtain rfl := Option.some.inj hi'
  exact hcounted.within nofun (hms.getElem? (List.getElem?_eq_getElem hlt))

/-- A turn that does not crash leaves no monitor past its limit. -/
theorem Turned.within {s : Surroundings σ} {ms ms' : MonitorSet σ} {es : List Event}
    {e : Option Ending} (ht : Turned s ms es ms' e) (he : e ≠ some .crashed) (hms : ms.Within) :
    ms'.Within := by
  cases ht with
  | stopped => exact hms
  | empty => exact hms
  | crashed => exact absurd rfl he
  | handled _ hw => exact hw.within hms
  | rested _ hw => exact hw.within hms

theorem Turned.bounded {s : Surroundings σ} {ms ms' : MonitorSet σ} {es : List Event}
    {e : Option Ending} (ht : Turned s ms es ms' e) {t : Moment σ} (hms : t.monitors = ms)
    (hwithin : t.monitors.Within) : t.Bounded es := by
  cases ht with
  | stopped => exact .nil hwithin
  | empty => exact .nil hwithin
  | crashed _ hw => exact hw.bounded hms hwithin
  | handled _ hw => exact hw.bounded hms hwithin
  | @rested es _ _ _ hw =>
    have hrest : (t.after es).monitors.Within := by
      rw [hw.after_eq hms]
      exact hw.within (hms ▸ hwithin)
    exact (hw.bounded hms hwithin).append (.cons hrest rfl rfl (.nil hrest))

theorem Took.within {s : Surroundings σ} {ms ms' : MonitorSet σ} {es : List Event} {e : Ending}
    (ht : Took s ms es ms' e) (he : e ≠ .crashed) (hms : ms.Within) : ms'.Within := by
  induction ht with
  | unfinished => exact hms
  | last ht => exact ht.within (by simpa using he) hms
  | next ht _ ih => exact ih he (ht.within nofun hms)

theorem Took.bounded {s : Surroundings σ} {ms ms' : MonitorSet σ} {es : List Event} {e : Ending}
    (ht : Took s ms es ms' e) {t : Moment σ} (hms : t.monitors = ms)
    (hwithin : t.monitors.Within) : t.Bounded es := by
  induction ht generalizing t with
  | unfinished => exact .nil hwithin
  | last ht => exact ht.bounded hms hwithin
  | next ht _ ih =>
    have hafter := ht.after_eq hms
    refine (ht.bounded hms hwithin).append (ih hafter ?_)
    rw [hafter]
    exact ht.within nofun (hms ▸ hwithin)

end Loop

namespace Watchdog

theorem Announced.bounded {d : Watchdog σ} {notice : String → Notice} {es : List Event}
    {told : Option Unit} (h : Announced d notice es told)
    (hn : ∀ name, (Event.reported (notice name)).isSpent = false) {t : Moment σ}
    (ht : t.monitors.Within) : t.Bounded es := by
  cases h with
  | unread => exact .cons ht rfl rfl (.nil ht)
  | reported => exact .cons ht rfl rfl (.cons ht (hn _) rfl (.nil ht))

theorem Held.within {d : Watchdog σ} {es : List Event} {ms : MonitorSet σ} {e : Ending}
    (h : Held d es ms e) (he : e ≠ .crashed) (hms : d.configuration.monitors.Within) :
    ms.Within := by
  cases h with
  | unopened => exact hms
  | unclosed _ hts => exact hts.within he hms
  | closed _ hts => exact hts.within nofun hms

theorem Held.bounded {d : Watchdog σ} {es : List Event} {ms : MonitorSet σ} {e : Ending}
    (h : Held d es ms e) {t : Moment σ} (ht : t.monitors = d.configuration.monitors)
    (hwithin : t.monitors.Within) : t.Bounded es := by
  cases h with
  | unopened ho => exact ho.bounded (fun _ => rfl) hwithin
  | unclosed ho hts =>
    refine (ho.bounded (fun _ => rfl) hwithin).append ?_
    rw [ho.after_eq]
    exact hts.bounded ht hwithin
  | closed ho hts hc =>
    refine ((ho.bounded (fun _ => rfl) hwithin).append ?_).append ?_
    · rw [ho.after_eq]
      exact hts.bounded ht hwithin
    · refine hc.bounded (fun _ => rfl) ?_
      rw [Moment.after_append, ho.after_eq, hts.after_eq ht]
      exact hts.within nofun (ht ▸ hwithin)

/-- The moment before a run. -/
def outset (d : Watchdog σ) : Moment σ := ⟨d.configuration.monitors, 0⟩

theorem outset_after_run (d : Watchdog σ) (allowed : ℕ) (w : σ) :
    (d.run allowed w).watchdog.configuration =
      { d.configuration with monitors := (d.outset.after (d.run allowed w).events).monitors } := by
  by_cases hd : d.Ready
  · obtain ⟨e, hheld, -⟩ := held_of_ready hd allowed w
    rw [hheld.after_eq rfl, run_of_ready hd]
    rfl
  · obtain ⟨fault, hrun⟩ := run_of_not_ready hd allowed w
    rw [hrun]
    rfl

/-- **The bound on strikes.**  Of monitors that start within their limits, none is past its limit
between turns and at the end of a run; in a turn only one that has just fired is, by one, until the
handler has answered.  All that changes in a run is strikes. -/
theorem strikes_le_limit {d : Watchdog σ} (hd : d.configuration.monitors.Within) (allowed : ℕ)
    (w : σ) :
    ((d.run allowed w).result ≠ .crashed →
        (d.run allowed w).watchdog.configuration.monitors.Within) ∧
      d.outset.Bounded (d.run allowed w).events ∧
      (d.run allowed w).watchdog.configuration =
        { d.configuration with monitors := (d.outset.after (d.run allowed w).events).monitors } ∧
      ∀ p, p <+: (d.run allowed w).events →
        (d.outset.after p).monitors.map Registered.descriptor =
          d.configuration.monitors.map Registered.descriptor := by
  have hafter := outset_after_run d allowed w
  have hsame (p : List Event) (_ : p <+: (d.run allowed w).events) :=
    d.outset.map_descriptor_after p
  by_cases hready : d.Ready
  · obtain ⟨e, hheld, hresult⟩ := held_of_ready hready allowed w
    refine ⟨fun hr => hheld.within ?_ hd, hheld.bounded rfl hd, hafter, hsame⟩
    rintro rfl
    exact hr hresult
  · obtain ⟨fault, hrun⟩ := run_of_not_ready hready allowed w
    refine ⟨fun _ => ?_, ?_, hafter, hsame⟩
    · rw [hrun]
      exact hd
    · rw [hrun]
      exact .nil hd

/-- The small watchdog's monitor goes past its limit in the second of three turns, and is within it
again at their end. -/
theorem small_strikes_le_limit :
    (small none).configuration.monitors.Within ∧
      ((small none).run 3 0).watchdog.configuration.monitors.Within ∧
      (small none).outset.Bounded ((small none).run 3 0).events ∧
      (Event.reported (.strikesExceeded "alarm" "NullHandler"
        (small none).configuration.sleepSeconds ⟨1, 2⟩ .empty)) ∈
          ((small none).run 3 0).events := by
  have hwithin : (small none).configuration.monitors.Within := by
    simp [MonitorSet.Within, small, alarm]
  have hr : ((small none).run 3 0).result = .unfinished := rfl
  obtain ⟨hend, hbounded, -⟩ := strikes_le_limit hwithin 3 0
  exact ⟨hwithin, hend (by rw [hr]; nofun), hbounded, List.mem_of_getElem? (i := 11) rfl⟩

end Watchdog

end Vigil
