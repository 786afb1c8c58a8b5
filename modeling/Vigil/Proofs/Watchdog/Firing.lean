import Mathlib.Order.Bounds.Basic
import Vigil.Proofs.Watchdog.Conservation
import Vigil.Proofs.Watchdog.Earlier

/-!
# The first monitor to go past its limit

A pass against its description.  Given the results that the monitors return, the first monitor that
goes past its limit ends the pass: up to it all monitors are called and their results counted, after
it none are.

* `Registered.strikesAfter`, `Registered.Fires`: the strikes after a result, as numbers;
* `MonitorSet.FirstToFire`, `MonitorSet.NoneFires`: which monitor goes past its limit first, if any
  does;
* `Loop.Returned`: the results that the monitors return;
* `Loop.Passed`, `Loop.Scanned.described`: the calls of a pass;
* `Loop.Answered`, `Loop.tick_answered`: a pass with hook and handler;
* `Loop.FiredFirst`, `Loop.NoneFired`, `Loop.tick_described`: a pass against its description.
-/

namespace Vigil

variable {σ : Type}

/-- A monitor is called. -/
def Event.isChecked : Event → Bool
  | .checked .. => true
  | _ => false

namespace Registered

/-- The strikes of a monitor after a result: none if its threshold is respected, and otherwise one
more, as far as there are numbers. -/
def strikesAfter (m : Registered σ) (v : Verdict) : ℕ :=
  if v.violated then min (m.strikes.count.toNat + 1) 4294967295 else 0

/-- With a result, a monitor goes past its limit. -/
def Fires (m : Registered σ) (v : Verdict) : Prop :=
  v.violated = true ∧ m.strikes.limit.toNat < min (m.strikes.count.toNat + 1) 4294967295

/-- It is the same monitor with the same limit, and has that many strikes. -/
structure Becomes (m m' : Registered σ) (strikes : ℕ) : Prop where
  descriptor : m'.descriptor = m.descriptor
  count : m'.strikes.count.toNat = strikes

theorem toNat_count_record (m : Registered σ) (v : Verdict) :
    (m.record v).strikes.count.toNat = m.strikesAfter v := by
  unfold record strikesAfter
  cases v.violated with
  | false => rfl
  | true => exact m.strikes.toNat_count_record_true

theorem becomes_record (m : Registered σ) (v : Verdict) :
    m.Becomes (m.record v) (m.strikesAfter v) := ⟨rfl, m.toNat_count_record v⟩

theorem fires_iff {m : Registered σ} {v : Verdict} :
    m.Fires v ↔ v.violated = true ∧ (m.record v).strikes.exceeded = true := by
  refine and_congr_right fun hv => ?_
  rw [Strikes.exceeded_iff, toNat_count_record, strikesAfter, if_pos hv]
  rfl

end Registered

namespace MonitorSet

/-- With these results, `i` is the least index of a monitor that goes past its limit. -/
def FirstToFire (ms : MonitorSet σ) (verdict : ℕ → Verdict) (i : ℕ) : Prop :=
  IsLeast {j | ∃ m : Registered σ, ms[j]? = some m ∧ m.Fires (verdict j)} i

/-- With these results, no monitor goes past its limit. -/
def NoneFires (ms : MonitorSet σ) (verdict : ℕ → Verdict) : Prop :=
  ∀ j (m : Registered σ), ms[j]? = some m → ¬ m.Fires (verdict j)

theorem FirstToFire.not_noneFires {ms : MonitorSet σ} {verdict : ℕ → Verdict} {i : ℕ}
    (h : ms.FirstToFire verdict i) : ¬ ms.NoneFires verdict := by
  obtain ⟨⟨m, hm, hfires⟩, -⟩ := h
  exact fun hnone => hnone i m hm hfires

variable {m : Registered σ} {ms : MonitorSet σ} {verdict : ℕ → Verdict}

theorem NoneFires.cons (hm : ¬ m.Fires (verdict 0)) (h : ms.NoneFires fun j => verdict (j + 1)) :
    NoneFires (m :: ms) verdict := by
  rintro (_ | j) u hu
  · obtain rfl := Option.some.inj hu
    exact hm
  · exact h j u hu

theorem FirstToFire.cons (hm : ¬ m.Fires (verdict 0)) {i : ℕ}
    (h : ms.FirstToFire (fun j => verdict (j + 1)) i) : FirstToFire (m :: ms) verdict (i + 1) := by
  obtain ⟨⟨u, hu, hfires⟩, hleast⟩ := h
  refine ⟨⟨u, hu, hfires⟩, ?_⟩
  rintro (_ | j) ⟨v, hv, hfires⟩
  · obtain rfl := Option.some.inj hv
    exact absurd hfires hm
  · exact Nat.succ_le_succ (hleast ⟨v, hv, hfires⟩)

theorem FirstToFire.head (hm : m.Fires (verdict 0)) : FirstToFire (m :: ms) verdict 0 :=
  ⟨⟨m, rfl, hm⟩, fun j _ => Nat.zero_le j⟩

end MonitorSet

namespace Loop

/-- Those monitors that are called return these results. -/
def Returned (verdict : ℕ → Verdict) (es : List Event) : Prop :=
  ∀ i name v?, .checked i name v? ∈ es → v? = some (verdict i)

theorem Returned.mono {verdict : ℕ → Verdict} {es es' : List Event} (h : Returned verdict es')
    (hsub : es ⊆ es') : Returned verdict es := fun i name v? hmem => h i name v? (hsub hmem)

/-- The calls of monitors one after the other, the first of which has the index `k`. -/
def callsFrom (k : ℕ) (verdict : ℕ → Verdict) (ms : MonitorSet σ) : List Event :=
  (ms.zipIdx k).map fun e => .checked e.2 e.1.name (some (verdict e.2))

/-- A pass over the first `n` monitors, the first of which has the index `k`: these are called, and
their results are counted. -/
structure Passed (verdict : ℕ → Verdict) (k n : ℕ) (ms : MonitorSet σ) (es : List Event)
    (ms' : MonitorSet σ) : Prop where
  called : es.filter Event.isChecked = callsFrom k verdict (ms.take n)
  counted : ∀ j, ms'[j]? = if j < n then ms[j]?.map (·.record (verdict (k + j))) else ms[j]?

theorem Passed.nil (verdict : ℕ → Verdict) (k : ℕ) :
    Passed (σ := σ) verdict k 0 [] [] [] := ⟨rfl, by simp⟩

theorem Passed.cons {verdict : ℕ → Verdict} {k n : ℕ} {m : Registered σ} {ms ms' : MonitorSet σ}
    {es es' : List Event}
    (hm : es.filter Event.isChecked = [.checked k m.name (some (verdict k))])
    (hms : Passed verdict (k + 1) n ms es' ms') :
    Passed verdict k (n + 1) (m :: ms) (es ++ es') (m.record (verdict k) :: ms') where
  called := by
    rw [List.filter_append, hm, hms.called]
    rfl
  counted j := by
    cases j with
    | zero => simp
    | succ j => simp [hms.counted, Nat.add_assoc, Nat.add_comm 1]

variable {c : Configuration σ} {h : Handler σ} {verdict : ℕ → Verdict}

/-- Examining a monitor against its description. -/
theorem Examined.described {i : ℕ} {m m' : Registered σ} {es : List Event} {f : Finding}
    (hm : Examined c h i m es m' f) (hv : Returned verdict es) (hf : f ≠ .crashed) :
    es.filter Event.isChecked = [.checked i m.name (some (verdict i))] ∧
      m' = m.record (verdict i) ∧ (f = .exceeded ↔ m.Fires (verdict i)) := by
  have hreturned {v : Verdict} {es : List Event} (hv : Returned verdict es)
      (hmem : .checked i m.name (some v) ∈ es) : v = verdict i :=
    Option.some.inj (hv _ _ _ hmem)
  cases hm with
  | unanswered => exact absurd rfl hf
  | untold => exact absurd rfl hf
  | respected hviolated =>
    obtain rfl := hreturned hv List.mem_cons_self
    exact ⟨rfl, rfl, by simp [Registered.fires_iff, hviolated]⟩
  | tolerated hviolated hexceeded =>
    obtain rfl := hreturned hv List.mem_cons_self
    exact ⟨rfl, rfl, by simp [Registered.fires_iff, hexceeded]⟩
  | spent hviolated hexceeded hfinding =>
    obtain rfl := hreturned hv List.mem_cons_self
    refine ⟨rfl, rfl, ?_⟩
    simpa [Registered.fires_iff, hviolated, hexceeded, hf] using hfinding

/-- What a pass is like that came to an outcome. -/
def Described (verdict : ℕ → Verdict) (k : ℕ) (ms : MonitorSet σ) (es : List Event)
    (ms' : MonitorSet σ) : Outcome → Prop
  | .quiet => Passed verdict k ms.length ms es ms' ∧
      MonitorSet.NoneFires ms fun j => verdict (k + j)
  | .exceeded i => ∃ j, i = k + j ∧ Passed verdict k (j + 1) ms es ms' ∧
      MonitorSet.FirstToFire ms (fun j => verdict (k + j)) j
  | .crashed => True

theorem Scanned.described {k : ℕ} {ms ms' : MonitorSet σ} {es : List Event} {out : Outcome}
    (hs : Scanned c h k ms es ms' out) (hv : Returned verdict es) :
    Described verdict k ms es ms' out := by
  induction hs with
  | nil k => exact ⟨.nil verdict k, nofun⟩
  | @passed k m m' ms ms' es es' out hm hms ih =>
    obtain ⟨hcalled, rfl, hfires⟩ :=
      hm.described (hv.mono (List.subset_append_left es es')) nofun
    have hpasses : ¬ m.Fires (verdict k) := fun h => nomatch hfires.2 h
    -- the rest of the pass counts its monitors from `k + 1` on
    have hshift : (fun j => verdict (k + 1 + j)) = fun j => verdict (k + (j + 1)) :=
      funext fun j => by rw [Nat.add_right_comm, Nat.add_assoc]
    have ih := ih (hv.mono (List.subset_append_right es es'))
    cases out with
    | quiet =>
      obtain ⟨hpassed, hquiet⟩ := ih
      rw [hshift] at hquiet
      exact ⟨hpassed.cons hcalled, hquiet.cons hpasses⟩
    | exceeded i =>
      obtain ⟨j, rfl, hpassed, hfirst⟩ := ih
      rw [hshift] at hfirst
      exact ⟨j + 1, by omega, hpassed.cons hcalled, hfirst.cons hpasses⟩
    | crashed => trivial
  | @exceeded k m m' ms es hm =>
    obtain ⟨hcalled, rfl, hfires⟩ := hm.described hv nofun
    refine ⟨0, rfl, ⟨hcalled, fun j => ?_⟩, .head (hfires.1 rfl)⟩
    cases j <;> simp
  | crashed => trivial

/-! ### A pass and what follows from it -/

/-- A pass that is not cut short by a crash: all monitors have strikes left, or one has not, and the
handler in effect is called in the world that the hook left. -/
inductive Answered (s : Surroundings σ) (ms : MonitorSet σ) (on : Bool)
    (p : Stretch σ (MonitorSet σ × Option Bool)) : Prop
  | quiet {es : List Event} {ms' : MonitorSet σ}
      (hs : Scanned s.configuration (select s.configuration.handler on) 0 ms es ms' .quiet)
      (hp : p.value = (ms', some false)) (hes : p.events = .enforcementRead (some on) :: es)
  | handled {i : ℕ} {m : Registered σ} {es : List Event} {ms' : MonitorSet σ} {w : σ}
      {r : Reply σ Bool}
      (hs : Scanned s.configuration (select s.configuration.handler on) 0 ms es ms' (.exceeded i))
      (hm : ms'[i]? = some m)
      (hr : r = (select s.configuration.handler on).call
        (s.configuration.diagnostics m.name w).world)
      (hsome : r.value.isSome = true) (hp : p.value = (MonitorSet.reset ms' i, r.value))
      (hes : p.events = .enforcementRead (some on) :: (es ++
        [.diagnosed m.name, .handled (select s.configuration.handler on).name r.value]))
      (hw : p.scene.world = r.world)

theorem currentHandler_apply (s : Surroundings σ) (x : Scene σ) :
    ∃ y, currentHandler s x =
      ⟨(s.toggles.enforcementEnabled x.world).value.map (select s.configuration.handler),
        [.enforcementRead (s.toggles.enforcementEnabled x.world).value], y⟩ := ⟨_, rfl⟩

/-- Hook and handler, if both answer. -/
theorem remedy_apply {c : Configuration σ} {h : Handler σ} {i : ℕ} {m : Registered σ}
    {ms : MonitorSet σ} (hm : ms[i]? = some m) {x : Scene σ}
    (hsome : (remedy c h i ms x).value.2 ≠ none) :
    let r := h.call (c.diagnostics m.name x.world).world
    let p := remedy c h i ms x
    r.value.isSome = true ∧ p.value = (MonitorSet.reset ms i, r.value) ∧
      p.events = [.diagnosed m.name, .handled h.name r.value] ∧ p.scene.world = r.world := by
  intro r p
  have hp : p = remedy c h i ms x := rfl
  rw [← hp] at hsome
  rw [remedy, hm] at hp
  -- a hook that crashes ends the pass, and so does a handler, which `hsome` rules out
  cases hlooked : (c.diagnostics m.name x.world).value with
  | none =>
    simp only [Act.bind_apply, Act.call, hlooked, Option.isNone_none, if_true] at hp
    exact absurd (by rw [hp]; rfl) hsome
  | some u =>
    simp only [Act.bind_apply, Act.call, hlooked, Option.isNone_some, Bool.false_eq_true,
      if_false] at hp
    have hanswer : r.value.isSome = true := by
      rw [hp] at hsome
      exact Option.isSome_iff_ne_none.2 hsome
    rw [hp]
    exact ⟨hanswer, congrArg (·, r.value) (if_pos hanswer), rfl, rfl⟩

theorem tick_answered {s : Surroundings σ} {ms : MonitorSet σ} {x : Scene σ}
    (hsome : (tick s ms x).value.2 ≠ none) :
    ∃ on, (s.toggles.enforcementEnabled x.world).value = some on ∧
      Answered s ms on (tick s ms x) := by
  obtain ⟨y, hread⟩ := currentHandler_apply s x
  rw [tick_eq_follow, Act.bind_eq_andThen, hread] at hsome ⊢
  cases hon : (s.toggles.enforcementEnabled x.world).value with
  | none =>
    rw [hon] at hsome
    exact absurd rfl hsome
  | some on =>
    refine ⟨on, rfl, ?_⟩
    rw [hon] at hsome
    have hscanned := scan_ensures s.configuration (select s.configuration.handler on) 0 ms y
    dsimp only [Stretch.andThen, Act.bind_eq_andThen, Option.map_some] at hsome ⊢
    generalize scan s.configuration (select s.configuration.handler on) 0 ms y = p
      at hscanned hsome ⊢
    obtain ⟨⟨ms', out⟩, es, z⟩ := p
    cases out with
    | crashed => exact absurd rfl hsome
    | quiet => exact .quiet hscanned rfl (by simp [follow, Act.pure_apply])
    | exceeded i =>
      obtain ⟨k, m, hk, hm⟩ := hscanned.exists_getElem?
      obtain rfl : i = k := by omega
      obtain ⟨hanswer, hvalue, hevents, hworld⟩ := remedy_apply hm hsome
      exact .handled hscanned hm rfl hanswer hvalue (by rw [follow, hevents]; rfl) hworld

/-! ### The results of a pass -/

theorem Examined.exists_returned {i : ℕ} {m m' : Registered σ} {es : List Event} {f : Finding}
    (hm : Examined c h i m es m' f) (hf : f ≠ .crashed) :
    ∃ v, ∀ j name v?, .checked j name v? ∈ es → j = i ∧ v? = some v := by
  cases hm with
  | unanswered => exact absurd rfl hf
  | untold => exact absurd rfl hf
  | @respected v => exact ⟨v, by simp +contextual⟩
  | @tolerated v => exact ⟨v, by simp +contextual⟩
  | @spent v => exact ⟨v, by simp +contextual⟩

/-- No monitor is called twice, so all the results are those of some assignment. -/
theorem Scanned.exists_returned {k : ℕ} {ms ms' : MonitorSet σ} {es : List Event} {out : Outcome}
    (hs : Scanned c h k ms es ms' out) (hout : out ≠ .crashed) :
    ∃ verdict, Returned verdict es ∧ ∀ j name v?, .checked j name v? ∈ es → k ≤ j := by
  induction hs with
  | nil k => exact ⟨fun _ => .ok, nofun, nofun⟩
  | @passed k m m' ms ms' es es' out hm hms ih =>
    obtain ⟨v, hv⟩ := hm.exists_returned nofun
    obtain ⟨verdict, hverdict, hle⟩ := ih hout
    -- whatever is called later has a larger index, so the result at `k` is still free
    refine ⟨Function.update verdict k v, fun j name v? hmem => ?_, fun j name v? hmem => ?_⟩
    · rcases List.mem_append.1 hmem with hmem | hmem
      · obtain ⟨rfl, rfl⟩ := hv j name v? hmem
        rw [Function.update_self]
      · have hne : j ≠ k := by
          have := hle j name v? hmem
          omega
        rw [Function.update_of_ne hne]
        exact hverdict j name v? hmem
    · rcases List.mem_append.1 hmem with hmem | hmem
      · exact Nat.le_of_eq (hv j name v? hmem).1.symm
      · exact Nat.le_of_succ_le (hle j name v? hmem)
  | exceeded hm =>
    obtain ⟨v, hv⟩ := hm.exists_returned nofun
    exact ⟨fun _ => v, fun j name v? hmem => (hv j name v? hmem).2, fun j name v? hmem =>
      Nat.le_of_eq (hv j name v? hmem).1.symm⟩
  | crashed => exact absurd rfl hout

/-! ### Passes against their description -/

/-- Some monitor goes past its limit, and `i` is the index of the first.  The monitors up to it are
called, once each and in order.  The handler in effect is called after the hook, in the world that
the hook left, and neither was called before; the pass comes to what the handler answers. -/
structure FiredFirst (s : Surroundings σ) (ms : MonitorSet σ) (verdict : ℕ → Verdict) (on : Bool)
    (i : ℕ) (p : Stretch σ (MonitorSet σ × Option Bool)) : Prop where
  called : p.events.filter Event.isChecked = callsFrom 0 verdict (ms.take (i + 1))
  earlier : ∀ j < i, ∀ m, ms[j]? = some m →
    ∃ m', p.value.1[j]? = some m' ∧ m.Becomes m' (m.strikesAfter (verdict j))
  cleared : ∀ m, ms[i]? = some m → ∃ m', p.value.1[i]? = some m' ∧ m.Becomes m' 0
  later : ∀ j, i < j → p.value.1[j]? = ms[j]?
  handled : ∃ (m : Registered σ) (es : List Event) (w : σ) (h : Handler σ) (r : Reply σ Bool),
    ms[i]? = some m ∧ h = (if on then s.configuration.handler else .null) ∧
      r = h.call (s.configuration.diagnostics m.name w).world ∧
      p.events = es ++ [.diagnosed m.name, .handled h.name r.value] ∧
      (∀ e ∈ es, e.isDiagnosed = false ∧ e.isHandled = false) ∧
      p.value.2 = r.value ∧ r.value.isSome = true ∧ p.scene.world = r.world

/-- No monitor goes past its limit.  All are called, once each and in order, and neither hook nor
handler is. -/
structure NoneFired (ms : MonitorSet σ) (verdict : ℕ → Verdict)
    (p : Stretch σ (MonitorSet σ × Option Bool)) : Prop where
  called : p.events.filter Event.isChecked = callsFrom 0 verdict ms
  counted : ∀ j (m : Registered σ), ms[j]? = some m →
    ∃ m', p.value.1[j]? = some m' ∧ m.Becomes m' (m.strikesAfter (verdict j))
  length : p.value.1.length = ms.length
  unhandled : ∀ e ∈ p.events, e.isDiagnosed = false ∧ e.isHandled = false
  failed : p.value.2 = some false

theorem Scanned.unhandled {k : ℕ} {ms ms' : MonitorSet σ} {es : List Event} {out : Outcome}
    (hs : Scanned c h k ms es ms' out) (on : Option Bool) :
    ∀ e ∈ Event.enforcementRead on :: es, e.isDiagnosed = false ∧ e.isHandled = false :=
  List.forall_mem_cons.2 ⟨⟨rfl, rfl⟩, fun e he => (Event.uncounted_of_ofPass (hs.ofPass e he)).2⟩

/-- What is counted of the monitors of a pass. -/
theorem Passed.exists_becomes {n : ℕ} {ms ms' : MonitorSet σ} {es : List Event}
    (hp : Passed verdict 0 n ms es ms') {j : ℕ} (hj : j < n) {m : Registered σ}
    (hm : ms[j]? = some m) : ms'[j]? = some (m.record (verdict j)) := by
  rw [hp.counted, if_pos hj, hm, Nat.zero_add]
  rfl

variable {s : Surroundings σ} {ms : MonitorSet σ} {on : Bool}
  {p : Stretch σ (MonitorSet σ × Option Bool)}

theorem Answered.firedFirst (hp : Answered s ms on p) (hv : Returned verdict p.events) {i : ℕ}
    (hi : ms.FirstToFire verdict i) : FiredFirst s ms verdict on i p := by
  -- the outcome of the pass is that of its description: least indices are unique
  cases hp with
  | quiet hs _ hes =>
    have hdescribed := hs.described (hv.mono fun e he => by simp [hes, he])
    simp only [Described, Nat.zero_add] at hdescribed
    exact absurd hdescribed.2 hi.not_noneFires
  | @handled l m es ms' w r hs hm hr hsome hvalue hes hw =>
    have hdescribed := hs.described (hv.mono fun e he => by simp [hes, he])
    simp only [Described, Nat.zero_add] at hdescribed
    obtain ⟨_, rfl, hpassed, hfirst⟩ := hdescribed
    obtain rfl := hi.unique hfirst
    refine ⟨?_, fun j hj u hu => ?_, fun u hu => ?_, fun j hj => ?_, ?_⟩
    · simp [hes, Event.isChecked, hpassed.called]
    · refine ⟨_, ?_, u.becomes_record _⟩
      rw [hvalue, MonitorSet.getElem?_reset_of_ne ms' (Nat.ne_of_gt hj)]
      exact hpassed.exists_becomes (Nat.lt_succ_of_lt hj) hu
    · refine ⟨(u.record (verdict i)).reset, ?_, rfl, rfl⟩
      rw [hvalue, MonitorSet.getElem?_reset_self, hpassed.exists_becomes (Nat.lt_succ_self i) hu]
      rfl
    · rw [hvalue, MonitorSet.getElem?_reset_of_ne ms' (Nat.ne_of_lt hj), hpassed.counted,
        if_neg (by omega)]
    · obtain ⟨⟨u, hu, -⟩, -⟩ := hi
      obtain rfl : u.record (verdict i) = m := by
        rw [hpassed.exists_becomes (Nat.lt_succ_self i) hu] at hm
        exact Option.some.inj hm
      exact ⟨u, _, w, _, r, hu, rfl, hr, hes, hs.unhandled _, congrArg Prod.snd hvalue, hsome, hw⟩

theorem Answered.noneFired (hp : Answered s ms on p) (hv : Returned verdict p.events)
    (hnone : ms.NoneFires verdict) : NoneFired ms verdict p := by
  cases hp with
  | @quiet es ms' hs hvalue hes =>
    have hdescribed := hs.described (hv.mono fun e he => by simp [hes, he])
    obtain ⟨hpassed, -⟩ := hdescribed
    refine ⟨?_, fun j u hu => ?_, ?_, ?_, ?_⟩
    · rw [hes, List.filter_cons_of_neg (by simp [Event.isChecked]), hpassed.called,
        List.take_length]
    · refine ⟨_, ?_, u.becomes_record _⟩
      rw [hvalue]
      exact hpassed.exists_becomes (List.getElem?_eq_some_iff.1 hu).1 hu
    · rw [hvalue]
      exact MonitorSet.length_eq_of_map_descriptor hs.map_descriptor
    · rw [hes]
      exact hs.unhandled _
    · rw [hvalue]
  | handled hs hm hr hsome hvalue hes hw =>
    have hdescribed := hs.described (hv.mono fun e he => by simp [hes, he])
    simp only [Described, Nat.zero_add] at hdescribed
    obtain ⟨_, -, -, hfirst⟩ := hdescribed
    exact absurd hnone hfirst.not_noneFires

/-- All calls in a pass are answered with some results. -/
theorem Answered.exists_returned (hp : Answered s ms on p) :
    ∃ verdict, Returned verdict p.events := by
  cases hp with
  | quiet hs _ hes | handled hs _ _ _ _ hes =>
    obtain ⟨verdict, hverdict, -⟩ := hs.exists_returned nofun
    exact ⟨verdict, fun i name v? h => hverdict i name v? (by simpa [hes] using h)⟩

/-! ### Monitors that always answer the same -/

theorem examine_returned {m : Registered σ} {v : Verdict}
    (hm : ∀ w, (m.monitor.check w).value = some v) (i : ℕ) :
    (examine c h i m).Ensures fun es _ =>
      ∀ j name v?, .checked j name v? ∈ es → j = i ∧ v? = some v := by
  intro x
  have hexamined := examine_ensures c h i m x
  have hhead : (examine c h i m x).events.head? =
      some (.checked i m.name (m.monitor.check x.world).value) := rfl
  rw [hm] at hhead
  generalize examine c h i m x = p at hexamined hhead ⊢
  obtain ⟨⟨m', f⟩, es, y⟩ := p
  dsimp only at hexamined hhead ⊢
  cases hexamined <;> simp_all

theorem scan_returned {ms : MonitorSet σ} (k : ℕ)
    (hms : ∀ j (m : Registered σ), ms[j]? = some m →
      ∀ w, (m.monitor.check w).value = some (verdict (k + j))) :
    (scan c h k ms).Ensures fun es _ => Returned verdict es := by
  induction ms generalizing k with
  | nil => exact Act.ensures_pure nofun
  | cons m ms ih =>
    refine .bind (examine_returned (hms 0 m rfl) k) ?_
    rintro es ⟨m', finding⟩ hes
    have hfirst : Returned verdict es := fun j name v? hmem => by
      obtain ⟨rfl, rfl⟩ := hes j name v? hmem
      rfl
    cases finding with
    | passed =>
      refine .bind (ih (k + 1) fun j u hu w => ?_) ?_
      · rw [Nat.add_right_comm, Nat.add_assoc]
        exact hms (j + 1) u hu w
      · rintro es' r hes'
        refine Act.ensures_pure fun j name v? hmem => ?_
        rw [List.append_nil] at hmem
        exact (List.mem_append.1 hmem).elim (hfirst j name v?) (hes' j name v?)
    | exceeded => exact Act.ensures_pure (by simpa using hfirst)
    | crashed => exact Act.ensures_pure (by simpa using hfirst)

theorem remedy_unchecked (c : Configuration σ) (h : Handler σ) (i : ℕ) (ms : MonitorSet σ) :
    (remedy c h i ms).Ensures fun es _ => ∀ e ∈ es, e.isChecked = false := by
  unfold remedy
  split
  · exact Act.ensures_pure nofun
  · refine .bind (Act.ensures_call _ _) ?_
    rintro _ looked rfl
    split
    · exact Act.ensures_pure (by simp [Event.isChecked])
    · refine .bind (Act.ensures_call _ _) ?_
      rintro _ success rfl
      exact Act.ensures_pure (by simp [Event.isChecked])

/-- Monitors that answer the same in whatever world return these answers. -/
theorem tick_returned {s : Surroundings σ} {ms : MonitorSet σ}
    (hms : ∀ j (m : Registered σ), ms[j]? = some m →
      ∀ w, (m.monitor.check w).value = some (verdict j)) :
    (tick s ms).Ensures fun es _ => Returned verdict es := by
  refine .bind (currentHandler_ensures s) ?_
  rintro _ _ ⟨on, rfl, rfl⟩
  cases on with
  | none => exact Act.ensures_pure (by simp [Returned])
  | some on =>
    refine .bind (scan_returned 0 (by simpa using hms)) ?_
    rintro es ⟨ms', out⟩ hes
    have hread : Returned verdict (.enforcementRead (some on) :: es) := fun j name v? hmem =>
      hes j name v? (by simpa using hmem)
    cases out with
    | quiet => exact Act.ensures_pure (by simpa using hread)
    | crashed => exact Act.ensures_pure (by simpa using hread)
    | exceeded i =>
      intro y j name v? hmem
      rcases List.mem_append.1 (List.append_assoc .. ▸ hmem) with hmem | hmem
      · exact hread j name v? hmem
      · exact absurd (remedy_unchecked _ _ i ms' y _ hmem) (by simp [Event.isChecked])

/-- **A pass against its description.**

* If all calls are answered, the pass is not cut short.
* If it is not cut short, the switch for the handler was read, and the monitors that were called
  returned some results.
* With whatever results, if `i` is the least index of a monitor that goes past its limit, then the
  monitors up to `i` are called, once each and in order.  Those before `i` have one strike more, or
  none if they saw no violation, that with the index `i` has none, and those after it are as they
  were.  The handler in effect is called once, after the hook, and the pass comes to its answer.
* If there is no such index, all monitors are called, neither hook nor handler is, and the pass
  comes to nothing.
* Where a pass stops, there is a monitor. -/
theorem tick_described (s : Surroundings σ) (ms : MonitorSet σ) (x : Scene σ) :
    (s.Answers → MonitorSet.Answers ms → (tick s ms x).value.2 ≠ none) ∧
      ((tick s ms x).value.2 ≠ none →
        ∃ on, (s.toggles.enforcementEnabled x.world).value = some on ∧
          (∃ verdict, Returned verdict (tick s ms x).events) ∧
          ∀ verdict, Returned verdict (tick s ms x).events →
            (∀ i, ms.FirstToFire verdict i → FiredFirst s ms verdict on i (tick s ms x)) ∧
            (ms.NoneFires verdict → NoneFired ms verdict (tick s ms x))) ∧
      ∀ c h y i, (scan c h 0 ms y).value.2 = .exceeded i →
        ∃ m, (scan c h 0 ms y).value.1[i]? = some m := by
  refine ⟨fun hs hms => Option.isSome_iff_ne_none.1 (tick_answers hs hms x), fun hsome => ?_,
    fun c h y i hout => ?_⟩
  · obtain ⟨on, hon, hp⟩ := tick_answered hsome
    exact ⟨on, hon, hp.exists_returned, fun verdict hv =>
      ⟨fun i hi => hp.firedFirst hv hi, hp.noneFired hv⟩⟩
  · have hscanned := scan_ensures c h 0 ms y
    dsimp only at hscanned
    rw [hout] at hscanned
    obtain ⟨k, m, rfl, hm⟩ := hscanned.exists_getElem?
    rw [Nat.zero_add]
    exact ⟨m, hm⟩

/-- The first of three monitors sees no violation, the others do. -/
def someResults (i : ℕ) : Verdict := if i = 0 then .ok else .violation

/-- Monitors that return these results; the second and the third tolerate no violation. -/
def someMonitors : MonitorSet Unit :=
  [⟨⟨"calm", Call.pure (someResults 0)⟩, { limit := 1, count := 1 }⟩,
    ⟨⟨"alarm", Call.pure (someResults 1)⟩, { limit := 0 }⟩,
    ⟨⟨"late", Call.pure (someResults 2)⟩, { limit := 0 }⟩]

/-- A handler that succeeds. -/
def someSurroundings : Surroundings Unit where
  configuration :=
    { handler := ⟨"helper", Call.pure true⟩, reporter := fun _ => Call.pure () }
  toggles := StaticToggles.toggles {}
  pause := .interruptible

theorem some_tick_described :
    (tick someSurroundings someMonitors ⟨(), {}⟩).value.2 = some true ∧
      someMonitors.FirstToFire someResults 1 ∧
      FiredFirst someSurroundings someMonitors someResults true 1
        (tick someSurroundings someMonitors ⟨(), {}⟩) := by
  have hvalue : (tick someSurroundings someMonitors ⟨(), {}⟩).value.2 = some true := rfl
  have hfirst : someMonitors.FirstToFire someResults 1 :=
    .cons (by simp [Registered.Fires, someResults, Verdict.ok]) (.head ⟨rfl, by decide⟩)
  have hreturned : Returned someResults (tick someSurroundings someMonitors ⟨(), {}⟩).events :=
    tick_returned (fun j m hm w => by obtain _ | _ | _ | j := j <;> cases hm <;> rfl) _
  obtain ⟨on, hon, -, h⟩ := (tick_described someSurroundings someMonitors ⟨(), {}⟩).2.1
    (by rw [hvalue]; nofun)
  obtain rfl : true = on := Option.some.inj hon
  exact ⟨hvalue, hfirst, (h someResults hreturned).1 1 hfirst⟩

end Loop

end Vigil
