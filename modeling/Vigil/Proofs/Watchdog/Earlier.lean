import Vigil.Proofs.Watchdog.Detection

/-!
# Earlier and later monitors

What the first monitors detect does not depend on those that come after them.  Two watchdogs that
share their first monitors, and whose handlers always fail, call those monitors in the same way,
and leave the same strikes with them, as long as nothing crashes that only one of them calls.

* `earlier`: the calls of the first monitors, and the reports that come with them;
* `Call.Stays`, `Act.Stays`: what is called for later monitors only leaves the worlds related;
* `Surroundings.Shares`, `MonitorSet.Shares`, `Watchdog.Shares`: what two watchdogs share;
* `scan_append`, `remedy_append`: a pass over the first monitors, and over the others;
* `turn_shares` and the lemmas before it: one turn;
* `earlier_unaffected`: runs.
-/

namespace Vigil

variable {σ τ α β : Type}

/-! ### Calls of the first monitors -/

/-- The reporter is told of something. -/
def Event.isReport : Event → Bool
  | .reported _ => true
  | _ => false

/-- The calls of the first `k` monitors, each with the reports that follow it. -/
def earlier (k : ℕ) : List Event → List Event
  | [] => []
  | .checked i name verdict :: es =>
    if i < k then .checked i name verdict :: (es.takeWhile Event.isReport ++ earlier k es)
    else earlier k es
  | _ :: es => earlier k es

/-- The first event is a report. -/
def opensWithReport : List Event → Bool
  | [] => false
  | e :: _ => e.isReport

theorem takeWhile_isReport_of_opens {es : List Event} (h : opensWithReport es = false) :
    es.takeWhile Event.isReport = [] := by
  cases es with
  | nil => rfl
  | cons e es =>
    change e.isReport = false at h
    rw [List.takeWhile_cons, h, if_neg Bool.false_ne_true]

theorem takeWhile_isReport_append {es es' : List Event} (h : opensWithReport es' = false) :
    (es ++ es').takeWhile Event.isReport = es.takeWhile Event.isReport := by
  induction es with
  | nil => exact takeWhile_isReport_of_opens h
  | cons e es ih => rw [List.cons_append, List.takeWhile_cons, List.takeWhile_cons, ih]

theorem earlier_append {k : ℕ} {es es' : List Event} (h : opensWithReport es' = false) :
    earlier k (es ++ es') = earlier k es ++ earlier k es' := by
  fun_induction earlier k es with
  | case1 => rfl
  | case2 i name verdict es hi ih =>
    rw [List.cons_append, earlier, if_pos hi, takeWhile_isReport_append h, ih, List.cons_append,
      List.append_assoc]
  | case3 i name verdict es hi ih => rw [List.cons_append, earlier, if_neg hi, ih]
  | case4 e es he ih =>
    cases e with
    | checked i name verdict => exact absurd rfl (he i name verdict)
    | _ => exact ih

theorem opensWithReport_append {es es' : List Event} (h : opensWithReport es = false)
    (h' : opensWithReport es' = false) : opensWithReport (es ++ es') = false := by
  cases es with
  | nil => exact h'
  | cons e es => exact h

namespace Loop

/-- Later monitors are not looked at. -/
theorem Examined.earlier_eq_nil {c : Configuration σ} {h : Handler σ} {i k : ℕ} (hk : k ≤ i)
    {m m' : Registered σ} {es : List Event} {f : Finding} (hm : Examined c h i m es m' f) :
    earlier k es = [] ∧ opensWithReport es = false := by
  have hi : ¬ i < k := by omega
  cases hm <;> exact ⟨if_neg hi, rfl⟩

theorem Scanned.earlier_eq_nil {c : Configuration σ} {h : Handler σ} {i k : ℕ} (hk : k ≤ i)
    {ms ms' : MonitorSet σ} {es : List Event} {out : Outcome}
    (hs : Scanned c h i ms es ms' out) : earlier k es = [] ∧ opensWithReport es = false := by
  induction hs with
  | nil => exact ⟨rfl, rfl⟩
  | passed hm _ ih =>
    obtain ⟨hes, hopens⟩ := hm.earlier_eq_nil hk
    obtain ⟨hes', hopens'⟩ := ih (by omega)
    exact ⟨by rw [earlier_append hopens', hes, hes', List.append_nil],
      opensWithReport_append hopens hopens'⟩
  | exceeded hm => exact hm.earlier_eq_nil hk
  | crashed hm => exact hm.earlier_eq_nil hk

theorem Remedied.earlier_eq_nil {h : Handler σ} {i k : ℕ} {m : Registered σ}
    {ms ms' : MonitorSet σ} {es : List Event} {success : Option Bool}
    (hr : Remedied h i m ms es ms' success) : earlier k es = [] ∧ opensWithReport es = false := by
  cases hr <;> exact ⟨rfl, rfl⟩

/-- Calls of monitors come after readings of switches. -/
theorem Turned.opensWithReport_eq {s : Surroundings σ} {ms ms' : MonitorSet σ} {es : List Event}
    {e : Option Ending} (ht : Turned s ms es ms' e) : opensWithReport es = false := by
  have watched {success : Option Bool} (hw : Watched s ms es ms' success) :
      opensWithReport es = false := by cases hw <;> rfl
  cases ht with
  | stopped => rfl
  | empty => rfl
  | crashed _ hw => exact watched hw
  | handled _ hw => exact watched hw
  | rested _ hw =>
    cases hw <;> rfl

end Loop

/-! ### What is called for later monitors -/

/-- In worlds with the property `I`, the call leaves such a world. -/
def Call.Stays (I : σ → Prop) (c : Call σ α) : Prop := ∀ w, I w → I (c w).world

namespace Act

variable {I : σ → Prop}

/-- In worlds with the property `I`, the act leaves such a world. -/
def Stays (I : σ → Prop) (x : Act σ α) : Prop := ∀ s, I s.world → I (x s).scene.world

theorem stays_pure (a : α) : (pure a : Act σ α).Stays I := fun _ => id

theorem stays_call {c : Call σ α} (hc : c.Stays I) (event : Option α → Event) :
    (call c event).Stays I := fun s => hc s.world

theorem Stays.bind {x : Act σ α} {f : α → Act σ β} (hx : x.Stays I) (hf : ∀ a, (f a).Stays I) :
    (x >>= f).Stays I := fun s hs => hf _ _ (hx s hs)

theorem stays_closed : Closed (Stays (σ := σ) I) := ⟨stays_pure, Stays.bind⟩

end Act

/-- What may be called for a later monitor leaves a world with the property `I`, and the handler
fails. -/
structure Surroundings.Spares (I : σ → Prop) (s : Surroundings σ) : Prop where
  reporter : ∀ n, (s.configuration.reporter n).Stays I
  diagnostics : ∀ name, (s.configuration.diagnostics name).Stays I
  handler : s.configuration.handler.Fails I

/-- Surroundings of two watchdogs, which answer the same, whose handlers have one name and fail, and
in which what may be called for a later monitor leaves the worlds related. -/
structure Surroundings.Shares (R : σ → τ → Prop) (s : Surroundings σ) (s' : Surroundings τ) :
    Prop where
  nearly : s.NearlyRelated (.full R) s'
  name : s.configuration.handler.name = s'.configuration.handler.name
  left : ∀ x, s.Spares (R · x)
  right : ∀ w, s'.Spares (R w ·)

/-- The first `k` monitors are related, and calls of the others leave the worlds related. -/
structure MonitorSet.Shares (R : σ → τ → Prop) (k : ℕ) (ms : MonitorSet σ) (ms' : MonitorSet τ) :
    Prop where
  earlier : List.Forall₂ (Registered.Related R) (ms.take k) (ms'.take k)
  length : k ≤ ms.length
  length' : k ≤ ms'.length
  left : ∀ m ∈ ms.drop k, ∀ x, m.monitor.check.Stays (R · x)
  right : ∀ m ∈ ms'.drop k, ∀ w, m.monitor.check.Stays (R w ·)

section Sharing

variable {R : σ → τ → Prop} {k : ℕ}

/-- Calls of monitors change neither the monitors nor their order. -/
theorem MonitorSet.Shares.of_map_descriptor {ms ms₁ : MonitorSet σ} {ms' ms₁' : MonitorSet τ}
    (h : MonitorSet.Shares R k ms ms')
    (hms : ms₁.map Registered.descriptor = ms.map Registered.descriptor)
    (hms' : ms₁'.map Registered.descriptor = ms'.map Registered.descriptor)
    (hearlier : List.Forall₂ (Registered.Related R) (ms₁.take k) (ms₁'.take k)) :
    MonitorSet.Shares R k ms₁ ms₁' where
  earlier := hearlier
  length := by rw [length_eq_of_map_descriptor hms]; exact h.length
  length' := by rw [length_eq_of_map_descriptor hms']; exact h.length'
  left := by
    have hdrop :
        (ms₁.drop k).map Registered.descriptor = (ms.drop k).map Registered.descriptor := by
      rw [List.map_drop, List.map_drop, hms]
    exact forall_monitor_of_map_descriptor (P := fun m => ∀ x, m.check.Stays (R · x)) hdrop h.left
  right := by
    have hdrop : (ms₁'.drop k).map Registered.descriptor =
        (ms'.drop k).map Registered.descriptor := by
      rw [List.map_drop, List.map_drop, hms']
    exact forall_monitor_of_map_descriptor (P := fun m => ∀ w, m.check.Stays (R w ·)) hdrop h.right

theorem Surroundings.Spares.select {I : σ → Prop} {s : Surroundings σ} (hs : s.Spares I)
    (on : Bool) : (Loop.select s.configuration.handler on).Fails I :=
  hs.handler.select on

theorem Loop.name_select {h : Handler σ} {h' : Handler τ} (hname : h.name = h'.name) (on : Bool) :
    (select h on).name = (select h' on).name := by
  cases on with
  | true => exact hname
  | false => rfl

theorem Surroundings.Shares.related {s : Surroundings σ} {s' : Surroundings τ}
    (hs : s.Shares R s') : s.Related (.full R) s' where
  toNearlyRelated := hs.nearly
  handler on on' _ h := by
    obtain rfl : on = on' := h
    exact Handler.Fails.related (Loop.name_select hs.name on) (fun x => (hs.left x).select on)
      fun w => (hs.right w).select on

end Sharing

namespace Loop

/-! ### Passes -/

/-- What follows from a pass. -/
def follow (c : Configuration σ) (h : Handler σ) :
    MonitorSet σ × Outcome → Act σ (MonitorSet σ × Option Bool)
  | (ms, .quiet) => return (ms, some false)
  | (ms, .exceeded index) => remedy c h index ms
  | (ms, .crashed) => return (ms, none)

theorem tick_eq_follow (s : Surroundings σ) (ms : MonitorSet σ) :
    tick s ms = currentHandler s >>= fun
      | none => pure (ms, none)
      | some h => scan s.configuration h 0 ms >>= follow s.configuration h := by
  refine bind_congr fun h? => ?_
  cases h? with
  | none => rfl
  | some h =>
    refine bind_congr fun ⟨ms', out⟩ => ?_
    cases out <;> rfl

/-- A pass over monitors is a pass over the first of them, and over the others if all the first have
strikes left. -/
theorem scan_append (c : Configuration σ) (h : Handler σ) (i : ℕ) (pre post : MonitorSet σ) :
    scan c h i (pre ++ post) = scan c h i pre >>= fun r =>
      match r.2 with
      | .quiet => (fun q => (r.1 ++ q.1, q.2)) <$> scan c h (i + pre.length) post
      | out => pure (r.1 ++ post, out) := by
  induction pre generalizing i with
  | nil => simp [scan]
  | cons m pre ih =>
    rw [List.cons_append, scan, scan, bind_assoc]
    refine bind_congr fun ⟨m', finding⟩ => ?_
    cases finding with
    | passed =>
      have hlength : i + 1 + pre.length = i + (m :: pre).length := by
        rw [List.length_cons]
        omega
      dsimp only
      rw [ih, hlength, bind_assoc, bind_assoc]
      refine bind_congr fun ⟨pre', out⟩ => ?_
      cases out <;> simp
    | exceeded => simp
    | crashed => simp

theorem reset_append (pre post : MonitorSet σ) {i : ℕ} (hi : i < pre.length) :
    MonitorSet.reset (pre ++ post) i = MonitorSet.reset pre i ++ post := by
  induction pre generalizing i with
  | nil => cases hi
  | cons m pre ih =>
    cases i with
    | zero => rfl
    | succ i => exact congrArg (m :: ·) (ih (Nat.lt_of_succ_lt_succ hi))

/-- Hook and handler for one of the first monitors do not concern the others. -/
theorem remedy_append (c : Configuration σ) (h : Handler σ) {i : ℕ} {pre : MonitorSet σ}
    (hi : i < pre.length) (post : MonitorSet σ) :
    remedy c h i (pre ++ post) = (fun r => (r.1 ++ post, r.2)) <$> remedy c h i pre := by
  unfold remedy
  rw [List.getElem?_append_left hi, List.getElem?_eq_getElem hi]
  simp only [map_bind]
  refine bind_congr fun looked => ?_
  split
  · simp
  · rw [map_bind]
    refine bind_congr fun success => ?_
    cases success with
    | none => simp
    | some success => simp [reset_append _ _ hi]

/-- Hook and a handler that fails leave a world with the property `I`. -/
theorem remedy_fails {I : σ → Prop} {s : Surroundings σ} (hs : s.Spares I) {h : Handler σ}
    (hh : h.Fails I) (i : ℕ) (ms : MonitorSet σ) {x : Scene σ} (hx : I x.world) :
    let p := remedy s.configuration h i ms x
    I p.scene.world ∧ (p.value.2 = none ∨ p.value.2 = some false) := by
  have hlook (name : String) := hs.diagnostics name x.world hx
  unfold remedy
  cases hm : ms[i]? with
  | none => exact ⟨hx, .inr rfl⟩
  | some m =>
    dsimp only
    rw [Act.bind_eq_andThen]
    have hlooked : I (Act.call (s.configuration.diagnostics m.name) (fun _ => .diagnosed m.name)
      x).scene.world := hlook m.name
    generalize Act.call (s.configuration.diagnostics m.name) _ x = p at hlooked ⊢
    obtain ⟨looked, es, y⟩ := p
    cases looked with
    | none => exact ⟨hlooked, .inl rfl⟩
    | some _ =>
      obtain ⟨hvalue, hworld⟩ := hh y.world hlooked
      exact ⟨hworld, .inr hvalue⟩

theorem take_reset {ms : MonitorSet σ} {i k : ℕ} (hk : k ≤ i) :
    (MonitorSet.reset ms i).take k = ms.take k := by
  refine List.ext_getElem? fun j => ?_
  rw [List.getElem?_take, List.getElem?_take]
  split
  · exact MonitorSet.getElem?_reset_of_ne ms (by omega)
  · rfl

/-- Strikes of later monitors are cleared without touching those of the first. -/
theorem Remedied.take_eq {h : Handler σ} {i k : ℕ} (hk : k ≤ i) {m : Registered σ}
    {ms ms' : MonitorSet σ} {es : List Event} {success : Option Bool}
    (hr : Remedied h i m ms es ms' success) : ms'.take k = ms.take k := by
  cases hr with
  | answered => exact take_reset hk
  | _ => rfl

theorem Remedied.length_eq {h : Handler σ} {i : ℕ} {m : Registered σ} {ms ms' : MonitorSet σ}
    {es : List Event} {success : Option Bool} (hr : Remedied h i m ms es ms' success) :
    ms'.length = ms.length := by
  cases hr with
  | answered => exact List.length_modify ..
  | _ => rfl

/-- What a stretch does after the first `k` monitors, which are `pre`: it leaves them alone. -/
structure Spared (I : σ → Prop) (k : ℕ) (pre : MonitorSet σ)
    (p : Stretch σ (MonitorSet σ × Option Bool)) : Prop where
  world : I p.scene.world
  value : p.value.2 = none ∨ p.value.2 = some false
  monitors : p.value.1.take k = pre
  earlier : earlier k p.events = []
  opens : opensWithReport p.events = false

/-- A pass over later monitors, and what follows from it, leaves the first monitors alone. -/
theorem spared_of_pass {I : σ → Prop} {s : Surroundings σ} (hs : s.Spares I) {h : Handler σ}
    (hh : h.Fails I) {k : ℕ} {pre : MonitorSet σ} (hk : pre.length = k) {post : MonitorSet σ}
    (hpost : ∀ m ∈ post, m.monitor.check.Stays I) {x : Scene σ} (hx : I x.world) :
    Spared I k pre ((((fun q => (pre ++ q.1, q.2)) <$>
      scan s.configuration h k post) >>= follow s.configuration h) x) := by
  have hscan := scan_ensures s.configuration h k post x
  have hworld := scan_closed Act.stays_closed (fun n => Act.stays_call (hs.reporter n) _) h
    k (fun _ m hm => Act.stays_call (hpost m (List.mem_of_getElem? hm)) _) x hx
  rw [Act.bind_eq_andThen, Act.map_apply]
  generalize scan s.configuration h k post x = p at hscan hworld ⊢
  obtain ⟨⟨post', out⟩, es, y⟩ := p
  dsimp only at hscan hworld
  obtain ⟨hes, hopens⟩ := hscan.earlier_eq_nil le_rfl
  have htake : (pre ++ post').take k = pre := List.take_left' hk
  cases out with
  | quiet =>
    change Spared I k pre ⟨(pre ++ post', some false), es ++ [], y⟩
    rw [List.append_nil]
    exact ⟨hworld, .inr rfl, htake, hes, hopens⟩
  | crashed =>
    change Spared I k pre ⟨(pre ++ post', none), es ++ [], y⟩
    rw [List.append_nil]
    exact ⟨hworld, .inl rfl, htake, hes, hopens⟩
  | exceeded j =>
    obtain ⟨i, m, rfl, hm⟩ := hscan.exists_getElem?
    have hget : (pre ++ post')[k + i]? = some m := by
      rw [List.getElem?_append_right (by omega), ← hk, Nat.add_sub_cancel_left, hm]
    have hr := remedy_ensures s.configuration h hget y
    obtain ⟨hleft, hvalue⟩ := remedy_fails hs hh (k + i) (pre ++ post') hworld
    obtain ⟨hes', hopens'⟩ := hr.earlier_eq_nil (k := k)
    change Spared I k pre ⟨(remedy s.configuration h (k + i) (pre ++ post') y).value,
      es ++ (remedy s.configuration h (k + i) (pre ++ post') y).events,
      (remedy s.configuration h (k + i) (pre ++ post') y).scene⟩
    refine ⟨hleft, hvalue, ?_, ?_, opensWithReport_append hopens hopens'⟩
    · rw [hr.take_eq (Nat.le_add_right _ _), htake]
    · rw [earlier_append hopens', hes, hes', List.append_nil]

end Loop

/-- Two stretches in which the first `k` monitors are called in the same way, and after which those
are related.  Unless one of the two crashed, they come to the same and leave related worlds. -/
structure Stretch.Shares (R : σ → τ → Prop) (k : ℕ) (crash : α)
    (p : Stretch σ (MonitorSet σ × α)) (q : Stretch τ (MonitorSet τ × α)) : Prop where
  earlier : Vigil.earlier k p.events = Vigil.earlier k q.events
  monitors : List.Forall₂ (Registered.Related R) (p.value.1.take k) (q.value.1.take k)
  value : p.value.2 ≠ crash → q.value.2 ≠ crash →
    p.value.2 = q.value.2 ∧ R p.scene.world q.scene.world

namespace Loop

variable {R : σ → τ → Prop} {k : ℕ} {s : Surroundings σ} {s' : Surroundings τ}

/-- After the same events, two such stretches are still in step on the first monitors. -/
theorem Spared.shares {I : σ → Prop} {J : τ → Prop} {pre : MonitorSet σ} {pre' : MonitorSet τ}
    {p : Stretch σ (MonitorSet σ × Option Bool)} {q : Stretch τ (MonitorSet τ × Option Bool)}
    (hp : Spared I k pre p) (hq : Spared J k pre' q)
    (hpre : List.Forall₂ (Registered.Related R) pre pre') (hw : R p.scene.world q.scene.world)
    (es : List Event) :
    Stretch.Shares R k none ⟨p.value, es ++ p.events, p.scene⟩
      ⟨q.value, es ++ q.events, q.scene⟩ where
  earlier := by
    rw [earlier_append hp.opens, earlier_append hq.opens, hp.earlier, hq.earlier]
  monitors := by
    rw [hp.monitors, hq.monitors]
    exact hpre
  value hne hne' := ⟨(hp.value.resolve_left hne).trans (hq.value.resolve_left hne').symm, hw⟩

/-- Hook and handler stay in step for one of the first monitors. -/
theorem remedy_shares (hs : s.Shares R s') {h : Handler σ} {h' : Handler τ}
    (hh : h.Related (.full R) h') {pre : MonitorSet σ} {pre' : MonitorSet τ} (hk : pre.length = k)
    (hk' : pre'.length = k) (hpre : List.Forall₂ (Registered.Related R) pre pre') {i : ℕ}
    {m : Registered σ} {m' : Registered τ} (hm : pre[i]? = some m) (hm' : pre'[i]? = some m')
    (post : MonitorSet σ) (post' : MonitorSet τ) {x : Scene σ} {y : Scene τ}
    (hw : R x.world y.world) (es : List Event) :
    Stretch.Shares R k none
      (Stretch.andThen ⟨(), es, x⟩ fun _ => remedy s.configuration h i (pre ++ post))
      (Stretch.andThen ⟨(), es, y⟩ fun _ => remedy s'.configuration h' i (pre' ++ post')) := by
  have hr := remedy_related hs.related hh i hpre x y hw (Comparison.reads_full R _)
  have hlength := (remedy_ensures s.configuration h hm x).length_eq
  have hlength' := (remedy_ensures s'.configuration h' hm' y).length_eq
  unfold Stretch.andThen
  dsimp only
  rw [remedy_append s.configuration h (List.getElem?_eq_some_iff.1 hm).1 post,
    remedy_append s'.configuration h' (List.getElem?_eq_some_iff.1 hm').1 post', Act.map_apply,
    Act.map_apply]
  refine ⟨by rw [hr.events_eq], ?_, fun _ _ => ⟨hr.value.2, hr.world⟩⟩
  dsimp only
  rw [List.take_left' (hlength.trans hk), List.take_left' (hlength'.trans hk')]
  exact hr.value.1

/-- A pass stays in step on the first monitors, whatever comes of it on the others. -/
theorem pass_shares (hs : s.Shares R s') {h : Handler σ} {h' : Handler τ} (hname : h.name = h'.name)
    (hh : ∀ x, h.Fails (R · x)) (hh' : ∀ w, h'.Fails (R w ·)) {ms : MonitorSet σ}
    {ms' : MonitorSet τ} (hms : MonitorSet.Shares R k ms ms') {x : Scene σ} {y : Scene τ}
    (hw : R x.world y.world) :
    Stretch.Shares R k none
      ((scan s.configuration h 0 ms >>= follow s.configuration h) x)
      ((scan s'.configuration h' 0 ms' >>= follow s'.configuration h') y) := by
  have hrelated : h.Related (.full R) h' := Handler.Fails.related hname hh hh'
  have hscan := scan_related hs.related hrelated 0 hms.earlier x y hw (Comparison.reads_full R _)
  have hscanned := scan_ensures s.configuration h 0 (ms.take k) x
  have hscanned' := scan_ensures s'.configuration h' 0 (ms'.take k) y
  have hlength : (ms.take k).length = k := List.length_take_of_le hms.length
  have hlength' : (ms'.take k).length = k := List.length_take_of_le hms.length'
  obtain ⟨-, -, -, hleft, hright⟩ := hms
  rw [← List.take_append_drop k ms, ← List.take_append_drop k ms', scan_append, scan_append,
    bind_assoc, bind_assoc, Act.bind_eq_andThen, Act.bind_eq_andThen, hlength, hlength']
  simp only [Nat.zero_add]
  generalize ms.drop k = post, ms'.drop k = post' at hleft hright ⊢
  generalize scan s.configuration h 0 (ms.take k) x = p,
    scan s'.configuration h' 0 (ms'.take k) y = q at hscan hscanned hscanned' ⊢
  obtain ⟨⟨pre, out⟩, es, x⟩ := p
  obtain ⟨⟨pre', _⟩, es', y⟩ := q
  obtain rfl : es = es' := hscan.events_eq
  obtain ⟨⟨hpre, rfl⟩, -, hw⟩ := hscan
  have hk : pre.length = k :=
    (MonitorSet.length_eq_of_map_descriptor hscanned.map_descriptor).trans hlength
  have hk' : pre'.length = k :=
    (MonitorSet.length_eq_of_map_descriptor hscanned'.map_descriptor).trans hlength'
  dsimp only at hpre hw hscanned ⊢
  cases out with
  | quiet =>
    -- First the one run goes over its other monitors, and then the other run over its own.
    have hp := spared_of_pass (hs.left y.world) (hh y.world) hk (fun m hm => hleft m hm _) hw
    have hq := spared_of_pass (hs.right _) (hh' _) hk' (fun m hm => hright m hm _) hp.world
    exact hp.shares hq hpre hq.world es
  | crashed =>
    refine ⟨rfl, ?_, fun hne => absurd rfl hne⟩
    show List.Forall₂ _ (List.take k (pre ++ post)) (List.take k (pre' ++ post'))
    rw [List.take_left' hk, List.take_left' hk']
    exact hpre
  | exceeded i =>
    obtain ⟨j, m, hj, hm⟩ := hscanned.exists_getElem?
    obtain ⟨j', m', hj', hm'⟩ := hscanned'.exists_getElem?
    obtain rfl : i = j := by omega
    obtain rfl : i = j' := by omega
    exact remedy_shares hs hrelated hk hk' hpre hm hm' post post' hw es

/-- The handler in effect is selected by the same reading in both runs. -/
theorem currentHandler_shares (hs : s.Shares R s') {x : Scene σ} {y : Scene τ}
    (hw : R x.world y.world) :
    ∃ on, (currentHandler s x).events = [.enforcementRead on] ∧
      (currentHandler s' y).events = [.enforcementRead on] ∧
      (currentHandler s x).value = on.map (select s.configuration.handler) ∧
      (currentHandler s' y).value = on.map (select s'.configuration.handler) ∧
      R (currentHandler s x).scene.world (currentHandler s' y).scene.world := by
  have hp := currentHandler_related hs.related x y hw (Comparison.reads_full R _)
  obtain ⟨on, hes, hvalue⟩ := currentHandler_ensures s x
  obtain ⟨on', hes', hvalue'⟩ := currentHandler_ensures s' y
  obtain rfl : on = on' := by
    have hevents := hp.events_eq
    rw [hes, hes'] at hevents
    simpa using hevents
  exact ⟨on, hes, hes', hvalue, hvalue', hp.world⟩

theorem tick_shares (hs : s.Shares R s') {ms : MonitorSet σ} {ms' : MonitorSet τ}
    (hms : MonitorSet.Shares R k ms ms') {x : Scene σ} {y : Scene τ} (hw : R x.world y.world) :
    Stretch.Shares R k none (tick s ms x) (tick s' ms' y) := by
  obtain ⟨on, hes, hes', hvalue, hvalue', hworld⟩ := currentHandler_shares hs hw
  rw [tick_eq_follow, tick_eq_follow, Act.bind_eq_andThen, Act.bind_eq_andThen]
  generalize currentHandler s x = p, currentHandler s' y = q at hes hes' hvalue hvalue' hworld ⊢
  obtain ⟨h?, es, x⟩ := p
  obtain ⟨h?', es', y⟩ := q
  dsimp only at hes hes' hvalue hvalue'
  subst hes hes' hvalue hvalue'
  cases on with
  | none => exact ⟨rfl, hms.earlier, fun hne => absurd rfl hne⟩
  | some on =>
    have hpass := pass_shares hs (name_select hs.name on) (fun x => (hs.left x).select on)
      (fun w => (hs.right w).select on) hms hworld
    exact ⟨hpass.earlier, hpass.monitors, hpass.value⟩

theorem watch_shares (hs : s.Shares R s') {ms : MonitorSet σ} {ms' : MonitorSet τ}
    (hms : MonitorSet.Shares R k ms ms') {x : Scene σ} {y : Scene τ} (hw : R x.world y.world) :
    Stretch.Shares R k none (watch s ms x) (watch s' ms' y) := by
  obtain ⟨hvalue, hworld⟩ := hs.nearly.watchdogEnabled x.world y.world hw
  rw [watch, watch, Act.bind_eq_andThen, Act.bind_eq_andThen, Act.call, Act.call]
  generalize s.toggles.watchdogEnabled x.world = r, s'.toggles.watchdogEnabled y.world = r'
    at hvalue hworld ⊢
  obtain ⟨on, stop, w⟩ := r
  obtain ⟨_, stop', w'⟩ := r'
  obtain rfl := hvalue
  obtain _ | _ | _ := on
  · exact ⟨rfl, hms.earlier, fun hne => absurd rfl hne⟩
  · exact ⟨rfl, hms.earlier, fun _ _ => ⟨rfl, hworld⟩⟩
  · have htick := tick_shares hs hms (x := ⟨w, x.signal.requestIf stop⟩)
      (y := ⟨w', y.signal.requestIf stop'⟩) hworld
    exact ⟨htick.earlier, htick.monitors, htick.value⟩

/-! ### Turns -/

/-- What a turn makes of a pass concerns no monitor. -/
theorem settle_ensures (s : Surroundings σ) (r : MonitorSet σ × Option Bool) :
    (settle s r).Ensures fun es r' =>
      earlier k es = [] ∧ opensWithReport es = false ∧ r'.1 = r.1 ∧
        (r.2 = none → r'.2 = some .crashed) := by
  obtain ⟨ms, handled⟩ := r
  match handled with
  | none => exact Act.ensures_pure ⟨rfl, rfl, rfl, fun _ => rfl⟩
  | some true => exact Act.ensures_pure ⟨rfl, rfl, rfl, nofun⟩
  | some false =>
    refine .bind (rest_ensures s) ?_
    rintro _ rested rfl
    exact Act.ensures_pure ⟨rfl, rfl, rfl, nofun⟩

/-- One turn stays in step on the first monitors. -/
theorem turn_shares (hs : s.Shares R s') (hk : 1 ≤ k) {ms : MonitorSet σ} {ms' : MonitorSet τ}
    (hms : MonitorSet.Shares R k ms ms') {x : Scene σ} {y : Scene τ} (hw : R x.world y.world)
    (hxy : x.signal.requested = y.signal.requested) :
    Stretch.Shares R k (some .crashed) (turn s ms x) (turn s' ms' y) := by
  cases hx : x.signal.requested with
  | true =>
    rw [turn_of_requested s ms hx, turn_of_requested s' ms' (hxy ▸ hx)]
    exact ⟨rfl, hms.earlier, fun _ _ => ⟨rfl, hw⟩⟩
  | false =>
    have hne : ms ≠ [] := List.ne_nil_of_length_pos (by have := hms.length; omega)
    have hne' : ms' ≠ [] := List.ne_nil_of_length_pos (by have := hms.length'; omega)
    rw [turn_of_ne_nil s hne hx, turn_of_ne_nil s' hne' (hxy ▸ hx), Act.bind_eq_andThen,
      Act.bind_eq_andThen]
    have hwatch := watch_shares hs hms hw
    generalize watch s ms x = p, watch s' ms' y = q at hwatch ⊢
    obtain ⟨⟨ms, handled⟩, es, x⟩ := p
    obtain ⟨⟨ms', handled'⟩, es', y⟩ := q
    obtain ⟨hearlier, hmonitors, hvalue⟩ := hwatch
    obtain ⟨hes, hopens, hleft, hcrashed⟩ := settle_ensures (k := k) s (ms, handled) x
    obtain ⟨hes', hopens', hleft', hcrashed'⟩ := settle_ensures (k := k) s' (ms', handled') y
    refine ⟨?_, ?_, fun hne hne' => ?_⟩
    · show earlier k (es ++ _) = earlier k (es' ++ _)
      rw [earlier_append hopens, earlier_append hopens', hes, hes', hearlier]
    · show List.Forall₂ _ (List.take k (settle s (ms, handled) x).value.1)
        (List.take k (settle s' (ms', handled') y).value.1)
      rw [hleft, hleft']
      exact hmonitors
    · obtain ⟨hhandled, hworld⟩ := hvalue (fun h => hne (hcrashed h)) fun h => hne' (hcrashed' h)
      obtain rfl : handled = handled' := hhandled
      match handled with
      | none => exact absurd rfl hne
      | some true => exact ⟨rfl, hworld⟩
      | some false =>
        have hrest := rest_related hs.related x y hworld (Comparison.reads_full R _)
        refine ⟨?_, hrest.world⟩
        show (if (rest s x).value.isNone then _ else _) = if (rest s' y).value.isNone then _ else _
        rw [hrest.value]

end Loop

/-! ### Runs -/

/-- Two watchdogs at one point of their lives, which share their first `k` monitors. -/
structure Watchdog.Shares (R : σ → τ → Prop) (k : ℕ) (d : Watchdog σ) (d' : Watchdog τ) : Prop where
  surroundings : d.surroundings.Shares R d'.surroundings
  monitors : MonitorSet.Shares R k d.configuration.monitors d'.configuration.monitors
  lifecycle : d.lifecycle = d'.lifecycle

/-- Two runs in which the first `k` monitors are called in the same way, and after which the
watchdogs still share them. -/
structure Run.Shares (R : σ → τ → Prop) (k : ℕ) (r : Run σ) (r' : Run τ) : Prop where
  result : r.result = r'.result
  earlier : Vigil.earlier k r.events = Vigil.earlier k r'.events
  monitors : MonitorSet.Shares R k r.watchdog.configuration.monitors
    r'.watchdog.configuration.monitors
  world : R r.world r'.world

namespace Watchdog

variable {R : σ → τ → Prop} {k : ℕ} {d : Watchdog σ} {d' : Watchdog τ}

theorem Announced.earlier_eq_nil {notice : String → Notice} {es : List Event} {told : Option Unit}
    (h : Announced d notice es told) : Vigil.earlier k es = [] ∧ opensWithReport es = false := by
  cases h <;> exact ⟨rfl, rfl⟩

/-- The report of the end concerns no monitor. -/
theorem conclude_earlier (d : Watchdog σ) (r : MonitorSet σ × Ending) :
    (d.conclude r).Ensures fun es r' =>
      Vigil.earlier k es = [] ∧ opensWithReport es = false ∧ r'.1 = r.1 := by
  obtain ⟨ms, ending⟩ := r
  cases ending with
  | done reason =>
    refine .bind (announce_ensures d _) ?_
    rintro es ended ho
    obtain ⟨hes, hopens⟩ := ho.earlier_eq_nil (k := k)
    exact Act.ensures_pure ⟨by rw [List.append_nil, hes], by rw [List.append_nil, hopens], rfl⟩
  | _ => exact Act.ensures_pure ⟨rfl, rfl, rfl⟩

theorem conclude_shares (hd : d.surroundings.Shares R d'.surroundings) (ms : MonitorSet σ)
    (ms' : MonitorSet τ) (e : Ending) {x : Scene σ} {y : Scene τ} (hw : R x.world y.world) :
    (d.conclude (ms, e) x).value.2 = (d'.conclude (ms', e) y).value.2 ∧
      R (d.conclude (ms, e) x).scene.world (d'.conclude (ms', e) y).scene.world := by
  cases e with
  | done reason =>
    have hends := stopped_related hd.related reason x y hw (Comparison.reads_full R _)
    refine ⟨?_, hends.world⟩
    show (if (d.announce _ x).value.isNone then _ else _) =
      if (d'.announce _ y).value.isNone then _ else _
    rw [hends.value]
  | _ => exact ⟨rfl, hw⟩

theorem opensWithReport_resume_one (d : Watchdog σ) (ms : MonitorSet σ) (x : Scene σ) :
    opensWithReport (d.resume 1 ms x).events = false := by
  rw [resume_one]
  exact opensWithReport_append (Loop.turn_ensures d.surroundings ms x).opensWithReport_eq
    (d.conclude_earlier (k := 0) _ _).2.1

/-- One more turn, and what follows it if it is the last. -/
theorem resume_one_shares (hd : d.surroundings.Shares R d'.surroundings) (hk : 1 ≤ k)
    {ms : MonitorSet σ} {ms' : MonitorSet τ} (hms : MonitorSet.Shares R k ms ms') {x : Scene σ}
    {y : Scene τ} (hw : R x.world y.world) (hxy : x.signal.requested = y.signal.requested)
    (hc : (d.resume 1 ms x).value.2 ≠ .crashed) (hc' : (d'.resume 1 ms' y).value.2 ≠ .crashed) :
    (d.resume 1 ms x).value.2 = (d'.resume 1 ms' y).value.2 ∧
      Vigil.earlier k (d.resume 1 ms x).events = Vigil.earlier k (d'.resume 1 ms' y).events ∧
      MonitorSet.Shares R k (d.resume 1 ms x).value.1 (d'.resume 1 ms' y).value.1 ∧
      R (d.resume 1 ms x).scene.world (d'.resume 1 ms' y).scene.world := by
  rw [resume_one] at hc hc' ⊢
  rw [resume_one]
  have hturn := Loop.turn_shares hd hk hms hw hxy
  have hturned := (Loop.turn_ensures d.surroundings ms x).map_descriptor
  have hturned' := (Loop.turn_ensures d'.surroundings ms' y).map_descriptor
  generalize Loop.turn d.surroundings ms x = p, Loop.turn d'.surroundings ms' y = q
    at hturn hturned hturned' hc hc' ⊢
  obtain ⟨⟨ms₁, e⟩, es, x⟩ := p
  obtain ⟨⟨ms₁', e'⟩, es', y⟩ := q
  obtain ⟨hearlier, hmonitors, hvalue⟩ := hturn
  obtain ⟨rfl, hworld⟩ : e = e' ∧ R x.world y.world := by
    refine hvalue ?_ ?_
    · rintro rfl
      exact hc rfl
    · rintro rfl
      exact hc' rfl
  obtain ⟨hes, hopens, hleft⟩ := d.conclude_earlier (k := k) (ms₁, e.getD .unfinished) x
  obtain ⟨hes', hopens', hleft'⟩ := d'.conclude_earlier (k := k) (ms₁', e.getD .unfinished) y
  obtain ⟨hending, hends⟩ := conclude_shares hd ms₁ ms₁' (e.getD .unfinished) hworld
  refine ⟨hending, ?_, ?_, hends⟩
  · show Vigil.earlier k (es ++ _) = Vigil.earlier k (es' ++ _)
    rw [earlier_append hopens, earlier_append hopens', hes, hes', hearlier]
  · have hshares := hms.of_map_descriptor hturned hturned' hmonitors
    show MonitorSet.Shares R k (d.conclude _ x).value.1 (d'.conclude _ y).value.1
    rw [hleft, hleft']
    exact hshares

theorem run_zero_shares (hd : d.Shares R k d') (hready : d.Ready) (hready' : d'.Ready) {w : σ}
    {x : τ} (hw : R w x) : Run.Shares R k (d.run 0 w) (d'.run 0 x) := by
  rw [run_of_ready hready, run_of_ready hready', session_eq, session_eq, Act.bind_eq_andThen,
    Act.bind_eq_andThen]
  have hopen := started_related hd.surroundings.related ⟨w, d.signal⟩ ⟨x, d'.signal⟩ hw
    (Comparison.reads_full R _)
  generalize d.announce _ ⟨w, d.signal⟩ = p, d'.announce _ ⟨x, d'.signal⟩ = q at hopen ⊢
  obtain ⟨began, es, y⟩ := p
  obtain ⟨_, es', y'⟩ := q
  obtain rfl : es = es' := hopen.events_eq
  obtain ⟨rfl, -, hworld⟩ := hopen
  cases began with
  | none => exact ⟨rfl, rfl, hd.monitors, hworld⟩
  | some _ => exact ⟨rfl, rfl, hd.monitors, hworld⟩

/-- Runs stay in step on the first monitors. -/
theorem run_shares (hd : d.Shares R k d') (hk : 1 ≤ k) {allowed : ℕ} {w : σ} {x : τ} (hw : R w x)
    (hstop : d.SameRequests w d' x allowed) (hc : (d.run allowed w).result ≠ .crashed)
    (hc' : (d'.run allowed x).result ≠ .crashed) :
    Run.Shares R k (d.run allowed w) (d'.run allowed x) := by
  by_cases hready : d.Ready
  · have hready' := ready_related hd.surroundings.related hd.lifecycle hready
    induction allowed with
    | zero => exact run_zero_shares hd hready hready' hw
    | succ allowed ih =>
      have hrun := ih (fun n hn => hstop n (by omega)) (ne_crashed_of_run_add hc)
        (ne_crashed_of_run_add hc')
      by_cases hr : (d.run allowed w).result = .unfinished
      · have hr' := hrun.result.symm.trans hr
        rw [run_add_eq hr 1] at hc ⊢
        rw [run_add_eq hr' 1] at hc' ⊢
        obtain ⟨hending, hearlier, hmonitors, hworld⟩ := resume_one_shares hd.surroundings hk
          hrun.monitors (x := ⟨_, (d.run allowed w).watchdog.signal⟩)
          (y := ⟨_, (d'.run allowed x).watchdog.signal⟩) hrun.world
          (hstop allowed (by omega) hr hr') (fun h => hc (congrArg Ending.result h))
          fun h => hc' (congrArg Ending.result h)
        refine ⟨congrArg Ending.result hending, ?_, hmonitors, hworld⟩
        dsimp only
        rw [earlier_append (opensWithReport_resume_one _ _ _),
          earlier_append (opensWithReport_resume_one _ _ _), hrun.earlier, hearlier]
      · rw [run_add_of_ne_unfinished hr 1, run_add_of_ne_unfinished (hrun.result ▸ hr) 1]
        exact hrun
  · obtain ⟨fault, hrefused, hrefused'⟩ :=
      refused_related hd.surroundings.related hd.lifecycle hready
    rw [hrefused, hrefused']
    exact ⟨rfl, rfl, hd.monitors, hw⟩

/-- **Earlier monitors are unaffected by later ones.**  Let two watchdogs share their first `k`
monitors and be otherwise arbitrary behind them, with handlers that always fail and the same
requests to stop.  As long as neither run crashes, both take the same turns; in each of them the
first `k` monitors are called in the same way and reported in the same way, and have the same
strikes after it.  Of a turn in which a later monitor crashes that is true, too. -/
theorem earlier_unaffected (hd : d.Shares R k d') (hk : 1 ≤ k) {allowed : ℕ} {w : σ} {x : τ}
    (hw : R w x) (hstop : d.SameRequests w d' x (allowed + 1))
    (hc : (d.run allowed w).result ≠ .crashed) (hc' : (d'.run allowed x).result ≠ .crashed) :
    (d.run allowed w).result = (d'.run allowed x).result ∧
      Vigil.earlier k (d.run allowed w).events = Vigil.earlier k (d'.run allowed x).events ∧
      ((d.run allowed w).watchdog.configuration.monitors.take k).map Registered.strikes =
        ((d'.run allowed x).watchdog.configuration.monitors.take k).map Registered.strikes ∧
      ((d.run allowed w).result = .unfinished →
        Vigil.earlier k (d.nextTurn allowed w).events =
            Vigil.earlier k (d'.nextTurn allowed x).events ∧
          ((d.nextTurn allowed w).value.1.take k).map Registered.strikes =
            ((d'.nextTurn allowed x).value.1.take k).map Registered.strikes) := by
  have hrun := run_shares hd hk hw (fun n hn => hstop n (by omega)) hc hc'
  refine ⟨hrun.result, hrun.earlier, MonitorSet.map_strikes_related hrun.monitors.earlier,
    fun hr => ?_⟩
  have hturn := Loop.turn_shares hd.surroundings hk hrun.monitors
    (x := ⟨_, (d.run allowed w).watchdog.signal⟩) (y := ⟨_, (d'.run allowed x).watchdog.signal⟩)
    hrun.world (hstop allowed (by omega) hr (hrun.result.symm.trans hr))
  exact ⟨hturn.earlier, MonitorSet.map_strikes_related hturn.monitors⟩

/-- A watchdog over a monitor that always sees a violation and asks for a stop in the fourth turn,
and over other monitors after it.  The number of the turn stands beside what those see. -/
def leading (later : MonitorSet (ℕ × ℕ)) : Watchdog (ℕ × ℕ) where
  configuration :=
    { reporter := fun _ => Call.pure ()
      monitors := ⟨⟨"alarm", fun w => ⟨some .violation, w.1 == 3, w⟩⟩, { limit := 1 }⟩ :: later }
  pause := .custom fun _ w => ⟨some (), false, (w.1 + 1, w.2)⟩

/-- A monitor that counts its calls, sees a violation at each, and tolerates none. -/
def noisy : Registered (ℕ × ℕ) :=
  ⟨⟨"noisy", fun w => ⟨some .violation, false, (w.1, w.2 + 1)⟩⟩, { limit := 0 }⟩

theorem leading_shares :
    (leading [noisy]).Shares (fun w x => w.1 = x.1) 1 (leading []) where
  surroundings :=
    { nearly :=
        { sleepTime := rfl
          reporter := fun _ _ _ _ _ hw => ⟨rfl, hw⟩
          diagnostics := fun _ _ _ hw => ⟨rfl, hw⟩
          watchdogEnabled := fun _ _ hw => ⟨rfl, hw⟩
          enforcementEnabled := fun _ _ hw => ⟨rfl, hw⟩
          pause := fun _ _ _ hw => ⟨rfl, congrArg (· + 1) hw⟩ }
      name := rfl
      left := fun _ => ⟨fun _ _ => id, fun _ _ => id, Handler.null_fails _⟩
      right := fun _ => ⟨fun _ _ => id, fun _ _ => id, Handler.null_fails _⟩ }
  monitors :=
    { earlier := .cons ⟨rfl, rfl, fun _ _ hw => ⟨rfl, hw⟩⟩ .nil
      length := by decide
      length' := by decide
      left := List.forall_mem_singleton.2 fun _ _ => id
      right := nofun }
  lifecycle := rfl

/-- The noisy monitor spends its strikes in the first turn, and the alarm in the second. -/
theorem leading_earlier_unaffected :
    ((leading [noisy]).run 2 (0, 0)).result = .unfinished ∧
      ((leading []).run 2 (0, 7)).result = .unfinished ∧
      (earlier 1 ((leading [noisy]).run 2 (0, 0)).events).length = 5 ∧
      earlier 1 ((leading [noisy]).run 2 (0, 0)).events =
        earlier 1 ((leading []).run 2 (0, 7)).events ∧
      earlier 1 ((leading [noisy]).nextTurn 2 (0, 0)).events =
        earlier 1 ((leading []).nextTurn 2 (0, 7)).events := by
  have hr : ((leading [noisy]).run 2 (0, 0)).result = .unfinished := rfl
  have hr' : ((leading []).run 2 (0, 7)).result = .unfinished := rfl
  have hstop : (leading [noisy]).SameRequests (0, 0) (leading []) (0, 7) 3 := by
    have hall : ∀ n < 3, ((leading [noisy]).run n (0, 0)).watchdog.isStopped =
        ((leading []).run n (0, 7)).watchdog.isStopped := by decide
    exact fun n hn _ _ => hall n hn
  obtain ⟨-, hevents, -, hnext⟩ := earlier_unaffected leading_shares le_rfl (w := (0, 0))
    (x := (0, 7)) rfl hstop (by rw [hr]; nofun) (by rw [hr']; nofun)
  exact ⟨hr, hr', rfl, hevents, (hnext hr).1⟩

end Watchdog

end Vigil
