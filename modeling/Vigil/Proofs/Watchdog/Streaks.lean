import Mathlib.Data.List.Infix
import Vigil.Proofs.Watchdog.Session

/-!
# Strikes and the history of a run

The strike counter of a monitor against all that was ever seen of the monitor in a run: it counts
the violations in a row since the last call without one, or the last that was reported as running
out of strikes, and the report comes exactly when they are one more than the limit.

* `Checkup`, `checkups`: the calls of one monitor, read off the events of a run;
* `streak`, `violationsInARow`: violations in a row, by looking back;
* `Counted`: what one turn does to the strikes of one monitor;
* `Settled`: how the counter of a monitor and its history belong together between turns;
* `spent_iff_violationsInARow`: the law of a whole run.
-/

namespace Vigil

variable {σ : Type}

/-- A call of a monitor that was answered: whether the monitor saw a violation, and whether the
reporter was told that it has run out of strikes. -/
structure Checkup where
  violated : Bool
  spent : Bool
  deriving DecidableEq, Repr

/-- Whether strikes are reported as spent before the next call of a monitor. -/
def reportsSpent : List Event → Bool
  | [] => false
  | .checked .. :: _ => false
  | .reported (.strikesExceeded ..) :: _ => true
  | _ :: es => reportsSpent es

/-- The calls of the monitor with the index `i`, in order. -/
def checkups (i : ℕ) : List Event → List Checkup
  | [] => []
  | .checked j _ (some v) :: es =>
    if j = i then ⟨v.violated, reportsSpent es⟩ :: checkups i es else checkups i es
  | _ :: es => checkups i es

/-- The monitor with the index `i` was called. -/
def Event.isCallOf (i : ℕ) : Event → Bool
  | .checked j _ _ => j == i
  | _ => false

/-- How many violations in a row a history ends with; a call that was reported as running out of
strikes ends the row. -/
def streak (cs : List Checkup) : ℕ :=
  (cs.reverse.takeWhile fun c => c.violated && !c.spent).length

/-- How many violations in a row there are at the call `c`, which comes after the history `cs`. -/
def violationsInARow (cs : List Checkup) (c : Checkup) : ℕ :=
  if c.violated then streak cs + 1 else 0

theorem checkups_checked (i : ℕ) (name : String) (v : Verdict) (es : List Event) :
    checkups i (.checked i name (some v) :: es) = ⟨v.violated, reportsSpent es⟩ :: checkups i es :=
  if_pos rfl

theorem checkups_eq_nil {i : ℕ} {es : List Event} (h : ∀ e ∈ es, e.isCallOf i = false) :
    checkups i es = [] := by
  fun_induction checkups i es <;> simp_all [Event.isCallOf]

@[simp] theorem streak_nil : streak [] = 0 := rfl

theorem streak_concat (cs : List Checkup) (c : Checkup) :
    streak (cs ++ [c]) = if c.violated && !c.spent then streak cs + 1 else 0 := by
  unfold streak
  rw [List.reverse_append, List.reverse_singleton, List.singleton_append, List.takeWhile_cons]
  split <;> rfl

/-! ### Reading a stretch of events -/

theorem reportsSpent_append {es es' : List Event} (h : reportsSpent es' = false) :
    reportsSpent (es ++ es') = reportsSpent es := by
  fun_induction reportsSpent es <;> simp_all [reportsSpent]

theorem checkups_append {i : ℕ} {es es' : List Event} (h : reportsSpent es' = false) :
    checkups i (es ++ es') = checkups i es ++ checkups i es' := by
  fun_induction checkups i es <;> simp_all [checkups, reportsSpent_append]

namespace Loop

theorem Examined.reportsSpent_eq {c : Configuration σ} {h : Handler σ} {i : ℕ}
    {m m' : Registered σ} {es : List Event} {f : Finding} (hm : Examined c h i m es m' f) :
    reportsSpent es = false := by
  cases hm <;> rfl

theorem Scanned.reportsSpent_eq {c : Configuration σ} {h : Handler σ} {i : ℕ}
    {ms ms' : MonitorSet σ} {es : List Event} {out : Outcome}
    (hs : Scanned c h i ms es ms' out) : reportsSpent es = false := by
  induction hs with
  | nil => rfl
  | passed hm _ ih => rw [reportsSpent_append ih, hm.reportsSpent_eq]
  | exceeded hm => exact hm.reportsSpent_eq
  | crashed hm => exact hm.reportsSpent_eq

theorem Remedied.reportsSpent_eq {h : Handler σ} {i : ℕ} {m : Registered σ}
    {ms ms' : MonitorSet σ} {es : List Event} {success : Option Bool}
    (hr : Remedied h i m ms es ms' success) : reportsSpent es = false := by
  cases hr <;> rfl

theorem Remedied.checkups_eq {h : Handler σ} {i j : ℕ} {m : Registered σ}
    {ms ms' : MonitorSet σ} {es : List Event} {success : Option Bool}
    (hr : Remedied h i m ms es ms' success) : checkups j es = [] := by
  cases hr <;> rfl

theorem Ticked.reportsSpent_eq {s : Surroundings σ} {ms ms' : MonitorSet σ} {es : List Event}
    {success : Option Bool} (ht : Ticked s ms es ms' success) : reportsSpent es = false := by
  cases ht with
  | unread => rfl
  | quiet hs => exact hs.reportsSpent_eq
  | crashed hs => exact hs.reportsSpent_eq
  | remedied hs _ hr =>
    show reportsSpent (_ ++ _) = false
    rw [reportsSpent_append hr.reportsSpent_eq, hs.reportsSpent_eq]

theorem Watched.reportsSpent_eq {s : Surroundings σ} {ms ms' : MonitorSet σ} {es : List Event}
    {success : Option Bool} (hw : Watched s ms es ms' success) : reportsSpent es = false := by
  cases hw with
  | unread => rfl
  | off => rfl
  | on ht => exact ht.reportsSpent_eq

theorem Turned.reportsSpent_eq {s : Surroundings σ} {ms ms' : MonitorSet σ} {es : List Event}
    {e : Option Ending} (ht : Turned s ms es ms' e) : reportsSpent es = false := by
  cases ht with
  | stopped => rfl
  | empty => rfl
  | crashed _ hw => exact hw.reportsSpent_eq
  | handled _ hw => exact hw.reportsSpent_eq
  | rested _ hw => rw [reportsSpent_append rfl, hw.reportsSpent_eq]

theorem Took.reportsSpent_eq {s : Surroundings σ} {ms ms' : MonitorSet σ} {es : List Event}
    {e : Ending} (ht : Took s ms es ms' e) : reportsSpent es = false := by
  induction ht with
  | unfinished => rfl
  | last ht => exact ht.reportsSpent_eq
  | next ht _ ih => rw [reportsSpent_append ih, ht.reportsSpent_eq]

/-- Only the examined monitor is called. -/
theorem Examined.isCallOf_of_ne {c : Configuration σ} {h : Handler σ} {i j : ℕ}
    {m m' : Registered σ} {es : List Event} {f : Finding} (hm : Examined c h i m es m' f)
    (hij : i ≠ j) : ∀ e ∈ es, e.isCallOf j = false := by
  cases hm <;> simp [Event.isCallOf, hij]

/-- A pass calls no monitor before the one with which it begins. -/
theorem Scanned.isCallOf_of_lt {c : Configuration σ} {h : Handler σ} {i j : ℕ}
    {ms ms' : MonitorSet σ} {es : List Event} {out : Outcome}
    (hs : Scanned c h i ms es ms' out) (hji : j < i) : ∀ e ∈ es, e.isCallOf j = false := by
  induction hs with
  | nil => exact fun _ => nofun
  | passed hm _ ih =>
    exact List.forall_mem_append.2 ⟨hm.isCallOf_of_ne (by omega), ih (by omega)⟩
  | exceeded hm => exact hm.isCallOf_of_ne (by omega)
  | crashed hm => exact hm.isCallOf_of_ne (by omega)

theorem Examined.checkups_of_ne {c : Configuration σ} {h : Handler σ} {i j : ℕ}
    {m m' : Registered σ} {es : List Event} {f : Finding} (hm : Examined c h i m es m' f)
    (hij : i ≠ j) : checkups j es = [] :=
  checkups_eq_nil (hm.isCallOf_of_ne hij)

theorem Scanned.checkups_of_lt {c : Configuration σ} {h : Handler σ} {i j : ℕ}
    {ms ms' : MonitorSet σ} {es : List Event} {out : Outcome}
    (hs : Scanned c h i ms es ms' out) (hji : j < i) : checkups j es = [] :=
  checkups_eq_nil (hs.isCallOf_of_lt hji)

/-! ### One monitor in one turn -/

/-- What a stretch of the loop does to the strikes of a monitor: the calls of the monitor in it,
and the strikes after it.  The stretch is `broken` if something crashed in it, and `mute` if that
was the report of a violation that this monitor saw. -/
inductive Counted (broken mute : Prop) (st : Strikes) : List Checkup → Strikes → Prop
  | skipped : Counted broken mute st [] st
  | passed {violated : Bool} (h : violated = true → (st.record violated).exceeded = false) :
      Counted broken mute st [⟨violated, false⟩] (st.record violated)
  | spent (h : (st.record true).exceeded = true) :
      Counted broken mute st [⟨true, true⟩] st.reset
  | torn {spent : Bool} {st' : Strikes} (hb : broken) (h : (st.record true).exceeded = true)
      (hs : spent = true ∨ mute) : Counted broken mute st [⟨true, spent⟩] st'

theorem Counted.mono {broken broken' mute mute' : Prop} {st st' : Strikes} {cs : List Checkup}
    (hc : Counted broken mute st cs st') (hb : broken → broken')
    (hm : broken → mute → mute') : Counted broken' mute' st cs st' := by
  cases hc with
  | skipped => exact .skipped
  | passed h => exact .passed h
  | spent h => exact .spent h
  | torn hbroken h hs => exact .torn (hb hbroken) h (hs.imp_right (hm hbroken))

/-- The stretch ends in the report of a violation that the monitor with the index `i` saw. -/
def EndsInReport (i : ℕ) (es : List Event) : Prop :=
  ∃ name v, [.checked i name (some v), .reported (.thresholdViolated name)] <:+ es

theorem EndsInReport.append {i : ℕ} {es : List Event} (h : EndsInReport i es)
    (es' : List Event) : EndsInReport i (es' ++ es) := by
  obtain ⟨name, v, hes⟩ := h
  exact ⟨name, v, hes.trans (List.suffix_append es' es)⟩

/-- The monitor has run out of strikes, which are not yet cleared. -/
def Fired (st : Strikes) (cs : List Checkup) (st' : Strikes) : Prop :=
  cs = [⟨true, true⟩] ∧ st' = st.record true ∧ (st.record true).exceeded = true

theorem Examined.counted {c : Configuration σ} {h : Handler σ} {i : ℕ} {m m' : Registered σ}
    {es : List Event} {f : Finding} (hm : Examined c h i m es m' f) :
    (f = .exceeded → Fired m.strikes (checkups i es) m'.strikes) ∧
      (f ≠ .exceeded →
        Counted (f = .crashed) (EndsInReport i es) m.strikes (checkups i es) m'.strikes) := by
  cases hm with
  | unanswered => exact ⟨nofun, fun _ => .skipped⟩
  | respected hv =>
    refine ⟨nofun, fun _ => ?_⟩
    rw [checkups_checked, hv]
    simp only [Registered.record, hv]
    exact .passed nofun
  | untold hv =>
    refine ⟨nofun, fun _ => ?_⟩
    rw [checkups_checked, hv]
    cases hs : (m.strikes.record true).exceeded with
    | false =>
      simp only [Registered.record, hv]
      exact .passed fun _ => hs
    | true => exact .torn rfl hs (.inr ⟨_, _, List.suffix_refl _⟩)
  | tolerated hv hs =>
    refine ⟨nofun, fun _ => ?_⟩
    rw [checkups_checked, hv]
    simp only [Registered.record, hv] at hs ⊢
    exact .passed fun _ => hs
  | spent hv hs hf =>
    rw [checkups_checked, hv]
    simp only [Registered.record, hv] at hs ⊢
    exact ⟨fun _ => ⟨rfl, rfl, hs⟩, fun hne => .torn (hf.resolve_left hne) hs (.inl rfl)⟩

theorem Scanned.counted {c : Configuration σ} {h : Handler σ} {i k : ℕ} {m : Registered σ}
    {ms ms' : MonitorSet σ} {es : List Event} {out : Outcome}
    (hs : Scanned c h i ms es ms' out) (hm : ms[k]? = some m) :
    ∃ m', ms'[k]? = some m' ∧
      (out = .exceeded (i + k) → Fired m.strikes (checkups (i + k) es) m'.strikes) ∧
      (out ≠ .exceeded (i + k) →
        Counted (out = .crashed) (EndsInReport (i + k) es) m.strikes (checkups (i + k) es)
          m'.strikes) := by
  induction hs generalizing k with
  | nil => simp at hm
  | @passed i m₀ m₀' ms ms' es es' out hm₀ hms ih =>
    rw [checkups_append hms.reportsSpent_eq]
    -- The other monitors have larger indices, so the first one is not called again.
    cases k with
    | zero =>
      obtain rfl : m₀ = m := by simpa using hm
      rw [Nat.add_zero, hms.checkups_of_lt (Nat.lt_succ_self i), List.append_nil]
      refine ⟨m₀', rfl, ?_, fun _ => (hm₀.counted.2 nofun).mono nofun nofun⟩
      rintro rfl
      obtain ⟨k, _, hk, -⟩ := hms.exists_getElem?
      omega
    | succ k =>
      obtain ⟨m', hm', hfired, hcounted⟩ := ih (by simpa using hm)
      rw [hm₀.checkups_of_ne (by omega), List.nil_append,
        show i + (k + 1) = i + 1 + k by omega]
      exact ⟨m', hm', hfired, fun hout =>
        (hcounted hout).mono id fun _ hes => hes.append es⟩
  | @exceeded i m₀ m₀' ms es hm₀ =>
    cases k with
    | zero =>
      obtain rfl : m₀ = m := by simpa using hm
      exact ⟨m₀', rfl, fun _ => hm₀.counted.1 rfl, fun hout => absurd rfl hout⟩
    | succ k =>
      rw [hm₀.checkups_of_ne (by omega)]
      refine ⟨m, by simpa using hm, fun hout => ?_, fun _ => .skipped⟩
      injection hout
      omega
  | @crashed i m₀ m₀' ms es hm₀ =>
    cases k with
    | zero =>
      obtain rfl : m₀ = m := by simpa using hm
      exact ⟨m₀', rfl, nofun, fun _ => (hm₀.counted.2 nofun).mono (fun _ => rfl) fun _ => id⟩
    | succ k =>
      rw [hm₀.checkups_of_ne (by omega)]
      exact ⟨m, by simpa using hm, nofun, fun _ => .skipped⟩

theorem Ticked.counted {s : Surroundings σ} {ms ms' : MonitorSet σ} {es : List Event}
    {success : Option Bool} (ht : Ticked s ms es ms' success) {i : ℕ} {m : Registered σ}
    (hm : ms[i]? = some m) :
    ∃ m', ms'[i]? = some m' ∧
      Counted (success = none) (EndsInReport i es) m.strikes (checkups i es) m'.strikes := by
  cases ht with
  | unread => exact ⟨m, hm, .skipped⟩
  | quiet hs =>
    obtain ⟨m', hm', -, hcounted⟩ := hs.counted hm
    rw [Nat.zero_add] at hcounted
    exact ⟨m', hm', (hcounted nofun).mono nofun nofun⟩
  | crashed hs =>
    obtain ⟨m', hm', -, hcounted⟩ := hs.counted hm
    rw [Nat.zero_add] at hcounted
    exact ⟨m', hm', (hcounted nofun).mono (fun _ => rfl) fun _ hes => hes.append [_]⟩
  | @remedied on j _ es es' mid _ _ hs _ hr =>
    obtain ⟨m', hmid, hfired, hcounted⟩ := hs.counted hm
    rw [Nat.zero_add] at hfired hcounted
    have hcs : checkups i (.enforcementRead (some on) :: (es ++ es')) = checkups i es := by
      show checkups i (es ++ es') = _
      rw [checkups_append hr.reportsSpent_eq, hr.checkups_eq, List.append_nil]
    rw [hcs]
    -- Either this monitor stopped the pass, and its strikes are cleared unless something crashes,
    -- or another one did, and clearing strikes does not concern this one.
    by_cases hij : j = i
    · obtain ⟨hcs', hst, hspent⟩ := hfired (by rw [hij])
      rw [hcs']
      cases hr with
      | undiagnosed => exact ⟨m', hmid, .torn rfl hspent (.inl rfl)⟩
      | unanswered => exact ⟨m', hmid, .torn rfl hspent (.inl rfl)⟩
      | answered success =>
        refine ⟨m'.reset, ?_, ?_⟩
        · rw [hij, MonitorSet.getElem?_reset_self, hmid, Option.map_some]
        · simp only [Registered.reset, hst, Strikes.reset_record]
          exact .spent hspent
    · have hcounted := hcounted fun hout => hij (Outcome.exceeded.inj hout)
      have hm' : ms'[i]? = some m' := by
        cases hr with
        | undiagnosed => exact hmid
        | unanswered => exact hmid
        | answered => rw [MonitorSet.getElem?_reset_of_ne _ hij, hmid]
      exact ⟨m', hm', hcounted.mono nofun nofun⟩

theorem Watched.counted {s : Surroundings σ} {ms ms' : MonitorSet σ} {es : List Event}
    {success : Option Bool} (hw : Watched s ms es ms' success) {i : ℕ} {m : Registered σ}
    (hm : ms[i]? = some m) :
    ∃ m', ms'[i]? = some m' ∧
      Counted (success = none) (EndsInReport i es) m.strikes (checkups i es) m'.strikes := by
  cases hw with
  | unread => exact ⟨m, hm, .skipped⟩
  | off => exact ⟨m, hm, .skipped⟩
  | on ht =>
    obtain ⟨m', hm', hcounted⟩ := ht.counted hm
    exact ⟨m', hm', hcounted.mono id fun _ hes => hes.append [_]⟩

theorem Turned.counted {s : Surroundings σ} {ms ms' : MonitorSet σ} {es : List Event}
    {e : Option Ending} (ht : Turned s ms es ms' e) {i : ℕ} {m : Registered σ}
    (hm : ms[i]? = some m) :
    ∃ m', ms'[i]? = some m' ∧
      Counted (e = some .crashed) (EndsInReport i es) m.strikes (checkups i es) m'.strikes := by
  cases ht with
  | stopped => exact ⟨m, hm, .skipped⟩
  | empty => exact ⟨m, hm, .skipped⟩
  | crashed _ hw =>
    obtain ⟨m', hm', hcounted⟩ := hw.counted hm
    exact ⟨m', hm', hcounted.mono (fun _ => rfl) fun _ => id⟩
  | handled _ hw =>
    obtain ⟨m', hm', hcounted⟩ := hw.counted hm
    exact ⟨m', hm', hcounted.mono nofun nofun⟩
  | rested _ hw =>
    obtain ⟨m', hm', hcounted⟩ := hw.counted hm
    rw [checkups_append rfl]
    exact ⟨m', hm', by simpa [checkups] using hcounted.mono nofun nofun⟩

/-! ### The counter and the history -/

/-- A call after the history `before` is reported as running out of strikes exactly if it is the
violation next after the limit.  A report that never came is excused if `excuse` holds. -/
def Exact (limit : UInt32) (excuse : Prop) (before : List Checkup) (c : Checkup) : Prop :=
  (c.spent = true →
    limit ≠ Strikes.top ∧ violationsInARow before c = limit.toNat + 1) ∧
  (limit ≠ Strikes.top → violationsInARow before c = limit.toNat + 1 → c.spent = true ∨ excuse)

/-- Each call of a history is, the last perhaps with an excuse. -/
def Lawful (limit : UInt32) (excuse : Prop) (cs : List Checkup) : Prop :=
  ∀ before c after, cs = before ++ c :: after → Exact limit (after = [] ∧ excuse) before c

theorem Lawful.nil (limit : UInt32) (excuse : Prop) : Lawful limit excuse [] := by
  intro before c after h
  simp at h

theorem Lawful.mono {limit : UInt32} {excuse excuse' : Prop} {cs : List Checkup}
    (h : Lawful limit excuse cs) (he : excuse → excuse') : Lawful limit excuse' cs := by
  intro before c after hcs
  obtain ⟨hspent, hrow⟩ := h before c after hcs
  exact ⟨hspent, fun hlimit h => (hrow hlimit h).imp_right fun ⟨hafter, h⟩ => ⟨hafter, he h⟩⟩

theorem Lawful.concat {limit : UInt32} {excuse : Prop} {cs : List Checkup} {c : Checkup}
    (hcs : Lawful limit False cs) (hc : Exact limit excuse cs c) :
    Lawful limit excuse (cs ++ [c]) := by
  intro before c' after h
  rcases List.eq_nil_or_concat after with rfl | ⟨after, c'', rfl⟩
  · obtain ⟨rfl, hc'⟩ := List.append_inj' h rfl
    obtain rfl : c = c' := by simpa using hc'
    exact ⟨hc.1, fun hlimit hrow => (hc.2 hlimit hrow).imp_right fun h => ⟨rfl, h⟩⟩
  · rw [List.concat_eq_append, ← List.cons_append, ← List.append_assoc] at h
    obtain ⟨hcs', -⟩ := List.append_inj' h rfl
    obtain ⟨hspent, hrow⟩ := hcs before c' after hcs'
    exact ⟨hspent, fun hlimit h => .inl ((hrow hlimit h).resolve_right And.right)⟩

/-- How the strikes of a monitor and its history belong together between turns, where no monitor is
past its limit. -/
structure Settled (limit : UInt32) (cs : List Checkup) (st : Strikes) : Prop where
  limit_eq : st.limit = limit
  count_eq : st.count.toNat = min (streak cs) Strikes.top.toNat
  streak_le : limit ≠ Strikes.top → streak cs ≤ limit.toNat
  lawful : Lawful limit False cs

theorem Settled.start {st : Strikes} (h : st.count = 0) : Settled st.limit [] st where
  limit_eq := rfl
  count_eq := by rw [h]; rfl
  streak_le _ := Nat.zero_le _
  lawful := .nil _ _

/-- One more violation goes past the limit exactly if it is the one next after the limit. -/
theorem Settled.exceeded_iff {limit : UInt32} {cs : List Checkup} {st : Strikes}
    (h : Settled limit cs st) :
    (st.record true).exceeded = true ↔ limit ≠ Strikes.top ∧ streak cs = limit.toNat := by
  have htop : Strikes.top.toNat = 4294967295 := rfl
  have hlt := limit.toNat_lt
  have hne : limit ≠ Strikes.top ↔ limit.toNat ≠ 4294967295 := by
    rw [← htop, Ne, Ne, UInt32.toNat_inj]
  have hle := h.streak_le
  rw [Strikes.exceeded_iff, Strikes.limit_record, h.limit_eq, Strikes.toNat_count_record_true,
    h.count_eq, htop, hne]
  rw [hne] at hle
  omega

/-- A call that goes past the limit is the violation next after the limit. -/
theorem Settled.row_of_exceeded {limit : UInt32} {cs : List Checkup} {st : Strikes}
    (h : Settled limit cs st) (hst : (st.record true).exceeded = true) (spent : Bool) :
    limit ≠ Strikes.top ∧ violationsInARow cs ⟨true, spent⟩ = limit.toNat + 1 := by
  obtain ⟨hlimit, hstreak⟩ := h.exceeded_iff.1 hst
  exact ⟨hlimit, by rw [← hstreak]; rfl⟩

/-- What a stretch of the loop adds to the history keeps the law. -/
theorem Settled.lawful_append {limit : UInt32} {broken mute : Prop} {cs cs' : List Checkup}
    {st st' : Strikes} (h : Settled limit cs st) (hc : Counted broken mute st cs' st') :
    Lawful limit (broken ∧ mute) (cs ++ cs') := by
  cases hc with
  | skipped =>
    rw [List.append_nil]
    exact h.lawful.mono False.elim
  | @passed violated hst =>
    refine h.lawful.concat ⟨nofun, fun hlimit hrow => ?_⟩
    cases violated with
    | false => cases hrow
    | true =>
      have hexceeded := h.exceeded_iff.2 ⟨hlimit, Nat.succ_inj.1 hrow⟩
      rw [hst rfl] at hexceeded
      cases hexceeded
  | spent hst => exact h.lawful.concat ⟨fun _ => h.row_of_exceeded hst _, fun _ _ => .inl rfl⟩
  | torn hb hst hs =>
    exact h.lawful.concat
      ⟨fun _ => h.row_of_exceeded hst _, fun _ _ => hs.imp_right fun hm => ⟨hb, hm⟩⟩

/-- Unless something crashed, the strikes and the history still belong together after it. -/
theorem Settled.append {limit : UInt32} {broken mute : Prop} {cs cs' : List Checkup}
    {st st' : Strikes} (h : Settled limit cs st) (hc : Counted broken mute st cs' st')
    (hb : ¬ broken) : Settled limit (cs ++ cs') st' := by
  have hlawful := (h.lawful_append hc).mono fun hbm => hb hbm.1
  cases hc with
  | skipped => exact ⟨h.limit_eq, by rw [List.append_nil]; exact h.count_eq,
      by rw [List.append_nil]; exact h.streak_le, hlawful⟩
  | @passed violated hst =>
    cases violated with
    | false => exact ⟨h.limit_eq, by rw [streak_concat]; rfl,
        fun _ => by rw [streak_concat]; exact Nat.zero_le _, hlawful⟩
    | true =>
      have hrow : streak (cs ++ [⟨true, false⟩]) = streak cs + 1 := streak_concat _ _
      refine ⟨h.limit_eq, ?_, fun hlimit => ?_, hlawful⟩
      · rw [Strikes.toNat_count_record_true, h.count_eq, hrow]
        omega
      · have hne : streak cs ≠ limit.toNat := fun hstreak => by
          have hexceeded := h.exceeded_iff.2 ⟨hlimit, hstreak⟩
          rw [hst rfl] at hexceeded
          cases hexceeded
        have hle := h.streak_le hlimit
        rw [hrow]
        omega
  | spent => exact ⟨h.limit_eq, by rw [streak_concat]; rfl,
      fun _ => by rw [streak_concat]; exact Nat.zero_le _, hlawful⟩
  | torn hbroken => exact absurd hbroken hb

/-- The law holds after any number of turns. -/
theorem Took.lawful {s : Surroundings σ} {ms ms' : MonitorSet σ} {es : List Event} {e : Ending}
    (ht : Took s ms es ms' e) {i : ℕ} {m : Registered σ} (hm : ms[i]? = some m)
    {limit : UInt32} {cs : List Checkup} (h : Settled limit cs m.strikes) :
    Lawful limit (e = .crashed ∧ EndsInReport i es) (cs ++ checkups i es) := by
  induction ht generalizing m cs with
  | unfinished =>
    rw [checkups, List.append_nil]
    exact h.lawful.mono False.elim
  | last ht =>
    obtain ⟨m', -, hcounted⟩ := ht.counted hm
    exact (h.lawful_append hcounted).mono fun ⟨he, hes⟩ => ⟨Option.some.inj he, hes⟩
  | next ht hts ih =>
    -- The turn did not end the loop, so nothing crashed in it.
    obtain ⟨m', hm', hcounted⟩ := ht.counted hm
    rw [checkups_append hts.reportsSpent_eq, ← List.append_assoc]
    exact (ih hm' (h.append hcounted nofun)).mono fun ⟨he, hes⟩ => ⟨he, hes.append _⟩

end Loop

namespace Watchdog

open Loop

/-! ### The law of a run -/

/-- Reports of the beginning and the end name no strikes and come with no call of a monitor. -/
theorem Announced.not_a_call {d : Watchdog σ} {notice : String → Notice} {es : List Event}
    {told : Option Unit} (h : Announced d notice es told)
    (hn : ∀ name, reportsSpent [.reported (notice name)] = false) :
    reportsSpent es = false ∧ ∀ i, checkups i es = [] := by
  cases h with
  | unread => exact ⟨rfl, fun _ => rfl⟩
  | reported => exact ⟨hn _, fun _ => rfl⟩

theorem Held.lawful {d : Watchdog σ} {es : List Event} {ms : MonitorSet σ} {e : Ending}
    (h : Held d es ms e) {i : ℕ} {m : Registered σ} (hm : d.configuration.monitors[i]? = some m)
    (h0 : m.strikes.count = 0) :
    reportsSpent es = false ∧
      Lawful m.strikes.limit (e = .crashed ∧ EndsInReport i es) (checkups i es) := by
  have hstart := Settled.start h0
  cases h with
  | unopened ho =>
    obtain ⟨hr, hcs⟩ := ho.not_a_call fun _ => rfl
    exact ⟨hr, by rw [hcs]; exact .nil _ _⟩
  | @unclosed es es' _ _ ho ht =>
    obtain ⟨hr, hcs⟩ := ho.not_a_call fun _ => rfl
    rw [reportsSpent_append ht.reportsSpent_eq, checkups_append ht.reportsSpent_eq, hcs]
    exact ⟨hr, (ht.lawful hm hstart).mono fun ⟨he, hes⟩ => ⟨he, hes.append es⟩⟩
  | closed ho ht hc =>
    obtain ⟨hr, hcs⟩ := ho.not_a_call fun _ => rfl
    obtain ⟨hr', hcs'⟩ := hc.not_a_call fun _ => rfl
    rw [reportsSpent_append hr', checkups_append hr', reportsSpent_append ht.reportsSpent_eq,
      checkups_append ht.reportsSpent_eq, hcs, hcs', List.append_nil]
    exact ⟨hr, (ht.lawful hm hstart).mono nofun⟩

/-- A run that ends in the report of a violation ends with a call that was not reported as running
out of strikes. -/
theorem spent_of_endsInReport {i : ℕ} {es : List Event} (h : EndsInReport i es)
    {before : List Checkup} {c : Checkup} (hcs : checkups i es = before ++ [c]) :
    c.spent = false := by
  obtain ⟨name, v, es, rfl⟩ := h
  rw [checkups_append rfl, checkups_checked] at hcs
  obtain ⟨-, hc⟩ := List.append_inj' hcs rfl
  obtain rfl := (List.cons.inj hc).1
  rfl

/-- **The law of strikes.**  In a run of any length, each report of spent strikes belongs to a call
of a monitor, and it comes at exactly those calls at which the violations in a row are one more than
the limit; it is missing only if the reporter crashes before, when it is told of the violation.  A
monitor with the largest limit is never reported. -/
theorem spent_iff_violationsInARow (d : Watchdog σ) (allowed : ℕ) (w : σ) {i : ℕ}
    {m : Registered σ} (hm : d.configuration.monitors[i]? = some m) (h0 : m.strikes.count = 0) :
    reportsSpent (d.run allowed w).events = false ∧
      ∀ before c after, checkups i (d.run allowed w).events = before ++ c :: after →
        (c.spent = true ↔
          m.strikes.limit ≠ Strikes.top ∧
            violationsInARow before c = m.strikes.limit.toNat + 1 ∧
            ¬ (after = [] ∧ (d.run allowed w).result = .crashed ∧
              EndsInReport i (d.run allowed w).events)) := by
  by_cases hd : d.Ready
  · obtain ⟨e, hheld, hresult⟩ := held_of_ready hd allowed w
    obtain ⟨hspent, hlawful⟩ := hheld.lawful hm h0
    refine ⟨hspent, fun before c after hcs => ?_⟩
    obtain ⟨hrow, hreport⟩ := hlawful before c after hcs
    constructor
    · intro hc
      refine ⟨(hrow hc).1, (hrow hc).2, ?_⟩
      rintro ⟨rfl, -, hend⟩
      rw [spent_of_endsInReport hend hcs] at hc
      cases hc
    · rintro ⟨hlimit, hexact, hheard⟩
      refine (hreport hlimit hexact).resolve_right ?_
      rintro ⟨hafter, rfl, hend⟩
      exact hheard ⟨hafter, hresult, hend⟩
  · obtain ⟨fault, hrun⟩ := run_of_not_ready hd allowed w
    rw [hrun]
    exact ⟨rfl, fun before c after hcs => by simp [refused, checkups] at hcs⟩

/-- A monitor that tolerates one violation is reported at the second. -/
theorem small_spent_at_second_call :
    (small none).configuration.monitors[0]? = some (alarm none) ∧
      (alarm none).strikes.count = 0 ∧
      checkups 0 ((small none).run 3 0).events =
        [⟨true, false⟩] ++ ⟨true, true⟩ :: [⟨true, false⟩] ∧
      violationsInARow [⟨true, false⟩] ⟨true, true⟩ = (alarm none).strikes.limit.toNat + 1 :=
  ⟨rfl, rfl, rfl,
    ((spent_iff_violationsInARow (small none) 3 0 (i := 0) (m := alarm none) rfl rfl).2
      [⟨true, false⟩] ⟨true, true⟩ [⟨true, false⟩] rfl).1 rfl |>.2.1⟩

end Watchdog

end Vigil
