import Mathlib.Algebra.BigOperators.Group.Finset.Basic
import Vigil.Proofs.Watchdog.Moments

/-!
# Conservation of calls

In a turn with the switch on, the first monitor is called.  Each call of a monitor is followed by a
call of the next one, or else by the report that strikes are spent, and then hook and handler are
called.

* `timesCalled`, `timesFired`: how often a monitor was called, and was reported;
* `Balanced`: what is called in a stretch of a loop and what is reported come out even;
* `Scanned.balanced`, `Took.balanced`: they do in a pass, and in turns;
* `cascade`: how often monitors are called if each call is a violation;
* `Spanned`, `calls_conserved`: a run is turns between reports, and so comes out even.
-/

namespace Vigil

variable {σ : Type}

/-- The switch for monitors was found on. -/
def Event.isEnabled : Event → Bool
  | .watchdogRead (some true) => true
  | _ => false

/-- Nothing is called but the pause, the switch for monitors is not found on, and nothing is
reported but the beginning or the end. -/
def Event.isIdle : Event → Bool
  | .watchdogRead (some true) => false
  | .watchdogRead _ | .enforcementRead _ | .paused _ => true
  | .reported (.started ..) | .reported (.stopped ..) => true
  | _ => false

/-- The hook was called. -/
def Event.isDiagnosed : Event → Bool
  | .diagnosed _ => true
  | _ => false

theorem Event.uncounted_of_isIdle {e : Event} (he : e.isIdle = true) :
    e.isEnabled = false ∧ e.isSpent = false ∧ e.isDiagnosed = false ∧ e.isHandled = false ∧
      ∀ i, e.isCallOf i = false := by
  revert he
  fun_cases Event.isIdle e <;> simp_all [isEnabled, isSpent, isDiagnosed, isHandled, isCallOf]

theorem Event.uncounted_of_ofPass {e : Event} (he : e.ofPass = true) :
    e.isEnabled = false ∧ e.isDiagnosed = false ∧ e.isHandled = false := by
  revert he
  fun_cases Event.ofPass e <;> simp [isEnabled, isDiagnosed, isHandled]

/-- How often the monitor with the index `i` was called. -/
def timesCalled (i : ℕ) (es : List Event) : ℕ := es.countP (Event.isCallOf i)

theorem timesCalled_eq_zero {i : ℕ} {es : List Event} (h : ∀ e ∈ es, e.isCallOf i = false) :
    timesCalled i es = 0 :=
  List.countP_eq_zero.2 fun e he => by simp [h e he]

/-- How often it was reported to have spent its strikes. -/
def timesFired (i : ℕ) (es : List Event) : ℕ := (checkups i es).countP Checkup.spent

theorem timesFired_nil (i : ℕ) : timesFired i [] = 0 := rfl

theorem timesCalled_append (i : ℕ) (es es' : List Event) :
    timesCalled i (es ++ es') = timesCalled i es + timesCalled i es' := List.countP_append

theorem timesFired_append {i : ℕ} {es es' : List Event} (h : reportsSpent es' = false) :
    timesFired i (es ++ es') = timesFired i es + timesFired i es' := by
  rw [timesFired, checkups_append h, List.countP_append, timesFired, timesFired]

/-- With `n` monitors, what is called and what is reported come out even: all calls of monitors are
answered, the first monitor is called whenever the switch is found on, each call ends in a report of
its monitor or in a call of the next, and hook and handler are called once for each report of a
monitor. -/
structure Balanced (n : ℕ) (es : List Event) : Prop where
  answered : ∀ i, (checkups i es).length = timesCalled i es
  timesCalled_zero : timesCalled 0 es = es.countP Event.isEnabled
  timesCalled_succ : ∀ i, i + 1 < n → timesCalled (i + 1) es + timesFired i es = timesCalled i es
  sum_timesFired : ∑ i ∈ Finset.range n, timesFired i es = es.countP Event.isSpent
  diagnosed : es.countP Event.isDiagnosed = es.countP Event.isSpent
  handled : es.countP Event.isHandled = es.countP Event.isSpent

namespace Balanced

variable {n : ℕ} {es es' : List Event}

theorem append (h : Balanced n es) (h' : Balanced n es') (hes' : reportsSpent es' = false) :
    Balanced n (es ++ es') where
  answered i := by
    rw [checkups_append hes', List.length_append, h.answered, h'.answered, timesCalled_append]
  timesCalled_zero := by
    rw [timesCalled_append, h.timesCalled_zero, h'.timesCalled_zero, List.countP_append]
  timesCalled_succ i hi := by
    have hes := h.timesCalled_succ i hi
    have hes'' := h'.timesCalled_succ i hi
    rw [timesCalled_append, timesCalled_append, timesFired_append hes']
    omega
  sum_timesFired := by
    simp only [timesFired_append hes', Finset.sum_add_distrib, h.sum_timesFired, h'.sum_timesFired,
      List.countP_append]
  diagnosed := by simp only [List.countP_append, h.diagnosed, h'.diagnosed]
  handled := by simp only [List.countP_append, h.handled, h'.handled]

theorem checkups_of_idle (hes : ∀ e ∈ es, e.isIdle = true) (i : ℕ) : checkups i es = [] := by
  induction es with
  | nil => rfl
  | cons e es ih =>
    obtain ⟨he, hes⟩ := List.forall_mem_cons.1 hes
    rw [← ih hes]
    cases e with
    | checked => cases he
    | _ => rfl

/-- In idle events nothing is called and nothing is reported. -/
theorem of_idle (hes : ∀ e ∈ es, e.isIdle = true) : Balanced n es := by
  have absent {p : Event → Bool} (hp : ∀ e, e.isIdle = true → p e = false) : es.countP p = 0 :=
    List.countP_eq_zero.2 fun e he => by simp [hp e (hes e he)]
  have henabled := absent fun e he => (Event.uncounted_of_isIdle he).1
  have hspent := absent fun e he => (Event.uncounted_of_isIdle he).2.1
  have hdiagnosed := absent fun e he => (Event.uncounted_of_isIdle he).2.2.1
  have hhandled := absent fun e he => (Event.uncounted_of_isIdle he).2.2.2.1
  have hcalled (i : ℕ) : timesCalled i es = 0 :=
    absent fun e he => (Event.uncounted_of_isIdle he).2.2.2.2 i
  have hfired (i : ℕ) : timesFired i es = 0 := by
    rw [timesFired, checkups_of_idle hes]
    rfl
  exact
    { answered := fun i => by rw [hcalled, checkups_of_idle hes]; rfl
      timesCalled_zero := by rw [hcalled, henabled]
      timesCalled_succ := fun i _ => by rw [hcalled, hcalled, hfired]
      sum_timesFired := by rw [Finset.sum_eq_zero fun i _ => hfired i, hspent]
      diagnosed := by rw [hdiagnosed, hspent]
      handled := by rw [hhandled, hspent] }

end Balanced

namespace Loop

/-! ### Passes -/

theorem Examined.timesCalled_self {c : Configuration σ} {h : Handler σ} {i : ℕ}
    {m m' : Registered σ} {es : List Event} {f : Finding} (hm : Examined c h i m es m' f) :
    timesCalled i es = 1 := by
  cases hm <;> simp [timesCalled, Event.isCallOf]

theorem Examined.timesCalled_of_ne {c : Configuration σ} {h : Handler σ} {i j : ℕ}
    {m m' : Registered σ} {es : List Event} {f : Finding} (hm : Examined c h i m es m' f)
    (hij : i ≠ j) : timesCalled j es = 0 :=
  timesCalled_eq_zero (hm.isCallOf_of_ne hij)

/-- A monitor that answered is reported exactly if it has run out of strikes. -/
theorem Examined.checkups_self {c : Configuration σ} {h : Handler σ} {i : ℕ} {m m' : Registered σ}
    {es : List Event} {f : Finding} (hm : Examined c h i m es m' f) (hf : f ≠ .crashed) :
    ∃ violated, checkups i es = [⟨violated, f == .exceeded⟩] ∧
      es.countP Event.isSpent = if f = .exceeded then 1 else 0 := by
  cases hm with
  | unanswered => exact absurd rfl hf
  | untold => exact absurd rfl hf
  | respected => exact ⟨_, checkups_checked _ _ _ _, rfl⟩
  | tolerated => exact ⟨_, checkups_checked _ _ _ _, rfl⟩
  | spent _ _ hexceeded =>
    obtain rfl := hexceeded.resolve_right hf
    exact ⟨_, checkups_checked _ _ _ _, rfl⟩

theorem Examined.timesFired_self {c : Configuration σ} {h : Handler σ} {i : ℕ} {m m' : Registered σ}
    {es : List Event} {f : Finding} (hm : Examined c h i m es m' f) (hf : f ≠ .crashed) :
    timesFired i es = es.countP Event.isSpent := by
  obtain ⟨violated, hcs, hspent⟩ := hm.checkups_self hf
  rw [timesFired, hcs, hspent]
  cases f <;> rfl

theorem Examined.timesFired_of_ne {c : Configuration σ} {h : Handler σ} {i j : ℕ}
    {m m' : Registered σ} {es : List Event} {f : Finding} (hm : Examined c h i m es m' f)
    (hij : i ≠ j) : timesFired j es = 0 := by
  rw [timesFired, hm.checkups_of_ne hij]
  rfl

theorem Scanned.timesCalled_of_lt {c : Configuration σ} {h : Handler σ} {i j : ℕ}
    {ms ms' : MonitorSet σ} {es : List Event} {out : Outcome} (hs : Scanned c h i ms es ms' out)
    (hji : j < i) : timesCalled j es = 0 :=
  timesCalled_eq_zero (hs.isCallOf_of_lt hji)

theorem Scanned.timesFired_of_lt {c : Configuration σ} {h : Handler σ} {i j : ℕ}
    {ms ms' : MonitorSet σ} {es : List Event} {out : Outcome} (hs : Scanned c h i ms es ms' out)
    (hji : j < i) : timesFired j es = 0 := by
  rw [timesFired, hs.checkups_of_lt hji]
  rfl

/-- The first monitor of a pass is called once. -/
theorem Scanned.timesCalled_first {c : Configuration σ} {h : Handler σ} {i : ℕ}
    {ms ms' : MonitorSet σ} {es : List Event} {out : Outcome} (hs : Scanned c h i ms es ms' out)
    (hms : ms ≠ []) : timesCalled i es = 1 := by
  cases hs with
  | nil => exact absurd rfl hms
  | passed hm hms =>
    rw [timesCalled_append, hm.timesCalled_self, hms.timesCalled_of_lt (Nat.lt_succ_self i)]
  | exceeded hm => exact hm.timesCalled_self
  | crashed hm => exact hm.timesCalled_self

theorem Scanned.length_checkups {c : Configuration σ} {h : Handler σ} {i : ℕ}
    {ms ms' : MonitorSet σ} {es : List Event} {out : Outcome} (hs : Scanned c h i ms es ms' out)
    (hout : out ≠ .crashed) (j : ℕ) : (checkups j es).length = timesCalled j es := by
  have examined {i : ℕ} {m m' : Registered σ} {es : List Event} {f : Finding}
      (hm : Examined c h i m es m' f) (hf : f ≠ .crashed) :
      (checkups j es).length = timesCalled j es := by
    by_cases hij : i = j
    · subst hij
      obtain ⟨violated, hcs, -⟩ := hm.checkups_self hf
      rw [hcs, hm.timesCalled_self]
      rfl
    · rw [hm.checkups_of_ne hij, hm.timesCalled_of_ne hij]
      rfl
  induction hs with
  | nil => rfl
  | passed hm hms ih =>
    rw [checkups_append hms.reportsSpent_eq, List.length_append, timesCalled_append,
      examined hm nofun, ih hout]
  | exceeded hm => exact examined hm nofun
  | crashed => exact absurd rfl hout

/-- A monitor after another is called exactly if the other is and has strikes left. -/
theorem Scanned.timesCalled_succ {c : Configuration σ} {h : Handler σ} {i k : ℕ}
    {ms ms' : MonitorSet σ} {es : List Event} {out : Outcome} (hs : Scanned c h i ms es ms' out)
    (hout : out ≠ .crashed) (hk : k + 1 < ms.length) :
    timesCalled (i + k + 1) es + timesFired (i + k) es = timesCalled (i + k) es := by
  induction hs generalizing k with
  | nil => simp at hk
  | @passed i m m' ms ms' es es' out hm hms ih =>
    rw [timesCalled_append, timesCalled_append, timesFired_append hms.reportsSpent_eq]
    cases k with
    | zero =>
      -- The first monitor has strikes left, and so the second is called.
      obtain ⟨-, -, hspent⟩ := hm.checkups_self nofun
      have hne : ms ≠ [] := by
        rintro rfl
        simp at hk
      simp only [Nat.add_zero]
      rw [hm.timesCalled_self, hm.timesCalled_of_ne (by omega), hm.timesFired_self nofun, hspent,
        hms.timesCalled_first hne, hms.timesCalled_of_lt (by omega),
        hms.timesFired_of_lt (by omega)]
      rfl
    | succ k =>
      have hnext := ih hout (k := k) (by simpa using hk)
      rw [hm.timesCalled_of_ne (by omega), hm.timesCalled_of_ne (by omega),
        hm.timesFired_of_ne (by omega)]
      rw [show i + (k + 1) = i + 1 + k by omega]
      omega
  | @exceeded i m m' ms es hm =>
    cases k with
    | zero =>
      obtain ⟨-, -, hspent⟩ := hm.checkups_self nofun
      simp only [Nat.add_zero]
      rw [hm.timesCalled_self, hm.timesCalled_of_ne (by omega), hm.timesFired_self nofun, hspent]
      rfl
    | succ k =>
      rw [hm.timesCalled_of_ne (by omega), hm.timesCalled_of_ne (by omega),
        hm.timesFired_of_ne (by omega)]
  | crashed => exact absurd rfl hout

/-- At most one monitor is reported in a pass, and that is the one at which it stops. -/
theorem Scanned.sum_timesFired {c : Configuration σ} {h : Handler σ} {i : ℕ} {ms ms' : MonitorSet σ}
    {es : List Event} {out : Outcome} (hs : Scanned c h i ms es ms' out) (hout : out ≠ .crashed) :
    ∑ k ∈ Finset.range ms.length, timesFired (i + k) es = es.countP Event.isSpent := by
  induction hs with
  | nil => rfl
  | @passed i m m' ms ms' es es' out hm hms ih =>
    have hrest (k : ℕ) : timesFired (i + (k + 1)) (es ++ es') = timesFired (i + 1 + k) es' := by
      rw [timesFired_append hms.reportsSpent_eq, hm.timesFired_of_ne (by omega), Nat.zero_add,
        show i + (k + 1) = i + 1 + k by omega]
    rw [List.length_cons, Finset.sum_range_succ', Nat.add_zero, List.countP_append, ← ih hout,
      timesFired_append hms.reportsSpent_eq, hm.timesFired_self nofun,
      hms.timesFired_of_lt (by omega)]
    simp only [hrest]
    omega
  | @exceeded i m m' ms es hm =>
    rw [List.length_cons, Finset.sum_range_succ', Nat.add_zero, hm.timesFired_self nofun,
      Finset.sum_eq_zero fun k _ => hm.timesFired_of_ne (by omega), Nat.zero_add]
  | crashed => exact absurd rfl hout

/-- A pass that stops at a monitor reports once. -/
theorem Scanned.countP_isSpent {c : Configuration σ} {h : Handler σ} {i : ℕ}
    {ms ms' : MonitorSet σ} {es : List Event} {out : Outcome} (hs : Scanned c h i ms es ms' out)
    (hout : out ≠ .crashed) : es.countP Event.isSpent = if out = .quiet then 0 else 1 := by
  induction hs with
  | nil => rfl
  | passed hm _ ih =>
    obtain ⟨-, -, hspent⟩ := hm.checkups_self nofun
    rw [List.countP_append, hspent, ih hout, if_neg nofun, Nat.zero_add]
  | exceeded hm =>
    obtain ⟨-, -, hspent⟩ := hm.checkups_self nofun
    rw [hspent, if_pos rfl, if_neg nofun]
  | crashed => exact absurd rfl hout

/-! ### Turns -/

/-- What follows a pass: hook and handler if it stopped at a monitor. -/
def FollowedBy (out : Outcome) (tail : List Event) : Prop :=
  out = .quiet ∧ tail = [] ∨
    out ≠ .quiet ∧ ∃ name handler success, tail = [.diagnosed name, .handled handler success]

/-- Nothing else is called in it, and nothing is reported. -/
theorem FollowedBy.counts {out : Outcome} {tail : List Event} (h : FollowedBy out tail) :
    reportsSpent tail = false ∧ (∀ i, checkups i tail = []) ∧ (∀ i, timesCalled i tail = 0) ∧
      tail.countP Event.isEnabled = 0 ∧ tail.countP Event.isSpent = 0 ∧
      tail.countP Event.isDiagnosed = (if out = .quiet then 0 else 1) ∧
      tail.countP Event.isHandled = if out = .quiet then 0 else 1 := by
  rcases h with ⟨rfl, rfl⟩ | ⟨hne, name, handler, success, rfl⟩
  · exact ⟨rfl, fun _ => rfl, fun _ => rfl, rfl, rfl, rfl, rfl⟩
  · rw [if_neg hne]
    exact ⟨rfl, fun _ => rfl, fun _ => rfl, rfl, rfl, rfl, rfl⟩

theorem Scanned.balanced {c : Configuration σ} {h : Handler σ} {ms ms' : MonitorSet σ}
    {es tail : List Event} {out : Outcome} (hs : Scanned c h 0 ms es ms' out)
    (hout : out ≠ .crashed) (hms : ms ≠ []) (htail : FollowedBy out tail) (on : Option Bool) :
    Balanced ms.length (.watchdogRead (some true) :: .enforcementRead on :: (es ++ tail)) := by
  have absent {p : Event → Bool} (hp : ∀ e, e.ofPass = true → p e = false) : es.countP p = 0 :=
    List.countP_eq_zero.2 fun e he => by simp [hp e (hs.ofPass e he)]
  have henabled := absent fun e he => (Event.uncounted_of_ofPass he).1
  have hdiagnosed := absent fun e he => (Event.uncounted_of_ofPass he).2.1
  have hhandled := absent fun e he => (Event.uncounted_of_ofPass he).2.2
  obtain ⟨hmute, hcheckups, hcalled, htailEnabled, htailSpent, htailDiagnosed, htailHandled⟩ :=
    htail.counts
  rw [← hs.countP_isSpent hout] at htailDiagnosed htailHandled
  have called (i : ℕ) : timesCalled i
      (.watchdogRead (some true) :: .enforcementRead on :: (es ++ tail)) = timesCalled i es := by
    rw [← Nat.add_zero (timesCalled i es), ← hcalled i, ← timesCalled_append]
    simp [timesCalled, Event.isCallOf]
  have checkups_eq (i : ℕ) : checkups i
      (.watchdogRead (some true) :: .enforcementRead on :: (es ++ tail)) = checkups i es := by
    rw [← List.append_nil (checkups i es), ← hcheckups i, ← checkups_append hmute]
    rfl
  have fired (i : ℕ) : timesFired i
      (.watchdogRead (some true) :: .enforcementRead on :: (es ++ tail)) = timesFired i es := by
    rw [timesFired, checkups_eq, timesFired]
  constructor
  · intro i
    rw [called, checkups_eq, hs.length_checkups hout]
  · rw [called, hs.timesCalled_first hms]
    simp [List.countP_cons, Event.isEnabled, henabled, htailEnabled]
  · intro i hi
    rw [called, called, fired]
    have hsucc := hs.timesCalled_succ hout hi
    rwa [Nat.zero_add] at hsucc
  · rw [Finset.sum_congr rfl fun i _ => fired i]
    simpa [Event.isSpent, List.countP_append, htailSpent] using hs.sum_timesFired hout
  · simp [Event.isDiagnosed, Event.isSpent, List.countP_append, hdiagnosed, htailDiagnosed,
      htailSpent]
  · simp [Event.isHandled, Event.isSpent, List.countP_append, hhandled, htailHandled, htailSpent]

theorem Watched.balanced {s : Surroundings σ} {ms ms' : MonitorSet σ} {es : List Event}
    {success : Bool} (hw : Watched s ms es ms' (some success)) (hms : ms ≠ []) :
    Balanced ms.length es := by
  cases hw with
  | off => exact .of_idle (by simp [Event.isIdle])
  | on ht =>
    cases ht with
    | quiet hs => simpa using hs.balanced nofun hms (.inl ⟨rfl, rfl⟩) _
    | remedied hs _ hr =>
      cases hr with
      | answered => exact hs.balanced nofun hms (.inr ⟨nofun, _, _, _, rfl⟩) _

theorem Turned.balanced {s : Surroundings σ} {ms ms' : MonitorSet σ} {es : List Event}
    {e : Option Ending} (ht : Turned s ms es ms' e) (he : e ≠ some .crashed) :
    Balanced ms.length es := by
  cases ht with
  | stopped => exact .of_idle (by simp)
  | empty => exact .of_idle (by simp)
  | crashed => exact absurd rfl he
  | handled hms hw => exact hw.balanced hms
  | rested hms hw => exact (hw.balanced hms).append (.of_idle (by simp [Event.isIdle])) rfl

/-- In turns that do not crash, what is called and what is reported come out even. -/
theorem Took.balanced {s : Surroundings σ} {ms ms' : MonitorSet σ} {es : List Event} {e : Ending}
    (ht : Took s ms es ms' e) (he : e ≠ .crashed) : Balanced ms.length es := by
  induction ht with
  | unfinished => exact .of_idle (by simp)
  | last ht => exact ht.balanced (by simpa using he)
  | next ht hts ih =>
    have hlength := MonitorSet.length_eq_of_map_descriptor ht.map_descriptor
    exact (ht.balanced nofun).append (hlength ▸ ih he) hts.reportsSpent_eq

/-! ### Where each call is a violation -/

/-- Unless something crashes, a monitor keeps its limit. -/
theorem Counted.limit_eq {broken mute : Prop} {st st' : Strikes} {cs : List Checkup}
    (hc : Counted broken mute st cs st') (hb : ¬ broken) : st'.limit = st.limit := by
  cases hc with
  | torn hbroken => exact absurd hbroken hb
  | _ => rfl

/-- As long as each call is a violation, the calls of a monitor since its last report are its
strikes, and it is reported whenever they are one more than its limit. -/
theorem Counted.length_add {broken mute : Prop} {st st' : Strikes} {cs : List Checkup}
    (hc : Counted broken mute st cs st') (hb : ¬ broken) (hlimit : st.limit ≠ Strikes.top)
    (hst : st.exceeded = false) (hcs : ∀ c ∈ cs, c.violated = true) :
    cs.length + st.count.toNat =
      cs.countP Checkup.spent * (st.limit.toNat + 1) + st'.count.toNat := by
  have hwithin : ¬ st.limit.toNat < st.count.toNat := by
    rw [← Strikes.exceeded_iff, hst]
    nofun
  have htop : st.limit.toNat < Strikes.top.toNat := by
    have hne : st.limit.toNat ≠ Strikes.top.toNat := fun h => hlimit (UInt32.toNat_inj.1 h)
    have hlt := st.limit.toNat_lt
    have heq : Strikes.top.toNat = 4294967295 := rfl
    omega
  cases hc with
  | skipped => simp
  | @passed violated =>
    obtain rfl : violated = true := by simpa using hcs
    rw [Strikes.toNat_count_record_true]
    simp
    omega
  | spent hexceeded =>
    have hcount := Strikes.toNat_count_of_exceeded hst hexceeded
    rw [Strikes.toNat_count_record_true] at hcount
    simp
    omega
  | torn hbroken => exact absurd hbroken hb

theorem Took.length_add {s : Surroundings σ} {ms ms' : MonitorSet σ} {es : List Event}
    {e : Ending} (ht : Took s ms es ms' e) (he : e ≠ .crashed) {i : ℕ} {m : Registered σ}
    (hm : ms[i]? = some m) (hlimit : m.strikes.limit ≠ Strikes.top)
    (hst : m.strikes.exceeded = false) (hcs : ∀ c ∈ checkups i es, c.violated = true) :
    ∃ m', ms'[i]? = some m' ∧ m'.strikes.limit = m.strikes.limit ∧
      m'.strikes.exceeded = false ∧
      (checkups i es).length + m.strikes.count.toNat =
        timesFired i es * (m.strikes.limit.toNat + 1) + m'.strikes.count.toNat := by
  induction ht generalizing m with
  | unfinished => exact ⟨m, hm, rfl, hst, by rw [timesFired_nil, Nat.zero_mul]; rfl⟩
  | last ht =>
    obtain ⟨m', hm', hcounted⟩ := ht.counted hm
    have hcrash := fun h => he (Option.some.inj h)
    exact ⟨m', hm', hcounted.limit_eq hcrash, hcounted.within hcrash hst,
      hcounted.length_add hcrash hlimit hst hcs⟩
  | next ht hts ih =>
    rw [checkups_append hts.reportsSpent_eq] at hcs ⊢
    obtain ⟨hcs₁, hcs₂⟩ := List.forall_mem_append.1 hcs
    obtain ⟨m₁, hm₁, hcounted⟩ := ht.counted hm
    have hlimit₁ := hcounted.limit_eq nofun
    have heq₁ := hcounted.length_add nofun hlimit hst hcs₁
    obtain ⟨m', hm', hlimit', hst', heq⟩ :=
      ih he hm₁ (hlimit₁ ▸ hlimit) (hcounted.within nofun hst) hcs₂
    rw [hlimit₁] at hlimit' heq
    refine ⟨m', hm', hlimit', hst', ?_⟩
    rw [List.length_append, timesFired_append hts.reportsSpent_eq, Nat.add_mul]
    unfold timesFired at *
    omega

end Loop

/-- How often monitors are called if the first is called `n` times, all start without strikes, and
each call is a violation: of so many calls of a monitor one is reported, and the rest go on to the
next monitor. -/
def cascade (limit : ℕ → ℕ) (n : ℕ) : ℕ → ℕ
  | 0 => n
  | i + 1 => cascade limit n i - cascade limit n i / (limit i + 1)

/-- Nothing goes past a monitor that tolerates no strike. -/
theorem cascade_eq_zero {limit : ℕ → ℕ} (n : ℕ) {i j : ℕ} (hj : j < i) (hlimit : limit j = 0) :
    cascade limit n i = 0 := by
  induction i with
  | zero => omega
  | succ i ih =>
    rw [cascade]
    rcases Nat.lt_succ_iff_lt_or_eq.1 hj with hlt | rfl
    · rw [ih hlt, Nat.zero_sub]
    · rw [hlimit, Nat.zero_add, Nat.div_one, Nat.sub_self]

/-- The limit of the monitor with the index `i`. -/
def MonitorSet.limitAt (ms : MonitorSet σ) (i : ℕ) : ℕ :=
  (ms[i]?.map fun m => m.strikes.limit.toNat).getD 0

theorem MonitorSet.limitAt_eq {ms : MonitorSet σ} {i : ℕ} {m : Registered σ} (h : ms[i]? = some m) :
    ms.limitAt i = m.strikes.limit.toNat := by
  rw [limitAt, h]
  rfl

theorem reportsSpent_of_idle {es : List Event} (hes : ∀ e ∈ es, e.isIdle = true) :
    reportsSpent es = false := by
  induction es with
  | nil => rfl
  | cons e es ih =>
    obtain ⟨he, hes⟩ := List.forall_mem_cons.1 hes
    rw [← ih hes]
    revert he
    fun_cases Event.isIdle e <;> simp [reportsSpent]

namespace Loop

/-! ### Runs -/

/-- Turns that do not crash, between idle events: what happens, and the monitors after it. -/
inductive Spanned (s : Surroundings σ) (ms : MonitorSet σ) : List Event → MonitorSet σ → Prop
  | intro {pre mid post : List Event} {ms' : MonitorSet σ} {e : Ending}
      (hpre : ∀ ev ∈ pre, ev.isIdle = true) (ht : Took s ms mid ms' e) (he : e ≠ .crashed)
      (hpost : ∀ ev ∈ post, ev.isIdle = true) : Spanned s ms (pre ++ (mid ++ post)) ms'

theorem Spanned.balanced {s : Surroundings σ} {ms ms' : MonitorSet σ} {es : List Event}
    (hs : Spanned s ms es ms') : Balanced ms.length es := by
  obtain ⟨hpre, ht, he, hpost⟩ := hs
  have hmute := reportsSpent_of_idle hpost
  refine (Balanced.of_idle hpre).append ((ht.balanced he).append (.of_idle hpost) hmute) ?_
  rw [reportsSpent_append hmute, ht.reportsSpent_eq]

/-- The calls of a monitor are those in the turns. -/
theorem Spanned.exists_took {s : Surroundings σ} {ms ms' : MonitorSet σ} {es : List Event}
    (hs : Spanned s ms es ms') :
    ∃ mid e, Took s ms mid ms' e ∧ e ≠ .crashed ∧ ∀ i, checkups i es = checkups i mid := by
  obtain ⟨hpre, ht, he, hpost⟩ := hs
  refine ⟨_, _, ht, he, fun i => ?_⟩
  have hmute := reportsSpent_of_idle hpost
  rw [checkups_append (by rw [reportsSpent_append hmute, ht.reportsSpent_eq]),
    checkups_append hmute, Balanced.checkups_of_idle hpre, Balanced.checkups_of_idle hpost,
    List.nil_append, List.append_nil]

/-- Where each call of a monitor is a violation, its limit and its calls tell how often it was
reported, and its strikes. -/
theorem Spanned.timesFired_eq {s : Surroundings σ} {ms ms' : MonitorSet σ} {es : List Event}
    (hs : Spanned s ms es ms') {i : ℕ} {m : Registered σ} (hm : ms[i]? = some m)
    (hcount : m.strikes.count = 0) (hlimit : m.strikes.limit ≠ Strikes.top)
    (hcs : ∀ c ∈ checkups i es, c.violated = true) :
    timesFired i es = timesCalled i es / (m.strikes.limit.toNat + 1) ∧
      ∃ m', ms'[i]? = some m' ∧
        m'.strikes.count.toNat = timesCalled i es % (m.strikes.limit.toNat + 1) := by
  rw [← hs.balanced.answered i]
  obtain ⟨mid, e, ht, he, hcheckups⟩ := hs.exists_took
  rw [timesFired]
  rw [hcheckups i] at hcs ⊢
  have hst : m.strikes.exceeded = false := by simp [Strikes.exceeded, hcount]
  obtain ⟨m', hm', hlimit', hst', heq⟩ := ht.length_add he hm hlimit hst hcs
  -- The strikes that are left over are fewer than it takes for a report.
  have hlt : m'.strikes.count.toNat < m.strikes.limit.toNat + 1 := by
    rw [← hlimit', Nat.lt_succ_iff]
    exact UInt32.le_iff_toNat_le.1 (Strikes.exceeded_eq_false_iff.1 hst')
  rw [hcount, UInt32.toNat_zero, Nat.add_zero, timesFired, Nat.mul_comm, Nat.add_comm] at heq
  obtain ⟨hdiv, hmod⟩ := (Nat.div_mod_unique (Nat.succ_pos _)).2 ⟨heq.symm, hlt⟩
  exact ⟨hdiv.symm, m', hm', hmod.symm⟩

end Loop

namespace Watchdog

theorem Announced.isIdle {d : Watchdog σ} {notice : String → Notice} {es : List Event}
    {told : Option Unit} (h : Announced d notice es told)
    (hn : ∀ name, (Event.reported (notice name)).isIdle = true) : ∀ e ∈ es, e.isIdle = true := by
  cases h with
  | unread => simp [Event.isIdle]
  | reported => simpa [Event.isIdle] using hn _

theorem Held.spanned {d : Watchdog σ} {es : List Event} {ms : MonitorSet σ} {e : Ending}
    (h : Held d es ms e) (he : e ≠ .crashed) :
    Loop.Spanned d.surroundings d.configuration.monitors es ms := by
  cases h with
  | unopened => exact absurd rfl he
  | @unclosed es es' _ _ ho ht =>
    rw [← List.append_nil es']
    exact .intro (ho.isIdle fun _ => rfl) ht he (List.forall_mem_nil _)
  | closed ho ht hc =>
    rw [List.append_assoc]
    exact .intro (ho.isIdle fun _ => rfl) ht nofun (hc.isIdle fun _ => rfl)

/-- A run that does not crash is turns between reports; in one that is refused nothing happens. -/
theorem spanned_of_run {d : Watchdog σ} {allowed : ℕ} {w : σ}
    (hr : (d.run allowed w).result ≠ .crashed) :
    Loop.Spanned d.surroundings d.configuration.monitors (d.run allowed w).events
      (d.run allowed w).watchdog.configuration.monitors := by
  by_cases hd : d.Ready
  · obtain ⟨e, hheld, hresult⟩ := held_of_ready hd allowed w
    refine hheld.spanned ?_
    rintro rfl
    exact hr hresult
  · obtain ⟨fault, hrun⟩ := run_of_not_ready hd allowed w
    rw [hrun]
    exact .intro (List.forall_mem_nil _) (.unfinished _) nofun (List.forall_mem_nil _)

/-- **Conservation of calls.**  What is called and what is reported in a run come out even.  Where
all monitors start without strikes and each call is a violation, calls, reports, and the strikes at
the end are those of the cascade. -/
theorem calls_conserved {d : Watchdog σ} {allowed : ℕ} {w : σ}
    (hr : (d.run allowed w).result ≠ .crashed) :
    let ms := d.configuration.monitors
    let es := (d.run allowed w).events
    Balanced ms.length es ∧
      ((∀ m ∈ ms, m.strikes.count = 0 ∧ m.strikes.limit ≠ Strikes.top) →
        (∀ i < ms.length, ∀ c ∈ checkups i es, c.violated = true) →
        ∀ i < ms.length,
          let calls := cascade ms.limitAt (es.countP Event.isEnabled) i
          timesCalled i es = calls ∧
            timesFired i es = calls / (ms.limitAt i + 1) ∧
            (∃ m, (d.run allowed w).watchdog.configuration.monitors[i]? = some m ∧
              m.strikes.count.toNat = calls % (ms.limitAt i + 1)) ∧
            ∀ j < i, ms.limitAt j = 0 → timesCalled i es = 0) := by
  intro ms es
  have hspanned := spanned_of_run hr
  refine ⟨hspanned.balanced, fun hms hviolated => ?_⟩
  have hfired (i : ℕ) (hi : i < ms.length) :
      timesFired i es = timesCalled i es / (ms.limitAt i + 1) ∧
        ∃ m, (d.run allowed w).watchdog.configuration.monitors[i]? = some m ∧
          m.strikes.count.toNat = timesCalled i es % (ms.limitAt i + 1) := by
    have hm := List.getElem?_eq_getElem hi
    obtain ⟨hcount, hlimit⟩ := hms _ (List.getElem_mem hi)
    rw [MonitorSet.limitAt_eq hm]
    exact hspanned.timesFired_eq hm hcount hlimit (hviolated i hi)
  have hcalled (i : ℕ) (hi : i < ms.length) :
      timesCalled i es = cascade ms.limitAt (es.countP Event.isEnabled) i := by
    induction i with
    | zero => exact hspanned.balanced.timesCalled_zero
    | succ i ih =>
      rw [cascade, ← ih (by omega), ← (hfired i (by omega)).1,
        ← hspanned.balanced.timesCalled_succ i hi, Nat.add_sub_cancel]
  intro i hi calls
  obtain ⟨hfired, hcount⟩ := hfired i hi
  rw [hcalled i hi] at hfired hcount ⊢
  exact ⟨rfl, hfired, hcount, fun j hj hlimit => cascade_eq_zero _ hj hlimit⟩

/-- A watchdog over monitors with the given limits that see a violation at each call. -/
def row (limits : List UInt32) : Watchdog ℕ :=
  (small none).withMonitors (limits.map fun limit => ⟨(alarm none).monitor, { limit }⟩)

/-- Behind a monitor that tolerates a strike and one that tolerates none, the last of three is not
called in five turns. -/
theorem row_calls_conserved :
    Balanced 3 ((row [1, 0, 7]).run 5 0).events ∧
      timesCalled 1 ((row [1, 0, 7]).run 5 0).events = 3 ∧
      timesFired 1 ((row [1, 0, 7]).run 5 0).events = 3 ∧
      timesCalled 2 ((row [1, 0, 7]).run 5 0).events = 0 := by
  have hr : ((row [1, 0, 7]).run 5 0).result = .unfinished := rfl
  have hne : ((row [1, 0, 7]).run 5 0).result ≠ .crashed := by
    rw [hr]
    nofun
  obtain ⟨hbalanced, hcascade⟩ := calls_conserved hne
  have hcascade := hcascade (by decide) (by decide)
  obtain ⟨hcalled, hfired, -⟩ := hcascade 1 (by decide)
  obtain ⟨-, -, -, hlast⟩ := hcascade 2 (by decide)
  exact ⟨hbalanced, hcalled, hfired, hlast 1 (by decide) rfl⟩

end Watchdog

end Vigil
