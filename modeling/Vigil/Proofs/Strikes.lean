import Mathlib.Data.List.Basic
import Vigil.Monitor

/-!
# Strikes and violations in a row

The monitors of a set are called, and their strikes forgotten, in any order and as often as one
likes.  The strikes of a monitor are the violations in a row that it saw, up to the largest number
that can be counted.

* `Occasion`, `row`: what bears on the strikes of a monitor, and the violations in a row;
* `MonitorSet.Operation`, `MonitorSet.Course`: what is done with a set, and what has come of it;
* `MonitorSet.Course.perform_cases`: what one operation can do;
* `MonitorSet.Tallied`: how a monitor and its past belong together;
* `MonitorSet.strikes_eq_row`: the law of a course.
-/

namespace Vigil

variable {σ : Type}

/-! ### Occasions -/

/-- Something that bears on the strikes of a monitor: it was called and answered, or its strikes
were forgotten. -/
inductive Occasion where
  | answered (violated : Bool)
  | forgotten
  deriving DecidableEq, Repr

/-- How many violations in a row there were last. -/
def row (os : List Occasion) : ℕ := (os.reverse.takeWhile (· = .answered true)).length

@[simp] theorem row_nil : row [] = 0 := rfl

theorem row_concat (os : List Occasion) (o : Occasion) :
    row (os ++ [o]) = if o = .answered true then row os + 1 else 0 := by
  unfold row
  rw [List.reverse_append, List.reverse_singleton, List.singleton_append, List.takeWhile_cons]
  simp only [decide_eq_true_eq]
  split <;> rfl

theorem row_append_replicate (os : List Occasion) (n : ℕ) :
    row (os ++ List.replicate n (.answered true)) = row os + n := by
  induction n with
  | zero => rw [List.replicate_zero, List.append_nil, Nat.add_zero]
  | succ n ih =>
    rw [List.replicate_succ', ← List.append_assoc, row_concat, if_pos rfl, ih, Nat.add_assoc]

/-- The strikes after an occasion. -/
def Strikes.meet (s : Strikes) : Occasion → Strikes
  | .answered violated => s.record violated
  | .forgotten => s.reset

@[simp]
theorem Strikes.limit_meet (s : Strikes) (o : Occasion) : (s.meet o).limit = s.limit := by
  cases o <;> rfl

/-- A count that agrees with the violations in a row still does after an occasion. -/
theorem Strikes.toNat_count_meet {s : Strikes} {os : List Occasion}
    (h : s.count.toNat = min top.toNat (row os)) (o : Occasion) :
    (s.meet o).count.toNat = min top.toNat (row (os ++ [o])) := by
  rw [row_concat]
  cases o with
  | forgotten => rfl
  | answered violated =>
    cases violated with
    | false => rfl
    | true =>
      rw [if_pos rfl, meet, toNat_count_record_true, h]
      omega

/-- A monitor after an occasion. -/
def Registered.meet (m : Registered σ) (o : Occasion) : Registered σ :=
  { m with strikes := m.strikes.meet o }

namespace MonitorSet

/-! ### Operations -/

/-- What is done with the monitor with an index: it is called, or its strikes are forgotten. -/
inductive Operation where
  | call (index : ℕ)
  | reset (index : ℕ)
  deriving DecidableEq, Repr

/-- A set in its world, and what has borne on the strikes of its monitors so far, each time with the
index of the monitor. -/
structure Course (σ : Type) where
  monitors : MonitorSet σ
  world : σ
  past : List (ℕ × Occasion) := []

namespace Course

/-- The occasions of the monitor with an index. -/
def occasions (c : Course σ) (i : ℕ) : List Occasion :=
  (c.past.filter fun e => e.1 = i).map (·.2)

/-- Do something with a monitor.  A call that is not answered leaves all strikes as they are. -/
def perform (c : Course σ) : Operation → Course σ
  | .call i =>
    match c.monitors.call i c.world with
    | none => c
    | some r =>
      match r.value with
      | none => { c with world := r.world }
      | some (v, ms) => ⟨ms, r.world, c.past ++ [(i, .answered v.violated)]⟩
  | .reset i => ⟨c.monitors.reset i, c.world, c.past ++ [(i, .forgotten)]⟩

/-- One operation after another. -/
def performAll (c : Course σ) (ops : List Operation) : Course σ := ops.foldl perform c

theorem occasions_concat {c c' : Course σ} {j : ℕ} {o : Occasion}
    (h : c'.past = c.past ++ [(j, o)]) (i : ℕ) :
    c'.occasions i = if j = i then c.occasions i ++ [o] else c.occasions i := by
  rw [occasions, h, List.filter_append, List.map_append]
  by_cases hj : j = i
  · simp [occasions, hj]
  · simp [occasions, hj]

/-- An operation leaves the monitors and the past as they are, or it adds an occasion, and the
monitor whose occasion that is meets it. -/
theorem perform_cases (c : Course σ) (op : Operation) :
    (c.perform op).monitors = c.monitors ∧ (c.perform op).past = c.past ∨
      ∃ j o, (c.perform op).monitors = List.modify c.monitors j (·.meet o) ∧
        (c.perform op).past = c.past ++ [(j, o)] := by
  cases op with
  | reset j => exact .inr ⟨j, .forgotten, rfl, rfl⟩
  | call j =>
    simp only [perform, MonitorSet.call]
    cases hm : c.monitors[j]? with
    | none => exact .inl ⟨rfl, rfl⟩
    | some m =>
      cases hv : (m.monitor.check c.world).value with
      | none => simp [hv]
      | some v =>
        refine .inr ⟨j, .answered v.violated, ?_, by simp [hv]⟩
        simp only [Option.bind_eq_bind, Option.bind_some, hv, Option.map_some]
        rw [List.modify_eq_set_getElem?, hm]
        rfl

end Course

/-! ### The law of a course -/

/-- How a monitor that began as `m` and the occasions that it met belong together. -/
structure Tallied (m : Registered σ) (os : List Occasion) (m' : Registered σ) : Prop where
  monitor_eq : m'.monitor = m.monitor
  limit_eq : m'.strikes.limit = m.strikes.limit
  count_eq : m'.strikes.count.toNat = min Strikes.top.toNat (row os)

namespace Tallied

variable {m m' : Registered σ} {os : List Occasion}

theorem start (h : m.strikes.count = 0) : Tallied m [] m where
  monitor_eq := rfl
  limit_eq := rfl
  count_eq := by rw [h]; rfl

theorem meet (h : Tallied m os m') (o : Occasion) : Tallied m (os ++ [o]) (m'.meet o) where
  monitor_eq := h.monitor_eq
  limit_eq := (Strikes.limit_meet _ o).trans h.limit_eq
  count_eq := Strikes.toNat_count_meet h.count_eq o

/-- What the limit tolerates can be counted unless it is the largest number. -/
theorem exceeded_iff (h : Tallied m os m') :
    m'.strikes.exceeded = true ↔ m.strikes.limit ≠ Strikes.top ∧ m.strikes.limit.toNat < row os := by
  have htop : Strikes.top.toNat = 4294967295 := rfl
  have hlt := m.strikes.limit.toNat_lt
  rw [Strikes.exceeded_iff, h.limit_eq, h.count_eq, Ne, ← UInt32.toNat_inj, htop]
  omega

end Tallied

namespace Course

theorem perform_tallied {c : Course σ} {i : ℕ} {m m' : Registered σ}
    (hm : c.monitors[i]? = some m') (h : Tallied m (c.occasions i) m') (op : Operation) :
    ∃ m'', (c.perform op).monitors[i]? = some m'' ∧
      Tallied m ((c.perform op).occasions i) m'' := by
  obtain ⟨hmonitors, hpast⟩ | ⟨j, o, hmonitors, hpast⟩ := c.perform_cases op
  · refine ⟨m', hmonitors ▸ hm, ?_⟩
    rwa [occasions, hpast, ← occasions]
  · rw [occasions_concat hpast, hmonitors]
    by_cases hj : j = i
    · subst hj
      refine ⟨m'.meet o, ?_, ?_⟩
      · rw [List.getElem?_modify_eq, hm]
        rfl
      · rw [if_pos rfl]
        exact h.meet o
    · rw [List.getElem?_modify_ne _ _ hj, if_neg hj]
      exact ⟨m', hm, h⟩

theorem performAll_tallied {c : Course σ} {i : ℕ} {m m' : Registered σ}
    (hm : c.monitors[i]? = some m') (h : Tallied m (c.occasions i) m') (ops : List Operation) :
    ∃ m'', (c.performAll ops).monitors[i]? = some m'' ∧
      Tallied m ((c.performAll ops).occasions i) m'' := by
  induction ops generalizing c m' with
  | nil => exact ⟨m', hm, h⟩
  | cons op ops ih =>
    obtain ⟨m'', hm'', h''⟩ := perform_tallied hm h op
    exact ih hm'' h''

end Course

/-- **Strikes are violations in a row.**  Whatever is done with the monitors of a set, and however
often, a monitor that began without strikes keeps its name and its limit, its strikes are the
violations in a row that it saw, up to the largest number of 32 bits, and they have gone past its
limit just if those violations have.  With the largest limit that never happens.  Once it has, it
stays so as long as the monitor sees nothing but violations. -/
theorem strikes_eq_row {ms : MonitorSet σ} {i : ℕ} {m : Registered σ} (hm : ms[i]? = some m)
    (h0 : m.strikes.count = 0) (w : σ) (ops : List Operation) :
    let c := Course.performAll ⟨ms, w, []⟩ ops
    ∃ m', c.monitors[i]? = some m' ∧ m'.name = m.name ∧ m'.monitor = m.monitor ∧
      m'.strikes.limit = m.strikes.limit ∧
      m'.strikes.count.toNat = min Strikes.top.toNat (row (c.occasions i)) ∧
      (m.strikes.limit ≠ Strikes.top →
        (m'.strikes.exceeded = true ↔ m.strikes.limit.toNat < row (c.occasions i))) ∧
      (m.strikes.limit = Strikes.top → m'.strikes.exceeded = false) ∧
      (m'.strikes.exceeded = true → ∀ ops' n,
        (c.performAll ops').occasions i =
          c.occasions i ++ List.replicate n (.answered true) →
        ∃ m'', (c.performAll ops').monitors[i]? = some m'' ∧ m''.strikes.exceeded = true) := by
  intro c
  obtain ⟨m', hm', h⟩ : ∃ m', c.monitors[i]? = some m' ∧ Tallied m (c.occasions i) m' :=
    Course.performAll_tallied hm (.start h0) ops
  refine ⟨m', hm', congrArg Monitor.name h.monitor_eq, h.monitor_eq, h.limit_eq, h.count_eq,
    fun hlimit => ?_, fun hlimit => ?_, fun hexceeded ops' n hmore => ?_⟩
  · rw [h.exceeded_iff, and_iff_right hlimit]
  · rw [← Bool.not_eq_true, h.exceeded_iff]
    exact fun hexceeded => hexceeded.1 hlimit
  · obtain ⟨m'', hm'', h''⟩ := Course.performAll_tallied hm' h ops'
    rw [hmore] at h''
    obtain ⟨hlimit, hrow⟩ := h.exceeded_iff.1 hexceeded
    refine ⟨m'', hm'', h''.exceeded_iff.2 ⟨hlimit, ?_⟩⟩
    rw [row_append_replicate]
    omega

/-- A lamp that never sees a violation, and a siren that always does and tolerates one. -/
def lampAndSiren : MonitorSet Unit :=
  [⟨⟨"lamp", fun w => ⟨some .ok, false, w⟩⟩, { limit := 0 }⟩,
   ⟨⟨"siren", fun w => ⟨some .violation, false, w⟩⟩, { limit := 1 }⟩]

/-- The siren has gone past its limit at the second violation since its strikes were forgotten, and
is still past it after the third. -/
theorem siren_strikes_eq_row :
    let c := Course.performAll ⟨lampAndSiren, (), []⟩
      [.call 1, .reset 1, .call 1, .call 0, .reset 0, .call 1]
    lampAndSiren[1]?.map (·.strikes) = some { limit := 1 } ∧ row (c.occasions 1) = 2 ∧
      (∃ m', c.monitors[1]? = some m' ∧ m'.strikes.count.toNat = 2 ∧
        m'.strikes.exceeded = true) ∧
      ∃ m', (c.performAll [.call 0, .call 1]).monitors[1]? = some m' ∧
        m'.strikes.exceeded = true := by
  intro c
  have hsiren : lampAndSiren[1]? = some _ := rfl
  obtain ⟨m', hm', -, -, -, hcount, hexceeded, -, hstays⟩ :=
    strikes_eq_row hsiren rfl () [.call 1, .reset 1, .call 1, .call 0, .reset 0, .call 1]
  have hpast : m'.strikes.exceeded = true := (hexceeded (by decide)).2 (by decide)
  exact ⟨rfl, by decide, ⟨m', hm', hcount, hpast⟩, hstays hpast [.call 0, .call 1] 1 rfl⟩

end MonitorSet

end Vigil
