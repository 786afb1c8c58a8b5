import Vigil.Proofs.Watchdog.Conservation

/-!
# No monitor starves

A monitor that fires hides the turn from those after it.  One that tolerates a strike does not fire
at two of its calls in a row: after it has fired it has no strikes, and the next violation is only
its first.  So at least half of its calls go on to the next monitor.

* `Strikes.credit`: what is paid ahead for the next time that a monitor fires;
* `Counted.timesFired_le`, `Took.timesFired_le`: each time takes two calls, and one of them may be
  paid ahead;
* `Spanned.le_timesCalled`: how often a monitor is called at least;
* `called_of_enabled`: in any window of a run.
-/

namespace Vigil

variable {σ : Type}

/-- A monitor that has strikes can fire one call earlier. -/
def Strikes.credit (st : Strikes) : ℕ := if st.count = 0 then 0 else 1

theorem Strikes.credit_le (st : Strikes) : st.credit ≤ 1 := by
  unfold credit
  split <;> omega

/-- A monitor that tolerates a strike has one before it fires. -/
theorem Strikes.credit_of_exceeded {st : Strikes} (hlimit : 1 ≤ st.limit.toNat)
    (h : (st.record true).exceeded = true) : st.credit = 1 := by
  refine if_neg fun hcount => ?_
  rw [exceeded_iff, limit_record, toNat_count_record_true, hcount, UInt32.toNat_zero] at h
  omega

/-- The monitors are the same, and so are their limits. -/
theorem MonitorSet.limitAt_of_map_descriptor {ms ms' : MonitorSet σ}
    (h : ms'.map Registered.descriptor = ms.map Registered.descriptor) (i : ℕ) :
    ms'.limitAt i = ms.limitAt i := by
  have heq (ms : MonitorSet σ) : ms.limitAt i =
      (((ms.map Registered.descriptor)[i]?).map fun p => p.2.toNat).getD 0 := by
    rw [List.getElem?_map, Option.map_map]
    rfl
  rw [heq, heq, h]

namespace Loop

/-! ### Two calls for each time -/

theorem Counted.timesFired_le {broken mute : Prop} {st st' : Strikes} {cs : List Checkup}
    (hc : Counted broken mute st cs st') (hb : ¬ broken) (hlimit : 1 ≤ st.limit.toNat) :
    2 * cs.countP Checkup.spent + st'.credit ≤ cs.length + st.credit := by
  cases hc with
  | skipped => simp
  | @passed violated =>
    have hcredit := (st.record violated).credit_le
    simp
    omega
  | spent hexceeded =>
    rw [Strikes.credit_of_exceeded hlimit hexceeded]
    simp [Strikes.credit]
  | torn hbroken => exact absurd hbroken hb

theorem Took.timesFired_le {s : Surroundings σ} {ms ms' : MonitorSet σ} {es : List Event}
    {e : Ending} (ht : Took s ms es ms' e) (he : e ≠ .crashed) {i : ℕ} {m : Registered σ}
    (hm : ms[i]? = some m) (hlimit : 1 ≤ m.strikes.limit.toNat) :
    ∃ m', ms'[i]? = some m' ∧
      2 * timesFired i es + m'.strikes.credit ≤ (checkups i es).length + m.strikes.credit := by
  induction ht generalizing m with
  | unfinished => exact ⟨m, hm, Nat.le_refl _⟩
  | last ht =>
    obtain ⟨m', hm', hcounted⟩ := ht.counted hm
    exact ⟨m', hm', hcounted.timesFired_le (fun h => he (Option.some.inj h)) hlimit⟩
  | next ht hts ih =>
    obtain ⟨m₁, hm₁, hcounted⟩ := ht.counted hm
    have hfirst := hcounted.timesFired_le nofun hlimit
    obtain ⟨m', hm', hrest⟩ := ih he hm₁ (by rwa [hcounted.limit_eq nofun])
    refine ⟨m', hm', ?_⟩
    rw [checkups_append hts.reportsSpent_eq, timesFired_append hts.reportsSpent_eq,
      List.length_append]
    unfold timesFired at *
    omega

/-! ### Windows -/

/-- At least half of the calls of a monitor that tolerates a strike go on to the next. -/
theorem Spanned.half_le_timesCalled {s : Surroundings σ} {ms ms' : MonitorSet σ} {es : List Event}
    (hs : Spanned s ms es ms') {i : ℕ} (hi : i + 1 < ms.length) (hlimit : 1 ≤ ms.limitAt i) :
    timesCalled i es / 2 ≤ timesCalled (i + 1) es := by
  obtain ⟨m, hm⟩ : ∃ m, ms[i]? = some m := ⟨_, List.getElem?_eq_getElem (Nat.lt_of_succ_lt hi)⟩
  rw [MonitorSet.limitAt_eq hm] at hlimit
  have hcalled := hs.balanced.timesCalled_succ i hi
  have hanswered := hs.balanced.answered i
  obtain ⟨mid, e, ht, he, hcheckups⟩ := hs.exists_took
  obtain ⟨m', -, hfired⟩ := ht.timesFired_le he hm hlimit
  have hcredit := m.strikes.credit_le
  rw [timesFired, ← hcheckups, ← timesFired, hanswered] at hfired
  omega

/-- A monitor is called at least once for each `2 ^ i` turns with the switch on, if those before it
tolerate a strike. -/
theorem Spanned.le_timesCalled {s : Surroundings σ} {ms ms' : MonitorSet σ} {es : List Event}
    (hs : Spanned s ms es ms') {i : ℕ} (hi : i < ms.length)
    (hlimit : ∀ j < i, 1 ≤ ms.limitAt j) :
    es.countP Event.isEnabled / 2 ^ i ≤ timesCalled i es := by
  induction i with
  | zero => rw [Nat.pow_zero, Nat.div_one, hs.balanced.timesCalled_zero]
  | succ i ih =>
    calc es.countP Event.isEnabled / 2 ^ (i + 1)
        = es.countP Event.isEnabled / 2 ^ i / 2 := by rw [pow_succ, Nat.div_div_eq_div_mul]
      _ ≤ timesCalled i es / 2 :=
        Nat.div_le_div_right (ih (by omega) fun j hj => hlimit j (by omega))
      _ ≤ timesCalled (i + 1) es := hs.half_le_timesCalled hi (hlimit i (Nat.lt_succ_self i))

end Loop

namespace Watchdog

/-- What is left of a run is turns and, if they come to an end of their own, the report of it. -/
theorem resume_ensures (d : Watchdog σ) (allowed : ℕ) (ms : MonitorSet σ) :
    (d.resume allowed ms).Ensures fun es r =>
      r.2 ≠ .crashed → Loop.Spanned d.surroundings ms es r.1 := by
  refine .bind (Loop.turns_ensures d.surroundings allowed ms) ?_
  rintro es ⟨ms', e⟩ ht
  cases e with
  | done reason =>
    refine .bind (announce_ensures d _) ?_
    rintro es' ended hc
    refine Act.ensures_pure fun _ => ?_
    simpa using Loop.Spanned.intro (List.forall_mem_nil _) ht nofun (hc.isIdle fun _ => rfl)
  | crashed => exact Act.ensures_pure fun he => absurd rfl he
  | unfinished =>
    refine Act.ensures_pure fun he => ?_
    simpa using Loop.Spanned.intro (List.forall_mem_nil _) ht he (List.forall_mem_nil _)

/-- **No monitor starves.**  A monitor with the index `i` is called in any window of a run in which
`2 ^ i` turns find the switch on, if all monitors before it tolerate a strike; and once more for as
many turns again. -/
theorem called_of_enabled {d : Watchdog σ} {before : ℕ} {w : σ}
    (hb : (d.run before w).result = .unfinished) {window : ℕ}
    (hr : (d.run (before + window) w).result ≠ .crashed) {i : ℕ}
    (hi : i < d.configuration.monitors.length)
    (hlimit : ∀ j < i, 1 ≤ d.configuration.monitors.limitAt j) :
    ∃ es, (d.run (before + window) w).events = (d.run before w).events ++ es ∧
      es.countP Event.isEnabled / 2 ^ i ≤ timesCalled i es ∧
      (2 ^ i ≤ es.countP Event.isEnabled → ∃ e ∈ es, e.isCallOf i = true) := by
  obtain ⟨hresult, hevents⟩ := run_add hb window
  have hne : (d.run before w).result ≠ .crashed := by
    rw [hb]
    nofun
  -- The window begins with the same monitors, whatever their strikes are by then.
  obtain ⟨_, _, ht, -, -⟩ := (spanned_of_run hne).exists_took
  have hspanned := resume_ensures d window (d.run before w).watchdog.configuration.monitors
    ⟨(d.run before w).world, (d.run before w).watchdog.signal⟩ fun hcrash => hr (by
      rw [hresult, hcrash]
      rfl)
  have hlength := MonitorSet.length_eq_of_map_descriptor ht.map_descriptor
  have hcalled := hspanned.le_timesCalled (by rwa [hlength]) fun j hj => by
    rw [MonitorSet.limitAt_of_map_descriptor ht.map_descriptor]
    exact hlimit j hj
  refine ⟨_, hevents, hcalled, fun henabled => List.countP_pos_iff.1 ?_⟩
  exact (Nat.div_pos henabled (Nat.two_pow_pos i)).trans_le hcalled

/-- After three turns, each of two more turns may be hidden from the second monitor, but not both:
the first tolerates a strike. -/
theorem row_called_of_enabled :
    ((row [1, 0]).run 3 0).result = .unfinished ∧
      ∃ es, ((row [1, 0]).run (3 + 2) 0).events = ((row [1, 0]).run 3 0).events ++ es ∧
        ∃ e ∈ es, e.isCallOf 1 = true := by
  have hb : ((row [1, 0]).run 3 0).result = .unfinished := rfl
  have hr : ((row [1, 0]).run (3 + 2) 0).result = .unfinished := rfl
  have hne : ((row [1, 0]).run (3 + 2) 0).result ≠ .crashed := by
    rw [hr]
    nofun
  obtain ⟨es, hevents, -, hcalled⟩ := called_of_enabled (i := 1) hb hne (by decide) (by decide)
  refine ⟨hb, es, hevents, hcalled ?_⟩
  -- The switch is found on in five turns of which three come before.
  have hcount := congrArg (List.countP Event.isEnabled) hevents
  rw [List.countP_append] at hcount
  have h5 : ((row [1, 0]).run (3 + 2) 0).events.countP Event.isEnabled = 5 := rfl
  have h3 : ((row [1, 0]).run 3 0).events.countP Event.isEnabled = 3 := rfl
  omega

end Watchdog

end Vigil
