import Mathlib.Data.List.Forall2
import Vigil.Monitor

/-!
# Registration from settings

Monitors are registered one after another, each with the limit that the settings give it, unless
they disable it.

* `Settings.Disables`, `Settings.Limits`, `Settings.AgreesOn`: what the entries of settings say of
  the monitors with a name, and which settings say the same;
* `MonitorSet.pushConfigured_of_disables`, `MonitorSet.pushConfigured_of_not_disables`,
  `MonitorSet.pushConfigured_congr`: one monitor;
* `MonitorSet.pushAll`, `MonitorSet.Fresh`: one after another, and a monitor as it is registered;
* `MonitorSet.registered_as_configured`: what registration in order does to a set.
-/

namespace Vigil

variable {σ : Type}

namespace Settings

/-- The settings have an entry for a name that disables it. -/
def Disables (s : Settings) (name : String) : Prop :=
  ∃ o, (name, o) ∈ s.monitors.entries ∧ o.enabled = false

/-- The limit that the settings give to a monitor with a name and a default of its own: what their
entry for the name says, or else the default. -/
inductive Limits (s : Settings) (name : String) (default : UInt32) : UInt32 → Prop
  | written {o : MonitorSettings} {limit : UInt32} (ho : (name, o) ∈ s.monitors.entries)
      (hlimit : o.maxStrikes = some limit) : Limits s name default limit
  | unwritten (h : ∀ o, (name, o) ∈ s.monitors.entries → o.maxStrikes = none) :
      Limits s name default default

/-- Two settings have the same entry for a name, or none, or both disable it. -/
def AgreesOn (s s' : Settings) (name : String) : Prop :=
  (∀ o, (name, o) ∈ s.monitors.entries ↔ (name, o) ∈ s'.monitors.entries) ∨
    s.Disables name ∧ s'.Disables name

theorem disables_iff {s : Settings} {name : String} :
    s.Disables name ↔ ∃ o, s.monitor? name = some o ∧ o.enabled = false :=
  exists_congr fun _ => and_congr_left fun _ => SortedMap.get?_eq_some_iff.symm

instance (s : Settings) (name : String) : Decidable (s.Disables name) :=
  decidable_of_iff ((s.monitor? name).any (!·.enabled) = true) <| by
    rw [disables_iff]
    cases s.monitor? name <;> simp

theorem AgreesOn.monitor?_eq {s s' : Settings} {name : String}
    (h : ∀ o, (name, o) ∈ s.monitors.entries ↔ (name, o) ∈ s'.monitors.entries) :
    s.monitor? name = s'.monitor? name :=
  Option.ext fun o => by
    simp only [monitor?, SortedMap.get?_eq_some_iff, h]

end Settings

namespace MonitorSet

/-! ### One monitor -/

theorem configuredLimit_eq_none_iff {s : Settings} {name : String} {default : UInt32} :
    configuredLimit s name default = none ↔ s.Disables name := by
  rw [Settings.disables_iff, configuredLimit]
  cases s.monitor? name with
  | none => simp
  | some o => cases ho : o.enabled <;> simp [ho]

theorem limits_of_configuredLimit {s : Settings} {name : String} {default limit : UInt32}
    (h : configuredLimit s name default = some limit) : s.Limits name default limit := by
  rw [configuredLimit] at h
  cases hmonitor : s.monitor? name with
  | none =>
    rw [hmonitor] at h
    obtain rfl := Option.some.inj h
    refine .unwritten fun o ho => ?_
    rw [← SortedMap.get?_eq_some_iff] at ho
    cases ho.symm.trans hmonitor
  | some o =>
    rw [hmonitor] at h
    obtain ⟨-, h⟩ : o.enabled = true ∧ o.maxStrikes.getD default = limit := by simpa using h
    have ho := SortedMap.get?_eq_some_iff.1 hmonitor
    cases hlimit : o.maxStrikes with
    | some n =>
      rw [hlimit] at h
      exact .written ho (hlimit.trans (congrArg some h))
    | none =>
      rw [hlimit] at h
      obtain rfl : default = limit := h
      refine .unwritten fun o' ho' => ?_
      -- There is at most one entry for a name.
      obtain rfl := Option.some.inj ((SortedMap.get?_eq_some_iff.2 ho').symm.trans hmonitor)
      exact hlimit

variable {s : Settings} {m : Monitor σ}

theorem pushConfigured_of_disables (ms : MonitorSet σ) (default : UInt32)
    (h : s.Disables m.name) : ms.pushConfigured s m default = (false, ms) := by
  rw [pushConfigured, configuredLimit_eq_none_iff.2 h]

theorem pushConfigured_of_not_disables (default : UInt32) (h : ¬ s.Disables m.name) :
    ∃ limit, s.Limits m.name default limit ∧
      ∀ ms : MonitorSet σ, ms.pushConfigured s m default = (true, ms.push m limit) := by
  obtain ⟨limit, hlimit⟩ :=
    Option.ne_none_iff_exists'.1 (mt configuredLimit_eq_none_iff.1 h)
  exact ⟨limit, limits_of_configuredLimit hlimit, fun ms => by rw [pushConfigured, hlimit]⟩

/-- Only what the settings say of the name matters, and only that they disable it if they do. -/
theorem pushConfigured_congr {s' : Settings} (h : s.AgreesOn s' m.name) (ms : MonitorSet σ)
    (default : UInt32) : ms.pushConfigured s' m default = ms.pushConfigured s m default := by
  obtain h | ⟨h, h'⟩ := h
  · rw [pushConfigured, pushConfigured, configuredLimit, configuredLimit,
      Settings.AgreesOn.monitor?_eq h]
  · rw [pushConfigured_of_disables ms default h, pushConfigured_of_disables ms default h']

/-- What registration adds to a set does not depend on the set. -/
theorem pushConfigured_append (s : Settings) (m : Monitor σ) (default : UInt32) :
    ∃ pushed new, ∀ ms : MonitorSet σ,
      ms.pushConfigured s m default = (pushed, ms ++ new) := by
  by_cases h : s.Disables m.name
  · exact ⟨false, [], fun ms => by rw [pushConfigured_of_disables ms default h, List.append_nil]⟩
  · obtain ⟨limit, -, hpush⟩ := pushConfigured_of_not_disables default h
    exact ⟨true, [⟨m, { limit }⟩], hpush⟩

/-! ### One after another -/

/-- Register monitors with their defaults in order: whether each was registered, and the set after
the last. -/
def pushAll (s : Settings) : List (Monitor σ × UInt32) → MonitorSet σ → List Bool × MonitorSet σ
  | [], ms => ([], ms)
  | p :: ps, ms =>
    let (pushed, ms') := ms.pushConfigured s p.1 p.2
    let (rest, ms'') := pushAll s ps ms'
    (pushed :: rest, ms'')

/-- A monitor as it is registered: without strikes, and with the limit that the settings give. -/
structure Fresh (s : Settings) (p : Monitor σ × UInt32) (m : Registered σ) : Prop where
  monitor : m.monitor = p.1
  count : m.strikes.count = 0
  limit : s.Limits p.1.name p.2 m.strikes.limit

theorem pushAll_fst (s : Settings) (ps : List (Monitor σ × UInt32)) (ms : MonitorSet σ) :
    (pushAll s ps ms).1 = ps.map fun p => decide (¬ s.Disables p.1.name) := by
  induction ps generalizing ms with
  | nil => rfl
  | cons p ps ih =>
    by_cases h : s.Disables p.1.name
    · simp [pushAll, pushConfigured_of_disables ms p.2 h, ih, h]
    · obtain ⟨limit, -, hpush⟩ := pushConfigured_of_not_disables p.2 h
      simp [pushAll, hpush, ih, h]

theorem pushAll_snd (s : Settings) (ps : List (Monitor σ × UInt32)) (ms : MonitorSet σ) :
    ∃ added, (pushAll s ps ms).2 = ms ++ added ∧
      List.Forall₂ (Fresh s) (ps.filter fun p => ¬ s.Disables p.1.name) added := by
  induction ps generalizing ms with
  | nil => exact ⟨[], (List.append_nil ms).symm, .nil⟩
  | cons p ps ih =>
    by_cases h : s.Disables p.1.name
    · obtain ⟨added, hset, hfresh⟩ := ih ms
      refine ⟨added, ?_, ?_⟩
      · rw [pushAll, pushConfigured_of_disables ms p.2 h, hset]
      · rwa [List.filter_cons_of_neg (by simpa using h)]
    · obtain ⟨limit, hlimit, hpush⟩ := pushConfigured_of_not_disables p.2 h
      obtain ⟨added, hset, hfresh⟩ := ih (ms.push p.1 limit)
      refine ⟨⟨p.1, { limit }⟩ :: added, ?_, ?_⟩
      · rw [pushAll, hpush, hset, push, List.append_assoc, List.singleton_append]
      · rw [List.filter_cons_of_pos (by simpa using h)]
        exact .cons ⟨rfl, rfl, hlimit⟩ hfresh

/-- **Registration from settings.**  The set keeps what it had and gains, in order, the monitors
that the settings do not disable, each without strikes and with the limit that the settings give it;
each call says whether its monitor is among them; and what a call says and adds depends neither on
the set nor on entries for other names, nor on the limit in an entry that disables the monitor. -/
theorem registered_as_configured (s : Settings) (ps : List (Monitor σ × UInt32))
    (ms : MonitorSet σ) :
    (pushAll s ps ms).1 = (ps.map fun p => decide (¬ s.Disables p.1.name)) ∧
    (∃ added, (pushAll s ps ms).2 = ms ++ added ∧
      List.Forall₂ (Fresh s) (ps.filter fun p => ¬ s.Disables p.1.name) added) ∧
    ∀ (m : Monitor σ) (default : UInt32), ∃ pushed new, ∀ s', s.AgreesOn s' m.name →
      ∀ ms' : MonitorSet σ, ms'.pushConfigured s' m default = (pushed, ms' ++ new) := by
  refine ⟨pushAll_fst s ps ms, pushAll_snd s ps ms, fun m default => ?_⟩
  obtain ⟨pushed, new, happend⟩ := pushConfigured_append s m default
  exact ⟨pushed, new, fun s' hs ms' => (pushConfigured_congr hs ms' default).trans (happend ms')⟩

/-- A name may be registered twice, beside a monitor of that name that has strikes already. -/
theorem heavy_registered_twice :
    let s : Settings := { monitors := SortedMap.ofList [("heavy", { maxStrikes := some 7 }),
      ("noisy", { enabled := false, maxStrikes := some 3 })] }
    let s' : Settings := { monitors := SortedMap.ofList [("noisy", { enabled := false })] }
    let named (name : String) : Monitor Unit := ⟨name, fun w => ⟨some .ok, false, w⟩⟩
    let ms : MonitorSet Unit := [⟨named "heavy", { limit := 1, count := 2 }⟩]
    let r := pushAll s [(named "heavy", 1), (named "noisy", 5), (named "quiet", 4),
      (named "heavy", 2)] ms
    r.1 = [true, false, true, true] ∧
    (∃ added, r.2 = ms ++ added ∧ added.map (·.strikes) = [{ limit := 7 }, { limit := 4 },
      { limit := 7 }]) ∧
    s.AgreesOn s' "noisy" ∧ ms.pushConfigured s' (named "noisy") 5 = (false, ms) := by
  intro s s' named ms r
  obtain ⟨hflags, -, hcall⟩ := registered_as_configured s [(named "heavy", 1), (named "noisy", 5),
    (named "quiet", 4), (named "heavy", 2)] ms
  have hagrees : s.AgreesOn s' "noisy" := .inr ⟨by decide +kernel, by decide +kernel⟩
  obtain ⟨pushed, new, happend⟩ := hcall (named "noisy") 5
  refine ⟨hflags.trans (by decide +kernel), ⟨_, rfl, by decide +kernel⟩, hagrees, ?_⟩
  rw [happend s' hagrees ms, ← happend s (.inl fun _ => Iff.rfl) ms]
  exact pushConfigured_of_disables ms 5 (by decide +kernel)

end MonitorSet

end Vigil
