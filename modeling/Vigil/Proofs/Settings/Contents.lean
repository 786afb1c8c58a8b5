import Vigil.Proofs.Toml.Value
import Vigil.Settings.Basic

/-!
# What settings a document should give

A document, as a tree of values, and the settings that it describes.

* `Names`, `Sectioned`: remediations in documents, and documents with tables where tables belong;
* `LoopFits`, `MonitorFits`, `Fits`: when a document gives settings;
* `LoopGives`, `MonitorGives`, `Gives`: which settings it gives;
* `Gives.unique`, `Gives.fits`: it gives at most one, and only if it fits;
* `LoopAgrees`, `MonitorAgrees`, `Agrees`, `Agrees.gives`: documents that differ only in what does
  not matter give the same.
-/

namespace Vigil.Settings

open Vigil.Toml

/-- A value names a remediation: it is the name, or a table with the name as its only key and
nothing behind it. -/
inductive Names : Value → HandlerKind → Prop
  | text (kind : HandlerKind) : Names (.leaf (.string kind.name)) kind
  | key (kind : HandlerKind) {v : Value} (hempty : v = .table [] ∨ v = .array []) :
      Names (.table [(kind.name, v)]) kind

/-- The settings of the loop, of all monitors and of each monitor are tables. -/
def Sectioned (document : Value) : Prop :=
  (∀ v ∈ document.find? "watchdog", v.isTable) ∧
    ∀ v ∈ document.find? "monitors", v.isTable ∧ ∀ e ∈ v.entries, e.2.isTable

instance (document : Value) : Decidable (Sectioned document) := by
  unfold Sectioned
  infer_instance

/-- A table gives settings of the loop. -/
structure LoopFits (table : Value) : Prop where
  sleep : ∀ v ∈ table.find? "sleep_time_seconds", ∃ i : Int, v = .leaf (.integer i) ∧ 0 ≤ i
  handler : ∀ v ∈ table.find? "handler", ∃ kind, Names v kind
  enabled : ∀ v ∈ table.find? "enabled", ∃ b, v = .leaf (.boolean b)
  enforce : ∀ v ∈ table.find? "enforce", ∃ b, v = .leaf (.boolean b)

/-- A table gives settings of a monitor. -/
structure MonitorFits (table : Value) : Prop where
  enabled : ∀ v ∈ table.find? "enabled", ∃ b, v = .leaf (.boolean b)
  maxStrikes : ∀ v ∈ table.find? "max_strikes",
    ∃ i : Int, v = .leaf (.integer i) ∧ 0 ≤ i ∧ i < 4294967296

/-- A document gives settings. -/
structure Fits (document : Value) : Prop where
  watchdog : ∀ v ∈ document.find? "watchdog", LoopFits v
  monitors : ∀ name, ∀ v ∈ document.at? ["monitors", name], MonitorFits v

/-- A value is a truth value. -/
def IsBoolean (v : Value) (b : Bool) : Prop := v = .leaf (.boolean b)

/-- A value is a number of seconds. -/
def IsSeconds (v : Value) (n : UInt64) : Prop := v = .leaf (.integer n.toNat)

/-- A value is a number of strikes. -/
def IsStrikes (v : Value) (o : Option UInt32) : Prop :=
  ∃ n : UInt32, v = .leaf (.integer n.toNat) ∧ o = some n

/-- A field holds what is read from what is written for it, or its default if nothing is. -/
def Holds {α β : Type} (reads : β → α → Prop) (default : α) : Option β → α → Prop
  | none, a => a = default
  | some b, a => reads b a

/-- The settings of the loop that a table gives. -/
structure LoopGives (table : Value) (w : WatchdogSettings) : Prop where
  sleep : Holds IsSeconds 60 (table.find? "sleep_time_seconds") w.sleepTimeSeconds
  handler : Holds Names .null (table.find? "handler") w.handler
  enabled : Holds IsBoolean true (table.find? "enabled") w.enabled
  enforce : Holds IsBoolean true (table.find? "enforce") w.enforce

/-- The settings of a monitor that a table gives. -/
structure MonitorGives (table : Value) (m : MonitorSettings) : Prop where
  enabled : Holds IsBoolean true (table.find? "enabled") m.enabled
  maxStrikes : Holds IsStrikes none (table.find? "max_strikes") m.maxStrikes

/-- The settings that a document gives. -/
structure Gives (document : Value) (s : Settings) : Prop where
  watchdog : LoopGives ((document.find? "watchdog").getD (.table [])) s.watchdog
  names : ∀ name, name ∈ s.monitors.keys ↔ (document.at? ["monitors", name]).isSome
  monitors : ∀ name v m, document.at? ["monitors", name] = some v → s.monitor? name = some m →
    MonitorGives v m

/-- Two tables say the same about the loop: under the names of its settings there are the same
values, where a default may also be left out. -/
structure LoopAgrees (table table' : Value) : Prop where
  sleep : (table.find? "sleep_time_seconds").getD (.leaf (.integer 60)) =
    (table'.find? "sleep_time_seconds").getD (.leaf (.integer 60))
  handler : (table.find? "handler").getD (.leaf (.string "null")) =
    (table'.find? "handler").getD (.leaf (.string "null"))
  enabled : (table.find? "enabled").getD (.leaf (.boolean true)) =
    (table'.find? "enabled").getD (.leaf (.boolean true))
  enforce : (table.find? "enforce").getD (.leaf (.boolean true)) =
    (table'.find? "enforce").getD (.leaf (.boolean true))

/-- Two tables say the same about a monitor. -/
structure MonitorAgrees (table table' : Value) : Prop where
  enabled : (table.find? "enabled").getD (.leaf (.boolean true)) =
    (table'.find? "enabled").getD (.leaf (.boolean true))
  maxStrikes : table.find? "max_strikes" = table'.find? "max_strikes"

/-- Two documents say the same about the loop and about the same monitors.  The order of their
entries is left open, and so is everything under other names. -/
structure Agrees (document document' : Value) : Prop where
  watchdog : LoopAgrees ((document.find? "watchdog").getD (.table []))
    ((document'.find? "watchdog").getD (.table []))
  monitors : ∀ name, Option.Rel MonitorAgrees (document.at? ["monitors", name])
    (document'.at? ["monitors", name])

/-! ### At most one -/

theorem names_leaf_iff {v : Scalar} {kind : HandlerKind} :
    Names (.leaf v) kind ↔ v = .string kind.name := by
  constructor
  · rintro ⟨⟩
    rfl
  · rintro rfl
    exact .text kind

theorem names_entry_iff {name : String} {v : Value} {kind : HandlerKind} :
    Names (.table [(name, v)]) kind ↔ name = kind.name ∧ (v = .table [] ∨ v = .array []) := by
  constructor
  · rintro (_ | ⟨_, hempty⟩)
    exact ⟨rfl, hempty⟩
  · rintro ⟨rfl, hempty⟩
    exact .key kind hempty

theorem Names.length_entries_le {v : Value} {kind : HandlerKind} (h : Names v kind) :
    v.entries.length ≤ 1 := by
  cases h <;> simp [Value.entries]

theorem Holds.unique {α β : Type} {reads : β → α → Prop} {default a a' : α} {o : Option β}
    (hreads : ∀ b a a', reads b a → reads b a' → a = a') (h : Holds reads default o a)
    (h' : Holds reads default o a') : a = a' := by
  cases o with
  | none => exact Eq.trans h (Eq.symm h')
  | some b => exact hreads b a a' h h'

theorem Names.unique (v : Value) (kind kind' : HandlerKind) (h : Names v kind)
    (h' : Names v kind') : kind = kind' := by
  have hname : kind.name = kind'.name := by
    cases h with
    | text => exact Scalar.string.inj (names_leaf_iff.1 h')
    | key _ hempty => exact (names_entry_iff.1 h').1
  exact Option.some.inj (by rw [← HandlerKind.ofName?_name, hname, HandlerKind.ofName?_name])

theorem IsBoolean.unique (v : Value) (b b' : Bool) (h : IsBoolean v b) (h' : IsBoolean v b') :
    b = b' :=
  Scalar.boolean.inj (Value.leaf.inj (h.symm.trans h'))

theorem toNat_unique {v : Value} {n n' : ℕ} (h : v = .leaf (.integer n))
    (h' : v = .leaf (.integer n')) : n = n' :=
  Int.ofNat.inj (Scalar.integer.inj (Value.leaf.inj (h.symm.trans h')))

theorem IsSeconds.unique (v : Value) (n n' : UInt64) (h : IsSeconds v n) (h' : IsSeconds v n') :
    n = n' :=
  UInt64.toNat_inj.1 (toNat_unique h h')

theorem IsStrikes.unique (v : Value) (o o' : Option UInt32) (h : IsStrikes v o)
    (h' : IsStrikes v o') : o = o' := by
  obtain ⟨n, hn, rfl⟩ := h
  obtain ⟨n', hn', rfl⟩ := h'
  rw [UInt32.toNat_inj.1 (toNat_unique hn hn')]

theorem LoopGives.unique {table : Value} {w w' : WatchdogSettings} (h : LoopGives table w)
    (h' : LoopGives table w') : w = w' := by
  cases w
  cases w'
  rw [WatchdogSettings.mk.injEq]
  exact ⟨h.sleep.unique IsSeconds.unique h'.sleep,
    h.handler.unique Names.unique h'.handler,
    h.enabled.unique IsBoolean.unique h'.enabled,
    h.enforce.unique IsBoolean.unique h'.enforce⟩

theorem MonitorGives.unique {table : Value} {m m' : MonitorSettings} (h : MonitorGives table m)
    (h' : MonitorGives table m') : m = m' := by
  cases m
  cases m'
  rw [MonitorSettings.mk.injEq]
  exact ⟨h.enabled.unique IsBoolean.unique h'.enabled,
    h.maxStrikes.unique IsStrikes.unique h'.maxStrikes⟩

/-- A monitor has settings if and only if the document says something about it. -/
theorem Gives.isSome_monitor? {document : Value} {s : Settings} (h : Gives document s)
    (name : String) : (s.monitor? name).isSome ↔ (document.at? ["monitors", name]).isSome := by
  rw [← h.names, SortedMap.mem_keys, Settings.monitor?]

theorem Gives.unique {document : Value} {s s' : Settings} (h : Gives document s)
    (h' : Gives document s') : s = s' := by
  have hmonitors : s.monitors = s'.monitors := SortedMap.ext_get? fun name => by
    have hsome := (h.isSome_monitor? name).trans (h'.isSome_monitor? name).symm
    change s.monitor? name = s'.monitor? name
    cases hm : s.monitor? name with
    | none =>
      have hnone : s'.monitor? name = none := by simpa [hm] using hsome
      exact hnone.symm
    | some m =>
      obtain ⟨m', hm'⟩ := Option.isSome_iff_exists.1 (hsome.1 (by simp [hm]))
      obtain ⟨v, hv⟩ := Option.isSome_iff_exists.1 ((h.isSome_monitor? name).1 (by simp [hm]))
      rw [hm', (h.monitors name v m hv hm).unique (h'.monitors name v m' hv hm')]
  cases s
  cases s'
  rw [Settings.mk.injEq]
  exact ⟨h.watchdog.unique h'.watchdog, hmonitors⟩

theorem Holds.exists_reads {α β : Type} {reads : β → α → Prop} {default a : α} {o : Option β}
    (h : Holds reads default o a) : ∀ b ∈ o, ∃ a, reads b a := by
  rintro b ⟨⟩
  exact ⟨a, h⟩

theorem LoopGives.fits {table : Value} {w : WatchdogSettings} (h : LoopGives table w) :
    LoopFits table where
  sleep v hv := by
    obtain ⟨n, hn⟩ := h.sleep.exists_reads v hv
    exact ⟨n.toNat, hn, Int.natCast_nonneg _⟩
  handler := h.handler.exists_reads
  enabled := h.enabled.exists_reads
  enforce := h.enforce.exists_reads

theorem MonitorGives.fits {table : Value} {m : MonitorSettings} (h : MonitorGives table m) :
    MonitorFits table where
  enabled := h.enabled.exists_reads
  maxStrikes v hv := by
    obtain ⟨_, n, hn, -⟩ := h.maxStrikes.exists_reads v hv
    exact ⟨n.toNat, hn, Int.natCast_nonneg _, by have := n.toNat_lt; omega⟩

theorem Gives.fits {document : Value} {s : Settings} (h : Gives document s) : Fits document where
  watchdog v hv := by
    have hwatchdog := h.watchdog.fits
    rwa [Option.mem_def.1 hv] at hwatchdog
  monitors name v hv := by
    obtain ⟨m, hm⟩ := Option.isSome_iff_exists.1
      ((h.isSome_monitor? name).2 (by rw [Option.mem_def.1 hv]; rfl))
    exact (h.monitors name v m hv hm).fits

/-! ### What does not matter -/

theorem Holds.agrees {α β : Type} {reads : β → α → Prop} {default a : α} {b : β}
    (hdefault : ∀ a, reads b a ↔ a = default) {o o' : Option β} (hsame : o.getD b = o'.getD b) :
    Holds reads default o a ↔ Holds reads default o' a := by
  have hgetD (o : Option β) : Holds reads default o a ↔ reads (o.getD b) a := by
    cases o with
    | none => exact (hdefault a).symm
    | some b => rfl
  rw [hgetD, hgetD, hsame]

theorem isBoolean_leaf {b b' : Bool} : IsBoolean (.leaf (.boolean b)) b' ↔ b' = b := by
  simp [IsBoolean, eq_comm]

theorem isSeconds_leaf {n : UInt64} : IsSeconds (.leaf (.integer 60)) n ↔ n = 60 := by
  rw [IsSeconds, ← UInt64.toNat_inj]
  simp
  omega

theorem names_null {kind : HandlerKind} : Names (.leaf (.string "null")) kind ↔ kind = .null := by
  rw [names_leaf_iff]
  cases kind <;> simp [HandlerKind.name]

theorem LoopAgrees.gives_iff {table table' : Value} (h : LoopAgrees table table')
    {w : WatchdogSettings} : LoopGives table w ↔ LoopGives table' w := by
  have hsleep := Holds.agrees (fun _ => isSeconds_leaf) h.sleep (a := w.sleepTimeSeconds)
  have hhandler := Holds.agrees (fun _ => names_null) h.handler (a := w.handler)
  have henabled := Holds.agrees (fun _ => isBoolean_leaf) h.enabled (a := w.enabled)
  have henforce := Holds.agrees (fun _ => isBoolean_leaf) h.enforce (a := w.enforce)
  exact ⟨fun hw => ⟨hsleep.1 hw.sleep, hhandler.1 hw.handler, henabled.1 hw.enabled,
      henforce.1 hw.enforce⟩,
    fun hw => ⟨hsleep.2 hw.sleep, hhandler.2 hw.handler, henabled.2 hw.enabled,
      henforce.2 hw.enforce⟩⟩

theorem MonitorAgrees.gives_iff {table table' : Value} (h : MonitorAgrees table table')
    {m : MonitorSettings} : MonitorGives table m ↔ MonitorGives table' m := by
  have henabled := Holds.agrees (fun _ => isBoolean_leaf) h.enabled (a := m.enabled)
  exact ⟨fun hm => ⟨henabled.1 hm.enabled, h.maxStrikes ▸ hm.maxStrikes⟩,
    fun hm => ⟨henabled.2 hm.enabled, h.maxStrikes ▸ hm.maxStrikes⟩⟩

theorem Agrees.symm {document document' : Value} (h : Agrees document document') :
    Agrees document' document where
  watchdog := ⟨h.watchdog.sleep.symm, h.watchdog.handler.symm, h.watchdog.enabled.symm,
    h.watchdog.enforce.symm⟩
  monitors name := by
    have hname := h.monitors name
    generalize document.at? ["monitors", name] = o, document'.at? ["monitors", name] = o' at hname ⊢
    cases hname with
    | none => exact .none
    | some h => exact .some ⟨h.enabled.symm, h.maxStrikes.symm⟩

theorem Agrees.gives {document document' : Value} (h : Agrees document document') {s : Settings}
    (hs : Gives document s) : Gives document' s := by
  refine ⟨h.watchdog.gives_iff.1 hs.watchdog, fun name => ?_, fun name v' m hv' hm => ?_⟩
  · rw [hs.names]
    have hname := h.monitors name
    generalize document.at? ["monitors", name] = o, document'.at? ["monitors", name] = o' at hname
    cases hname <;> rfl
  · have hname := h.monitors name
    rw [hv'] at hname
    generalize hv : document.at? ["monitors", name] = o at hname
    cases hname with
    | some hv' => exact hv'.gives_iff.1 (hs.monitors name _ m hv hm)

end Vigil.Settings
