import Vigil.Proofs.Settings.Contents
import Vigil.Settings.Load

/-!
# Decoding settings

Decoding gives the settings that a document describes, and fails if there are none.

* `decodeBool_eq_ok_iff`, `decodeSeconds_eq_ok_iff`, `decodeStrikes_eq_ok_iff`,
  `decodeHandler_eq_ok_iff`: single values;
* `exists_foldlM_eq_ok`, `foldlM_holds`, `Sets.holds`: decoding entry by entry;
* `decodeWatchdog_gives`, `decodeMonitor_gives`, `decodeMonitors_gives`, `decode_gives`: what is
  decoded from tables;
* `exists_decodeWatchdog`, `exists_decodeMonitor`, `exists_decodeMonitors`, `exists_decode`: when
  tables can be decoded;
* `decode_eq_ok_iff`, `parse_of_document`: the settings of a document, and of a text.
-/

namespace Vigil.Settings

open Vigil.Toml

/-! ### Single values -/

theorem bind_eq_ok_iff {ε α β : Type} {x : Except ε α} {f : α → Except ε β} {b : β} :
    x >>= f = .ok b ↔ ∃ a, x = .ok a ∧ f a = .ok b := by
  cases x <;> simp [bind, Except.bind]

theorem map_eq_ok_iff {ε α β : Type} {x : Except ε α} {f : α → β} {b : β} :
    f <$> x = .ok b ↔ ∃ a, x = .ok a ∧ f a = b := by
  cases x <;> simp [Functor.map, Except.map]

theorem decodeBool_eq_ok_iff {p : Part} {b : Bool} :
    decodeBool p = .ok b ↔ p.node.value = .leaf (.boolean b) := by
  obtain ⟨node, place⟩ := p
  cases node with
  | leaf span v => cases v <;> simp [decodeBool, Part.unwanted, Part.blame, Node.value]
  | array | table | tables => simp [decodeBool, Part.unwanted, Part.blame, Node.value]

theorem decodeNat_eq_ok_iff {wanted : Wanted} {bound n : ℕ} {p : Part} :
    decodeNat wanted bound p = .ok n ↔ p.node.value = .leaf (.integer n) ∧ n < bound := by
  obtain ⟨node, place⟩ := p
  cases node with
  | leaf span v =>
    cases v with
    | integer i =>
      simp only [decodeNat, Node.value]
      split
      next h =>
        simp only [Except.ok.injEq, Value.leaf.injEq, Scalar.integer.injEq]
        omega
      next h =>
        simp only [Part.blame, reduceCtorEq, Value.leaf.injEq, Scalar.integer.injEq, false_iff]
        omega
    | _ => simp [decodeNat, Part.unwanted, Part.blame, Node.value]
  | array | table | tables => simp [decodeNat, Part.unwanted, Part.blame, Node.value]

theorem decodeSeconds_eq_ok_iff {p : Part} {n : UInt64} :
    decodeSeconds p = .ok n ↔ p.node.value = .leaf (.integer n.toNat) := by
  simp only [decodeSeconds, bind_eq_ok_iff, decodeNat_eq_ok_iff]
  constructor
  · rintro ⟨k, ⟨hk, hlt⟩, ⟨⟩⟩
    rwa [UInt64.toNat_ofNat_of_lt' hlt]
  · exact fun h => ⟨n.toNat, ⟨h, n.toNat_lt⟩, by simp [pure, Except.pure]⟩

theorem decodeStrikes_eq_ok_iff {p : Part} {n : UInt32} :
    decodeStrikes p = .ok n ↔ p.node.value = .leaf (.integer n.toNat) := by
  simp only [decodeStrikes, bind_eq_ok_iff, decodeNat_eq_ok_iff]
  constructor
  · rintro ⟨k, ⟨hk, hlt⟩, ⟨⟩⟩
    rwa [UInt32.toNat_ofNat_of_lt' hlt]
  · exact fun h => ⟨n.toNat, ⟨h, n.toNat_lt⟩, by simp [pure, Except.pure]⟩

theorem ofName?_eq_some_iff {name : String} {kind : HandlerKind} :
    HandlerKind.ofName? name = some kind ↔ name = kind.name := by
  constructor
  · intro h
    unfold HandlerKind.ofName? at h
    split at h <;> cases h <;> rfl
  · rintro rfl
    exact HandlerKind.ofName?_name kind

theorem decodeVariant_eq_ok_iff {name : String} {place : Span} {kind : HandlerKind} :
    decodeVariant name place = .ok kind ↔ name = kind.name := by
  rw [← ofName?_eq_some_iff, decodeVariant]
  cases HandlerKind.ofName? name <;> simp

theorem decodeNothing_eq_ok_iff {around : Span} {node : Node} :
    decodeNothing around node = .ok () ↔ node.value = .table [] ∨ node.value = .array [] := by
  cases node with
  | leaf span v => simp [decodeNothing, Part.blame, Node.value]
  | array span items | tables span items =>
    cases items <;> simp [decodeNothing, Part.blame, Node.value, values]
  | table origin span entries =>
    cases entries <;> simp [decodeNothing, Part.blame, Node.value, fields]

theorem decodeHandler_eq_ok_iff {p : Part} {kind : HandlerKind} :
    decodeHandler p = .ok kind ↔ Names p.node.value kind := by
  obtain ⟨node, place⟩ := p
  cases node with
  | leaf span v =>
    rw [Node.value, names_leaf_iff]
    cases v with
    | string s => simp [decodeHandler, decodeVariant_eq_ok_iff]
    | _ => simp [decodeHandler, Part.blame]
  | array | tables =>
    simp only [decodeHandler, Part.blame, Node.value, reduceCtorEq, false_iff]
    rintro ⟨⟩
  | table origin span entries =>
    obtain _ | ⟨⟨key, node⟩, _ | ⟨⟨_, _⟩, entries⟩⟩ := entries
    · simp only [decodeHandler, Part.blame, Node.value, fields, reduceCtorEq, false_iff]
      rintro ⟨⟩
    · rw [Node.value, fields, fields, names_entry_iff]
      simp only [decodeHandler, bind_eq_ok_iff, decodeVariant_eq_ok_iff]
      constructor
      · rintro ⟨kind, hname, ⟨⟩, hempty, ⟨⟩⟩
        exact ⟨hname, decodeNothing_eq_ok_iff.1 hempty⟩
      · rintro ⟨hname, hempty⟩
        exact ⟨kind, hname, (), decodeNothing_eq_ok_iff.2 hempty, rfl⟩
    · simp only [decodeHandler, Part.blame, Node.value, fields, reduceCtorEq, false_iff]
      exact fun h => absurd h.length_entries_le (by simp [Value.entries])

/-! ### Entry by entry -/

section Fold

variable {σ β ε α : Type} {put : σ → β → Except ε σ} {bs : List β} {s s' : σ}

theorem exists_foldlM_eq_ok (h : ∀ b ∈ bs, ∀ s, ∃ s', put s b = .ok s') (s : σ) :
    ∃ s', bs.foldlM put s = .ok s' := by
  induction bs generalizing s with
  | nil => exact ⟨s, rfl⟩
  | cons b bs ih =>
    obtain ⟨s₁, hs₁⟩ := h b List.mem_cons_self s
    obtain ⟨s', hs'⟩ := ih (fun b hb => h b (List.mem_cons_of_mem _ hb)) s₁
    exact ⟨s', by rw [List.foldlM_cons, hs₁]; exact hs'⟩

/-- Entries with other names do not touch a field. -/
theorem get_foldlM_of_ne {name : β → String} {key : String} {get : σ → α}
    (hother : ∀ s b s', put s b = .ok s' → name b ≠ key → get s' = get s)
    (hbs : ∀ b ∈ bs, name b ≠ key) (h : bs.foldlM put s = .ok s') : get s' = get s := by
  induction bs generalizing s with
  | nil =>
    cases h
    rfl
  | cons b bs ih =>
    rw [List.forall_mem_cons] at hbs
    rw [List.foldlM_cons] at h
    obtain ⟨s₁, hs₁, h⟩ := bind_eq_ok_iff.1 h
    rw [ih hbs.2 h, hother _ _ _ hs₁ hbs.1]

/-- Of entries with different names, a field holds what is read from the one with its name, if there
is one and no other entry touches the field. -/
theorem foldlM_holds {name : β → String} {key : String} {get : σ → α} {reads : β → α → Prop}
    (hput : ∀ s b s', put s b = .ok s' → name b = key → reads b (get s'))
    (hother : ∀ s b s', put s b = .ok s' → name b ≠ key → get s' = get s)
    (hnames : (bs.map name).Nodup) (h : bs.foldlM put s = .ok s') :
    Holds reads (get s) (bs.find? (fun b => name b == key)) (get s') := by
  induction bs generalizing s with
  | nil =>
    cases h
    rfl
  | cons b bs ih =>
    rw [List.map_cons, List.nodup_cons] at hnames
    rw [List.foldlM_cons] at h
    obtain ⟨s₁, hs₁, h⟩ := bind_eq_ok_iff.1 h
    by_cases hname : name b = key
    · have hbs : ∀ b' ∈ bs, name b' ≠ key := fun b' hb' heq =>
        hnames.1 (hname.trans heq.symm ▸ List.mem_map_of_mem hb')
      simpa [hname, Holds, get_foldlM_of_ne hother hbs h] using hput _ b _ hs₁ hname
    · simpa [hname, hother _ _ _ hs₁ hname] using ih hnames.2 h

end Fold

/-- Putting an entry sets the field with its name to what is decoded, and leaves the field alone if
the entry has another name. -/
def Sets {σ α : Type} (put : σ → Key × Node → Except Misfit σ) (key : String) (get : σ → α)
    (decode : Part → Except Misfit α) : Prop :=
  ∀ s e s', put s e = .ok s' →
    if e.1.text = key then decode (Part.of e.2 e.1.span) = .ok (get s') else get s' = get s

/-- So the entries of a table set the field to what the table says. -/
theorem Sets.holds {σ α : Type} {put : σ → Key × Node → Except Misfit σ} {key : String}
    {get : σ → α} {decode : Part → Except Misfit α} (hsets : Sets put key get decode)
    {reads : Value → α → Prop} {t : Table} (ht : t.Proper)
    (hreads : ∀ e ∈ t.entries, e.1.text = key → ∀ place a, decode ⟨e.2, place⟩ = .ok a →
      reads e.2.value a) {s s' : σ} (h : t.entries.foldlM put s = .ok s') :
    Holds reads (get s) (t.value.find? key) (get s') := by
  have hholds : Holds (fun e a => decode (Part.of e.2 e.1.span) = .ok a) (get s)
      (t.entries.find? fun e => e.1.text == key) (get s') :=
    foldlM_holds (fun s e s' h hname => by simpa [hname] using hsets s e s' h)
      (fun s e s' h hname => by simpa [hname] using hsets s e s' h) ht.names h
  rw [Table.value, Table.node, Node.find?_value]
  cases hfind : t.entries.find? (fun e => e.1.text == key) with
  | none => simpa [hfind, Holds] using hholds
  | some e =>
    rw [hfind] at hholds
    exact hreads e (List.mem_of_find?_eq_some hfind) (by simpa using List.find?_some hfind) _ _
      hholds

/-! ### The settings of the loop -/

theorem decodeWatchdog_table (t : Table) (place : Span) :
    decodeWatchdog ⟨t.node, place⟩ =
      t.entries.foldlM (fun w e => putLoopField w (e.1.text, Part.of e.2 e.1.span)) {} := by
  simp [decodeWatchdog, Table.node, members?, List.foldlM_map]

theorem putLoopField_inv {w w' : WatchdogSettings} {name : String} {p : Part}
    (h : putLoopField w (name, p) = .ok w') :
    (if name = "sleep_time_seconds" then decodeSeconds p = .ok w'.sleepTimeSeconds
      else w'.sleepTimeSeconds = w.sleepTimeSeconds) ∧
    (if name = "handler" then decodeHandler p = .ok w'.handler else w'.handler = w.handler) ∧
    (if name = "enabled" then decodeBool p = .ok w'.enabled else w'.enabled = w.enabled) ∧
    (if name = "enforce" then decodeBool p = .ok w'.enforce else w'.enforce = w.enforce) := by
  unfold putLoopField at h
  split at h
  case h_5 =>
    cases h
    simp_all
  all_goals
    obtain ⟨v, hv, ⟨⟩⟩ := bind_eq_ok_iff.1 h
    simp_all

theorem decodeWatchdog_gives {t : Table} (ht : t.Proper) {place : Span} {w : WatchdogSettings}
    (h : decodeWatchdog ⟨t.node, place⟩ = .ok w) : LoopGives t.value w := by
  rw [decodeWatchdog_table] at h
  have hsleep : Sets _ _ WatchdogSettings.sleepTimeSeconds decodeSeconds :=
    fun _ _ _ h => (putLoopField_inv h).1
  have hhandler : Sets _ _ WatchdogSettings.handler decodeHandler :=
    fun _ _ _ h => (putLoopField_inv h).2.1
  have henabled : Sets _ _ WatchdogSettings.enabled decodeBool :=
    fun _ _ _ h => (putLoopField_inv h).2.2.1
  have henforce : Sets _ _ WatchdogSettings.enforce decodeBool :=
    fun _ _ _ h => (putLoopField_inv h).2.2.2
  exact ⟨hsleep.holds ht (fun _ _ _ _ _ => decodeSeconds_eq_ok_iff.1) h,
    hhandler.holds ht (fun _ _ _ _ _ => decodeHandler_eq_ok_iff.1) h,
    henabled.holds ht (fun _ _ _ _ _ => decodeBool_eq_ok_iff.1) h,
    henforce.holds ht (fun _ _ _ _ _ => decodeBool_eq_ok_iff.1) h⟩

theorem exists_word64 {n : Node} (hn : n.Proper) {i : Int} (h : n.value = .leaf (.integer i))
    (hi : 0 ≤ i) : ∃ k : UInt64, n.value = .leaf (.integer k.toNat) := by
  have hfits := hn.fits h
  simp only [fits, Bool.and_eq_true, decide_eq_true_eq] at hfits
  refine ⟨UInt64.ofNat i.toNat, ?_⟩
  rw [UInt64.toNat_ofNat_of_lt' (by simp only [UInt64.size]; omega), Int.toNat_of_nonneg hi, h]

theorem exists_decodeWatchdog {t : Table} (ht : t.Proper) (hfits : LoopFits t.value)
    (place : Span) : ∃ w, decodeWatchdog ⟨t.node, place⟩ = .ok w := by
  rw [decodeWatchdog_table]
  refine exists_foldlM_eq_ok (fun e he w => ?_) _
  unfold putLoopField
  split
  next hname =>
    obtain ⟨i, hi, h0⟩ := hfits.sleep _ (ht.find?_value_of_mem he hname)
    obtain ⟨k, hk⟩ := exists_word64 (ht.nodes e he) hi h0
    exact ⟨_, bind_eq_ok_iff.2 ⟨k, decodeSeconds_eq_ok_iff.2 hk, rfl⟩⟩
  next hname =>
    obtain ⟨kind, hkind⟩ := hfits.handler _ (ht.find?_value_of_mem he hname)
    exact ⟨_, bind_eq_ok_iff.2 ⟨kind, decodeHandler_eq_ok_iff.2 hkind, rfl⟩⟩
  next hname =>
    obtain ⟨b, hb⟩ := hfits.enabled _ (ht.find?_value_of_mem he hname)
    exact ⟨_, bind_eq_ok_iff.2 ⟨b, decodeBool_eq_ok_iff.2 hb, rfl⟩⟩
  next hname =>
    obtain ⟨b, hb⟩ := hfits.enforce _ (ht.find?_value_of_mem he hname)
    exact ⟨_, bind_eq_ok_iff.2 ⟨b, decodeBool_eq_ok_iff.2 hb, rfl⟩⟩
  next => exact ⟨w, rfl⟩

/-! ### The settings of monitors -/

theorem decodeMonitor_table (t : Table) (place : Span) :
    decodeMonitor ⟨t.node, place⟩ =
      t.entries.foldlM (fun m e => putMonitorField m (e.1.text, Part.of e.2 e.1.span)) {} := by
  simp [decodeMonitor, Table.node, members?, List.foldlM_map]

theorem putMonitorField_inv {m m' : MonitorSettings} {name : String} {p : Part}
    (h : putMonitorField m (name, p) = .ok m') :
    (if name = "enabled" then decodeBool p = .ok m'.enabled else m'.enabled = m.enabled) ∧
    (if name = "max_strikes" then some <$> decodeStrikes p = .ok m'.maxStrikes
      else m'.maxStrikes = m.maxStrikes) := by
  unfold putMonitorField at h
  split at h
  case h_3 =>
    cases h
    simp_all
  all_goals
    obtain ⟨v, hv, ⟨⟩⟩ := bind_eq_ok_iff.1 h
    simp_all

theorem decodeMonitor_gives {t : Table} (ht : t.Proper) {place : Span} {m : MonitorSettings}
    (h : decodeMonitor ⟨t.node, place⟩ = .ok m) : MonitorGives t.value m := by
  rw [decodeMonitor_table] at h
  have henabled : Sets _ _ MonitorSettings.enabled decodeBool :=
    fun _ _ _ h => (putMonitorField_inv h).1
  have hstrikes : Sets _ _ MonitorSettings.maxStrikes fun p => some <$> decodeStrikes p :=
    fun _ _ _ h => (putMonitorField_inv h).2
  refine ⟨henabled.holds ht (fun _ _ _ _ _ => decodeBool_eq_ok_iff.1) h,
    hstrikes.holds ht (fun e _ _ place o hread => ?_) h⟩
  obtain ⟨n, hn, rfl⟩ := map_eq_ok_iff.1 hread
  exact ⟨n, decodeStrikes_eq_ok_iff.1 hn, rfl⟩

theorem exists_decodeMonitor {t : Table} (ht : t.Proper) (hfits : MonitorFits t.value)
    (place : Span) : ∃ m, decodeMonitor ⟨t.node, place⟩ = .ok m := by
  rw [decodeMonitor_table]
  refine exists_foldlM_eq_ok (fun e he m => ?_) _
  unfold putMonitorField
  split
  next hname =>
    obtain ⟨b, hb⟩ := hfits.enabled _ (ht.find?_value_of_mem he hname)
    exact ⟨_, bind_eq_ok_iff.2 ⟨b, decodeBool_eq_ok_iff.2 hb, rfl⟩⟩
  next hname =>
    obtain ⟨i, hi, h0, hlt⟩ := hfits.maxStrikes _ (ht.find?_value_of_mem he hname)
    have hn : ((UInt32.ofNat i.toNat).toNat : Int) = i := by
      rw [UInt32.toNat_ofNat_of_lt' (by simp only [UInt32.size]; omega), Int.toNat_of_nonneg h0]
    exact ⟨_, bind_eq_ok_iff.2 ⟨_, decodeStrikes_eq_ok_iff.2 (hn ▸ hi), rfl⟩⟩
  next => exact ⟨m, rfl⟩

/-- What holds of each name in the settings of monitors. -/
abbrev MonitorsGive (table : Value) (ms : SortedMap MonitorSettings) : Prop :=
  ∀ name, Holds (fun v o => ∃ m, o = some m ∧ MonitorGives v m) none (table.find? name)
    (ms.get? name)

theorem decodeMonitors_gives {t : Table} (ht : t.Proper)
    (htables : ∀ e ∈ t.entries, e.2.value.isTable) {place : Span} {ms : SortedMap MonitorSettings}
    (h : decodeMonitors ⟨t.node, place⟩ = .ok ms) : MonitorsGive t.value ms := by
  intro name
  have hmonitor : Sets putMonitor name (·.get? name) fun p => some <$> decodeMonitor p := by
    intro ms e ms' h
    obtain ⟨m, hm, ⟨⟩⟩ := bind_eq_ok_iff.1 h
    split
    next hname => simp only [hm, hname, map_eq_ok_iff]; simp
    next hname => exact SortedMap.get?_insert_of_ne (Ne.symm hname) _ _
  refine hmonitor.holds ht (fun e he _ place o hread => ?_) h
  obtain ⟨m, hm, rfl⟩ := map_eq_ok_iff.1 hread
  obtain ⟨u, hu, hnode⟩ := ht.exists_table he (htables e he)
  rw [hnode] at hm ⊢
  exact ⟨m, rfl, decodeMonitor_gives hu hm⟩

theorem exists_decodeMonitors {t : Table} (ht : t.Proper)
    (htables : ∀ e ∈ t.entries, e.2.value.isTable)
    (hfits : ∀ name, ∀ v ∈ t.value.find? name, MonitorFits v) (place : Span) :
    ∃ ms, decodeMonitors ⟨t.node, place⟩ = .ok ms := by
  refine exists_foldlM_eq_ok (fun e he ms => ?_) _
  obtain ⟨u, hu, hnode⟩ := ht.exists_table he (htables e he)
  have hmonitor := hfits _ _ (ht.find?_value_of_mem he rfl)
  rw [hnode] at hmonitor
  obtain ⟨m, hm⟩ := exists_decodeMonitor hu hmonitor (Part.of e.2 e.1.span).place
  refine ⟨_, bind_eq_ok_iff.2 ⟨m, ?_, rfl⟩⟩
  rw [← hm, ← hnode]
  rfl

/-! ### Whole documents -/

theorem put_inv {s s' : Settings} {e : Key × Node} (h : put s e = .ok s') :
    (if e.1.text = "watchdog" then decodeWatchdog (Part.of e.2 e.1.span) = .ok s'.watchdog
      else s'.watchdog = s.watchdog) ∧
    (if e.1.text = "monitors" then decodeMonitors (Part.of e.2 e.1.span) = .ok s'.monitors
      else s'.monitors = s.monitors) := by
  unfold put at h
  dsimp only at h
  split at h
  case h_3 =>
    cases h
    simp_all
  all_goals
    obtain ⟨v, hv, ⟨⟩⟩ := bind_eq_ok_iff.1 h
    simp_all

theorem at?_monitor (document : Value) (name : String) :
    document.at? ["monitors", name] = (document.find? "monitors").bind (·.find? name) := by
  simp [Value.at?]

theorem Sectioned.watchdog {document : Table} (hsections : Sectioned document.value)
    (hdocument : document.Proper) {e : Key × Node} (he : e ∈ document.entries)
    (hname : e.1.text = "watchdog") : ∃ t : Table, t.Proper ∧ e.2 = t.node :=
  hdocument.exists_table he (hsections.1 _ (hdocument.find?_value_of_mem he hname))

theorem Sectioned.monitors {document : Table} (hsections : Sectioned document.value)
    (hdocument : document.Proper) {e : Key × Node} (he : e ∈ document.entries)
    (hname : e.1.text = "monitors") :
    ∃ t : Table, t.Proper ∧ e.2 = t.node ∧ ∀ e ∈ t.entries, e.2.value.isTable := by
  obtain ⟨htable, htables⟩ := hsections.2 _ (hdocument.find?_value_of_mem he hname)
  obtain ⟨t, ht, hnode⟩ := hdocument.exists_table he htable
  refine ⟨t, ht, hnode, fun e he => ?_⟩
  rw [hnode, Table.node, Node.value, Value.entries, fields_eq_map] at htables
  exact htables _ (List.mem_map_of_mem he)

theorem loopGives_default : LoopGives (.table []) {} := ⟨rfl, rfl, rfl, rfl⟩

theorem gives_of_holds {document : Value} {s : Settings}
    (hwatchdog : Holds LoopGives {} (document.find? "watchdog") s.watchdog)
    (hmonitors : Holds MonitorsGive SortedMap.empty (document.find? "monitors") s.monitors) :
    Gives document s := by
  have hmonitor (name : String) : Holds (fun v o => ∃ m, o = some m ∧ MonitorGives v m) none
      (document.at? ["monitors", name]) (s.monitor? name) := by
    rw [at?_monitor]
    cases hfind : document.find? "monitors" with
    | none =>
      rw [hfind] at hmonitors
      exact congrArg (·.get? name) hmonitors
    | some v =>
      rw [hfind] at hmonitors
      exact hmonitors name
  refine ⟨?_, fun name => ?_, fun name v m hv hm => ?_⟩
  · cases hfind : document.find? "watchdog" with
    | none =>
      rw [hfind] at hwatchdog
      rw [show s.watchdog = {} from hwatchdog]
      exact loopGives_default
    | some v => simpa [hfind, Holds] using hwatchdog
  · have h := hmonitor name
    rw [SortedMap.mem_keys, ← Settings.monitor?]
    cases hv : document.at? ["monitors", name] with
    | none =>
      rw [hv] at h
      simp [show s.monitor? name = none from h]
    | some v =>
      rw [hv] at h
      obtain ⟨m, hm, -⟩ := h
      simp [hm]
  · have h := hmonitor name
    rw [hv, hm] at h
    obtain ⟨_, ⟨⟩, hgives⟩ := h
    exact hgives

theorem decode_gives {document : Table} (hdocument : document.Proper)
    (hsections : Sectioned document.value) {s : Settings} (h : decode document = .ok s) :
    Gives document.value s := by
  have hwatchdog : Sets put "watchdog" Settings.watchdog decodeWatchdog :=
    fun _ _ _ h => (put_inv h).1
  have hmonitors : Sets put "monitors" Settings.monitors decodeMonitors :=
    fun _ _ _ h => (put_inv h).2
  refine gives_of_holds (hwatchdog.holds hdocument (fun e he hname place w hw => ?_) h)
    (hmonitors.holds hdocument (fun e he hname place ms hms => ?_) h)
  · obtain ⟨t, ht, hnode⟩ := hsections.watchdog hdocument he hname
    rw [hnode] at hw ⊢
    exact decodeWatchdog_gives ht hw
  · obtain ⟨t, ht, hnode, htables⟩ := hsections.monitors hdocument he hname
    rw [hnode] at hms ⊢
    exact decodeMonitors_gives ht htables hms

theorem exists_decode {document : Table} (hdocument : document.Proper)
    (hsections : Sectioned document.value) (hfits : Fits document.value) :
    ∃ s, decode document = .ok s := by
  refine exists_foldlM_eq_ok (fun e he s => ?_) _
  unfold put
  dsimp only
  split
  next hname =>
    obtain ⟨t, ht, hnode⟩ := hsections.watchdog hdocument he hname
    have hloop := hfits.watchdog _ (hdocument.find?_value_of_mem he hname)
    rw [hnode] at hloop ⊢
    obtain ⟨w, hw⟩ := exists_decodeWatchdog ht hloop (Part.of t.node e.1.span).place
    exact ⟨_, bind_eq_ok_iff.2 ⟨w, hw, rfl⟩⟩
  next hname =>
    obtain ⟨t, ht, hnode, htables⟩ := hsections.monitors hdocument he hname
    have hfind := hdocument.find?_value_of_mem he hname
    rw [hnode] at hfind ⊢
    obtain ⟨ms, hms⟩ := exists_decodeMonitors ht htables (fun name v hv =>
      hfits.monitors name v (by rw [at?_monitor, hfind]; exact hv)) (Part.of t.node e.1.span).place
    exact ⟨_, bind_eq_ok_iff.2 ⟨ms, hms, rfl⟩⟩
  next => exact ⟨s, rfl⟩

/-- The settings that are decoded are those that the document says. -/
theorem decode_eq_ok_iff {document : Table} (hdocument : document.Proper)
    (hsections : Sectioned document.value) {s : Settings} :
    decode document = .ok s ↔ Gives document.value s := by
  refine ⟨decode_gives hdocument hsections, fun h => ?_⟩
  obtain ⟨s', hs'⟩ := exists_decode hdocument hsections h.fits
  rw [hs', h.unique (decode_gives hdocument hsections hs')]

/-! ### Texts -/

theorem parse_eq {text : String} {document : Table} (hdocument : document? text = some document) :
    parse text = (decode document).mapError (.misfit text) := by
  -- `unfold` would look for an equation of `parse`, and run into the reader of documents
  delta parse
  rw [hdocument]
  dsimp only
  cases decode document <;> rfl

theorem parse_eq_ok_iff {text : String} {document : Table}
    (hdocument : document? text = some document) {s : Settings} :
    parse text = .ok s ↔ decode document = .ok s := by
  rw [parse_eq hdocument]
  cases decode document <;> simp [Except.mapError]

theorem ofText_of_misfit {text : String} {document : Table}
    (hdocument : document? text = some document) {m : Misfit} (h : decode document = .error m) :
    parse text = .error (.misfit text m) ∧
      ofText text = .error (.configParse (.misfit text m)) := by
  have hparse : parse text = .error (.misfit text m) := by
    rw [parse_eq hdocument, h]
    rfl
  exact ⟨hparse, by rw [ofText, hparse]; rfl⟩

/-- **What settings a text gives.**  Let a text be a document in which tables stand where tables
belong.

* It gives settings if and only if all values under the names that mean something fit: the seconds
  are an integer that is not negative, the remediation is named, the switches are truth values, and
  the strikes are an integer from 0 to 2³² - 1.
* The settings hold the values that are written, and the defaults of those that are not.
* Otherwise the text is refused for something that does not fit.
* Any other such text with the same values under those names, where defaults may also be written or
  left out, gives the same settings, whatever the order of its entries and whatever else it says. -/
theorem parse_of_document {text : String} {document : Table}
    (hdocument : document? text = some document) (hsections : Sectioned document.value) :
    ((∃ s, parse text = .ok s) ↔ Fits document.value) ∧
      (∀ s, parse text = .ok s ↔ Gives document.value s) ∧
      (¬ Fits document.value → ∃ m, parse text = .error (.misfit text m) ∧
        ofText text = .error (.configParse (.misfit text m))) ∧
      ∀ text' document', document? text' = some document' → Sectioned document'.value →
        Agrees document.value document'.value → ∀ s, parse text = .ok s ↔ parse text' = .ok s := by
  have hproper := proper_of_document? hdocument
  have hgives (s : Settings) : parse text = .ok s ↔ Gives document.value s :=
    (parse_eq_ok_iff hdocument).trans (decode_eq_ok_iff hproper hsections)
  refine ⟨⟨fun ⟨s, hs⟩ => ((hgives s).1 hs).fits, fun hfits => ?_⟩, hgives, fun hfits => ?_,
    fun text' document' hdocument' hsections' hagrees s => ?_⟩
  · obtain ⟨s, hs⟩ := exists_decode hproper hsections hfits
    exact ⟨s, (parse_eq_ok_iff hdocument).2 hs⟩
  · cases hdecode : decode document with
    | ok s => exact absurd (decode_gives hproper hsections hdecode).fits hfits
    | error m => exact ⟨m, ofText_of_misfit hdocument hdecode⟩
  · rw [hgives, parse_eq_ok_iff hdocument',
      decode_eq_ok_iff (proper_of_document? hdocument') hsections']
    exact ⟨hagrees.gives, hagrees.symm.gives⟩

/-- A text with a remediation that is named by a key, and with a name that means nothing. -/
def someText : String :=
  "[watchdog]\nhandler.term_process = []\nenforce = false\n[monitors.m]\nmax_strikes = 3\nsize = 1"

/-- Its settings. -/
def someSettings : Settings where
  watchdog := { handler := .termProcess, enforce := false }
  monitors := SortedMap.empty.insert "m" { maxStrikes := some 3 }

theorem some_parse_of_document : ∃ document, document? someText = some document ∧
    Sectioned document.value ∧ Gives document.value someSettings := by
  have hread : (document? someText).any fun d =>
      Sectioned d.value ∧ (decode d).toOption = some someSettings := by decide +kernel
  obtain ⟨document, hdocument, h⟩ := (Option.any_eq_true _ _).1 hread
  obtain ⟨hsections, hdecode⟩ := of_decide_eq_true h
  have hparse : parse someText = .ok someSettings := by
    rw [parse_eq_ok_iff hdocument]
    cases hs : decode document <;> simp_all [Except.toOption]
  exact ⟨document, hdocument, hsections,
    ((parse_of_document hdocument hsections).2.1 someSettings).1 hparse⟩

/-- The same in another order, with defaults written out, and with other names that mean nothing. -/
def rearrangedText : String :=
  "colour = 7\n[monitors]\nm.max_strikes = 3\nm.enabled = true\n[watchdog]\nenforce = false\n" ++
    "sleep_time_seconds = 60\n[watchdog.handler]\nterm_process = []"

example : (parse rearrangedText).toOption = some someSettings := by decide +kernel

end Vigil.Settings
