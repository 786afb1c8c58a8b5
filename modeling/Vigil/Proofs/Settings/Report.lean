import Vigil.Proofs.Json.Printer
import Vigil.Proofs.Json.Reader
import Vigil.Settings.Json
import Vigil.Settings.Report

/-!
# The report for machines

The report for machines is a JSON document from which the settings can be read back.

* `ofReport?`: the settings that a text describes;
* `toJson_exact`, `nesting_toJson_le`: the value that is written;
* `ofJson?_sorted_toJson`: what is decoded from it;
* `jsonReport_faithful`: the report.
-/

namespace Vigil

open Json (Exact Document)

/-! ### The value that is written -/

theorem WatchdogSettings.toJson_exact (w : WatchdogSettings) : Exact w.toJson := by
  have hsecs : Json.InRange w.sleepTimeSeconds.toNat := by
    have := w.sleepTimeSeconds.toNat_lt
    exact ⟨by omega, by omega⟩
  refine Json.exact_object ?_
  simp only [List.forall_mem_cons]
  exact ⟨Json.exact_int hsecs, Json.exact_string _, Json.exact_bool _, Json.exact_bool _, nofun⟩

theorem MonitorSettings.toJson_exact (m : MonitorSettings) : Exact m.toJson := by
  refine Json.exact_object ?_
  simp only [List.forall_mem_cons]
  refine ⟨Json.exact_bool _, ?_, nofun⟩
  cases m.maxStrikes with
  | none => exact Json.exact_null
  | some n =>
    have := n.toNat_lt
    exact Json.exact_int ⟨by omega, by omega⟩

theorem MonitorSettings.nesting_toJson (m : MonitorSettings) : m.toJson.nesting = 1 := by
  obtain ⟨enabled, _ | n⟩ := m <;> rfl

namespace Settings

theorem toJson_exact (s : Settings) : Exact s.toJson := by
  refine Json.exact_object ?_
  simp only [List.forall_mem_cons]
  refine ⟨s.watchdog.toJson_exact, Json.exact_object fun f hf => ?_, nofun⟩
  obtain ⟨e, -, rfl⟩ := List.mem_map.1 hf
  exact e.2.toJson_exact

theorem nesting_toJson_le (s : Settings) : s.toJson.nesting ≤ 3 := by
  refine Nat.succ_le_succ (Json.nestingOfFields_le ?_)
  simp only [List.forall_mem_cons]
  refine ⟨Nat.le_succ 1, Nat.succ_le_succ (Json.nestingOfFields_le fun f hf => ?_), nofun⟩
  obtain ⟨e, -, rfl⟩ := List.mem_map.1 hf
  exact Nat.le_of_eq e.2.nesting_toJson

/-! ### What is decoded from it -/

/-- A field is found in an object with its fields in key order. -/
theorem field_ofList {α : Type} (fields : List (String × Json)) (name : String) (default : α)
    (decode : Json → Option α) :
    field (SortedMap.ofList fields).entries name default decode =
      field fields.reverse name default decode := by
  rw [field, SortedMap.find?_ofList, field]

theorem natOf?_natCast {bound n : ℕ} (h : n < bound) : natOf? bound (.int n) = some n := by
  rw [natOf?, if_pos ⟨by omega, by omega⟩, Int.toNat_natCast]

theorem handlerOf?_name (kind : HandlerKind) : handlerOf? (.string kind.name) = some kind := by
  cases kind <;> rfl

end Settings

open Settings in
theorem WatchdogSettings.ofJson?_sorted_toJson (w : WatchdogSettings) :
    ofJson? w.toJson.sorted = some w := by
  have hsecs : natOf? UInt64.size (.int w.sleepTimeSeconds.toNat) = _ :=
    natOf?_natCast w.sleepTimeSeconds.toNat_lt
  simp only [toJson, Json.sorted, Json.sortedFields, ofJson?, field_ofList]
  simp [field, boolOf?, hsecs, handlerOf?_name]

open Settings in
theorem MonitorSettings.ofJson?_sorted_toJson (m : MonitorSettings) :
    ofJson? m.toJson.sorted = some m := by
  simp only [toJson, Json.sorted, Json.sortedFields, ofJson?, field_ofList]
  obtain ⟨enabled, _ | n⟩ := m
  · simp [field, boolOf?, limitOf?, Json.sorted]
  · have hlimit : natOf? UInt32.size (.int n.toNat) = _ := natOf?_natCast n.toNat_lt
    simp [field, boolOf?, limitOf?, Json.sorted, hlimit]

namespace Settings

theorem mapM_ofJson?_sorted (es : List (String × MonitorSettings)) :
    (es.map fun e => (e.1, e.2.toJson.sorted)).mapM
      (fun f => do return (f.1, ← MonitorSettings.ofJson? f.2)) = some es := by
  induction es with
  | nil => rfl
  | cons e es ih =>
    rw [List.map_cons, List.mapM_cons, ih, MonitorSettings.ofJson?_sorted_toJson]
    rfl

theorem monitorsOf?_sorted (monitors : SortedMap MonitorSettings) :
    monitorsOf? (Json.object (monitors.entries.map fun e => (e.1, e.2.toJson))).sorted =
      some monitors := by
  have hsorted : (monitors.entries.map fun e => (e.1, e.2.toJson.sorted)).Pairwise
      (fun a b => a.1 < b.1) := List.pairwise_map.2 monitors.sorted
  rw [Json.sorted, Json.sortedFields_eq_map, List.map_map, Function.comp_def,
    SortedMap.entries_ofList hsorted, monitorsOf?, mapM_ofJson?_sorted]
  exact congrArg some monitors.ofList_entries

/-- What was written is decoded, although its fields come back in another order. -/
theorem ofJson?_sorted_toJson (s : Settings) : ofJson? s.toJson.sorted = some s := by
  -- fields are found by name, whatever their order
  rw [toJson, Json.sorted]
  simp only [Json.sortedFields, ofJson?, field_ofList]
  simp [field, WatchdogSettings.ofJson?_sorted_toJson, monitorsOf?_sorted]

/-! ### The report -/

/-- The settings that a JSON text describes. -/
def ofReport? (text : String) : Option Settings := Json.parse? text >>= ofJson?

theorem jsonReport_document (s : Settings) : Document s.toJson s.jsonReport.toList := by
  have hstart : Json.Blank [] := nofun
  have hend : Json.Blank ['\n'] := by simp [Json.Blank]
  have h := Document.intro hstart (Json.prettyChars_spells s.toJson_exact 0) hend
  rw [jsonReport, String.toList_append, Json.pretty, String.toList_ofList]
  exact h

theorem ofReport?_jsonReport (s : Settings) : ofReport? s.jsonReport = some s := by
  have hdeep : s.toJson.nesting ≤ Json.maxDepth := Nat.le_trans s.nesting_toJson_le (by decide)
  rw [ofReport?, Json.parse?_of_document s.jsonReport_document hdeep, Option.bind_eq_bind,
    Option.bind_some, ofJson?_sorted_toJson]

/-- **The report for machines loses nothing.**  It is a JSON document, the settings are read back
from it, and the reports on different settings are different. -/
theorem jsonReport_faithful (s : Settings) :
    Document s.toJson s.jsonReport.toList ∧ ofReport? s.jsonReport = some s ∧
      ∀ s' : Settings, s'.jsonReport = s.jsonReport ↔ s' = s := by
  refine ⟨s.jsonReport_document, s.ofReport?_jsonReport, fun s' => ⟨fun h => ?_, ?_⟩⟩
  · have hs' := s'.ofReport?_jsonReport
    rw [h, s.ofReport?_jsonReport] at hs'
    exact (Option.some.inj hs').symm
  · rintro rfl
    rfl

end Settings

end Vigil
