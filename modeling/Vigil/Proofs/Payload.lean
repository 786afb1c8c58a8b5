import Vigil.Notice
import Vigil.Proofs.Json.Printer
import Vigil.Proofs.Json.Reader
import Vigil.Proofs.Text.Order
import Vigil.Rehearsal.World

/-!
# Payloads in the journal

The record of a monitor that ran out of strikes holds the payload of its verdict as JSON text, and
the payload can be read back from it.

* `Json.Plain`, `Payload.Plain`: payloads without binary64 numbers, nested no deeper than the reader
  of JSON goes;
* `Json.Plain.exact`, `Json.Plain.sorted_eq`: what is written of such a value, and what is read of
  it;
* `Payload.ofText?`, `Payload.ofText?_text`: a payload from its text;
* `Payload.text_eq_iff`: equal texts are those of equal payloads;
* `journal_faithful`: the record.
-/

namespace Vigil

/-! ### Values -/

/-- A value that is built of null, truth values, integers of 64 bits and texts, of arrays, and of
objects whose fields are in key order. -/
inductive Json.Plain : Json → Prop
  | null : Plain null
  | bool (b : Bool) : Plain (bool b)
  | int {i : Int} (hi : InRange i) : Plain (int i)
  | string (s : String) : Plain (string s)
  | array {items : List Json} (h : ∀ v ∈ items, Plain v) : Plain (array items)
  | object {fields : List (String × Json)} (hsorted : fields.Pairwise fun a b => a.1 < b.1)
      (h : ∀ f ∈ fields, Plain f.2) : Plain (object fields)

namespace Json.Plain

theorem exact {v : Json} (h : Plain v) : Exact v := by
  induction h with
  | null => exact exact_null
  | bool b => exact exact_bool b
  | int hi => exact exact_int hi
  | string s => exact exact_string s
  | array _ ih => exact exact_array ih
  | object _ _ ih => exact exact_object ih

/-- With the fields of all objects in key order it is the same value. -/
theorem sorted_eq {v : Json} (h : Plain v) : v.sorted = v := by
  induction h with
  | null | bool | int | string => rfl
  | @array items _ ih =>
    rw [sorted, sortedItems_eq_map, List.map_congr_left ih, List.map_id']
  | @object fields hsorted _ ih =>
    have hfields : fields.map (fun f => (f.1, f.2.sorted)) = fields := by
      refine List.map_congr_left (fun f hf => ?_) |>.trans (List.map_id fields)
      exact Prod.ext rfl (ih f hf)
    rw [sorted, sortedFields_eq_map, hfields, SortedMap.entries_ofList hsorted]

theorem of_inside {u v : Json} (h : Plain v) (hu : Inside u v) : Plain u := by
  induction hu with
  | self => exact h
  | item hv _ ih =>
    obtain _ | _ | _ | _ | h := h
    exact ih (h _ hv)
  | field hf _ ih =>
    obtain _ | _ | _ | _ | _ | ⟨-, h⟩ := h
    exact ih (h _ hf)

/-- In every object inside, the bytes of the keys are in increasing order. -/
theorem pairwise_bytes {v : Json} (h : Plain v) {fields : List (String × Json)}
    (hfields : Inside (Json.object fields) v) :
    fields.Pairwise fun a b => Text.bytes a.1 < Text.bytes b.1 := by
  obtain _ | _ | _ | _ | _ | ⟨hsorted, -⟩ := h.of_inside hfields
  exact hsorted.imp Text.bytes_lt_iff.2

end Json.Plain

/-! ### Payloads -/

namespace Payload

/-- A payload as a JSON value. -/
def value (p : Payload) : Json := .object p.entries

/-- All values of a payload are plain, and nested no deeper than the reader goes. -/
def Plain (p : Payload) : Prop := ∀ e ∈ p.entries, e.2.Plain ∧ e.2.nesting < Json.maxDepth

/-- The payload that a JSON text describes. -/
def ofText? (text : String) : Option Payload :=
  match Json.parse? text with
  | some (.object fields) => some (SortedMap.ofList fields)
  | _ => none

theorem Plain.value {p : Payload} (h : p.Plain) : p.value.Plain :=
  .object p.sorted fun e he => (h e he).1

theorem Plain.nesting_value_le {p : Payload} (h : p.Plain) : p.value.nesting ≤ Json.maxDepth :=
  Nat.succ_le_succ (Json.nestingOfFields_le fun e he => Nat.le_of_lt_succ (h e he).2)

theorem text_spells {p : Payload} (h : p.Plain) : Json.Spells p.value p.text.toList := by
  rw [text, Json.compact, String.toList_ofList]
  exact Json.compactChars_spells h.value.exact

theorem text_ne_empty (p : Payload) : p.text ≠ "" := by
  rw [text, Json.compact, Json.compactChars]
  simp

theorem parse?_text {p : Payload} (h : p.Plain) : Json.parse? p.text = some p.value := by
  have hstart : Json.Blank [] := nofun
  have hdoc := Json.Document.intro hstart (text_spells h) hstart
  rw [List.nil_append, List.append_nil] at hdoc
  rw [Json.parse?_of_document hdoc h.nesting_value_le, h.value.sorted_eq]

/-- A payload is read back from its text. -/
theorem ofText?_text {p : Payload} (h : p.Plain) : ofText? p.text = some p := by
  rw [ofText?, parse?_text h]
  exact congrArg some p.ofList_entries

/-- Payloads have the same text just if they have the same values for all keys. -/
theorem text_eq_iff {p q : Payload} (hp : p.Plain) (hq : q.Plain) :
    q.text = p.text ↔ ∀ k, q.get? k = p.get? k := by
  constructor
  · intro h
    have hread := ofText?_text hq
    rw [h, ofText?_text hp] at hread
    rw [Option.some.inj hread]
    exact fun _ => rfl
  · intro h
    rw [SortedMap.ext_get? h]

end Payload

/-! ### The record -/

/-- The value of a field of a record. -/
def Record.field? (r : Record) (name : String) : Option FieldValue :=
  (r.fields.find? fun f => f.1 == name).map (·.2)

/-- **A payload in the journal is faithful.**  The record that a monitor has run out of strikes
holds the payload as JSON text.  The text is not empty and says what the payload holds, key by key
in the order of their bytes, the payload is read back from it, and only the same payload has the
same text. -/
theorem journal_faithful {σ : Type} [Journal σ] (monitor handler : String) (sleep : Binary64)
    (strikes : Strikes) {p : Payload} (hp : p.Plain) (w : σ) :
    (∃ r, Reporter.journal (.strikesExceeded monitor handler sleep strikes p) w =
        ⟨some (), false, Journal.log r w⟩ ∧
      r.field? "memwatch_payload" = some (.text p.text)) ∧
    p.text ≠ "" ∧ Payload.ofText? p.text = some p ∧
    Json.Spells p.value p.text.toList ∧
    (∀ fields, Json.Inside (.object fields) p.value →
      fields.Pairwise fun a b => Text.bytes a.1 < Text.bytes b.1) ∧
    ∀ q : Payload, q.Plain → (q.text = p.text ↔ ∀ k, q.get? k = p.get? k) :=
  ⟨⟨_, rfl, rfl⟩, p.text_ne_empty, Payload.ofText?_text hp, Payload.text_spells hp,
    fun _ hfields => hp.value.pairwise_bytes hfields, fun _ hq => Payload.text_eq_iff hp hq⟩

/-- A payload with all kinds of values. -/
def somePayload : Payload where
  entries :=
    [("a\"b", .array [.null, .bool true, .int (-1)]),
     ("limits", .object [("hard", .int 0xFFFFFFFFFFFFFFFF), ("soft", .object [])]),
     ("path", .string "C:\\temp\x0a\x01\x7fé")]
  sorted := by decide

theorem somePayload_plain : somePayload.Plain := by
  simp only [Payload.Plain, somePayload, List.forall_mem_cons]
  refine ⟨⟨.array ?_, by decide⟩, ⟨.object (by decide) ?_, by decide⟩, ⟨.string _, by decide⟩,
    nofun⟩
  · simp only [List.forall_mem_cons]
    exact ⟨.null, .bool true, .int (by decide), nofun⟩
  · simp only [List.forall_mem_cons]
    exact ⟨.int (by decide), .object .nil nofun, nofun⟩

/-- A payload with all kinds of values in the journal. -/
theorem some_journal_faithful :
    somePayload.Plain ∧
      somePayload.text = "\x7b\"a\\\"b\":[null,true,-1]," ++
        "\"limits\":\x7b\"hard\":18446744073709551615,\"soft\":\x7b\x7d\x7d," ++
        "\"path\":\"C:\\\\temp\\n\\u0001\x7fé\"\x7d" ∧
      Payload.ofText? somePayload.text = some somePayload :=
  ⟨somePayload_plain, by decide, (journal_faithful "memory" "null" ⟨60⟩ default
    somePayload_plain (default : Rehearsal.World)).2.2.1⟩

end Vigil
