import Mathlib.Data.List.Nodup
import Vigil.Monitor
import Vigil.Proofs.Text.Order

/-!
# Building the payload of a verdict

Entries are added to the payload of a verdict one after another, and the last one with a key counts.

* `Verdict.attachAll`: add entries in order;
* `Verdict.Lasts`: the value that the last entry with a key gives;
* `Verdict.get?_attachAll_eq_some_iff`: the values of the payload;
* `Verdict.attachAll_congr`, `Verdict.lasts_congr_of_perm`: when the order does not matter;
* `Verdict.payload_updated`: what is built.
-/

namespace Vigil

namespace SortedMap

variable {α : Type}

theorem get?_foldl_insert (m : SortedMap α) (es : List (String × α)) (k : String) :
    (es.foldl (fun m e => m.insert e.1 e.2) m).get? k =
      ((es.reverse.find? fun e => e.1 == k).map (·.2)).or (m.get? k) := by
  rw [get?, find?_foldl_insert, Option.map_or, get?]

end SortedMap

namespace Verdict

/-- Add entries to the payload, one after another. -/
def attachAll (v : Verdict) (es : List (String × Json)) : Verdict :=
  es.foldl (fun v e => v.attach e.1 e.2) v

/-- The last entry with a key has the value. -/
def Lasts (es : List (String × Json)) (k : String) (x : Json) : Prop :=
  ∃ before after, es = before ++ (k, x) :: after ∧ ∀ e ∈ after, e.1 ≠ k

variable {es es' : List (String × Json)} {k : String} {x : Json}

/-! ### The last entry with a key -/

theorem lasts_iff : Lasts es k x ↔ es.reverse.find? (fun e => e.1 == k) = some (k, x) := by
  rw [List.find?_eq_some_iff_append]
  constructor
  · rintro ⟨before, after, rfl, hafter⟩
    exact ⟨beq_self_eq_true k, after.reverse, before.reverse, by simp, by simpa using hafter⟩
  · rintro ⟨-, after, before, hes, hafter⟩
    refine ⟨before.reverse, after.reverse, ?_, by simpa using hafter⟩
    rw [← List.reverse_reverse es, hes]
    simp

theorem map_find?_reverse_eq_some_iff :
    (es.reverse.find? fun e => e.1 == k).map (·.2) = some x ↔ Lasts es k x := by
  rw [lasts_iff, Option.map_eq_some_iff]
  constructor
  · rintro ⟨e, he, rfl⟩
    obtain rfl : e.1 = k := by simpa using List.find?_some he
    exact he
  · intro h
    exact ⟨(k, x), h, rfl⟩

/-- Of entries with different keys each is the last one with its key. -/
theorem lasts_iff_mem (h : (es.map (·.1)).Nodup) : Lasts es k x ↔ (k, x) ∈ es := by
  constructor
  · rintro ⟨before, after, rfl, -⟩
    simp
  · intro hmem
    obtain ⟨before, after, rfl⟩ := List.append_of_mem hmem
    refine ⟨before, after, rfl, fun e he hk => ?_⟩
    rw [List.map_append, List.map_cons, List.nodup_append, List.nodup_cons] at h
    exact h.2.1.1 (List.mem_map.2 ⟨e, he, hk⟩)

theorem lasts_congr_of_perm (h : es.Perm es') (hkeys : (es.map (·.1)).Nodup) :
    Lasts es k x ↔ Lasts es' k x := by
  rw [lasts_iff_mem hkeys, lasts_iff_mem ((h.map _).nodup_iff.1 hkeys), h.mem_iff]

/-! ### What is built -/

/-- Only the payload changes. -/
theorem attachAll_eq (v : Verdict) (es : List (String × Json)) :
    v.attachAll es = { v with payload := es.foldl (fun m e => m.insert e.1 e.2) v.payload } := by
  induction es generalizing v with
  | nil => rfl
  | cons e es ih => exact ih (v.attach e.1 e.2)

theorem get?_attachAll_eq_some_iff (v : Verdict) :
    (v.attachAll es).payload.get? k = some x ↔
      Lasts es k x ∨ (∀ e ∈ es, e.1 ≠ k) ∧ v.payload.get? k = some x := by
  rw [attachAll_eq, SortedMap.get?_foldl_insert, Option.or_eq_some_iff,
    map_find?_reverse_eq_some_iff]
  simp

/-- Only the last entries count. -/
theorem attachAll_congr (v : Verdict) (h : ∀ k x, Lasts es k x ↔ Lasts es' k x) :
    v.attachAll es' = v.attachAll es := by
  have hfind (k : String) : (es'.reverse.find? fun e => e.1 == k).map (·.2) =
      (es.reverse.find? fun e => e.1 == k).map (·.2) := Option.ext fun x => by
    rw [map_find?_reverse_eq_some_iff, map_find?_reverse_eq_some_iff, h]
  rw [attachAll_eq, attachAll_eq]
  congr 1
  exact SortedMap.ext_get? fun k => by
    rw [SortedMap.get?_foldl_insert, SortedMap.get?_foldl_insert, hfind]

/-- **Adding entries updates a map.**  The payload gives to each key what the last entry with the
key says, or what it gave before if there is none, and its keys are in the strict order of their
bytes; the judgement stays.  The same last entries for all keys make the same verdict, and so do
entries with different keys in any order. -/
theorem payload_updated (v : Verdict) (es : List (String × Json)) :
    (∀ k x, (v.attachAll es).payload.get? k = some x ↔
      Lasts es k x ∨ (∀ e ∈ es, e.1 ≠ k) ∧ v.payload.get? k = some x) ∧
    ((v.attachAll es).payload.keys.Pairwise fun a b => Text.bytes a < Text.bytes b) ∧
    (v.attachAll es).violated = v.violated ∧
    (∀ es', (∀ k x, Lasts es k x ↔ Lasts es' k x) → v.attachAll es' = v.attachAll es) ∧
    ∀ es', es.Perm es' → (es.map (·.1)).Nodup → v.attachAll es' = v.attachAll es := by
  refine ⟨fun k x => get?_attachAll_eq_some_iff v, ?_, by rw [attachAll_eq],
    fun es' h => attachAll_congr v h,
    fun es' hperm hkeys => attachAll_congr v fun k x => lasts_congr_of_perm hperm hkeys⟩
  exact List.pairwise_map.2 ((v.attachAll es).payload.sorted.imp Text.bytes_lt_iff.2)

/-- A key that was bound before and is bound twice again, among others. -/
theorem payload_updated_twice :
    let v : Verdict := ⟨true, SortedMap.ofList [("b", .null), ("c", .bool true)]⟩
    let es : List (String × Json) := [("b", .int 1), ("é", .string ""), ("a", .int 2), ("b", .int 3)]
    let es' : List (String × Json) := [("b", .int 3), ("a", .int 2), ("é", .string "")]
    (v.attachAll es).payload.get? "b" = some (.int 3) ∧
      (v.attachAll es).payload.get? "c" = some (.bool true) ∧
      (v.attachAll es).violated = true ∧ (es'.map (·.1)).Nodup ∧ es'.Perm es'.reverse ∧
      v.attachAll es'.reverse = v.attachAll es' ∧ v.attachAll es' = v.attachAll es := by
  intro v es es'
  obtain ⟨hget, -, hviolated, hlasts, -⟩ := payload_updated v es
  obtain ⟨-, -, -, -, hperm⟩ := payload_updated v es'
  have hnodup : (es'.map (·.1)).Nodup := by decide
  have hrev : es'.Perm es'.reverse := (List.reverse_perm es').symm
  have hsame (k : String) (x : Json) : Lasts es k x ↔ Lasts es' k x := by
    simp only [lasts_iff, es, es', List.reverse_cons, List.reverse_nil, List.nil_append,
      List.cons_append, List.find?_cons, List.find?_nil]
    by_cases hb : k = "b"
    · subst hb; rfl
    by_cases ha : k = "a"
    · subst ha; rfl
    simp only [beq_eq_false_iff_ne.2 (Ne.symm hb), beq_eq_false_iff_ne.2 (Ne.symm ha)]
  exact ⟨(hget _ _).2 (.inl ⟨es.take 3, [], rfl, nofun⟩), (hget _ _).2 (.inr ⟨by decide, rfl⟩),
    hviolated, hnodup, hrev, hperm _ hrev hnodup, hlasts es' hsame⟩

end Verdict

end Vigil
