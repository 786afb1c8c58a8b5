/-!
# Maps from text to values, in key order

A `SortedMap` lists its entries with strictly increasing keys.  Text is compared code point
by code point, which for UTF-8 is the order of the bytes.

* `SortedMap`, `SortedMap.empty`, `SortedMap.insert`, `SortedMap.ofList`: building;
* `SortedMap.get?`, `SortedMap.keys`: reading;
* `SortedMap.get?_eq_some_iff`: a value is found just if its entry is listed;
* `SortedMap.ext`, `SortedMap.ext_get?`: maps with the same entries are equal, and so are those with
  the same values for all keys;
* `SortedMap.get?_insert_self`, `SortedMap.get?_insert_of_ne`: what a map with one more entry gives;
* `SortedMap.entries_ofList`, `SortedMap.find?_ofList`: what is made of a list of entries.
-/

namespace Vigil

/-- A finite map whose entries are listed with strictly increasing keys. -/
structure SortedMap (α : Type) where
  entries : List (String × α)
  sorted : entries.Pairwise (fun a b => a.1 < b.1)

namespace SortedMap

variable {α β : Type}

@[ext]
theorem ext {m n : SortedMap α} (h : m.entries = n.entries) : m = n := by
  cases m; cases n; cases h; rfl

/-- The map without entries. -/
def empty : SortedMap α := ⟨[], List.Pairwise.nil⟩

instance : Inhabited (SortedMap α) := ⟨empty⟩

instance : EmptyCollection (SortedMap α) := ⟨empty⟩

/-- Put an entry at its place in a sorted list, over an entry with the same key. -/
def insertEntry (k : String) (v : α) : List (String × α) → List (String × α)
  | [] => [(k, v)]
  | e :: es =>
    if k < e.1 then (k, v) :: e :: es
    else if e.1 < k then e :: insertEntry k v es
    else (k, v) :: es

theorem eq_of_not_lt {a b : String} (h₁ : ¬a < b) (h₂ : ¬b < a) : a = b :=
  String.le_antisymm (String.not_lt.1 h₂) (String.not_lt.1 h₁)

theorem mem_insertEntry {k : String} {v : α} {x : String × α} {es : List (String × α)}
    (h : x ∈ insertEntry k v es) : x = (k, v) ∨ x ∈ es := by
  induction es with
  | nil => simpa [insertEntry] using h
  | cons e es ih =>
    simp only [insertEntry] at h
    split at h
    · simpa using h
    · split at h
      · rcases List.mem_cons.1 h with h | h
        · exact .inr (by simp [h])
        · exact (ih h).imp id (List.mem_cons_of_mem e)
      · rcases List.mem_cons.1 h with h | h
        · exact .inl h
        · exact .inr (List.mem_cons_of_mem e h)

theorem pairwise_insertEntry (k : String) (v : α) {es : List (String × α)}
    (h : es.Pairwise (fun a b => a.1 < b.1)) :
    (insertEntry k v es).Pairwise (fun a b => a.1 < b.1) := by
  induction es with
  | nil => simp [insertEntry]
  | cons e es ih =>
    obtain ⟨hlt, hes⟩ := List.pairwise_cons.1 h
    simp only [insertEntry]
    split
    · next hk =>
      refine List.pairwise_cons.2 ⟨fun x hx => ?_, h⟩
      rcases List.mem_cons.1 hx with rfl | hx
      · exact hk
      · exact String.lt_trans hk (hlt x hx)
    · next hk =>
      split
      · next hk' =>
        refine List.pairwise_cons.2 ⟨fun x hx => ?_, ih hes⟩
        rcases mem_insertEntry hx with rfl | hx
        · exact hk'
        · exact hlt x hx
      · next hk' =>
        obtain rfl : k = e.1 := eq_of_not_lt hk hk'
        exact List.pairwise_cons.2 ⟨hlt, hes⟩

/-- Bind a key to a value, over the value it had. -/
def insert (m : SortedMap α) (k : String) (v : α) : SortedMap α :=
  ⟨insertEntry k v m.entries, pairwise_insertEntry k v m.sorted⟩

/-- The value of a key. -/
def get? (m : SortedMap α) (k : String) : Option α :=
  (m.entries.find? (fun e => e.1 == k)).map (·.2)

/-- The keys, in order. -/
def keys (m : SortedMap α) : List String := m.entries.map (·.1)

/-- Whether the map has no entry. -/
def isEmpty (m : SortedMap α) : Bool := m.entries.isEmpty

/-- The entries of a list, a later one over an earlier one with the same key. -/
def ofList (es : List (String × α)) : SortedMap α :=
  es.foldl (fun m e => m.insert e.1 e.2) empty

@[simp]
theorem entries_empty : (empty : SortedMap α).entries = [] := rfl

@[simp]
theorem entries_insert (m : SortedMap α) (k : String) (v : α) :
    (m.insert k v).entries = insertEntry k v m.entries := rfl

theorem find?_insertEntry_self (k : String) (v : α) (es : List (String × α)) :
    (insertEntry k v es).find? (fun e => e.1 == k) = some (k, v) := by
  induction es with
  | nil => simp [insertEntry]
  | cons e es ih =>
    simp only [insertEntry]
    split
    · simp
    · split
      · next hlt =>
        have hne : e.1 ≠ k := fun h => String.lt_irrefl k (h ▸ hlt)
        simpa [hne] using ih
      · simp

theorem find?_insertEntry_of_ne {k k' : String} (h : k' ≠ k) (v : α) (es : List (String × α)) :
    (insertEntry k v es).find? (fun e => e.1 == k') = es.find? (fun e => e.1 == k') := by
  induction es with
  | nil => simp [insertEntry, h.symm]
  | cons e es ih =>
    simp only [insertEntry]
    split
    · simp [h.symm]
    · next hk =>
      split
      · simp only [List.find?_cons, ih]
      · next hk' =>
        obtain rfl : k = e.1 := eq_of_not_lt hk hk'
        simp [h.symm]

@[simp]
theorem get?_insert_self (m : SortedMap α) (k : String) (v : α) :
    (m.insert k v).get? k = some v := by
  rw [get?, entries_insert, find?_insertEntry_self]
  rfl

theorem get?_insert_of_ne {k k' : String} (h : k' ≠ k) (m : SortedMap α) (v : α) :
    (m.insert k v).get? k' = m.get? k' := by
  rw [get?, entries_insert, find?_insertEntry_of_ne h, get?]

theorem mem_keys {m : SortedMap α} {k : String} : k ∈ m.keys ↔ (m.get? k).isSome := by
  simp [keys, get?]

/-- In a sorted list an entry is found by its key. -/
theorem find?_of_mem {e : String × α} {es : List (String × α)}
    (h : es.Pairwise (fun a b => a.1 < b.1)) (he : e ∈ es) :
    es.find? (fun x => x.1 == e.1) = some e := by
  induction es with
  | nil => cases he
  | cons f es ih =>
    obtain ⟨hf, hes⟩ := List.pairwise_cons.1 h
    rcases List.mem_cons.1 he with rfl | he
    · simp
    · have hne : f.1 ≠ e.1 := fun heq => String.lt_irrefl f.1 (heq ▸ hf e he)
      rw [List.find?_cons_of_neg (by simpa using hne), ih hes he]

theorem get?_eq_some_iff {m : SortedMap α} {k : String} {v : α} :
    m.get? k = some v ↔ (k, v) ∈ m.entries := by
  rw [get?, Option.map_eq_some_iff]
  constructor
  · rintro ⟨e, he, rfl⟩
    obtain rfl : e.1 = k := by simpa using List.find?_some he
    exact List.mem_of_find?_eq_some he
  · intro h
    exact ⟨(k, v), find?_of_mem m.sorted h, rfl⟩

theorem find?_eq_none_of_lt {k : String} {es : List (String × α)} (h : ∀ e ∈ es, k < e.1) :
    es.find? (fun e => e.1 == k) = none := by
  rw [List.find?_eq_none]
  intro e he heq
  exact String.lt_irrefl k (by simpa [eq_of_beq heq] using h e he)

theorem not_lt_of_find? {e f : String × α} {es fs : List (String × α)} (hf : ∀ x ∈ fs, f.1 < x.1)
    (h : ((f :: fs).find? (fun x => x.1 == e.1)).map (·.2) =
      ((e :: es).find? (fun x => x.1 == e.1)).map (·.2)) : ¬ e.1 < f.1 := by
  intro hlt
  have hnone : (f :: fs).find? (fun x => x.1 == e.1) = none := find?_eq_none_of_lt fun x hx => by
    rcases List.mem_cons.1 hx with rfl | hx
    · exact hlt
    · exact String.lt_trans hlt (hf x hx)
  simp [hnone] at h

/-- Sorted lists that give the same values to all keys are the same. -/
theorem eq_of_find? {es fs : List (String × α)} (hes : es.Pairwise (fun a b => a.1 < b.1))
    (hfs : fs.Pairwise (fun a b => a.1 < b.1))
    (h : ∀ k, (es.find? (fun e => e.1 == k)).map (·.2) = (fs.find? (fun e => e.1 == k)).map (·.2)) :
    es = fs := by
  induction es generalizing fs with
  | nil =>
    cases fs with
    | nil => rfl
    | cons f fs => simpa using h f.1
  | cons e es ih =>
    cases fs with
    | nil => simpa using h e.1
    | cons f fs =>
      obtain ⟨he, hes⟩ := List.pairwise_cons.1 hes
      obtain ⟨hf, hfs⟩ := List.pairwise_cons.1 hfs
      have hkey : e.1 = f.1 :=
        eq_of_not_lt (not_lt_of_find? hf (h e.1).symm) (not_lt_of_find? he (h f.1))
      have hvalue : e.2 = f.2 := by simpa [← hkey] using h e.1
      rw [Prod.ext hkey hvalue, ih hes hfs fun k => ?_]
      by_cases hk : f.1 = k
      · subst hk
        rw [find?_eq_none_of_lt (hkey ▸ he), find?_eq_none_of_lt hf]
      · simpa [hkey, hk] using h k

theorem ext_get? {m n : SortedMap α} (h : ∀ k, m.get? k = n.get? k) : m = n :=
  ext (eq_of_find? m.sorted n.sorted h)

/-- An entry with a larger key than all others is put at the end. -/
theorem insertEntry_of_forall_lt {k : String} {v : α} {es : List (String × α)}
    (h : ∀ e ∈ es, e.1 < k) : insertEntry k v es = es ++ [(k, v)] := by
  induction es with
  | nil => rfl
  | cons e es ih =>
    obtain ⟨he, hes⟩ := List.forall_mem_cons.1 h
    rw [insertEntry, if_neg (String.lt_asymm he), if_pos he, ih hes, List.cons_append]

theorem entries_foldl_insert {m : SortedMap α} {es : List (String × α)}
    (h : (m.entries ++ es).Pairwise (fun a b => a.1 < b.1)) :
    (es.foldl (fun m e => m.insert e.1 e.2) m).entries = m.entries ++ es := by
  induction es generalizing m with
  | nil => rw [List.append_nil, List.foldl_nil]
  | cons e es ih =>
    have hlast : (m.insert e.1 e.2).entries = m.entries ++ [e] :=
      insertEntry_of_forall_lt fun a ha => (List.pairwise_append.1 h).2.2 a ha e List.mem_cons_self
    rw [List.foldl_cons, ih (by rwa [hlast, List.append_assoc]), hlast, List.append_assoc,
      List.singleton_append]

/-- The entries of a sorted list are that list. -/
theorem entries_ofList {es : List (String × α)} (h : es.Pairwise (fun a b => a.1 < b.1)) :
    (ofList es).entries = es :=
  entries_foldl_insert h

theorem ofList_entries (m : SortedMap α) : ofList m.entries = m := ext (entries_ofList m.sorted)

theorem find?_foldl_insert (m : SortedMap α) (es : List (String × α)) (k : String) :
    (es.foldl (fun m e => m.insert e.1 e.2) m).entries.find? (fun e => e.1 == k) =
      (es.reverse.find? (fun e => e.1 == k)).or (m.entries.find? (fun e => e.1 == k)) := by
  induction es generalizing m with
  | nil => rfl
  | cons e es ih =>
    rw [List.foldl_cons, ih, entries_insert, List.reverse_cons, List.find?_append, Option.or_assoc]
    congr 1
    by_cases hk : e.1 = k
    · rw [← hk, find?_insertEntry_self]
      simp
    · rw [find?_insertEntry_of_ne (Ne.symm hk)]
      simp [hk]

/-- Of several entries with a key the last one is found. -/
theorem find?_ofList (es : List (String × α)) (k : String) :
    (ofList es).entries.find? (fun e => e.1 == k) = es.reverse.find? (fun e => e.1 == k) := by
  rw [ofList, find?_foldl_insert, entries_empty, List.find?_nil, Option.or_none]

instance [BEq α] : BEq (SortedMap α) := ⟨fun m n => m.entries == n.entries⟩

instance [DecidableEq α] : DecidableEq (SortedMap α) := fun m n =>
  if h : m.entries = n.entries then .isTrue (ext h) else .isFalse (fun e => h (e ▸ rfl))

end SortedMap

end Vigil
