import Vigil.Proofs.Toml.Proper

/-!
# What documents say

The value tree of a document: what is left of it without the places of its parts, and without the
ways in which its tables came about.

* `Value`, `Node.value`, `Table.value`: the tree;
* `Value.find?`, `Value.at?`: the value with a name, and the one at the end of a path of names;
* `Node.find?_value`, `Table.Proper.find?_value_of_mem`: finding entries.
-/

namespace Vigil.Toml

/-- A value tree. -/
inductive Value where
  | leaf (v : Scalar)
  | array (items : List Value)
  | table (entries : List (String × Value))

namespace Value

/-- The entries of a table; other values have none. -/
def entries : Value → List (String × Value)
  | table entries => entries
  | leaf _ | array _ => []

/-- Whether it is a table. -/
def isTable : Value → Bool
  | table _ => true
  | leaf _ | array _ => false

/-- The value with a name. -/
def find? (v : Value) (name : String) : Option Value :=
  (v.entries.find? (fun e => e.1 == name)).map (·.2)

/-- The value at the end of a path of names. -/
def at? : List String → Value → Option Value
  | [], v => some v
  | name :: path, v => (v.find? name).bind (at? path)

end Value

mutual

/-- What a part of a document says. -/
def Node.value : Node → Value
  | .leaf _ v => .leaf v
  | .array _ items => .array (values items)
  | .table _ _ entries => .table (fields entries)
  | .tables _ items => .array (values items)

/-- What the items of an array say. -/
def values : List Node → List Value
  | [] => []
  | n :: items => n.value :: values items

/-- What the entries of a table say. -/
def fields : List (Key × Node) → List (String × Value)
  | [] => []
  | (key, n) :: entries => (key.text, n.value) :: fields entries

end

/-- What a table says. -/
def Table.value (t : Table) : Value := t.node.value

theorem fields_eq_map (entries : List (Key × Node)) :
    fields entries = entries.map fun e => (e.1.text, e.2.value) := by
  induction entries with
  | nil => rfl
  | cons e entries ih => rw [fields, ih, List.map_cons]

theorem Node.find?_value (origin : Origin) (span : Option Span) (entries : List (Key × Node))
    (name : String) :
    (Node.table origin span entries).value.find? name =
      (entries.find? (fun e => e.1.text == name)).map (·.2.value) := by
  rw [Node.value, Value.find?, Value.entries, fields_eq_map, List.find?_map, Option.map_map]
  rfl

/-- A table is a table. -/
theorem Node.isTable_value {n : Node} :
    n.value.isTable ↔ ∃ origin span entries, n = .table origin span entries := by
  cases n <;> simp [Node.value, Value.isTable]

/-- With different names for all entries, each is found by its name. -/
theorem find?_of_mem {β : Type} {name : β → String} {es : List β} (hnames : (es.map name).Nodup)
    {e : β} (he : e ∈ es) : es.find? (fun x => name x == name e) = some e := by
  induction es with
  | nil => cases he
  | cons x es ih =>
    rw [List.map_cons, List.nodup_cons] at hnames
    rcases List.mem_cons.1 he with rfl | he
    · simp
    · have hne : name x ≠ name e := fun h => hnames.1 (h ▸ List.mem_map_of_mem he)
      simpa [hne] using ih hnames.2 he

theorem Node.Proper.fits {n : Node} (hn : n.Proper) {i : Int} (h : n.value = .leaf (.integer i)) :
    fits i := by
  cases hn with
  | leaf hfits => exact hfits i (Value.leaf.inj h)
  | array | table | tables => cases h

/-- Every entry of a proper table is found by its name. -/
theorem Table.Proper.find?_value_of_mem {t : Table} (ht : t.Proper) {e : Key × Node}
    (he : e ∈ t.entries) {name : String} (hname : e.1.text = name) :
    t.value.find? name = some e.2.value := by
  rw [Table.value, Table.node, Node.find?_value, ← hname, find?_of_mem ht.names he]
  rfl

/-- Tables in a proper table are proper. -/
theorem Table.Proper.exists_table {t : Table} (ht : t.Proper) {e : Key × Node}
    (he : e ∈ t.entries) (htable : e.2.value.isTable) : ∃ u : Table, u.Proper ∧ e.2 = u.node := by
  obtain ⟨origin, span, entries, hnode⟩ := Node.isTable_value.1 htable
  have hproper := ht.nodes e he
  rw [hnode] at hproper
  exact ⟨⟨origin, span, entries⟩, proper_node.1 hproper, hnode⟩

end Vigil.Toml
