import Mathlib.Data.Nat.Notation
import Vigil.Json.Value
import Vigil.Text.Digit

/-!
# The grammar of JSON

Which texts spell which values, apart from any reader or printer.  Between the parts of a text
white space may stand, a character of a string may be spelled in several ways, and the fields of an
object are listed as they are written.  Numbers are integers here.

* `Blank`, `Numeral`, `Letter`, `Quoted`: white space, digits, and strings between quotes;
* `Separated`, `Labelled`: items with commas between them, and fields with a name;
* `Spells`, `Document`: values, and whole texts;
* `Inside`, `nesting`: the values inside a value, and how deep they stand;
* `Json.induct`: induction over values.
-/

namespace Vigil.Json

open Vigil.Text

/-! ### Texts -/

/-- White space. -/
def Blank (cs : List Char) : Prop := ∀ c ∈ cs, c = ' ' ∨ c = '\t' ∨ c = '\n' ∨ c = '\r'

/-- The digits of a natural number: a lone zero, or no zero in front. -/
structure Numeral (n : ℕ) (cs : List Char) : Prop where
  ne_nil : cs ≠ []
  digits : ∀ c ∈ cs, isDigit c = true
  head : cs.head? = some '0' → cs = ['0']
  value : ofDigits 10 cs = n

/-- Four hexadecimal digits of a number. -/
structure FourDigits (n : ℕ) (cs : List Char) : Prop where
  length : cs.length = 4
  digits : ∀ c ∈ cs, isHexDigit c = true
  value : ofDigits 16 cs = n

/-- The letters that stand for a character behind a backslash. -/
def shorthands : List (Char × Char) :=
  [('"', '"'), ('\\', '\\'), ('/', '/'), ('b', '\x08'), ('f', '\x0c'), ('n', '\n'), ('r', '\r'),
    ('t', '\t')]

/-- The ways to spell a character between quotes.  Apart from control characters, quote and
backslash, each character spells itself; any can be spelled by its number, a larger number by its
two halves. -/
inductive Letter : Char → List Char → Prop
  | plain {c : Char} (hcontrol : ' ' ≤ c) (hquote : c ≠ '"') (hbackslash : c ≠ '\\') : Letter c [c]
  | shorthand {c letter : Char} (h : (letter, c) ∈ shorthands) : Letter c ['\\', letter]
  | number {c : Char} {digits : List Char} (h : FourDigits c.toNat digits) :
      Letter c ('\\' :: 'u' :: digits)
  | halves {c : Char} {high low : ℕ} {digits digits' : List Char} (h : FourDigits high digits)
      (h' : FourDigits low digits') (hhigh : 0xD800 ≤ high ∧ high < 0xDC00)
      (hlow : 0xDC00 ≤ low ∧ low < 0xE000)
      (hc : c.toNat = 0x10000 + (high - 0xD800) * 0x400 + (low - 0xDC00)) :
      Letter c ('\\' :: 'u' :: digits ++ '\\' :: 'u' :: digits')

/-- Characters, one after the other. -/
inductive Letters : List Char → List Char → Prop
  | nil : Letters [] []
  | cons {c : Char} {cs text text' : List Char} (hc : Letter c text) (hcs : Letters cs text') :
      Letters (c :: cs) (text ++ text')

/-- A string between quotes. -/
inductive Quoted : String → List Char → Prop
  | intro {s : String} {text : List Char} (h : Letters s.toList text) :
      Quoted s ('"' :: text ++ ['"'])

/-- One or more items with commas between them, and white space around them. -/
inductive Separated {α : Type} (item : α → List Char → Prop) : List α → List Char → Prop
  | last {a : α} {ws text ws' : List Char} (hws : Blank ws) (ha : item a text) (hws' : Blank ws') :
      Separated item [a] (ws ++ text ++ ws')
  | cons {a : α} {as : List α} {ws text ws' text' : List Char} (hws : Blank ws)
      (ha : item a text) (hws' : Blank ws') (has : Separated item as text') :
      Separated item (a :: as) (ws ++ text ++ ws' ++ ',' :: text')

/-- A field: its name between quotes, a colon and its value. -/
inductive Labelled {α : Type} (value : α → List Char → Prop) : String × α → List Char → Prop
  | intro {k : String} {a : α} {name ws ws' text : List Char} (hname : Quoted k name)
      (hws : Blank ws) (hws' : Blank ws') (ha : value a text) :
      Labelled value (k, a) (name ++ ws ++ ':' :: ws' ++ text)

/-- A text spells a value.  There is no negative zero among the integers. -/
inductive Spells : Json → List Char → Prop
  | null : Spells null ['n', 'u', 'l', 'l']
  | true : Spells (bool true) ['t', 'r', 'u', 'e']
  | false : Spells (bool false) ['f', 'a', 'l', 's', 'e']
  | natural {n : ℕ} {text : List Char} (h : Numeral n text) (hrange : InRange n) :
      Spells (int n) text
  | negative {n : ℕ} {text : List Char} (h : Numeral n text) (hzero : n ≠ 0)
      (hrange : InRange (-n)) : Spells (int (-n)) ('-' :: text)
  | string {s : String} {text : List Char} (h : Quoted s text) : Spells (string s) text
  | emptyArray {ws : List Char} (hws : Blank ws) : Spells (array []) ('[' :: ws ++ [']'])
  | array {items : List Json} {text : List Char} (h : Separated Spells items text) :
      Spells (array items) ('[' :: text ++ [']'])
  | emptyObject {ws : List Char} (hws : Blank ws) : Spells (object []) ('{' :: ws ++ ['}'])
  | object {fields : List (String × Json)} {text : List Char}
      (h : Separated (Labelled Spells) fields text) : Spells (object fields) ('{' :: text ++ ['}'])

/-- A whole text that spells a value. -/
inductive Document : Json → List Char → Prop
  | intro {v : Json} {ws text ws' : List Char} (hws : Blank ws) (h : Spells v text)
      (hws' : Blank ws') : Document v (ws ++ text ++ ws')

/-! ### Values -/

/-- The values inside a value, itself included. -/
inductive Inside : Json → Json → Prop
  | self (v : Json) : Inside v v
  | item {u v : Json} {items : List Json} (hv : v ∈ items) (h : Inside u v) :
      Inside u (array items)
  | field {u : Json} {f : String × Json} {fields : List (String × Json)} (hf : f ∈ fields)
      (h : Inside u f.2) : Inside u (object fields)

mutual

/-- How many arrays and objects stand inside each other at most. -/
def nesting : Json → ℕ
  | array items => nestingOfItems items + 1
  | object fields => nestingOfFields fields + 1
  | _ => 0

/-- The largest number among items. -/
def nestingOfItems : List Json → ℕ
  | [] => 0
  | v :: vs => max (nesting v) (nestingOfItems vs)

/-- The largest number among the values of fields. -/
def nestingOfFields : List (String × Json) → ℕ
  | [] => 0
  | (_, v) :: fs => max (nesting v) (nestingOfFields fs)

end

/-- What holds of an array if it holds of its items, of an object if it holds of the values of its
fields, and of all values without parts, holds of all values. -/
@[elab_as_elim]
theorem induct {P : Json → Prop} (null : P null) (bool : ∀ b, P (bool b)) (int : ∀ i, P (int i))
    (float : ∀ x, P (float x)) (string : ∀ s, P (string s))
    (array : ∀ items, (∀ v ∈ items, P v) → P (array items))
    (object : ∀ fields, (∀ f ∈ fields, P f.2) → P (object fields)) (v : Json) : P v :=
  @Json.rec P (fun items => ∀ v ∈ items, P v) (fun fields => ∀ f ∈ fields, P f.2) (fun f => P f.2)
    null bool int float string array object
    nofun (fun _ _ hv hvs => List.forall_mem_cons.2 ⟨hv, hvs⟩)
    nofun (fun _ _ hf hfs => List.forall_mem_cons.2 ⟨hf, hfs⟩) (fun _ _ hv => hv) v

theorem nesting_le_of_mem {v : Json} {items : List Json} (hv : v ∈ items) :
    v.nesting ≤ nestingOfItems items := by
  induction items with
  | nil => cases hv
  | cons u items ih =>
    rw [nestingOfItems]
    rcases List.mem_cons.1 hv with rfl | hv
    · exact Nat.le_max_left _ _
    · exact Nat.le_trans (ih hv) (Nat.le_max_right _ _)

theorem nesting_le_of_mem_fields {f : String × Json} {fields : List (String × Json)}
    (hf : f ∈ fields) : f.2.nesting ≤ nestingOfFields fields := by
  induction fields with
  | nil => cases hf
  | cons e fields ih =>
    rw [nestingOfFields]
    rcases List.mem_cons.1 hf with rfl | hf
    · exact Nat.le_max_left _ _
    · exact Nat.le_trans (ih hf) (Nat.le_max_right _ _)

theorem nestingOfFields_le {n : ℕ} {fields : List (String × Json)}
    (h : ∀ f ∈ fields, f.2.nesting ≤ n) : nestingOfFields fields ≤ n := by
  induction fields with
  | nil => exact Nat.zero_le n
  | cons e fields ih =>
    obtain ⟨he, hfields⟩ := List.forall_mem_cons.1 h
    rw [nestingOfFields]
    exact Nat.max_le.2 ⟨he, ih hfields⟩

end Vigil.Json
