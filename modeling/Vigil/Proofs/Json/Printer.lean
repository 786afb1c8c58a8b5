import Mathlib.Data.List.Basic
import Vigil.Json.Printer
import Vigil.Proofs.Json.Grammar

/-!
# Writing JSON

What the printers write, the grammar derives, for all values whose integers have 64 bits and that
hold no binary64 numbers.

* `Exact`: those values;
* `quote_quoted`, `toDigits_numeral`, `intChars_spells`: texts and integers;
* `eq_intercalate`, `separated_intercalate`: items with commas between them;
* `atom_spells`, `compactChars_spells`, `prettyChars_spells`: values without parts, and all values,
  on one line and over several lines.
-/

namespace Vigil.Json

open Vigil.Text

/-- All numbers in a value are integers of 64 bits. -/
structure Exact (v : Json) : Prop where
  inRange : ∀ i, Inside (int i) v → InRange i
  noFloat : ∀ x, ¬ Inside (float x) v

theorem Exact.item {items : List Json} (h : Exact (array items)) {v : Json} (hv : v ∈ items) :
    Exact v where
  inRange i hi := h.inRange i (.item hv hi)
  noFloat x hx := h.noFloat x (.item hv hx)

theorem Exact.field {fields : List (String × Json)} (h : Exact (object fields))
    {f : String × Json} (hf : f ∈ fields) : Exact f.2 where
  inRange i hi := h.inRange i (.field hf hi)
  noFloat x hx := h.noFloat x (.field hf hx)

theorem exact_null : Exact null := ⟨nofun, nofun⟩

theorem exact_bool (b : Bool) : Exact (bool b) := ⟨nofun, nofun⟩

theorem exact_string (s : String) : Exact (string s) := ⟨nofun, nofun⟩

theorem exact_int {i : Int} (hi : InRange i) : Exact (int i) where
  inRange := by
    rintro j ⟨⟩
    exact hi
  noFloat := nofun

theorem exact_array {items : List Json} (h : ∀ v ∈ items, Exact v) : Exact (array items) where
  inRange i hi := by
    obtain _ | ⟨hv, hi⟩ := hi
    exact (h _ hv).inRange i hi
  noFloat x hx := by
    obtain _ | ⟨hv, hx⟩ := hx
    exact (h _ hv).noFloat x hx

theorem exact_object {fields : List (String × Json)} (h : ∀ f ∈ fields, Exact f.2) :
    Exact (object fields) where
  inRange i hi := by
    obtain _ | _ | ⟨hf, hi⟩ := hi
    exact (h _ hf).inRange i hi
  noFloat x hx := by
    obtain _ | _ | ⟨hf, hx⟩ := hx
    exact (h _ hf).noFloat x hx

/-! ### Strings -/

theorem fourDigits_of_lt : ∀ n < 32,
    FourDigits n ['0', '0', Nat.digitChar (n / 16), Nat.digitChar (n % 16)] := by
  have h : ∀ n < 32, ['0', '0', Nat.digitChar (n / 16), Nat.digitChar (n % 16)].all isHexDigit ∧
      ofDigits 16 ['0', '0', Nat.digitChar (n / 16), Nat.digitChar (n % 16)] = n := by
    decide
  exact fun n hn => ⟨rfl, List.all_eq_true.1 (h n hn).1, (h n hn).2⟩

theorem escape_letter (c : Char) : Letter c (escape c) := by
  unfold escape
  split
  case h_8 hquote hbackslash _ _ _ _ _ =>
    split
    next hcontrol => exact .number (fourDigits_of_lt c.toNat (Char.lt_def.1 hcontrol))
    next hcontrol => exact .plain (by simpa using hcontrol) hquote hbackslash
  all_goals exact .shorthand (by decide)

theorem flatMap_escape_letters (cs : List Char) : Letters cs (cs.flatMap escape) := by
  induction cs with
  | nil => exact .nil
  | cons c cs ih => exact .cons (escape_letter c) ih

theorem quote_quoted (s : String) : Quoted s (quote s) := ⟨flatMap_escape_letters s.toList⟩

/-! ### Integers -/

theorem digitChar_isDigit : ∀ d < 10,
    isDigit (Nat.digitChar d) = true ∧ digitValue? (Nat.digitChar d) = some d := by
  decide

/-- One more digit behind a number that is not zero. -/
theorem Numeral.snoc {n d : ℕ} {cs : List Char} (h : Numeral n cs) (hn : n ≠ 0) (hd : d < 10) :
    Numeral (n * 10 + d) (cs ++ [Nat.digitChar d]) where
  ne_nil := by simp
  digits := by
    simp only [List.mem_append, List.mem_singleton]
    rintro c (hc | rfl)
    · exact h.digits c hc
    · exact (digitChar_isDigit d hd).1
  head hhead := by
    rw [List.head?_append_of_ne_nil _ h.ne_nil] at hhead
    have hzero := h.value
    rw [h.head hhead] at hzero
    exact absurd hzero.symm hn
  value := by
    have hvalue := h.value
    rw [ofDigits] at hvalue ⊢
    rw [List.foldl_append, hvalue, List.foldl_cons, (digitChar_isDigit d hd).2]
    rfl

theorem toDigits_numeral (n : ℕ) : Numeral n (Nat.toDigits 10 n) := by
  induction n using Nat.strongRecOn with
  | ind n ih =>
    by_cases hn : n < 10
    · rw [Nat.toDigits_of_lt_base hn]
      obtain ⟨hdigit, hvalue⟩ := digitChar_isDigit n hn
      refine ⟨by simp, by simpa using hdigit, by simp, ?_⟩
      simp [ofDigits, hvalue]
    · -- the quotient is written first, and is not zero
      rw [Nat.toDigits_of_base_le (by decide) (by omega)]
      have h := (ih (n / 10) (by omega)).snoc (d := n % 10) (by omega) (by omega)
      rwa [Nat.div_add_mod'] at h

theorem intChars_spells {i : Int} (hi : InRange i) : Spells (int i) (intChars i) := by
  rw [intChars]
  split
  next hneg =>
    obtain ⟨n, rfl⟩ := Int.exists_eq_neg_ofNat (Int.le_of_lt hneg)
    rw [Int.natAbs_neg, Int.natAbs_natCast]
    exact .negative (toDigits_numeral n) (by omega) hi
  next hneg =>
    obtain ⟨n, rfl⟩ := Int.eq_ofNat_of_zero_le (Int.not_lt.1 hneg)
    exact .natural (toDigits_numeral n) hi

/-! ### Items and fields -/

/-- Texts with commas between them, each with white space in front. -/
theorem separated_intercalate {α : Type} {item : α → List Char → Prop} {ws : List Char}
    (hws : Blank ws) {text : α → List Char} {as : List α} (hne : as ≠ [])
    (has : ∀ a ∈ as, item a (text a)) :
    Separated item as ([','].intercalate (as.map fun a => ws ++ text a)) := by
  have hnone : Blank [] := nofun
  induction as with
  | nil => exact absurd rfl hne
  | cons a as ih =>
    obtain ⟨ha, has⟩ := List.forall_mem_cons.1 has
    cases as with
    | nil =>
      have h := Separated.last hws ha hnone
      simpa using h
    | cons b bs =>
      have h := Separated.cons hws ha hnone (ih (by simp) has)
      rw [List.append_nil] at h
      simpa [List.intercalate_cons_cons] using h

theorem Blank.append {ws ws' : List Char} (h : Blank ws) (h' : Blank ws') : Blank (ws ++ ws') :=
  List.forall_mem_append.2 ⟨h, h'⟩

/-- More white space at the end. -/
theorem Separated.blank {α : Type} {item : α → List Char → Prop} {as : List α}
    {text ws : List Char} (h : Separated item as text) (hws : Blank ws) :
    Separated item as (text ++ ws) := by
  induction h with
  | last hws₁ ha hws₂ =>
    rw [List.append_assoc]
    exact .last hws₁ ha (hws₂.append hws)
  | cons hws₁ ha hws₂ _ ih =>
    rw [List.append_assoc]
    exact .cons hws₁ ha hws₂ ih

theorem newline_blank (level : ℕ) : Blank (newline level) := by
  refine List.forall_mem_cons.2 ⟨by simp, fun c hc => ?_⟩
  rw [(List.mem_replicate.1 hc).2]
  exact .inl rfl

/-- How items are written one after the other. -/
theorem eq_intercalate {α : Type} {write : List α → List Char} {text : α → List Char}
    (nil : write [] = []) (one : ∀ a, write [a] = text a)
    (more : ∀ a b as, write (a :: b :: as) = text a ++ ',' :: write (b :: as)) (as : List α) :
    write as = [','].intercalate (as.map text) := by
  induction as with
  | nil => exact nil
  | cons a as ih =>
    cases as with
    | nil => simp [one]
    | cons b bs =>
      rw [more, ih]
      simp [List.intercalate_cons_cons]

theorem compactItems_eq (items : List Json) :
    compactItems items = [','].intercalate (items.map fun v => [] ++ compactChars v) :=
  eq_intercalate rfl (by simp [compactItems]) (by simp [compactItems]) items

theorem compactFields_eq (fields : List (String × Json)) :
    compactFields fields =
      [','].intercalate (fields.map fun f => [] ++ (quote f.1 ++ ':' :: compactChars f.2)) :=
  eq_intercalate rfl (by simp [compactFields]) (by simp [compactFields]) fields

theorem prettyItems_eq (level : ℕ) (items : List Json) :
    prettyItems level items =
      [','].intercalate (items.map fun v => newline level ++ prettyChars level v) :=
  eq_intercalate rfl (by simp [prettyItems]) (by simp [prettyItems]) items

theorem prettyFields_eq (level : ℕ) (fields : List (String × Json)) :
    prettyFields level fields =
      [','].intercalate (fields.map fun f =>
        newline level ++ (quote f.1 ++ ':' :: ' ' :: prettyChars level f.2)) :=
  eq_intercalate rfl (by simp [prettyFields]) (by simp [prettyFields]) fields

/-- A field whose value stands behind the colon and white space. -/
theorem quote_labelled {f : String × Json} {ws text : List Char} (hws : Blank ws)
    (h : Spells f.2 text) : Labelled Spells f (quote f.1 ++ ':' :: (ws ++ text)) := by
  have hnone : Blank [] := nofun
  have hf := Labelled.intro (quote_quoted f.1) hnone hws h
  simpa using hf

/-! ### Values -/

theorem atom_spells {v : Json} (hv : Exact v) (harray : ∀ items, v ≠ array items)
    (hobject : ∀ fields, v ≠ object fields) : Spells v (atom v) := by
  cases v with
  | null => exact .null
  | bool b =>
    cases b with
    | true => exact .true
    | false => exact .false
  | int i => exact intChars_spells (hv.inRange i (.self _))
  | float x => exact absurd (.self _) (hv.noFloat x)
  | string s => exact .string (quote_quoted s)
  | array items => exact absurd rfl (harray items)
  | object fields => exact absurd rfl (hobject fields)

/-- **A value on one line is in the grammar.** -/
theorem compactChars_spells {v : Json} (hv : Exact v) : Spells v (compactChars v) := by
  have hnone : Blank [] := nofun
  induction v using induct with
  | null | bool | int | float | string => exact atom_spells hv nofun nofun
  | array items ih =>
    cases items with
    | nil => exact .emptyArray hnone
    | cons u us =>
      rw [compactChars, compactItems_eq]
      exact .array (separated_intercalate hnone (by simp) fun v hmem => ih v hmem (hv.item hmem))
  | object fields ih =>
    cases fields with
    | nil => exact .emptyObject hnone
    | cons e es =>
      rw [compactChars, compactFields_eq]
      exact .object (separated_intercalate hnone (by simp) fun f hmem =>
        quote_labelled hnone (ih f hmem (hv.field hmem)))

/-- **A value over several lines is in the grammar.** -/
theorem prettyChars_spells {v : Json} (hv : Exact v) (level : ℕ) :
    Spells v (prettyChars level v) := by
  have hnone : Blank [] := nofun
  induction v using induct generalizing level with
  | null | bool | int | float | string => exact atom_spells hv nofun nofun
  | array items ih =>
    cases items with
    | nil => exact .emptyArray hnone
    | cons u us =>
      rw [prettyChars, prettyItems_eq]
      · have h := separated_intercalate (newline_blank (level + 1)) (by simp)
          fun v hmem => ih v hmem (hv.item hmem) (level + 1)
        exact .array (h.blank (newline_blank level))
      · simp
  | object fields ih =>
    cases fields with
    | nil => exact .emptyObject hnone
    | cons e es =>
      rw [prettyChars, prettyFields_eq]
      · have hblank : Blank [' '] := by simp [Blank]
        have h := separated_intercalate (newline_blank (level + 1)) (by simp)
          fun f hmem => quote_labelled hblank (ih f hmem (hv.field hmem) (level + 1))
        exact .object (h.blank (newline_blank level))
      · simp

end Vigil.Json
