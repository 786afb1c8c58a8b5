import Mathlib.Data.List.Basic
import Vigil.Json.Reader
import Vigil.Proofs.Json.Grammar
import Vigil.Proofs.Text.Reads

/-!
# Reading JSON

Whatever the grammar derives is read, and as the value that it spells, with the fields of all
objects in key order.

* `sorted`: a value with all fields in key order;
* `stringLiteral_reads`, `numberLiteral_reads_of_sign`, `value_reads_leaf`: values without parts;
* `Separated.reads`, `arrayBody_reads`, `objectBody_reads`: items and fields;
* `value_reads`, `parse?_of_document`: values, and whole texts.
-/

namespace Vigil.Json

open Vigil.Text

mutual

/-- The same value with the fields of all objects in key order; of two fields with one name the
last one counts. -/
def sorted : Json → Json
  | array items => array (sortedItems items)
  | object fields => object (SortedMap.ofList (sortedFields fields)).entries
  | v => v

/-- The same for all items. -/
def sortedItems : List Json → List Json
  | [] => []
  | v :: vs => sorted v :: sortedItems vs

/-- The same for the values of all fields. -/
def sortedFields : List (String × Json) → List (String × Json)
  | [] => []
  | (k, v) :: fs => (k, sorted v) :: sortedFields fs

end

theorem sortedItems_eq_map (items : List Json) : sortedItems items = items.map sorted := by
  induction items with
  | nil => rfl
  | cons v vs ih => rw [sortedItems, ih, List.map_cons]

theorem sortedFields_eq_map (fields : List (String × Json)) :
    sortedFields fields = fields.map fun f => (f.1, f.2.sorted) := by
  induction fields with
  | nil => rfl
  | cons f fs ih => rw [sortedFields, ih, List.map_cons]

/-! ### White space -/

theorem isSpace_eq_true_iff {c : Char} :
    isSpace c = true ↔ c = ' ' ∨ c = '\t' ∨ c = '\n' ∨ c = '\r' := by
  simp [isSpace, or_assoc]

/-- The next character is not white space. -/
def Inked (text : List Char) : Prop := ∀ c ∈ text.head?, isSpace c = false

theorem inked_cons {c : Char} (hc : isSpace c = false) (text : List Char) :
    Inked (c :: text) := by
  rintro _ ⟨⟩
  exact hc

theorem dropWhile_isSpace {ws text : List Char} (hws : Blank ws) (htext : Inked text) :
    (ws ++ text).dropWhile isSpace = text := by
  rw [List.dropWhile_append_of_pos fun c hc => isSpace_eq_true_iff.2 (hws c hc)]
  cases text with
  | nil => rfl
  | cons c text => rw [List.dropWhile_cons_of_neg (by simp [htext c rfl])]

theorem space_reads (text : List Char) : space.Reads text () (text.dropWhile isSpace) :=
  (Scan.Reads.takeWhile_self isSpace text).bind (.pure _ _)

theorem space_reads_of_blank {ws text : List Char} (hws : Blank ws) (htext : Inked text) :
    space.Reads (ws ++ text) () text := by
  have h := space_reads (ws ++ text)
  rwa [dropWhile_isSpace hws htext] at h

/-! ### Strings -/

theorem hexValue?_of_fourDigits {n : ℕ} {digits : List Char} (h : FourDigits n digits) :
    hexValue? digits = some n := by
  rw [hexValue?, if_pos (List.all_eq_true.2 h.digits), h.value]

theorem FourDigits.exists_eq {n : ℕ} {digits : List Char} (h : FourDigits n digits) :
    ∃ a b c d, digits = [a, b, c, d] := by
  match digits, h.length with
  | [a, b, c, d], _ => exact ⟨a, b, c, d, rfl⟩

theorem ofCodePoint?_toNat (c : Char) : ofCodePoint? c.toNat = some c := by
  have hc : c.toNat.isValidChar := c.valid
  rw [ofCodePoint?, if_pos hc, Char.ofNat_toNat]

theorem ofCodePoint?_of_surrogate {n : ℕ} (h : 0xD800 ≤ n ∧ n < 0xE000) :
    ofCodePoint? n = none := by
  rw [ofCodePoint?, if_neg]
  rintro (h' | ⟨h', -⟩) <;> omega

theorem stringBody_plain {c : Char} (hcontrol : ' ' ≤ c) (hquote : c ≠ '"')
    (hbackslash : c ≠ '\\') (rest : List Char) :
    stringBody (c :: rest) = (stringBody rest).map fun r => (c :: r.1, r.2) := by
  have hcontrol' : ¬ (c < ' ' ∨ c = '\\') := by
    rintro (h | h)
    · exact absurd hcontrol (by simpa using h)
    · exact hbackslash h
  rw [stringBody, if_neg hcontrol']
  · cases stringBody rest <;> rfl
  · simpa using hquote
  all_goals grind

theorem stringBody_shorthand {c letter : Char} (h : (letter, c) ∈ shorthands) (rest : List Char) :
    stringBody ('\\' :: letter :: rest) = (stringBody rest).map fun r => (c :: r.1, r.2) := by
  have hunescape : unescape? letter = some c :=
    (by decide : ∀ e ∈ shorthands, unescape? e.1 = some e.2) _ h
  have hu : letter ≠ 'u' := by
    rintro rfl
    cases hunescape
  rw [stringBody]
  · rw [hunescape]
    cases stringBody rest <;> rfl
  · grind

theorem stringBody_number {c : Char} {digits : List Char} (h : FourDigits c.toNat digits)
    (rest : List Char) :
    stringBody ('\\' :: 'u' :: digits ++ rest) =
      (stringBody rest).map fun r => (c :: r.1, r.2) := by
  obtain ⟨a, b, d, e, rfl⟩ := h.exists_eq
  simp only [List.cons_append, List.nil_append]
  rw [stringBody, hexValue?_of_fourDigits h]
  simp only [Option.bind_eq_bind, Option.bind_some, ofCodePoint?_toNat]
  cases stringBody rest <;> rfl

theorem stringBody_halves {c : Char} {high low : ℕ} {digits digits' : List Char}
    (h : FourDigits high digits) (h' : FourDigits low digits')
    (hhigh : 0xD800 ≤ high ∧ high < 0xDC00) (hlow : 0xDC00 ≤ low ∧ low < 0xE000)
    (hc : c.toNat = 0x10000 + (high - 0xD800) * 0x400 + (low - 0xDC00)) (rest : List Char) :
    stringBody ('\\' :: 'u' :: digits ++ '\\' :: 'u' :: digits' ++ rest) =
      (stringBody rest).map fun r => (c :: r.1, r.2) := by
  have hpair : surrogatePair? high low = some c := by
    rw [surrogatePair?, if_pos ⟨hhigh.1, hhigh.2, hlow⟩, ← hc, ofCodePoint?_toNat]
  obtain ⟨a, b, d, e, rfl⟩ := h.exists_eq
  obtain ⟨a', b', d', e', rfl⟩ := h'.exists_eq
  simp only [List.cons_append, List.nil_append]
  rw [stringBody, hexValue?_of_fourDigits h]
  simp only [Option.bind_eq_bind, Option.bind_some, ofCodePoint?_of_surrogate ⟨hhigh.1, by omega⟩,
    hexValue?_of_fourDigits h', hpair]
  cases stringBody rest <;> rfl

/-- Where a character is spelled, it is read. -/
theorem stringBody_letter {c : Char} {text : List Char} (h : Letter c text) (rest : List Char) :
    stringBody (text ++ rest) = (stringBody rest).map fun r => (c :: r.1, r.2) := by
  cases h with
  | plain hcontrol hquote hbackslash => exact stringBody_plain hcontrol hquote hbackslash rest
  | shorthand h => exact stringBody_shorthand h rest
  | number h => exact stringBody_number h rest
  | halves h h' hhigh hlow hc => exact stringBody_halves h h' hhigh hlow hc rest

theorem stringBody_letters {cs text : List Char} (h : Letters cs text) (rest : List Char) :
    stringBody (text ++ '"' :: rest) = some (cs, rest) := by
  induction h with
  | nil => rw [List.nil_append, stringBody]
  | cons hc _ ih => rw [List.append_assoc, stringBody_letter hc, ih, Option.map_some]

theorem stringLiteral_reads {s : String} {text : List Char} (h : Quoted s text)
    (rest : List Char) : stringLiteral.Reads (text ++ rest) s rest := by
  obtain ⟨h⟩ := h
  have hbody := stringBody_letters h rest
  rw [List.append_assoc, List.cons_append]
  refine (Scan.Reads.char '"' _).bind ((Scan.Reads.rest_self _).bind ?_)
  rw [List.singleton_append, hbody]
  refine Scan.Reads.bind (Scan.Reads.pure (s.toList, rest) _) ((Scan.Reads.set _ rest).bind ?_)
  rw [String.ofList_toList]
  exact .pure _ _

theorem Quoted.head?_ne {s : String} {text : List Char} (h : Quoted s text) {c : Char}
    (hc : c ≠ '"') (rest : List Char) : (text ++ rest).head? ≠ some c := by
  obtain ⟨-⟩ := h
  simpa using hc.symm

/-! ### Numbers -/

/-- The next character does not go on with a number. -/
def EndsNumber (text : List Char) : Prop :=
  ∀ c ∈ text.head?, isDigit c = false ∧ c ≠ '.' ∧ c ≠ 'e' ∧ c ≠ 'E'

theorem Numeral.integerDigits_reads {n : ℕ} {digits rest : List Char} (h : Numeral n digits)
    (hrest : EndsNumber rest) : integerDigits.Reads (digits ++ rest) digits rest := by
  have hstop : ∀ c ∈ rest.head?, isDigit c = false := fun c hc => (hrest c hc).1
  refine (Scan.Reads.peek? _).bind ?_
  rw [List.head?_append_of_ne_nil _ h.ne_nil]
  by_cases hzero : digits.head? = some '0'
  · rw [hzero, h.head hzero]
    exact (Scan.Reads.char '0' rest).bind (.pure _ _)
  · split
    next heq => exact absurd heq hzero
    next => exact .takeWhile₁ h.ne_nil h.digits hstop

theorem fractionDigits_reads_none {rest : List Char} (hrest : EndsNumber rest) :
    fractionDigits.Reads rest none rest :=
  Scan.Refuses.optional (Scan.refuses_char fun h => (hrest '.' h).2.1 rfl).bind

theorem exponent_reads_none {rest : List Char} (hrest : EndsNumber rest) :
    exponent.Reads rest none rest := by
  refine Scan.Refuses.optional (Scan.refuses_satisfy fun c hc => ?_).bind
  obtain ⟨-, -, he, hE⟩ := hrest c hc
  simp [he, hE]

/-- Digits behind a sign or none are read as an integer, if it has its place among 64 bits and is
no negative zero. -/
theorem numberLiteral_reads_of_sign (negative : Bool) {n : ℕ} {digits rest text : List Char}
    (hsign : (Scan.optional (Scan.char '-')).Reads text (if negative then some () else none)
      (digits ++ rest))
    (h : Numeral n digits) (hrange : InRange (if negative then -(n : Int) else n))
    (hzero : negative → n ≠ 0) (hrest : EndsNumber rest) :
    numberLiteral.Reads text (int (if negative then -(n : Int) else n)) rest := by
  refine hsign.bind ((h.integerDigits_reads hrest).bind ((fractionDigits_reads_none hrest).bind
    ((exponent_reads_none hrest).bind ?_)))
  have hnegative : (if negative = true then some () else none : Option Unit).isSome = negative := by
    cases negative <;> rfl
  simp only [h.value, hnegative]
  rw [if_pos ⟨rfl, rfl, hrange, hzero⟩]
  exact .pure _ _

theorem Numeral.head?_ne {n : ℕ} {digits : List Char} (h : Numeral n digits) {c : Char}
    (hc : isDigit c = false) (rest : List Char) : (digits ++ rest).head? ≠ some c := by
  rw [List.head?_append_of_ne_nil _ h.ne_nil]
  intro hhead
  have := h.digits c (List.mem_of_mem_head? hhead)
  simp [hc] at this

theorem numberLiteral_reads_natural {n : ℕ} {digits rest : List Char} (h : Numeral n digits)
    (hrange : InRange n) (hrest : EndsNumber rest) :
    numberLiteral.Reads (digits ++ rest) (int n) rest :=
  numberLiteral_reads_of_sign false
    (Scan.Refuses.optional (Scan.refuses_char (h.head?_ne (by decide) rest))) h hrange nofun hrest

theorem numberLiteral_reads_negative {n : ℕ} {digits rest : List Char} (h : Numeral n digits)
    (hzero : n ≠ 0) (hrange : InRange (-n)) (hrest : EndsNumber rest) :
    numberLiteral.Reads ('-' :: digits ++ rest) (int (-n)) rest :=
  numberLiteral_reads_of_sign true (Scan.Reads.char '-' _).optional h hrange
    (fun _ => hzero) hrest

theorem numberLiteral_refuses {c : Char} (hc : isDigit c = false) (hminus : c ≠ '-')
    (text : List Char) : numberLiteral.Refuses (c :: text) := by
  refine (Scan.Refuses.optional (Scan.refuses_char (by simpa using hminus))).bind_refuses ?_
  refine Scan.Refuses.bind ?_
  refine (Scan.Reads.peek? _).bind_refuses ?_
  rw [List.head?_cons]
  split
  next heq =>
    obtain rfl := Option.some.inj heq
    exact absurd hc (by decide)
  next => exact (Scan.refuses_satisfy (by simpa using hc)).bind

/-! ### Values without parts -/

theorem leaf_reads_numberLiteral {text rest : List Char} {v : Json} {c : Char}
    (hc : text.head? = some c) (hnumber : isDigit c = true ∨ c = '-')
    (h : numberLiteral.Reads text v rest) : leaf.Reads text v rest := by
  refine (Scan.Reads.peek? _).bind ?_
  rw [hc]
  split
  case h_5 => exact h
  all_goals
    next heq =>
      obtain rfl := Option.some.inj heq
      exact absurd hnumber (by decide)

theorem leaf_reads_null (rest : List Char) :
    leaf.Reads (['n', 'u', 'l', 'l'] ++ rest) null rest :=
  (Scan.Reads.peek? _).bind ((Scan.Reads.chars _ rest).bind (.pure _ _))

theorem leaf_reads_true (rest : List Char) :
    leaf.Reads (['t', 'r', 'u', 'e'] ++ rest) (bool true) rest :=
  (Scan.Reads.peek? _).bind ((Scan.Reads.chars _ rest).bind (.pure _ _))

theorem leaf_reads_false (rest : List Char) :
    leaf.Reads (['f', 'a', 'l', 's', 'e'] ++ rest) (bool false) rest :=
  (Scan.Reads.peek? _).bind ((Scan.Reads.chars _ rest).bind (.pure _ _))

theorem leaf_reads_string {s : String} {text : List Char} (h : Quoted s text)
    (rest : List Char) : leaf.Reads (text ++ rest) (string s) rest := by
  have hs := stringLiteral_reads h rest
  obtain ⟨h⟩ := h
  exact (Scan.Reads.peek? _).bind (hs.bind (.pure _ _))

theorem leaf_reads_natural {n : ℕ} {digits rest : List Char} (h : Numeral n digits)
    (hrange : InRange n) (hrest : EndsNumber rest) :
    leaf.Reads (digits ++ rest) (int n) rest := by
  have hn := numberLiteral_reads_natural h hrange hrest
  obtain ⟨c, digits, rfl⟩ := List.exists_cons_of_ne_nil h.ne_nil
  exact leaf_reads_numberLiteral rfl (.inl (h.digits c List.mem_cons_self)) hn

theorem leaf_reads_negative {n : ℕ} {digits rest : List Char} (h : Numeral n digits)
    (hzero : n ≠ 0) (hrange : InRange (-n)) (hrest : EndsNumber rest) :
    leaf.Reads ('-' :: digits ++ rest) (int (-n)) rest :=
  leaf_reads_numberLiteral rfl (.inr rfl) (numberLiteral_reads_negative h hzero hrange hrest)

theorem leaf_refuses {c : Char} (hc : c ∉ ['n', 't', 'f', '"', '-']) (hdigit : isDigit c = false)
    (text : List Char) : leaf.Refuses (c :: text) := by
  refine (Scan.Reads.peek? _).bind_refuses ?_
  rw [List.head?_cons]
  split
  case h_5 => exact numberLiteral_refuses hdigit (by simp_all) text
  all_goals
    next heq =>
      obtain rfl := Option.some.inj heq
      exact absurd hc (by decide)

/-- No array and no object begins here, so a value without parts is read. -/
theorem value_reads_leaf {text rest : List Char} {v : Json} (harray : text.head? ≠ some '[')
    (hobject : text.head? ≠ some '{') (h : leaf.Reads text v rest) (d : ℕ) :
    (value d).Reads text v rest := by
  cases d with
  | zero => exact h
  | succ d =>
    refine (Scan.Reads.peek? _).bind ?_
    split
    next heq => exact absurd heq harray
    next heq => exact absurd heq hobject
    next => exact h

/-! ### Items and fields -/

theorem endsNumber_of_blank {ws rest : List Char} (hws : Blank ws) (hrest : EndsNumber rest) :
    EndsNumber (ws ++ rest) := by
  cases ws with
  | nil => exact hrest
  | cons c ws =>
    rintro _ ⟨⟩
    rcases hws c List.mem_cons_self with rfl | rfl | rfl | rfl <;> decide

/-- What stands behind an item: a comma, or the end of an array or of an object. -/
def Mark (c : Char) : Prop := c = ',' ∨ c = ']' ∨ c = '}'

theorem Mark.inked {c : Char} (hc : Mark c) (text : List Char) : Inked (c :: text) := by
  refine inked_cons ?_ text
  rcases hc with rfl | rfl | rfl <;> rfl

theorem Mark.endsNumber {c : Char} (hc : Mark c) (text : List Char) : EndsNumber (c :: text) := by
  rintro _ ⟨⟩
  rcases hc with rfl | rfl | rfl <;> decide

/-- Read an item, and skip what white space follows it. -/
def padded {α : Type} (p : Scan α) : Scan α := do
  let a ← p
  space
  return a

/-- Take a comma, and skip what white space follows it. -/
def comma : Scan Unit := do
  Scan.char ','
  space

theorem padded_reads {α : Type} {p : Scan α} {text ws rest : List Char} {a : α}
    (hp : p.Reads (text ++ (ws ++ rest)) a (ws ++ rest)) (hws : Blank ws) (hrest : Inked rest) :
    (padded p).Reads (text ++ (ws ++ rest)) a rest :=
  hp.bind ((space_reads_of_blank hws hrest).bind (.pure _ _))

/-- Items with commas between them are read one after the other, up to a bracket or a brace. -/
theorem Separated.reads {α β : Type} {item : α → List Char → Prop} {p : Scan β} {g : α → β}
    {as : List α} {text : List Char} (h : Separated item as text)
    (hitem : ∀ a ∈ as, ∀ text rest, item a text → EndsNumber rest →
      p.Reads (text ++ rest) (g a) rest)
    (hinked : ∀ a text rest, item a text → Inked (text ++ rest))
    {close : Char} (hclose : Mark close) (hcomma : close ≠ ',') (rest : List Char) :
    (Scan.sepBy₁ (padded p) comma).Reads ((text ++ close :: rest).dropWhile isSpace) (as.map g)
      (close :: rest) := by
  -- what is read of the first item, and then round after round of a comma and one more item
  suffices hrounds : ∃ a as' mid, as = a :: as' ∧
      mid.length ≤ (text ++ close :: rest).length ∧
      (padded p).Reads ((text ++ close :: rest).dropWhile isSpace) (g a) mid ∧
      Scan.Repeats (do let _ ← comma; padded p) mid (as'.map g) (close :: rest) by
    obtain ⟨a, as', mid, rfl, -, ha, has'⟩ := hrounds
    exact ha.sepBy₁ has'
  induction h with
  | @last a ws text ws' hws ha hws' =>
    refine ⟨a, [], close :: rest, rfl, by simp; omega, ?_, .stop ?_⟩
    · rw [List.append_assoc, List.append_assoc, dropWhile_isSpace hws (hinked a text _ ha)]
      exact padded_reads (hitem a List.mem_cons_self text _ ha
        (endsNumber_of_blank hws' (hclose.endsNumber rest))) hws' (hclose.inked rest)
    · exact Scan.Refuses.bind (Scan.Refuses.bind (Scan.refuses_char (by simpa using hcomma)))
  | @cons a as ws text ws' text' hws ha hws' _ ih =>
    obtain ⟨a', as', mid, rfl, hle, ha', has'⟩ :=
      ih fun a' ha' => hitem a' (List.mem_cons_of_mem a ha')
    have hmark : Mark ',' := .inl rfl
    refine ⟨a, a' :: as', ',' :: (text' ++ close :: rest), rfl, ?_, ?_, .next ?_ ?_ has'⟩
    · simp only [List.length_append, List.length_cons]
      omega
    · rw [List.append_assoc, List.append_assoc, List.append_assoc, List.cons_append,
        dropWhile_isSpace hws (hinked a text _ ha)]
      exact padded_reads (hitem a List.mem_cons_self text _ ha
        (endsNumber_of_blank hws' (hmark.endsNumber _))) hws' (hmark.inked _)
    · exact ((Scan.Reads.char ',' _).bind (space_reads _)).bind ha'
    · exact Nat.lt_succ_of_le hle

theorem isSpace_eq_false_of_isDigit {c : Char} (hc : isDigit c = true) : isSpace c = false := by
  by_contra hspace
  rcases isSpace_eq_true_iff.1 (by simpa using hspace) with rfl | rfl | rfl | rfl <;>
    exact absurd hc (by decide)

theorem Quoted.inked {k : String} {text : List Char} (h : Quoted k text) (rest : List Char) :
    Inked (text ++ rest) := by
  cases h
  exact inked_cons rfl _

/-- No value begins with white space. -/
theorem Spells.inked {v : Json} {text : List Char} (h : Spells v text) (rest : List Char) :
    Inked (text ++ rest) := by
  cases h with
  | natural h =>
    obtain ⟨c, text, rfl⟩ := List.exists_cons_of_ne_nil h.ne_nil
    exact inked_cons (isSpace_eq_false_of_isDigit (h.digits c List.mem_cons_self)) _
  | string h => exact h.inked rest
  | _ => exact inked_cons rfl _

theorem Labelled.inked {α : Type} {value : α → List Char → Prop} {f : String × α}
    {text : List Char} (h : Labelled value f text) (rest : List Char) : Inked (text ++ rest) := by
  obtain ⟨hname, -, -, -⟩ := h
  rw [List.append_assoc, List.append_assoc, List.append_assoc]
  exact hname.inked _

/-- A field. -/
def labelled (p : Scan Json) : Scan (String × Json) := do
  let k ← stringLiteral
  space
  Scan.char ':'
  space
  let v ← p
  return (k, v)

theorem labelled_reads {p : Scan Json} {f : String × Json} {text rest : List Char} {v : Json}
    (h : Labelled Spells f text)
    (hp : ∀ text, Spells f.2 text → p.Reads (text ++ rest) v rest) :
    (labelled p).Reads (text ++ rest) (f.1, v) rest := by
  obtain ⟨hname, hws, hws', hv⟩ := h
  simp only [List.append_assoc, List.cons_append]
  exact (stringLiteral_reads hname _).bind ((space_reads_of_blank hws (inked_cons rfl _)).bind
    ((Scan.Reads.char ':' _).bind ((space_reads_of_blank hws' (hv.inked rest)).bind
      ((hp _ hv).bind (.pure _ _)))))

theorem objectBody_eq (p : Scan Json) : objectBody p = do
    space
    let fields ← Scan.optional (Scan.sepBy₁ (padded (labelled p)) comma)
    Scan.char '}'
    return object (SortedMap.ofList (fields.getD [])).entries := by
  unfold objectBody padded labelled
  simp only [bind_assoc, pure_bind]
  rfl

/-! ### Values -/

/-- A value with parts is read by its first character. -/
theorem value_reads_array {d : ℕ} {text rest : List Char} {v : Json}
    (h : (arrayBody (value d)).Reads text v rest) :
    (value (d + 1)).Reads ('[' :: text) v rest :=
  (Scan.Reads.peek? _).bind ((Scan.Reads.char '[' _).bind h)

theorem value_reads_object {d : ℕ} {text rest : List Char} {v : Json}
    (h : (objectBody (value d)).Reads text v rest) :
    (value (d + 1)).Reads ('{' :: text) v rest :=
  (Scan.Reads.peek? _).bind ((Scan.Reads.char '{' _).bind h)

theorem value_refuses_bracket (d : ℕ) (rest : List Char) : (value d).Refuses (']' :: rest) := by
  have hleaf : leaf.Refuses (']' :: rest) := leaf_refuses (by decide) (by decide) rest
  cases d with
  | zero => exact hleaf
  | succ d => exact (Scan.Reads.peek? _).bind_refuses hleaf

theorem arrayBody_reads_empty {d : ℕ} {ws : List Char} (hws : Blank ws) (rest : List Char) :
    (arrayBody (value d)).Reads (ws ++ ']' :: rest) (array []) rest :=
  (space_reads_of_blank hws (inked_cons rfl rest)).bind
    ((value_refuses_bracket d rest).bind.bind.optional.bind
      ((Scan.Reads.char ']' rest).bind (.pure _ _)))

theorem arrayBody_reads {p : Scan Json} {items : List Json} {text : List Char}
    (h : Separated Spells items text)
    (hitem : ∀ v ∈ items, ∀ text rest, Spells v text → EndsNumber rest →
      p.Reads (text ++ rest) v.sorted rest) (rest : List Char) :
    (arrayBody p).Reads (text ++ ']' :: rest) (array (items.map sorted)) rest := by
  have hitems := h.reads hitem (fun _ _ rest hv => hv.inked rest) (.inr (.inl rfl)) (by decide) rest
  exact (space_reads _).bind (hitems.optional.bind ((Scan.Reads.char ']' rest).bind (.pure _ _)))

theorem objectBody_reads_empty {p : Scan Json} {ws : List Char} (hws : Blank ws)
    (rest : List Char) : (objectBody p).Reads (ws ++ '}' :: rest) (object []) rest := by
  have hname : stringLiteral.Refuses ('}' :: rest) :=
    Scan.Refuses.bind (Scan.refuses_char (by simp))
  rw [objectBody_eq]
  exact (space_reads_of_blank hws (inked_cons rfl rest)).bind
    (hname.bind.bind.bind.optional.bind ((Scan.Reads.char '}' rest).bind (.pure _ _)))

theorem objectBody_reads {p : Scan Json} {fields : List (String × Json)} {text : List Char}
    (h : Separated (Labelled Spells) fields text)
    (hfield : ∀ f ∈ fields, ∀ text rest, Spells f.2 text → EndsNumber rest →
      p.Reads (text ++ rest) f.2.sorted rest) (rest : List Char) :
    (objectBody p).Reads (text ++ '}' :: rest)
      (object (SortedMap.ofList (fields.map fun f => (f.1, f.2.sorted))).entries) rest := by
  have hfields := h.reads (p := labelled p) (g := fun f => (f.1, f.2.sorted))
    (fun f hf text rest hspells hrest =>
      labelled_reads hspells fun text htext => hfield f hf text rest htext hrest)
    (fun _ _ rest hf => hf.inked rest) (.inr (.inr rfl)) (by decide) rest
  rw [objectBody_eq]
  exact (space_reads _).bind (hfields.optional.bind ((Scan.Reads.char '}' rest).bind (.pure _ _)))

/-- **What the grammar derives is read.**  A text that spells a value is read as that value, with
all fields in key order, if the value is nested no deeper than the reader goes. -/
theorem value_reads {v : Json} {text : List Char} (h : Spells v text) {d : ℕ}
    (hd : v.nesting ≤ d) {rest : List Char} (hrest : EndsNumber rest) :
    (value d).Reads (text ++ rest) v.sorted rest := by
  -- the parts of a value are nested less deep, and are read with one level less left
  induction v using induct generalizing d text rest with
  | null =>
    cases h
    exact value_reads_leaf (by simp) (by simp) (leaf_reads_null rest) d
  | bool b =>
    cases h with
    | true => exact value_reads_leaf (by simp) (by simp) (leaf_reads_true rest) d
    | false => exact value_reads_leaf (by simp) (by simp) (leaf_reads_false rest) d
  | int i =>
    cases h with
    | natural h hrange =>
      exact value_reads_leaf (h.head?_ne (by decide) rest) (h.head?_ne (by decide) rest)
        (leaf_reads_natural h hrange hrest) d
    | negative h hzero hrange =>
      exact value_reads_leaf (by simp) (by simp) (leaf_reads_negative h hzero hrange hrest) d
  | float x => cases h
  | string s =>
    cases h with
    | string h =>
      exact value_reads_leaf (h.head?_ne (by decide) rest) (h.head?_ne (by decide) rest)
        (leaf_reads_string h rest) d
  | array items ih =>
    rw [nesting] at hd
    obtain ⟨d, rfl⟩ : ∃ e, d = e + 1 := ⟨d - 1, by omega⟩
    rw [sorted, sortedItems_eq_map]
    cases h with
    | emptyArray hws =>
      rw [List.cons_append, List.cons_append, List.append_assoc]
      exact value_reads_array (arrayBody_reads_empty hws rest)
    | array h =>
      rw [List.cons_append, List.cons_append, List.append_assoc]
      refine value_reads_array (arrayBody_reads h (fun v hv text rest htext hrest => ?_) rest)
      have hdeep := nesting_le_of_mem hv
      exact ih v hv htext (by omega) hrest
  | object fields ih =>
    rw [nesting] at hd
    obtain ⟨d, rfl⟩ : ∃ e, d = e + 1 := ⟨d - 1, by omega⟩
    rw [sorted, sortedFields_eq_map]
    cases h with
    | emptyObject hws =>
      rw [List.cons_append, List.cons_append, List.append_assoc]
      exact value_reads_object (objectBody_reads_empty hws rest)
    | object h =>
      rw [List.cons_append, List.cons_append, List.append_assoc]
      refine value_reads_object (objectBody_reads h (fun f hf text rest htext hrest => ?_) rest)
      have hdeep := nesting_le_of_mem_fields hf
      exact ih f hf htext (by omega) hrest

/-- **A document is read as the value that it spells**, with all fields in key order, if it is
nested no deeper than the reader goes. -/
theorem parse?_of_document {v : Json} {text : String} (h : Document v text.toList)
    (hdeep : v.nesting ≤ maxDepth) : parse? text = some v.sorted := by
  obtain ⟨ws, inner, ws', hws, hinner, hws', htext⟩ : ∃ ws inner ws', Blank ws ∧ Spells v inner ∧
      Blank ws' ∧ text.toList = ws ++ (inner ++ (ws' ++ [])) := by
    generalize text.toList = cs at h
    obtain ⟨hws, hinner, hws'⟩ := h
    exact ⟨_, _, _, hws, hinner, hws', by simp⟩
  have hend : Inked [] := nofun
  have hends : EndsNumber [] := nofun
  refine Scan.Reads.whole? ?_
  rw [htext]
  exact (space_reads_of_blank hws (hinner.inked _)).bind
    ((value_reads hinner hdeep (endsNumber_of_blank hws' hends)).bind
      ((space_reads_of_blank hws' hend).bind (.pure _ _)))

end Vigil.Json
