import Mathlib.Data.List.Basic
import Vigil.SortedMap

/-!
# The order of texts and of their bytes

Texts compare like their bytes in UTF-8, since of two characters the one with the larger number has
the larger bytes.

* `bytes`: the bytes of a text;
* `utf8EncodeChar_append_lt`, `flatMap_utf8EncodeChar_lt`: characters, and lists of them;
* `bytes_lt_iff`: texts.
-/

namespace Vigil.Text

/-- The bytes of a text in UTF-8. -/
def bytes (s : String) : List UInt8 := s.toUTF8.data.toList

theorem bytes_eq (s : String) : bytes s = s.toList.flatMap String.utf8EncodeChar := by
  rw [bytes, String.toUTF8_eq_toByteArray, ← String.utf8Encode_toList, List.utf8Encode,
    List.toList_data_toByteArray]

theorem ofNat_cons_lt {a b : ℕ} {l m : List UInt8} (ha : a < 256) (hb : b < 256) :
    UInt8.ofNat a :: l < UInt8.ofNat b :: m ↔ a < b ∨ a = b ∧ l < m := by
  rw [List.cons_lt_cons_iff, UInt8.lt_iff_toNat_lt, ← UInt8.toNat_inj, UInt8.toNat_ofNat',
    UInt8.toNat_ofNat', Nat.mod_eq_of_lt ha, Nat.mod_eq_of_lt hb]

/-- Numbers compare like their quotients, and like their remainders if those are the same. -/
theorem div_lt_or_mod_lt {a b : ℕ} (h : a < b) (k : ℕ) :
    a / k < b / k ∨ a / k = b / k ∧ a % k < b % k := by
  rcases Nat.lt_or_eq_of_le (Nat.div_le_div_right (Nat.le_of_lt h) : a / k ≤ b / k) with hlt | heq
  · exact .inl hlt
  · refine .inr ⟨heq, ?_⟩
    rw [← Nat.div_add_mod a k, ← Nat.div_add_mod b k, heq] at h
    exact Nat.lt_of_add_lt_add_left h

/-- Of two characters the larger one has larger bytes, whatever follows. -/
theorem utf8EncodeChar_append_lt {c d : Char} (h : c < d) (l m : List UInt8) :
    String.utf8EncodeChar c ++ l < String.utf8EncodeChar d ++ m := by
  have hlt : c.val.toNat < d.val.toNat := UInt32.lt_iff_toNat_lt.1 h
  have hd : d.val.toNat < 0x110000 := by
    rcases d.valid with hd | ⟨-, hd⟩
    · exact Nat.lt_trans hd (by decide)
    · exact hd
  unfold String.utf8EncodeChar
  generalize c.val.toNat = a at hlt ⊢
  generalize d.val.toNat = b at hlt hd ⊢
  -- in base 64 the higher digit decides
  have h₁ := div_lt_or_mod_lt hlt 64
  have h₂ := fun h : a / 64 < b / 64 => div_lt_or_mod_lt h 64
  have h₃ := fun h : a / 4096 < b / 4096 => div_lt_or_mod_lt h 64
  rw [Nat.div_div_eq_div_mul, Nat.div_div_eq_div_mul] at h₂ h₃
  dsimp only
  split_ifs
  all_goals
    simp (disch := omega) only [List.cons_append, List.nil_append, ofNat_cons_lt,
      Nat.add_lt_add_iff_right, Nat.add_right_cancel_iff, Nat.mod_eq_of_lt]
    grind

theorem flatMap_utf8EncodeChar_lt {cs ds : List Char} (h : cs < ds) :
    cs.flatMap String.utf8EncodeChar < ds.flatMap String.utf8EncodeChar := by
  induction h with
  | @nil d _ =>
    obtain ⟨b, bs, hd⟩ := List.exists_cons_of_ne_nil (String.utf8EncodeChar_ne_nil (c := d))
    rw [List.flatMap_nil, List.flatMap_cons, hd]
    exact List.nil_lt_cons _ _
  | rel h => exact utf8EncodeChar_append_lt h _ _
  | cons _ ih => exact List.append_left_lt ih

/-- **Texts compare like their bytes.** -/
theorem bytes_lt_iff {s t : String} : bytes s < bytes t ↔ s < t := by
  have hlt {s t : String} (h : s < t) : bytes s < bytes t := by
    rw [bytes_eq, bytes_eq]
    exact flatMap_utf8EncodeChar_lt (String.lt_iff.1 h)
  refine ⟨fun h => ?_, hlt⟩
  by_contra hst
  by_cases hts : t < s
  · exact List.lt_asymm h (hlt hts)
  · rw [SortedMap.eq_of_not_lt hst hts] at h
    exact List.lt_irrefl _ h

end Vigil.Text
