/-!
# Strikes

A strike counter counts violations in a row, up to the largest number of 32 bits.

* `Strikes`: a limit and a count;
* `Strikes.record`, `Strikes.reset`: one more observation, and forgetting;
* `Strikes.exceeded`: whether the count has gone past the limit.
-/

namespace Vigil

/-- How many violations in a row are tolerated, and how many there were. -/
structure Strikes where
  limit : UInt32
  count : UInt32 := 0
  deriving DecidableEq, Repr, Inhabited

namespace Strikes

/-- The largest count; it stays there. -/
def top : UInt32 := 4294967295

/-- The count after an observation: one more after a violation, none otherwise. -/
def record (s : Strikes) (violated : Bool) : Strikes :=
  { s with count := if violated then (if s.count = top then top else s.count + 1) else 0 }

/-- Forget all violations. -/
def reset (s : Strikes) : Strikes := { s with count := 0 }

/-- Whether there were more violations in a row than are tolerated. -/
def exceeded (s : Strikes) : Bool := s.limit < s.count

@[simp]
theorem limit_record (s : Strikes) (v : Bool) : (s.record v).limit = s.limit := rfl

@[simp]
theorem limit_reset (s : Strikes) : s.reset.limit = s.limit := rfl

@[simp]
theorem count_reset (s : Strikes) : s.reset.count = 0 := rfl

@[simp]
theorem reset_record (s : Strikes) (v : Bool) : (s.record v).reset = s.reset := rfl

@[simp]
theorem record_false (s : Strikes) : s.record false = s.reset := rfl

/-- As a number, the count grows by one until it reaches its largest value. -/
theorem toNat_count_record_true (s : Strikes) :
    (s.record true).count.toNat = min (s.count.toNat + 1) top.toNat := by
  have hlt := s.count.toNat_lt
  have htop : top.toNat = 4294967295 := rfl
  simp only [record, if_true]
  split
  · next h => rw [h, htop]; omega
  · next h =>
    have hne : s.count.toNat ≠ top.toNat := fun e => h (UInt32.toNat_inj.1 e)
    rw [UInt32.toNat_add, UInt32.toNat_one, Nat.mod_eq_of_lt] <;> omega

/-- The count has gone past the limit exactly if it is the larger number. -/
theorem exceeded_iff (s : Strikes) : s.exceeded = true ↔ s.limit.toNat < s.count.toNat := by
  simp [exceeded, UInt32.lt_iff_toNat_lt]

end Strikes

end Vigil
