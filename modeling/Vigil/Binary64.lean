/-!
# Binary64 numbers as they are stored

A report hands a number on as it was given.  That is more than `Float` promises, which does not
tell the many encodings of what is not a number from each other, so the bits are kept.

* `Binary64`, `Binary64.ofFloat`: a number by its bits.
-/

namespace Vigil

/-- A binary64 number, or something that is not a number, by its bits: sign, exponent and mantissa,
from the highest bit to the lowest. -/
structure Binary64 where
  bits : UInt64
  deriving DecidableEq, Repr

/-- The bits of a number. -/
def Binary64.ofFloat (x : Float) : Binary64 := ⟨x.toBits⟩

end Vigil
