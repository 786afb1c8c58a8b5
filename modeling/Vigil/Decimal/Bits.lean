/-!
# The bits of binary64 numbers

* `hiddenBit`, `signBit`, `infinityBits`: the bits at which the parts of a number begin.

The bits below `hiddenBit` are the stored part of the mantissa, those from there up to `signBit`
the exponent.  Without the sign bit, larger bits mean a larger magnitude.
-/

namespace Vigil.Decimal

/-- The leading bit of the mantissa of a normal number, which is not stored. -/
def hiddenBit : Nat := 0x10000000000000

/-- The bit that marks a negative number. -/
def signBit : Nat := 0x8000000000000000

/-- The bits of positive infinity; larger ones belong to no number. -/
def infinityBits : Nat := 0x7FF0000000000000

end Vigil.Decimal
