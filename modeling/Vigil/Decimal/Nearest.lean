import Vigil.Decimal.Bits

/-!
# From decimals to binary64 numbers

The nearest binary64 number to `coefficient · 10 ^ exponent`, ties to the even neighbour,
computed in exact integer arithmetic.

* `roundHalfEven`: the quotient of two natural numbers, rounded;
* `nearestBits`: the bits of the number nearest to a positive fraction;
* `nearest`: the number nearest to a signed decimal.
-/

namespace Vigil.Decimal

/-- The integer nearest to `a / b`; of two equally near ones the even one. -/
def roundHalfEven (a b : Nat) : Nat :=
  let q := a / b
  let r := a % b
  if 2 * r < b then q
  else if b < 2 * r then q + 1
  else if q % 2 = 0 then q else q + 1

/-- The fraction `a / b` divided by `2 ^ q`, as numerator and denominator. -/
def unscale (a b : Nat) (q : Int) : Nat × Nat :=
  if 0 ≤ q then (a, b * Nat.pow 2 q.toNat) else (a * Nat.pow 2 (-q).toNat, b)

/-- The bits of the binary64 number nearest to `a / b`, for positive `a` and `b`.
A mantissa `m` at exponent `q` has the bits `(q + 1074) · 2 ^ 52 + m`, whether it is normal,
subnormal, or has just been rounded up to the next power of two. -/
def nearestBits (a b : Nat) : Nat :=
  let low : Int := max ((a.log2 : Int) - b.log2 - 53) (-1074)
  let (n, d) := unscale a b low
  let q := if 2 * hiddenBit ≤ n / d then low + 1 else low
  let (n, d) := unscale a b q
  min ((q + 1074).toNat * hiddenBit + roundHalfEven n d) infinityBits

/-- The binary64 number nearest to `± coefficient · 10 ^ exponent`.  Beyond four hundred places
on either side the result is infinity or zero, so no power of ten is computed there. -/
def nearest (negative : Bool) (coefficient : Nat) (exponent : Int) : Float :=
  let size : Int := exponent + (Nat.toDigits 10 coefficient).length
  let magnitude :=
    if coefficient = 0 ∨ size < -400 then 0
    else if 400 < size then infinityBits
    else if 0 ≤ exponent then nearestBits (coefficient * Nat.pow 10 exponent.toNat) 1
    else nearestBits coefficient (Nat.pow 10 (-exponent).toNat)
  Float.ofBits (UInt64.ofNat (if negative then magnitude + signBit else magnitude))

end Vigil.Decimal
