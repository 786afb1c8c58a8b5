import Vigil.Decimal.Bits

/-!
# The shortest decimal of a binary64 number

* `Binary`, `Binary.ofBits`: the magnitude `mantissa · 2 ^ exponent` of a finite number;
* `Binary.reads`: which fractions round to the number;
* `Tie`: what is done halfway between two decimals;
* `shortest`: the fewest significant digits that read back, and of those the nearest.
-/

namespace Vigil.Decimal

/-- The magnitude `mantissa · 2 ^ exponent` of a finite binary64 number.  It is narrow if the next
smaller number is only half as far away as the next larger one. -/
structure Binary where
  mantissa : Nat
  exponent : Int
  narrow : Bool

/-- Decode the magnitude from the bits of a number; the sign is ignored. -/
def Binary.ofBits (bits : Nat) : Binary :=
  let fraction : Nat := bits % hiddenBit
  let biased : Nat := bits / hiddenBit % 2048
  if biased = 0 then ⟨fraction, -1074, false⟩
  else ⟨fraction + hiddenBit, (biased : Int) - 1075, fraction = 0 && 1 < biased⟩

/-- A decimal `coefficient · 10 ^ exponent`. -/
structure Digits where
  coefficient : Nat
  exponent : Int
  deriving Repr, DecidableEq

/-- Which of two decimals is taken that are equally near to a number: the one with an even last
digit, or the larger one. -/
inductive Tie where
  | even
  | up
  deriving DecidableEq, Repr

namespace Binary

/-- The number's distance to its rounding limits is measured in quarters of its last place:
`quarters · 2 ^ (exponent - 2)` is the number itself. -/
def quarters (x : Binary) : Nat := 4 * x.mantissa

/-- The lower rounding limit in quarters of the last place. -/
def lower (x : Binary) : Nat := x.quarters - if x.narrow then 1 else 2

/-- The upper rounding limit in quarters of the last place. -/
def upper (x : Binary) : Nat := x.quarters + 2

/-- The multipliers that turn quarters of the last place and steps of `10 ^ k` into the same
unit. -/
def scales (x : Binary) (k : Int) : Nat × Nat :=
  let e := x.exponent - 2
  (Nat.pow 2 e.toNat * Nat.pow 10 (-k).toNat, Nat.pow 2 (-e).toNat * Nat.pow 10 k.toNat)

/-- Whether `c · 10 ^ k` rounds to the number; the limits themselves do if the mantissa is
even. -/
def reads (x : Binary) (c : Nat) (k : Int) : Bool :=
  let (u, v) := x.scales k
  if x.mantissa % 2 = 0 then x.lower * u ≤ c * v && c * v ≤ x.upper * u
  else x.lower * u < c * v && c * v < x.upper * u

/-- The point of the grid of multiples of `10 ^ k` that reads back as the number and is nearest
to it, if one does. -/
def onGrid (tie : Tie) (x : Binary) (k : Int) : Option Nat :=
  let (u, v) := x.scales k
  let below := x.quarters * u / v
  match x.reads below k, x.reads (below + 1) k with
  | false, false => none
  | true, false => some below
  | false, true => some (below + 1)
  | true, true =>
    let rest := 2 * (x.quarters * u % v)
    if rest < v then some below
    else if v < rest then some (below + 1)
    else if tie = .even ∧ below % 2 = 0 then some below
    else some (below + 1)

/-- The least `e` from the given one on with `x < 10 ^ e`. -/
def magnitude (x : Binary) (e : Int) : Nat → Int
  | 0 => e
  | fuel + 1 =>
    let (u, v) := x.scales e
    if x.quarters * u < v then e else magnitude x (e + 1) fuel

/-- Try grids of one, two, … digits below `10 ^ e` until one has a point that reads back. -/
def firstGrid (tie : Tie) (x : Binary) (e : Int) : Nat → Option Digits
  | 0 => none
  | left + 1 =>
    let k := e - (18 - (left + 1) : Nat)
    match x.onGrid tie k with
    | some c => some ⟨c, k⟩
    | none => firstGrid tie x e left

end Binary

/-- The shortest decimal that reads back as the magnitude of the finite number with these bits.
The least power of ten above it is searched from a bound below it, and seventeen digits always
suffice. -/
def shortest (tie : Tie) (bits : Nat) : Digits :=
  let x := Binary.ofBits bits
  if x.mantissa = 0 then ⟨0, 0⟩
  else
    let start : Int := (x.mantissa.log2 + x.exponent) * 30103 / 100000 - 2
    let e := x.magnitude start 8
    (x.firstGrid tie e 17).getD ⟨0, 0⟩

end Vigil.Decimal
