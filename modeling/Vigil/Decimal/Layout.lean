import Vigil.Decimal.Shortest

/-!
# Writing binary64 numbers as text

* `Layout`: which numbers are written positionally, and what is done with ties;
* `Layout.render`: the text of a number from its shortest digits.
-/

namespace Vigil.Decimal

/-- How a finite number is laid out.  A number whose first significant digit stands at `10 ^ e` is
written positionally when `e` lies between the two bounds, both included, as far as they are given.
The last part says which of two equally near shortest decimals is written. -/
structure Layout where
  lowest : Option Int
  highest : Option Int
  tie : Tie

namespace Layout

/-- Whether a number with its first digit at this place is written positionally. -/
def positional (l : Layout) (place : Int) : Bool :=
  l.lowest.all (· ≤ place) && l.highest.all (place ≤ ·)

/-- The digits with a point before place `point`, filled up with zeros, and with at least one
digit on each side of the point. -/
def placePoint (digits : List Char) (point : Int) : List Char :=
  if point ≤ 0 then
    '0' :: '.' :: List.replicate (-point).toNat '0' ++ digits
  else
    let n := point.toNat
    if digits.length ≤ n then digits ++ List.replicate (n - digits.length) '0' ++ ['.', '0']
    else digits.take n ++ '.' :: digits.drop n

/-- The first digit, a point and the other digits if there are any, and the place of the first
digit as an exponent with a sign. -/
def scientific (digits : List Char) (place : Int) : List Char :=
  let mantissa := match digits with
    | d :: e :: ds => d :: '.' :: e :: ds
    | ds => ds
  let sign := if place < 0 then '-' else '+'
  mantissa ++ 'e' :: sign :: Nat.toDigits 10 place.natAbs

/-- Remove zeros at the end of the coefficient. -/
def trim (d : Digits) : Nat → Digits
  | 0 => d
  | fuel + 1 =>
    if d.coefficient ≠ 0 ∧ d.coefficient % 10 = 0 then
      trim ⟨d.coefficient / 10, d.exponent + 1⟩ fuel
    else d

/-- The text of a number: shortest digits, laid out, with a sign before negative numbers and
before negative zero. -/
def render (l : Layout) (x : Float) : String :=
  let bits := x.toBits.toNat
  let magnitude := bits % signBit
  let sign := if bits ≠ magnitude then ['-'] else []
  if infinityBits < magnitude then "NaN"
  else if magnitude = infinityBits then String.ofList (sign ++ ['i', 'n', 'f'])
  else
    let d := trim (shortest l.tie magnitude) 20
    let digits := Nat.toDigits 10 d.coefficient
    let point := d.exponent + digits.length
    let body :=
      if d.coefficient = 0 then ['0', '.', '0']
      else if l.positional (point - 1) then placePoint digits point
      else scientific digits (point - 1)
    String.ofList (sign ++ body)

/-- Every number is written positionally, and of two equally near decimals the larger one. -/
def plain : Layout := ⟨none, none, .up⟩

end Layout

end Vigil.Decimal
