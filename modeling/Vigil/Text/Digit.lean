/-!
# Digits

* `digitValue?`: the value of a digit in a base up to sixteen;
* `isDigit`, `isHexDigit`: the digits of base ten and sixteen;
* `ofDigits`: the number that digits spell.
-/

namespace Vigil.Text

/-- The value of an ASCII digit or of a letter from `a` to `f` in either case. -/
def digitValue? (c : Char) : Option Nat :=
  if '0' ≤ c ∧ c ≤ '9' then some (c.toNat - '0'.toNat)
  else if 'a' ≤ c ∧ c ≤ 'f' then some (c.toNat - 'a'.toNat + 10)
  else if 'A' ≤ c ∧ c ≤ 'F' then some (c.toNat - 'A'.toNat + 10)
  else none

/-- Whether a character is a digit in the given base. -/
def isDigitIn (base : Nat) (c : Char) : Bool := (digitValue? c).any (· < base)

/-- The digits from 0 to 9. -/
def isDigit (c : Char) : Bool := isDigitIn 10 c

/-- The digits of base sixteen. -/
def isHexDigit (c : Char) : Bool := isDigitIn 16 c

/-- The number that digits spell in a base, the first digit being the highest. -/
def ofDigits (base : Nat) (digits : List Char) : Nat :=
  digits.foldl (fun n c => n * base + (digitValue? c).getD 0) 0

/-- The code point that four or eight hexadecimal digits spell, if all are digits. -/
def hexValue? (digits : List Char) : Option Nat :=
  if digits.all isHexDigit then some (ofDigits 16 digits) else none

/-- The character with a code point, if that is a Unicode scalar value. -/
def ofCodePoint? (n : Nat) : Option Char :=
  if n.isValidChar then some (Char.ofNat n) else none

end Vigil.Text
