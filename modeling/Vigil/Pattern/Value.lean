import Vigil.Pattern.Meaning
import Vigil.Pattern.Reader
import Vigil.Text.Scan

/-!
# Values that a field may be asked to have

A directive may ask that a field has a value: a number, or a text that matches an expression.

* `isNumber`, `isExpression`: the texts that can stand for one of these;
* `isValue`: the texts that can stand for a value.
-/

namespace Vigil.Pattern

open Vigil.Text

/-- Digits, a point with a digit on one side at least, and an exponent. -/
def decimal : Scan Unit := do
  let whole ← Scan.takeWhile isDigit
  let fraction ← Scan.optional do Scan.char '.'; Scan.takeWhile isDigit
  if whole.isEmpty && (fraction.getD []).isEmpty then failure
  let _ ← Scan.optional do
    let _ ← Scan.satisfy fun c => c == 'e' || c == 'E'
    let _ ← Scan.optional (Scan.satisfy fun c => c == '+' || c == '-')
    Scan.takeWhile₁ isDigit

/-- Whether a text is a number. -/
def isNumber (text : List Char) : Bool :=
  let unsigned := match text with
    | '+' :: r | '-' :: r => r
    | r => r
  ["inf", "infinity", "nan"].contains (String.ofList (unsigned.map Char.toLower)) ||
    (Scan.whole? decimal unsigned).isSome

/-- Whether a text is an expression that keeps the bounds and can be matched. -/
def isExpression (text : List Char) : Bool :=
  (parse? text).any fun e => e.isBounded && e.isMatched

/-- Whether a text can stand for a value. -/
def isValue (text : List Char) : Bool := isNumber text || isExpression text

end Vigil.Pattern
