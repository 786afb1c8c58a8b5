import Vigil.Decimal.Nearest
import Vigil.Json.Value
import Vigil.SortedMap
import Vigil.Text.Digit
import Vigil.Text.Scan

/-!
# Reading JSON

* `Json.stringBody`: a string after its opening quote;
* `Json.numberLiteral`: integers that fit in 64 bits stay integers, all other numbers are the
  nearest binary64 numbers;
* `Json.value`: a value with a bound on its nesting;
* `Json.parse?`: a whole text.  Fields of an object come out in key order, the last of two fields
  with one name counts.
-/

namespace Vigil.Json

open Vigil.Text

/-- How many arrays and objects may stand inside each other. -/
def maxDepth : Nat := 127

/-- Blank, tab and line ends. -/
def isSpace (c : Char) : Bool := c == ' ' || c == '\t' || c == '\n' || c == '\r'

/-- Skip white space. -/
def space : Scan Unit := do let _ ← Scan.takeWhile isSpace

/-- The character that a one-letter escape stands for. -/
def unescape? : Char → Option Char
  | '"' => some '"'
  | '\\' => some '\\'
  | '/' => some '/'
  | 'b' => some '\x08'
  | 'f' => some '\x0c'
  | 'n' => some '\n'
  | 'r' => some '\r'
  | 't' => some '\t'
  | _ => none

/-- The code point of a pair of surrogates. -/
def surrogatePair? (high low : Nat) : Option Char :=
  if 0xD800 ≤ high ∧ high < 0xDC00 ∧ 0xDC00 ≤ low ∧ low < 0xE000 then
    ofCodePoint? (0x10000 + (high - 0xD800) * 0x400 + (low - 0xDC00))
  else none

/-- A string after its opening quote, and what follows the closing one.  Control characters must
be escaped, and a surrogate counts only in a pair. -/
def stringBody : List Char → Option (List Char × List Char)
  | [] => none
  | '"' :: r => some ([], r)
  | '\\' :: 'u' :: a :: b :: c :: d :: r => do
    let n ← hexValue? [a, b, c, d]
    match ofCodePoint? n with
    | some ch =>
      let (cs, r) ← stringBody r
      return (ch :: cs, r)
    | none =>
      match r with
      | '\\' :: 'u' :: e :: f :: g :: h :: r =>
        let ch ← surrogatePair? n (← hexValue? [e, f, g, h])
        let (cs, r) ← stringBody r
        return (ch :: cs, r)
      | _ => none
  | '\\' :: c :: r => do
    let ch ← unescape? c
    let (cs, r) ← stringBody r
    return (ch :: cs, r)
  | c :: r =>
    if c < ' ' ∨ c = '\\' then none
    else do
      let (cs, r) ← stringBody r
      return (c :: cs, r)

/-- A string between quotes. -/
def stringLiteral : Scan String := do
  Scan.char '"'
  let (cs, r) ← (stringBody (← Scan.rest) : Option _)
  set r
  return String.ofList cs

/-- The digits of an integer: a lone zero, or no zero in front. -/
def integerDigits : Scan (List Char) := do
  match ← Scan.peek? with
  | some '0' => Scan.char '0'; return ['0']
  | _ => Scan.takeWhile₁ isDigit

/-- The digits after a point, if there is one. -/
def fractionDigits : Scan (Option (List Char)) :=
  Scan.optional do Scan.char '.'; Scan.takeWhile₁ isDigit

/-- The exponent, if there is one. -/
def exponent : Scan (Option Int) :=
  Scan.optional do
    let _ ← Scan.satisfy (fun c => c == 'e' || c == 'E')
    let sign ← Scan.optional (Scan.satisfy (fun c => c == '+' || c == '-'))
    let n := ofDigits 10 (← Scan.takeWhile₁ isDigit)
    return if sign = some '-' then -(n : Int) else n

/-- A number.  Without point and exponent it is an integer if it fits in 64 bits; negative zero
and all other numbers are binary64, and one that is too large for that is refused. -/
def numberLiteral : Scan Json := do
  let negative := (← Scan.optional (Scan.char '-')).isSome
  let whole ← integerDigits
  let fraction ← fractionDigits
  let power ← exponent
  let magnitude := ofDigits 10 whole
  let i : Int := if negative then -(magnitude : Int) else magnitude
  if fraction.isNone ∧ power.isNone ∧ Json.InRange i ∧ (negative → magnitude ≠ 0) then
    return Json.int i
  let digits := fraction.getD []
  let x := Decimal.nearest negative (ofDigits 10 (whole ++ digits))
    (power.getD 0 - digits.length)
  if x.isFinite then return Json.float x else failure

/-- A value without parts, found by its first character. -/
def leaf : Scan Json := do
  match ← Scan.peek? with
  | some 'n' => Scan.chars ['n', 'u', 'l', 'l']; return Json.null
  | some 't' => Scan.chars ['t', 'r', 'u', 'e']; return Json.bool true
  | some 'f' => Scan.chars ['f', 'a', 'l', 's', 'e']; return Json.bool false
  | some '"' => return Json.string (← stringLiteral)
  | _ => numberLiteral

/-- The rest of an array whose opening bracket has been taken. -/
def arrayBody (item : Scan Json) : Scan Json := do
  space
  let items ← Scan.optional (Scan.sepBy₁ (do let v ← item; space; return v)
    (do Scan.char ','; space))
  Scan.char ']'
  return Json.array (items.getD [])

/-- The rest of an object whose opening brace has been taken. -/
def objectBody (item : Scan Json) : Scan Json := do
  space
  let field : Scan (String × Json) := do
    let k ← stringLiteral
    space; Scan.char ':'; space
    let v ← item
    space
    return (k, v)
  let fields ← Scan.optional (Scan.sepBy₁ field (do Scan.char ','; space))
  Scan.char '}'
  return Json.object (SortedMap.ofList (fields.getD [])).entries

/-- A value with at most the given number of arrays and objects inside each other. -/
def value : Nat → Scan Json
  | 0 => leaf
  | depth + 1 => do
    match ← Scan.peek? with
    | some '[' => Scan.char '['; arrayBody (value depth)
    | some '{' => Scan.char '{'; objectBody (value depth)
    | _ => leaf

/-- A whole text as one value. -/
def parse? (text : String) : Option Json :=
  Scan.whole? (do space; let v ← value maxDepth; space; return v) text.toList

end Vigil.Json
