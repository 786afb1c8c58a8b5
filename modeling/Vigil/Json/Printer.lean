import Vigil.Decimal.Layout
import Vigil.Json.Value

/-!
# Writing JSON

* `Json.escape`, `Json.quote`: text between quotes;
* `Json.compact`: on one line without blanks;
* `Json.pretty`: one item a line, indented by two blanks a level.
-/

namespace Vigil.Json

/-- Numbers from a hundred thousandth to below ten quadrillion are written positionally, and of two
equally near decimals the even one. -/
def numberLayout : Decimal.Layout := ⟨some (-5), some 15, .even⟩

/-- One character inside a JSON string: quote, backslash and control characters are escaped, all
else stands for itself. -/
def escape (c : Char) : List Char :=
  match c with
  | '"' => ['\\', '"']
  | '\\' => ['\\', '\\']
  | '\x08' => ['\\', 'b']
  | '\x0c' => ['\\', 'f']
  | '\n' => ['\\', 'n']
  | '\r' => ['\\', 'r']
  | '\t' => ['\\', 't']
  | c =>
    if c < ' ' then
      ['\\', 'u', '0', '0', Nat.digitChar (c.toNat / 16), Nat.digitChar (c.toNat % 16)]
    else [c]

/-- A text as a JSON string. -/
def quote (s : String) : List Char := '"' :: s.toList.flatMap escape ++ ['"']

/-- The decimal digits of an integer, after a minus sign if it is negative. -/
def intChars (i : Int) : List Char :=
  if i < 0 then '-' :: Nat.toDigits 10 i.natAbs else Nat.toDigits 10 i.natAbs

/-- A binary64 number; one that is not finite has no JSON form and is written as `null`. -/
def floatChars (x : Float) : List Char :=
  if x.isFinite then (numberLayout.render x).toList else ['n', 'u', 'l', 'l']

/-- The form of a value that has no parts. -/
def atom : Json → List Char
  | null => ['n', 'u', 'l', 'l']
  | bool true => ['t', 'r', 'u', 'e']
  | bool false => ['f', 'a', 'l', 's', 'e']
  | int i => intChars i
  | float x => floatChars x
  | string s => quote s
  | array _ => []
  | object _ => []

mutual

/-- The characters of a value on one line. -/
def compactChars : Json → List Char
  | array items => '[' :: compactItems items ++ [']']
  | object fields => '{' :: compactFields fields ++ ['}']
  | v => atom v

/-- Items with commas between them. -/
def compactItems : List Json → List Char
  | [] => []
  | [v] => compactChars v
  | v :: vs => compactChars v ++ ',' :: compactItems vs

/-- Fields with commas between them. -/
def compactFields : List (String × Json) → List Char
  | [] => []
  | [(k, v)] => quote k ++ ':' :: compactChars v
  | (k, v) :: fs => quote k ++ ':' :: compactChars v ++ ',' :: compactFields fs

end

/-- A value on one line. -/
def compact (v : Json) : String := String.ofList (compactChars v)

/-- A line break and the indentation of a level. -/
def newline (level : Nat) : List Char := '\n' :: List.replicate (2 * level) ' '

mutual

/-- The characters of a value that begins on a line of the given level. -/
def prettyChars (level : Nat) : Json → List Char
  | array [] => ['[', ']']
  | array items => '[' :: prettyItems (level + 1) items ++ newline level ++ [']']
  | object [] => ['{', '}']
  | object fields => '{' :: prettyFields (level + 1) fields ++ newline level ++ ['}']
  | v => atom v

/-- Items on lines of their own. -/
def prettyItems (level : Nat) : List Json → List Char
  | [] => []
  | [v] => newline level ++ prettyChars level v
  | v :: vs => newline level ++ prettyChars level v ++ ',' :: prettyItems level vs

/-- Fields on lines of their own. -/
def prettyFields (level : Nat) : List (String × Json) → List Char
  | [] => []
  | [(k, v)] => newline level ++ quote k ++ ':' :: ' ' :: prettyChars level v
  | (k, v) :: fs =>
    newline level ++ quote k ++ ':' :: ' ' :: prettyChars level v ++ ',' :: prettyFields level fs

end

/-- A value over several lines. -/
def pretty (v : Json) : String := String.ofList (prettyChars 0 v)

end Vigil.Json
