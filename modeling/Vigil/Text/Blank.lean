/-!
# Blank text

* `isBlank`: the characters that Unicode calls white space;
* `trim`: a text without the white space at both ends;
* `allBlank`: text of which nothing is left then.
-/

namespace Vigil.Text

/-- The characters with the Unicode property White_Space. -/
def isBlank (c : Char) : Bool :=
  let n := c.toNat
  (0x09 ≤ n && n ≤ 0x0D) || n == 0x20 || n == 0x85 || n == 0xA0 || n == 0x1680 ||
  (0x2000 ≤ n && n ≤ 0x200A) || n == 0x2028 || n == 0x2029 || n == 0x202F || n == 0x205F ||
  n == 0x3000

/-- Whether trimming white space leaves nothing. -/
def allBlank (s : String) : Bool := s.toList.all isBlank

/-- A text without the white space at both ends. -/
def trim (s : String) : String :=
  String.ofList ((s.toList.dropWhile isBlank).reverse.dropWhile isBlank).reverse

end Vigil.Text
