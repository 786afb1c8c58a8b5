import Vigil.Toml.Statement

/-!
# Showing a place in a text

* `Position`, `Span.position`: the line and column of a place;
* `excerpt`: the line that holds a place, with the place underlined and a remark below.
-/

namespace Vigil.Toml

/-- A line of a text, without its line feed, and a place in it: the number of the line, from 1, and
how many characters of the line stand before the place. -/
structure Position where
  line : Nat
  before : Nat
  content : List Char

/-- Walk to a byte of the text.  `seen` holds the characters of the line so far, the last first. -/
def positionFrom (line : Nat) (seen : List Char) (start : Nat) : List Char → Position
  | [] => ⟨line, seen.length, seen.reverse⟩
  | c :: cs =>
    if start = 0 then ⟨line, seen.length, seen.reverse ++ (c :: cs).takeWhile (· ≠ '\n')⟩
    else if c = '\n' then positionFrom (line + 1) [] (start - 1) cs
    else positionFrom line (c :: seen) (start - c.utf8Size) cs

/-- Where a stretch of the text begins. -/
def Span.position (span : Span) (text : String) : Position :=
  positionFrom 1 [] span.start text.toList

/-- The line that holds a place, under a heading with line and column, and over the marks and the
remark.  There is one mark for every byte of the place that is on the line, and at least one. -/
def excerpt (text : String) (span : Span) (remark : String) : String :=
  let p := span.position text
  let number := Nat.toDigits 10 p.line
  let margin := List.replicate (number.length + 1) ' ' ++ ['|']
  let marks := max 1 (min (span.stop - span.start) (byteCount p.content - p.before))
  String.ofList
    ("TOML parse error at line ".toList ++ number ++ ", column ".toList ++
      Nat.toDigits 10 (p.before + 1) ++ '\n' :: margin ++ '\n' ::
      number ++ " | ".toList ++ p.content ++ '\n' ::
      margin ++ ' ' :: List.replicate p.before ' ' ++ List.replicate marks '^' ++ '\n' ::
      remark.toList ++ ['\n'])

end Vigil.Toml
