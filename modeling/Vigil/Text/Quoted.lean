import Vigil.Text.Unprintable

/-!
# Quoted text for diagnostics

Text between double quotes in which nothing invisible is left: quotes, backslashes and the common
control characters have short escapes, and every other character that does not print on its own
is written by its code point.

* `showsItself`: the characters beyond ASCII that print on their own;
* `quotedChar`, `quoted`.
-/

namespace Vigil.Text

/-- Whether a character beyond ASCII is seen in print, beside the character before it. -/
def showsItself (c : Char) : Bool :=
  !isUnprintable c && !isFiller c && (!isGraphemeExtend c || isVoicingMark c)

/-- One character inside quotes. -/
def quotedChar (c : Char) : List Char :=
  match c with
  | '\x00' => ['\\', '0']
  | '\t' => ['\\', 't']
  | '\n' => ['\\', 'n']
  | '\r' => ['\\', 'r']
  | '"' => ['\\', '"']
  | '\\' => ['\\', '\\']
  | c =>
    if c.toNat < 0x7F && ' ' ≤ c then [c]
    else if showsItself c then [c]
    else ['\\', 'u', '{'] ++ Nat.toDigits 16 c.toNat ++ ['}']

/-- A text between quotes. -/
def quoted (s : String) : String :=
  String.ofList ('"' :: s.toList.flatMap quotedChar ++ ['"'])

end Vigil.Text
