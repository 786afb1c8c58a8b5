/-!
# Text for a terminal

What is left of a text when all that steers a terminal is taken out: control sequences, and
control characters other than white space.

* `Terminal`: what a terminal expects next while it reads a control sequence;
* `Terminal.next`: how a character changes that;
* `Terminal.shows`: whether a character is printed;
* `withoutControls`: the printed part of a text.
-/

namespace Vigil.Text

/-- What a terminal expects: text to print; after an escape character, the kind of a control
sequence; the end of a short one; parameters of one and the letter that ends it; a command to the
window, up to a bell; the parameters of a string for a device, the first or more, or the end of what
stands before such a string; or a string that is not printed, up to the byte that ends strings. -/
inductive Terminal where
  | ground
  | escape
  | short
  | parameters
  | window
  | deviceStart
  | deviceParameters
  | deviceShort
  | hidden
  deriving DecidableEq, Repr

namespace Terminal

/-- Whether a character has a code point in a range. -/
def within (low high : Nat) (c : Char) : Bool := low ≤ c.toNat && c.toNat ≤ high

/-- The byte that ends a string for a device. -/
def stringEnd : UInt8 := 0x9C

/-- What a terminal expects after a character.  An escape character begins a new sequence wherever
it stands, and two control characters break off the present one. -/
def next (t : Terminal) (c : Char) : Terminal :=
  if c == '\x1b' then escape
  else if c == '\x18' || c == '\x1a' then ground
  else
    match t with
    | ground => ground
    | escape =>
      if c == '[' then parameters
      else if c == ']' then window
      else if c == 'P' then deviceStart
      else if c == 'X' || c == '^' || c == '_' then hidden
      else if within 0x20 0x2F c then short
      else if within 0x30 0x7E c then ground
      else escape
    | short => if within 0x30 0x7E c then ground else short
    | parameters => if within 0x40 0x7E c then ground else parameters
    | window => if c == '\x07' then ground else window
    | deviceStart =>
      if within 0x20 0x2F c then deviceShort
      else if within 0x30 0x3F c then deviceParameters
      else if within 0x40 0x7E c then hidden
      else deviceStart
    | deviceParameters =>
      if within 0x20 0x2F c then deviceShort
      else if within 0x3C 0x7E c then hidden
      else deviceParameters
    | deviceShort => if within 0x30 0x7E c then hidden else deviceShort
    | hidden => if (String.singleton c).toUTF8.toList.contains stringEnd then ground else hidden

/-- Tab, line feed, form feed and carriage return. -/
def isLayout (c : Char) : Bool := c == '\t' || c == '\n' || c == '\x0c' || c == '\r'

/-- Whether a character is printed.  Within most sequences white space still is. -/
def shows (t : Terminal) (c : Char) : Bool :=
  match t with
  | ground => isLayout c || (' ' ≤ c && c != '\x7f')
  | escape | short | parameters => isLayout c
  | window | deviceStart | deviceParameters | deviceShort | hidden => false

/-- The printed part of a text.  Once something is printed, printing goes on up to a control
character; one that begins no sequence leads back into the sequence that was left for white
space. -/
def printed (printing : Bool) (t : Terminal) : List Char → List Char
  | [] => []
  | c :: cs =>
    if (if printing then ground else t).shows c then
      c :: printed true (if c.toNat < 0x80 then t else ground) cs
    else printed false (t.next c) cs

end Terminal

/-- A text without all that steers a terminal. -/
def withoutControls (s : String) : String :=
  String.ofList (Terminal.printed false .ground s.toList)

end Vigil.Text
