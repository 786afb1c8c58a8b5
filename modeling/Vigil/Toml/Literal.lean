import Vigil.Decimal.Nearest
import Vigil.Text.Digit
import Vigil.Text.Scan
import Vigil.Toml.Tree

/-!
# Values without parts

Readers for blanks, comments and line ends, and for the four kinds of text, numbers, booleans,
dates and times.

* `blanks`, `comment`, `newline`, `filler`: what may stand between values;
* `basicBody`, `literalBody`, `multilineBody`, `multilineLiteralBody`: text behind its opening
  quotes;
* `decimalFloat`, `specialFloat`, `integer`: numbers;
* `datetime`, `scalar`: dates and times, and any value without parts.
-/

namespace Vigil.Toml

open Vigil.Text

/-! ## Between values -/

/-- Blank and tab. -/
def isBlank (c : Char) : Bool := c == ' ' || c == '\t'

/-- Whether a character may stand in text or a comment on one line: everything but the control
characters other than tab. -/
def isPrintable (c : Char) : Bool := c == '\t' || (' ' ≤ c && c ≠ '\x7f')

/-- Skip blanks. -/
def blanks : Scan Unit := do let _ ← Scan.takeWhile isBlank

/-- One line end. -/
def newline : Scan Unit := do
  match ← Scan.next with
  | '\n' => pure ()
  | '\r' => Scan.char '\n'
  | _ => failure

/-- A comment up to the end of its line. -/
def comment : Scan Unit := do
  Scan.char '#'
  let _ ← Scan.takeWhile isPrintable

/-- A line end or the end of the text. -/
def lineEnd : Scan Unit := newline <|> Scan.atEnd

/-- What may follow a value or a header on its line. -/
def trailing : Scan Unit := do
  blanks
  let _ ← Scan.optional comment
  lineEnd

/-- Blanks, line ends, and comments that end their lines, in any number. -/
def filler : Scan Unit := do
  blanks
  let _ ← Scan.many do
    let _ ← Scan.optional comment
    newline
    blanks

/-! ## Text -/

/-- The character of a one-letter escape. -/
def unescape? : Char → Option Char
  | 'b' => some '\x08'
  | 't' => some '\t'
  | 'n' => some '\n'
  | 'f' => some '\x0c'
  | 'r' => some '\r'
  | '"' => some '"'
  | '\\' => some '\\'
  | _ => none

/-- The character that an escape names, and what follows the escape; the backslash has been
taken. -/
def escape? : List Char → Option (Char × List Char)
  | 'u' :: a :: b :: c :: d :: r => do
    return (← ofCodePoint? (← hexValue? [a, b, c, d]), r)
  | 'U' :: a :: b :: c :: d :: e :: f :: g :: h :: r => do
    return (← ofCodePoint? (← hexValue? [a, b, c, d, e, f, g, h]), r)
  | c :: r => (unescape? c).map (·, r)
  | [] => none

theorem length_lt_of_escape? {cs r : List Char} {c : Char} (h : escape? cs = some (c, r)) :
    r.length < cs.length := by
  unfold escape? at h
  split at h
  · simp only [bind, pure, Option.bind_eq_some_iff, Option.some.injEq, Prod.mk.injEq] at h
    obtain ⟨_, _, _, _, rfl, rfl⟩ := h
    simp only [List.length_cons]; omega
  · simp only [bind, pure, Option.bind_eq_some_iff, Option.some.injEq, Prod.mk.injEq] at h
    obtain ⟨_, _, _, _, rfl, rfl⟩ := h
    simp only [List.length_cons]; omega
  · simp only [Option.map_eq_some_iff, Prod.mk.injEq] at h
    obtain ⟨_, _, rfl, rfl⟩ := h
    simp
  · simp at h

/-- Text between double quotes, behind the opening one, and what follows the closing one. -/
def basicBody (cs : List Char) : Option (List Char × List Char) :=
  match cs with
  | [] => none
  | '"' :: r => some ([], r)
  | '\\' :: r =>
    match _h : escape? r with
    | none => none
    | some (c, r') => do
      let (text, rest) ← basicBody r'
      return (c :: text, rest)
  | c :: r =>
    if isPrintable c then do
      let (text, rest) ← basicBody r
      return (c :: text, rest)
    else none
termination_by cs.length
decreasing_by
  · have := length_lt_of_escape? _h
    simp only [List.length_cons]; omega
  · simp

/-- Text between single quotes, behind the opening one: nothing is escaped. -/
def literalBody : List Char → Option (List Char × List Char)
  | [] => none
  | '\'' :: r => some ([], r)
  | c :: r =>
    if isPrintable c then do
      let (text, rest) ← literalBody r
      return (c :: text, rest)
    else none

/-- The end of a multi-line text with the quote `q`, when three quotes stand here: up to two more
belong to the text. -/
def closeMultiline (q : Char) : List Char → Option (List Char × List Char)
  | a :: b :: c :: r =>
    if a = q ∧ b = q ∧ c = q then
      match r with
      | d :: e :: r' =>
        if d = q ∧ e = q then some ([q, q], r')
        else if d = q then some ([q], e :: r')
        else some ([], r)
      | [d] => if d = q then some ([q], []) else some ([], r)
      | [] => some ([], [])
    else none
  | _ => none

/-- Whether a line ends here, after blanks. -/
def endsLine (cs : List Char) : Bool :=
  match cs.dropWhile isBlank with
  | '\n' :: _ => true
  | '\r' :: '\n' :: _ => true
  | _ => false

/-- Multi-line text between triple double quotes, behind the opening ones.  Line ends become line
feeds; after a backslash at the end of a line all blanks and line ends are dropped, which
`skipping` says is going on. -/
def multilineBody (skipping : Bool) (cs : List Char) : Option (List Char × List Char) :=
  match cs with
  | [] => none
  | '\n' :: r => do
    let (text, rest) ← multilineBody skipping r
    return (if skipping then text else '\n' :: text, rest)
  | '\r' :: '\n' :: r => do
    let (text, rest) ← multilineBody skipping r
    return (if skipping then text else '\n' :: text, rest)
  | '\\' :: r =>
    if endsLine r then multilineBody true r
    else
      match _h : escape? r with
      | none => none
      | some (c, r') => do
        let (text, rest) ← multilineBody false r'
        return (c :: text, rest)
  | '"' :: r =>
    match closeMultiline '"' ('"' :: r) with
    | some end' => some end'
    | none => do
      let (text, rest) ← multilineBody false r
      return ('"' :: text, rest)
  | c :: r =>
    if skipping && isBlank c then multilineBody true r
    else if isPrintable c then do
      let (text, rest) ← multilineBody false r
      return (c :: text, rest)
    else none
termination_by cs.length
decreasing_by
  all_goals simp only [List.length_cons]
  all_goals try omega
  have hlt := length_lt_of_escape? _h
  omega

/-- Multi-line text between triple single quotes, behind the opening ones: nothing is escaped. -/
def multilineLiteralBody : List Char → Option (List Char × List Char)
  | [] => none
  | '\n' :: r => do
    let (text, rest) ← multilineLiteralBody r
    return ('\n' :: text, rest)
  | '\r' :: '\n' :: r => do
    let (text, rest) ← multilineLiteralBody r
    return ('\n' :: text, rest)
  | '\'' :: r =>
    match closeMultiline '\'' ('\'' :: r) with
    | some end' => some end'
    | none => do
      let (text, rest) ← multilineLiteralBody r
      return ('\'' :: text, rest)
  | c :: r =>
    if isPrintable c then do
      let (text, rest) ← multilineLiteralBody r
      return (c :: text, rest)
    else none

/-- Run a function that takes characters off the front. -/
def taking (f : List Char → Option (List Char × List Char)) : Scan String := do
  let (text, rest) ← (f (← Scan.rest) : Option _)
  set rest
  return String.ofList text

/-- Text on one line between double quotes. -/
def basicText : Scan String := do Scan.char '"'; taking basicBody

/-- Text on one line between single quotes. -/
def literalText : Scan String := do Scan.char '\''; taking literalBody

/-- Text of any kind.  A line end right behind triple quotes is dropped. -/
def text : Scan String :=
  (do
    Scan.chars ['"', '"', '"']
    let _ ← Scan.optional newline
    taking (multilineBody false)) <|>
  (do
    Scan.chars ['\'', '\'', '\'']
    let _ ← Scan.optional newline
    taking multilineLiteralBody)

/-! ## Numbers -/

/-- Digits behind a first one, each perhaps with an underscore before it. -/
def moreDigits (p : Char → Bool) : List Char → Option (List Char × List Char)
  | [] => some ([], [])
  | '_' :: c :: r =>
    if p c then (moreDigits p r).map fun (ds, rest) => (c :: ds, rest) else none
  | c :: r =>
    if p c then (moreDigits p r).map fun (ds, rest) => (c :: ds, rest)
    else if c = '_' then none
    else some ([], c :: r)

/-- Digits of a class, with underscores between them. -/
def digits (p : Char → Bool) : Scan (List Char) := do
  let c ← Scan.satisfy p
  let (ds, rest) ← (moreDigits p (← Scan.rest) : Option _)
  set rest
  return c :: ds

/-- A sign, if there is one; whether it is a minus. -/
def sign : Scan Bool := do
  return (← Scan.optional (Scan.satisfy (fun c => c == '+' || c == '-'))) == some '-'

/-- A decimal integer without its sign: a lone zero, or no zero in front. -/
def wholeDigits : Scan (List Char) := do
  match ← Scan.peek? with
  | some '0' => Scan.char '0'; return ['0']
  | _ => digits isDigit

/-- The digits behind a point. -/
def fractionDigits : Scan (List Char) := do Scan.char '.'; digits isDigit

/-- The exponent behind its letter. -/
def exponent : Scan Int := do
  let _ ← Scan.satisfy (fun c => c == 'e' || c == 'E')
  let negative ← sign
  let n := ofDigits 10 (← digits isDigit)
  return if negative then -(n : Int) else n

/-- The bits of a number that is none. -/
def notANumber : Float := Float.ofBits 0x7FF8000000000000

/-- Infinity or the number that is none, with a sign. -/
def specialFloat : Scan Float := do
  let negative ← sign
  match ← Scan.peek? with
  | some 'i' =>
    Scan.chars ['i', 'n', 'f']
    return Float.ofBits (if negative then 0xFFF0000000000000 else 0x7FF0000000000000)
  | _ => Scan.chars ['n', 'a', 'n']; return notANumber

/-- A binary64 number with a point, an exponent or both.  One that is too large is refused, and
one that is too small becomes negative infinity. -/
def decimalFloat : Scan Float := do
  let negative ← sign
  let whole ← wholeDigits
  let fraction ← Scan.optional fractionDigits
  let power ← Scan.optional exponent
  if fraction.isNone ∧ power.isNone then failure
  let places := fraction.getD []
  let x := Decimal.nearest negative (ofDigits 10 (whole ++ places))
    (power.getD 0 - places.length)
  if ¬negative ∧ ¬x.isFinite then failure else return x

/-- Whether an integer fits in 64 bits with a sign. -/
def fits (i : Int) : Bool := -0x8000000000000000 ≤ i && i < 0x8000000000000000

/-- A whole number in base sixteen, eight or two behind its mark, or a decimal one. -/
def integer : Scan Int := do
  let based (mark : Char) (base : Nat) : Scan Int := do
    Scan.chars ['0', mark]
    return ofDigits base (← digits (isDigitIn base))
  let decimal : Scan Int := do
    let negative ← sign
    let n := ofDigits 10 (← wholeDigits)
    return if negative then -(n : Int) else n
  let i ← based 'x' 16 <|> based 'o' 8 <|> based 'b' 2 <|> decimal
  if fits i then return i else failure

/-- Exactly so many digits, as a number within bounds. -/
def fixed (width low high : Nat) : Scan Nat := do
  let ds ← (List.replicate width ()).mapM fun _ => Scan.satisfy isDigit
  let n := ofDigits 10 ds
  if low ≤ n ∧ n ≤ high then return n else failure

/-- A day of the calendar. -/
def date : Scan Date := do
  let year ← fixed 4 0 9999
  Scan.char '-'
  let month ← fixed 2 1 12
  Scan.char '-'
  let day ← fixed 2 1 31
  if day ≤ daysInMonth year month then return ⟨year, month, day⟩ else failure

/-- Places of the second as billionths; further places are dropped. -/
def nanoseconds (places : List Char) : Nat :=
  let kept := places.take 9
  ofDigits 10 kept * Nat.pow 10 (9 - kept.length)

/-- A time of day. -/
def time : Scan Time := do
  let hour ← fixed 2 0 23
  Scan.char ':'
  let minute ← fixed 2 0 59
  Scan.char ':'
  let second ← fixed 2 0 60
  let places ← Scan.optional do Scan.char '.'; Scan.takeWhile₁ isDigit
  return ⟨hour, minute, second, nanoseconds (places.getD [])⟩

/-- A distance from UTC. -/
def offset : Scan Offset := do
  match ← Scan.next with
  | 'Z' => return .utc
  | 'z' => return .utc
  | '+' => return .minutes (← distance)
  | '-' => return .minutes (-(← distance))
  | _ => failure
where
  -- Hours and minutes, in minutes.
  distance : Scan Int := do
    let hour ← fixed 2 0 23
    Scan.char ':'
    let minute ← fixed 2 0 59
    return hour * 60 + minute

/-- The time behind a date. -/
def timeOfDate : Scan (Time × Option Offset) := do
  let _ ← Scan.satisfy (fun c => c == 'T' || c == 't' || c == ' ')
  let t ← time
  return (t, ← Scan.optional offset)

/-- A date, a date with a time and perhaps an offset, or a time. -/
def datetime : Scan Datetime :=
  (do
    let d ← date
    match ← Scan.optional timeOfDate with
    | some (t, o) => return ⟨some d, some t, o⟩
    | none => return ⟨some d, none, none⟩) <|>
  (do return ⟨none, some (← time), none⟩)

/-- Any value without parts. -/
def scalar : Scan Scalar := do
  match ← Scan.peek? with
  | some '"' => .string <$> (text <|> basicText)
  | some '\'' => .string <$> (text <|> literalText)
  | some 't' => Scan.chars ['t', 'r', 'u', 'e']; return .boolean true
  | some 'f' => Scan.chars ['f', 'a', 'l', 's', 'e']; return .boolean false
  | _ =>
    (.datetime <$> datetime) <|> (.float <$> decimalFloat) <|> (.float <$> specialFloat) <|>
      (.integer <$> integer)

end Vigil.Toml
