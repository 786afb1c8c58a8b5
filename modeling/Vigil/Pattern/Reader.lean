import Vigil.Pattern.Expression
import Vigil.Text.Alphanumeric
import Vigil.Text.Blank
import Vigil.Text.Digit

/-!
# Reading regular expressions

All readers take the text that is left, and give what they read and the text behind it.  Where
`spaced` is true, blanks and comments between the parts of an expression mean nothing.

* `space`: skip blanks and comments;
* `escape?`: a character, a class or a place behind a backslash;
* `bracketed`: a class in brackets;
* `opening?`: what stands behind an opening parenthesis;
* `body`, `parse?`: an expression.

The text comes from a directive, in which a comma, an equals sign or a closing brace ends the value.
So whatever needs one of them, as counted repetition does, is left unfinished and is refused.
-/

namespace Vigil.Pattern

open Vigil.Text

/-! ## Blanks and comments -/

/-- Skip blanks, and comments from a number sign to the end of the line. -/
def skip (comment : Bool) : List Char → List Char
  | [] => []
  | c :: cs =>
    if comment then skip (c != '\n') cs
    else if isBlank c then skip false cs
    else if c == '#' then skip true cs
    else c :: cs

/-- Skip blanks and comments if they mean nothing. -/
def space (spaced : Bool) (text : List Char) : List Char :=
  if spaced then skip false text else text

/-- Skip blanks and comments and demand that something follows. -/
def space? (spaced : Bool) (text : List Char) : Option (List Char) :=
  match space spaced text with
  | [] => none
  | c :: cs => some (c :: cs)

/-- The character that a hyphen looks at behind it: the first that is no blank, also within a
comment. -/
def ahead? (spaced : Bool) (text : List Char) : Option Char :=
  if spaced then
    match text.dropWhile isBlank with
    | '#' :: cs => (cs.dropWhile isBlank).head?
    | cs => cs.head?
  else text.head?

/-! ## Escapes -/

/-- What an escape stands for. -/
inductive Escaped where
  | literal (l : Literal)
  | oneOf (c : Class)
  | place (word : Bool)

/-- Read some hexadecimal digits. -/
def hexDigits (spaced : Bool) : Nat → List Char → Option (List Char × List Char)
  | 0, text => some ([], text)
  | count + 1, text =>
    match space spaced text with
    | [] => none
    | c :: cs =>
      if isHexDigit c then (hexDigits spaced count cs).map fun (ds, r) => (c :: ds, r) else none

/-- Read a character that is written by its code point. -/
def codePoint? (spaced : Bool) (count : Nat) (text : List Char) :
    Option (Escaped × List Char) := do
  let (digits, r) ← hexDigits spaced count text
  return (.literal ⟨← ofCodePoint? (ofDigits 16 digits), count == 2⟩, r)

/-- Read an escape behind its backslash.  Punctuation stands for itself. -/
def escape? (spaced : Bool) : List Char → Option (Escaped × List Char)
  | [] => none
  | c :: r =>
    match c with
    | 'x' => codePoint? spaced 2 r
    | 'u' => codePoint? spaced 4 r
    | 'U' => codePoint? spaced 8 r
    | 'p' | 'P' => do
      match ← space? spaced r with
      | '\\' :: _ | '{' :: _ => none
      | _ :: r => return (.oneOf .property, r)
      | [] => none
    | 'd' | 's' | 'w' => some (.oneOf (.shorthand false), r)
    | 'D' | 'S' | 'W' => some (.oneOf (.shorthand true), r)
    | 'a' => some (.literal ⟨'\x07', false⟩, r)
    | 'f' => some (.literal ⟨'\x0c', false⟩, r)
    | 't' => some (.literal ⟨'\t', false⟩, r)
    | 'n' => some (.literal ⟨'\n', false⟩, r)
    | 'r' => some (.literal ⟨'\r', false⟩, r)
    | 'v' => some (.literal ⟨'\x0b', false⟩, r)
    | 'A' | 'z' => some (.place false, r)
    | 'b' | 'B' | '<' | '>' => some (.place true, r)
    | c => if c.toNat < 0x80 && !c.isAlphanum then some (.literal ⟨c, false⟩, r) else none

/-! ## Classes -/

/-- The names of classes of ASCII. -/
def classNames : List String :=
  ["alnum", "alpha", "ascii", "blank", "cntrl", "digit", "graph", "lower", "print", "punct",
    "space", "upper", "word", "xdigit"]

/-- Read a class that is given by its name between colons, behind its opening bracket. -/
def namedClass? : List Char → Option (Class × List Char)
  | ':' :: text =>
    let negated := text.head? == some '^'
    let text := if negated then text.drop 1 else text
    let name := text.takeWhile (· ≠ ':')
    match text.drop name.length with
    | ':' :: ']' :: r =>
      if classNames.contains (String.ofList name) then some (.named negated, r) else none
    | _ => none
  | _ => none

/-- Read a character, or an escape that can stand in a class. -/
def member? (spaced : Bool) : List Char → Option (Class × List Char)
  | [] => none
  | '\\' :: r => do
    match ← escape? spaced r with
    | (.literal l, r) => return (.literal l, r)
    | (.oneOf c, r) => return (c, r)
    | (.place _, _) => none
  | c :: r => some (.literal ⟨c, false⟩, r)

/-- Read a character, an escape, or two characters with a hyphen between them. -/
def range? (spaced : Bool) (text : List Char) : Option (Class × List Char) := do
  let (low, r) ← member? spaced text
  match ← space? spaced r with
  | '-' :: r' =>
    if ahead? spaced r' = some ']' ∨ ahead? spaced r' = some '-' then return (low, '-' :: r')
    else
      let (high, r) ← member? spaced (← space? spaced r')
      match low, high with
      | .literal low, .literal high =>
        if low.char ≤ high.char then return (.range low high, r) else none
      | _, _ => none
  | r => return (low, r)

/-- Read hyphens that stand for themselves. -/
def hyphens (spaced : Bool) (parts : List Class) : Nat → List Char →
    Option (List Class × List Char)
  | 0, _ => none
  | fuel + 1, text => do
    match ← space? spaced text with
    | '-' :: r => hyphens spaced (.literal ⟨'-', false⟩ :: parts) fuel r
    | r => return (parts, r)

/-- Read the beginning of a class behind its opening bracket: whether it is a complement, and the
characters that stand for themselves here only. -/
def classStart? (spaced : Bool) (fuel : Nat) (text : List Char) :
    Option (Bool × List Class × List Char) := do
  let text ← space? spaced text
  let negated := text.head? == some '^'
  let (parts, r) ← hyphens spaced [] fuel (if negated then text.drop 1 else text)
  match parts, r with
  | [], ']' :: r => return (negated, [.literal ⟨']', false⟩], ← space? spaced r)
  | parts, r => return (negated, parts, r)

/-- What has been read of a class: the operator that waits for its right side, with the left one,
and the parts since then, the last one first. -/
structure ClassDraft where
  waiting : Option (ClassOperator × Class) := none
  parts : List Class := []

/-- The class that has been read. -/
def ClassDraft.close (d : ClassDraft) : Class :=
  let right := Class.ofParts d.parts.reverse
  match d.waiting with
  | none => right
  | some (operator, left) => .combined operator left right

/-- Put an operator behind what has been read. -/
def ClassDraft.wait (d : ClassDraft) (operator : ClassOperator) : ClassDraft :=
  ⟨some (operator, d.close), []⟩

/-- Put a part behind what has been read. -/
def ClassDraft.add (d : ClassDraft) (c : Class) : ClassDraft :=
  { d with parts := c :: d.parts }

/-- Read the rest of a class with its closing bracket. -/
def classBody (spaced : Bool) : Nat → ClassDraft → List Char → Option (Class × List Char)
  | 0, _, _ => none
  | fuel + 1, d, text =>
    match space spaced text with
    | [] => none
    | ']' :: r => some (d.close, r)
    | '&' :: '&' :: r => classBody spaced fuel (d.wait .intersection) r
    | '-' :: '-' :: r => classBody spaced fuel (d.wait .difference) r
    | '~' :: '~' :: r => classBody spaced fuel (d.wait .symmetricDifference) r
    | '[' :: r =>
      match namedClass? r with
      | some (c, r) => classBody spaced fuel (d.add c) r
      | none => do
        let (negated, parts, r) ← classStart? spaced fuel r
        let (c, r) ← classBody spaced fuel ⟨none, parts⟩ r
        classBody spaced fuel (d.add (.bracketed negated c)) r
    | text => do
      let (c, r) ← range? spaced text
      classBody spaced fuel (d.add c) r

/-- Read a class behind its opening bracket. -/
def bracketed? (spaced : Bool) (fuel : Nat) (text : List Char) : Option (Class × List Char) := do
  let (negated, parts, r) ← classStart? spaced fuel text
  let (c, r) ← classBody spaced fuel ⟨none, parts⟩ r
  return (.bracketed negated c, r)

/-! ## Groups -/

/-- The letters of flags. -/
def flagLetters : List Char := ['i', 'm', 's', 'U', 'u', 'R', 'x']

/-- Read the letters of flags, of which those behind a dash are taken back.  None may be given
twice, and something must stand behind a dash. -/
def flags? (letters : List Char) : Option Flags :=
  if letters.all ('-' :: flagLetters).contains ∧ letters.Nodup ∧ letters.getLast? ≠ some '-' then
    let given := letters.takeWhile (· ≠ '-')
    some (given.map (·, true) ++ (letters.drop (given.length + 1)).map (·, false))
  else none

/-- Whether a text can be the name of a group. -/
def isName : List Char → Bool
  | [] => false
  | c :: cs =>
    (c == '_' || isAlphabetic c) &&
      cs.all fun c => isAlphanumeric c || c == '_' || c == '.' || c == '[' || c == ']'

/-- What a parenthesis opens: a group, or nothing but a change of flags. -/
inductive Opening where
  | group (name : Option String) (flags : Flags)
  | setting (flags : Flags)

/-- Read the name of a group up to the bracket behind it. -/
def groupName? (text : List Char) : Option (Opening × List Char) :=
  let name := text.takeWhile (· ≠ '>')
  match text.drop name.length with
  | _ :: r => if isName name then some (.group (some (String.ofList name)) [], r) else none
  | [] => none

/-- Read what stands behind an opening parenthesis, before the group's expression. -/
def opening? (spaced : Bool) (text : List Char) : Option (Opening × List Char) :=
  match space spaced text with
  | '?' :: 'P' :: '<' :: r => groupName? r
  | '?' :: '<' :: r => groupName? r
  | '?' :: r => do
    let letters := r.takeWhile fun c => c ≠ ':' && c ≠ ')'
    let flags ← flags? letters
    match r.drop letters.length with
    | ':' :: r => return (.group none flags, r)
    | _ :: r => if flags.isEmpty then none else return (.setting flags, r)
    | [] => none
  | r => some (.group none [], r)

/-! ## Expressions -/

/-- What has been read of an expression: its branches and the parts of the last one, each the last
one first. -/
structure Draft where
  branches : List Expression := []
  parts : List Expression := []

/-- The expression that has been read. -/
def Draft.close (d : Draft) : Expression :=
  .ofChoice ((Expression.ofSequence d.parts.reverse :: d.branches).reverse)

/-- Begin a new branch. -/
def Draft.branch (d : Draft) : Draft := ⟨.ofSequence d.parts.reverse :: d.branches, []⟩

/-- Put a part behind what has been read. -/
def Draft.add (d : Draft) (e : Expression) : Draft := { d with parts := e :: d.parts }

/-- Repeat the last part. -/
def Draft.repeat? (d : Draft) : Option Draft :=
  match d.parts with
  | e :: es => if e.isRepeatable then some { d with parts := .repeated e :: es } else none
  | [] => none

/-- An escape as an expression. -/
def Escaped.expression : Escaped → Expression
  | .literal l => .literal l
  | .oneOf c => .oneOf c
  | .place word => .place word

/-- Read the rest of an expression, up to the end or to a parenthesis that it does not open.  A
question mark right behind a repetition belongs to it. -/
def body : Nat → Bool → Draft → List Char → Option (Expression × List Char)
  | 0, _, _, _ => none
  | fuel + 1, spaced, d, text =>
    match space spaced text with
    | [] => some (d.close, [])
    | c :: r =>
      match c with
      | ')' => some (d.close, c :: r)
      | '|' => body fuel spaced d.branch r
      | '(' => do
        match ← opening? spaced r with
        | (.setting flags, r) =>
          body fuel (flags.valueOf 'x' spaced) (d.add (.setting flags)) r
        | (.group name flags, r) =>
          match ← body fuel (flags.valueOf 'x' spaced) {} r with
          | (e, _ :: r) => body fuel spaced (d.add (.group name flags e)) r
          | (_, []) => none
      | '[' => do
        let (c, r) ← bracketed? spaced fuel r
        body fuel spaced (d.add (.oneOf c)) r
      | '*' | '+' | '?' => do
        body fuel spaced (← d.repeat?) (if r.head? = some '?' then r.drop 1 else r)
      | '{' => none
      | '\\' => do
        let (e, r) ← escape? spaced r
        body fuel spaced (d.add e.expression) r
      | '.' => body fuel spaced (d.add .any) r
      | '^' | '$' => body fuel spaced (d.add (.place false)) r
      | c => body fuel spaced (d.add (.literal ⟨c, false⟩)) r

/-- Read a whole text as an expression.  Each step takes a character, so the size of the text bounds
the number of steps; a step that reads a part in turn hands its own bound on, which exceeds the
size of what is left. -/
def parse? (text : List Char) : Option Expression :=
  match body (text.length + 1) false {} text with
  | some (e, []) => some e
  | _ => none

end Vigil.Pattern
