import Vigil.Pattern.Value
import Vigil.Record
import Vigil.Text.Alphanumeric
import Vigil.Text.Blank
import Vigil.Text.Digit

/-!
# Which records are written

A filter is a list of directives, each a threshold for the records of a part of the program, for
those with a field, or for all.

* `Threshold`, `FieldTest`, `Directive`, `Filter`: what a filter says;
* `Draft`: a directive while it is read;
* `Filter.parse?`: read a filter;
* `Filter.enables`: whether a record is written.
-/

namespace Vigil.Command

open Vigil.Text

/-- How grave a record must be, at least, to be written.  With `off` nothing is written. -/
inductive Threshold where
  | off
  | error
  | warn
  | info
  | debug
  | trace
  deriving DecidableEq, Repr

namespace Threshold

/-- Later thresholds let more records pass. -/
def rank : Threshold → Nat
  | off => 0
  | error => 1
  | warn => 2
  | info => 3
  | debug => 4
  | trace => 5

/-- The threshold at which records of a level begin to be written. -/
def ofLevel : Level → Threshold
  | .debug => debug
  | .info => info
  | .warn => warn

/-- Whether records of a level pass. -/
def admits (t : Threshold) (l : Level) : Bool := (ofLevel l).rank ≤ t.rank

/-- The threshold with a number. -/
def ofNumber? : Nat → Option Threshold
  | 0 => some off
  | 1 => some error
  | 2 => some warn
  | 3 => some info
  | 4 => some debug
  | 5 => some trace
  | _ => none

/-- The threshold with a name, in either case.  Nothing stands for errors only. -/
def ofName? (name : List Char) : Option Threshold :=
  match String.ofList (name.map Char.toLower) with
  | "off" => some off
  | "error" | "" => some error
  | "warn" => some warn
  | "info" => some info
  | "debug" => some debug
  | "trace" => some trace
  | _ => none

/-- Read a threshold: a name, or a number with or without a plus. -/
def ofText? (text : List Char) : Option Threshold :=
  let digits := match text with
    | '+' :: r => r
    | r => r
  if digits.all isDigit && !digits.isEmpty then ofNumber? (ofDigits 10 digits) else ofName? text

end Threshold

/-- A condition on the fields of a record: there is one with a name, and it may have to have a
certain value. -/
structure FieldTest where
  name : String
  valued : Bool
  deriving DecidableEq, Repr

/-- Read the condition between braces: a name, and behind an equals sign a value. -/
def FieldTest.parse? (text : List Char) : Option FieldTest :=
  let name := text.takeWhile (· ≠ '=')
  match text.drop name.length with
  | [] => if text.isEmpty then none else some ⟨String.ofList name, false⟩
  | _ :: r =>
    if Pattern.isValue (r.takeWhile (· ≠ '=')) then some ⟨String.ofList name, true⟩ else none

/-- A threshold for some records, or for all.  They are those of a part of the program, by the
beginning of its name, within a span of its work, and with a condition on their fields; whichever of
these is missing says nothing. -/
structure Directive where
  target : Option String := none
  span : Option String := none
  field : Option FieldTest := none
  threshold : Threshold := .trace
  deriving DecidableEq, Repr

namespace Directive

/-- Whether the directive can be applied to a record by itself; all others are about spans. -/
def isPlain (d : Directive) : Bool := d.span.isNone && d.field.all (!·.valued)

/-- Whether the directive is about a record. -/
def concerns (d : Directive) (r : Record) : Bool :=
  d.isPlain && d.target.all (fun t => t.toList.isPrefixOf r.target.toList) &&
    d.field.all fun f => f.name == "message" || r.fields.any (·.1 == f.name)

/-- How closely a target describes the part of the program, as the size of its text. -/
def closeness (d : Directive) : Nat :=
  match d.target with
  | none => 0
  | some t => t.utf8ByteSize + 1

/-- Whether one directive counts and not the other, if both concern a record and this one stands
later: it describes the part of the program more closely, or as closely and has a field, the last
in the order of names. -/
def outranks (d e : Directive) : Bool :=
  e.closeness < d.closeness ||
    (e.closeness == d.closeness &&
      match e.field, d.field with
      | none, _ => true
      | some _, none => false
      | some f, some g => f.name ≤ g.name)

end Directive

/-- Directives that together say which records are written. -/
abbrev Filter := List Directive

/-! ## Reading a directive -/

/-- What part of a directive is being read; a number is the place where the part begins.  A name is
a target, or nothing but a threshold; `fields` and `brackets` are behind a closing brace and a
closing bracket. -/
inductive Place where
  | start
  | name (first : Nat)
  | span (first : Nat)
  | field (first : Nat)
  | fields
  | brackets
  | threshold (first : Nat)

/-- A directive while it is read: what has been read, and what is being read. -/
structure Draft where
  directive : Directive := {}
  place : Place := .start

namespace Draft

/-- Drop some bytes in front of a text; none if they end within a character. -/
def dropBytes : Nat → List Char → Option (List Char)
  | 0, cs => some cs
  | _, [] => none
  | n, c :: cs => if c.utf8Size ≤ n then dropBytes (n - c.utf8Size) cs else none

/-- Take some bytes in front of a text; none if they end within a character. -/
def takeBytes : Nat → List Char → Option (List Char)
  | 0, _ => some []
  | _, [] => none
  | n, c :: cs =>
    if c.utf8Size ≤ n then (takeBytes (n - c.utf8Size) cs).map (c :: ·) else none

/-- The part of a text between two places. -/
def cut? (text : List Char) (first last : Nat) : Option (List Char) :=
  dropBytes first text >>= takeBytes (last - first)

/-- Whether a directive may begin with a character. -/
def begins (c : Char) : Bool := isAlphanumeric c || c == '-' || c == ':' || c == '_'

/-- Read one character.  It stands at a place of the text without the blanks around it, and the
parts of the directive are cut out of the whole text at these places. -/
def step (text : List Char) (d : Draft) (i : Nat) (c : Char) : Option Draft :=
  match d.place with
  | .start =>
    if c == '[' then some { d with place := .span (i + 1) }
    else if begins c then some { d with place := .name i }
    else none
  | .name first =>
    if c == '=' ∨ c == '[' then do
      let target := String.ofList (← cut? text first i)
      return {
        directive := { d.directive with target := some target }
        place := if c == '=' then .threshold (i + 1) else .span (i + 1) }
    else some d
  | .span first =>
    if c == ']' then do
      let span := String.ofList (← cut? text first i)
      return { directive := { d.directive with span := some span }, place := .brackets }
    else if c == '{' then do
      let span := String.ofList (← cut? text first i)
      return {
        directive := { d.directive with span := if span.isEmpty then none else some span }
        place := .field (i + 1) }
    else some d
  | .field first =>
    if c == '}' then do
      let test ← FieldTest.parse? (← cut? text first i)
      return { directive := { d.directive with field := some test }, place := .fields }
    else some d
  | .fields => if c == ']' then some { d with place := .brackets } else none
  | .brackets => if c == '=' then some { d with place := .threshold (i + 1) } else none
  | .threshold _ => some d

/-- Read characters from a place on. -/
def steps (text : List Char) (d : Draft) (i : Nat) : List Char → Option Draft
  | [] => some d
  | c :: cs => do steps text (← d.step text i c) (i + c.utf8Size) cs

/-- The directive at the end of the text.  A part of the program without a threshold has all its
records written. -/
def finish? (text : List Char) (d : Draft) : Option Directive :=
  match d.place with
  | .name first => do
    let last ← dropBytes first text
    match Threshold.ofText? last with
    | some threshold => return { d.directive with threshold }
    | none => return { d.directive with target := some (String.ofList last) }
  | .threshold first => do
    let last ← dropBytes first text
    if last.isEmpty then return d.directive
    return { d.directive with threshold := ← Threshold.ofText? last }
  | .brackets => some d.directive
  | .start | .span _ | .field _ | .fields => none

end Draft

/-- Read a directive. -/
def Directive.parse? (text : List Char) : Option Directive := do
  let trimmed := ((text.dropWhile isBlank).reverse.dropWhile isBlank).reverse
  let d ← Draft.steps text {} 0 trimmed
  d.finish? text

namespace Filter

/-- Read a filter: directives with commas between them.  Without any, only errors are written. -/
def parse? (text : String) : Option Filter := do
  let directives ← ((text.splitOn ",").filter (· ≠ "")).mapM fun d => Directive.parse? d.toList
  return if directives.isEmpty then [{ threshold := .error }] else directives

/-- A filter that treats all records alike. -/
def all (threshold : Threshold) : Filter := [{ threshold }]

/-- The directive that counts for a record. -/
def deciding? (f : Filter) (r : Record) : Option Directive :=
  (f.filter (·.concerns r)).foldl
    (fun best d => if best.all d.outranks then some d else best)
    none

/-- Whether a record is written. -/
def enables (f : Filter) (r : Record) : Bool :=
  (f.deciding? r).any (·.threshold.admits r.level)

end Filter

end Vigil.Command
