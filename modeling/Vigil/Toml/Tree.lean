import Vigil.Toml.Datetime

/-!
# Document trees

What a document says, with the place in the text where each part stands.

* `Span`, `Key`: places, and names with their places;
* `Scalar`, `Node`: values; `Origin`: by what a table came about;
* `Table`, `Table.find?`, `Table.append`, `Table.replace`, `Table.erase`: a table by itself;
* `Table.within`: act on the table that a path of keys leads to, making tables on the way;
* `Table.define`: add a value under a dotted key.
-/

namespace Vigil.Toml

/-- A stretch of the text, in bytes from its beginning; `stop` is the first byte behind it. -/
structure Span where
  start : Nat
  stop : Nat
  deriving DecidableEq, Repr

/-- One part of a dotted key, and where it stands in the text, with its quotes. -/
structure Key where
  text : String
  span : Span
  deriving DecidableEq, Repr

/-- A value without parts. -/
inductive Scalar where
  | string (s : String)
  | integer (i : Int)
  | float (x : Float)
  | boolean (b : Bool)
  | datetime (d : Datetime)

/-- By what a table came about: it has a header of its own, or is the whole document; a longer
header or a dotted key implies it; or it is written between braces. -/
inductive Origin where
  | header
  | implied
  | dotted
  | inline
  deriving DecidableEq, Repr

/-- A part of a document.  Entries of a table stand in the order in which they came about. -/
inductive Node where
  | leaf (span : Span) (value : Scalar)
  | array (span : Span) (items : List Node)
  | table (origin : Origin) (span : Option Span) (entries : List (Key × Node))
  | tables (span : Span) (items : List Node)

/-- Where a part stands in the text; an implied table stands nowhere. -/
def Node.span? : Node → Option Span
  | leaf span _ => some span
  | array span _ => some span
  | table _ span _ => span
  | tables span _ => some span

/-- A table on its own: by what it came about, where it stands, if it is not only implied, and its
entries. -/
structure Table where
  origin : Origin
  span : Option Span
  entries : List (Key × Node)

namespace Table

/-- A table without entries. -/
def empty (origin : Origin) (span : Option Span) : Table := ⟨origin, span, []⟩

/-- The table as a part of a document. -/
def node (t : Table) : Node := .table t.origin t.span t.entries

/-- The part with a given name. -/
def find? (t : Table) (name : String) : Option Node :=
  (t.entries.find? (fun e => e.1.text == name)).map (·.2)

/-- Add an entry at the end. -/
def append (t : Table) (key : Key) (node : Node) : Table :=
  { t with entries := t.entries ++ [(key, node)] }

/-- Put another part in the place of the one with a given name. -/
def replace (t : Table) (name : String) (node : Node) : Table :=
  { t with entries := t.entries.map fun e => if e.1.text == name then (e.1, node) else e }

/-- Remove the entry with a given name. -/
def erase (t : Table) (name : String) : Table :=
  { t with entries := t.entries.filter fun e => e.1.text != name }

/-- Act on the table that a path leads to.  Tables that are missing on the way are made, and of an
array of tables the last one is meant.  A path never leads into a value, and a path of a dotted key
not into a table that has a header. -/
def within {α : Type} (dotted : Bool) (act : StateT Table Option α) :
    List Key → StateT Table Option α
  | [] => act
  | key :: path => fun t =>
    match t.find? key.text with
    | none => do
      let made := empty (if dotted then .dotted else .implied) none
      let (a, child) ← within dotted act path made
      return (a, t.append key child.node)
    | some (.table origin span entries) =>
      if origin = .inline ∨ (dotted ∧ origin = .header) then none
      else do
        let (a, child) ← within dotted act path ⟨origin, span, entries⟩
        return (a, t.replace key.text child.node)
    | some (.tables span items) =>
      match items.getLast? with
      | some (.table origin inner entries) => do
        let (a, child) ← within dotted act path ⟨origin, inner, entries⟩
        return (a, t.replace key.text (.tables span (items.dropLast ++ [child.node])))
      | _ => none
    | some _ => none

/-- Add a value under the last part of a dotted key; the parts before it are `path`.  The name must
be free, and a dotted key adds only to tables that dotted keys made. -/
def define (path : List Key) (key : Key) (value : Node) (t : Table) : Option Table := do
  let add : StateT Table Option Unit := fun target =>
    if decide (target.origin = .dotted) = path.isEmpty then none
    else if (target.find? key.text).isSome then none
    else some ((), target.append key value)
  let (_, t) ← within true add path t
  return t

end Table

end Vigil.Toml
