import Vigil.Toml.Statement

/-!
# Documents

The tables that the statements of a document describe.

* `Draft`: a document in the making, with the table that is being filled;
* `Draft.close`: put that table into its place;
* `Draft.say`: one statement;
* `document?`: the whole table of a text.
-/

namespace Vigil.Toml

/-- Where the table that is being filled belongs: it is the whole document, an entry of a table, or
the next of an array of tables. -/
inductive Destination where
  | top
  | entry (path : List Key) (key : Key)
  | element (path : List Key) (key : Key)

/-- A document in the making: what is finished, the table that is being filled, and where that
belongs. -/
structure Draft where
  root : Table
  destination : Destination
  current : Table

namespace Draft

/-- The beginning of a document. -/
def start : Draft :=
  ⟨.empty .header none, .top, .empty .header (some ⟨0, 0⟩)⟩

/-- From the first to the last of some places. -/
def hull (nodes : List Node) : Span :=
  let spans := nodes.filterMap Node.span?
  ⟨(spans.head?.map (·.start)).getD 0, (spans.getLast?.map (·.stop)).getD 0⟩

/-- Add a table to the array of tables with a name, or begin the array. -/
def pushElement (key : Key) (node : Node) (t : Table) : Option Table :=
  match t.find? key.text with
  | none => some (t.append key (.tables (hull [node]) [node]))
  | some (.tables _ items) =>
    some (t.replace key.text (.tables (hull (items ++ [node])) (items ++ [node])))
  | some _ => none

/-- The document with the table that is being filled in its place. -/
def close (d : Draft) : Option Table :=
  match d.destination with
  | .top => some d.current
  | .entry path key => do
    let place : StateT Table Option Unit := modify (·.append key d.current.node)
    return (← Table.within false place path d.root).2
  | .element path key => do
    let place : StateT Table Option Unit := fun t => do
      return ((), ← pushElement key d.current.node t)
    return (← Table.within false place path d.root).2

/-- Take a table that was only implied out of its parent, to be filled under a header of its own.
A name that stands for anything else cannot get a header. -/
def reopen (key : Key) : StateT Table Option (List (Key × Node)) := fun t =>
  match t.find? key.text with
  | none => some ([], t)
  | some (.table .implied _ entries) => some (entries, t.erase key.text)
  | some _ => none

/-- Make sure that a name is free or stands for an array of tables. -/
def reserveElement (key : Key) : StateT Table Option Unit := fun t =>
  match t.find? key.text with
  | none => some ((), t.append key (.tables key.span []))
  | some (.tables _ _) => some ((), t)
  | some _ => none

/-- The place of a table grows to the end of a value that is added under it. -/
def grow (t : Table) (node : Node) : Table :=
  match t.span, node.span? with
  | some span, some inner => { t with span := some ⟨span.start, inner.stop⟩ }
  | _, _ => t

/-- What one statement adds. -/
def say (d : Draft) : Statement → Option Draft
  | .pair path key node => do
    let current ← (grow d.current node).define path key node
    return { d with current }
  | .table path key span => do
    let root ← d.close
    let (entries, root) ← Table.within false (reopen key) path root
    return ⟨root, .entry path key, ⟨.header, some span, entries⟩⟩
  | .element path key span => do
    let root ← d.close
    let (_, root) ← Table.within false (reserveElement key) path root
    return ⟨root, .element path key, .empty .header (some span)⟩

end Draft

/-- The table that statements describe, if no name is defined twice. -/
def ofStatements? (statements : List Statement) : Option Table := do
  (← statements.foldlM Draft.say Draft.start).close

/-- The table that a text describes, if the text is well formed and no name is defined twice. -/
def document? (text : String) : Option Table := do
  ofStatements? (← statements? text.toList)

end Vigil.Toml
