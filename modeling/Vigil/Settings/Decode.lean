import Vigil.Settings.Basic
import Vigil.Settings.Misfit
import Vigil.Toml.Document

/-!
# Settings from documents

Each decoder takes a part of a document and the place to blame for it.  Names that mean nothing
here are passed over, and the first part that does not fit is reported.

* `members?`: the fields of a record, from a table or from an array in the order of the fields;
* `decodeHandler`, `decodeWatchdog`, `decodeMonitor`, `decodeMonitors`;
* `decode`: the settings of a whole document;
* `ParseFault`, `parse`: the settings of a text.
-/

namespace Vigil.Settings

open Vigil.Toml

/-- What a part of a document is, in general. -/
def found : Node → Found
  | .leaf _ (.string s) => .string s
  | .leaf _ (.integer i) => .integer i
  | .leaf _ (.float x) => .float x
  | .leaf _ (.boolean b) => .boolean b
  | .leaf _ (.datetime _) => .map
  | .array _ _ => .sequence
  | .table _ _ _ => .map
  | .tables _ _ => .sequence

/-- A part of a document with the place to blame for it: its own place, or its key's if it is only
implied. -/
structure Part where
  node : Node
  place : Span

/-- A part and the place to blame for it. -/
def Part.of (node : Node) (key : Span) : Part := ⟨node, node.span?.getD key⟩

/-- Blame a part. -/
def Part.blame {α : Type} (p : Part) (mismatch : Mismatch) : Except Misfit α :=
  .error ⟨mismatch, p.place⟩

/-- Blame a part for being of the wrong kind. -/
def Part.unwanted {α : Type} (p : Part) (wanted : Wanted) : Except Misfit α :=
  p.blame (.kind (found p.node) wanted)

/-- A truth value. -/
def decodeBool (p : Part) : Except Misfit Bool :=
  match p.node with
  | .leaf _ (.boolean b) => .ok b
  | _ => p.unwanted .boolean

/-- An integer from zero up to, but not including, a bound. -/
def decodeNat (wanted : Wanted) (bound : Nat) (p : Part) : Except Misfit Nat :=
  match p.node with
  | .leaf _ (.integer i) =>
    if 0 ≤ i ∧ i < bound then .ok i.toNat else p.blame (.range i wanted)
  | _ => p.unwanted wanted

/-- A number of seconds. -/
def decodeSeconds (p : Part) : Except Misfit UInt64 :=
  return UInt64.ofNat (← decodeNat .word64 UInt64.size p)

/-- A number of strikes. -/
def decodeStrikes (p : Part) : Except Misfit UInt32 :=
  return UInt32.ofNat (← decodeNat .word32 UInt32.size p)

/-- How a value without parts is called where a table is wanted. -/
def scalarKind : Scalar → String
  | .string _ => "string"
  | .integer _ => "integer"
  | .float _ => "float"
  | .boolean _ => "boolean"
  | .datetime _ => "datetime"

/-- What stands behind the name of a remediation must be empty.  An implied table has no place of
its own; the table around it is blamed instead. -/
def decodeNothing (around : Span) (node : Node) : Except Misfit Unit :=
  let p := Part.of node around
  match node with
  | .leaf _ v => p.blame (.notTable (scalarKind v))
  | .array _ items => if items.isEmpty then .ok () else p.blame .notEmpty
  | .table _ _ entries => if entries.isEmpty then .ok () else p.blame .notEmpty
  | .tables _ items => if items.isEmpty then .ok () else p.blame .notEmptyArray

/-- The remediation with a name. -/
def decodeVariant (name : String) (place : Span) : Except Misfit HandlerKind :=
  match HandlerKind.ofName? name with
  | some kind => .ok kind
  | none => .error ⟨.unknownVariant name, place⟩

/-- A remediation: its name, or a table whose only key is its name. -/
def decodeHandler (p : Part) : Except Misfit HandlerKind :=
  match p.node with
  | .leaf _ (.string s) => decodeVariant s p.place
  | .table _ _ [] => p.blame .noElement
  | .table _ _ [(key, node)] => do
    let kind ← decodeVariant key.text key.span
    decodeNothing p.place node
    return kind
  | .table _ _ _ => p.blame .manyElements
  | _ => p.blame .notStringOrTable

/-- The fields that a part gives to a record: the entries of a table, or the items of an array in
the order of the record's fields, as far as there are fields.  A date has no field that any record
knows. -/
def members? (fields : List String) : Node → Option (List (String × Part))
  | .table _ _ entries => some (entries.map fun e => (e.1.text, Part.of e.2 e.1.span))
  | .array span items => some (fields.zip (items.map fun n => Part.of n span))
  | .tables span items => some (fields.zip (items.map fun n => Part.of n span))
  | .leaf _ (.datetime _) => some []
  | .leaf _ _ => none

/-- Set one field of the loop's settings. -/
def putLoopField (w : WatchdogSettings) (field : String × Part) :
    Except Misfit WatchdogSettings :=
  match field.1 with
  | "sleep_time_seconds" => return { w with sleepTimeSeconds := ← decodeSeconds field.2 }
  | "handler" => return { w with handler := ← decodeHandler field.2 }
  | "enabled" => return { w with enabled := ← decodeBool field.2 }
  | "enforce" => return { w with enforce := ← decodeBool field.2 }
  | _ => return w

/-- The settings of the loop. -/
def decodeWatchdog (p : Part) : Except Misfit WatchdogSettings :=
  match members? ["sleep_time_seconds", "handler", "enabled", "enforce"] p.node with
  | some fields => fields.foldlM putLoopField {}
  | none => p.unwanted .watchdog

/-- Set one field of a monitor's settings. -/
def putMonitorField (m : MonitorSettings) (field : String × Part) :
    Except Misfit MonitorSettings :=
  match field.1 with
  | "enabled" => return { m with enabled := ← decodeBool field.2 }
  | "max_strikes" => return { m with maxStrikes := some (← decodeStrikes field.2) }
  | _ => return m

/-- The settings of a monitor. -/
def decodeMonitor (p : Part) : Except Misfit MonitorSettings :=
  match members? ["enabled", "max_strikes"] p.node with
  | some fields => fields.foldlM putMonitorField {}
  | none => p.unwanted .monitor

/-- Add the settings of one more monitor. -/
def putMonitor (ms : SortedMap MonitorSettings) (entry : Key × Node) :
    Except Misfit (SortedMap MonitorSettings) :=
  return ms.insert entry.1.text (← decodeMonitor (Part.of entry.2 entry.1.span))

/-- The settings of all monitors: a table of them.  A date where the table should be is blamed for
its text, which is no monitor's settings. -/
def decodeMonitors (p : Part) : Except Misfit (SortedMap MonitorSettings) :=
  match p.node with
  | .table _ _ entries => entries.foldlM putMonitor SortedMap.empty
  | .leaf _ (.datetime d) => p.blame (.kind (.string d.text) .monitor)
  | _ => p.unwanted .map

/-- Set one section of the settings. -/
def put (s : Settings) (entry : Key × Node) : Except Misfit Settings :=
  let p := Part.of entry.2 entry.1.span
  match entry.1.text with
  | "watchdog" => return { s with watchdog := ← decodeWatchdog p }
  | "monitors" => return { s with monitors := ← decodeMonitors p }
  | _ => return s

/-- The settings of a document. -/
def decode (document : Table) : Except Misfit Settings := document.entries.foldlM put {}

/-- Why a text gives no settings: it is not a document, or it is one in which something does not
fit. -/
inductive ParseFault where
  | malformed
  | misfit (text : String) (misfit : Misfit)

/-- Why a text gives no settings, in words. -/
def ParseFault.message : ParseFault → String
  | malformed => "TOML parse error"
  | misfit text m => excerpt text m.span m.mismatch.text

/-- The settings of a text. -/
def parse (text : String) : Except ParseFault Settings :=
  match document? text with
  | none => .error .malformed
  | some document =>
    match decode document with
    | .error m => .error (.misfit text m)
    | .ok settings => .ok settings

end Vigil.Settings
