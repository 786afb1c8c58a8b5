import Vigil.Binary64
import Vigil.Call

/-!
# Journal records

* `ProcessId`: the watchdog's own process, or a process by number;
* `Level`, `FieldValue`, `Record`: a structured record;
* `Journal`: worlds that keep records.
-/

namespace Vigil

/-- A process, by its number, or the one in which the watchdog runs. -/
inductive ProcessId where
  | self
  | number (pid : Int)
  deriving DecidableEq, Repr, Inhabited

/-- The number of a process, for messages. -/
def ProcessId.text : ProcessId → String
  | self => "self"
  | number pid => toString pid

/-- How grave a record is. -/
inductive Level where
  | debug
  | info
  | warn
  deriving DecidableEq, Repr

/-- The value of a field of a record. -/
inductive FieldValue where
  | text (s : String)
  | integer (i : Int)
  | number (x : Binary64)
  | process (p : ProcessId)

/-- A structured record: how grave it is, which part of the program wrote it, what it says, and
further fields, by name. -/
structure Record where
  level : Level
  target : String
  message : String
  fields : List (String × FieldValue)

/-- Worlds that keep records. -/
class Journal (σ : Type) where
  log : Record → σ → σ

end Vigil
