/-!
# JSON values

* `Json`: null, booleans, integers, binary64 numbers, text, arrays and objects;
* `Json.InRange`: integers fit in 64 bits, signed or unsigned.
-/

namespace Vigil

/-- A JSON value.  An integer and a binary64 number are different values. -/
inductive Json where
  | null
  | bool (b : Bool)
  | int (i : Int)
  | float (x : Float)
  | string (s : String)
  | array (items : List Json)
  | object (fields : List (String × Json))
  deriving Inhabited, BEq

namespace Json

/-- The integers that a JSON value holds exactly: those of 64 bits, signed or unsigned. -/
def InRange (i : Int) : Prop := -0x8000000000000000 ≤ i ∧ i < 0x10000000000000000

instance (i : Int) : Decidable (InRange i) := inferInstanceAs (Decidable (_ ∧ _))

/-- The value of a field of an object. -/
def field? (name : String) : Json → Option Json
  | object fields => (fields.find? (fun f => f.1 == name)).map (·.2)
  | _ => none

end Json

end Vigil
