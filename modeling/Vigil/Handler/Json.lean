import Vigil.Handler.Kind
import Vigil.Json.Printer
import Vigil.Settings.Misfit

/-!
# Handler kinds in JSON

* `HandlerKind.Refusal`, `HandlerKind.Refusal.text`: why a JSON value names no remediation;
* `HandlerKind.ofJson`: the remediation that a JSON value names.
-/

namespace Vigil

namespace HandlerKind

/-- What a JSON value is, in words. -/
def describe : Json → String
  | .null => "null"
  | .float x => "floating point `" ++ Json.numberLayout.render x ++ "`"
  | .int i => (Settings.Found.integer i).text
  | .bool b => (Settings.Found.boolean b).text
  | .string s => (Settings.Found.string s).text
  | .array _ => Settings.Found.sequence.text
  | .object _ => Settings.Found.map.text

/-- Why a JSON value names no remediation.  It should be text or an object with one key, which is a
name that is known and behind which stands null. -/
inductive Refusal where
  | notStringOrMap (found : Json)
  | notSingleKey
  | unknownVariant (name : String)
  | notUnit (found : Json)

/-- Why a JSON value names no remediation, in words. -/
def Refusal.text : Refusal → String
  | notStringOrMap v => "invalid type: " ++ describe v ++ ", expected string or map"
  | notSingleKey => "invalid value: map, expected map with a single key"
  | unknownVariant name => (Settings.Mismatch.unknownVariant name).text
  | notUnit v => "invalid type: " ++ describe v ++ ", expected unit"

/-- The remediation with a name. -/
def ofText (name : String) : Except Refusal HandlerKind :=
  match ofName? name with
  | some kind => .ok kind
  | none => .error (.unknownVariant name)

/-- The remediation that a JSON value names: its name, or an object with its name as the only key
and null behind it. -/
def ofJson : Json → Except Refusal HandlerKind
  | .string s => ofText s
  | .object [(name, v)] => do
    let kind ← ofText name
    match v with
    | .null => return kind
    | v => .error (.notUnit v)
  | .object _ => .error .notSingleKey
  | v => .error (.notStringOrMap v)

end HandlerKind

end Vigil
