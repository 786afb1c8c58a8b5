/-!
# Choosing a remediation by name

* `HandlerKind`: the remediations that settings can name;
* `HandlerKind.name`, `HandlerKind.ofName?`: their names.
-/

namespace Vigil

/-- A remediation that settings can name: detect and report only, ask the watched process to
terminate, or ask the worker manager to retire it. -/
inductive HandlerKind where
  | null
  | termProcess
  | managedProcess
  deriving DecidableEq, Repr, Inhabited

namespace HandlerKind

/-- The name in settings. -/
def name : HandlerKind → String
  | null => "null"
  | termProcess => "term_process"
  | managedProcess => "managed_process"

/-- The kind with a name. -/
def ofName? : String → Option HandlerKind
  | "null" => some null
  | "term_process" => some termProcess
  | "managed_process" => some managedProcess
  | _ => none

/-- Every kind is found by its name. -/
@[simp]
theorem ofName?_name (k : HandlerKind) : ofName? k.name = some k := by
  cases k <;> rfl

end HandlerKind

end Vigil
