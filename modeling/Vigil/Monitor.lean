import Vigil.Call
import Vigil.Json.Value
import Vigil.Settings.Basic
import Vigil.Strikes
import Vigil.Text.Quoted

/-!
# Monitors

A monitor looks at some resource and says whether its threshold is violated.

* `Payload`, `Verdict`: what a monitor answers; `Verdict.attach`: add to the payload;
* `Monitor`, `Registered`: a monitor, and a monitor with its strikes;
* `MonitorSet`, `MonitorSet.push`, `MonitorSet.pushConfigured`: monitors in the order in which they
  were registered;
* `MonitorSet.call`, `MonitorSet.reset`: one monitor of a set by its index.
-/

namespace Vigil

/-- Data that a monitor adds to its answer. -/
abbrev Payload := SortedMap Json

/-- What a monitor answers: whether the threshold is violated, and data for the report. -/
structure Verdict where
  violated : Bool := false
  payload : Payload := SortedMap.empty
  deriving Inhabited, BEq

namespace Verdict

/-- The threshold is respected. -/
def ok : Verdict := {}

/-- The threshold is violated. -/
def violation : Verdict := { violated := true }

/-- Bind a key of the payload to a value. -/
def attach (v : Verdict) (key : String) (value : Json) : Verdict :=
  { v with payload := v.payload.insert key value }

/-- Adding to the payload leaves the judgement as it is. -/
@[simp]
theorem violated_attach (v : Verdict) (key : String) (value : Json) :
    (v.attach key value).violated = v.violated := rfl

end Verdict

/-- Something that watches a resource, under its name in reports, which never changes.  A check
measures the resource and compares it with the threshold. -/
structure Monitor (σ : Type) where
  name : String
  check : Call σ Verdict

/-- A monitor with its strikes. -/
structure Registered (σ : Type) where
  monitor : Monitor σ
  strikes : Strikes

namespace Registered

variable {σ : Type}

/-- The name in reports. -/
def name (m : Registered σ) : String := m.monitor.name

/-- Count a verdict. -/
def record (m : Registered σ) (v : Verdict) : Registered σ :=
  { m with strikes := m.strikes.record v.violated }

/-- Forget all strikes. -/
def reset (m : Registered σ) : Registered σ := { m with strikes := m.strikes.reset }

/-- Name, limit and count on one line. -/
def describe (m : Registered σ) : String :=
  "MonitorState \x7b name: " ++ Text.quoted m.name ++ ", max_strikes: " ++
    toString m.strikes.limit.toNat ++ ", strikes: " ++ toString m.strikes.count.toNat ++ " \x7d"

/-- Name, limit and count on lines of their own, as an item of a list. -/
def describeLines (m : Registered σ) : String :=
  "        MonitorState \x7b\n            name: " ++ Text.quoted m.name ++
    ",\n            max_strikes: " ++ toString m.strikes.limit.toNat ++
    ",\n            strikes: " ++ toString m.strikes.count.toNat ++ ",\n        \x7d,\n"

end Registered

/-- Monitors in the order in which they were registered. -/
abbrev MonitorSet (σ : Type) := List (Registered σ)

namespace MonitorSet

variable {σ : Type}

/-- Register a monitor with a limit and no strikes. -/
def push (ms : MonitorSet σ) (m : Monitor σ) (limit : UInt32) : MonitorSet σ :=
  ms ++ [⟨m, { limit }⟩]

/-- The limit of a monitor: what the settings say, or else its own default; none if the settings
disable it. -/
def configuredLimit (s : Settings) (name : String) (default : UInt32) : Option UInt32 :=
  match s.monitor? name with
  | none => some default
  | some m => if m.enabled then some (m.maxStrikes.getD default) else none

/-- Register a monitor unless the settings disable it, with the limit they set if they set one;
also, whether it was registered. -/
def pushConfigured (ms : MonitorSet σ) (s : Settings) (m : Monitor σ) (default : UInt32) :
    Bool × MonitorSet σ :=
  match configuredLimit s m.name default with
  | some limit => (true, ms.push m limit)
  | none => (false, ms)

/-- Call the monitor with an index and count its verdict; nothing if there is no such monitor. -/
def call (ms : MonitorSet σ) (i : Nat) (w : σ) : Option (Reply σ (Verdict × MonitorSet σ)) := do
  let m ← ms[i]?
  let r := m.monitor.check w
  return ⟨r.value.map fun v => (v, List.set ms i (m.record v)), r.stop, r.world⟩

/-- Forget the strikes of the monitor with an index. -/
def reset (ms : MonitorSet σ) (i : Nat) : MonitorSet σ := List.modify ms i Registered.reset

theorem getElem?_reset_self (ms : MonitorSet σ) (i : Nat) :
    (ms.reset i)[i]? = ms[i]?.map Registered.reset :=
  List.getElem?_modify_eq Registered.reset i ms

/-- The other monitors keep their strikes. -/
theorem getElem?_reset_of_ne (ms : MonitorSet σ) {i j : Nat} (h : i ≠ j) :
    (ms.reset i)[j]? = ms[j]? :=
  List.getElem?_modify_ne Registered.reset ms h

/-- All monitors on one line. -/
def describe (ms : MonitorSet σ) : String :=
  "MonitorSet \x7b monitors: [" ++ ", ".intercalate (ms.map Registered.describe) ++ "] \x7d"

/-- All monitors over several lines. -/
def describeLines (ms : MonitorSet σ) : String :=
  "MonitorSet \x7b\n    monitors: [" ++
    (if ms.isEmpty then "" else "\n" ++ String.join (ms.map Registered.describeLines) ++ "    ") ++
    "],\n\x7d"

end MonitorSet

end Vigil
