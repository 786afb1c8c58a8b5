import Mathlib.Data.Option.Basic
import Mathlib.Order.Basic
import Vigil.Watchdog.Act

/-!
# Reasoning about acts

Two kinds of statements about acts, each with a rule for returning a value, for a call into the
surroundings and for one act after another:

* `Ensures`: how the events of an act and its value are related;
* `Asks`, `Keeps`: an act changes the request to stop only by asking for a stop, and a stop that was
  asked for stays asked for.

`Stretch.Alike` and `Call.Alike` are about two that differ at most in whether a stop is asked for.

`Closed` says of a kind of statements about one act that it has the first and the last of these
rules.
-/

namespace Vigil

variable {σ α β γ : Type}

/-- A stretch, and what follows it. -/
def Stretch.andThen (p : Stretch σ α) (f : α → Act σ β) : Stretch σ β :=
  let q := f p.value p.scene
  ⟨q.value, p.events ++ q.events, q.scene⟩

theorem Stretch.andThen_andThen (p : Stretch σ α) (f : α → Act σ β) (g : β → Act σ γ) :
    (p.andThen f).andThen g = p.andThen fun a => f a >>= g := by
  simp only [andThen, Act.bind_apply, List.append_assoc]

@[simp]
theorem Stretch.nil_andThen (a : α) (s : Scene σ) (f : α → Act σ β) :
    (Stretch.mk a [] s).andThen f = f a s := rfl

theorem Act.bind_eq_andThen (x : Act σ α) (f : α → Act σ β) (s : Scene σ) :
    (x >>= f) s = (x s).andThen f := rfl

theorem Act.stopRequested_apply (s : Scene σ) :
    Act.stopRequested s = ⟨s.signal.requested, [], s⟩ := rfl

/-- In the same world and with the same events, two stretches come to values that are related by
`R`. -/
structure Stretch.Alike (R : α → β → Prop) (p : Stretch σ α) (q : Stretch σ β) : Prop where
  value : R p.value q.value
  events : p.events = q.events
  world : p.scene.world = q.scene.world

/-- Two calls that differ at most in whether a stop is asked for. -/
def Call.Alike (c c' : Call σ α) : Prop :=
  ∀ w, (c w).value = (c' w).value ∧ (c w).world = (c' w).world

theorem Call.Alike.refl (c : Call σ α) : c.Alike c := fun _ => ⟨rfl, rfl⟩

namespace Act

/-- Returning a value is an act with the property `P`, and one act after another is if both are. -/
structure Closed (P : ∀ {α : Type}, Act σ α → Prop) : Prop where
  pure : ∀ {α : Type} (a : α), P (pure a : Act σ α)
  bind : ∀ {α β : Type} {x : Act σ α} {f : α → Act σ β}, P x → (∀ a, P (f a)) → P (x >>= f)

/-! ### Events and values -/

/-- The events and the value of an act are related by `P`, whatever the scene before it. -/
def Ensures (x : Act σ α) (P : List Event → α → Prop) : Prop :=
  ∀ s, P (x s).events (x s).value

theorem ensures_pure {P : List Event → α → Prop} {a : α} (h : P [] a) :
    (pure a : Act σ α).Ensures P := fun _ => h

theorem ensures_call (c : Call σ α) (event : Option α → Event) :
    (call c event).Ensures fun es r => es = [event r] := fun _ => rfl

theorem Ensures.bind {x : Act σ α} {f : α → Act σ β} {P : List Event → α → Prop}
    {Q : List Event → β → Prop} (hx : x.Ensures P)
    (hf : ∀ es a, P es a → (f a).Ensures fun es' b => Q (es ++ es') b) : (x >>= f).Ensures Q :=
  fun s => hf _ _ (hx s) _

/-! ### Asking for a stop -/

/-- What becomes of the request to stop is that a stop is asked for, or nothing. -/
def Asks (x : Act σ α) : Prop :=
  ∀ s, ∃ wanted, (x s).scene.signal = s.signal.requestIf wanted

theorem asks_pure (a : α) : (pure a : Act σ α).Asks := fun _ => ⟨false, rfl⟩

theorem asks_call (c : Call σ α) (event : Option α → Event) : (call c event).Asks :=
  fun _ => ⟨_, rfl⟩

theorem Asks.bind {x : Act σ α} {f : α → Act σ β} (hx : x.Asks) (hf : ∀ a, (f a).Asks) :
    (x >>= f).Asks := by
  intro s
  obtain ⟨first, hfirst⟩ := hx s
  obtain ⟨second, hsecond⟩ := hf (x s).value (x s).scene
  refine ⟨first || second, ?_⟩
  rw [bind_apply, hsecond, hfirst]
  cases first <;> cases second <;> rfl

theorem asks_closed : Closed (σ := σ) Asks := ⟨asks_pure, Asks.bind⟩

/-- A stop that was asked for stays asked for. -/
def Keeps (x : Act σ α) : Prop :=
  ∀ s, s.signal.requested = true → (x s).scene.signal.requested = true

theorem Asks.keeps {x : Act σ α} (hx : x.Asks) : x.Keeps := by
  intro s hs
  obtain ⟨wanted, hw⟩ := hx s
  rw [hw, StopSignal.requested_requestIf, hs, Bool.true_or]

theorem Keeps.requested_eq_false {x : Act σ α} (hx : x.Keeps) {s : Scene σ}
    (h : (x s).scene.signal.requested = false) : s.signal.requested = false := by
  by_contra hs
  simp [hx s (by simpa using hs)] at h

theorem Keeps.bind {x : Act σ α} {f : α → Act σ β} (hx : x.Keeps) (hf : ∀ a, (f a).Keeps) :
    (x >>= f).Keeps := fun s hs => hf _ _ (hx s hs)

theorem keeps_closed : Closed (σ := σ) Keeps := ⟨fun a => (asks_pure a).keeps, Keeps.bind⟩

end Act

end Vigil
