import Vigil.Text.Scan

/-!
# What readers yield

`Scan.Yields Q p` says of a reader `p` that whatever it reads, from whatever text, has the property
`Q`.  There is one rule for each way of putting readers together.

* `Yields.pure`, `Yields.bind`, `Yields.map`, `Yields.orElse`, `Yields.lift`: single steps;
* `Yields.optional`, `Yields.many`, `Yields.sepBy₁`, `Yields.foldlM`: repetition;
* `Yields.of_whole?`: running a reader.
-/

namespace Vigil.Text.Scan

variable {α β : Type} {P : α → Prop} {Q : β → Prop}

/-- Whatever a reader reads has a property. -/
def Yields (P : α → Prop) (p : Scan α) : Prop := ∀ cs a rest, p cs = some (a, rest) → P a

namespace Yields

theorem any (p : Scan α) : Yields (fun _ => True) p := fun _ _ _ _ => trivial

theorem pure {a : α} (h : P a) : Yields P (Pure.pure a : Scan α) := by
  intro cs a' rest hr
  cases hr
  exact h

theorem failure : Yields P (failure : Scan α) := nofun

theorem bind {p : Scan α} {f : α → Scan β} (hp : Yields P p) (hf : ∀ a, P a → Yields Q (f a)) :
    Yields Q (p >>= f) := by
  intro cs b rest hr
  obtain ⟨⟨a, mid⟩, hpa, hfb⟩ := Option.bind_eq_some_iff.1 hr
  exact hf a (hp cs a mid hpa) mid b rest hfb

/-- Where it does not matter what was read before. -/
theorem bind' {p : Scan α} {f : α → Scan β} (hf : ∀ a, Yields Q (f a)) : Yields Q (p >>= f) :=
  (any p).bind fun a _ => hf a

theorem map {p : Scan α} {f : α → β} (hp : Yields P p) (hf : ∀ a, P a → Q (f a)) :
    Yields Q (f <$> p) := by
  rw [map_eq_pure_bind]
  exact hp.bind fun a ha => .pure (hf a ha)

theorem orElse {p q : Scan α} (hp : Yields P p) (hq : Yields P q) : Yields P (p <|> q) := by
  intro cs a rest hr
  change (p cs <|> q cs) = some (a, rest) at hr
  cases hpa : p cs with
  | none => exact hq cs a rest (by simpa [hpa] using hr)
  | some x => exact hp cs a rest (by simpa [hpa] using hr)

theorem ite {c : Prop} [Decidable c] {p q : Scan α} (hp : c → Yields P p) (hq : ¬ c → Yields P q) :
    Yields P (if c then p else q) := by
  split
  · exact hp ‹_›
  · exact hq ‹_›

/-- A value that was not read. -/
theorem lift {o : Option α} (h : ∀ a, o = some a → P a) : Yields P (StateT.lift o : Scan α) := by
  intro cs a rest hr
  obtain ⟨a', ha, hr⟩ := Option.bind_eq_some_iff.1 hr
  cases hr
  exact h a ha

theorem optional {p : Scan α} (hp : Yields P p) : Yields (fun o => ∀ a ∈ o, P a) (optional p) :=
  orElse (hp.map fun a ha b hb => by cases hb; exact ha) (.pure nofun)

theorem manyUpTo {p : Scan α} (hp : Yields P p) (fuel : Nat) :
    Yields (fun as => ∀ a ∈ as, P a) (manyUpTo p fuel) := by
  induction fuel with
  | zero => exact .pure nofun
  | succ fuel ih =>
    refine bind' fun before => ?_
    split
    · exact .pure nofun
    next a after ha =>
      refine ite (fun _ => bind' fun _ => ih.bind fun as has => .pure ?_) fun _ => .pure nofun
      exact List.forall_mem_cons.2 ⟨hp before a after ha, has⟩

theorem many {p : Scan α} (hp : Yields P p) : Yields (fun as => ∀ a ∈ as, P a) (many p) :=
  bind' fun _ => hp.manyUpTo _

theorem sepBy₁ {p : Scan α} {sep : Scan β} (hp : Yields P p) :
    Yields (fun as => ∀ a ∈ as, P a) (sepBy₁ p sep) :=
  hp.bind fun _ ha => (many (bind' fun _ => hp)).bind fun _ has =>
    .pure (List.forall_mem_cons.2 ⟨ha, has⟩)

/-- What holds at first and is kept by every step holds at the end. -/
theorem foldlM {f : β → α → Scan β} {as : List α} (hf : ∀ b, Q b → ∀ a ∈ as, Yields Q (f b a))
    {b : β} (hb : Q b) : Yields Q (as.foldlM f b) := by
  induction as generalizing b with
  | nil => exact .pure hb
  | cons a as ih =>
    exact (hf b hb a List.mem_cons_self).bind fun b' hb' =>
      ih (fun b hb a ha => hf b hb a (List.mem_cons_of_mem _ ha)) hb'

theorem of_whole? {p : Scan α} (hp : Yields P p) {text : List Char} {a : α}
    (h : whole? p text = some a) : P a := by
  have hyields : Yields P (do let a ← p; atEnd; return a) :=
    hp.bind fun a ha => bind' fun _ => .pure ha
  obtain ⟨⟨_, rest⟩, hr, rfl⟩ := Option.map_eq_some_iff.1 h
  exact hyields text _ rest hr

end Yields

end Vigil.Text.Scan
