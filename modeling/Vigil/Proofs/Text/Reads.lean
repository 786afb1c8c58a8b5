import Mathlib.Data.Nat.Notation
import Vigil.Text.Scan

/-!
# What readers read

`p.Reads text a rest` says that from `text` the reader `p` reads `a` and leaves `rest`, and
`p.Refuses text` that it reads nothing there.  There are rules for each reader and for each way of
putting readers together.

* `Reads.pure`, `Reads.bind`, `Reads.map`, `Refuses.bind`: one reader after another;
* `Reads.char`, `Reads.chars`, `Reads.takeWhile`, `Reads.takeWhile₁`: characters;
* `Reads.optional`, `Refuses.optional`: what may be left out;
* `Repeats`, `Repeats.many`, `Reads.sepBy₁`: repetition, in which no bound on the number of rounds
  is left to be seen;
* `Reads.whole?`: running a reader.
-/

namespace Vigil.Text.Scan

variable {α β : Type}

/-- From a text, a reader reads a value and leaves the rest. -/
def Reads (p : Scan α) (text : List Char) (a : α) (rest : List Char) : Prop :=
  p text = some (a, rest)

/-- From a text, a reader reads nothing. -/
def Refuses (p : Scan α) (text : List Char) : Prop := p text = none

/-- Round after round a reader reads values, each of which takes something off the text, until it
reads no more. -/
inductive Repeats (p : Scan α) : List Char → List α → List Char → Prop
  | stop {text : List Char} (h : p.Refuses text) : Repeats p text [] text
  | next {text mid rest : List Char} {a : α} {as : List α} (ha : p.Reads text a mid)
      (hlt : mid.length < text.length) (has : Repeats p mid as rest) :
      Repeats p text (a :: as) rest

variable {p : Scan α} {f : α → Scan β} {text mid rest : List Char} {a : α} {b : β}

/-! ### One reader after another -/

theorem Reads.pure (a : α) (text : List Char) : (Pure.pure a : Scan α).Reads text a text := rfl

theorem Reads.bind (hp : p.Reads text a mid) (hf : (f a).Reads mid b rest) :
    (p >>= f).Reads text b rest := by
  change (p text).bind (fun r => f r.1 r.2) = some (b, rest)
  rw [hp]
  exact hf

theorem Reads.map (hp : p.Reads text a rest) (g : α → β) : (g <$> p).Reads text (g a) rest := by
  rw [map_eq_pure_bind]
  exact hp.bind (.pure _ _)

theorem Refuses.bind (hp : p.Refuses text) : (p >>= f).Refuses text := by
  change (p text).bind (fun r => f r.1 r.2) = none
  rw [hp]
  rfl

theorem Refuses.map (hp : p.Refuses text) (g : α → β) : (g <$> p).Refuses text := by
  rw [map_eq_pure_bind]
  exact hp.bind

/-- A reader that goes on with something that is refused. -/
theorem Reads.bind_refuses (hp : p.Reads text a mid) (hf : (f a).Refuses mid) :
    (p >>= f).Refuses text := by
  change (p text).bind (fun r => f r.1 r.2) = none
  rw [hp]
  exact hf

/-! ### Characters -/

theorem Reads.rest_self (text : List Char) : Scan.rest.Reads text text text := rfl

theorem Reads.set (text rest : List Char) : (set rest : Scan Unit).Reads text () rest := rfl

theorem Reads.peek? (text : List Char) : peek?.Reads text text.head? text := rfl

theorem Reads.next (c : Char) (text : List Char) : next.Reads (c :: text) c text := rfl

theorem Reads.satisfy {P : Char → Bool} {c : Char} (hc : P c = true) (text : List Char) :
    (satisfy P).Reads (c :: text) c text := by
  refine (Reads.next c text).bind ?_
  rw [if_pos hc]
  exact .pure _ _

theorem refuses_satisfy {P : Char → Bool} (h : ∀ c ∈ text.head?, P c = false) :
    (satisfy P).Refuses text := by
  cases text with
  | nil => rfl
  | cons c cs =>
    refine (Reads.next c cs).bind_refuses ?_
    rw [if_neg (by simp [h c rfl])]
    rfl

theorem Reads.char (c : Char) (text : List Char) : (char c).Reads (c :: text) () text :=
  (Reads.satisfy (P := (· == c)) (beq_self_eq_true c) text).bind (.pure _ _)

theorem refuses_char {c : Char} (h : text.head? ≠ some c) : (char c).Refuses text :=
  Refuses.bind (refuses_satisfy fun d hd => by
    rw [beq_eq_false_iff_ne]
    rintro rfl
    exact h hd)

theorem Reads.chars (cs rest : List Char) : (chars cs).Reads (cs ++ rest) () rest := by
  induction cs with
  | nil => exact .pure _ _
  | cons c cs ih => exact (Reads.char c _).bind ih

/-- As many characters as belong to a class are read, whatever there is. -/
theorem Reads.takeWhile_self (P : Char → Bool) (text : List Char) :
    (takeWhile P).Reads text (text.takeWhile P) (text.dropWhile P) := rfl

theorem Reads.takeWhile {P : Char → Bool} {cs : List Char} (hcs : ∀ c ∈ cs, P c = true)
    (hrest : ∀ c ∈ rest.head?, P c = false) : (takeWhile P).Reads (cs ++ rest) cs rest := by
  have htake : rest.takeWhile P = [] ∧ rest.dropWhile P = rest := by
    cases rest with
    | nil => exact ⟨rfl, rfl⟩
    | cons c rest => simp [hrest c rfl]
  have h := Reads.takeWhile_self P (cs ++ rest)
  rwa [List.takeWhile_append_of_pos hcs, List.dropWhile_append_of_pos hcs, htake.1, htake.2,
    List.append_nil] at h

theorem Reads.takeWhile₁ {P : Char → Bool} {cs : List Char} (hne : cs ≠ [])
    (hcs : ∀ c ∈ cs, P c = true) (hrest : ∀ c ∈ rest.head?, P c = false) :
    (takeWhile₁ P).Reads (cs ++ rest) cs rest := by
  obtain ⟨c, cs, rfl⟩ := List.exists_cons_of_ne_nil hne
  obtain ⟨hc, hcs⟩ := List.forall_mem_cons.1 hcs
  exact (Reads.satisfy hc _).bind ((Reads.takeWhile hcs hrest).bind (.pure _ _))

/-! ### What may be left out, and what may be repeated -/

theorem Reads.optional (hp : p.Reads text a rest) : (optional p).Reads text (some a) rest := by
  change ((some <$> p : Scan (Option α)) text <|> _) = some (some a, rest)
  rw [hp.map some]
  rfl

theorem Refuses.optional (hp : p.Refuses text) : (optional p).Reads text none text := by
  change ((some <$> p : Scan (Option α)) text <|> _) = some (none, text)
  rw [hp.map some]
  rfl

theorem Repeats.manyUpTo {as : List α} (h : p.Repeats text as rest) {fuel : ℕ}
    (hfuel : text.length ≤ fuel) : (manyUpTo p fuel).Reads text as rest := by
  -- each round makes the text shorter, so there are enough rounds for all of it
  induction h generalizing fuel with
  | @stop text h =>
    cases fuel with
    | zero => exact .pure _ _
    | succ fuel =>
      refine (Reads.rest_self text).bind ?_
      rw [show p.run text = none from h]
      exact .pure _ _
  | @next text mid rest a as ha hlt _ ih =>
    cases fuel with
    | zero => omega
    | succ fuel =>
      refine (Reads.rest_self text).bind ?_
      rw [show p.run text = some (a, mid) from ha]
      dsimp only
      rw [if_pos hlt]
      exact (Reads.set text mid).bind ((ih (by omega)).bind (.pure _ _))

theorem Repeats.many {as : List α} (h : p.Repeats text as rest) : (many p).Reads text as rest :=
  (Reads.rest_self text).bind (h.manyUpTo (Nat.le_refl text.length))

theorem Reads.sepBy₁ {sep : Scan β} {as : List α} (ha : p.Reads text a mid)
    (has : Repeats (do let _ ← sep; p) mid as rest) :
    (sepBy₁ p sep).Reads text (a :: as) rest :=
  ha.bind (has.many.bind (.pure _ _))

/-! ### Whole texts -/

theorem reads_atEnd : atEnd.Reads [] () [] := rfl

theorem Reads.whole? (hp : p.Reads text a []) : whole? p text = some a := by
  have h : (do let a ← p; atEnd; return a : Scan α).Reads text a [] :=
    hp.bind (reads_atEnd.bind (.pure _ _))
  exact congrArg (Option.map Prod.fst) h

end Vigil.Text.Scan
