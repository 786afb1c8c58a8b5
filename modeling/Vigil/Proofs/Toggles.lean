import Mathlib.Logic.Relation
import Vigil.Toggles

/-!
# Families of handles

Handles are made and cloned, and switches set through them, in any order.  The handles that cloning
connects are a family.  They have their cells in common, and no cell with any other handle.

* `Operation`, `after`, `made`, `Possible`: what is done, what comes of it, how many handles it
  makes, and that it is done to handles that there are;
* `Makes`, `Kin`, `Shows`: what made a handle, its family, and what was last written to its
  switches;
* `kin_snoc_old`, `kin_snoc_clone`: families after one more operation;
* `Sound`, `sound`: handles have a cell in common just if they are a family and it is for the same
  switch;
* `Sound.get?_create_made`, `Sound.get?_clone`, `Sound.get?_set_of_kin`, `Sound.get?_set_of_not`,
  `Shows.snoc`: what one more operation does to the switches, and to what they should show;
* `Shows.unique`: there is one value that a switch should show;
* `shared_within_family`: what handles show.
-/

namespace Vigil

namespace ToggleStore

/-- Something to do with handles: make one with switches of its own, clone one, or turn a switch of
one on or off. -/
inductive Operation where
  | create (initial : StaticToggles)
  | clone (handle : Nat)
  | set (switch : Switch) (handle : Nat) (on : Bool)
  deriving DecidableEq

namespace Operation

/-- Whether it makes a handle. -/
def makes : Operation → Bool
  | create _ => true
  | clone _ => true
  | set .. => false

/-- The handle that it is done to. -/
def target? : Operation → Option Nat
  | create _ => none
  | clone handle => some handle
  | set _ handle _ => some handle

end Operation

/-- Do something. -/
def apply (s : ToggleStore) : Operation → ToggleStore
  | .create initial => s.create initial
  | .clone handle => s.clone handle
  | .set .watchdog handle on => s.setWatchdog handle on
  | .set .enforce handle on => s.setEnforce handle on

/-- The handles and cells after some operations. -/
def after (ops : List Operation) : ToggleStore := ops.foldl apply {}

/-- How many handles are made. -/
def made (ops : List Operation) : Nat := ops.countP Operation.makes

/-- Operations that are each done to a handle that is there already. -/
inductive Possible : List Operation → Prop
  | nil : Possible []
  | snoc {ops : List Operation} (h : Possible ops) (op : Operation)
      (hop : ∀ handle, op.target? = some handle → handle < made ops) : Possible (ops ++ [op])

/-- One of the operations makes a handle. -/
def Makes (ops : List Operation) (op : Operation) (handle : Nat) : Prop :=
  ∃ before behind, ops = before ++ op :: behind ∧ op.makes ∧ handle = made before

/-- Handles that cloning connects. -/
def Kin (ops : List Operation) : Nat → Nat → Prop :=
  Relation.EqvGen fun j k => Makes ops (.clone j) k

/-- What a switch of a handle should show: what was last written to it through the handle's family,
or else what the family was made with. -/
inductive Shows (ops : List Operation) (switch : Switch) (handle : Nat) : Bool → Prop
  | written {before behind : List Operation} {j : Nat} {on : Bool}
      (hops : ops = before ++ .set switch j on :: behind) (hkin : Kin ops j handle)
      (hlast : ∀ k on', .set switch k on' ∈ behind → ¬ Kin ops k handle) :
      Shows ops switch handle on
  | initial {t : StaticToggles} {k : Nat} (hmakes : Makes ops (.create t) k)
      (hkin : Kin ops k handle) (hnone : ∀ j on, .set switch j on ∈ ops → ¬ Kin ops j handle) :
      Shows ops switch handle (t.get switch)

variable {ops : List Operation} {op : Operation} {s : ToggleStore} {switch switch' : Switch}
  {j k x y : Nat} {on : Bool}

theorem apply_set (s : ToggleStore) (switch : Switch) (handle : Nat) (on : Bool) :
    s.apply (.set switch handle on) = s.set switch handle on := by
  cases switch <;> rfl

theorem after_snoc (ops : List Operation) (op : Operation) :
    after (ops ++ [op]) = (after ops).apply op := by
  simp [after]

theorem made_snoc (ops : List Operation) (op : Operation) :
    made (ops ++ [op]) = made ops + if op.makes then 1 else 0 := by
  simp [made, List.countP_singleton]

/-! ### What made a handle -/

theorem snoc_eq_split {α : Type} {l before behind : List α} {a b : α}
    (h : l ++ [a] = before ++ b :: behind) :
    before = l ∧ a = b ∧ behind = [] ∨ ∃ rest, behind = rest ++ [a] ∧ l = before ++ b :: rest := by
  rcases List.eq_nil_or_concat behind with rfl | ⟨rest, c, rfl⟩
  · obtain ⟨rfl, hb⟩ := List.append_inj' h rfl
    exact .inl ⟨rfl, List.head_eq_of_cons_eq hb, rfl⟩
  · rw [List.concat_eq_append, ← List.cons_append, ← List.append_assoc] at h
    obtain ⟨rfl, hc⟩ := List.append_inj' h rfl
    obtain rfl := List.head_eq_of_cons_eq hc
    exact .inr ⟨rest, List.concat_eq_append, rfl⟩

theorem makes_snoc {op' : Operation} : Makes (ops ++ [op']) op k ↔
    Makes ops op k ∨ op' = op ∧ op.makes ∧ k = made ops := by
  constructor
  · rintro ⟨before, behind, hops, hmakes, rfl⟩
    obtain ⟨rfl, rfl, rfl⟩ | ⟨rest, rfl, rfl⟩ := snoc_eq_split hops
    · exact .inr ⟨rfl, hmakes, rfl⟩
    · exact .inl ⟨before, rest, rfl, hmakes, rfl⟩
  · rintro (⟨before, behind, rfl, hmakes, rfl⟩ | ⟨rfl, hmakes, rfl⟩)
    · exact ⟨before, behind ++ [op'], by simp, hmakes, rfl⟩
    · exact ⟨ops, [], rfl, hmakes, rfl⟩

theorem Makes.lt (h : Makes ops op k) : k < made ops := by
  obtain ⟨before, behind, rfl, hmakes, rfl⟩ := h
  simp [made, hmakes]

namespace Possible

theorem target_lt (hops : Possible ops) (hop : op ∈ ops) (hj : op.target? = some j) :
    j < made ops := by
  induction hops with
  | nil => cases hop
  | @snoc ops _ last hlast ih =>
    rw [made_snoc]
    rcases List.mem_append.1 hop with hop | hop
    · exact Nat.lt_add_right _ (ih hop)
    · obtain rfl := List.mem_singleton.1 hop
      exact Nat.lt_add_right _ (hlast j hj)

end Possible

theorem Makes.source_lt (hops : Possible ops) (h : Makes ops (.clone j) k) : j < made ops := by
  obtain ⟨before, behind, rfl, -, -⟩ := h
  have hj : .clone j ∈ before ++ .clone j :: behind := by simp
  exact hops.target_lt hj rfl

/-! ### Families -/

namespace Kin

theorem refl (j : Nat) : Kin ops j j := Relation.EqvGen.refl j

theorem symm (h : Kin ops j k) : Kin ops k j := Relation.EqvGen.symm _ _ h

theorem trans (h : Kin ops j k) (h' : Kin ops k x) : Kin ops j x := Relation.EqvGen.trans _ _ _ h h'

theorem snoc (op : Operation) (h : Kin ops j k) : Kin (ops ++ [op]) j k :=
  Relation.EqvGen.mono (fun _ _ => makes_snoc.2 ∘ .inl) _ _ h

theorem eq_or_lt (hops : Possible ops) (h : Kin ops j k) : j = k ∨ j < made ops ∧ k < made ops := by
  induction h with
  | rel j k h => exact .inr ⟨h.source_lt hops, h.lt⟩
  | refl j => exact .inl rfl
  | symm j k _ ih => exact ih.imp Eq.symm And.symm
  | trans j k x _ _ ih ih' => omega

/-- A handle that is yet to be made has no family. -/
theorem eq_of_made (hops : Possible ops) (h : Kin ops j (made ops)) : j = made ops :=
  (h.eq_or_lt hops).resolve_right fun h => Nat.lt_irrefl _ h.2

end Kin

/-- Of which handle of before the last operation one is a copy if the last is a clone, or itself. -/
def copied (ops : List Operation) (source x : Nat) : Nat := if x = made ops then source else x

theorem copied_of_lt (h : x < made ops) (source : Nat) : copied ops source x = x :=
  if_neg (Nat.ne_of_lt h)

theorem copied_made (ops : List Operation) (source : Nat) : copied ops source (made ops) = source :=
  if_pos rfl

theorem kin_snoc_clone (hops : Possible ops) (hj : j < made ops) :
    Kin (ops ++ [.clone j]) x y ↔ Kin ops (copied ops j x) (copied ops j y) := by
  have hcopied (x : Nat) : Kin (ops ++ [.clone j]) (copied ops j x) x := by
    by_cases hx : x = made ops
    · rw [hx, copied_made]
      exact .rel _ _ (makes_snoc.2 (.inr ⟨rfl, rfl, rfl⟩))
    · rw [copied, if_neg hx]
      exact .refl x
  constructor
  · -- Both ends of the new link are copies of one handle, so it links nothing that was not linked.
    intro h
    induction h with
    | rel x y h =>
      rcases makes_snoc.1 h with h | ⟨hx, -, rfl⟩
      · rw [copied_of_lt (h.source_lt hops), copied_of_lt h.lt]
        exact .rel _ _ h
      · cases hx
        rw [copied_of_lt hj, copied_made]
        exact .refl j
    | refl x => exact .refl _
    | symm x y _ ih => exact ih.symm
    | trans x y z _ _ ih ih' => exact ih.trans ih'
  · exact fun h => ((hcopied x).symm.trans (h.snoc _)).trans (hcopied y)

theorem kin_snoc_of_ne (hop : ∀ j, op ≠ .clone j) : Kin (ops ++ [op]) x y ↔ Kin ops x y := by
  refine ⟨Relation.EqvGen.mono (fun j k h => ?_) x y, Kin.snoc op⟩
  exact (makes_snoc.1 h).resolve_right fun h => hop j h.1

@[simp]
theorem kin_snoc_create {t : StaticToggles} : Kin (ops ++ [.create t]) x y ↔ Kin ops x y :=
  kin_snoc_of_ne nofun

@[simp]
theorem kin_snoc_set : Kin (ops ++ [.set switch j on]) x y ↔ Kin ops x y :=
  kin_snoc_of_ne nofun

/-- No operation changes how the handles that are there are connected. -/
theorem kin_snoc_old (hops : Possible ops)
    (hop : ∀ handle, op.target? = some handle → handle < made ops) (hx : x < made ops)
    (hy : y < made ops) : Kin (ops ++ [op]) x y ↔ Kin ops x y := by
  cases op with
  | create t => exact kin_snoc_create
  | clone j => rw [kin_snoc_clone hops (hop j rfl), copied_of_lt hx, copied_of_lt hy]
  | set switch j on => exact kin_snoc_set

/-! ### Cells -/

/-- The handles and cells fit the operations: all handles have cells, and two handles have a cell in
common just if they are a family and it is for the same switch. -/
structure Sound (ops : List Operation) (s : ToggleStore) : Prop where
  length : s.handles.length = made ops
  cell_lt {j : Nat} {h : ToggleHandle} (hj : s.handles[j]? = some h) (switch : Switch) :
    h.cell switch < s.cells.length
  cell_eq_iff {j k : Nat} {h h' : ToggleHandle} (hj : s.handles[j]? = some h)
    (hk : s.handles[k]? = some h') (switch switch' : Switch) :
    h.cell switch = h'.cell switch' ↔ switch = switch' ∧ Kin ops j k

theorem getElem?_snoc_eq_some {α : Type} {l : List α} {a b : α} :
    (l ++ [a])[j]? = some b ↔ l[j]? = some b ∨ j = l.length ∧ a = b := by
  rcases Nat.lt_trichotomy j l.length with h | rfl | h
  · simp [List.getElem?_append_left h, Nat.ne_of_lt h]
  · simp
  · simp [List.getElem?_eq_none (l := l ++ [a]) (i := j) (by simp; omega),
      List.getElem?_eq_none (Nat.le_of_lt h), Nat.ne_of_gt h]

theorem get?_eq {handle : ToggleHandle} (hx : s.handles[x]? = some handle) (switch : Switch) :
    s.get? switch x = s.cells[handle.cell switch]? := by
  simp [get?, hx]

theorem set_eq {handle : ToggleHandle} (hj : s.handles[j]? = some handle) (switch : Switch)
    (on : Bool) : s.set switch j on = { s with cells := s.cells.set (handle.cell switch) on } := by
  rw [set, hj]

theorem handles_set (s : ToggleStore) (switch : Switch) (j : Nat) (on : Bool) :
    (s.set switch j on).handles = s.handles := by
  rw [ToggleStore.set]
  split <;> rfl

theorem length_cells_set (s : ToggleStore) (switch : Switch) (j : Nat) (on : Bool) :
    (s.set switch j on).cells.length = s.cells.length := by
  rw [ToggleStore.set]
  split <;> simp

namespace Sound

theorem exists_handle (h : Sound ops s) (hx : x < made ops) :
    ∃ handle, s.handles[x]? = some handle :=
  ⟨_, List.getElem?_eq_getElem (h.length ▸ hx)⟩

theorem lt_made (h : Sound ops s) {handle : ToggleHandle} (hx : s.handles[x]? = some handle) :
    x < made ops :=
  h.length ▸ (List.getElem?_eq_some_iff.1 hx).1

theorem create (hops : Possible ops) (h : Sound ops s) (t : StaticToggles) :
    Sound (ops ++ [.create t]) (s.create t) := by
  have hfresh {x : Nat} (hx : Kin ops x (made ops)) {handle : ToggleHandle}
      (hhandle : s.handles[x]? = some handle) : False :=
    Nat.lt_irrefl _ (hx.eq_of_made hops ▸ h.lt_made hhandle)
  have hcell (switch : Switch) : s.cells.length ≤
      (ToggleHandle.mk s.cells.length (s.cells.length + 1)).cell switch := by
    cases switch <;> simp [ToggleHandle.cell]
  refine ⟨by simp [ToggleStore.create, h.length, made_snoc, Operation.makes], ?_, ?_⟩
  · intro j handle hj switch
    rw [ToggleStore.create, List.length_append]
    rcases getElem?_snoc_eq_some.1 hj with hj | ⟨-, rfl⟩
    · exact Nat.lt_add_right _ (h.cell_lt hj switch)
    · cases switch <;> simp [ToggleHandle.cell]
  · intro j k handle handle' hj hk switch switch'
    rw [kin_snoc_create]
    rcases getElem?_snoc_eq_some.1 hj with hj | ⟨rfl, rfl⟩ <;>
      rcases getElem?_snoc_eq_some.1 hk with hk | ⟨rfl, rfl⟩
    · exact h.cell_eq_iff hj hk switch switch'
    · refine iff_of_false ?_ fun hkin => hfresh (h.length ▸ hkin.2) hj
      exact Nat.ne_of_lt (Nat.lt_of_lt_of_le (h.cell_lt hj switch) (hcell switch'))
    · refine iff_of_false ?_ fun hkin => hfresh (h.length ▸ hkin.2.symm) hk
      exact Nat.ne_of_gt (Nat.lt_of_lt_of_le (h.cell_lt hk switch') (hcell switch))
    · simp only [Kin.refl, and_true]
      cases switch <;> cases switch' <;> simp [ToggleHandle.cell]

/-- A clone adds no cells, and gives each handle the cells of the one that it is a copy of. -/
theorem clone_spec (h : Sound ops s) (hj : j < made ops) :
    (s.clone j).cells = s.cells ∧ (s.clone j).handles.length = made ops + 1 ∧
    ∀ {x : Nat} {handle : ToggleHandle}, (s.clone j).handles[x]? = some handle →
      s.handles[copied ops j x]? = some handle := by
  obtain ⟨source, hsource⟩ := h.exists_handle hj
  rw [ToggleStore.clone, hsource]
  refine ⟨rfl, by simp [h.length], fun hx => ?_⟩
  rcases getElem?_snoc_eq_some.1 hx with hx | ⟨rfl, rfl⟩
  · rwa [copied_of_lt (h.lt_made hx)]
  · rwa [h.length, copied_made]

theorem clone (hops : Possible ops) (h : Sound ops s) (hj : j < made ops) :
    Sound (ops ++ [.clone j]) (s.clone j) := by
  obtain ⟨hcells, hlength, hcopied⟩ := h.clone_spec hj
  refine ⟨?_, fun hj => ?_, fun hj hk switch switch' => ?_⟩
  · rw [hlength, made_snoc, Operation.makes, if_pos rfl]
  · rw [hcells]
    exact h.cell_lt (hcopied hj)
  · rw [kin_snoc_clone hops ‹_›]
    exact h.cell_eq_iff (hcopied hj) (hcopied hk) switch switch'

theorem set (h : Sound ops s) (switch : Switch) (j : Nat) (on : Bool) :
    Sound (ops ++ [.set switch j on]) (s.set switch j on) := by
  refine ⟨?_, fun hj => ?_, fun hj hk switch switch' => ?_⟩
  · simp [handles_set, h.length, made_snoc, Operation.makes]
  · rw [length_cells_set]
    exact h.cell_lt (handles_set s .. ▸ hj)
  · rw [kin_snoc_set]
    exact h.cell_eq_iff (handles_set s .. ▸ hj) (handles_set s .. ▸ hk) switch switch'

end Sound

theorem sound (hops : Possible ops) : Sound ops (after ops) := by
  induction hops with
  | nil => exact ⟨rfl, nofun, nofun⟩
  | snoc hops op hop ih =>
    rw [after_snoc]
    cases op with
    | create t => exact ih.create hops t
    | clone j => exact ih.clone hops (hop j rfl)
    | set switch j on =>
      rw [apply_set]
      exact ih.set switch j on

/-! ### Switches -/

namespace Sound

theorem get?_create_of_lt (h : Sound ops s) (t : StaticToggles) (hx : x < made ops) :
    (s.create t).get? switch x = s.get? switch x := by
  obtain ⟨handle, hhandle⟩ := h.exists_handle hx
  have hnew : (s.create t).handles[x]? = some handle := getElem?_snoc_eq_some.2 (.inl hhandle)
  rw [get?_eq hhandle, get?_eq hnew]
  exact List.getElem?_append_left (h.cell_lt hhandle switch)

theorem get?_create_made (h : Sound ops s) (t : StaticToggles) (switch : Switch) :
    (s.create t).get? switch (made ops) = some (t.get switch) := by
  have hnew : (s.create t).handles[made ops]? = some ⟨s.cells.length, s.cells.length + 1⟩ :=
    getElem?_snoc_eq_some.2 (.inr ⟨h.length.symm, rfl⟩)
  rw [get?_eq hnew]
  cases switch <;> simp [ToggleStore.create, ToggleHandle.cell, StaticToggles.get]

theorem get?_clone (h : Sound ops s) (hj : j < made ops) (hx : x < made ops + 1)
    (switch : Switch) : (s.clone j).get? switch x = s.get? switch (copied ops j x) := by
  obtain ⟨hcells, hlength, hcopied⟩ := h.clone_spec hj
  have hnew := List.getElem?_eq_getElem (hlength.symm ▸ hx)
  rw [get?_eq hnew, get?_eq (hcopied hnew), hcells]

/-- Writing is seen by the whole family. -/
theorem get?_set_of_kin (h : Sound ops s) (hx : x < made ops) (hkin : Kin ops j x)
    (switch : Switch) (on : Bool) (hj : j < made ops) :
    (s.set switch j on).get? switch x = some on := by
  obtain ⟨handle, hhandle⟩ := h.exists_handle hx
  obtain ⟨handle', hhandle'⟩ := h.exists_handle hj
  rw [get?_eq (handles_set s switch j on ▸ hhandle), set_eq hhandle',
    (h.cell_eq_iff hhandle' hhandle switch switch).2 ⟨rfl, hkin⟩]
  exact List.getElem?_set_self (h.cell_lt hhandle switch)

/-- Writing is seen neither in the other switch of the family nor by another family. -/
theorem get?_set_of_not (h : Sound ops s) (hkin : ¬ (switch = switch' ∧ Kin ops j x)) (on : Bool) :
    (s.set switch j on).get? switch' x = s.get? switch' x := by
  cases hj : s.handles[j]? with
  | none => rw [ToggleStore.set, hj]
  | some handle =>
    cases hx : s.handles[x]? with
    | none => simp [get?, hx, handles_set]
    | some handle' =>
      rw [get?_eq (handles_set s switch j on ▸ hx), get?_eq hx, set_eq hj]
      exact List.getElem?_set_ne fun heq => hkin ((h.cell_eq_iff hj hx switch switch').1 heq)

end Sound

/-- What a handle shows, a handle shows after one more operation, if they have the same family and
the operation does not write to the switch through it. -/
theorem Shows.snoc {b : Bool} (hops : Possible ops) (h : Shows ops switch x b)
    (hkin : ∀ k < made ops, Kin (ops ++ [op]) k y ↔ Kin ops k x)
    (hop : ∀ k on, op = .set switch k on → ¬ Kin (ops ++ [op]) k y) :
    Shows (ops ++ [op]) switch y b := by
  have hlt {k : Nat} {on : Bool} (hk : .set switch k on ∈ ops) : k < made ops :=
    hops.target_lt hk rfl
  cases h with
  | @written before behind j _ hsplit hjx hlast =>
    have hj : .set switch j b ∈ ops := by simp [hsplit]
    have hsplit' : ops ++ [op] = before ++ .set switch j b :: (behind ++ [op]) := by simp [hsplit]
    refine .written hsplit' ((hkin j (hlt hj)).2 hjx) fun k on hk => ?_
    rcases List.mem_append.1 hk with hk | hk
    · have hmem : .set switch k on ∈ ops := by simp [hsplit, hk]
      rw [hkin k (hlt hmem)]
      exact hlast k on hk
    · exact hop k on (List.mem_singleton.1 hk).symm
  | @initial t k hmakes hkx hnone =>
    refine .initial (makes_snoc.2 (.inl hmakes)) ((hkin k hmakes.lt).2 hkx) fun j on hj => ?_
    rcases List.mem_append.1 hj with hj | hj
    · rw [hkin j (hlt hj)]
      exact hnone j on hj
    · exact hop j on (List.mem_singleton.1 hj).symm

/-- By induction on the operations, the last one first: families change when a handle is cloned, so
that what a new clone shows is what its source shows before. -/
theorem get?_after (hops : Possible ops) (hx : x < made ops) (switch : Switch) :
    ∃ b, (after ops).get? switch x = some b ∧ Shows ops switch x b := by
  induction hops generalizing x with
  | nil => cases hx
  | @snoc ops hops op hop ih =>
    have hsound := sound hops
    rw [made_snoc] at hx
    rw [after_snoc]
    cases op with
    | create t =>
      rcases Nat.lt_succ_iff_lt_or_eq.1 hx with hx | rfl
      · obtain ⟨b, hb, hshows⟩ := ih hx
        exact ⟨b, (hsound.get?_create_of_lt t hx).trans hb,
          hshows.snoc hops (fun k _ => kin_snoc_create) nofun⟩
      · refine ⟨_, hsound.get?_create_made t switch,
          .initial (makes_snoc.2 (.inr ⟨rfl, rfl, rfl⟩)) (.refl _) fun j on hj hkin => ?_⟩
        have hj : .set switch j on ∈ ops := by simpa using hj
        have hlt := hops.target_lt hj rfl
        exact Nat.ne_of_lt hlt ((kin_snoc_create.1 hkin).eq_of_made hops)
    | clone j =>
      have hj := hop j rfl
      have hcopied : copied ops j x < made ops := by
        rw [copied]
        split
        · exact hj
        · exact Nat.lt_of_le_of_ne (Nat.le_of_lt_succ hx) ‹_›
      obtain ⟨b, hb, hshows⟩ := ih hcopied
      refine ⟨b, (hsound.get?_clone hj hx switch).trans hb,
        hshows.snoc hops (fun k hk => ?_) nofun⟩
      rw [kin_snoc_clone hops hj, copied_of_lt hk]
    | set switch' j on =>
      have hx : x < made ops := hx
      rw [apply_set]
      by_cases hkin : switch' = switch ∧ Kin ops j x
      · obtain ⟨rfl, hkin⟩ := hkin
        exact ⟨on, hsound.get?_set_of_kin hx hkin switch' on (hop j rfl),
          .written rfl (kin_snoc_set.2 hkin) nofun⟩
      · obtain ⟨b, hb, hshows⟩ := ih hx
        refine ⟨b, (hsound.get?_set_of_not hkin on).trans hb,
          hshows.snoc hops (fun k _ => kin_snoc_set) fun k on' heq hk => ?_⟩
        cases heq
        exact hkin ⟨rfl, kin_snoc_set.1 hk⟩

/-! ### What handles show -/

/-- A family is made once. -/
theorem Makes.initial_eq {t t' : StaticToggles} (hops : Possible ops) (hj : Makes ops (.create t) j)
    (hk : Makes ops (.create t') k) (hkin : Kin ops j k) : t = t' := by
  induction hops with
  | nil => exact absurd hj.lt (Nat.not_lt_zero j)
  | @snoc ops hops op hop ih =>
    have hnew {t : StaticToggles} {i : Nat} (h : op = .create t) (hi : i < made ops) :
        ¬ Kin (ops ++ [op]) i (made ops) := by
      rw [h, kin_snoc_create]
      exact fun hkin => Nat.ne_of_lt hi (hkin.eq_of_made hops)
    rcases makes_snoc.1 hj with hj | ⟨hopj, -, rfl⟩ <;>
      rcases makes_snoc.1 hk with hk | ⟨hopk, -, rfl⟩
    · exact ih hj hk ((kin_snoc_old hops hop hj.lt hk.lt).1 hkin)
    · exact (hnew hopk hj.lt hkin).elim
    · exact (hnew hopj hk.lt hkin.symm).elim
    · cases hopj.symm.trans hopk
      rfl

theorem eq_or_mem_of_split {α : Type} {before behind before' behind' : List α} {a b : α}
    (h : before ++ a :: behind = before' ++ b :: behind') :
    a = b ∨ b ∈ behind ∨ a ∈ behind' := by
  rcases List.append_eq_append_iff.1 h with ⟨l, -, h⟩ | ⟨l, -, h⟩ <;> cases l <;>
    simp only [List.nil_append, List.cons_append, List.cons.injEq] at h <;> simp [h]

/-- There is one value that a switch should show. -/
theorem Shows.unique {b b' : Bool} (hops : Possible ops) (h : Shows ops switch x b)
    (h' : Shows ops switch x b') : b = b' := by
  cases h with
  | @written before behind j _ hsplit hkin hlast =>
    cases h' with
    | @written before' behind' j' _ hsplit' hkin' hlast' =>
      rcases eq_or_mem_of_split (hsplit.symm.trans hsplit') with heq | hmem | hmem
      · cases heq
        rfl
      · exact (hlast j' b' hmem hkin').elim
      · exact (hlast' j b hmem hkin).elim
    | initial _ _ hnone => exact (hnone j b (by simp [hsplit]) hkin).elim
  | initial hmakes hkin hnone =>
    cases h' with
    | @written _ _ j' _ hsplit' hkin' _ => exact (hnone j' b' (by simp [hsplit']) hkin').elim
    | initial hmakes' hkin' _ =>
      rw [hmakes.initial_eq hops hmakes' (hkin.trans hkin'.symm)]

theorem read_after (hops : Possible ops) (hx : x < made ops) :
    ∃ t, (after ops).read x = some t ∧
      ∀ switch, (after ops).get? switch x = some (t.get switch) := by
  obtain ⟨watchdog, hwatchdog, -⟩ := get?_after hops hx .watchdog
  obtain ⟨enforce, henforce, -⟩ := get?_after hops hx .enforce
  refine ⟨⟨watchdog, enforce⟩, by simp [read, hwatchdog, henforce], fun switch => ?_⟩
  cases switch with
  | watchdog => exact hwatchdog
  | enforce => exact henforce

/-- **Handles share their switches within their family, and with no other.**  After any operations
every handle shows, for both switches, what was last written to the switch through a handle of its
family, or else what the family was made with.  One more write changes neither the other switch of
the family nor a switch of another family. -/
theorem shared_within_family (hops : Possible ops) (hx : x < made ops) :
    ∃ t, (after ops).read x = some t ∧ (∀ switch b, Shows ops switch x b ↔ t.get switch = b) ∧
    ∀ switch j on, j < made ops → ∃ t', (after (ops ++ [.set switch j on])).read x = some t' ∧
      ∀ switch', ¬ (switch = switch' ∧ Kin ops j x) → t'.get switch' = t.get switch' := by
  obtain ⟨t, hread, hget⟩ := read_after hops hx
  refine ⟨t, hread, fun switch b => ?_, fun switch j on hj => ?_⟩
  · obtain ⟨shown, hshown, hshows⟩ := get?_after hops hx switch
    obtain rfl := Option.some.inj ((hget switch).symm.trans hshown)
    exact ⟨hshows.unique hops, fun h => h ▸ hshows⟩
  · have hops' : Possible (ops ++ [.set switch j on]) := hops.snoc _ fun _ h => by cases h; exact hj
    obtain ⟨t', hread', hget'⟩ := read_after hops' (x := x) (by rw [made_snoc]; exact hx)
    refine ⟨t', hread', fun switch' hkin => Option.some.inj ?_⟩
    rw [← hget', ← hget, after_snoc, apply_set]
    exact (sound hops).get?_set_of_not hkin on

/-- A clone of a clone shows what was written through the first handle, and what was written before
it was made. -/
theorem clone_of_clone_shows :
    let ops : List Operation := [.create ⟨true, false⟩, .clone 0, .set .enforce 1 true, .clone 1,
      .create ⟨true, false⟩, .set .watchdog 0 false, .set .enforce 3 false]
    Possible ops ∧
    (∀ switch b, Shows ops switch 2 b ↔ (StaticToggles.mk false true).get switch = b) ∧
    (after ops).read 3 = some ⟨true, false⟩ := by
  intro ops
  have hops : Possible ops := by
    refine ((((((Possible.nil.snoc (.create ⟨true, false⟩) nofun).snoc (.clone 0) ?_).snoc
      (.set .enforce 1 true) ?_).snoc (.clone 1) ?_).snoc (.create ⟨true, false⟩) nofun).snoc
      (.set .watchdog 0 false) ?_).snoc (.set .enforce 3 false) ?_ <;> decide
  obtain ⟨t, hread, hshows, -⟩ := shared_within_family hops (x := 2) (by decide)
  obtain rfl : StaticToggles.mk false true = t := Option.some.inj hread
  exact ⟨hops, hshows, rfl⟩

end ToggleStore

end Vigil
