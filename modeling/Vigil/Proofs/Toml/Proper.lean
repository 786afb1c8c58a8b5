import Mathlib.Data.List.Nodup
import Vigil.Proofs.Text.Scan
import Vigil.Toml.Document

/-!
# Proper documents

In the document of a text no table has two entries with one name, and every integer fits in 64 bits.

* `Node.Proper`, `Table.Proper`: what that means for parts of a document;
* `Table.Proper.append`, `Table.Proper.replace`, `Table.Proper.erase`: operations on one table;
* `Table.Reaches`, `Table.within_inv`: acting on the table that a path leads to;
* `value_yields`, `statements_proper`: what is read is proper;
* `Draft.Proper`, `Draft.Proper.say`: what holds after every statement;
* `proper_of_document?`: every document is proper.
-/

namespace Vigil.Toml

open Vigil.Text

/-- No table has two entries with one name, and every integer fits in 64 bits. -/
inductive Node.Proper : Node → Prop
  | leaf {span : Span} {v : Scalar} (hfits : ∀ i, v = .integer i → fits i) : Proper (.leaf span v)
  | array {span : Span} {items : List Node} (hitems : ∀ n ∈ items, Proper n) :
      Proper (.array span items)
  | table {origin : Origin} {span : Option Span} {entries : List (Key × Node)}
      (hnames : (entries.map (·.1.text)).Nodup) (hentries : ∀ e ∈ entries, Proper e.2) :
      Proper (.table origin span entries)
  | tables {span : Span} {items : List Node} (hitems : ∀ n ∈ items, Proper n) :
      Proper (.tables span items)

namespace Table

/-- A table whose entries have different names and proper values. -/
structure Proper (t : Table) : Prop where
  names : (t.entries.map (·.1.text)).Nodup
  nodes : ∀ e ∈ t.entries, e.2.Proper

theorem proper_node {t : Table} : t.node.Proper ↔ t.Proper := by
  constructor
  · rintro (_ | _ | ⟨hnames, hentries⟩ | _)
    exact ⟨hnames, hentries⟩
  · exact fun ⟨hnames, hentries⟩ => .table hnames hentries

theorem proper_empty (origin : Origin) (span : Option Span) : (empty origin span).Proper :=
  ⟨List.nodup_nil, nofun⟩

theorem mem_of_find? {t : Table} {name : String} {node : Node} (h : t.find? name = some node) :
    ∃ key : Key, key.text = name ∧ (key, node) ∈ t.entries := by
  obtain ⟨⟨key, _⟩, he, rfl⟩ := Option.map_eq_some_iff.1 h
  exact ⟨key, by simpa using List.find?_some he, List.mem_of_find?_eq_some he⟩

theorem find?_eq_none {t : Table} {name : String} :
    t.find? name = none ↔ name ∉ t.entries.map (·.1.text) := by
  simp [find?]

theorem find?_append_self {t : Table} {key : Key} {node : Node} (h : t.find? key.text = none) :
    (t.append key node).find? key.text = some node := by
  unfold find? at h ⊢
  rw [Option.map_eq_none_iff] at h
  simp [append, List.find?_append, h]

theorem find?_replace_self {t : Table} {name : String} {node : Node} (h : t.find? name ≠ none) :
    (t.replace name node).find? name = some node := by
  obtain ⟨origin, span, entries⟩ := t
  induction entries with
  | nil => exact absurd rfl h
  | cons e entries ih =>
    by_cases he : e.1.text = name
    · simp [find?, replace, he]
    · simpa [find?, replace, he] using ih (by simpa [find?, he] using h)

theorem find?_erase_self (t : Table) (name : String) : (t.erase name).find? name = none := by
  simp [find?, erase]

namespace Proper

variable {t : Table} {key : Key} {name : String} {node : Node}

theorem find? (ht : t.Proper) (h : t.find? name = some node) : node.Proper := by
  obtain ⟨key, -, hmem⟩ := mem_of_find? h
  exact ht.nodes _ hmem

theorem append (ht : t.Proper) (hfree : t.find? key.text = none) (hnode : node.Proper) :
    (t.append key node).Proper where
  names := by
    rw [Table.append, List.map_append]
    exact ht.names.append (List.nodup_singleton _) (by simpa using find?_eq_none.1 hfree)
  nodes e he := by
    rcases List.mem_append.1 he with he | he
    · exact ht.nodes e he
    · rwa [List.mem_singleton.1 he]

theorem replace (ht : t.Proper) (hnode : node.Proper) : (t.replace name node).Proper where
  names := by
    have hsame : ((t.replace name node).entries.map (·.1.text)) = t.entries.map (·.1.text) := by
      rw [Table.replace, List.map_map]
      exact List.map_congr_left fun e _ => by dsimp only [Function.comp]; split <;> rfl
    rw [hsame]
    exact ht.names
  nodes e he := by
    obtain ⟨e', he', rfl⟩ := List.mem_map.1 he
    split
    · exact hnode
    · exact ht.nodes e' he'

theorem erase (ht : t.Proper) : (t.erase name).Proper where
  names := ht.names.sublist (List.filter_sublist.map _)
  nodes e he := ht.nodes e (List.mem_filter.1 he).1

end Proper

/-! ### Acting on the table that a path leads to -/

/-- One key leads from a table to the next one, `u`, and `put` puts what becomes of that one back
into its place.  A missing table is made, and of an array of tables the last one is meant. -/
inductive Descends (dotted : Bool) (key : Key) (t : Table) : (u : Table) → (put : Table → Table) →
    Prop
  | made (hfind : t.find? key.text = none) :
      Descends dotted key t (empty (if dotted then .dotted else .implied) none)
        fun child => t.append key child.node
  | table {origin : Origin} {span : Option Span} {entries : List (Key × Node)}
      (hfind : t.find? key.text = some (.table origin span entries))
      (horigin : ¬ (origin = .inline ∨ (dotted ∧ origin = .header))) :
      Descends dotted key t ⟨origin, span, entries⟩ fun child => t.replace key.text child.node
  | last {span : Span} {items : List Node} {origin : Origin} {inner : Option Span}
      {entries : List (Key × Node)} (hfind : t.find? key.text = some (.tables span items))
      (hlast : items.getLast? = some (.table origin inner entries)) :
      Descends dotted key t ⟨origin, inner, entries⟩
        fun child => t.replace key.text (.tables span (items.dropLast ++ [child.node]))

theorem within_cons_eq_some {α : Type} {dotted : Bool} {act : StateT Table Option α} {key : Key}
    {path : List Key} {t t' : Table} {a : α} :
    within dotted act (key :: path) t = some (a, t') ↔
      ∃ u put child, Descends dotted key t u put ∧ within dotted act path u = some (a, child) ∧
        t' = put child := by
  constructor
  · intro h
    simp only [within] at h
    split at h
    next hfind =>
      obtain ⟨⟨a', child⟩, hchild, heq⟩ := Option.bind_eq_some_iff.1 h
      cases heq
      exact ⟨_, _, child, .made hfind, hchild, rfl⟩
    next origin span entries hfind =>
      split at h
      · cases h
      next horigin =>
        obtain ⟨⟨a', child⟩, hchild, heq⟩ := Option.bind_eq_some_iff.1 h
        cases heq
        exact ⟨_, _, child, .table hfind horigin, hchild, rfl⟩
    next span items hfind =>
      split at h
      next origin inner entries hlast =>
        obtain ⟨⟨a', child⟩, hchild, heq⟩ := Option.bind_eq_some_iff.1 h
        cases heq
        exact ⟨_, _, child, .last hfind hlast, hchild, rfl⟩
      · cases h
    next => cases h
  · rintro ⟨u, put, child, hdescends, hchild, rfl⟩
    cases hdescends with
    | made hfind => simp [within, hfind, hchild]
    | table hfind horigin => simp [within, hfind, horigin, hchild]
    | last hfind hlast => simp [within, hfind, hlast, hchild]

namespace Descends

variable {dotted : Bool} {key : Key} {t u child : Table} {put : Table → Table}

/-- The key leads to what was put into its place. -/
theorem again (h : Descends dotted key t u put) (horigin : child.origin = u.origin) :
    ∃ put', Descends dotted key (put child) child put' := by
  cases h with
  | made hfind =>
    refine ⟨_, .table (find?_append_self hfind) ?_⟩
    rw [horigin]
    cases dotted <;> simp [empty]
  | table hfind hinside =>
    refine ⟨_, .table (find?_replace_self (by simp [hfind])) ?_⟩
    rwa [horigin]
  | last hfind hlast =>
    exact ⟨_, .last (find?_replace_self (by simp [hfind])) List.getLast?_concat⟩

theorem origin (h : Descends dotted key t u put) : (put child).origin = t.origin := by
  cases h <;> rfl

theorem proper (h : Descends dotted key t u put) (ht : t.Proper) :
    u.Proper ∧ ∀ child : Table, child.Proper → (put child).Proper := by
  cases h with
  | made hfind => exact ⟨proper_empty _ _, fun _ hc => ht.append hfind (proper_node.2 hc)⟩
  | table hfind _ =>
    exact ⟨proper_node.1 (ht.find? hfind), fun _ hc => ht.replace (proper_node.2 hc)⟩
  | @last span items origin inner entries hfind hlast =>
    obtain ⟨hitems⟩ | _ | _ | ⟨hitems⟩ := ht.find? hfind
    refine ⟨proper_node.1 (hitems _ (List.mem_of_getLast? hlast)), fun child hc =>
      ht.replace (.tables fun n hn => ?_)⟩
    rcases List.mem_append.1 hn with hn | hn
    · exact hitems n (List.dropLast_subset _ hn)
    · rw [List.mem_singleton.1 hn]
      exact proper_node.2 hc

end Descends

/-- A path leads from one table to another. -/
def Reaches (dotted : Bool) (path : List Key) (t s : Table) : Prop :=
  ∃ t', within dotted get path t = some (s, t')

theorem Reaches.unique {dotted : Bool} {path : List Key} {t s s' : Table}
    (h : Reaches dotted path t s) (h' : Reaches dotted path t s') : s = s' := by
  obtain ⟨_, h⟩ := h
  obtain ⟨_, h'⟩ := h'
  exact congrArg Prod.fst (Option.some.inj (h.symm.trans h'))

theorem Reaches.cons {dotted : Bool} {key : Key} {path : List Key} {t u s : Table}
    {put : Table → Table} (h : Descends dotted key t u put) (hs : Reaches dotted path u s) :
    Reaches dotted (key :: path) t s := by
  obtain ⟨u', hu⟩ := hs
  exact ⟨put u', within_cons_eq_some.2 ⟨u, put, u', h, hu, rfl⟩⟩

/-- What acting within a table comes to: the table that the path leads to is acted on, the path
leads to the outcome of that afterwards, and what is proper stays so. -/
theorem within_inv {α : Type} {dotted : Bool} {act : StateT Table Option α}
    (hact : ∀ s a s', act s = some (a, s') → s'.origin = s.origin) {path : List Key} {t t' : Table}
    {a : α} (h : within dotted act path t = some (a, t')) :
    ∃ s s', Reaches dotted path t s ∧ act s = some (a, s') ∧ Reaches dotted path t' s' ∧
      t'.origin = t.origin ∧ (t.Proper → s.Proper ∧ (s'.Proper → t'.Proper)) := by
  induction path generalizing t t' with
  | nil => exact ⟨t, t', ⟨t, rfl⟩, h, ⟨t', rfl⟩, hact _ _ _ h, fun ht => ⟨ht, id⟩⟩
  | cons key path ih =>
    obtain ⟨u, put, child, hdescends, hchild, rfl⟩ := within_cons_eq_some.1 h
    obtain ⟨s, s', hs, hacts, hs', horigin, hproper⟩ := ih hchild
    obtain ⟨put', hagain⟩ := hdescends.again horigin
    refine ⟨s, s', .cons hdescends hs, hacts, .cons hagain hs', hdescends.origin, fun ht => ?_⟩
    obtain ⟨hu, hput⟩ := hdescends.proper ht
    exact ⟨(hproper hu).1, fun hs' => hput child ((hproper hu).2 hs')⟩

/-- Acting on a proper table, properly, leaves the whole proper. -/
theorem Proper.within {α : Type} {dotted : Bool} {act : StateT Table Option α} {path : List Key}
    {t t' : Table} {a : α} (ht : t.Proper)
    (hact : ∀ s a s', act s = some (a, s') →
      s'.origin = s.origin ∧ (Reaches dotted path t s → s.Proper → s'.Proper))
    (h : within dotted act path t = some (a, t')) : t'.Proper := by
  obtain ⟨s, s', hs, hacts, -, -, hproper⟩ := within_inv (fun s a s' h => (hact s a s' h).1) h
  exact (hproper ht).2 ((hact s a s' hacts).2 hs (hproper ht).1)

theorem Proper.define {path : List Key} {key : Key} {value : Node} {t t' : Table} (ht : t.Proper)
    (hvalue : value.Proper) (h : t.define path key value = some t') : t'.Proper := by
  obtain ⟨⟨_, _⟩, hwithin, heq⟩ := Option.bind_eq_some_iff.1 h
  cases heq
  refine ht.within (fun s _ s' hs => ?_) hwithin
  split at hs
  · cases hs
  split at hs
  · cases hs
  next hfree =>
    cases hs
    exact ⟨rfl, fun _ hs => hs.append (by simpa using hfree) hvalue⟩

end Table

/-! ### What is read -/

theorem integer_yields : integer.Yields fun i => fits i := by
  refine .bind' fun i => .ite (fun hfits => .pure hfits) fun _ => .failure

theorem scalar_yields : scalar.Yields fun v => ∀ i, v = .integer i → fits i := by
  refine .bind' fun c => ?_
  split
  · exact (Scan.Yields.any _).map nofun
  · exact (Scan.Yields.any _).map nofun
  · exact .bind' fun _ => .pure nofun
  · exact .bind' fun _ => .pure nofun
  · refine .orElse ((Scan.Yields.any _).map nofun) (.orElse ((Scan.Yields.any _).map nofun)
      (.orElse ((Scan.Yields.any _).map nofun) (integer_yields.map ?_)))
    rintro i hfits _ ⟨⟩
    exact hfits

theorem located_yields {α : Type} {P : α → Prop} {size : ℕ} {p : Scan α} (hp : p.Yields P) :
    (located size p).Yields fun x => P x.1 :=
  .bind' fun _ => hp.bind fun _ ha => .bind' fun _ => .pure ha

theorem arrayItems_yields {item : Scan Node} (hitem : item.Yields Node.Proper) :
    (arrayItems item).Yields fun items => ∀ n ∈ items, n.Proper := by
  have hentry : Scan.Yields Node.Proper (do filler; let node ← item; filler; return node) :=
    .bind' fun _ => hitem.bind fun _ hn => .bind' fun _ => .pure hn
  refine (Scan.Yields.optional (hentry.sepBy₁.bind fun _ h => .bind' fun _ => .pure h)).bind
    fun items hitems => .bind' fun _ => .bind' fun _ => .pure ?_
  cases items with
  | none => nofun
  | some items => exact hitems items rfl

theorem inlineTable_yields {size : ℕ} {item : Scan Node} (hitem : item.Yields Node.Proper) :
    (inlineTable size item).Yields Table.Proper := by
  have hpair : Scan.Yields (fun p : (List Key × Key) × Node => p.2.Proper) (do
      let key ← keyPath size
      Scan.char '='
      blanks
      let node ← item
      blanks
      return (key, node)) :=
    .bind' fun _ => .bind' fun _ => .bind' fun _ => hitem.bind fun _ hn => .bind' fun _ => .pure hn
  refine (Scan.Yields.optional hpair.sepBy₁).bind fun pairs hpairs => .bind' fun _ =>
    .bind' fun _ => .foldlM (fun t ht p hp => .lift fun t' h => ht.define ?_ h)
      (Table.proper_empty _ _)
  cases pairs with
  | none => cases hp
  | some pairs => exact hpairs pairs rfl p hp

theorem value_yields (size depth : ℕ) : (value size depth).Yields Node.Proper := by
  induction depth with
  | zero => exact (located_yields scalar_yields).bind fun _ hv => .pure (.leaf hv)
  | succ depth ih =>
    refine .bind' fun c => ?_
    split
    · exact (located_yields (.bind' fun _ => arrayItems_yields ih)).bind fun _ h => .pure (.array h)
    · exact (located_yields (.bind' fun _ => inlineTable_yields ih)).bind fun _ h =>
        .pure (Table.proper_node.2 ⟨h.names, h.nodes⟩)
    · exact (located_yields scalar_yields).bind fun _ hv => .pure (.leaf hv)

/-- A statement with a proper value. -/
def Statement.Proper : Statement → Prop
  | .pair _ _ node => node.Proper
  | .table _ _ _ | .element _ _ _ => True

theorem header_yields (size : ℕ) : (header size).Yields Statement.Proper := by
  refine .bind' fun double => ?_
  split
  · exact .bind' fun _ => .bind' fun _ => .pure trivial
  · exact .bind' fun _ => .bind' fun _ => .pure trivial

theorem pair_yields (size : ℕ) : (pair size).Yields Statement.Proper :=
  .bind' fun _ => .bind' fun _ => .bind' fun _ => (value_yields size _).bind fun _ hn =>
    .bind' fun _ => .pure hn

theorem line_yields (size : ℕ) : (line size).Yields fun found => ∀ s ∈ found, s.Proper := by
  have hsome {p : Scan Statement} (hp : p.Yields Statement.Proper) :
      Scan.Yields (fun found => ∀ s ∈ found, Statement.Proper s) (some <$> p) :=
    hp.map fun s hs _ h => by cases h; exact hs
  have hnone : Scan.Yields (fun found => ∀ s ∈ found, Statement.Proper s) (pure none) := .pure nofun
  have hend {found : Option Statement} (h : ∀ s ∈ found, s.Proper) :
      Scan.Yields (fun found => ∀ s ∈ found, Statement.Proper s) (do blanks; return found) :=
    .bind' fun _ => .pure h
  refine .bind' fun c => ?_
  dsimp only
  split
  · exact .bind' fun _ => .bind' fun _ => hnone.bind fun _ => hend
  · exact .bind' fun _ => hnone.bind fun _ => hend
  · exact .bind' fun _ => hnone.bind fun _ => hend
  · exact (hsome (header_yields size)).bind fun _ => hend
  · exact (hsome (pair_yields size)).bind fun _ => hend

theorem statements_proper {text : List Char} {statements : List Statement}
    (h : statements? text = some statements) : ∀ s ∈ statements, s.Proper := by
  refine Scan.Yields.of_whole? (P := fun ss => ∀ s ∈ ss, Statement.Proper s) (.bind' fun _ =>
    .bind' fun _ => (line_yields _).many.bind fun found hfound => .pure fun s hs => ?_) h
  obtain ⟨o, ho, rfl⟩ := List.mem_filterMap.1 hs
  exact hfound _ ho s rfl

/-! ### What statements describe -/

namespace Draft

/-- What holds after every statement.  The name of the table that is being filled is kept free. -/
structure Proper (d : Draft) : Prop where
  root : d.root.Proper
  current : d.current.Proper
  free : ∀ path key, d.destination = .entry path key → ∀ s, Table.Reaches false path d.root s →
    s.find? key.text = none

theorem proper_start : start.Proper where
  root := Table.proper_empty _ _
  current := Table.proper_empty _ _
  free := nofun

theorem pushElement_proper {key : Key} {node : Node} {t t' : Table} (hnode : node.Proper)
    (h : pushElement key node t = some t') :
    t'.origin = t.origin ∧ (t.Proper → t'.Proper) := by
  unfold pushElement at h
  split at h
  next hfind =>
    cases h
    exact ⟨rfl, fun ht => ht.append hfind (.tables (by simpa using hnode))⟩
  next span items hfind =>
    cases h
    refine ⟨rfl, fun ht => ht.replace (.tables fun n hn => ?_)⟩
    obtain _ | _ | _ | ⟨hitems⟩ := ht.find? hfind
    rcases List.mem_append.1 hn with hn | hn
    · exact hitems n hn
    · rwa [List.mem_singleton.1 hn]
  · cases h

theorem reopen_proper {key : Key} {t t' : Table} {entries : List (Key × Node)}
    (h : reopen key t = some (entries, t')) :
    t'.origin = t.origin ∧ t'.find? key.text = none ∧
      (t.Proper → t'.Proper ∧ ∀ span, Table.Proper ⟨.header, span, entries⟩) := by
  unfold reopen at h
  split at h
  next hfind =>
    cases h
    exact ⟨rfl, hfind, fun ht => ⟨ht, Table.proper_empty _⟩⟩
  next hfind =>
    cases h
    refine ⟨rfl, Table.find?_erase_self _ _, fun ht => ⟨ht.erase, fun _ => ?_⟩⟩
    obtain _ | _ | ⟨hnames, hentries⟩ | _ := ht.find? hfind
    exact ⟨hnames, hentries⟩
  · cases h

theorem reserveElement_proper {key : Key} {t t' : Table}
    (h : reserveElement key t = some ((), t')) :
    t'.origin = t.origin ∧ (t.Proper → t'.Proper) := by
  unfold reserveElement at h
  split at h
  next hfind =>
    cases h
    exact ⟨rfl, fun ht => ht.append hfind (.tables nofun)⟩
  · cases h
    exact ⟨rfl, id⟩
  · cases h

theorem grow_proper {t : Table} (ht : t.Proper) (node : Node) : (grow t node).Proper := by
  unfold grow
  split
  · exact ⟨ht.names, ht.nodes⟩
  · exact ht

namespace Proper

variable {d d' : Draft} {t : Table}

theorem close (hd : d.Proper) (h : d.close = some t) : t.Proper := by
  unfold Draft.close at h
  split at h
  · cases h
    exact hd.current
  next path key hdestination =>
    obtain ⟨⟨_, _⟩, hwithin, heq⟩ := Option.bind_eq_some_iff.1 h
    cases heq
    refine hd.root.within (fun s _ s' hs => ?_) hwithin
    cases hs
    exact ⟨rfl, fun hreaches hs => hs.append (hd.free path key hdestination s hreaches)
      (Table.proper_node.2 hd.current)⟩
  next path key hdestination =>
    obtain ⟨⟨_, _⟩, hwithin, heq⟩ := Option.bind_eq_some_iff.1 h
    cases heq
    refine hd.root.within (fun s _ s' hs => ?_) hwithin
    obtain ⟨s'', hpush, heq⟩ := Option.bind_eq_some_iff.1 hs
    cases heq
    obtain ⟨horigin, hproper⟩ := pushElement_proper (Table.proper_node.2 hd.current) hpush
    exact ⟨horigin, fun _ => hproper⟩

theorem say (hd : d.Proper) {s : Statement} (hs : s.Proper) (h : d.say s = some d') :
    d'.Proper := by
  cases s with
  | pair path key node =>
    obtain ⟨current, hdefine, heq⟩ := Option.bind_eq_some_iff.1 h
    cases heq
    exact ⟨hd.root, (grow_proper hd.current node).define hs hdefine, hd.free⟩
  | table path key span =>
    obtain ⟨root, hclose, h⟩ := Option.bind_eq_some_iff.1 h
    obtain ⟨⟨entries, root'⟩, hwithin, heq⟩ := Option.bind_eq_some_iff.1 h
    cases heq
    obtain ⟨s, s', hs, hreopen, hs', -, hproper⟩ :=
      Table.within_inv (fun s _ s' h => (reopen_proper h).1) hwithin
    obtain ⟨-, hfind, hentries⟩ := reopen_proper hreopen
    obtain ⟨hs, hroot⟩ := hproper (hd.close hclose)
    refine ⟨hroot (hentries hs).1, (hentries hs).2 _, ?_⟩
    rintro _ _ ⟨⟩ s'' hs''
    rwa [hs''.unique hs']
  | element path key span =>
    obtain ⟨root, hclose, h⟩ := Option.bind_eq_some_iff.1 h
    obtain ⟨⟨_, root'⟩, hwithin, heq⟩ := Option.bind_eq_some_iff.1 h
    cases heq
    refine ⟨(hd.close hclose).within (fun s _ s' hs => ?_) hwithin, Table.proper_empty _ _, nofun⟩
    exact ⟨(reserveElement_proper hs).1, fun _ => (reserveElement_proper hs).2⟩

/-- So it holds after all statements. -/
theorem foldlM (hd : d.Proper) {statements : List Statement}
    (hstatements : ∀ s ∈ statements, s.Proper) (h : statements.foldlM Draft.say d = some d') :
    d'.Proper := by
  induction statements generalizing d with
  | nil =>
    cases h
    exact hd
  | cons s statements ih =>
    rw [List.forall_mem_cons] at hstatements
    rw [List.foldlM_cons] at h
    obtain ⟨d₁, hsay, h⟩ := Option.bind_eq_some_iff.1 h
    exact ih (hd.say hstatements.1 hsay) hstatements.2 h

end Proper

end Draft

/-- **Every document is proper**: none of its tables has two entries with one name, and all its
integers fit in 64 bits. -/
theorem proper_of_document? {text : String} {document : Table}
    (h : document? text = some document) : document.Proper := by
  obtain ⟨statements, hstatements, h⟩ := Option.bind_eq_some_iff.1 h
  obtain ⟨d, hd, hclose⟩ := Option.bind_eq_some_iff.1 h
  exact (Draft.proper_start.foldlM (statements_proper hstatements) hd).close hclose

end Vigil.Toml
