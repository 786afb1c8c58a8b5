import Vigil.Command.Arguments
import Vigil.Proofs.Settings.Decode

/-!
# Command lines with one more option

What a command line asks for is still asked for when an option without a value, which it does not
have, is written in front of it.

* `Reading.withFirst`, `Reading.Frames`: an argument given before all others, and readers that do
  not mind it;
* `Reading.Frames.bind`, `Reading.settle_frames`, `Reading.takeLong_frames`,
  `Reading.takeShort_frames`, `parseMain_withFirst`: reading does not;
* `asked`, `parse_eq_ok_iff`: what a command line asks for, by the arguments that were read;
* `parse_verbose`, `parse_logJson`: whole command lines.
-/

namespace Vigil.Command

open Settings (bind_eq_ok_iff)

namespace Reading

/-- With an argument that has no value given before all others. -/
def withFirst (r : Reading) (a : Argument) : Reading := { r with given := (a, "") :: r.given }

/-- A reader for which it makes no difference, unless it finds an argument, that the argument was
given before. -/
def Frames (a : Argument) (f : Reading → Except Halt Reading) : Prop :=
  ∀ r q : Reading, f r = .ok q → q.has a = false →
    r.has a = false ∧ f (r.withFirst a) = .ok (q.withFirst a)

variable {a b : Argument} {f g : Reading → Except Halt Reading} {r q : Reading}

theorem has_withFirst (r : Reading) (a b : Argument) :
    (r.withFirst a).has b = (a == b || r.has b) := rfl

theorem value?_withFirst (r : Reading) (h : a ≠ b) : (r.withFirst a).value? b = r.value? b := by
  rw [value?, withFirst, List.find?_cons_of_neg (by simpa using h), value?]

namespace Frames

theorem pure : Frames a .ok := by
  intro r q h hq
  cases h
  exact ⟨hq, rfl⟩

theorem error (e : Reading → Halt) : Frames a fun r => .error (e r) := by
  intro r q h
  cases h

theorem bind (hf : Frames a f) (hg : Frames a g) : Frames a fun r => f r >>= g := by
  intro r q h hq
  obtain ⟨m, hm, hgm⟩ := bind_eq_ok_iff.1 h
  obtain ⟨hm', hg'⟩ := hg m q hgm hq
  obtain ⟨hr, hf'⟩ := hf r m hm hm'
  exact ⟨hr, bind_eq_ok_iff.2 ⟨_, hf', hg'⟩⟩

end Frames

/-! ### Readers -/

theorem accept_eq_ok_iff {value : String} : r.accept b value = .ok q ↔
    r.has b = false ∧ suits b value = .ok () ∧ q = { r with given := r.given ++ [(b, value)] } := by
  cases hb : r.has b with
  | true =>
    refine iff_of_false (fun h => ?_) fun h => nomatch h.1
    rw [accept, show r.given.any (·.1 == b) = true from hb] at h
    cases h
  | false =>
    simp only [accept, show r.given.any (·.1 == b) = false from hb, Bool.false_eq_true, if_false,
      bind_eq_ok_iff, true_and]
    constructor
    · rintro ⟨⟨⟩, hsuits, ⟨⟩⟩
      exact ⟨hsuits, rfl⟩
    · rintro ⟨hsuits, rfl⟩
      exact ⟨(), hsuits, rfl⟩

theorem accept_frames (b : Argument) (value : String) : Frames a (·.accept b value) := by
  intro r q h hq
  obtain ⟨hb, hsuits, rfl⟩ := accept_eq_ok_iff.1 h
  obtain ⟨hr, hne⟩ : r.has a = false ∧ b ≠ a := by simpa [has, or_imp, forall_and] using hq
  refine ⟨hr, accept_eq_ok_iff.2 ⟨?_, hsuits, rfl⟩⟩
  rw [has_withFirst, hb, Bool.or_false]
  exact beq_false_of_ne hne.symm

theorem settle_frames : Frames a settle := by
  intro r q h hq
  cases hp : r.pending with
  | none =>
    rw [settle, hp] at h
    cases h
    exact ⟨hq, by rw [settle, show (r.withFirst a).pending = none from hp]⟩
  | some p =>
    obtain ⟨b, _ | value⟩ := p
    · rw [settle, hp] at h
      cases h
    · rw [settle, hp] at h
      obtain ⟨hr, haccept⟩ := accept_frames b value _ q h hq
      exact ⟨hr, by rw [settle, show (r.withFirst a).pending = _ from hp]; exact haccept⟩

theorem flag_frames (b : Argument) : Frames a (·.flag b) := by
  cases b with
  | help => exact settle_frames.bind (.error fun r => .help r.page)
  | version => exact settle_frames.bind (.error fun r => .version r.page)
  | _ => exact settle_frames.bind (accept_frames _ "")

theorem valued_frames (b : Argument) (attached : Option String) :
    Frames a (·.valued b attached) := by
  cases attached with
  | none => exact settle_frames.bind fun r q h hq => by cases h; exact ⟨hq, rfl⟩
  | some value => exact settle_frames.bind (accept_frames b value)

theorem takeLong_frames (body : List Char) : Frames a (·.takeLong body) := by
  intro r q h hq
  have hpage : (r.withFirst a).page = r.page := rfl
  simp only [takeLong, hpage] at h ⊢
  split at h
  · cases h
  · exact valued_frames .config _ r q h hq
  · cases h
  · exact flag_frames _ r q h hq

theorem takeShort_frames (cs : List Char) : Frames a (·.takeShort cs) := by
  induction cs with
  | nil => exact Frames.pure
  | cons c cs ih =>
    intro r q h hq
    have hpage : (r.withFirst a).page = r.page := rfl
    simp only [takeShort, hpage] at h ⊢
    split at h
    · cases h
    · split at h <;> exact valued_frames .config _ r q h hq
    · exact (flag_frames _).bind ih r q h hq

/-- Whether a word is an option does not depend on what was given. -/
theorem takeOption?_withFirst (r : Reading) (a : Argument) (word : String) :
    (r.takeOption? word = none ∧ (r.withFirst a).takeOption? word = none) ∨
    ∃ f, Frames a f ∧ r.takeOption? word = some (f r) ∧
      (r.withFirst a).takeOption? word = some (f (r.withFirst a)) := by
  simp only [takeOption?]
  split
  · next body _ =>
    split
    · exact .inl ⟨rfl, rfl⟩
    · exact .inr ⟨_, takeLong_frames body, rfl, rfl⟩
  · next c cs _ _ => exact .inr ⟨_, takeShort_frames (c :: cs), rfl, rfl⟩
  · exact .inl ⟨rfl, rfl⟩

end Reading

/-! ### Command lines -/

open Reading

variable {a : Argument}

theorem settled_withFirst {x : Except Halt Task} {r q : Reading} {task : Task}
    (h : (do let t ← x; return (← r.settle, t)) = .ok (q, task)) (hq : q.has a = false) :
    r.has a = false ∧
      (do let t ← x; return (← (r.withFirst a).settle, t)) = .ok (q.withFirst a, task) := by
  obtain ⟨t, ht, h⟩ := bind_eq_ok_iff.1 h
  obtain ⟨m, hm, h⟩ := bind_eq_ok_iff.1 h
  cases h
  obtain ⟨hr, hm'⟩ := settle_frames r q hm hq
  exact ⟨hr, bind_eq_ok_iff.2 ⟨task, ht, bind_eq_ok_iff.2 ⟨_, hm', rfl⟩⟩⟩

theorem parseMain_withFirst {words : List String} {trailing : Bool} {r q : Reading} {task : Task}
    (h : parseMain trailing r words = .ok (q, task)) (hq : q.has a = false) :
    r.has a = false ∧ parseMain trailing (r.withFirst a) words = .ok (q.withFirst a, task) := by
  induction words generalizing trailing r with
  | nil =>
    -- Only here it is asked whether anything was given, and both answers are errors.
    obtain ⟨m, -, h⟩ := bind_eq_ok_iff.1 h
    split at h <;> cases h
  | cons word words ih =>
    have hwaits : (r.withFirst a).waits = r.waits := rfl
    have hfeed : (r.withFirst a).feed word = (r.feed word).withFirst a := rfl
    simp only [parseMain, hwaits, hfeed] at h ⊢
    split at h
    · exact settled_withFirst h hq
    · exact settled_withFirst h hq
    · cases h
    · -- The word is no subcommand.
      split at h
      · rw [if_pos ‹_›]
        exact ih h
      · rw [if_neg ‹_›]
        cases trailing with
        | true =>
          simp only [Bool.not_true, Bool.false_and, Bool.true_and, Bool.false_eq_true,
            if_true, if_false] at h
          split at h <;> cases h
        | false =>
          simp only [Bool.not_false, Bool.true_and, Bool.false_and, Bool.false_eq_true,
            if_false] at h ⊢
          obtain ⟨hnone, hnone'⟩ | ⟨f, hframes, hsome, hsome'⟩ := takeOption?_withFirst r a word
          · rw [hnone] at h
            rw [hnone']
            dsimp only at h ⊢
            split at h
            · rw [if_pos ‹_›]
              exact ih h
            · cases h
          · rw [hsome] at h
            rw [hsome']
            obtain ⟨m, hm, h⟩ := bind_eq_ok_iff.1 h
            obtain ⟨hm', h'⟩ := ih h
            obtain ⟨hr, hf⟩ := hframes r m hm hm'
            exact ⟨hr, bind_eq_ok_iff.2 ⟨_, hf, h'⟩⟩

/-- What a command line asks for, if these arguments and this task were read. -/
def asked (q : Reading) (task : Task) : Invocation where
  config := (q.value? .config).getD "memwatch.toml"
  verbose := q.has .verbose
  logJson := q.has .logJson
  task := task

theorem parse_eq_ok_iff {words : List String} {i : Invocation} : parse words = .ok i ↔
    ∃ q task, parseMain false { page := .main } words = .ok (q, task) ∧ i = asked q task := by
  constructor
  · intro h
    obtain ⟨⟨q, task⟩, hmain, h⟩ := bind_eq_ok_iff.1 h
    cases h
    exact ⟨q, task, hmain, rfl⟩
  · rintro ⟨q, task, hmain, rfl⟩
    exact bind_eq_ok_iff.2 ⟨(q, task), hmain, rfl⟩

variable {words : List String} {i : Invocation}

/-- A word that is an option without a value, in front of a command line without it. -/
theorem parse_cons {word : String} {q : Reading} {task : Task}
    (hname : Page.ofName? word = none) (hdash : word ≠ "--")
    (hoption : takeOption? { page := .main } word = some (.ok (withFirst { page := .main } a)))
    (hmain : parseMain false { page := .main } words = .ok (q, task)) (hq : q.has a = false) :
    parse (word :: words) = .ok (asked (q.withFirst a) task) := by
  have hwaits : waits { page := .main } = false := rfl
  refine parse_eq_ok_iff.2 ⟨_, _, ?_, rfl⟩
  simp only [parseMain, hwaits, hname, hoption, Bool.or_self, Bool.false_eq_true, if_false,
    Bool.not_false, Bool.true_and, beq_iff_eq, if_neg hdash]
  exact (parseMain_withFirst hmain hq).2

/-- With `--verbose` in front, a command line without it asks for the same and to record more. -/
theorem parse_verbose (h : parse words = .ok i) (hi : i.verbose = false) :
    parse ("--verbose" :: words) = .ok { i with verbose := true } := by
  obtain ⟨q, task, hmain, rfl⟩ := parse_eq_ok_iff.1 h
  rw [parse_cons rfl (by decide) rfl hmain hi]
  simp [asked, value?_withFirst, has_withFirst]

/-- With `--log-json` in front, a command line without it asks for the same and for records in
JSON. -/
theorem parse_logJson (h : parse words = .ok i) (hi : i.logJson = false) :
    parse ("--log-json" :: words) = .ok { i with logJson := true } := by
  obtain ⟨q, task, hmain, rfl⟩ := parse_eq_ok_iff.1 h
  rw [parse_cons rfl (by decide) rfl hmain hi]
  simp [asked, value?_withFirst, has_withFirst]

end Vigil.Command
