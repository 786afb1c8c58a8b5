import Vigil.Proofs.Watchdog.Act
import Vigil.Watchdog.Basic

/-!
# The traces of a loop

All that each part of the loop can do, as a relation between the monitors before it, its events,
the monitors after it and what it comes to.  The foreign code may answer whatever it likes; the
relations bind only what the loop itself decides.

* `Examined`, `Scanned`: one monitor, and the monitors of a pass;
* `Remedied`, `Ticked`, `Watched`: hook and handler, a pass with what follows from it, and the same
  behind the switch for monitors;
* `Turned`, `Took`: one turn, and as many as there may be.
-/

namespace Vigil

variable {σ : Type}

/-- Monitors are called, and violations are reported: all that happens in a pass. -/
def Event.ofPass : Event → Bool
  | .checked .. => true
  | .reported (.thresholdViolated ..) => true
  | .reported (.strikesExceeded ..) => true
  | _ => false

/-- The loop rests. -/
def Event.isPaused : Event → Bool
  | .paused _ => true
  | _ => false

theorem Event.isPaused_of_ofPass {e : Event} (he : e.ofPass = true) : e.isPaused = false := by
  revert he
  fun_cases Event.ofPass e <;> simp [Event.isPaused]

/-- What a loop leaves as it is of a registered monitor: the monitor and its limit. -/
def Registered.descriptor (m : Registered σ) : Monitor σ × UInt32 := (m.monitor, m.strikes.limit)

/-- What is read off one entry of a list that is changed, if it changes with the entry. -/
theorem map_modify {α β : Type} {p : α → β} {f : α → α} {g : β → β} (h : ∀ a, p (f a) = g (p a))
    (l : List α) (i : ℕ) : (l.modify i f).map p = (l.map p).modify i g := by
  induction l generalizing i with
  | nil => cases i <;> rfl
  | cons a l ih =>
    cases i with
    | zero => exact congrArg (· :: l.map p) (h a)
    | succ i => exact congrArg (p a :: ·) (ih i)

theorem MonitorSet.map_descriptor_modify (ms : MonitorSet σ) (i : ℕ)
    {f : Registered σ → Registered σ} (hf : ∀ m, (f m).descriptor = m.descriptor) :
    (List.modify ms i f).map Registered.descriptor = ms.map Registered.descriptor :=
  (map_modify hf ms i).trans (List.modify_id i _)

@[simp]
theorem MonitorSet.map_descriptor_reset (ms : MonitorSet σ) (i : ℕ) :
    (ms.reset i).map Registered.descriptor = ms.map Registered.descriptor :=
  ms.map_descriptor_modify i fun _ => rfl

theorem MonitorSet.length_eq_of_map_descriptor {ms ms' : MonitorSet σ}
    (h : ms'.map Registered.descriptor = ms.map Registered.descriptor) :
    ms'.length = ms.length := by
  have hlength := congrArg List.length h
  rwa [List.length_map, List.length_map] at hlength

theorem MonitorSet.map_monitor_of_map_descriptor {ms ms' : MonitorSet σ}
    (h : ms'.map Registered.descriptor = ms.map Registered.descriptor) :
    ms'.map Registered.monitor = ms.map Registered.monitor := by
  have hmonitor := congrArg (List.map Prod.fst) h
  rw [List.map_map, List.map_map] at hmonitor
  exact hmonitor

/-- What holds of the monitors holds as long as they are the same monitors. -/
theorem MonitorSet.forall_monitor_of_map_descriptor {P : Monitor σ → Prop}
    {ms ms' : MonitorSet σ} (hms : ms'.map Registered.descriptor = ms.map Registered.descriptor)
    (h : ∀ m ∈ ms, P m.monitor) : ∀ m ∈ ms', P m.monitor := by
  intro m' hm'
  have hmem : m'.descriptor ∈ ms.map Registered.descriptor := by
    rw [← hms]
    exact List.mem_map_of_mem hm'
  obtain ⟨m, hm, heq⟩ := List.mem_map.1 hmem
  have hmonitor : m.monitor = m'.monitor := congrArg Prod.fst heq
  rw [← hmonitor]
  exact h m hm

namespace Loop

/-! ### Monitors -/

/-- Examining a monitor: what happens in it, the monitor after it, and the finding.  The monitor may
crash, there may be no violation, the reporter may crash at one, there may be strikes left, or none,
at the report of which the reporter may crash too. -/
inductive Examined (c : Configuration σ) (h : Handler σ) (i : ℕ) (m : Registered σ) :
    List Event → Registered σ → Finding → Prop
  | unanswered : Examined c h i m [.checked i m.name none] m .crashed
  | respected {v : Verdict} (hv : v.violated = false) :
      Examined c h i m [.checked i m.name (some v)] (m.record v) .passed
  | untold {v : Verdict} (hv : v.violated = true) :
      Examined c h i m
        [.checked i m.name (some v), .reported (.thresholdViolated m.name)] (m.record v) .crashed
  | tolerated {v : Verdict} (hv : v.violated = true)
      (hs : (m.record v).strikes.exceeded = false) :
      Examined c h i m
        [.checked i m.name (some v), .reported (.thresholdViolated m.name)] (m.record v) .passed
  | spent {v : Verdict} {f : Finding} (hv : v.violated = true)
      (hs : (m.record v).strikes.exceeded = true) (hf : f = .exceeded ∨ f = .crashed) :
      Examined c h i m
        [.checked i m.name (some v), .reported (.thresholdViolated m.name),
          .reported (.strikesExceeded m.name h.name c.sleepSeconds (m.record v).strikes v.payload)]
        (m.record v) f

theorem report_ensures (c : Configuration σ) (n : Notice) :
    (report c n).Ensures fun es _ => es = [.reported n] := fun _ => rfl

theorem examine_ensures (c : Configuration σ) (h : Handler σ) (i : ℕ) (m : Registered σ) :
    (examine c h i m).Ensures fun es r => Examined c h i m es r.1 r.2 := by
  refine .bind (Act.ensures_call _ _) ?_
  rintro _ verdict? rfl
  cases verdict? with
  | none => exact Act.ensures_pure .unanswered
  | some v =>
    cases hv : v.violated with
    | false =>
      simp only [hv, Bool.not_false, if_true]
      exact Act.ensures_pure (.respected hv)
    | true =>
      simp only [hv, Bool.not_true, Bool.false_eq_true, if_false]
      refine .bind (report_ensures c _) ?_
      rintro _ told rfl
      cases told with
      | none => exact Act.ensures_pure (.untold hv)
      | some _ =>
        cases hs : (m.record v).strikes.exceeded with
        | false => exact Act.ensures_pure (.tolerated hv hs)
        | true =>
          refine .bind (report_ensures c _) ?_
          rintro _ told rfl
          refine Act.ensures_pure (.spent hv hs ?_)
          cases told <;> simp

/-- A pass over monitors, the first of which has the index `i`: what happens in it, the monitors
after it, and the outcome.  Once a monitor has run out of strikes, the others are not called. -/
inductive Scanned (c : Configuration σ) (h : Handler σ) :
    ℕ → MonitorSet σ → List Event → MonitorSet σ → Outcome → Prop
  | nil (i : ℕ) : Scanned c h i [] [] [] .quiet
  | passed {i : ℕ} {m m' : Registered σ} {ms ms' : MonitorSet σ} {es es' : List Event}
      {out : Outcome} (hm : Examined c h i m es m' .passed)
      (hms : Scanned c h (i + 1) ms es' ms' out) :
      Scanned c h i (m :: ms) (es ++ es') (m' :: ms') out
  | exceeded {i : ℕ} {m m' : Registered σ} {ms : MonitorSet σ} {es : List Event}
      (hm : Examined c h i m es m' .exceeded) :
      Scanned c h i (m :: ms) es (m' :: ms) (.exceeded i)
  | crashed {i : ℕ} {m m' : Registered σ} {ms : MonitorSet σ} {es : List Event}
      (hm : Examined c h i m es m' .crashed) :
      Scanned c h i (m :: ms) es (m' :: ms) .crashed

theorem scan_ensures (c : Configuration σ) (h : Handler σ) (i : ℕ) (ms : MonitorSet σ) :
    (scan c h i ms).Ensures fun es r => Scanned c h i ms es r.1 r.2 := by
  induction ms generalizing i with
  | nil => exact Act.ensures_pure (.nil i)
  | cons m ms ih =>
    refine .bind (examine_ensures c h i m) ?_
    rintro es ⟨m', finding⟩ hm
    cases finding with
    | passed =>
      refine .bind (ih (i + 1)) ?_
      rintro es' ⟨ms', out⟩ hms
      refine Act.ensures_pure ?_
      simpa using Scanned.passed hm hms
    | exceeded => exact Act.ensures_pure (by simpa using Scanned.exceeded hm)
    | crashed => exact Act.ensures_pure (by simpa using Scanned.crashed hm)

/-- The index at which a pass stops is that of a monitor. -/
theorem Scanned.exists_getElem? {c : Configuration σ} {h : Handler σ} {i j : ℕ}
    {ms ms' : MonitorSet σ} {es : List Event} (hs : Scanned c h i ms es ms' (.exceeded j)) :
    ∃ k m, j = i + k ∧ ms'[k]? = some m := by
  generalize hout : Outcome.exceeded j = out at hs
  induction hs with
  | nil => cases hout
  | passed _ _ ih =>
    obtain ⟨k, m, hj, hm⟩ := ih hout
    exact ⟨k + 1, m, by omega, hm⟩
  | exceeded => cases hout; exact ⟨0, _, rfl, rfl⟩
  | crashed => cases hout

theorem Scanned.ofPass {c : Configuration σ} {h : Handler σ} {i : ℕ} {ms ms' : MonitorSet σ}
    {es : List Event} {out : Outcome} (hs : Scanned c h i ms es ms' out) :
    ∀ e ∈ es, e.ofPass = true := by
  have examined {m m' : Registered σ} {i : ℕ} {es : List Event} {f : Finding}
      (hm : Examined c h i m es m' f) : ∀ e ∈ es, e.ofPass = true := by
    cases hm <;> simp [Event.ofPass]
  induction hs with
  | nil => simp
  | passed hm _ ih =>
    intro e he
    exact (List.mem_append.1 he).elim (examined hm e) (ih e)
  | exceeded hm => exact examined hm
  | crashed hm => exact examined hm

theorem Examined.descriptor_eq {c : Configuration σ} {h : Handler σ} {i : ℕ}
    {m m' : Registered σ} {es : List Event} {f : Finding} (hm : Examined c h i m es m' f) :
    m'.descriptor = m.descriptor := by
  cases hm <;> rfl

theorem Scanned.map_descriptor {c : Configuration σ} {h : Handler σ} {i : ℕ}
    {ms ms' : MonitorSet σ} {es : List Event} {out : Outcome}
    (hs : Scanned c h i ms es ms' out) :
    ms'.map Registered.descriptor = ms.map Registered.descriptor := by
  induction hs with
  | nil => rfl
  | passed hm _ ih => rw [List.map_cons, List.map_cons, hm.descriptor_eq, ih]
  | exceeded hm => rw [List.map_cons, List.map_cons, hm.descriptor_eq]
  | crashed hm => rw [List.map_cons, List.map_cons, hm.descriptor_eq]

/-! ### Passes -/

/-- Hook and handler for the monitor `m` with the index `i`: what happens, the monitors after it,
and whether the handler succeeded.  Either may crash; if the handler answers, the strikes are
cleared. -/
inductive Remedied (h : Handler σ) (i : ℕ) (m : Registered σ) (ms : MonitorSet σ) :
    List Event → MonitorSet σ → Option Bool → Prop
  | undiagnosed : Remedied h i m ms [.diagnosed m.name] ms none
  | unanswered : Remedied h i m ms [.diagnosed m.name, .handled h.name none] ms none
  | answered (success : Bool) :
      Remedied h i m ms [.diagnosed m.name, .handled h.name (some success)]
        (MonitorSet.reset ms i) (some success)

theorem remedy_ensures (c : Configuration σ) (h : Handler σ) {i : ℕ} {m : Registered σ}
    {ms : MonitorSet σ} (hm : ms[i]? = some m) :
    (remedy c h i ms).Ensures fun es r => Remedied h i m ms es r.1 r.2 := by
  unfold remedy
  rw [hm]
  refine .bind (Act.ensures_call _ _) ?_
  rintro _ looked rfl
  cases looked with
  | none => exact Act.ensures_pure .undiagnosed
  | some _ =>
    refine .bind (Act.ensures_call _ _) ?_
    rintro _ success rfl
    cases success with
    | none => exact Act.ensures_pure .unanswered
    | some success => exact Act.ensures_pure (.answered success)

theorem currentHandler_ensures (s : Surroundings σ) :
    (currentHandler s).Ensures fun es r =>
      ∃ on, es = [.enforcementRead on] ∧ r = on.map (select s.configuration.handler) := by
  refine .bind (Act.ensures_call _ _) ?_
  rintro _ on rfl
  exact Act.ensures_pure ⟨on, rfl, rfl⟩

/-- A pass and what follows from it: what happens, the monitors after it, and whether a handler
succeeded.  The handler is the one that was selected before the pass. -/
inductive Ticked (s : Surroundings σ) (ms : MonitorSet σ) :
    List Event → MonitorSet σ → Option Bool → Prop
  | unread : Ticked s ms [.enforcementRead none] ms none
  | quiet {on : Bool} {es : List Event} {ms' : MonitorSet σ}
      (hs : Scanned s.configuration (select s.configuration.handler on) 0 ms es ms' .quiet) :
      Ticked s ms (.enforcementRead (some on) :: es) ms' (some false)
  | crashed {on : Bool} {es : List Event} {ms' : MonitorSet σ}
      (hs : Scanned s.configuration (select s.configuration.handler on) 0 ms es ms' .crashed) :
      Ticked s ms (.enforcementRead (some on) :: es) ms' none
  | remedied {on : Bool} {i : ℕ} {m : Registered σ} {es es' : List Event}
      {ms' ms'' : MonitorSet σ} {success : Option Bool}
      (hs : Scanned s.configuration (select s.configuration.handler on) 0 ms es ms' (.exceeded i))
      (hm : ms'[i]? = some m)
      (hr : Remedied (select s.configuration.handler on) i m ms' es' ms'' success) :
      Ticked s ms (.enforcementRead (some on) :: (es ++ es')) ms'' success

theorem tick_ensures (s : Surroundings σ) (ms : MonitorSet σ) :
    (tick s ms).Ensures fun es r => Ticked s ms es r.1 r.2 := by
  refine .bind (currentHandler_ensures s) ?_
  rintro _ _ ⟨on, rfl, rfl⟩
  cases on with
  | none => exact Act.ensures_pure .unread
  | some on =>
    refine .bind (scan_ensures _ _ 0 ms) ?_
    rintro es ⟨ms', out⟩ hs
    cases out with
    | quiet => exact Act.ensures_pure (by simpa using Ticked.quiet hs)
    | crashed => exact Act.ensures_pure (by simpa using Ticked.crashed hs)
    | exceeded i =>
      -- The pass began with the first monitor, so its index is that in the list.
      obtain ⟨k, m, rfl, hm⟩ := hs.exists_getElem?
      rw [Nat.zero_add] at hs ⊢
      intro scene
      have ht := Ticked.remedied hs hm (remedy_ensures s.configuration _ hm scene)
      exact ht

theorem Ticked.map_descriptor {s : Surroundings σ} {ms ms' : MonitorSet σ} {es : List Event}
    {success : Option Bool} (ht : Ticked s ms es ms' success) :
    ms'.map Registered.descriptor = ms.map Registered.descriptor := by
  cases ht with
  | unread => rfl
  | quiet hs => exact hs.map_descriptor
  | crashed hs => exact hs.map_descriptor
  | remedied hs _ hr =>
    rw [← hs.map_descriptor]
    cases hr with
    | answered => exact MonitorSet.map_descriptor_reset _ _
    | _ => rfl

/-- A pass behind the switch for monitors. -/
inductive Watched (s : Surroundings σ) (ms : MonitorSet σ) :
    List Event → MonitorSet σ → Option Bool → Prop
  | unread : Watched s ms [.watchdogRead none] ms none
  | off : Watched s ms [.watchdogRead (some false)] ms (some false)
  | on {es : List Event} {ms' : MonitorSet σ} {success : Option Bool}
      (ht : Ticked s ms es ms' success) :
      Watched s ms (.watchdogRead (some true) :: es) ms' success

theorem watch_ensures (s : Surroundings σ) (ms : MonitorSet σ) :
    (watch s ms).Ensures fun es r => Watched s ms es r.1 r.2 := by
  refine .bind (Act.ensures_call _ _) ?_
  rintro _ on rfl
  match on with
  | none => exact Act.ensures_pure .unread
  | some false => exact Act.ensures_pure .off
  | some true => exact fun scene => .on (tick_ensures s ms scene)

/-- There is no rest in it. -/
theorem Watched.countP_isPaused {s : Surroundings σ} {ms ms' : MonitorSet σ} {es : List Event}
    {success : Option Bool} (hw : Watched s ms es ms' success) :
    es.countP Event.isPaused = 0 := by
  have scanned {h : Handler σ} {ms ms' : MonitorSet σ} {es : List Event} {out : Outcome}
      (hs : Scanned s.configuration h 0 ms es ms' out) : es.countP Event.isPaused = 0 :=
    List.countP_eq_zero.2 fun e he => by simp [Event.isPaused_of_ofPass (hs.ofPass e he)]
  cases hw with
  | unread => rfl
  | off => rfl
  | on ht =>
    cases ht with
    | unread => rfl
    | quiet hs => simpa [Event.isPaused] using scanned hs
    | crashed hs => simpa [Event.isPaused] using scanned hs
    | remedied hs _ hr =>
      have hremedied := scanned hs
      cases hr <;> simpa [Event.isPaused, List.countP_append] using hremedied

theorem Watched.map_descriptor {s : Surroundings σ} {ms ms' : MonitorSet σ} {es : List Event}
    {success : Option Bool} (hw : Watched s ms es ms' success) :
    ms'.map Registered.descriptor = ms.map Registered.descriptor := by
  cases hw with
  | on ht => exact ht.map_descriptor
  | _ => rfl

/-! ### Turns -/

/-- One turn: what happens in it, the monitors after it, and how the loop ended, if it did.  After a
rest it goes on, unless that crashes. -/
inductive Turned (s : Surroundings σ) (ms : MonitorSet σ) :
    List Event → MonitorSet σ → Option Ending → Prop
  | stopped : Turned s ms [] ms (some (.done .backgroundTaskStopped))
  | empty (hms : ms = []) : Turned s ms [] ms (some (.done .monitorsNotConfigured))
  | crashed {es : List Event} {ms' : MonitorSet σ} (hms : ms ≠ []) (hw : Watched s ms es ms' none) :
      Turned s ms es ms' (some .crashed)
  | handled {es : List Event} {ms' : MonitorSet σ} (hms : ms ≠ [])
      (hw : Watched s ms es ms' (some true)) :
      Turned s ms es ms' (some (.done .successfullyHandled))
  | rested {es : List Event} {ms' : MonitorSet σ} {e : Option Ending} (hms : ms ≠ [])
      (hw : Watched s ms es ms' (some false)) (he : e = none ∨ e = some .crashed) :
      Turned s ms (es ++ [.paused s.configuration.sleepTime]) ms' e

theorem Turned.ne_unfinished {s : Surroundings σ} {ms ms' : MonitorSet σ} {es : List Event}
    {e : Ending} (ht : Turned s ms es ms' (some e)) : e ≠ .unfinished := by
  cases ht with
  | rested _ _ he =>
    obtain rfl : e = .crashed := by simpa using he
    nofun
  | _ => nofun

/-- A turn changes neither the monitors nor their limits. -/
theorem Turned.map_descriptor {s : Surroundings σ} {ms ms' : MonitorSet σ} {es : List Event}
    {e : Option Ending} (ht : Turned s ms es ms' e) :
    ms'.map Registered.descriptor = ms.map Registered.descriptor := by
  cases ht with
  | crashed _ hw => exact hw.map_descriptor
  | handled _ hw => exact hw.map_descriptor
  | rested _ hw => exact hw.map_descriptor
  | _ => rfl

theorem rest_ensures (s : Surroundings σ) :
    (rest s).Ensures fun es _ => es = [.paused s.configuration.sleepTime] := by
  intro scene
  unfold rest
  cases s.pause <;> rfl

theorem turn_ensures (s : Surroundings σ) (ms : MonitorSet σ) :
    (turn s ms).Ensures fun es r => Turned s ms es r.1 r.2 := by
  refine .bind (P := fun es _ => es = []) (fun _ => rfl) ?_
  rintro _ stop rfl
  cases stop with
  | true => exact Act.ensures_pure .stopped
  | false =>
    cases hms : ms with
    | nil => exact Act.ensures_pure (.empty rfl)
    | cons m ms =>
      refine .bind (watch_ensures s (m :: ms)) ?_
      rintro es ⟨ms', handled⟩ hw
      have hne : m :: ms ≠ [] := List.cons_ne_nil m ms
      match handled with
      | none => exact Act.ensures_pure (by simpa using .crashed hne hw)
      | some true => exact Act.ensures_pure (by simpa using .handled hne hw)
      | some false =>
        refine .bind (rest_ensures s) ?_
        rintro _ rested rfl
        refine Act.ensures_pure ?_
        rw [List.nil_append, List.append_nil]
        refine .rested hne hw ?_
        cases rested <;> simp

/-- Turns: what happens in them, the monitors after them, and how they ended.  They are unfinished
if no further turn is allowed. -/
inductive Took (s : Surroundings σ) :
    MonitorSet σ → List Event → MonitorSet σ → Ending → Prop
  | unfinished (ms : MonitorSet σ) : Took s ms [] ms .unfinished
  | last {ms ms' : MonitorSet σ} {es : List Event} {e : Ending}
      (ht : Turned s ms es ms' (some e)) : Took s ms es ms' e
  | next {ms ms' ms'' : MonitorSet σ} {es es' : List Event} {e : Ending}
      (ht : Turned s ms es ms' none) (hts : Took s ms' es' ms'' e) :
      Took s ms (es ++ es') ms'' e

theorem Took.map_descriptor {s : Surroundings σ} {ms ms' : MonitorSet σ} {es : List Event}
    {e : Ending} (ht : Took s ms es ms' e) :
    ms'.map Registered.descriptor = ms.map Registered.descriptor := by
  induction ht with
  | unfinished => rfl
  | last ht => exact ht.map_descriptor
  | next ht _ ih => rw [ih, ht.map_descriptor]

theorem turns_ensures (s : Surroundings σ) (allowed : ℕ) (ms : MonitorSet σ) :
    (turns s allowed ms).Ensures fun es r => Took s ms es r.1 r.2 := by
  induction allowed generalizing ms with
  | zero => exact Act.ensures_pure (.unfinished ms)
  | succ allowed ih =>
    refine .bind (turn_ensures s ms) ?_
    rintro es ⟨ms', ending⟩ ht
    cases ending with
    | none => exact fun scene => .next ht (ih ms' scene)
    | some e => exact Act.ensures_pure (by simpa using .last ht)

end Loop

end Vigil
