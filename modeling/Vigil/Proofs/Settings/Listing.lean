import Mathlib.Data.List.Infix
import Vigil.Proofs.Settings.Load
import Vigil.Settings.Report

/-!
# The report for people

The report for people has one line after another for the settings of the loop, and then the
monitors, each with its name as it is.  A name that holds the end of such a line can pass for
another monitor.

* `Text.lines`: the lines of a text;
* `MonitorSettings.remark`, `Settings.shown`: how a monitor is shown;
* `Settings.heading`, `Settings.sheet`, `Settings.plainReport_eq`: what the report consists of;
* `Settings.Deceptive`, `Settings.name_append_inj`: where a shown monitor ends;
* `Settings.lines_plainReport`, `Settings.length_lines_plainReport`: the lines of the report;
* `Settings.Candid`, `Settings.joined`, `Settings.exists_ne_plainReport_eq`: which settings can be
  taken for others;
* `Settings.plainReport_identifies`: what can be told from the report;
* `Settings.forged`: settings of a file whose report is that of others.
-/

namespace Vigil

/-! ### Lines -/

namespace Text

/-- The lines of a text, each of which ends in a line break. -/
def lines (t : String) : List String := (t.toList.splitOn '\n').dropLast.map String.ofList

theorem toList_line (a : String) : (a ++ "\n").toList = a.toList ++ ['\n'] := by simp

theorem lines_append (a t : String) : lines (a ++ "\n" ++ t) = lines (a ++ "\n") ++ lines t := by
  have h (cs : List Char) : (a.toList ++ '\n' :: cs).splitOn '\n' =
      a.toList.splitOn '\n' ++ cs.splitOn '\n' := List.splitOn_append_cons_self _ _
  have hall : (a ++ "\n" ++ t).toList = a.toList ++ '\n' :: t.toList := by simp
  rw [lines, lines, lines, hall, toList_line, h, h, List.splitOn_nil,
    List.dropLast_append_of_ne_nil (List.splitOn_ne_nil _ _), List.dropLast_concat, List.map_append]

theorem lines_eq_singleton {a : String} (h : '\n' ∉ a.toList) : lines (a ++ "\n") = [a] := by
  rw [lines, toList_line, List.splitOn_append_cons_self_of_not_mem h, List.splitOn_nil]
  simp

theorem length_splitOn (c : Char) (cs : List Char) : (cs.splitOn c).length = cs.count c + 1 := by
  induction cs with
  | nil => rfl
  | cons d cs ih =>
    rw [List.splitOn_cons_eq_if_modifyHead]
    by_cases h : d = c
    · simp [h, ih]
    · simp [h, ih]

/-- A text has one line more than it has line breaks before the last. -/
theorem length_lines (a : String) : (lines (a ++ "\n")).length = a.toList.count '\n' + 1 := by
  rw [lines, List.length_map, List.length_dropLast, length_splitOn, toList_line, List.count_append]
  simp

theorem lines_join (as : List String) :
    lines (String.join (as.map (· ++ "\n"))) = as.flatMap fun a => lines (a ++ "\n") := by
  induction as with
  | nil => rfl
  | cons a as ih => rw [List.map_cons, String.join_cons, lines_append, ih, List.flatMap_cons]

end Text

/-! ### What the report consists of -/

/-- A limit as it is shown. -/
def limitWord : Option UInt32 → String
  | some n => toString n.toNat
  | none => "default"

/-- What is said of a monitor behind its name. -/
def MonitorSettings.remark (m : MonitorSettings) : String :=
  " (" ++ (if m.enabled then "enabled" else "disabled") ++ ", max strikes: " ++
    limitWord m.maxStrikes ++ ")"

namespace Settings

open Text (lines)

/-- A monitor as it is shown. -/
def shown (name : String) (m : MonitorSettings) : String := "    " ++ name ++ m.remark

/-- What stands before the monitors. -/
def heading (s : Settings) : List String :=
  ["Configuration is valid",
   "  Sleep time: " ++ toString s.watchdog.sleepTimeSeconds.toNat ++ "s",
   "  Handler: " ++ s.watchdog.handler.name,
   "  Watchdog enabled: " ++ toString s.watchdog.enabled,
   "  Enforcement enabled: " ++ toString s.watchdog.enforce,
   if s.monitors.isEmpty then "  Monitors: (defaults)" else "  Monitors:"]

/-- The heading and all monitors in the order of their names. -/
def sheet (s : Settings) : List String :=
  s.heading ++ s.monitors.entries.map fun e => shown e.1 e.2

theorem monitorLine_eq (name : String) (m : MonitorSettings) :
    monitorLine name m = shown name m ++ "\n" := by
  simp only [monitorLine, shown, MonitorSettings.remark, String.append_assoc]
  rfl

/-- The report is the sheet, piece by piece, each with a line break. -/
theorem plainReport_eq (s : Settings) :
    s.plainReport = String.join (s.sheet.map (· ++ "\n")) := by
  have hmonitors : s.monitors.entries.map (fun e => monitorLine e.1 e.2) =
      (s.monitors.entries.map fun e => shown e.1 e.2).map (· ++ "\n") := by
    rw [List.map_map]
    exact List.map_congr_left fun e _ => monitorLine_eq e.1 e.2
  unfold plainReport monitorLines sheet heading
  rw [hmonitors, SortedMap.isEmpty]
  have hvalid : "Configuration is valid\n" = "Configuration is valid" ++ "\n" := by decide
  have hseconds : "s\n" = "s" ++ "\n" := by decide
  have hnone : "  Monitors: (defaults)\n" = "  Monitors: (defaults)" ++ "\n" := by decide
  have hsome : "  Monitors:\n" = "  Monitors:" ++ "\n" := by decide
  rw [hvalid, hseconds, hnone, hsome]
  cases s.monitors.entries with
  | nil =>
    simp only [List.isEmpty_nil, if_true, List.map_cons, List.map_nil, List.append_nil,
      String.join_cons, String.join_nil, String.append_empty, String.append_assoc]
  | cons e es =>
    simp only [List.isEmpty_cons, Bool.false_eq_true, if_false, List.map_cons, List.cons_append,
      List.nil_append, String.join_cons, String.append_assoc]

/-! ### Where a shown monitor ends -/

/-- What ends the line of a monitor, behind its name. -/
def ending (m : MonitorSettings) : List Char := (m.remark ++ "\n").toList

/-- A name that holds what ends the line of a monitor. -/
def Deceptive (name : String) : Prop := ∃ m : MonitorSettings, ending m <:+: name.toList

theorem toList_shown (name : String) (m : MonitorSettings) :
    (shown name m ++ "\n").toList = "    ".toList ++ (name.toList ++ ending m) := by
  simp only [shown, ending, String.toList_append, List.append_assoc]

theorem toString_inj {n n' : ℕ} : toString n = toString n' ↔ n = n' := by
  refine ⟨fun h => ?_, congrArg toString⟩
  rw [Nat.toString_eq_ofList_toDigits, Nat.toString_eq_ofList_toDigits, String.ofList_inj] at h
  rw [← Nat.ofDigitChars_ten_toDigits (n := n), h, Nat.ofDigitChars_ten_toDigits]

theorem isDigit_of_mem_toString {c : Char} {n : ℕ} (h : c ∈ (toString n).toList) :
    c.isDigit = true := by
  rw [Nat.toString_eq_ofList_toDigits, String.toList_ofList] at h
  exact Nat.isDigit_of_mem_toDigits (by decide) (by decide) h

theorem not_mem_limitWord {c : Char} (hdigit : c.isDigit = false) (hc : c ∉ "default".toList)
    (limit : Option UInt32) : c ∉ (limitWord limit).toList := by
  cases limit with
  | none => exact hc
  | some n =>
    intro h
    rw [isDigit_of_mem_toString h] at hdigit
    cases hdigit

theorem limitWord_injective {limit limit' : Option UInt32} (h : limitWord limit = limitWord limit') :
    limit = limit' := by
  -- the word for no number begins with a letter
  have hne (n : UInt32) : toString n.toNat ≠ "default" := fun h => by
    have hd : 'd' ∈ (toString n.toNat).toList := by rw [h]; decide
    cases isDigit_of_mem_toString hd
  cases limit with
  | none =>
    cases limit' with
    | none => rfl
    | some n => exact absurd h.symm (hne n)
  | some n =>
    cases limit' with
    | none => exact absurd h (hne n)
    | some n' => rw [UInt32.toNat_inj.1 (toString_inj.1 h)]

theorem remark_injective {m m' : MonitorSettings} (h : m.remark = m'.remark) : m = m' := by
  obtain ⟨enabled, limit⟩ := m
  obtain ⟨enabled', limit'⟩ := m'
  rw [MonitorSettings.remark, MonitorSettings.remark, String.append_left_inj] at h
  have henabled : enabled = enabled' := by
    have hchar := congrArg (fun t : String => t.toList[2]?) h
    cases enabled <;> cases enabled' <;> simp at hchar ⊢
  subst henabled
  rw [String.append_right_inj] at h
  exact congrArg (MonitorSettings.mk enabled) (limitWord_injective h)

/-- A remark has one bracket to open, at its second place, and no line break. -/
theorem exists_toList_remark_eq (m : MonitorSettings) :
    ∃ words : List Char, m.remark.toList = ' ' :: '(' :: words ∧ '(' ∉ words ∧ '\n' ∉ words := by
  refine ⟨((if m.enabled then "enabled" else "disabled") ++ ", max strikes: " ++
    limitWord m.maxStrikes ++ ")").toList, ?_, ?_, ?_⟩
  · simp [MonitorSettings.remark]
  · have hlimit : '(' ∉ (limitWord m.maxStrikes).toList := not_mem_limitWord rfl (by decide) _
    cases m.enabled <;> simp [hlimit]
  · have hlimit : '\n' ∉ (limitWord m.maxStrikes).toList := not_mem_limitWord rfl (by decide) _
    cases m.enabled <;> simp [hlimit]

theorem newline_not_mem_remark (m : MonitorSettings) : '\n' ∉ m.remark.toList := by
  obtain ⟨words, hm, -, hwords⟩ := exists_toList_remark_eq m
  simp [hm, hwords]

theorem ending_eq (m : MonitorSettings) : ending m = m.remark.toList ++ ['\n'] :=
  Text.toList_line m.remark

/-- Where a character stands for the first time can be told from the text. -/
theorem append_cons_inj {c : Char} {cs cs' r r' : List Char} (hc : c ∉ cs) (hc' : c ∉ cs')
    (h : cs ++ c :: r = cs' ++ c :: r') : cs = cs' ∧ r = r' := by
  have hsplit := congrArg (List.splitOn c) h
  rw [List.splitOn_append_cons_self_of_not_mem hc,
    List.splitOn_append_cons_self_of_not_mem hc'] at hsplit
  obtain ⟨rfl, -⟩ := List.cons.inj hsplit
  exact ⟨rfl, (List.cons.inj (List.append_cancel_left h)).2⟩

/-- What follows the end of a line can be told from it. -/
theorem ending_append_inj {m m' : MonitorSettings} {r r' : List Char}
    (h : ending m ++ r = ending m' ++ r') : m = m' ∧ r = r' := by
  rw [ending_eq, ending_eq, List.append_assoc, List.append_assoc] at h
  obtain ⟨hremark, hrest⟩ :=
    append_cons_inj (newline_not_mem_remark m) (newline_not_mem_remark m') h
  exact ⟨remark_injective (String.toList_inj.1 hremark), hrest⟩

/-- The end of a line does not begin within the end of another. -/
theorem eq_nil_of_ending_append_eq {m m' : MonitorSettings} {c r r' : List Char}
    (h : ending m ++ r = c ++ (ending m' ++ r')) (hc : ¬ ending m <+: c) : c = [] := by
  obtain ⟨words, hm, hwords, -⟩ := exists_toList_remark_eq m
  obtain ⟨words', hm', -, -⟩ := exists_toList_remark_eq m'
  rcases List.append_eq_append_iff.1 h with ⟨cs, rfl, -⟩ | ⟨ds, hds, hr⟩
  · exact absurd (List.prefix_append _ _) hc
  rw [ending_eq, hm', List.cons_append, List.cons_append, List.cons_append, List.cons_append,
    eq_comm, List.append_eq_cons_iff] at hr
  rcases hr with ⟨rfl, -⟩ | ⟨ds, rfl, hr⟩
  · exact absurd (by rw [hds, List.append_nil]) hc
  rw [eq_comm, List.append_eq_cons_iff] at hr
  rcases hr with ⟨rfl, -⟩ | ⟨ds, rfl, -⟩
  · -- the last character of an ending is no blank
    rw [ending_eq] at hds
    cases (List.append_inj' hds rfl).2
  · -- the bracket is at the second place
    have hfirst : [' '] ++ '(' :: (words ++ ['\n']) = (c ++ [' ']) ++ '(' :: ds := by
      simpa [ending_eq, hm] using hds
    have hsecond := ((List.append_cons_inj_of_notMem (by decide) (by simp [hwords])).1 hfirst).1
    simpa using hsecond

/-- Names that do not hold the end of a line, with what follows them, can be told from it. -/
theorem name_append_inj {name name' r r' : List Char} {m m' : MonitorSettings}
    (hname : ∀ m, ¬ ending m <:+: name) (hname' : ∀ m, ¬ ending m <:+: name')
    (h : name ++ (ending m ++ r) = name' ++ (ending m' ++ r')) :
    name = name' ∧ m = m' ∧ r = r' := by
  have heq : name = name' := by
    rcases List.append_eq_append_iff.1 h with ⟨c, rfl, hc⟩ | ⟨c, rfl, hc⟩
    · have hnil := eq_nil_of_ending_append_eq hc fun hstart =>
        hname' m (hstart.isInfix.trans (List.suffix_append _ _).isInfix)
      rw [hnil, List.append_nil]
    · have hnil := eq_nil_of_ending_append_eq hc fun hstart =>
        hname m' (hstart.isInfix.trans (List.suffix_append _ _).isInfix)
      rw [hnil, List.append_nil]
  subst heq
  exact ⟨rfl, ending_append_inj (List.append_cancel_left h)⟩

theorem toList_shown_append (e : String × MonitorSettings) (r : List Char) :
    (shown e.1 e.2 ++ "\n").toList ++ r = "    ".toList ++ (e.1.toList ++ (ending e.2 ++ r)) := by
  rw [toList_shown, List.append_assoc, List.append_assoc]

theorem entries_eq_of_flatMap_eq {es es' : List (String × MonitorSettings)}
    (hes : ∀ e ∈ es, ¬ Deceptive e.1) (hes' : ∀ e ∈ es', ¬ Deceptive e.1)
    (h : (es.flatMap fun e => (shown e.1 e.2 ++ "\n").toList) =
      es'.flatMap fun e => (shown e.1 e.2 ++ "\n").toList) : es = es' := by
  induction es generalizing es' with
  | nil =>
    cases es' with
    | nil => rfl
    | cons e' es' =>
      rw [List.flatMap_cons, toList_shown_append] at h
      cases h
  | cons e es ih =>
    cases es' with
    | nil =>
      rw [List.flatMap_cons, toList_shown_append] at h
      cases h
    | cons e' es' =>
      obtain ⟨he, hes⟩ := List.forall_mem_cons.1 hes
      obtain ⟨he', hes'⟩ := List.forall_mem_cons.1 hes'
      rw [List.flatMap_cons, List.flatMap_cons, toList_shown_append, toList_shown_append] at h
      obtain ⟨hname, hm, hrest⟩ := name_append_inj (not_exists.1 he) (not_exists.1 he')
        (List.append_cancel_left h)
      rw [Prod.ext (String.toList_inj.1 hname) hm, ih hes hes' hrest]

/-- A shown monitor by itself can be told from what is shown, whatever its name is. -/
theorem shown_inj {name name' : String} {m m' : MonitorSettings} :
    shown name m = shown name' m' ↔ name = name' ∧ m = m' := by
  constructor
  · intro h
    obtain ⟨words, hm, hwords, -⟩ := exists_toList_remark_eq m
    obtain ⟨words', hm', hwords', -⟩ := exists_toList_remark_eq m'
    rw [shown, shown, String.append_assoc, String.append_assoc, String.append_right_inj] at h
    -- what is said of the monitor begins before the last bracket
    have hlast := congrArg (fun t : String => t.toList.reverse) h
    simp only [String.toList_append, hm, hm', List.reverse_append, List.reverse_cons,
      List.append_assoc, List.cons_append, List.nil_append] at hlast
    obtain ⟨hreverse, -⟩ :=
      append_cons_inj (by simpa using hwords) (by simpa using hwords') hlast
    have hremark : m.remark = m'.remark := by
      rw [← String.toList_inj, hm, hm', List.reverse_inj.1 hreverse]
    rw [hremark, String.append_left_inj] at h
    exact ⟨h, remark_injective hremark⟩
  · rintro ⟨rfl, rfl⟩
    rfl

/-! ### The lines of the report -/

theorem newline_not_mem_heading {s : Settings} {a : String} (ha : a ∈ s.heading) :
    '\n' ∉ a.toList := by
  have hseconds : '\n' ∉ (toString s.watchdog.sleepTimeSeconds.toNat).toList := fun h => by
    cases isDigit_of_mem_toString h
  have hbool (b : Bool) : '\n' ∉ (toString b).toList := by cases b <;> decide
  simp only [heading, List.mem_cons, List.not_mem_nil, or_false] at ha
  rcases ha with rfl | rfl | rfl | rfl | rfl | rfl
  · simp
  · simpa using hseconds
  · cases s.watchdog.handler <;> simp [HandlerKind.name]
  · simpa using hbool s.watchdog.enabled
  · simpa using hbool s.watchdog.enforce
  · cases s.monitors.isEmpty <;> simp

/-- A line of the heading is not indented like that of a monitor. -/
theorem getElem?_two_heading {s : Settings} {a : String} (ha : a ∈ s.heading) :
    a.toList[2]? ≠ some ' ' := by
  simp only [heading, List.mem_cons, List.not_mem_nil, or_false] at ha
  rcases ha with rfl | rfl | rfl | rfl | rfl | rfl
  case inr.inr.inr.inr.inr => cases s.monitors.isEmpty <;> simp
  all_goals simp

theorem lines_plainReport (s : Settings) : lines s.plainReport =
    s.heading ++ s.monitors.entries.flatMap fun e => lines (shown e.1 e.2 ++ "\n") := by
  have hheading : (s.heading.flatMap fun a => lines (a ++ "\n")) = s.heading := by
    rw [List.flatMap_congr fun a ha => Text.lines_eq_singleton (newline_not_mem_heading ha),
      List.flatMap_singleton']
  rw [plainReport_eq, Text.lines_join, sheet, List.flatMap_append, List.flatMap_map, hheading]

theorem length_lines_shown (name : String) (m : MonitorSettings) :
    (lines (shown name m ++ "\n")).length = name.toList.count '\n' + 1 := by
  have hblanks : "    ".toList.count '\n' = 0 := by decide
  rw [Text.length_lines, shown, String.toList_append, String.toList_append, List.count_append,
    List.count_append, hblanks, List.count_eq_zero_of_not_mem (newline_not_mem_remark m),
    Nat.zero_add, Nat.add_zero]

theorem length_lines_entries (es : List (String × MonitorSettings)) :
    (es.flatMap fun e => lines (shown e.1 e.2 ++ "\n")).length =
      es.length + (String.join (es.map (·.1))).toList.count '\n' := by
  induction es with
  | nil => rfl
  | cons e es ih =>
    rw [List.flatMap_cons, List.length_append, length_lines_shown, ih, List.map_cons,
      String.join_cons, String.toList_append, List.count_append, List.length_cons]
    omega

/-- Line breaks in names make the report longer. -/
theorem length_lines_plainReport (s : Settings) : (lines s.plainReport).length =
    s.heading.length + s.monitors.keys.length +
      (String.join s.monitors.keys).toList.count '\n' := by
  rw [lines_plainReport, List.length_append, length_lines_entries, SortedMap.keys, List.length_map,
    Nat.add_assoc]

theorem boolWord_inj {b b' : Bool} : toString b = toString b' ↔ b = b' := by
  cases b <;> cases b' <;> decide

theorem handlerName_inj {k k' : HandlerKind} : k.name = k'.name ↔ k = k' := by
  refine ⟨fun h => ?_, congrArg HandlerKind.name⟩
  have hkind := congrArg HandlerKind.ofName? h
  rwa [HandlerKind.ofName?_name, HandlerKind.ofName?_name, Option.some.injEq] at hkind

/-- The heading says everything about the loop, and whether there are monitors. -/
theorem heading_inj {s s' : Settings} : s.heading = s'.heading ↔
    s.watchdog = s'.watchdog ∧ s.monitors.isEmpty = s'.monitors.isEmpty := by
  refine ⟨fun h => ?_, fun ⟨hw, hm⟩ => by rw [heading, heading, hw, hm]⟩
  simp only [heading, List.cons.injEq, String.append_right_inj, String.append_left_inj,
    toString_inj, boolWord_inj, handlerName_inj, UInt64.toNat_inj, true_and, and_true] at h
  obtain ⟨hsleep, hhandler, henabled, henforce, hmonitors⟩ := h
  refine ⟨?_, ?_⟩
  · obtain ⟨⟨sleep, handler, enabled, enforce⟩, _⟩ := s
    cases hsleep
    cases hhandler
    cases henabled
    cases henforce
    rfl
  · cases h : s.monitors.isEmpty <;> cases h' : s'.monitors.isEmpty <;> simp [h, h'] at hmonitors ⊢

theorem heading_eq_of_plainReport_eq {s s' : Settings} (h : s.plainReport = s'.plainReport) :
    s.heading = s'.heading := by
  have hlines := congrArg lines h
  rw [lines_plainReport, lines_plainReport] at hlines
  exact (List.append_inj hlines rfl).1

/-! ### What can be told from the report -/

/-- No monitor's name holds what ends the line of a monitor. -/
def Candid (s : Settings) : Prop := ∀ name ∈ s.monitors.keys, ¬ Deceptive name

theorem Candid.entries {s : Settings} (h : s.Candid) : ∀ e ∈ s.monitors.entries, ¬ Deceptive e.1 :=
  fun _ he => h _ (List.mem_map_of_mem he)

theorem toList_plainReport (s : Settings) : s.plainReport.toList =
    (s.heading.flatMap fun a => (a ++ "\n").toList) ++
      s.monitors.entries.flatMap fun e => (shown e.1 e.2 ++ "\n").toList := by
  rw [plainReport_eq, String.toList_join, List.flatMap_map, sheet, List.flatMap_append,
    List.flatMap_map]

theorem eq_of_plainReport_eq {s s' : Settings} (hs : s.Candid) (hs' : s'.Candid)
    (h : s.plainReport = s'.plainReport) : s = s' := by
  have hheading := heading_eq_of_plainReport_eq h
  have hchars := congrArg String.toList h
  rw [toList_plainReport, toList_plainReport, hheading] at hchars
  have hentries := entries_eq_of_flatMap_eq hs.entries hs'.entries (List.append_cancel_left hchars)
  obtain ⟨watchdog, monitors⟩ := s
  obtain ⟨watchdog', monitors'⟩ := s'
  exact congrArg₂ Settings.mk (heading_inj.1 hheading).1 (SortedMap.ext hentries)

theorem not_deceptive {name : String} (h : '\n' ∉ name.toList) : ¬ Deceptive name := by
  rintro ⟨m, hm⟩
  exact h (hm.subset (by simp [ending_eq]))

/-- A name with which one monitor is shown as two. -/
def joined (name : String) (m : MonitorSettings) (name' : String) : String :=
  name ++ m.remark ++ "\n    " ++ name'

theorem shown_joined (name name' : String) (m m' : MonitorSettings) :
    shown (joined name m name') m' = shown name m ++ "\n" ++ shown name' m' := by
  simp only [shown, joined, String.append_assoc]
  rfl

theorem toList_joined (name name' : String) (m : MonitorSettings) :
    (joined name m name').toList = name.toList ++ (m.remark.toList ++ "\n    ".toList ++
      name'.toList) := by
  simp only [joined, String.toList_append, List.append_assoc]

theorem lt_joined (name name' : String) (m : MonitorSettings) : name < joined name m name' := by
  have hle : ¬ joined name m name' < name := by
    rw [String.lt_iff, toList_joined]
    exact List.not_lt.2 List.le_append_left
  by_contra hlt
  have heq := congrArg String.toList (SortedMap.eq_of_not_lt hlt hle)
  simp [toList_joined] at heq

/-- A name that holds a remark has a character that shows. -/
theorem joined_not_blank (name name' : String) (m : MonitorSettings) :
    ∃ c ∈ (joined name m name').toList, Text.isBlank c = false := by
  obtain ⟨words, hm, -, -⟩ := exists_toList_remark_eq m
  exact ⟨'(', by simp [toList_joined, hm], by decide⟩

theorem sorted_joined {es : List (String × MonitorSettings)} {e e' : String × MonitorSettings}
    (h : (es ++ [e, e']).Pairwise fun a b => a.1 < b.1) :
    (es ++ [(joined e.1 e.2 e'.1, e'.2)]).Pairwise fun a b => a.1 < b.1 := by
  obtain ⟨hes, -, hlt⟩ := List.pairwise_append.1 h
  refine List.pairwise_append.2 ⟨hes, List.pairwise_singleton _ _, fun a ha b hb => ?_⟩
  obtain rfl := List.mem_singleton.1 hb
  exact String.lt_trans (hlt a ha e List.mem_cons_self) (lt_joined _ _ _)

/-- With two monitors or more the last two can be taken for one. -/
theorem exists_ne_plainReport_eq {s : Settings} (h : 2 ≤ s.monitors.entries.length) :
    ∃ s' : Settings, s' ≠ s ∧ s'.plainReport = s.plainReport ∧ (s.Usable → s'.Usable) := by
  obtain ⟨es, e, e', hes⟩ : ∃ es e e', s.monitors.entries = es ++ [e, e'] := by
    rcases List.eq_nil_or_concat s.monitors.entries with hnil | ⟨init, e', hinit⟩
    · simp [hnil] at h
    rcases List.eq_nil_or_concat init with rfl | ⟨es, e, rfl⟩
    · simp [hinit] at h
    exact ⟨es, e, e', by simpa using hinit⟩
  have hsorted := s.monitors.sorted
  rw [hes] at hsorted
  refine ⟨⟨s.watchdog, ⟨_, sorted_joined hsorted⟩⟩, fun heq => ?_, ?_, fun hs => ⟨hs.sleep, ?_⟩⟩
  · have hlength := congrArg (fun s : Settings => s.monitors.entries.length) heq
    simp [hes] at hlength
  · have hheading : heading ⟨s.watchdog, ⟨_, sorted_joined hsorted⟩⟩ = s.heading :=
      heading_inj.2 ⟨rfl, by rw [SortedMap.isEmpty, SortedMap.isEmpty, hes]; cases es <;> rfl⟩
    rw [← String.toList_inj, toList_plainReport, toList_plainReport, hheading, hes]
    simp [shown_joined]
  · intro name hname
    rw [SortedMap.keys, List.map_append, List.mem_append] at hname
    rcases hname with hname | hname
    · refine hs.names name ?_
      rw [SortedMap.keys, hes, List.map_append]
      exact List.mem_append_left _ hname
    · obtain rfl := List.mem_singleton.1 hname
      exact joined_not_blank _ _ _

/-- If no name has a line break, the report is one line for each monitor below the heading. -/
theorem lines_eq_sheet {s : Settings} (h : ∀ name ∈ s.monitors.keys, '\n' ∉ name.toList) :
    lines s.plainReport = s.sheet := by
  have hentries : (s.monitors.entries.flatMap fun e => lines (shown e.1 e.2 ++ "\n")) =
      s.monitors.entries.flatMap fun e => [shown e.1 e.2] :=
    List.flatMap_congr fun e he => Text.lines_eq_singleton (by
      have hname := h e.1 (List.mem_map_of_mem he)
      simp [shown, hname, newline_not_mem_remark])
  rw [lines_plainReport, hentries, ← List.map_eq_flatMap, sheet]

theorem shown_mem_sheet {s : Settings} {name : String} {m : MonitorSettings} :
    shown name m ∈ s.sheet ↔ s.monitor? name = some m := by
  have hheading : shown name m ∉ s.heading := fun h => getElem?_two_heading h (by simp [shown])
  rw [sheet, List.mem_append, or_iff_right hheading, monitor?, SortedMap.get?_eq_some_iff,
    List.mem_map]
  constructor
  · rintro ⟨e, he, heq⟩
    obtain ⟨rfl, rfl⟩ := shown_inj.1 heq
    exact he
  · intro he
    exact ⟨_, he, rfl⟩

/-- **What can be told from the report for people.**

* Settings with the same report agree in everything about the loop, and in whether there are
  monitors.
* Among settings without a monitor's name that holds what ends the line of a monitor, different
  ones have different reports.
* If there are two monitors or more, other settings have the same report, and they are usable if
  these are.
* The report has six lines, one more for each monitor, and one more for each line break in their
  names.
* If no name has a line break, then below the six lines the report has one line for each monitor,
  in the order of their names, and a line shows a monitor just if it is configured so. -/
theorem plainReport_identifies (s : Settings) :
    (∀ s' : Settings, s'.plainReport = s.plainReport →
      s'.watchdog = s.watchdog ∧ s'.monitors.isEmpty = s.monitors.isEmpty) ∧
    (s.Candid → ∀ s' : Settings, s'.Candid → (s'.plainReport = s.plainReport ↔ s' = s)) ∧
    (2 ≤ s.monitors.keys.length → ∃ s' : Settings, s' ≠ s ∧ s'.plainReport = s.plainReport ∧
      (s.validate = .ok () → s'.validate = .ok ())) ∧
    (lines s.plainReport).length =
      6 + s.monitors.keys.length + (String.join s.monitors.keys).toList.count '\n' ∧
    ((∀ name ∈ s.monitors.keys, '\n' ∉ name.toList) → s.Candid ∧
      lines s.plainReport = s.heading ++ s.monitors.entries.map (fun e => shown e.1 e.2) ∧
      s.monitors.keys.Pairwise (· < ·) ∧
      ∀ name m, shown name m ∈ lines s.plainReport ↔ s.monitor? name = some m) := by
  refine ⟨fun s' h => heading_inj.1 (heading_eq_of_plainReport_eq h), fun hs s' hs' => ⟨?_, ?_⟩,
    fun h => ?_, s.length_lines_plainReport, fun h => ?_⟩
  · exact eq_of_plainReport_eq hs' hs
  · rintro rfl
    rfl
  · rw [SortedMap.keys, List.length_map] at h
    obtain ⟨s', hne, hreport, husable⟩ := exists_ne_plainReport_eq h
    exact ⟨s', hne, hreport, fun hs => validate_eq_ok_iff.2 (husable (validate_eq_ok_iff.1 hs))⟩
  · have hlines := lines_eq_sheet h
    exact ⟨fun name hname => not_deceptive (h name hname), hlines,
      List.pairwise_map.2 s.monitors.sorted, fun name m => hlines ▸ shown_mem_sheet⟩

/-- Settings of monitors, one of which has a name with brackets. -/
def bracketed : Settings where
  monitors := SortedMap.ofList
    [("a (enabled, max strikes: default)", {}), ("b", { enabled := false, maxStrikes := some 3 })]

theorem bracketed_identified :
    bracketed.Candid ∧
      lines bracketed.plainReport =
        ["Configuration is valid", "  Sleep time: 60s", "  Handler: null",
          "  Watchdog enabled: true", "  Enforcement enabled: true", "  Monitors:",
          "    a (enabled, max strikes: default) (enabled, max strikes: default)",
          "    b (disabled, max strikes: 3)"] ∧
      ∃ s' : Settings, s'.plainReport = bracketed.plainReport ∧ s'.validate = .ok () ∧
        s'.watchdog = bracketed.watchdog ∧ ¬ s'.Candid := by
  have hnames : ∀ name ∈ bracketed.monitors.keys, '\n' ∉ name.toList := by decide +kernel
  obtain ⟨hloop, hcandid, hother, -, hplain⟩ := plainReport_identifies bracketed
  obtain ⟨hs, hlines, -⟩ := hplain hnames
  obtain ⟨s', hne, hreport, hvalid⟩ := hother (by decide +kernel)
  refine ⟨hs, hlines.trans (by decide +kernel), s', hreport, hvalid rfl, (hloop s' hreport).1, ?_⟩
  exact fun hs' => hne ((hcandid hs s' hs').1 hreport)

/-! ### A file with a misleading report -/

/-- One monitor whose name has two lines. -/
def forgedText : String := "[monitors.\"a (enabled, max strikes: default)\\n    b\"]\n"

/-- The settings of that one monitor. -/
def forged : Settings where
  monitors := SortedMap.ofList [("a (enabled, max strikes: default)\n    b", {})]

/-- Settings of two monitors. -/
def honest : Settings where
  monitors := SortedMap.ofList [("a", {}), ("b", {})]

theorem forged_report :
    load (fun _ => .ok forgedText.toUTF8) "memwatch.toml" = .ok forged ∧
      honest.validate = .ok () ∧ forged ≠ honest ∧
      forged.plainReport = honest.plainReport ∧
      (lines forged.plainReport).length = forged.heading.length + 2 ∧
      forged.monitors.keys.length = 1 ∧
      shown "b" {} ∈ lines forged.plainReport ∧ forged.monitor? "b" = none := by
  have hparse : (parse forgedText).toOption = some forged := by decide +kernel
  have hreport : forged.plainReport = honest.plainReport := by decide +kernel
  have hnames : ∀ name ∈ honest.monitors.keys, '\n' ∉ name.toList := by decide +kernel
  have hlines : lines forged.plainReport = honest.sheet := hreport ▸ lines_eq_sheet hnames
  rw [hlines]
  exact ⟨load_eq_ok_of_parse _ hparse rfl, rfl, by decide +kernel, hreport, by decide +kernel,
    by decide +kernel, shown_mem_sheet.2 (by decide +kernel), by decide +kernel⟩

end Settings

end Vigil
