import Mathlib.Data.List.DropRight
import Vigil.Proofs.Settings.Decode
import Vigil.Proofs.Watchdog.Lifetime

/-!
# Settings that were loaded

Settings are loaded from files that describe usable settings, and with such settings a watchdog
runs.

* `Text.trim_eq_empty_iff`: the names of which nothing is left without white space;
* `Described`: the settings that a file describes;
* `Usable`, `validate_eq_ok_iff`: settings that pass their check;
* `load_eq_ok_iff`, `load_eq_error`: which settings are loaded;
* `validate_apply`: they pass the check of a configuration too;
* `loaded_runs`: a watchdog that is configured with them is not refused.
-/

namespace Vigil

/-! ### Blank names -/

namespace Text

theorem trim_eq_empty_iff (s : String) : trim s = "" ↔ allBlank s = true := by
  rw [trim, String.ofList_eq_empty_iff, List.reverse_eq_nil_iff, List.dropWhile_eq_nil_iff]
  simp only [List.mem_reverse]
  rw [← List.dropWhile_eq_nil_iff, List.dropWhile_idempotent, List.dropWhile_eq_nil_iff, allBlank,
    List.all_eq_true]

theorem allBlank_eq_false_iff {name : String} :
    allBlank name = false ↔ ∃ c ∈ name.toList, isBlank c = false := by
  simp [allBlank]

end Text

namespace Settings

/-- The file at a path is text in UTF-8, and the text gives the settings. -/
def Described (read : String → Except IoFault ByteArray) (path : String) (s : Settings) : Prop :=
  ∃ text : String, read path = .ok text.toUTF8 ∧ parse text = .ok s

/-- The loop rests between two passes, and every monitor's name has a character that is not white
space. -/
structure Usable (s : Settings) : Prop where
  sleep : s.watchdog.sleepTimeSeconds ≠ 0
  names : ∀ name ∈ s.monitors.keys, ∃ c ∈ name.toList, Text.isBlank c = false

/-! ### The check -/

/-- A missing rest is reported first. -/
theorem validate_of_sleep_eq_zero {s : Settings} (h : s.watchdog.sleepTimeSeconds = 0) :
    s.validate = .error (.configValidation (.settings .zeroSleepTime)) := by
  rw [validate, problem?, if_pos h]

theorem validate_of_blank {s : Settings} (h : s.watchdog.sleepTimeSeconds ≠ 0) {name : String}
    (hname : name ∈ s.monitors.keys) (hblank : ∀ c ∈ name.toList, Text.isBlank c = true) :
    s.validate = .error (.configValidation (.settings .blankMonitorName)) := by
  have hany : s.monitors.keys.any Text.allBlank = true :=
    List.any_eq_true.2 ⟨name, hname, List.all_eq_true.2 hblank⟩
  rw [validate, problem?, if_neg h, if_pos hany]

theorem Usable.validate {s : Settings} (h : s.Usable) : s.validate = .ok () := by
  have hany : ¬ s.monitors.keys.any Text.allBlank = true := by
    rw [List.any_eq_true]
    rintro ⟨name, hname, hblank⟩
    rw [Text.allBlank_eq_false_iff.2 (h.names name hname)] at hblank
    cases hblank
  rw [Settings.validate, problem?, if_neg h.sleep, if_neg hany]

theorem validate_eq_ok_iff {s : Settings} : s.validate = .ok () ↔ s.Usable := by
  refine ⟨fun h => ⟨fun hsleep => ?_, fun name hname => ?_⟩, Usable.validate⟩
  · rw [validate_of_sleep_eq_zero hsleep] at h
    cases h
  · by_contra hblank
    have hsleep : s.watchdog.sleepTimeSeconds ≠ 0 := fun hsleep => by
      rw [validate_of_sleep_eq_zero hsleep] at h
      cases h
    rw [validate_of_blank hsleep hname (by simpa using hblank)] at h
    cases h

/-! ### Loading -/

theorem textOf_eq_ok_iff {bytes : ByteArray} {text : String} :
    textOf bytes = .ok text ↔ bytes = text.toUTF8 := by
  rw [textOf, String.fromUTF8?]
  constructor
  · intro h
    split at h
    next heq =>
      split at heq
      · cases heq
        cases h
        rfl
      · cases heq
    next => cases h
  · rintro rfl
    rw [dif_pos (show text.toUTF8.IsValidUTF8 from text.isValidUTF8)]
    rfl

theorem mapError_eq_ok_iff {ε ε' α : Type} {x : Except ε α} {f : ε → ε'} {a : α} :
    x.mapError f = .ok a ↔ x = .ok a := by
  cases x <;> simp [Except.mapError]

theorem load_eq_ok_iff {read : String → Except IoFault ByteArray} {path : String} {s : Settings} :
    load read path = .ok s ↔ Described read path s ∧ s.validate = .ok () := by
  simp only [load, ofText, Described, bind_eq_ok_iff, mapError_eq_ok_iff, textOf_eq_ok_iff]
  constructor
  · rintro ⟨text, ⟨_, hread, rfl⟩, s', hparse, _, hvalidate, ⟨⟩⟩
    exact ⟨⟨text, hread, hparse⟩, hvalidate⟩
  · rintro ⟨⟨text, hread, hparse⟩, hvalidate⟩
    exact ⟨text, ⟨_, hread, rfl⟩, s, hparse, (), hvalidate, rfl⟩

theorem load_eq_ok_of_parse {text : String} {s : Settings} (path : String)
    (hparse : (parse text).toOption = some s) (hvalid : s.validate = .ok ()) :
    load (fun _ => .ok text.toUTF8) path = .ok s := by
  have hs : parse text = .ok s := by
    cases hs : parse text <;> simp_all [Except.toOption]
  exact load_eq_ok_iff.2 ⟨⟨text, rfl, hs⟩, hvalid⟩

/-- If settings that a file describes do not pass the check, what it finds is reported. -/
theorem load_eq_error {read : String → Except IoFault ByteArray} {path : String} {s : Settings}
    (h : Described read path s) {fault : Fault} (hfault : s.validate = .error fault) :
    load read path = .error fault := by
  obtain ⟨text, hread, hparse⟩ := h
  have htext : (read path >>= textOf) = .ok text := by
    rw [hread]
    exact textOf_eq_ok_iff.2 rfl
  rw [load, htext]
  change ofText text = _
  rw [ofText, hparse]
  change (do s.validate; return s : Except Fault Settings) = _
  rw [hfault]
  rfl

/-! ### Runs -/

variable {σ : Type}

/-- The two checks agree. -/
theorem validate_apply {s : Settings} (h : s.Usable) (c : Configuration σ) :
    (c.apply s).validate = .ok () := by
  rw [Watchdog.validate_eq_ok_iff]
  intro hzero
  exact h.sleep (congrArg Duration.secs hzero)

/-- **With settings that were loaded a watchdog runs.**

* The settings that are loaded from a path are those that its file describes and that pass the
  check.
* The check passes if and only if the loop rests between two passes and every monitor's name has a
  character that is not white space; a missing rest is reported first.
* A configuration that takes over loaded settings passes its own check, and only its rests are
  changed.
* An idle watchdog with such a configuration is not refused, whatever else it is made of. -/
theorem loaded_runs (read : String → Except IoFault ByteArray) (path : String) (s : Settings) :
    (load read path = .ok s ↔ Described read path s ∧ s.validate = .ok ()) ∧
      (s.validate = .ok () ↔ s.watchdog.sleepTimeSeconds ≠ 0 ∧
        ∀ name ∈ s.monitors.keys, ∃ c ∈ name.toList, Text.isBlank c = false) ∧
      (s.watchdog.sleepTimeSeconds = 0 → Described read path s →
        load read path = .error (.configValidation (.settings .zeroSleepTime))) ∧
      (load read path = .ok s → ∀ c : Configuration σ,
        (c.apply s).validate = .ok () ∧ { c.apply s with sleepTime := c.sleepTime } = c ∧
        ∀ d : Watchdog σ, d.lifecycle = .idle → d.configuration = c.apply s →
          ∀ allowed w fault, (d.run allowed w).result ≠ .returned (.error fault)) := by
  refine ⟨load_eq_ok_iff,
    validate_eq_ok_iff.trans ⟨fun h => ⟨h.sleep, h.names⟩, fun h => ⟨h.1, h.2⟩⟩,
    fun hsleep h => ?_, fun h c => ?_⟩
  · exact load_eq_error h (validate_of_sleep_eq_zero hsleep)
  · have hvalid := validate_apply (validate_eq_ok_iff.1 (load_eq_ok_iff.1 h).2) c
    refine ⟨hvalid, rfl, fun d hd hc allowed w fault hfault => ?_⟩
    rw [← hc] at hvalid
    exact Watchdog.not_ready_of_fault hfault ⟨hvalid, hd⟩

/-- A watchdog without monitors that rests as the settings say. -/
def someWatchdog : Watchdog Unit where
  configuration := Configuration.apply { reporter := fun _ => Call.pure () } someSettings

theorem some_loaded_runs :
    load (fun _ => .ok someText.toUTF8) "memwatch.toml" = .ok someSettings ∧
      (someWatchdog.run 1 ()).result ≠ .returned (.error (.configValidation .zeroSleepTime)) := by
  have hparse : parse someText = .ok someSettings := by
    have h : (parse someText).toOption = some someSettings := by decide +kernel
    cases hs : parse someText <;> simp_all [Except.toOption]
  have hruns := loaded_runs (σ := Unit) (fun _ => .ok someText.toUTF8) "memwatch.toml" someSettings
  have hload := hruns.1.2 ⟨⟨someText, rfl, hparse⟩, rfl⟩
  exact ⟨hload, (hruns.2.2.2 hload _).2.2 someWatchdog rfl rfl 1 () _⟩

end Settings

end Vigil
