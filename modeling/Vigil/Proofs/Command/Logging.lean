import Vigil.Command.Run
import Vigil.Proofs.Command.Arguments
import Vigil.Proofs.Settings.Load
import Vigil.Proofs.Settings.Report

/-!
# What a check prints under the options for records

The journal and the report of a check are printed in one place.  Records are written before the
report, and there is one if `--verbose` was given and the settings could be read.

* `run_of_error`, `run_of_ok`: what a check prints;
* `loadedLine_ne_empty`, `loadedLine_json_ne_text`: the record is seen, and in which form;
* `journal_eq_iff`: which options make a difference;
* `check_under_options`: what the options change, and that they can be given.
-/

namespace Vigil.Command

open Json (Document)

variable {env : Environment} {words : List String} {i : Invocation} {json : Bool} {s : Settings}

/-- What a check reports of settings. -/
def report (s : Settings) (json : Bool) : String := if json then s.jsonReport else s.plainReport

/-- What is written to the journal when settings were read and no filter is set. -/
def journal (env : Environment) (i : Invocation) : String :=
  if i.verbose then loadedLine i.logJson env.now i.config else ""

/-! ### One command line -/

theorem enables_loaded (verbose : Bool) (path : String) :
    (currentFilter none verbose).enables (loaded path) = verbose := by
  cases verbose <;> rfl

theorem run_of_error (hwords : parse words = .ok i) (htask : i.task = .check json) {f : Fault}
    (hload : Settings.load env.read i.config = .error f) :
    run env words = { failure := some (.fault f) } := by
  simp only [run, hwords, htask, check, hload]

theorem run_of_ok (hfilter : env.filter = none) (hwords : parse words = .ok i)
    (htask : i.task = .check json) (hload : Settings.load env.read i.config = .ok s) :
    run env words = { stdout := journal env i ++ report s json } := by
  simp only [run, hwords, htask, check, hload, hfilter, enables_loaded]
  rfl

/-! ### The record -/

theorem one_le_length_escape (c : Char) : 1 ≤ (Json.escape c).length := by
  unfold Json.escape
  split
  case h_8 => split <;> simp
  all_goals simp

theorem length_add_two_le_length_quote (t : String) :
    t.toList.length + 2 ≤ (Json.quote t).length := by
  have h (cs : List Char) : cs.length ≤ (cs.flatMap Json.escape).length := by
    induction cs with
    | nil => simp
    | cons c cs ih =>
      have := one_le_length_escape c
      simp only [List.flatMap_cons, List.length_cons, List.length_append]
      omega
  have := h t.toList
  simp only [Json.quote, List.length_cons, List.length_append, List.length_nil]
  omega

theorem loadedLine_ne_empty (json : Bool) (now path : String) : loadedLine json now path ≠ "" := by
  intro h
  have h := congrArg String.toList h
  cases json <;> simp [loadedLine] at h

/-- The two forms of the record differ: in JSON there are more characters. -/
theorem loadedLine_json_ne_text (now path : String) :
    loadedLine true now path ≠ loadedLine false now path := by
  intro h
  have h := congrArg (fun t => t.toList.length) h
  have hnow := length_add_two_le_length_quote now
  have hpath := length_add_two_le_length_quote path
  have hmessage : (Json.quote "memwatch: settings loaded").length = 27 := rfl
  have htimestamp : (Json.quote "timestamp").length = 11 := rfl
  simp only [loadedLine, loaded, Json.compact, Json.compactChars, Json.compactFields, Json.atom,
    String.toList_append, String.toList_ofList, List.length_append, List.length_cons,
    if_true, Bool.false_eq_true, if_false] at h
  have htext : " DEBUG ".toList.length + "memwatch".toList.length + ": ".toList.length +
    "memwatch: settings loaded".toList.length + " path=".toList.length = 48 := rfl
  omega

/-! ### Command lines that differ in the options for records -/

/-- For one file the journal is the same just if both invocations ask for it in the same form, or
neither does. -/
theorem journal_eq_iff {i' : Invocation} (hconfig : i'.config = i.config) :
    journal env i' = journal env i ↔
      i'.verbose = i.verbose ∧ (i.verbose = true → i'.logJson = i.logJson) := by
  have hempty (json : Bool) : loadedLine json env.now i.config ≠ "" :=
    loadedLine_ne_empty json env.now i.config
  have hforms := loadedLine_json_ne_text env.now i.config
  rw [journal, journal, hconfig]
  cases i.verbose <;> cases i'.verbose
  · simp
  · simp [hempty]
  · simp [(hempty _).symm]
  · cases i.logJson <;> cases i'.logJson <;> simp [hforms, hforms.symm]

/-- **What the options for records do to a check.**  Without a filter in the environment a check
that fails prints nothing but the error, and one that succeeds prints the report, behind the record
that settings were read if `--verbose` was given; in JSON and without that option this is one
document.  Command lines for the same check fail alike, and print the same just if the check fails
or they agree in `--verbose` and, if it is given, in `--log-json`.  Both options can be added. -/
theorem check_under_options (hfilter : env.filter = none) (hwords : parse words = .ok i)
    (htask : i.task = .check json) :
    (∀ f, Settings.load env.read i.config = .error f →
      (run env words).stdout = "" ∧ (run env words).code = 1 ∧
        (run env words).stderr = "Error: " ++ f.message ++ "\n") ∧
    (∀ s, Settings.load env.read i.config = .ok s →
      (run env words).stdout = journal env i ++ report s json ∧ (run env words).code = 0 ∧
        (run env words).stderr = "" ∧
        (json = true → i.verbose = false → Document s.toJson (run env words).stdout.toList)) ∧
    (∀ words' i', parse words' = .ok i' → i'.config = i.config → i'.task = i.task →
      (run env words').code = (run env words).code ∧
      (run env words').stderr = (run env words).stderr ∧
      ((run env words').stdout = (run env words).stdout ↔
        (∃ f, Settings.load env.read i.config = .error f) ∨
          i'.verbose = i.verbose ∧ (i.verbose = true → i'.logJson = i.logJson))) ∧
    (i.verbose = false → parse ("--verbose" :: words) = .ok { i with verbose := true }) ∧
    (i.logJson = false → parse ("--log-json" :: words) = .ok { i with logJson := true }) := by
  refine ⟨fun f hload => ?_, fun s hload => ?_, fun words' i' hwords' hconfig htask' => ?_,
    parse_verbose hwords, parse_logJson hwords⟩
  · rw [run_of_error hwords htask hload]
    exact ⟨rfl, rfl, rfl⟩
  · rw [run_of_ok hfilter hwords htask hload]
    refine ⟨rfl, rfl, rfl, fun hjson hverbose => ?_⟩
    rw [journal, hverbose, report, hjson]
    simpa using s.jsonReport_document
  · have htask' := htask'.trans htask
    cases hload : Settings.load env.read i.config with
    | error f =>
      rw [run_of_error hwords htask hload, run_of_error hwords' htask' (hconfig ▸ hload)]
      exact ⟨rfl, rfl, iff_of_true rfl (.inl ⟨f, rfl⟩)⟩
    | ok s =>
      rw [run_of_ok hfilter hwords htask hload,
        run_of_ok hfilter hwords' htask' (hconfig ▸ hload)]
      refine ⟨rfl, rfl, ?_⟩
      rw [String.append_left_inj, journal_eq_iff hconfig]
      exact ⟨.inr, fun h => h.resolve_left nofun⟩

/-- An environment in which all files are empty. -/
def emptyFiles : Environment where
  read _ := .ok "".toUTF8
  filter := none
  now := "2025-01-01T00:00:00.000000Z"

theorem load_emptyFiles (path : String) : Settings.load emptyFiles.read path = .ok {} := by
  have hparse : Settings.parse "" = .ok {} := by
    have h : (Settings.parse "").toOption = some {} := by decide +kernel
    cases hs : Settings.parse "" <;> simp_all [Except.toOption]
  exact Settings.load_eq_ok_iff.2 ⟨⟨"", rfl, hparse⟩, rfl⟩

theorem emptyFiles_under_options :
    parse ["-c", "a.toml", "check"] = .ok { config := "a.toml", task := .check false } ∧
    (run emptyFiles ["--log-json", "-c", "a.toml", "check"]).stdout =
      (run emptyFiles ["-c", "a.toml", "check"]).stdout := by
  have hwords : parse ["-c", "a.toml", "check"] =
    .ok { config := "a.toml", task := .check false } := rfl
  obtain ⟨-, -, hsame, -, hlogJson⟩ :=
    check_under_options (show emptyFiles.filter = none from rfl) hwords rfl
  exact ⟨hwords, (hsame _ _ (hlogJson rfl) rfl rfl).2.2.2 (.inr ⟨rfl, nofun⟩)⟩

/-- The report in JSON is not alone on the standard output if `--verbose` is added. -/
theorem verbose_precedes_report :
    parse ["check", "--json"] = .ok { task := .check true } ∧
    parse ["--verbose", "check", "--json"] = .ok { verbose := true, task := .check true } ∧
    (run emptyFiles ["--verbose", "check", "--json"]).stdout ≠
      (run emptyFiles ["check", "--json"]).stdout := by
  have hplain : run emptyFiles ["check", "--json"] =
      { stdout := journal emptyFiles { task := .check true } ++ report {} true } :=
    run_of_ok rfl rfl rfl (load_emptyFiles _)
  have hverbose : run emptyFiles ["--verbose", "check", "--json"] =
      { stdout := journal emptyFiles { verbose := true, task := .check true } ++ report {} true } :=
    run_of_ok rfl rfl rfl (load_emptyFiles _)
  refine ⟨rfl, rfl, fun h => ?_⟩
  rw [hplain, hverbose, String.append_left_inj] at h
  exact loadedLine_ne_empty false _ _ h

end Vigil.Command
