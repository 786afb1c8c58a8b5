/-!
# Durations

* `Duration`: whole seconds and billionths of a second;
* `Duration.isZero`, `Duration.seconds`: whether there is any time, and how many seconds.
-/

namespace Vigil

/-- A length of time in whole seconds and billionths of a second, of which there are less than a
billion. -/
structure Duration where
  secs : UInt64
  nanos : Nat := 0
  nanos_lt : nanos < 1000000000 := by decide
  deriving DecidableEq, Repr

namespace Duration

/-- A whole number of seconds. -/
def ofSeconds (secs : UInt64) : Duration := ⟨secs, 0, by decide⟩

instance : Inhabited Duration := ⟨ofSeconds 0⟩

/-- Whether no time passes. -/
def isZero (d : Duration) : Bool := d.secs == 0 && d.nanos == 0

/-- The seconds as a binary64 number, rounded. -/
def seconds (d : Duration) : Float := d.secs.toFloat + d.nanos.toFloat / 1e9

@[simp]
theorem secs_ofSeconds (s : UInt64) : (ofSeconds s).secs = s := rfl

@[simp]
theorem nanos_ofSeconds (s : UInt64) : (ofSeconds s).nanos = 0 := rfl

/-- There is one duration without any time. -/
theorem isZero_iff (d : Duration) : d.isZero = true ↔ d = ofSeconds 0 := by
  obtain ⟨secs, nanos, _⟩ := d
  simp [isZero, ofSeconds]

end Duration

end Vigil
