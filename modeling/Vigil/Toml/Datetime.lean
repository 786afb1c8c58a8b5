/-!
# Dates and times

* `Date`, `Time`, `Offset`, `Datetime`: a date, a time, both, or both with an offset from UTC;
* `daysInMonth`: the calendar;
* `Datetime.text`: the written form, with as many places of the second as are needed.
-/

namespace Vigil.Toml

/-- A day of the calendar.  The year goes up to 9999; month and day begin with 1. -/
structure Date where
  year : Nat
  month : Nat
  day : Nat
  deriving DecidableEq, Repr

/-- A time of day, up to billionths of a second.  The second may be 60, for a leap second. -/
structure Time where
  hour : Nat
  minute : Nat
  second : Nat
  nanosecond : Nat
  deriving DecidableEq, Repr

/-- A distance from UTC. -/
inductive Offset where
  | utc
  | minutes (m : Int)
  deriving DecidableEq, Repr

/-- A date, a time of day, or a date with a time and perhaps the distance from UTC. -/
structure Datetime where
  date : Option Date
  time : Option Time
  offset : Option Offset
  deriving DecidableEq, Repr

/-- How many days a month of a year has in the Gregorian calendar. -/
def daysInMonth (year month : Nat) : Nat :=
  if month = 2 then
    if year % 4 = 0 ∧ (year % 100 ≠ 0 ∨ year % 400 = 0) then 29 else 28
  else if month = 4 ∨ month = 6 ∨ month = 9 ∨ month = 11 then 30
  else 31

/-- A number with zeros in front, to a given width. -/
def padded (width n : Nat) : List Char :=
  let digits := Nat.toDigits 10 n
  List.replicate (width - digits.length) '0' ++ digits

/-- The day as year, month and day. -/
def Date.chars (d : Date) : List Char :=
  padded 4 d.year ++ '-' :: padded 2 d.month ++ '-' :: padded 2 d.day

/-- The places of the second behind the point, without zeros at the end. -/
def Time.fraction (t : Time) : List Char :=
  if t.nanosecond = 0 then []
  else '.' :: ((padded 9 t.nanosecond).reverse.dropWhile (· == '0')).reverse

/-- The time as hour, minute and second. -/
def Time.chars (t : Time) : List Char :=
  padded 2 t.hour ++ ':' :: padded 2 t.minute ++ ':' :: padded 2 t.second ++ t.fraction

/-- The offset as a letter or as signed hours and minutes. -/
def Offset.chars : Offset → List Char
  | utc => ['Z']
  | minutes m =>
    (if m < 0 then '-' else '+') :: padded 2 (m.natAbs / 60) ++ ':' :: padded 2 (m.natAbs % 60)

/-- The written form. -/
def Datetime.text (d : Datetime) : String :=
  let date := (d.date.map Date.chars).getD []
  let gap := if d.date.isSome && d.time.isSome then ['T'] else []
  let time := (d.time.map Time.chars).getD []
  let offset := (d.offset.map Offset.chars).getD []
  String.ofList (date ++ gap ++ time ++ offset)

end Vigil.Toml
