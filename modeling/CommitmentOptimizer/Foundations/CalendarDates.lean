import Mathlib.Data.Int.Notation

/-!
# Calendar dates

Day numbers count from 1970-01-01 in the proleptic Gregorian calendar.
-/

namespace CommitmentOptimizer.Foundations.CalendarDates

set_option autoImplicit false

/-- The year, month and day of a day number. The year of the computation begins in
March, so that a leap day is its last day. -/
def civilOfDay (day : Int) : Int × Int × Int :=
  let shifted := day + 719468
  let era := shifted / 146097
  let dayOfEra := shifted % 146097
  let yearOfEra := (dayOfEra - dayOfEra / 1460 + dayOfEra / 36524 - dayOfEra / 146096) / 365
  let dayOfYear := dayOfEra - (365 * yearOfEra + yearOfEra / 4 - yearOfEra / 100)
  let monthIndex := (5 * dayOfYear + 2) / 153
  let month := if monthIndex < 10 then monthIndex + 3 else monthIndex - 9
  let year := yearOfEra + era * 400 + if month ≤ 2 then 1 else 0
  (year, month, dayOfYear - (153 * monthIndex + 2) / 5 + 1)

/-- Leading zeros up to `width` characters. -/
def padZeros (width : Nat) (text : String) : String :=
  String.ofList (List.replicate (width - text.length) '0') ++ text

/-- `YYYY-MM-DD`. -/
def dateText (day : Int) : String :=
  let (year, month, dayOfMonth) := civilOfDay day
  padZeros 4 (toString year) ++ "-" ++ padZeros 2 (toString month) ++ "-" ++
    padZeros 2 (toString dayOfMonth)

example : dateText 19782 = "2024-02-29" := by decide

end CommitmentOptimizer.Foundations.CalendarDates
