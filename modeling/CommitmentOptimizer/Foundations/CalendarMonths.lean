import CommitmentOptimizer.Foundations.CalendarDates
import Mathlib.Data.List.Range
import Mathlib.Data.List.Nodup

/-!
# Calendar months

A month is numbered by twelve times its year and its place in the year.
-/

namespace CommitmentOptimizer.Foundations.CalendarMonths

open CalendarDates

set_option autoImplicit false

def monthNumber (year month : Int) : Int := year * 12 + (month - 1)

/-- The number of the month that a day is in. -/
def monthOfDay (day : Int) : Int := monthNumber (civilOfDay day).1 (civilOfDay day).2.1

/-- The day number of a month's first day. -/
def firstDay (number : Int) : Int :=
  let month := number % 12 + 1
  let marchYear := if month ≤ 2 then number / 12 - 1 else number / 12
  let monthIndex := if month ≤ 2 then month + 9 else month - 3
  let yearOfEra := marchYear % 400
  let dayOfEra :=
    365 * yearOfEra + yearOfEra / 4 - yearOfEra / 100 + (153 * monthIndex + 2) / 5
  marchYear / 400 * 146097 + dayOfEra - 719468

/-- A day of the first eleven months lies in the year of the era that it was counted in. -/
theorem year_of_era {yearOfEra dayOfYear dayOfEra : Int} (yearLow : 0 ≤ yearOfEra)
    (yearHigh : yearOfEra < 400) (dayLow : 0 ≤ dayOfYear) (dayHigh : dayOfYear ≤ 337)
    (isDay : dayOfEra = 365 * yearOfEra + yearOfEra / 4 - yearOfEra / 100 + dayOfYear) :
    (dayOfEra - dayOfEra / 1460 + dayOfEra / 36524 - dayOfEra / 146096) / 365 = yearOfEra := by
  have century : yearOfEra / 100 = 0 ∨ yearOfEra / 100 = 1 ∨ yearOfEra / 100 = 2 ∨
      yearOfEra / 100 = 3 := by omega
  have lastDay : dayOfEra / 146096 = 0 := by omega
  rcases century with first | second | third | fourth
  · have none : dayOfEra / 36524 = 0 := by omega
    omega
  · have one : dayOfEra / 36524 = 1 := by omega
    omega
  · have two : dayOfEra / 36524 = 2 := by omega
    omega
  · have three : dayOfEra / 36524 = 3 := by omega
    omega

theorem civil_of_first_day (number : Int) :
    civilOfDay (firstDay number) = (number / 12, number % 12 + 1, 1) := by
  obtain ⟨month, isMonth⟩ : ∃ month, number % 12 + 1 = month := ⟨_, rfl⟩
  obtain ⟨marchYear, isMarchYear⟩ : ∃ marchYear,
    (if month ≤ 2 then number / 12 - 1 else number / 12) = marchYear := ⟨_, rfl⟩
  obtain ⟨monthIndex, isIndex⟩ : ∃ monthIndex,
    (if month ≤ 2 then month + 9 else month - 3) = monthIndex := ⟨_, rfl⟩
  have monthLow : 1 ≤ month := by omega
  have monthHigh : month ≤ 12 := by omega
  have indexLow : 0 ≤ monthIndex := by split_ifs at isIndex <;> omega
  have indexHigh : monthIndex ≤ 11 := by split_ifs at isIndex <;> omega
  obtain ⟨dayOfYear, isDayOfYear⟩ : ∃ dayOfYear, dayOfYear = (153 * monthIndex + 2) / 5 :=
    ⟨_, rfl⟩
  obtain ⟨yearOfEra, isYear⟩ : ∃ yearOfEra, yearOfEra = marchYear % 400 := ⟨_, rfl⟩
  obtain ⟨dayOfEra, isDay⟩ : ∃ dayOfEra,
    dayOfEra = 365 * yearOfEra + yearOfEra / 4 - yearOfEra / 100 + dayOfYear := ⟨_, rfl⟩
  have dayLow : 0 ≤ dayOfEra := by omega
  have dayHigh : dayOfEra < 146097 := by omega
  have year := year_of_era (by omega) (by omega) (by omega) (by omega) isDay
  have shifted : firstDay number + 719468 = marchYear / 400 * 146097 + dayOfEra := by
    simp only [firstDay, isMonth, isMarchYear, isIndex, ← isDayOfYear, ← isYear, ← isDay]
    omega
  have era : (firstDay number + 719468) / 146097 = marchYear / 400 := by omega
  have inEra : (firstDay number + 719468) % 146097 = dayOfEra := by omega
  have inYear : dayOfEra - (365 * yearOfEra + yearOfEra / 4 - yearOfEra / 100) = dayOfYear := by
    omega
  have index : (5 * dayOfYear + 2) / 153 = monthIndex := by omega
  simp only [civilOfDay, era, inEra, year, inYear, index]
  have sameMonth : (if monthIndex < 10 then monthIndex + 3 else monthIndex - 9) = month := by
    split_ifs at isIndex ⊢ <;> omega
  rw [sameMonth, isMonth]
  refine Prod.ext ?_ (Prod.ext rfl ?_)
  · dsimp only
    split_ifs at isMarchYear ⊢ <;> omega
  · dsimp only
    omega

theorem month_of_first_day (number : Int) : monthOfDay (firstDay number) = number := by
  simp only [monthOfDay, civil_of_first_day, monthNumber]
  omega

section Ranges

/-- So many months that follow one another. -/
def monthsFrom (first : Int) (count : Nat) : List Int :=
  (List.range count).map fun index : Nat => first + (index : Int)

theorem mem_months_from {first number : Int} {count : Nat} :
    number ∈ monthsFrom first count ↔ first ≤ number ∧ number < first + count := by
  simp only [monthsFrom, List.mem_map, List.mem_range]
  constructor
  · rintro ⟨index, below, rfl⟩
    omega
  · intro bounds
    exact ⟨(number - first).toNat, by omega, by omega⟩

theorem months_from_increasing (first : Int) (count : Nat) :
    (monthsFrom first count).Pairwise (· < ·) := by
  rw [monthsFrom, List.pairwise_map]
  exact List.pairwise_lt_range.imp fun before => by omega

end Ranges

end CommitmentOptimizer.Foundations.CalendarMonths
