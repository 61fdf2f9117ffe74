import CommitmentOptimizer.Foundations.DateTexts
import CommitmentOptimizer.Foundations.Json
import CommitmentOptimizer.Foundations.SqlConstraints

/-!
# Parameters that a statement casts

What `::date` and `::jsonb` accept of the texts that a program sends.
-/

namespace CommitmentOptimizer.Foundations.ColumnCasts

open CalendarDates
open DateTexts
open IsoInstants
open SqlConstraints
open Timestamps

set_option autoImplicit false

section Dates

/-- `$1::date` of a text `YYYY-MM-DD`. There is no year 0, and the day must be one of the
calendar. -/
def dateColumn (text : List Char) : Except DbError Int :=
  let day := dayOfText text
  if (dateParts text).1 = 0 ∨ civilOfDay day ≠ dateParts text then
    .error ⟨"22008", "date/time field value out of range"⟩
  else .ok day

/-- The cast of a parameter that may be `NULL`. -/
def nullableColumn {Value Column : Type} (cast : Value → Except DbError Column) :
    Option Value → Except DbError (Option Column)
  | none => .ok none
  | some value => (cast value).map some

theorem date_column_ok {text : List Char} {day : Int} (cast : dateColumn text = .ok day) :
    (dateParts text).1 ≠ 0 ∧ civilOfDay day = dateParts text := by
  unfold dateColumn at cast
  dsimp only at cast
  split_ifs at cast with outside
  obtain rfl := Except.ok.inj cast
  rw [not_or, not_not] at outside
  exact outside

theorem iso_date_column {time : Int} {text : List Char} (form : isDateForm text = true)
    (begins : (toIsoString time).toList.take 10 = text) :
    (∃ day, dateColumn text = .ok day) ↔ (dateParts text).1 ≠ 0 := by
  refine ⟨fun ⟨day, cast⟩ => (date_column_ok cast).1, fun year => ⟨time / 86400000, ?_⟩⟩
  have civil := iso_date_parts form begins
  obtain ⟨_, _, _, parts, number, -⟩ := day_of_civil_of_day (time / 86400000)
  have day : dayOfText text = time / 86400000 := by
    rw [dayOfText, ← civil, parts]
    exact number
  rw [dateColumn, day]
  exact if_neg (by rw [civil, not_or, not_not]; exact ⟨year, rfl⟩)

end Dates

section JsonValues

mutual

/-- U+0000 occurs in a string or in a key. -/
def holdsNul : Json → Bool
  | .null | .bool _ | .number _ => false
  | .string text => text.toList.contains '\x00'
  | .array items => itemsHoldNul items
  | .object fields => fieldsHoldNul fields

def itemsHoldNul : List Json → Bool
  | [] => false
  | item :: rest => holdsNul item || itemsHoldNul rest

def fieldsHoldNul : List (String × Json) → Bool
  | [] => false
  | (name, value) :: rest =>
      name.toList.contains '\x00' || holdsNul value || fieldsHoldNul rest

end

/-- `$1::jsonb` of the text of a value. -/
def jsonbColumn (value : Json) : Except DbError Json :=
  if holdsNul value then .error ⟨"22P05", "unsupported Unicode escape sequence"⟩ else .ok value

theorem jsonb_column_ok {value column : Json} :
    jsonbColumn value = .ok column ↔ holdsNul value = false ∧ column = value := by
  unfold jsonbColumn
  cases holdsNul value <;> simp [eq_comm]

end JsonValues

end CommitmentOptimizer.Foundations.ColumnCasts
