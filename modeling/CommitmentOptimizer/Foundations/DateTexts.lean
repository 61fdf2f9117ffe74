import Mathlib.Algebra.Order.Group.Int
import CommitmentOptimizer.Foundations.Timestamps

/-!
# Dates as text

The days that ten characters `YYYY-MM-DD` name, and their order, which is that of the
texts.
-/

namespace CommitmentOptimizer.Foundations.DateTexts

open BigIntText
open CalendarDates
open IsoInstants
open Timestamps

set_option autoImplicit false

/-- `^[0-9]{4}-(?:0[1-9]|1[0-2])-[0-3][0-9]$`. -/
def isDateForm (text : List Char) : Bool :=
  isMonth (text.take 7) &&
    match text.drop 7 with
    | [dash, tens, ones] => dash = '-' && tens.isDigit && tens ≤ '3' && ones.isDigit
    | _ => false

/-- The year, the month and the day that such a text names. -/
def dateParts (text : List Char) : Int × Int × Int :=
  (digitsValue (text.take 4), digitsValue ((text.drop 5).take 2), digitsValue (text.drop 8))

def dayOfText (text : List Char) : Int :=
  let (year, month, day) := dateParts text
  dayOfCivil year month day

section Calendar

/-- The era's March year and the day in it, before they are moved to January. -/
def marchDate (day : Int) : Int × Int :=
  let dayOfEra := (day + 719468) % 146097
  let yearOfEra := (dayOfEra - dayOfEra / 1460 + dayOfEra / 36524 - dayOfEra / 146096) / 365
  ((day + 719468) / 146097 * 400 + yearOfEra,
    dayOfEra - (365 * yearOfEra + yearOfEra / 4 - yearOfEra / 100))

theorem march_date_bounds (day : Int) : 0 ≤ (marchDate day).2 ∧ (marchDate day).2 ≤ 365 := by
  obtain ⟨_, _, low, high⟩ := @year_of_era_bounds ((day + 719468) % 146097) _ (by omega) (by omega) rfl
  exact ⟨low, high⟩

theorem civil_of_march_date (day : Int) :
    civilOfDay day =
      let (year, dayOfYear) := marchDate day
      let monthIndex := (5 * dayOfYear + 2) / 153
      let month := if monthIndex < 10 then monthIndex + 3 else monthIndex - 9
      (year + if month ≤ 2 then 1 else 0, month, dayOfYear - (153 * monthIndex + 2) / 5 + 1) := by
  simp only [civilOfDay, marchDate, Prod.mk.injEq, and_true]
  omega

/-- One date is before another. -/
def Earlier (left right : Int × Int × Int) : Prop :=
  left.1 < right.1 ∨ left.1 = right.1 ∧
    (left.2.1 < right.2.1 ∨ left.2.1 = right.2.1 ∧ left.2.2 < right.2.2)

/-- The years of one era follow one another as its days do. -/
theorem year_of_era_mono {left right : Int} (low : 0 ≤ left) (before : left ≤ right)
    (high : right < 146097) :
    (left - left / 1460 + left / 36524 - left / 146096) / 365 ≤
      (right - right / 1460 + right / 36524 - right / 146096) / 365 := by
  apply Int.ediv_le_ediv (by decide)
  have leaps : right / 1460 ≤ left / 1460 + (right - left) := by omega
  have centuries : left / 36524 ≤ right / 36524 := by omega
  have last : right / 146096 = 0 ∨ right = 146096 := by omega
  rcases last with era | rfl
  · have begins : left / 146096 = 0 := by omega
    omega
  · have ends : left / 146096 = 0 ∧ left / 36524 ≤ 3 ∨ left = 146096 := by omega
    rcases ends with ⟨first, third⟩ | rfl
    · omega
    · exact le_refl _

theorem march_date_earlier {left right : Int} (before : left < right) :
    (marchDate left).1 < (marchDate right).1 ∨
      (marchDate left).1 = (marchDate right).1 ∧ (marchDate left).2 < (marchDate right).2 := by
  obtain ⟨leftDay, isLeftDay⟩ : ∃ dayOfEra, dayOfEra = (left + 719468) % 146097 := ⟨_, rfl⟩
  obtain ⟨rightDay, isRightDay⟩ : ∃ dayOfEra, dayOfEra = (right + 719468) % 146097 := ⟨_, rfl⟩
  obtain ⟨leftYear, isLeftYear⟩ : ∃ yearOfEra, yearOfEra =
      (leftDay - leftDay / 1460 + leftDay / 36524 - leftDay / 146096) / 365 := ⟨_, rfl⟩
  obtain ⟨rightYear, isRightYear⟩ : ∃ yearOfEra, yearOfEra =
      (rightDay - rightDay / 1460 + rightDay / 36524 - rightDay / 146096) / 365 := ⟨_, rfl⟩
  simp only [marchDate, ← isLeftDay, ← isRightDay, ← isLeftYear, ← isRightYear]
  have leftBounds : 0 ≤ leftDay ∧ leftDay < 146097 := by
    clear isLeftYear isRightYear
    omega
  have rightBounds : 0 ≤ rightDay ∧ rightDay < 146097 := by
    clear isLeftYear isRightYear
    omega
  obtain ⟨leftLow, leftHigh, -⟩ := year_of_era_bounds leftBounds.1 leftBounds.2 isLeftYear
  obtain ⟨rightLow, rightHigh, -⟩ := year_of_era_bounds rightBounds.1 rightBounds.2 isRightYear
  have years (days : leftDay < rightDay) : leftYear ≤ rightYear := by
    rw [isLeftYear, isRightYear]
    exact year_of_era_mono leftBounds.1 days.le rightBounds.2
  clear isLeftYear isRightYear
  have eras : (left + 719468) / 146097 < (right + 719468) / 146097 ∨
      (left + 719468) / 146097 = (right + 719468) / 146097 ∧ leftDay < rightDay := by omega
  rcases eras with earlier | ⟨same, days⟩
  · omega
  · rw [same]
    rcases Int.lt_or_eq_of_le (years days) with less | equal
    · exact Or.inl (by omega)
    · rw [equal]
      exact Or.inr ⟨rfl, by omega⟩

theorem civil_of_day_earlier {left right : Int} (before : left < right) :
    Earlier (civilOfDay left) (civilOfDay right) := by
  have march := march_date_earlier before
  obtain ⟨leftLow, leftHigh⟩ := march_date_bounds left
  obtain ⟨rightLow, rightHigh⟩ := march_date_bounds right
  rw [civil_of_march_date, civil_of_march_date]
  generalize marchDate left = leftDate at march leftLow leftHigh ⊢
  generalize marchDate right = rightDate at march rightLow rightHigh ⊢
  obtain ⟨leftYear, leftDay⟩ := leftDate
  obtain ⟨rightYear, rightDay⟩ := rightDate
  dsimp only at march leftLow leftHigh rightLow rightHigh ⊢
  obtain ⟨leftIndex, isLeft⟩ : ∃ index, index = (5 * leftDay + 2) / 153 := ⟨_, rfl⟩
  obtain ⟨rightIndex, isRight⟩ : ∃ index, index = (5 * rightDay + 2) / 153 := ⟨_, rfl⟩
  rw [← isLeft, ← isRight, Earlier]
  dsimp only
  split_ifs <;> omega

end Calendar

section Order

theorem digits_lt_of_value {left right : List Char}
    (leftDigits : ∀ character ∈ left, character.isDigit = true)
    (rightDigits : ∀ character ∈ right, character.isDigit = true)
    (sameLength : left.length = right.length) (less : digitsValue left < digitsValue right)
    (leftRest rightRest : List Char) : left ++ leftRest < right ++ rightRest := by
  induction left using List.reverseRecOn generalizing right leftRest rightRest with
  | nil =>
      obtain rfl := List.length_eq_zero_iff.mp sameLength.symm
      exact absurd less (lt_irrefl _)
  | append_singleton left last induction =>
      obtain ⟨right, final, rfl⟩ : ∃ initial final, right = initial ++ [final] := by
        rcases List.eq_nil_or_concat' right with rfl | split
        · simp at sameLength
        · exact split
      have lastBounds := digit_bounds (leftDigits last (by simp))
      have finalBounds := digit_bounds (rightDigits final (by simp))
      have leftEach : ∀ character ∈ left, character.isDigit = true :=
        fun character member => leftDigits character (List.mem_append_left _ member)
      have rightEach : ∀ character ∈ right, character.isDigit = true :=
        fun character member => rightDigits character (List.mem_append_left _ member)
      have lengths : left.length = right.length := by simpa using sameLength
      rw [digits_value_append_singleton, digits_value_append_singleton] at less
      rw [List.append_assoc, List.append_assoc]
      rcases Nat.lt_trichotomy (digitsValue left) (digitsValue right) with before | same | after
      · exact induction leftEach rightEach lengths before _ _
      · rw [digits_value_injective leftEach rightEach lengths same]
        apply List.append_left_lt
        have smaller : last < final := Char.lt_def.mpr (UInt32.lt_iff_toNat_lt.mpr (by
          have leftNat : last.val.toNat = last.toNat := rfl
          have rightNat : final.val.toNat = final.toNat := rfl
          omega))
        exact List.cons_lt_cons_iff.mpr (Or.inl smaller)
      · omega

theorem is_date_form_parts {text : List Char} (form : isDateForm text = true) :
    ∃ year month day, text = year ++ '-' :: (month ++ '-' :: day) ∧ year.length = 4 ∧
      month.length = 2 ∧ day.length = 2 ∧ (∀ character ∈ year, character.isDigit = true) ∧
      (∀ character ∈ month, character.isDigit = true) ∧
      ∀ character ∈ day, character.isDigit = true := by
  simp only [isDateForm, Bool.and_eq_true] at form
  obtain ⟨isMonthText, rest⟩ := form
  obtain ⟨year, month, isText, yearFour, monthTwo, yearDigits, monthDigits⟩ :=
    is_month_parts isMonthText
  split at rest
  case h_1 dash tens ones isRest =>
    simp only [Bool.and_eq_true, decide_eq_true_eq] at rest
    obtain ⟨⟨⟨rfl, tensDigit⟩, _⟩, onesDigit⟩ := rest
    refine ⟨year, month, [tens, ones], ?_, yearFour, monthTwo, rfl, yearDigits, monthDigits, ?_⟩
    · rw [← List.take_append_drop 7 text, isText, isRest, List.append_assoc, List.cons_append]
    · simp [tensDigit, onesDigit]
  case h_2 => cases rest

theorem date_parts_append {year month day : List Char} (yearFour : year.length = 4)
    (monthTwo : month.length = 2) :
    dateParts (year ++ '-' :: (month ++ '-' :: day)) =
      ((digitsValue year : Int), (digitsValue month : Int), (digitsValue day : Int)) := by
  match year, yearFour, month, monthTwo with
  | [_, _, _, _], _, [_, _], _ => rfl

/-- Texts compare as the dates that they name. -/
theorem date_text_lt {left right : List Char} (leftForm : isDateForm left = true)
    (rightForm : isDateForm right = true) (earlier : Earlier (dateParts left) (dateParts right)) :
    left < right := by
  obtain ⟨leftYear, leftMonth, leftDay, rfl, leftFour, leftTwo, leftLast, leftYears, leftMonths,
    leftDays⟩ := is_date_form_parts leftForm
  obtain ⟨rightYear, rightMonth, rightDay, rfl, rightFour, rightTwo, rightLast, rightYears,
    rightMonths, rightDays⟩ := is_date_form_parts rightForm
  rw [date_parts_append leftFour leftTwo, date_parts_append rightFour rightTwo] at earlier
  simp only [Earlier, Int.ofNat_lt, Int.natCast_inj] at earlier
  rcases earlier with years | ⟨sameYear, months | ⟨sameMonth, days⟩⟩
  · exact digits_lt_of_value leftYears rightYears (leftFour.trans rightFour.symm) years _ _
  · rw [digits_value_injective leftYears rightYears (leftFour.trans rightFour.symm) sameYear]
    apply List.append_left_lt
    refine List.cons_lt_cons_iff.mpr (Or.inr ⟨rfl, ?_⟩)
    exact digits_lt_of_value leftMonths rightMonths (leftTwo.trans rightTwo.symm) months _ _
  · rw [digits_value_injective leftYears rightYears (leftFour.trans rightFour.symm) sameYear,
      digits_value_injective leftMonths rightMonths (leftTwo.trans rightTwo.symm) sameMonth]
    apply List.append_left_lt
    refine List.cons_lt_cons_iff.mpr (Or.inr ⟨rfl, ?_⟩)
    apply List.append_left_lt
    refine List.cons_lt_cons_iff.mpr (Or.inr ⟨rfl, ?_⟩)
    have last := digits_lt_of_value leftDays rightDays (leftLast.trans rightLast.symm) days [] []
    rwa [List.append_nil, List.append_nil] at last

end Order

section IsoDates

/-- A text of this form that begins an instant's text is the date of the instant. -/
theorem iso_date_parts {time : Int} {text : List Char} (form : isDateForm text = true)
    (begins : (toIsoString time).toList.take 10 = text) :
    civilOfDay (time / 86400000) = dateParts text := by
  obtain ⟨year, month, day, civil, -, monthLow, monthHigh, dayLow, dayHigh, -⟩ :=
    day_of_civil_of_day (time / 86400000)
  obtain ⟨years, months, days, rfl, four, two, last, yearDigits, -, -⟩ := is_date_form_parts form
  obtain ⟨monthText, isMonth, monthTwo, -, monthValue⟩ :=
    @padded_digits 2 month (by decide) (by omega) (by omega)
  obtain ⟨dayText, isDay, dayTwo, -, dayValue⟩ :=
    @padded_digits 2 day (by decide) (by omega) (by omega)
  have dash : "-".toList = ['-'] := rfl
  have letterT : "T".toList = ['T'] := rfl
  obtain ⟨rest, iso⟩ : ∃ rest, (toIsoString time).toList = (isoYear year).toList ++
      '-' :: (monthText ++ '-' :: (dayText ++ rest)) := by
    simp only [toIsoString, civil, String.toList_append, isMonth, isDay, dash, List.append_assoc,
      List.cons_append, List.nil_append]
    exact ⟨_, rfl⟩
  have dated : 0 ≤ year ∧ year ≤ 9999 := by
    by_contra outside
    have first : ∃ tail, (toIsoString time).toList = (if year < 0 then '-' else '+') :: tail := by
      rw [iso, isoYear, if_neg outside, String.toList_append]
      split_ifs <;> exact ⟨_, rfl⟩
    obtain ⟨tail, first⟩ := first
    obtain ⟨y1, y2, y3, y4, rfl⟩ := List.length_eq_four.mp four
    rw [first] at begins
    obtain ⟨isFirst, -⟩ := List.cons.inj begins
    have digit := yearDigits y1 (by simp)
    rw [← isFirst] at digit
    split_ifs at digit <;> revert digit <;> decide
  obtain ⟨yearText, isYear, yearFour, -, yearValue⟩ :=
    @padded_digits 4 year (by decide) dated.1 (by omega)
  rw [isoYear, if_pos dated, isYear] at iso
  rw [civil, date_parts_append four two]
  obtain ⟨_, _, _, _, rfl⟩ := List.length_eq_four.mp yearFour
  obtain ⟨_, _, rfl⟩ := List.length_eq_two.mp monthTwo
  obtain ⟨_, _, rfl⟩ := List.length_eq_two.mp dayTwo
  obtain ⟨_, _, _, _, rfl⟩ := List.length_eq_four.mp four
  obtain ⟨_, _, rfl⟩ := List.length_eq_two.mp two
  obtain ⟨_, _, rfl⟩ := List.length_eq_two.mp last
  rw [iso] at begins
  simp only [List.cons_append, List.nil_append, List.take_succ_cons, List.take_zero,
    List.cons.injEq] at begins
  obtain ⟨rfl, rfl, rfl, rfl, _, rfl, rfl, _, rfl, rfl, _⟩ := begins
  rw [yearValue, monthValue, dayValue]

end IsoDates

end CommitmentOptimizer.Foundations.DateTexts
