import Mathlib.Data.List.Basic
import CommitmentOptimizer.Foundations.BigIntText
import CommitmentOptimizer.Foundations.CalendarDates

/-!
# Instants as ISO text

`Date.prototype.toISOString`, and the month that its first seven characters name.
-/

namespace CommitmentOptimizer.Foundations.IsoInstants

open BigIntText
open CalendarDates

set_option autoImplicit false

section FixedWidth

/-- The number of a text of decimal digits. -/
def digitsValue (digits : List Char) : Nat := Nat.ofDigitChars 10 digits 0

theorem digits_value_append_singleton (digits : List Char) (last : Char) :
    digitsValue (digits ++ [last]) = 10 * digitsValue digits + (last.toNat - 48) := by
  rw [digitsValue, digitsValue, Nat.ofDigitChars_append, Nat.ofDigitChars_cons,
    Nat.ofDigitChars_nil]
  rfl

theorem digits_value_lt {digits : List Char}
    (each : ∀ character ∈ digits, character.isDigit = true) :
    digitsValue digits < 10 ^ digits.length := by
  induction digits using List.reverseRecOn with
  | nil => decide
  | append_singleton digits last induction =>
      have bounds := digit_bounds (each last (by simp))
      have below := induction fun character member => each character (List.mem_append_left _ member)
      rw [digits_value_append_singleton, List.length_append, List.length_singleton, Nat.pow_succ]
      omega

/-- Among texts of one length, the digits are those of the number. -/
theorem digits_value_injective {left right : List Char}
    (leftDigits : ∀ character ∈ left, character.isDigit = true)
    (rightDigits : ∀ character ∈ right, character.isDigit = true)
    (sameLength : left.length = right.length) (same : digitsValue left = digitsValue right) :
    left = right := by
  induction left using List.reverseRecOn generalizing right with
  | nil => exact (List.length_eq_zero_iff.mp sameLength.symm).symm
  | append_singleton left last induction =>
      obtain ⟨right, final, rfl⟩ : ∃ initial final, right = initial ++ [final] := by
        rcases List.eq_nil_or_concat' right with rfl | split
        · simp at sameLength
        · exact split
      have lastBounds := digit_bounds (leftDigits last (by simp))
      have finalBounds := digit_bounds (rightDigits final (by simp))
      rw [digits_value_append_singleton, digits_value_append_singleton] at same
      have sameLast : last.toNat = final.toNat := by omega
      have sameRest : left = right := by
        apply induction
        · exact fun character member => leftDigits character (List.mem_append_left _ member)
        · exact fun character member => rightDigits character (List.mem_append_left _ member)
        · simpa using sameLength
        · omega
      rw [sameRest, Char.toNat_inj.mp sameLast]

theorem digits_value_zeros (count : Nat) (digits : List Char) :
    digitsValue (List.replicate count '0' ++ digits) = digitsValue digits := by
  rw [digitsValue, digitsValue, Nat.ofDigitChars_append]
  congr 1
  induction count with
  | zero => rfl
  | succ count induction => rwa [List.replicate_succ, Nat.ofDigitChars_cons]

theorem pad_zeros_list (width : Nat) (text : String) :
    (padZeros width text).toList =
      List.replicate (width - text.length) '0' ++ text.toList := by
  rw [padZeros, String.toList_append, String.toList_ofList]

theorem to_string_list (value : Nat) : (toString value).toList = Nat.toDigits 10 value := by
  rw [Nat.toString_eq_ofList_toDigits, String.toList_ofList]

theorem digits_value_to_string (value : Nat) : digitsValue (toString value).toList = value := by
  rw [to_string_list, digitsValue, Nat.ofDigitChars_ten_toDigits]

theorem pad_zeros_digits (width value : Nat) :
    ∀ character ∈ (padZeros width (toString value)).toList, character.isDigit = true := by
  intro character member
  rw [pad_zeros_list] at member
  rcases List.mem_append.mp member with zero | digit
  · rw [(List.mem_replicate.mp zero).2]
    rfl
  · exact digits_of_nat value character digit

theorem pad_zeros_value (width value : Nat) :
    digitsValue (padZeros width (toString value)).toList = value := by
  rw [pad_zeros_list, digits_value_zeros, digits_value_to_string]

theorem pad_zeros_length {width value : Nat} (positive : 0 < width) (below : value < 10 ^ width) :
    (padZeros width (toString value)).toList.length = width := by
  have short : (toString value).toList.length ≤ width := by
    rw [to_string_list]
    exact (Nat.length_toDigits_le_iff (by decide) positive).mpr below
  have sameLength : (toString value).length = (toString value).toList.length :=
    String.length_toList.symm
  rw [pad_zeros_list, List.length_append, List.length_replicate, sameLength]
  omega

/-- A text of digits is its number, padded to its length. -/
theorem pad_zeros_of_digits {digits : List Char} (nonempty : digits ≠ [])
    (each : ∀ character ∈ digits, character.isDigit = true) :
    (padZeros digits.length (toString (digitsValue digits))).toList = digits := by
  apply digits_value_injective (pad_zeros_digits _ _) each
  · exact pad_zeros_length (List.length_pos_of_ne_nil nonempty) (digits_value_lt each)
  · exact pad_zeros_value _ _

end FixedWidth

section Instants

/-- Four digits, or a sign and six. -/
def isoYear (year : Int) : String :=
  if 0 ≤ year ∧ year ≤ 9999 then padZeros 4 (toString year.toNat)
  else (if year < 0 then "-" else "+") ++ padZeros 6 (toString year.natAbs)

/-- `new Date(time).toISOString()`, for milliseconds since 1970. -/
def toIsoString (time : Int) : String :=
  let (year, month, day) := civilOfDay (time / 86400000)
  let clock := time % 86400000
  let padded width value := padZeros width (toString (Int.toNat value))
  isoYear year ++ "-" ++ padded 2 month ++ "-" ++ padded 2 day ++ "T" ++
    padded 2 (clock / 3600000) ++ ":" ++ padded 2 (clock / 60000 % 60) ++ ":" ++
    padded 2 (clock / 1000 % 60) ++ "." ++ padded 3 (clock % 1000) ++ "Z"

example : toIsoString 1709164805006 = "2024-02-29T00:00:05.006Z" := by decide

/-- The year and the month of an instant, in UTC. -/
def utcMonth (time : Int) : Int × Int :=
  let (year, month, _) := civilOfDay (time / 86400000)
  (year, month)

/-- `text.slice(0, 7)`. -/
def monthSlice (text : String) : String := String.ofList (text.toList.take 7)

/-- `^[0-9]{4}-(?:0[1-9]|1[0-2])$`. -/
def isMonth : List Char → Bool
  | [y1, y2, y3, y4, '-', m1, m2] =>
      [y1, y2, y3, y4, m1, m2].all Char.isDigit && 1 ≤ digitsValue [m1, m2] &&
        digitsValue [m1, m2] ≤ 12
  | _ => false

/-- The year and the month that such a text names. -/
def monthOf (text : List Char) : Int × Int :=
  (digitsValue (text.take 4), digitsValue (text.drop 5))

theorem month_bounds (day : Int) : 1 ≤ (civilOfDay day).2.1 ∧ (civilOfDay day).2.1 ≤ 12 := by
  obtain ⟨dayOfEra, isDay⟩ : ∃ dayOfEra, dayOfEra = (day + 719468) % 146097 := ⟨_, rfl⟩
  obtain ⟨yearOfEra, isYear⟩ : ∃ yearOfEra, yearOfEra =
      (dayOfEra - dayOfEra / 1460 + dayOfEra / 36524 - dayOfEra / 146096) / 365 := ⟨_, rfl⟩
  have low : 0 ≤ dayOfEra := by omega
  have high : dayOfEra < 146097 := by omega
  -- these bounds are not sharp, but enough for a month
  have dayLow : -61 ≤ dayOfEra - (365 * yearOfEra + yearOfEra / 4 - yearOfEra / 100) := by omega
  have dayHigh : dayOfEra - (365 * yearOfEra + yearOfEra / 4 - yearOfEra / 100) ≤ 366 := by omega
  simp only [civilOfDay, ← isDay, ← isYear]
  clear isDay isYear
  generalize dayOfEra - (365 * yearOfEra + yearOfEra / 4 - yearOfEra / 100) = dayOfYear at *
  split_ifs <;> omega

theorem is_month_parts {text : List Char} (month : isMonth text = true) :
    ∃ year number, text = year ++ '-' :: number ∧ year.length = 4 ∧ number.length = 2 ∧
      (∀ character ∈ year, character.isDigit = true) ∧
      ∀ character ∈ number, character.isDigit = true := by
  unfold isMonth at month
  split at month
  case h_1 y1 y2 y3 y4 m1 m2 =>
    simp only [List.all_cons, List.all_nil, Bool.and_true, Bool.and_eq_true,
      decide_eq_true_eq] at month
    obtain ⟨⟨⟨d1, d2, d3, d4, d5, d6⟩, _⟩, _⟩ := month
    exact ⟨[y1, y2, y3, y4], [m1, m2], rfl, rfl, rfl, by simp [d1, d2, d3, d4], by simp [d5, d6]⟩
  case h_2 => cases month

/-- A month's text is the only one that names it. -/
theorem month_of_injective {left right : List Char} (leftMonth : isMonth left = true)
    (rightMonth : isMonth right = true) (same : monthOf left = monthOf right) : left = right := by
  obtain ⟨leftYear, leftNumber, rfl, leftFour, leftTwo, leftYears, leftNumbers⟩ :=
    is_month_parts leftMonth
  obtain ⟨rightYear, rightNumber, rfl, rightFour, rightTwo, rightYears, rightNumbers⟩ :=
    is_month_parts rightMonth
  have years : ∀ year number : List Char, year.length = 4 →
      (year ++ '-' :: number).take 4 = year ∧ (year ++ '-' :: number).drop 5 = number := by
    intro year number four
    constructor
    · rw [← four, List.take_left]
    · rw [show 5 = year.length + 1 by omega, List.drop_append]
      simp
  simp only [monthOf, years leftYear leftNumber leftFour, years rightYear rightNumber rightFour,
    Prod.mk.injEq, Int.natCast_inj] at same
  rw [digits_value_injective leftYears rightYears (leftFour.trans rightFour.symm)
      same.1,
    digits_value_injective leftNumbers rightNumbers (leftTwo.trans rightTwo.symm)
      same.2]

/-- The year has the four digits of a plain ISO date. -/
def isDated (time : Int) : Prop := 0 ≤ (utcMonth time).1 ∧ (utcMonth time).1 ≤ 9999

theorem to_iso_string_head (time : Int) :
    ∃ rest, (toIsoString time).toList = (isoYear (utcMonth time).1).toList ++
      '-' :: ((padZeros 2 (toString (utcMonth time).2.toNat)).toList ++ rest) := by
  obtain ⟨⟨year, month, day⟩, civil⟩ : ∃ date, civilOfDay (time / 86400000) = date := ⟨_, rfl⟩
  have dash : "-".toList = ['-'] := rfl
  simp only [toIsoString, utcMonth, civil, String.toList_append, List.append_assoc, dash,
    List.cons_append, List.nil_append]
  exact ⟨_, rfl⟩

theorem month_slice_dated {time : Int} (dated : isDated time) :
    isMonth (monthSlice (toIsoString time)).toList = true ∧
      monthOf (monthSlice (toIsoString time)).toList = utcMonth time := by
  obtain ⟨rest, list⟩ := to_iso_string_head time
  obtain ⟨low, high⟩ : 1 ≤ (utcMonth time).2 ∧ (utcMonth time).2 ≤ 12 :=
    month_bounds (time / 86400000)
  obtain ⟨yearLow, yearHigh⟩ := dated
  rw [isoYear, if_pos ⟨yearLow, yearHigh⟩] at list
  obtain ⟨year, isYear⟩ := Int.eq_ofNat_of_zero_le yearLow
  obtain ⟨month, isMonth'⟩ := Int.eq_ofNat_of_zero_le (show 0 ≤ (utcMonth time).2 by omega)
  rw [isYear, isMonth', Int.toNat_natCast, Int.toNat_natCast] at list
  have four : (padZeros 4 (toString year)).toList.length = 4 :=
    pad_zeros_length (by decide) (by omega)
  have two : (padZeros 2 (toString month)).toList.length = 2 :=
    pad_zeros_length (by decide) (by omega)
  have slice : (monthSlice (toIsoString time)).toList =
      (padZeros 4 (toString year)).toList ++ '-' :: (padZeros 2 (toString month)).toList := by
    rw [monthSlice, String.toList_ofList, list, List.take_append, four,
      List.take_of_length_le (by omega), List.take_succ_cons, List.take_append, two,
      List.take_of_length_le (by omega)]
    simp
  rw [slice]
  have yearDigits := pad_zeros_digits 4 year
  have monthDigits := pad_zeros_digits 2 month
  have yearValue := pad_zeros_value 4 year
  have monthValue := pad_zeros_value 2 month
  generalize (padZeros 4 (toString year)).toList = yearText at *
  generalize (padZeros 2 (toString month)).toList = monthText at *
  match yearText, four, monthText, two with
  | [y1, y2, y3, y4], _, [m1, m2], _ =>
      simp only [List.mem_cons, List.not_mem_nil, or_false, forall_eq_or_imp, forall_eq]
        at yearDigits monthDigits
      constructor
      · simp only [List.cons_append, List.nil_append, IsoInstants.isMonth, monthValue,
          List.all_cons, List.all_nil, yearDigits, monthDigits, Bool.and_true, Bool.true_and,
          Bool.and_eq_true, decide_eq_true_eq]
        omega
      · simp only [List.cons_append, List.nil_append, monthOf, List.take_succ_cons, List.take_zero,
          List.drop_succ_cons, List.drop_zero, yearValue, monthValue]
        exact Prod.ext isYear.symm isMonth'.symm

theorem month_slice_undated {time : Int} (undated : ¬ isDated time) :
    isMonth (monthSlice (toIsoString time)).toList = false := by
  obtain ⟨rest, list⟩ := to_iso_string_head time
  rw [isDated] at undated
  rw [isoYear, if_neg undated, String.toList_append] at list
  have signed : ∃ sign tail, sign.isDigit = false ∧
      (monthSlice (toIsoString time)).toList = sign :: tail := by
    rw [monthSlice, String.toList_ofList, list]
    split_ifs
    · exact ⟨'-', _, rfl, rfl⟩
    · exact ⟨'+', _, rfl, rfl⟩
  obtain ⟨sign, tail, noDigit, slice⟩ := signed
  rw [slice]
  cases month : IsoInstants.isMonth (sign :: tail) with
  | false => rfl
  | true =>
      obtain ⟨year, number, split, four, _, digits, _⟩ := is_month_parts month
      match year, four with
      | first :: _, _ =>
          obtain ⟨rfl, _⟩ := List.cons.inj split
          rw [digits sign List.mem_cons_self] at noDigit
          cases noDigit

/-- The first seven characters of an instant are a month's text exactly when it
names the month of that instant. -/
theorem month_slice_eq_iff {time : Int} {text : List Char} (month : isMonth text = true) :
    (monthSlice (toIsoString time)).toList = text ↔ utcMonth time = monthOf text := by
  constructor
  · rintro rfl
    by_cases dated : isDated time
    · exact (month_slice_dated dated).2.symm
    · rw [month_slice_undated dated] at month
      cases month
  · intro same
    have dated : isDated time := by
      obtain ⟨year, number, rfl, four, _, yearDigits, _⟩ := is_month_parts month
      have bound := digits_value_lt yearDigits
      rw [four] at bound
      have taken : (year ++ '-' :: number).take 4 = year := by rw [← four, List.take_left]
      rw [isDated, same, monthOf, taken]
      omega
    obtain ⟨sliceMonth, names⟩ := month_slice_dated dated
    exact month_of_injective sliceMonth month (names.trans same)

end Instants

end CommitmentOptimizer.Foundations.IsoInstants
