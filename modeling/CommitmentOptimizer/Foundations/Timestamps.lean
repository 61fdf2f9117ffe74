import CommitmentOptimizer.Foundations.IsoInstants

/-!
# Time stamps with microseconds

The text that `to_char` writes of an instant, and what JavaScript and the database read
from it.
-/

namespace CommitmentOptimizer.Foundations.Timestamps

open BigIntText
open CalendarDates
open IsoInstants

set_option autoImplicit false

section Dates

/-- The day number of a date, the inverse of `civilOfDay`. -/
def dayOfCivil (year month day : Int) : Int :=
  let shifted := if month ≤ 2 then year - 1 else year
  let era := shifted / 400
  let yearOfEra := shifted % 400
  let monthIndex := if month ≤ 2 then month + 9 else month - 3
  let dayOfYear := (153 * monthIndex + 2) / 5 + day - 1
  era * 146097 + (yearOfEra * 365 + yearOfEra / 4 - yearOfEra / 100 + dayOfYear) - 719468

/-- The year within an era of 400 years, and the day within that year. -/
theorem year_of_era_bounds {dayOfEra yearOfEra : Int} (low : 0 ≤ dayOfEra)
    (high : dayOfEra < 146097) (isYear : yearOfEra =
      (dayOfEra - dayOfEra / 1460 + dayOfEra / 36524 - dayOfEra / 146096) / 365) :
    0 ≤ yearOfEra ∧ yearOfEra < 400 ∧
      0 ≤ dayOfEra - (365 * yearOfEra + yearOfEra / 4 - yearOfEra / 100) ∧
      dayOfEra - (365 * yearOfEra + yearOfEra / 4 - yearOfEra / 100) ≤ 365 := by
  refine ⟨by omega, by omega, ?_⟩
  have last : dayOfEra / 146096 = 0 ∨ dayOfEra = 146096 := by omega
  rcases last with era | rfl
  · rw [era] at isYear
    have century : dayOfEra / 36524 = 0 ∨ dayOfEra / 36524 = 1 ∨ dayOfEra / 36524 = 2 ∨
      dayOfEra / 36524 = 3 := by omega
    have years : yearOfEra / 100 = dayOfEra / 36524 := by
      rcases century with which | which | which | which <;> omega
    have fewer : yearOfEra / 4 ≤ dayOfEra / 1460 := by omega
    have more : dayOfEra / 1460 ≤ yearOfEra / 4 + 1 := by
      rcases century with which | which | which | which <;> omega
    omega
  · subst isYear
    decide

theorem day_of_civil_of_day (number : Int) :
    ∃ year month day, civilOfDay number = (year, month, day) ∧
      dayOfCivil year month day = number ∧ 1 ≤ month ∧ month ≤ 12 ∧ 1 ≤ day ∧ day ≤ 31 ∧
      (0 ≤ number → 1600 ≤ year) := by
  obtain ⟨dayOfEra, isDay⟩ : ∃ dayOfEra, dayOfEra = (number + 719468) % 146097 := ⟨_, rfl⟩
  obtain ⟨era, isEra⟩ : ∃ era, era = (number + 719468) / 146097 := ⟨_, rfl⟩
  obtain ⟨yearOfEra, isYear⟩ : ∃ yearOfEra, yearOfEra =
      (dayOfEra - dayOfEra / 1460 + dayOfEra / 36524 - dayOfEra / 146096) / 365 := ⟨_, rfl⟩
  obtain ⟨yearLow, yearHigh, dayLow, dayHigh⟩ :=
    year_of_era_bounds (by omega) (by omega) isYear
  have whole : number = era * 146097 + dayOfEra - 719468 := by omega
  refine ⟨_, _, _, rfl, ?_⟩
  simp only [dayOfCivil, ← isDay, ← isEra, ← isYear]
  clear isDay isYear
  obtain ⟨dayOfYear, isDayOfYear⟩ : ∃ dayOfYear, dayOfYear =
      dayOfEra - (365 * yearOfEra + yearOfEra / 4 - yearOfEra / 100) := ⟨_, rfl⟩
  rw [← isDayOfYear] at dayLow dayHigh ⊢
  obtain ⟨monthIndex, isMonth⟩ : ∃ monthIndex, monthIndex = (5 * dayOfYear + 2) / 153 := ⟨_, rfl⟩
  rw [← isMonth]
  have months : 0 ≤ monthIndex ∧ monthIndex ≤ 11 := by omega
  by_cases early : monthIndex < 10
  · have late : ¬ monthIndex + 3 ≤ 2 := by omega
    simp only [if_pos early, if_neg late]
    refine ⟨?_, by omega, by omega, by omega, by omega, by omega⟩
    have same : monthIndex + 3 - 3 = monthIndex := by omega
    have years : (yearOfEra + era * 400 + 0) / 400 = era ∧
        (yearOfEra + era * 400 + 0) % 400 = yearOfEra := by omega
    rw [same, years.1, years.2]
    omega
  · have late : monthIndex - 9 ≤ 2 := by omega
    simp only [if_neg early, if_pos late]
    refine ⟨?_, by omega, by omega, by omega, by omega, by omega⟩
    have same : monthIndex - 9 + 9 = monthIndex := by omega
    have years : (yearOfEra + era * 400 + 1 - 1) / 400 = era ∧
        (yearOfEra + era * 400 + 1 - 1) % 400 = yearOfEra := by omega
    rw [same, years.1, years.2]
    omega

end Dates

section Texts

/-- `to_char(… AT TIME ZONE 'UTC', 'YYYY-MM-DD"T"HH24:MI:SS.US"Z"')`, for microseconds
since 1970. -/
def timestamptzText (instant : Int) : String :=
  let (year, month, day) := civilOfDay (instant / 86400000000)
  let clock := instant % 86400000000
  let padded width value := padZeros width (toString (Int.toNat value))
  padded 4 year ++ "-" ++ padded 2 month ++ "-" ++ padded 2 day ++ "T" ++
    padded 2 (clock / 3600000000) ++ ":" ++ padded 2 (clock / 60000000 % 60) ++ ":" ++
    padded 2 (clock / 1000000 % 60) ++ "." ++ padded 6 (clock % 1000000) ++ "Z"

example : timestamptzText 1709164805000006 = "2024-02-29T00:00:05.000006Z" := by decide

/-- The year has no more than the four digits of the text. -/
def isDatedInstant (instant : Int) : Prop :=
  0 ≤ instant ∧ (civilOfDay (instant / 86400000000)).1 ≤ 9999

structure TimestampFields where
  year : Nat
  month : Nat
  day : Nat
  hour : Nat
  minute : Nat
  second : Nat
  micros : Nat

/-- `^\d{4}-\d{2}-\d{2}T\d{2}:\d{2}:\d{2}\.\d{6}Z$`, and what the digits say. -/
def timestampFields : List Char → Option TimestampFields
  | [y1, y2, y3, y4, '-', o1, o2, '-', d1, d2, 'T', h1, h2, ':', m1, m2, ':', s1, s2, '.',
      u1, u2, u3, u4, u5, u6, 'Z'] =>
      if [y1, y2, y3, y4, o1, o2, d1, d2, h1, h2, m1, m2, s1, s2, u1, u2, u3, u4, u5, u6].all
          Char.isDigit then
        some ⟨digitsValue [y1, y2, y3, y4], digitsValue [o1, o2], digitsValue [d1, d2],
          digitsValue [h1, h2], digitsValue [m1, m2], digitsValue [s1, s2],
          digitsValue [u1, u2, u3, u4, u5, u6]⟩
      else none
  | _ => none

/-- `new Date(text)` of a text without the microseconds; `none` is an invalid date. -/
def dateOfFields (fields : TimestampFields) : Option Int :=
  if 1 ≤ fields.month ∧ fields.month ≤ 12 ∧ 1 ≤ fields.day ∧ fields.day ≤ 31 ∧
      fields.minute ≤ 59 ∧ fields.second ≤ 59 ∧
      (fields.hour ≤ 23 ∨ fields.hour = 24 ∧ fields.minute = 0 ∧ fields.second = 0) then
    some ((dayOfCivil fields.year fields.month fields.day * 86400 + fields.hour * 3600 +
      fields.minute * 60 + fields.second) * 1000)
  else none

/-- The text is in the format, and the date is not moved to another one. -/
def isTimestampText (text : List Char) : Bool :=
  match (timestampFields text).bind dateOfFields with
  | some time => (toIsoString time).toList.take 19 == text.take 19
  | none => false

/-- The input function of `timestamptz` on such a text; there is no year 0. -/
def timestamptzOfText (text : List Char) : Option Int := do
  let fields ← timestampFields text
  let time ← dateOfFields fields
  if fields.year = 0 then none else some (time * 1000 + fields.micros)

end Texts

section ReadingBack

variable {instant : Int}

/-- A number of few digits, as the characters of its text. -/
theorem padded_digits {width : Nat} {value : Int} (positive : 0 < width) (low : 0 ≤ value)
    (below : value < 10 ^ width) :
    ∃ text, (padZeros width (toString value.toNat)).toList = text ∧ text.length = width ∧
      text.all Char.isDigit = true ∧ (digitsValue text : Int) = value := by
  have short : value.toNat < 10 ^ width := by
    have whole : (value.toNat : Int) = value := Int.toNat_of_nonneg low
    exact_mod_cast whole ▸ below
  refine ⟨_, rfl, pad_zeros_length positive short,
    List.all_eq_true.mpr (pad_zeros_digits width value.toNat), ?_⟩
  rw [pad_zeros_value]
  exact Int.toNat_of_nonneg low

theorem length_eq_six {text : List Char} (six : text.length = 6) :
    ∃ first second third fourth fifth sixth, text = [first, second, third, fourth, fifth, sixth] := by
  obtain ⟨first, rest, rfl⟩ := List.exists_cons_of_length_eq_add_one six
  obtain ⟨second, rest, rfl⟩ := List.exists_cons_of_length_eq_add_one (Nat.succ.inj six)
  obtain ⟨third, fourth, fifth, sixth, rfl⟩ :=
    List.length_eq_four.mp (Nat.succ.inj (Nat.succ.inj six))
  exact ⟨first, second, third, fourth, fifth, sixth, rfl⟩

theorem timestamptz_text_read (dated : isDatedInstant instant) :
    ∃ fields, timestampFields (timestamptzText instant).toList = some fields ∧
      dateOfFields fields = some (instant / 1000000 * 1000) ∧
      (fields.micros : Int) = instant % 1000000 ∧ fields.year ≠ 0 ∧
      (toIsoString (instant / 1000000 * 1000)).toList.take 19 =
        (timestamptzText instant).toList.take 19 := by
  obtain ⟨positive, yearHigh⟩ := dated
  obtain ⟨year, month, day, civil, number, monthLow, monthHigh, dayLow, dayHigh, yearLow⟩ :=
    day_of_civil_of_day (instant / 86400000000)
  rw [civil] at yearHigh
  have yearLow := yearLow (by omega)
  have sameDay : instant / 1000000 * 1000 / 86400000 = instant / 86400000000 := by omega
  obtain ⟨clock, isClock⟩ : ∃ clock, clock = instant % 86400000000 := ⟨_, rfl⟩
  have hours : instant / 1000000 * 1000 % 86400000 / 3600000 = clock / 3600000000 := by omega
  have minutes : instant / 1000000 * 1000 % 86400000 / 60000 % 60 = clock / 60000000 % 60 := by
    omega
  have seconds : instant / 1000000 * 1000 % 86400000 / 1000 % 60 = clock / 1000000 % 60 := by
    omega
  obtain ⟨yearText, isYear, yearLength, yearDigits, yearValue⟩ :=
    @padded_digits 4 year (by decide) (by omega) (by omega)
  obtain ⟨monthText, isMonth, monthLength, monthDigits, monthValue⟩ :=
    @padded_digits 2 month (by decide) (by omega) (by omega)
  obtain ⟨dayText, isDay, dayLength, dayDigits, dayValue⟩ :=
    @padded_digits 2 day (by decide) (by omega) (by omega)
  obtain ⟨hourText, isHour, hourLength, hourDigits, hourValue⟩ :=
    @padded_digits 2 (clock / 3600000000) (by decide) (by omega) (by omega)
  obtain ⟨minuteText, isMinute, minuteLength, minuteDigits, minuteValue⟩ :=
    @padded_digits 2 (clock / 60000000 % 60) (by decide) (by omega) (by omega)
  obtain ⟨secondText, isSecond, secondLength, secondDigits, secondValue⟩ :=
    @padded_digits 2 (clock / 1000000 % 60) (by decide) (by omega) (by omega)
  obtain ⟨microText, isMicro, microLength, microDigits, microValue⟩ :=
    @padded_digits 6 (clock % 1000000) (by decide) (by omega) (by omega)
  have dash : "-".toList = ['-'] := rfl
  have letterT : "T".toList = ['T'] := rfl
  have colon : ":".toList = [':'] := rfl
  have dot : ".".toList = ['.'] := rfl
  have letterZ : "Z".toList = ['Z'] := rfl
  have text : (timestamptzText instant).toList =
      yearText ++ '-' :: (monthText ++ '-' :: (dayText ++ 'T' :: (hourText ++ ':' :: (minuteText ++
        ':' :: (secondText ++ '.' :: (microText ++ ['Z'])))))) := by
    simp only [timestamptzText, civil, ← isClock, String.toList_append, isYear, isMonth, isDay,
      isHour, isMinute, isSecond, isMicro, dash, letterT, colon, dot, letterZ,
      List.append_assoc, List.cons_append, List.nil_append]
  have iso : ∃ rest, (toIsoString (instant / 1000000 * 1000)).toList =
      yearText ++ '-' :: (monthText ++ '-' :: (dayText ++ 'T' :: (hourText ++ ':' :: (minuteText ++
        ':' :: (secondText ++ '.' :: rest))))) := by
    refine ⟨(padZeros 3 (toString (instant / 1000000 * 1000 % 86400000 % 1000).toNat)).toList ++
      ['Z'], ?_⟩
    have fourDigits : isoYear year = padZeros 4 (toString year.toNat) :=
      if_pos ⟨by omega, yearHigh⟩
    simp only [toIsoString, sameDay, civil, hours, minutes, seconds, fourDigits,
      String.toList_append, isYear, isMonth, isDay, isHour, isMinute, isSecond, dash, letterT,
      colon, dot, letterZ, List.append_assoc, List.cons_append, List.nil_append]
  obtain ⟨rest, iso⟩ := iso
  rw [text, iso]
  clear text iso isYear isMonth isDay isHour isMinute isSecond isMicro
  obtain ⟨y1, y2, y3, y4, rfl⟩ := List.length_eq_four.mp yearLength
  obtain ⟨o1, o2, rfl⟩ := List.length_eq_two.mp monthLength
  obtain ⟨d1, d2, rfl⟩ := List.length_eq_two.mp dayLength
  obtain ⟨h1, h2, rfl⟩ := List.length_eq_two.mp hourLength
  obtain ⟨m1, m2, rfl⟩ := List.length_eq_two.mp minuteLength
  obtain ⟨s1, s2, rfl⟩ := List.length_eq_two.mp secondLength
  obtain ⟨u1, u2, u3, u4, u5, u6, rfl⟩ := length_eq_six microLength
  refine ⟨⟨digitsValue [y1, y2, y3, y4], digitsValue [o1, o2], digitsValue [d1, d2],
    digitsValue [h1, h2], digitsValue [m1, m2], digitsValue [s1, s2],
    digitsValue [u1, u2, u3, u4, u5, u6]⟩, ?_, ?_, ?_, ?_, rfl⟩
  · simp only [List.all_cons, List.all_nil, Bool.and_true, Bool.and_eq_true]
      at yearDigits monthDigits dayDigits hourDigits minuteDigits secondDigits microDigits
    simp only [List.cons_append, List.nil_append, timestampFields, List.all_cons,
      List.all_nil, yearDigits, monthDigits, dayDigits, hourDigits, minuteDigits,
      secondDigits, microDigits, Bool.and_self, if_true]
  · rw [dateOfFields, if_pos (by dsimp only; omega)]
    dsimp only
    rw [yearValue, monthValue, dayValue, hourValue, minuteValue, secondValue, number]
    congr 1
    omega
  · dsimp only
    omega
  · dsimp only
    omega

/-- The text of an instant is in the format, and both readers read the instant. -/
theorem is_timestamp_text (dated : isDatedInstant instant) :
    isTimestampText (timestamptzText instant).toList = true := by
  obtain ⟨fields, isFields, date, -, -, same⟩ := timestamptz_text_read dated
  rw [isTimestampText, isFields, Option.bind_some, date]
  exact beq_iff_eq.mpr same

theorem timestamptz_of_timestamptz_text (dated : isDatedInstant instant) :
    timestamptzOfText (timestamptzText instant).toList = some instant := by
  obtain ⟨fields, isFields, date, micros, year, -⟩ := timestamptz_text_read dated
  have total : instant / 1000000 * 1000 * 1000 + (fields.micros : Int) = instant := by omega
  simp only [timestamptzOfText, isFields, date, Option.bind_eq_bind, Option.bind_some, if_neg year,
    total]

theorem timestamp_fields_digits {text : List Char} {fields : TimestampFields}
    (read : timestampFields text = some fields) :
    ∀ character ∈ text, character.isDigit = true ∨ character ∈ ['-', ':', '.', 'T', 'Z'] := by
  unfold timestampFields at read
  split at read
  · split_ifs at read with digits
    simp only [List.all_cons, List.all_nil, Bool.and_true, Bool.and_eq_true] at digits
    simp [digits]
  · cases read

theorem timestamp_fields_length {text : List Char} {fields : TimestampFields}
    (read : timestampFields text = some fields) : text.length = 27 := by
  unfold timestampFields at read
  split at read
  · rfl
  · cases read

end ReadingBack

end CommitmentOptimizer.Foundations.Timestamps
