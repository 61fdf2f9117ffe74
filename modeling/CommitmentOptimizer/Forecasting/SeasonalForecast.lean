import CommitmentOptimizer.Foundations.CalendarMonths
import CommitmentOptimizer.Foundations.DateTexts
import CommitmentOptimizer.Foundations.HalfAwayRounding
import CommitmentOptimizer.Foundations.InsertionGroups
import CommitmentOptimizer.Imports.ControlTotals
import CommitmentOptimizer.Sessions.AccessTokens
import Mathlib.Algebra.Order.BigOperators.Group.List

/-!
# The seasonal-naive forecast

The request of a forecast run (`forecast-input.ts`) and the artifact that the
worker builds for it (`forecast-worker.ts`). Amounts of cents are integers, where
the source keeps their decimal texts.
-/

namespace CommitmentOptimizer.Forecasting.SeasonalForecast

open Foundations
open Foundations.BigIntText
open Foundations.CalendarMonths
open Foundations.DateTexts
open Foundations.HalfAwayRounding
open Foundations.InsertionGroups
open Foundations.IsoInstants
open Foundations.SqlConstraints
open Imports.ControlTotals
open Imports.UsageRows
open Recommendations.RecommendationLifecycle
open Sessions.AccessTokens

set_option autoImplicit false

section Requests

/-- `new Date(text)`; an invalid date is `none`. -/
structure ForecastRuntime where
  parseDate : String → Option JsDate

structure DateText where
  text : String
  form : isDateForm text.toList = true
  deriving DecidableEq

structure Horizon where
  months : Nat
  offered : months ∈ [1, 3, 6, 12, 24, 36]
  deriving DecidableEq

structure ForecastRunCreateInput where
  forecastModelId : String
  inputWindowStart : DateText
  inputWindowEnd : DateText
  horizonMonths : Horizon
  randomSeed : Int
  deriving DecidableEq

variable (runtime : ForecastRuntime)

def dateValue : Option Json → Option DateText
  | some (.string text) =>
      if form : isDateForm text.toList = true then
        match runtime.parseDate (text ++ "T00:00:00Z") with
        | some parsed =>
            if String.ofList (parsed.text.toList.take 10) = text then some ⟨text, form⟩ else none
        | none => none
      else none
  | _ => none

def horizon : Option Json → Option Horizon
  | some (.number (some value)) =>
      ([1, 3, 6, 12, 24, 36] : List Nat).attach.find? (fun months => (months.val : Rat) = value)
        |>.map fun months => ⟨months.val, months.property⟩
  | _ => none

def uuidValue : Option Json → Option String
  | some (.string text) => if isCanonicalUuid text then some text else none
  | _ => none

/-- `SIGNED_BIGINT_PATTERN` and the range of a BIGINT. -/
def signedBigint : Option Json → Option Int
  | some (.string text) =>
      let (negative, digits) := match text.toList with
        | '-' :: digits => (true, digits)
        | digits => (false, digits)
      if isUnsignedInteger digits then
        let parsed : Int := if negative then -digitsValue digits else digitsValue digits
        if -9223372036854775808 ≤ parsed ∧ parsed ≤ 9223372036854775807 then some parsed else none
      else none
  | _ => none

def createRunFields : List String :=
  ["forecast_model_id", "input_window_start", "input_window_end", "horizon_months", "random_seed"]

/-- `none` where the source throws `invalid()`. -/
def parseForecastRunCreateBody (body : Json) (defaultSeed : Int) :
    Option ForecastRunCreateInput :=
  if closedRecord createRunFields body then do
    let inputWindowStart ← dateValue runtime (body.field "input_window_start")
    let inputWindowEnd ← dateValue runtime (body.field "input_window_end")
    if inputWindowEnd.text < inputWindowStart.text then none
    else
      return {
        forecastModelId := ← uuidValue (body.field "forecast_model_id")
        inputWindowStart
        inputWindowEnd
        horizonMonths := ← horizon (body.field "horizon_months")
        randomSeed := ← match body.field "random_seed" with
          | none => some defaultSeed
          | seed => signedBigint seed }
  else none

end Requests

section Artifact

/-- A text of a column, which holds no NUL. -/
structure ColumnText where
  text : String
  stored : '\x00' ∉ text.toList
  deriving DecidableEq

structure ForecastUsageMonth where
  month : MonthText
  provider : Provider
  serviceCode : ColumnText
  region : ColumnText
  onDemandCostCents : Int
  realizedCostCents : Int
  usageQuantity : Nat
  lineItemCount : Nat
  nonneg : 0 ≤ onDemandCostCents
  deriving DecidableEq

/-- What the worker reads of the run and its model. -/
structure ForecastWorkerRun where
  id : Uuid
  forecastModelId : Uuid
  method : String
  inputWindowStart : DateText
  inputWindowEnd : DateText
  horizonMonths : Horizon
  randomSeed : Int

inductive Basis where
  | seasonalMonth | allHistoryAverage
  deriving DecidableEq, Repr

structure ForecastPoint where
  month : String
  provider : String
  serviceCode : String
  region : String
  forecastOnDemandCostCents : Int
  basis : Basis
  deriving DecidableEq, Repr

structure QualityMetrics where
  method : String
  historyDays : Option Int
  monthlyObservations : Nat
  sourceLineItems : Nat
  forecastPoints : Nat
  confidence : String
  warnings : List String
  deriving DecidableEq, Repr

structure SeasonalNaiveArtifact where
  schemaVersion : String
  forecastRunId : Uuid
  forecastModelId : Uuid
  method : String
  inputWindow : String × String
  horizonMonths : Nat
  randomSeed : Int
  qualityMetrics : QualityMetrics
  forecastPoints : List ForecastPoint

def dimensionKey (month : ForecastUsageMonth) : String :=
  providerText month.provider ++ "\x00" ++ month.serviceCode.text ++ "\x00" ++ month.region.text

def dimensionsByKey (months : List ForecastUsageMonth) :
    List (String × List ForecastUsageMonth) :=
  groupRows dimensionKey months

def averageCents (months : List ForecastUsageMonth) : Int :=
  let total := months.foldl (fun sum month => sum + month.onDemandCostCents) 0
  let count : Int := months.length
  (total + count.tdiv 2).tdiv count

/-- `text.slice(5, 7)`. -/
def monthOfYear (text : String) : List Char := (text.toList.drop 5).take 2

def forecastPoint (key : String) (history : List ForecastUsageMonth) (month : String) :
    ForecastPoint :=
  let seasonal := history.filter fun entry => monthOfYear entry.month.text = monthOfYear month
  let basisRows := if seasonal.length > 0 then seasonal else history
  let parts := key.toList.splitOn '\x00'
  { month
    provider := String.ofList (parts.getD 0 [])
    serviceCode := String.ofList (parts.getD 1 [])
    region := String.ofList (parts.getD 2 [])
    forecastOnDemandCostCents := averageCents basisRows
    basis := if seasonal.length > 0 then .seasonalMonth else .allHistoryAverage }

/-- `Date.UTC(year, month, 1)`: a year of at most two digits is one of the twentieth
century, and a month past December runs into the next years. -/
def dateUtc (year month : Int) : Int :=
  let fullYear := if 0 ≤ year ∧ year ≤ 99 then 1900 + year else year
  firstDay (fullYear * 12 + month) * 86400000

def forecastMonths (inputWindowEnd : DateText) (horizonMonths : Nat) : List String :=
  let parts := (inputWindowEnd.text.toList.splitOn '-').map digitsValue
  let start := utcMonth (dateUtc (parts.getD 0 0) (parts.getD 1 0))
  (List.range horizonMonths).map fun index : Nat =>
    monthSlice (toIsoString (dateUtc start.1 (start.2 - 1 + (index : Int))))

def inclusiveDays (runtime : ForecastRuntime) (startDate endDate : DateText) : Option Int := do
  let start ← runtime.parseDate (startDate.text ++ "T00:00:00Z")
  let finish ← runtime.parseDate (endDate.text ++ "T00:00:00Z")
  return (finish.time - start.time) / 86400000 + 1

def qualityWarnings (historyDays : Option Int) (monthlyObservations lineItems : Nat)
    (minHistoryDays : Int) : List String :=
  (if lineItems = 0 then ["NO_ELIGIBLE_USAGE_HISTORY"] else []) ++
  (if historyDays.any (· < minHistoryDays) then ["LOW_HISTORY_DAYS"] else []) ++
  (if monthlyObservations < 3 then ["LOW_MONTHLY_OBSERVATIONS"] else [])

def buildSeasonalNaiveArtifact (runtime : ForecastRuntime) (run : ForecastWorkerRun)
    (months : List ForecastUsageMonth) (minHistoryDays : Int) : SeasonalNaiveArtifact :=
  let historyDays := inclusiveDays runtime run.inputWindowStart run.inputWindowEnd
  let observedMonths := (months.map fun month => month.month).dedup
  let totalLineItems := (months.map fun month => month.lineItemCount).sum
  let warnings := qualityWarnings historyDays observedMonths.length totalLineItems minHistoryDays
  let points := (dimensionsByKey months).flatMap fun dimension =>
    (forecastMonths run.inputWindowEnd run.horizonMonths.months).map
      (forecastPoint dimension.1 dimension.2)
  { schemaVersion := "forecast_distribution:seasonal_naive:v1"
    forecastRunId := run.id
    forecastModelId := run.forecastModelId
    method := run.method
    inputWindow := (run.inputWindowStart.text, run.inputWindowEnd.text)
    horizonMonths := run.horizonMonths.months
    randomSeed := run.randomSeed
    qualityMetrics :=
      { method := run.method
        historyDays
        monthlyObservations := observedMonths.length
        sourceLineItems := totalLineItems
        forecastPoints := points.length
        confidence := if warnings.length = 0 then "high" else "low"
        warnings }
    forecastPoints := points }

end Artifact

section Months

/-- The number of the month of a date. -/
def DateText.monthNumber (date : DateText) : Int :=
  CalendarMonths.monthNumber (monthOf (date.text.toList.take 7)).1
    (monthOf (date.text.toList.take 7)).2

def DateText.year (date : DateText) : Int := (monthOf (date.text.toList.take 7)).1

theorem month_of_bounds {text : List Char} (month : isMonth text = true) :
    0 ≤ (monthOf text).1 ∧ (monthOf text).1 ≤ 9999 ∧ 1 ≤ (monthOf text).2 ∧
      (monthOf text).2 ≤ 12 := by
  obtain ⟨year, number, split, four, _, yearDigits, _⟩ := is_month_parts month
  have bound := digits_value_lt yearDigits
  rw [four] at bound
  have head : text.take 4 = year := by rw [split, ← four, List.take_left]
  unfold isMonth at month
  split at month
  case h_1 y1 y2 y3 y4 m1 m2 =>
    simp only [Bool.and_eq_true, decide_eq_true_eq] at month
    obtain ⟨⟨_, low⟩, high⟩ := month
    have year : (monthOf [y1, y2, y3, y4, '-', m1, m2]).1 = digitsValue year := by
      rw [monthOf, head]
    have number : (monthOf [y1, y2, y3, y4, '-', m1, m2]).2 = digitsValue [m1, m2] := rfl
    rw [year, number]
    omega
  case h_2 => cases month

/-- `inputWindowEnd.split("-").map(Number)`. -/
theorem date_text_parts (date : DateText) :
    ∃ day, (date.text.toList.splitOn '-').map digitsValue =
      [digitsValue ((date.text.toList.take 7).take 4),
        digitsValue ((date.text.toList.take 7).drop 5), day] := by
  have form := date.form
  rw [isDateForm, Bool.and_eq_true] at form
  obtain ⟨month, tail⟩ := form
  obtain ⟨year, number, split, four, two, yearDigits, numberDigits⟩ := is_month_parts month
  have noDash : ∀ digits : List Char, (∀ digit ∈ digits, digit.isDigit = true) →
      '-' ∉ digits := by
    intro digits each member
    exact absurd (each _ member) (by decide)
  have years : (date.text.toList.take 7).take 4 = year := by rw [split, ← four, List.take_left]
  have numbers : (date.text.toList.take 7).drop 5 = number := by
    rw [split, show 5 = year.length + 1 by omega, List.drop_append]
    simp
  cases rest : date.text.toList.drop 7 with
  | nil =>
      rw [rest] at tail
      cases tail
  | cons dash days =>
      rw [rest] at tail
      split at tail
      case h_1 dash tens ones same =>
        simp only [Bool.and_eq_true, decide_eq_true_eq] at tail
        obtain ⟨⟨⟨rfl, lastTens⟩, _⟩, lastOnes⟩ := tail
        obtain ⟨rfl, rfl⟩ := List.cons.inj same
        have whole : date.text.toList = year ++ '-' :: (number ++ '-' :: [tens, ones]) := by
          rw [← List.take_append_drop 7 date.text.toList, rest, split, List.append_assoc]
          rfl
        have lastDigits : '-' ∉ [tens, ones] := by
          intro member
          rcases List.mem_cons.mp member with rfl | member
          · cases lastTens
          · rw [← List.mem_singleton.mp member] at lastOnes
            cases lastOnes
        refine ⟨digitsValue [tens, ones], ?_⟩
        rw [years, numbers, whole, List.splitOn_append_cons_self_of_not_mem (noDash _ yearDigits),
          List.splitOn_append_cons_self_of_not_mem (noDash _ numberDigits),
          List.splitOn_eq_singleton lastDigits]
        rfl
      case h_2 => cases tail

/-- The text that the source makes of a month. -/
def monthSliceOf (number : Int) : String :=
  monthSlice (toIsoString (firstDay number * 86400000))

theorem utc_month_first_day (number : Int) :
    utcMonth (firstDay number * 86400000) = (number / 12, number % 12 + 1) := by
  rw [utcMonth, Int.mul_ediv_cancel _ (by decide), civil_of_first_day]

theorem month_slice_of_dated {number : Int} (low : 0 ≤ number) (high : number < 120000) :
    isMonth (monthSliceOf number).toList = true ∧
      monthOf (monthSliceOf number).toList = (number / 12, number % 12 + 1) := by
  have dated : isDated (firstDay number * 86400000) := by
    rw [isDated, utc_month_first_day]
    dsimp only
    omega
  rw [← utc_month_first_day]
  exact month_slice_dated dated

theorem month_slice_of_undated {number : Int} (high : 120000 ≤ number) :
    isMonth (monthSliceOf number).toList = false := by
  apply month_slice_undated
  rw [isDated, utc_month_first_day]
  dsimp only
  omega

/-- The month that `Date.UTC` takes the month of the window's end for. -/
def DateText.utcMonthNumber (date : DateText) : Int :=
  if date.year ≤ 99 then date.monthNumber + 22800 else date.monthNumber

theorem forecast_months_eq (date : DateText) (horizonMonths : Nat) :
    forecastMonths date horizonMonths =
      (monthsFrom (date.utcMonthNumber + 1) horizonMonths).map monthSliceOf := by
  obtain ⟨day, parts⟩ := date_text_parts date
  have form := date.form
  rw [isDateForm, Bool.and_eq_true] at form
  obtain ⟨yearLow, yearHigh, monthLow, monthHigh⟩ := month_of_bounds form.1
  have shifted : (if 0 ≤ date.year ∧ date.year ≤ 99 then 1900 + date.year else date.year) * 12 +
      (monthOf (date.text.toList.take 7)).2 = date.utcMonthNumber + 1 := by
    simp only [DateText.utcMonthNumber, DateText.monthNumber, CalendarMonths.monthNumber,
      DateText.year]
    split_ifs <;> omega
  have start : utcMonth (dateUtc (monthOf (date.text.toList.take 7)).1
      (monthOf (date.text.toList.take 7)).2) =
      ((date.utcMonthNumber + 1) / 12, (date.utcMonthNumber + 1) % 12 + 1) := by
    rw [dateUtc, ← utc_month_first_day, ← shifted]
    rfl
  have late : 1200 ≤ date.utcMonthNumber + 1 := by
    rw [← shifted]
    simp only [DateText.year]
    split_ifs <;> omega
  unfold forecastMonths
  dsimp only
  rw [parts, List.getD_cons_zero, List.getD_cons_succ, List.getD_cons_zero]
  change (List.range horizonMonths).map (fun index : Nat => monthSlice (toIsoString (dateUtc
    (utcMonth (dateUtc (monthOf (date.text.toList.take 7)).1
      (monthOf (date.text.toList.take 7)).2)).1
    ((utcMonth (dateUtc (monthOf (date.text.toList.take 7)).1
      (monthOf (date.text.toList.take 7)).2)).2 - 1 + (index : Int))))) = _
  rw [start, monthsFrom, List.map_map]
  apply List.map_congr_left
  intro index _
  have position : (date.utcMonthNumber + 1) / 12 * 12 +
      ((date.utcMonthNumber + 1) % 12 + 1 - 1 + (index : Int)) =
      date.utcMonthNumber + 1 + (index : Int) := by omega
  dsimp only [dateUtc, Function.comp_apply, monthSliceOf]
  rw [if_neg (by omega), position]

end Months

section Dimensions

/-- What a point is about besides its month. -/
def ForecastPoint.dimension (point : ForecastPoint) : String × String × String :=
  (point.provider, point.serviceCode, point.region)

def ForecastUsageMonth.dimension (month : ForecastUsageMonth) : String × String × String :=
  (providerText month.provider, month.serviceCode.text, month.region.text)

/-- `key.split("\u0000")` as the three names that `forecastPoint` gives its parts. -/
def keyDimension (key : String) : String × String × String :=
  let parts := key.toList.splitOn '\x00'
  (String.ofList (parts.getD 0 []), String.ofList (parts.getD 1 []),
    String.ofList (parts.getD 2 []))

theorem key_dimension (month : ForecastUsageMonth) :
    keyDimension (dimensionKey month) = month.dimension := by
  have provider : '\x00' ∉ (providerText month.provider).toList := by
    cases month.provider <;> decide
  have nul : "\x00".toList = ['\x00'] := rfl
  have parts : (dimensionKey month).toList.splitOn '\x00' =
      [(providerText month.provider).toList, month.serviceCode.text.toList,
        month.region.text.toList] := by
    simp only [dimensionKey, String.toList_append, nul, List.append_assoc, List.cons_append,
      List.nil_append]
    rw [List.splitOn_append_cons_self_of_not_mem provider,
      List.splitOn_append_cons_self_of_not_mem month.serviceCode.stored,
      List.splitOn_eq_singleton month.region.stored]
  rw [keyDimension, parts]
  simp only [List.getD_cons_zero, List.getD_cons_succ, String.ofList_toList]
  rfl

theorem dimension_key_eq_iff {left right : ForecastUsageMonth} :
    dimensionKey left = dimensionKey right ↔ left.dimension = right.dimension := by
  constructor
  · intro same
    rw [← key_dimension, ← key_dimension, same]
  · intro same
    simp only [ForecastUsageMonth.dimension, Prod.mk.injEq] at same
    rw [dimensionKey, dimensionKey, same.1, same.2.1, same.2.2]

/-- The rows of a dimension. -/
def historyOf (dimension : String × String × String) (months : List ForecastUsageMonth) :
    List ForecastUsageMonth :=
  months.filter fun month => month.dimension = dimension

theorem mem_dimensions_by_key {months : List ForecastUsageMonth} {key : String}
    {history : List ForecastUsageMonth} :
    (key, history) ∈ dimensionsByKey months ↔
      ∃ row ∈ months, dimensionKey row = key ∧ history = historyOf row.dimension months := by
  rw [dimensionsByKey, mem_group_rows]
  have histories : ∀ row : ForecastUsageMonth,
      months.filter (fun month => dimensionKey month = dimensionKey row) =
        historyOf row.dimension months :=
    fun row => List.filter_congr fun month _ => by rw [decide_eq_decide, dimension_key_eq_iff]
  constructor
  · rintro ⟨rfl, nonempty⟩
    obtain ⟨row, kept⟩ := List.exists_mem_of_ne_nil _ nonempty
    obtain ⟨member, own⟩ := List.mem_filter.mp kept
    have same : dimensionKey row = key := of_decide_eq_true own
    subst same
    exact ⟨row, member, rfl, histories row⟩
  · rintro ⟨row, member, rfl, rfl⟩
    refine ⟨(histories row).symm, ?_⟩
    exact List.ne_nil_of_mem (List.mem_filter.mpr ⟨member, decide_eq_true rfl⟩)

theorem dimensions_nodup (months : List ForecastUsageMonth) :
    ((dimensionsByKey months).map fun entry => keyDimension entry.1).Nodup := by
  have keys := group_keys_nodup dimensionKey months
  have mapped : ((dimensionsByKey months).map fun entry => keyDimension entry.1) =
      ((dimensionsByKey months).map Prod.fst).map keyDimension := by
    rw [List.map_map]
    rfl
  rw [mapped]
  refine keys.map_on ?_
  intro left leftMember right rightMember same
  obtain ⟨⟨_, leftHistory⟩, leftEntry, rfl⟩ := List.mem_map.mp leftMember
  obtain ⟨⟨_, rightHistory⟩, rightEntry, rfl⟩ := List.mem_map.mp rightMember
  obtain ⟨leftRow, _, leftKey, _⟩ := mem_dimensions_by_key.mp leftEntry
  obtain ⟨rightRow, _, rightKey, _⟩ := mem_dimensions_by_key.mp rightEntry
  dsimp only at leftKey rightKey same ⊢
  rw [← leftKey, ← rightKey, key_dimension, key_dimension] at same
  rw [← leftKey, ← rightKey]
  exact dimension_key_eq_iff.mpr same

end Dimensions

section Averages

/-- The rows that a value of a dimension and a calendar month comes from. -/
def basisOf (history : List ForecastUsageMonth) (calendarMonth : Int) :
    List ForecastUsageMonth :=
  let seasonal := history.filter fun row => (monthOf row.month.text.toList).2 = calendarMonth
  if seasonal = [] then history else seasonal

theorem total_cents (months : List ForecastUsageMonth) :
    months.foldl (fun sum month => sum + month.onDemandCostCents) 0 =
      (months.map fun month => month.onDemandCostCents).sum := by
  rw [List.sum_eq_foldl, List.foldl_map]

theorem average_cents_eq (months : List ForecastUsageMonth) :
    averageCents months =
      ((months.map fun month => month.onDemandCostCents).sum + (months.length : Int) / 2) /
        (months.length : Int) := by
  have nonneg : 0 ≤ (months.map fun month => month.onDemandCostCents).sum := by
    apply List.sum_nonneg
    simp only [List.mem_map, forall_exists_index, and_imp, forall_apply_eq_imp_iff₂]
    exact fun month _ => month.nonneg
  unfold averageCents
  dsimp only
  rw [total_cents, Int.tdiv_eq_ediv_of_nonneg (Int.natCast_nonneg _),
    Int.tdiv_eq_ediv_of_nonneg (by omega)]

/-- The mean of rows, rounded half up. -/
theorem average_rounded {months : List ForecastUsageMonth} (nonempty : months ≠ []) :
    averageCents months =
      ⌊((months.map fun month => month.onDemandCostCents).sum / months.length : ℚ) + 1 / 2⌋ := by
  rw [average_cents_eq, half_added_quotient _ (List.length_pos_of_ne_nil nonempty)]

/-- A mean lies between two of its rows. -/
theorem average_between {months : List ForecastUsageMonth} (nonempty : months ≠ []) :
    (∃ least ∈ months, least.onDemandCostCents ≤ averageCents months) ∧
      ∃ greatest ∈ months, averageCents months ≤ greatest.onDemandCostCents := by
  have positive : 0 < (months.length : Int) :=
    Int.natCast_pos.mpr (List.length_pos_of_ne_nil nonempty)
  have rounded := average_cents_eq months
  obtain ⟨half, isHalf⟩ : ∃ half, (months.length : Int) / 2 = half := ⟨_, rfl⟩
  have halfLow : 0 ≤ half := by omega
  have halfHigh : half < months.length := by omega
  rw [isHalf] at rounded
  constructor
  · by_contra none
    simp only [not_exists, not_and, not_le] at none
    have sum := List.card_nsmul_le_sum (months.map fun month => month.onDemandCostCents)
      (averageCents months + 1)
      (by simpa using fun month member => Int.add_one_le_of_lt (none month member))
    rw [List.length_map, nsmul_eq_mul] at sum
    have above : averageCents months + 1 ≤ averageCents months := by
      conv_rhs => rw [rounded]
      rw [Int.le_ediv_iff_mul_le positive, mul_comm]
      exact le_trans sum (by omega)
    omega
  · by_contra none
    simp only [not_exists, not_and, not_le] at none
    have sum := List.sum_le_card_nsmul (months.map fun month => month.onDemandCostCents)
      (averageCents months - 1)
      (by simpa using fun month member => Int.le_sub_one_of_lt (none month member))
    rw [List.length_map, nsmul_eq_mul, mul_comm] at sum
    have below : averageCents months < averageCents months := by
      conv_lhs => rw [rounded]
      rw [Int.ediv_lt_iff_lt_mul positive]
      have product : averageCents months * (months.length : Int) =
          (averageCents months - 1) * (months.length : Int) + months.length := by ring
      rw [product]
      exact Int.add_lt_add_of_le_of_lt sum halfHigh
    omega

theorem average_cents_perm {left right : List ForecastUsageMonth} (permuted : left.Perm right) :
    averageCents left = averageCents right := by
  rw [average_cents_eq, average_cents_eq, permuted.length_eq, (permuted.map _).sum_eq]

end Averages

section Points

theorem month_of_year_eq_iff {left right : String} (leftMonth : isMonth left.toList = true)
    (rightMonth : isMonth right.toList = true) :
    monthOfYear left = monthOfYear right ↔
      (monthOf left.toList).2 = (monthOf right.toList).2 := by
  obtain ⟨leftYear, leftNumber, leftSplit, leftFour, leftTwo, _, leftDigits⟩ :=
    is_month_parts leftMonth
  obtain ⟨rightYear, rightNumber, rightSplit, rightFour, rightTwo, _, rightDigits⟩ :=
    is_month_parts rightMonth
  have numbers : ∀ year number : List Char, year.length = 4 →
      (year ++ '-' :: number).drop 5 = number := by
    intro year number four
    rw [show 5 = year.length + 1 by omega, List.drop_append]
    simp
  rw [monthOfYear, monthOfYear, monthOf, monthOf, leftSplit, rightSplit, numbers _ _ leftFour,
    numbers _ _ rightFour, List.take_of_length_le leftTwo.le, List.take_of_length_le rightTwo.le]
  constructor
  · rintro rfl
    rfl
  · intro same
    exact digits_value_injective leftDigits rightDigits (leftTwo.trans rightTwo.symm)
      (Int.natCast_inj.mp same)

theorem forecast_point_dimension (row : ForecastUsageMonth) (history : List ForecastUsageMonth)
    (month : String) :
    (forecastPoint (dimensionKey row) history month).dimension = row.dimension :=
  key_dimension row

theorem forecast_point_month (key : String) (history : List ForecastUsageMonth)
    (month : String) : (forecastPoint key history month).month = month := rfl

/-- For a month's text, the point's value is the mean of its basis. -/
theorem forecast_point_cents {key : String} {history : List ForecastUsageMonth} {month : String}
    (form : isMonth month.toList = true) :
    (forecastPoint key history month).forecastOnDemandCostCents =
      averageCents (basisOf history (monthOf month.toList).2) := by
  have seasonal : history.filter (fun entry => monthOfYear entry.month.text = monthOfYear month) =
      history.filter fun entry =>
        (monthOf entry.month.text.toList).2 = (monthOf month.toList).2 :=
    List.filter_congr fun entry _ => by
      rw [decide_eq_decide, month_of_year_eq_iff entry.month.form form]
  unfold forecastPoint basisOf
  dsimp only
  rw [seasonal]
  congr 1
  by_cases empty : history.filter (fun entry =>
      (monthOf entry.month.text.toList).2 = (monthOf month.toList).2) = []
  · rw [if_neg (by rw [empty]; decide), if_pos empty]
  · rw [if_pos (List.length_pos_of_ne_nil empty), if_neg empty]

theorem forecast_point_perm {key : String} {left right : List ForecastUsageMonth}
    {month : String} (permuted : left.Perm right) :
    forecastPoint key left month = forecastPoint key right month := by
  have seasonal := permuted.filter fun entry => monthOfYear entry.month.text = monthOfYear month
  unfold forecastPoint
  dsimp only
  rw [seasonal.length_eq]
  split_ifs
  · rw [average_cents_perm seasonal]
  · rw [average_cents_perm permuted]

theorem basis_of_nonempty {history : List ForecastUsageMonth} {calendarMonth : Int}
    (nonempty : history ≠ []) : basisOf history calendarMonth ≠ [] := by
  unfold basisOf
  dsimp only
  split_ifs with empty
  · exact nonempty
  · exact empty

theorem history_of_nonempty {months : List ForecastUsageMonth} {row : ForecastUsageMonth}
    (member : row ∈ months) : historyOf row.dimension months ≠ [] :=
  List.ne_nil_of_mem (List.mem_filter.mpr ⟨member, decide_eq_true rfl⟩)

variable {runtime : ForecastRuntime} {run : ForecastWorkerRun}
  {months : List ForecastUsageMonth} {minHistoryDays : Int}

theorem mem_forecast_points {point : ForecastPoint} :
    point ∈ (buildSeasonalNaiveArtifact runtime run months minHistoryDays).forecastPoints ↔
      ∃ row ∈ months, ∃ number ∈
          monthsFrom (run.inputWindowEnd.utcMonthNumber + 1) run.horizonMonths.months,
        point = forecastPoint (dimensionKey row) (historyOf row.dimension months)
          (monthSliceOf number) := by
  simp only [buildSeasonalNaiveArtifact, forecast_months_eq, List.mem_flatMap, List.mem_map,
    exists_exists_and_eq_and]
  constructor
  · rintro ⟨⟨key, history⟩, listed, number, inside, rfl⟩
    obtain ⟨row, member, rfl, rfl⟩ := mem_dimensions_by_key.mp listed
    exact ⟨row, member, number, inside, rfl⟩
  · rintro ⟨row, member, number, inside, rfl⟩
    exact ⟨(_, _), mem_dimensions_by_key.mpr ⟨row, member, rfl, rfl⟩, number, inside, rfl⟩

theorem forecast_pairs :
    ((buildSeasonalNaiveArtifact runtime run months minHistoryDays).forecastPoints.map
      fun point => (point.dimension, monthOf point.month.toList)) =
      ((dimensionsByKey months).map fun entry => keyDimension entry.1).product
        ((monthsFrom (run.inputWindowEnd.utcMonthNumber + 1) run.horizonMonths.months).map
          fun number => monthOf (monthSliceOf number).toList) := by
  simp only [buildSeasonalNaiveArtifact, forecast_months_eq, List.map_flatMap, List.map_map,
    List.product, List.flatMap_map]
  rfl

end Points

section Claim

/-- The calendar months that follow the window, by year and month. -/
def ForecastWorkerRun.calendarMonths (run : ForecastWorkerRun) : List (Int × Int) :=
  (monthsFrom (run.inputWindowEnd.monthNumber + 1) run.horizonMonths.months).map
    fun number => (number / 12, number % 12 + 1)

/-- What a seasonal-naive forecast of usage months is. -/
structure SeasonalNaive (run : ForecastWorkerRun)
    (forecast : List ForecastUsageMonth → List ForecastPoint)
    (months : List ForecastUsageMonth) : Prop where
  named : ∀ point ∈ forecast months, isMonth point.month.toList = true
  once : ((forecast months).map fun point =>
    (point.dimension, monthOf point.month.toList)).Nodup
  pairs : ∀ dimension month,
    (dimension, month) ∈ (forecast months).map
        (fun point => (point.dimension, monthOf point.month.toList)) ↔
      (∃ row ∈ months, row.dimension = dimension) ∧ month ∈ run.calendarMonths
  averaged : ∀ point ∈ forecast months,
    let basis := basisOf (historyOf point.dimension months) (monthOf point.month.toList).2
    point.forecastOnDemandCostCents =
      ⌊((basis.map fun row => row.onDemandCostCents).sum / basis.length : ℚ) + 1 / 2⌋ ∧
    (∃ least ∈ basis, least.onDemandCostCents ≤ point.forecastOnDemandCostCents) ∧
    ∃ greatest ∈ basis, point.forecastOnDemandCostCents ≤ greatest.onDemandCostCents
  unordered : ∀ shuffled, months.Perm shuffled →
    ∀ point, point ∈ forecast shuffled ↔ point ∈ forecast months

variable {runtime : ForecastRuntime} {run : ForecastWorkerRun}
  {months : List ForecastUsageMonth} {minHistoryDays : Int}

theorem forecast_points_perm {shuffled : List ForecastUsageMonth}
    (permuted : months.Perm shuffled) (point : ForecastPoint) :
    point ∈ (buildSeasonalNaiveArtifact runtime run shuffled minHistoryDays).forecastPoints ↔
      point ∈ (buildSeasonalNaiveArtifact runtime run months minHistoryDays).forecastPoints := by
  have same : ∀ row : ForecastUsageMonth, ∀ month,
      forecastPoint (dimensionKey row) (historyOf row.dimension shuffled) month =
        forecastPoint (dimensionKey row) (historyOf row.dimension months) month :=
    fun row month => (forecast_point_perm (permuted.filter _)).symm
  simp only [mem_forecast_points, same, permuted.mem_iff]

theorem forecast_points_averaged {point : ForecastPoint}
    (member : point ∈ (buildSeasonalNaiveArtifact runtime run months minHistoryDays).forecastPoints)
    (form : isMonth point.month.toList = true) :
    let basis := basisOf (historyOf point.dimension months) (monthOf point.month.toList).2
    point.forecastOnDemandCostCents =
      ⌊((basis.map fun row => row.onDemandCostCents).sum / basis.length : ℚ) + 1 / 2⌋ ∧
    (∃ least ∈ basis, least.onDemandCostCents ≤ point.forecastOnDemandCostCents) ∧
    ∃ greatest ∈ basis, point.forecastOnDemandCostCents ≤ greatest.onDemandCostCents := by
  obtain ⟨row, listed, number, _, rfl⟩ := mem_forecast_points.mp member
  rw [forecast_point_month] at form
  have nonempty := @basis_of_nonempty _ (monthOf (monthSliceOf number).toList).2
    (history_of_nonempty listed)
  dsimp only
  rw [forecast_point_dimension, forecast_point_month, forecast_point_cents form]
  exact ⟨average_rounded nonempty, average_between nonempty⟩

/-- The months of the forecast have texts and are those that follow the window. -/
def ForecastWorkerRun.inCalendar (run : ForecastWorkerRun) : Prop :=
  100 ≤ run.inputWindowEnd.year ∧
    run.inputWindowEnd.monthNumber + run.horizonMonths.months < 120000

theorem date_number_bounds (date : DateText) :
    0 ≤ date.monthNumber ∧ date.monthNumber < 120000 ∧ 12 * date.year ≤ date.monthNumber := by
  have form := date.form
  rw [isDateForm, Bool.and_eq_true] at form
  obtain ⟨yearLow, yearHigh, monthLow, monthHigh⟩ := month_of_bounds form.1
  simp only [DateText.monthNumber, DateText.year, CalendarMonths.monthNumber]
  omega

theorem calendar_months_named (calendar : run.inCalendar) :
    (∀ number ∈ monthsFrom (run.inputWindowEnd.utcMonthNumber + 1) run.horizonMonths.months,
      isMonth (monthSliceOf number).toList = true) ∧
    ((monthsFrom (run.inputWindowEnd.utcMonthNumber + 1) run.horizonMonths.months).map
      fun number => monthOf (monthSliceOf number).toList) = run.calendarMonths := by
  obtain ⟨late, last⟩ := calendar
  obtain ⟨low, _, _⟩ := date_number_bounds run.inputWindowEnd
  have same : run.inputWindowEnd.utcMonthNumber = run.inputWindowEnd.monthNumber :=
    if_neg (by omega)
  have dated : ∀ number ∈
      monthsFrom (run.inputWindowEnd.monthNumber + 1) run.horizonMonths.months,
      isMonth (monthSliceOf number).toList = true ∧
        monthOf (monthSliceOf number).toList = (number / 12, number % 12 + 1) := by
    intro number inside
    obtain ⟨after, before⟩ := mem_months_from.mp inside
    exact month_slice_of_dated (by omega) (by omega)
  rw [same]
  exact ⟨fun number inside => (dated number inside).1,
    List.map_congr_left fun number inside => (dated number inside).2⟩

theorem calendar_months_nodup (run : ForecastWorkerRun) : run.calendarMonths.Nodup := by
  have distinct := (months_from_increasing (run.inputWindowEnd.monthNumber + 1)
    run.horizonMonths.months).imp fun before => ne_of_lt before
  refine List.Nodup.map ?_ distinct
  intro left right same
  simp only [Prod.mk.injEq] at same
  omega

theorem seasonal_naive_in_calendar (calendar : run.inCalendar) :
    SeasonalNaive run
      (fun rows => (buildSeasonalNaiveArtifact runtime run rows minHistoryDays).forecastPoints)
      months := by
  obtain ⟨named, calendarMonths⟩ := calendar_months_named calendar
  have formed : ∀ point ∈
      (buildSeasonalNaiveArtifact runtime run months minHistoryDays).forecastPoints,
      isMonth point.month.toList = true := by
    intro point member
    obtain ⟨row, listed, number, inside, rfl⟩ := mem_forecast_points.mp member
    exact named number inside
  refine ⟨formed, ?_, ?_, fun point member => forecast_points_averaged member (formed point member),
    fun shuffled permuted point => forecast_points_perm permuted point⟩
  · rw [forecast_pairs, calendarMonths]
    exact (dimensions_nodup months).product (calendar_months_nodup run)
  · intro dimension month
    rw [forecast_pairs, calendarMonths, List.pair_mem_product]
    refine and_congr_left fun _ => ?_
    rw [List.mem_map]
    constructor
    · rintro ⟨⟨key, history⟩, listed, rfl⟩
      obtain ⟨row, member, rfl, _⟩ := mem_dimensions_by_key.mp listed
      exact ⟨row, member, (key_dimension row).symm⟩
    · rintro ⟨row, member, rfl⟩
      exact ⟨_, mem_dimensions_by_key.mpr ⟨row, member, rfl, rfl⟩, key_dimension row⟩

/-- A forecast of usage whose months are named and follow the window is in the calendar. -/
theorem in_calendar_of_seasonal_naive {row : ForecastUsageMonth} (member : row ∈ months)
    (correct : SeasonalNaive run
      (fun rows => (buildSeasonalNaiveArtifact runtime run rows minHistoryDays).forecastPoints)
      months) :
    run.inCalendar := by
  have offered := run.horizonMonths.offered
  have positive : 1 ≤ run.horizonMonths.months ∧ run.horizonMonths.months ≤ 36 := by
    simp only [List.mem_cons, List.not_mem_nil, or_false] at offered
    omega
  obtain ⟨low, high, yearBound⟩ := date_number_bounds run.inputWindowEnd
  have listed : ∀ number ∈
      monthsFrom (run.inputWindowEnd.utcMonthNumber + 1) run.horizonMonths.months,
      forecastPoint (dimensionKey row) (historyOf row.dimension months) (monthSliceOf number) ∈
        (buildSeasonalNaiveArtifact runtime run months minHistoryDays).forecastPoints :=
    fun number inside => mem_forecast_points.mpr ⟨row, member, number, inside, rfl⟩
  have named : ∀ number ∈
      monthsFrom (run.inputWindowEnd.utcMonthNumber + 1) run.horizonMonths.months,
      number < 120000 := by
    intro number inside
    by_contra late
    have form := correct.named _ (listed number inside)
    rw [forecast_point_month, month_slice_of_undated (not_lt.mp late)] at form
    cases form
  have bound : run.inputWindowEnd.utcMonthNumber + run.horizonMonths.months < 120000 :=
    named _ (mem_months_from.mpr (by omega))
  by_cases early : run.inputWindowEnd.year ≤ 99
  · -- the first point is about a month of another year
    have shifted : run.inputWindowEnd.utcMonthNumber = run.inputWindowEnd.monthNumber + 22800 :=
      if_pos early
    obtain ⟨first, isFirst⟩ : ∃ first, run.inputWindowEnd.utcMonthNumber + 1 = first := ⟨_, rfl⟩
    have inside : first ∈
        monthsFrom (run.inputWindowEnd.utcMonthNumber + 1) run.horizonMonths.months :=
      mem_months_from.mpr (by omega)
    have names := (month_slice_of_dated (by omega) (named first inside)).2
    have pair := (correct.pairs _ _).mp (List.mem_map_of_mem (listed first inside)) |>.2
    rw [forecast_point_month, names] at pair
    obtain ⟨number, between, same⟩ := List.mem_map.mp pair
    obtain ⟨_, before⟩ := mem_months_from.mp between
    simp only [Prod.mk.injEq] at same
    omega
  · have same : run.inputWindowEnd.utcMonthNumber = run.inputWindowEnd.monthNumber := if_neg early
    exact ⟨by omega, by rwa [← same]⟩

/-- The artifact is the seasonal-naive forecast exactly when there is no usage, or the window
ends in the year 100 or later and the horizon before the year 10000. -/
theorem seasonal_naive_iff (runtime : ForecastRuntime) (run : ForecastWorkerRun)
    (months : List ForecastUsageMonth) (minHistoryDays : Int) :
    SeasonalNaive run
        (fun rows => (buildSeasonalNaiveArtifact runtime run rows minHistoryDays).forecastPoints)
        months ↔
      months = [] ∨ run.inCalendar := by
  constructor
  · intro correct
    rcases List.eq_nil_or_concat' months with empty | ⟨_, row, rfl⟩
    · exact Or.inl empty
    · exact Or.inr (in_calendar_of_seasonal_naive (List.mem_append_right _ List.mem_cons_self)
        correct)
  · rintro (rfl | calendar)
    · refine ⟨nofun, List.nodup_nil, fun dimension month => ?_, nofun, ?_⟩
      · constructor
        · nofun
        · rintro ⟨⟨_, none, _⟩, _⟩
          cases none
      · intro shuffled permuted point
        rw [List.nil_perm.mp permuted]
    · exact seasonal_naive_in_calendar calendar

def exampleService : ColumnText := ⟨"AmazonEC2", by decide⟩

def exampleRegion : ColumnText := ⟨"us-east-1", by decide⟩

def earlyRow : ForecastUsageMonth where
  month := ⟨"0050-12", by decide⟩
  provider := .aws
  serviceCode := exampleService
  region := exampleRegion
  onDemandCostCents := 100
  realizedCostCents := 100
  usageQuantity := 100000000
  lineItemCount := 1
  nonneg := by decide

/-- Every text is the last midnight of the year 50. -/
def earlyRuntime : ForecastRuntime where
  parseDate := fun _ => some ⟨(firstDay 612 - 1) * 86400000, by decide⟩

def earlyBody : Json := .object [
  ("forecast_model_id", .string "00000000-0000-4000-8000-000000000001"),
  ("input_window_start", .string "0050-12-31"),
  ("input_window_end", .string "0050-12-31"),
  ("horizon_months", .number (some 1))]

/-- The forecast of a window that ends in December of the year 50 is about January 1951. -/
theorem early_window_forecast : ∃ input run,
    parseForecastRunCreateBody earlyRuntime earlyBody 42 = some input ∧
    run.inputWindowEnd = input.inputWindowEnd ∧ run.horizonMonths = input.horizonMonths ∧
    ((buildSeasonalNaiveArtifact earlyRuntime run [earlyRow] 90).forecastPoints.map
      fun point => point.month) = ["1951-01"] ∧
    ¬ SeasonalNaive run
      (fun rows => (buildSeasonalNaiveArtifact earlyRuntime run rows 90).forecastPoints)
      [earlyRow] := by
  let windowEnd : DateText := ⟨"0050-12-31", by decide⟩
  let horizonMonths : Horizon := ⟨1, by decide⟩
  let run : ForecastWorkerRun :=
    { id := 1, forecastModelId := 2, method := "seasonal_naive", inputWindowStart := windowEnd,
      inputWindowEnd := windowEnd, horizonMonths, randomSeed := 42 }
  refine ⟨⟨"00000000-0000-4000-8000-000000000001", windowEnd, windowEnd, horizonMonths, 42⟩, run,
    by decide, rfl, rfl, by decide +kernel, fun correct => ?_⟩
  obtain ⟨late, _⟩ := in_calendar_of_seasonal_naive List.mem_cons_self correct
  exact absurd late (by decide)

end Claim

end CommitmentOptimizer.Forecasting.SeasonalForecast
