import Mathlib.Algebra.Order.Round
import CommitmentOptimizer.Foundations.HalfAwayRounding
import CommitmentOptimizer.Imports.CsvAgreement

/-!
# Rounding of AWS costs

The decimal number that a money text stands for, and the cents that it is rounded to.
-/

namespace CommitmentOptimizer.Imports.MoneyRounding

open Foundations
open Foundations.BigIntText
open Foundations.HalfAwayRounding
open Foundations.IsoInstants
open Foundations.SqlConstraints
open Recommendations.RecommendationLifecycle
open UsageRows
open ControlTotals
open UsageParsers
open CsvAgreement

set_option autoImplicit false

section Money

/-- The number that a decimal text stands for. -/
def decimalValue (text : List Char) : ℚ :=
  let (whole, fraction) := splitPoint text
  digitsValue whole + digitsValue fraction / 10 ^ fraction.length

theorem digits_value_append_zeros (digits : List Char) (count : Nat) :
    digitsValue (digits ++ List.replicate count '0') = digitsValue digits * 10 ^ count := by
  induction count with
  | zero => rw [List.replicate_zero, List.append_nil, Nat.pow_zero, Nat.mul_one]
  | succ count induction =>
      have zero : '0'.toNat - 48 = 0 := rfl
      rw [List.replicate_succ', ← List.append_assoc, digits_value_append_singleton, induction,
        zero, Nat.add_zero, Nat.pow_succ, Nat.mul_comm 10, Nat.mul_assoc]

theorem split_point_plain {text : List Char} (plain : '.' ∉ text) :
    splitPoint text = (text, []) := by
  have each : ∀ character ∈ text, decide (character ≠ '.') = true := by
    intro character member
    exact decide_eq_true fun same => plain (same ▸ member)
  unfold splitPoint
  rw [List.takeWhile_eq_self_iff.mpr each, List.dropWhile_eq_nil_iff.mpr each]
  rfl

theorem digits_plain {digits : List Char} (each : ∀ character ∈ digits, character.isDigit = true) :
    '.' ∉ digits := by
  intro member
  cases each '.' member

/-- A text of the money pattern has at most ten digits after the point, and nothing to
trim. -/
theorem money_parts {text : List Char} (money : isMoney text = true) :
    (splitPoint text).2.length ≤ 10 ∧ jsTrim text = text := by
  unfold isMoney at money
  dsimp only at money
  simp only [Bool.and_eq_true, Bool.or_eq_true, decide_eq_true_eq, List.all_eq_true] at money
  obtain ⟨⟨decimal, _⟩, alone | ⟨⟨⟨split, _⟩, short⟩, fractionDigits⟩⟩ := money
  · have digits := (is_decimal_digits decimal).2
    rw [← alone] at digits
    refine ⟨?_, trim_digits digits⟩
    rw [split_point_plain (digits_plain digits)]
    exact Nat.zero_le 10
  · refine ⟨short, trim_visible ?_⟩
    intro character member
    rw [split] at member
    rcases List.mem_append.mp member with whole | rest
    · exact digit_not_space ((is_decimal_digits decimal).2 character whole)
    rcases List.mem_cons.mp rest with rfl | fraction
    · decide
    · exact digit_not_space (fractionDigits character fraction)

/-- The cents are the nearest integer, the upper one for a half. -/
theorem money_cents_eq {value : String} (money : isMoney value.toList = true) :
    ∃ cents, moneyCents value = some cents ∧
      (cents.value : ℤ) = round (100 * decimalValue value.toList) := by
  obtain ⟨short, trimmed⟩ := money_parts money
  unfold moneyCents
  dsimp only
  rw [trimmed, if_pos money]
  refine ⟨_, rfl, ?_⟩
  unfold decimalValue
  dsimp only
  rw [UnsignedText.value, digits_value_to_string, digits_value_append_zeros]
  generalize digitsValue (splitPoint value.toList).1 = whole
  generalize digitsValue (splitPoint value.toList).2 = fraction
  generalize (splitPoint value.toList).2.length = length at short ⊢
  have powers : (10 : ℚ) ^ (10 - length) * 10 ^ length = 10000000000 := by
    rw [← pow_add, Nat.sub_add_cancel short]
    norm_num
  have scaled : 100 * (whole + fraction / 10 ^ length : ℚ) =
      ((((whole * 10000000000 + fraction * 10 ^ (10 - length)) * 100 : ℕ) : ℤ) : ℚ) /
        (10000000000 : ℕ) := by
    push_cast
    rw [← powers]
    field_simp
  rw [round_eq, scaled, ← half_added_quotient _ (by norm_num)]
  push_cast
  norm_num

theorem money_cents_mono {left right : String} {leftCents rightCents : UnsignedText}
    (leftMoney : isMoney left.toList = true) (rightMoney : isMoney right.toList = true)
    (isLeft : moneyCents left = some leftCents) (isRight : moneyCents right = some rightCents)
    (less : decimalValue left.toList ≤ decimalValue right.toList) :
    leftCents.value ≤ rightCents.value := by
  obtain ⟨leftRound, leftIs, leftValue⟩ := money_cents_eq leftMoney
  obtain ⟨rightRound, rightIs, rightValue⟩ := money_cents_eq rightMoney
  obtain rfl := Option.some.inj (leftIs.symm.trans isLeft)
  obtain rfl := Option.some.inj (rightIs.symm.trans isRight)
  have rounded : (leftRound.value : ℤ) ≤ rightRound.value := by
    rw [leftValue, rightValue, round_eq, round_eq]
    exact Int.floor_mono (by linarith)
  exact_mod_cast rounded

end Money

section Rows

/-- The costs of a row in cents: what its columns hold, and what was saved. -/
structure CostsRead (header row : List String) (item : UsageLineItem) : Prop where
  onDemand : moneyCents ((firstCell header row "pricing/publicOnDemandCost").getD "") =
    some item.onDemandCostCents
  realized : moneyCents (realizedCostText header row) = some item.realizedCostCents
  nonneg : 0 ≤ (item.commitmentAppliedCents.value : ℤ)
  allocated : (item.commitmentAppliedCents.value : ℤ) ≤ item.onDemandCostCents.value
  saved : (item.commitmentAppliedCents.value : ℤ) =
    max 0 (item.onDemandCostCents.value - item.realizedCostCents.value)

theorem costs_read {runtime : ImportRuntime} {header row : List String} {item : UsageLineItem}
    (accepted : awsUsageRow runtime header row = .ok item) : CostsRead header row item := by
  have read := aws_usage_row_read accepted
  have value : item.commitmentAppliedCents.value =
      item.onDemandCostCents.value - item.realizedCostCents.value := by
    rw [read.commitmentAppliedCents, commitment_applied_value]
  exact
    { onDemand := read.onDemandCostCents
      realized := read.realizedCostCents
      nonneg := Int.natCast_nonneg _
      allocated := by omega
      saved := by omega }

/-- Costs are rounded exactly and monotonically, and every row of an accepted file is charged
what its columns hold. -/
theorem aws_costs_exact (runtime : ImportRuntime) :
    (∀ value : String, isMoney value.toList = true → ∃ cents, moneyCents value = some cents ∧
      (cents.value : ℤ) = round (100 * decimalValue value.toList)) ∧
    (∀ (left right : String) (leftCents rightCents : UnsignedText),
      isMoney left.toList = true → isMoney right.toList = true →
      moneyCents left = some leftCents → moneyCents right = some rightCents →
      decimalValue left.toList ≤ decimalValue right.toList →
      leftCents.value ≤ rightCents.value) ∧
    ∀ (bytes : List UInt8) (account : Provider) (totals : List ImportControlTotal)
      (parsed : ParsedUsage),
      parseAwsCurCsvImport runtime bytes account totals = .parsed parsed →
      ∃ header rows, awsDataRows runtime bytes = some (header, rows) ∧
        List.Forall₂ (CostsRead header) rows parsed.rows := by
  refine ⟨fun _ money => money_cents_eq money,
    fun _ _ _ _ leftMoney rightMoney isLeft isRight less =>
      money_cents_mono leftMoney rightMoney isLeft isRight less, ?_⟩
  intro bytes account totals parsed accepted
  obtain ⟨header, rows, data, each, _⟩ := aws_import_read accepted
  exact ⟨header, rows, data, each.imp fun _ _ read => costs_read read⟩

/-- An AWS file with one row that costs ten and a half cents. -/
def halfCent : List UInt8 := csvBytes
  [["lineItem/UsageAccountId", "lineItem/ProductCode", "lineItem/UsageType", "product/region",
      "lineItem/UsageStartDate", "lineItem/UsageEndDate", "lineItem/UsageAmount",
      "lineItem/UsageUnit", "pricing/publicOnDemandCost", "lineItem/UnblendedCost"],
    ["123456789012", "AmazonEC2", "BoxUsage:m5.large", "eu-west-1", "2024-02-29T00:00:00Z",
      "2024-02-29T01:00:00Z", "1.00000000", "Hrs", "0.105", "0.07"]]

theorem half_cent_costs_exact :
    (∃ cents, moneyCents "0.105" = some cents ∧
      (cents.value : ℤ) = round (100 * decimalValue "0.105".toList)) ∧
    ∃ totals parsed, parseAwsCurCsvImport exampleRuntime halfCent .aws totals = .parsed parsed ∧
      (parsed.rows.map fun row => row.commitmentAppliedCents.value) = [4] ∧
      ∃ header rows, awsDataRows exampleRuntime halfCent = some (header, rows) ∧
        List.Forall₂ (CostsRead header) rows parsed.rows := by
  refine ⟨(aws_costs_exact exampleRuntime).1 "0.105" (by decide +kernel), ?_⟩
  have facts : (controlTotals exampleRuntime.normalize [exampleEntry "1"]).any (fun totals =>
      (acceptedOf (parseAwsCurCsvImport exampleRuntime halfCent .aws totals)).any fun accepted =>
        (accepted.2.map fun row => row.commitmentAppliedCents.value) = [4]) = true := by
    decide +kernel
  obtain ⟨totals, _, imports⟩ := (Option.any_eq_true _ _).mp facts
  cases accepted : parseAwsCurCsvImport exampleRuntime halfCent .aws totals with
  | parsed parsed =>
      rw [accepted] at imports
      exact ⟨totals, parsed, accepted, of_decide_eq_true imports,
        (aws_costs_exact exampleRuntime).2.2 halfCent .aws totals parsed accepted⟩
  | quarantined =>
      rw [accepted] at imports
      cases imports

end Rows

end CommitmentOptimizer.Imports.MoneyRounding
