import CommitmentOptimizer.Optimizer.Candidates
import CommitmentOptimizer.Optimizer.EconomicKernel

/-!
# The economic kernels agree

As long as no operation of the Zig kernel overflows, it computes what the
JavaScript reference and the worker compute with unbounded integers.
-/

namespace CommitmentOptimizer.Optimizer.KernelAgreement

open Foundations
open Foundations.BigIntText
open Candidates
open EconomicKernel

set_option autoImplicit false

section Arithmetic

theorem checked_some {value result : Int} :
    checked value = some result ↔ WithinI128 value ∧ value = result := by
  unfold checked
  split_ifs with within
  · exact ⟨fun same => ⟨within, Option.some.inj same⟩, fun both => congrArg some both.2⟩
  · simp [within]

/-- `divRoundHalfUp` without the bounds. -/
def roundHalfUp (numerator denominator : Int) : Int :=
  (numerator + denominator.tdiv 2).tdiv denominator

theorem div_round_half_up_some {numerator denominator result : Int}
    (divided : divRoundHalfUp numerator denominator = some result) :
    denominator ≠ 0 ∧ result = roundHalfUp numerator denominator := by
  simp only [divRoundHalfUp, divTrunc, Option.bind_eq_bind, Option.bind_eq_some_iff] at divided
  obtain ⟨half, halved, raised, added, final⟩ := divided
  rw [if_neg (by decide), checked_some] at halved
  split_ifs at final with zero
  obtain ⟨_, rfl⟩ := halved
  obtain ⟨_, rfl⟩ := checked_some.mp added
  exact ⟨zero, (checked_some.mp final).2.symm⟩

theorem tdiv_within {value divisor : Int} (nonneg : 0 ≤ value) (within : WithinI128 value)
    (positive : 0 < divisor) : WithinI128 (value.tdiv divisor) := by
  have lower := Int.tdiv_nonneg nonneg positive.le
  have upper := Int.tdiv_le_self divisor nonneg
  exact ⟨by omega, by omega⟩

theorem div_round_half_up_within {numerator denominator : Int} (nonneg : 0 ≤ numerator)
    (positive : 0 < denominator) (denominatorWithin : WithinI128 denominator)
    (raisedWithin : WithinI128 (numerator + denominator.tdiv 2)) :
    divRoundHalfUp numerator denominator = some (roundHalfUp numerator denominator) := by
  have half := tdiv_within positive.le denominatorWithin (show (0 : Int) < 2 by decide)
  have halfNonneg := Int.tdiv_nonneg positive.le (show (0 : Int) ≤ 2 by decide)
  have quotient := tdiv_within (by omega) raisedWithin positive
  simp only [divRoundHalfUp, divTrunc, if_neg (show ¬ (2 : Int) = 0 by decide),
    if_neg positive.ne', checked, if_pos half, if_pos raisedWithin, if_pos quotient,
    Option.bind_eq_bind, Option.bind_some, roundHalfUp]

/-- The rounding of the worker on amounts. -/
theorem rounded_div_nonneg {numerator denominator : Int} (nonneg : 0 ≤ numerator)
    (positive : 0 < denominator) :
    roundedDiv numerator denominator = roundHalfUp numerator denominator := by
  rw [roundedDiv, if_neg positive.ne', if_pos nonneg, roundHalfUp]

/-- The results of `economics` without the bounds. -/
def exactEconomics (onDemandCost commitmentEffectiveCost committedCapacity eligibleUsage
    upfrontCost termMonths liquidityPenaltyBps : Int) : Evaluation :=
  let gross := onDemandCost - commitmentEffectiveCost
  let unused := max 0 (committedCapacity - eligibleUsage)
  let upfront := roundHalfUp upfrontCost termMonths
  let liquidity := roundHalfUp (upfrontCost * liquidityPenaltyBps) 10000
  let net := gross - unused - upfront - liquidity
  { downsideLossCents := max 0 (-net)
    grossSavingsCents := gross
    liquidityPenaltyCents := liquidity
    netSavingsCents := net
    unusedWasteCents := unused
    upfrontAmortizationCents := upfront }

variable {onDemandCost commitmentEffectiveCost committedCapacity eligibleUsage upfrontCost termMonths
  liquidityPenaltyBps : Int}

theorem economics_some {evaluation : Evaluation}
    (computed : economics onDemandCost commitmentEffectiveCost committedCapacity eligibleUsage
      upfrontCost termMonths liquidityPenaltyBps = some evaluation) :
    termMonths ≠ 0 ∧ evaluation = exactEconomics onDemandCost commitmentEffectiveCost
      committedCapacity eligibleUsage upfrontCost termMonths liquidityPenaltyBps := by
  simp only [economics, Option.bind_eq_bind, Option.bind_eq_some_iff, checked_some] at computed
  obtain ⟨_, ⟨_, rfl⟩, _, ⟨_, rfl⟩, upfront, amortized, _, ⟨_, rfl⟩, liquidity, penalized, _,
    ⟨_, rfl⟩, _, ⟨_, rfl⟩, _, ⟨_, rfl⟩, _, ⟨_, rfl⟩, final⟩ := computed
  obtain ⟨nonzero, rfl⟩ := div_round_half_up_some amortized
  obtain ⟨_, rfl⟩ := div_round_half_up_some penalized
  exact ⟨nonzero, (Option.some.inj final).symm⟩

/-- The operands and the results of the kernel's operations, but for the
quotients, which their numerators bound. -/
def kernelValues (onDemandCost commitmentEffectiveCost committedCapacity eligibleUsage upfrontCost
    termMonths liquidityPenaltyBps : Int) : List Int :=
  let gross := onDemandCost - commitmentEffectiveCost
  let unused := max 0 (committedCapacity - eligibleUsage)
  let upfront := roundHalfUp upfrontCost termMonths
  let net := gross - unused - upfront -
    roundHalfUp (upfrontCost * liquidityPenaltyBps) 10000
  [onDemandCost, commitmentEffectiveCost, committedCapacity, eligibleUsage, upfrontCost, termMonths,
    liquidityPenaltyBps, gross, committedCapacity - eligibleUsage,
    upfrontCost + termMonths.tdiv 2, upfrontCost * liquidityPenaltyBps,
    upfrontCost * liquidityPenaltyBps + 5000, gross - unused, gross - unused - upfront, net, -net]

theorem economics_within (upfrontNonneg : 0 ≤ upfrontCost) (termPositive : 0 < termMonths)
    (bpsNonneg : 0 ≤ liquidityPenaltyBps)
    (within : ∀ value ∈ kernelValues onDemandCost commitmentEffectiveCost committedCapacity
      eligibleUsage upfrontCost termMonths liquidityPenaltyBps, WithinI128 value) :
    economics onDemandCost commitmentEffectiveCost committedCapacity eligibleUsage upfrontCost
      termMonths liquidityPenaltyBps = some (exactEconomics onDemandCost commitmentEffectiveCost
        committedCapacity eligibleUsage upfrontCost termMonths liquidityPenaltyBps) := by
  simp only [kernelValues, List.forall_mem_cons] at within
  obtain ⟨_, _, _, _, _, term, _, gross, surplus, raised, product, raisedProduct, afterWaste,
    afterUpfront, net, loss, _⟩ := within
  have productNonneg := Int.mul_nonneg upfrontNonneg bpsNonneg
  simp only [economics, checked, if_pos gross, if_pos surplus, if_pos product, if_pos afterWaste,
    if_pos afterUpfront, if_pos net, if_pos loss, Option.bind_eq_bind, Option.bind_some,
    div_round_half_up_within upfrontNonneg termPositive term raised,
    div_round_half_up_within productNonneg (show (0 : Int) < 10000 by decide) (by decide)
      raisedProduct]
  rfl

end Arithmetic

section Fields

/-- On the text of a natural number both parsers read the number. -/
theorem parse_int_decimal {text : String} (decimal : isDecimal text.toList = true) :
    parseInt text = checked (Nat.ofDigitChars 10 text.toList 0) := by
  obtain ⟨nonempty, digits⟩ := is_decimal_digits decimal
  have noUnderscore : ∀ character ∈ text.toList, character ≠ '_' := by
    rintro character member rfl
    cases digits _ member
  have kept : text.toList.filter (· ≠ '_') = text.toList :=
    List.filter_eq_self.mpr fun character member => by simpa using noUnderscore character member
  have ends : ¬ (text.toList.head? = some '_' ∨ text.toList.getLast? = some '_') := by
    rintro (first | last)
    · exact noUnderscore _ (List.mem_of_mem_head? first) rfl
    · exact noUnderscore _ (List.mem_of_getLast? last) rfl
  unfold parseInt
  split
  case h_1 same => simp [same, Char.isDigit] at digits
  case h_2 same => simp [same, Char.isDigit] at digits
  case h_3 =>
      dsimp only
      rw [if_neg ends, kept, nat_of_digits nonempty digits, Option.bind_some]

variable {object : Json} {key : String}

theorem decimal_field {positive : Bool}
    (valid : EconomicKernel.decimal (stringField object key) positive = true) :
    ∃ number : Nat, bigIntField object key = some (number : Int) ∧
      integerField object key = checked number ∧ (positive = true → number ≠ 0) := by
  obtain ⟨text, found, valid⟩ := (Option.any_eq_true _ _).mp valid
  rw [Bool.and_eq_true] at valid
  obtain ⟨nonempty, digits⟩ := is_decimal_digits valid.1
  refine ⟨Nat.ofDigitChars 10 text.toList 0, ?_, ?_, ?_⟩
  · rw [bigIntField, found, Option.bind_some, big_int_of_digits nonempty digits]
  · rw [integerField, found, Option.bind_some, parse_int_decimal valid.1]
  · intro must zero
    have same := to_string_of_decimal valid.1
    rw [zero] at same
    rw [must, ← same] at valid
    exact absurd valid.2 (by decide)

/-- A valid input field that the kernel reads is read alike by the reference. -/
theorem input_field {inputs : Json} (valid : validInputs inputs = true) (known : key ∈ inputKeys)
    {value : Int} (read : integerField inputs key = some value) :
    bigIntField inputs key = some value ∧ 0 ≤ value := by
  rw [validInputs, Bool.and_eq_true, List.all_eq_true] at valid
  obtain ⟨number, reference, kernel, _⟩ := decimal_field (valid.2 key known)
  obtain ⟨_, rfl⟩ := checked_some.mp (kernel.symm.trans read)
  exact ⟨reference, Int.natCast_nonneg number⟩

end Fields

section Agreement

theorem reference_div {numerator denominator : Int} (nonzero : denominator ≠ 0) :
    referenceDivRoundHalfUp numerator denominator = some (roundHalfUp numerator denominator) :=
  if_neg nonzero

theorem loss_text (net : Int) :
    (if net < 0 then toString (-net) else "0") = toString (max 0 (-net)) := by
  split_ifs with negative
  · rw [max_eq_right (by omega)]
  · rw [max_eq_left (by omega)]
    rfl

theorem unused_eq (committedCapacity eligibleUsage : Int) :
    (if eligibleUsage < committedCapacity then committedCapacity - eligibleUsage else 0) =
      max 0 (committedCapacity - eligibleUsage) := by
  split_ifs with more
  · rw [max_eq_right (by omega)]
  · rw [max_eq_left (by omega)]

/-- Every case that the kernel evaluates has the reference's six outputs. -/
theorem reference_agrees {case : Json} {printed : EvaluationText}
    (evaluated : evaluate case = some printed) : computeExpected case = some printed := by
  unfold evaluate at evaluated
  split_ifs at evaluated with valid
  obtain ⟨evaluation, computed, rfl⟩ := Option.map_eq_some_iff.mp evaluated
  simp only [compute, Option.bind_eq_bind, Option.bind_eq_some_iff] at computed
  obtain ⟨dimensions, dimensionsFound, inputs, inputsFound, instrument, instrumentFound,
    computed⟩ := computed
  have validIn : validInputs inputs = true := by
    simp only [validateCase, Bool.and_eq_true, inputsFound, Option.any_some] at valid
    exact valid.1.1.1.2
  by_cases idle : instrument = "no_action"
  · rw [if_pos idle] at computed
    rw [computeExpected, dimensionsFound, Option.bind_eq_bind, Option.bind_some, instrumentFound,
      idle, if_pos rfl, ← Option.some.inj computed]
    rfl
  · rw [if_neg idle] at computed
    simp only [Option.bind_eq_some_iff] at computed
    obtain ⟨onDemand, onDemandRead, effective, effectiveRead, committed, committedRead, eligible,
      eligibleRead, upfront, upfrontRead, term, termRead, bps, bpsRead, computed⟩ := computed
    obtain ⟨nonzero, rfl⟩ := economics_some computed
    have other : stringField dimensions "instrument" ≠ some "no_action" := by
      rw [instrumentFound]
      exact fun same => idle (Option.some.inj same)
    simp only [computeExpected, dimensionsFound, inputsFound, Option.bind_eq_bind,
      Option.bind_some, if_neg other,
      (input_field validIn (by decide) onDemandRead).1,
      (input_field validIn (by decide) effectiveRead).1,
      (input_field validIn (by decide) committedRead).1,
      (input_field validIn (by decide) eligibleRead).1,
      (input_field validIn (by decide) upfrontRead).1,
      (input_field validIn (by decide) termRead).1,
      (input_field validIn (by decide) bpsRead).1,
      reference_div nonzero, reference_div (show (10000 : Int) ≠ 0 by decide), loss_text,
      unused_eq]
    rfl

def pointDimensions (instrument provider : String) (item : OptimizerPriceItem) : Json :=
  .object [
    ("instrument", .string instrument),
    ("payment_option", .string "not_applicable"),
    ("provider", .string provider),
    ("region", .string "region"),
    ("tenant_reporting_currency", .string "USD"),
    ("term_months", .string (toString item.termMonths))]

def pointInputs (item : OptimizerPriceItem) (liquidityPenaltyBps commitment cost : Int) : Json :=
  .object [
    ("commitment_effective_cost_cents",
      .string (toString (item.hourlyRateCents * hoursPerMonth))),
    ("committed_capacity_cents", .string (toString commitment)),
    ("eligible_usage_cents", .string (toString cost)),
    ("liquidity_penalty_bps", .string (toString liquidityPenaltyBps)),
    ("on_demand_cost_cents", .string (toString cost)),
    ("term_months", .string (toString item.termMonths)),
    ("upfront_cost_cents", .string (toString item.upfrontCents))]

/-- The kernel's case for one forecast point of a price item. -/
def pointCase (instrument provider : String) (item : OptimizerPriceItem)
    (liquidityPenaltyBps commitment cost : Int) : Json :=
  .object [
    ("case_id", .string "forecast-point"),
    ("case_version", .string "economic-kernel-case/v1"),
    ("dimensions", pointDimensions instrument provider item),
    ("expected", .object (expectedKeys.map fun key => (key, .string "0"))),
    ("inputs", pointInputs item liquidityPenaltyBps commitment cost),
    ("operation", .string "evaluate"),
    ("oracle", .object [
      ("owner", .string "phase1-zig-economic-kernel-formulas-rounding"),
      ("prd_ref", .string "5.5"),
      ("status", .string "implemented")]),
    ("units", .object [
      ("commitment_effective_cost_cents", .string "tenant_reporting_currency_minor_unit"),
      ("committed_capacity_cents", .string "tenant_reporting_currency_minor_unit"),
      ("eligible_usage_cents", .string "tenant_reporting_currency_minor_unit"),
      ("liquidity_penalty_bps", .string "basis_points"),
      ("on_demand_cost_cents", .string "tenant_reporting_currency_minor_unit"),
      ("term_months", .string "count"),
      ("upfront_cost_cents", .string "tenant_reporting_currency_minor_unit")])]

def commitmentInstruments : List String :=
  ["compute_savings_plan", "reserved_instance", "azure_reservation", "gcp_cud"]

theorem to_string_nonneg {value : Int} (nonneg : 0 ≤ value) :
    toString value = toString value.toNat := by
  obtain ⟨number, rfl⟩ := Int.eq_ofNat_of_zero_le nonneg
  rfl

theorem decimal_to_string {value : Int} (nonneg : 0 ≤ value) {positive : Bool}
    (apart : positive = true → 0 < value) :
    EconomicKernel.decimal (some (toString value)) positive = true := by
  have zero : positive = true → toString value ≠ "0" := by
    intro must same
    have read := big_int_of_nat value.toNat
    rw [← to_string_nonneg nonneg, same] at read
    have number : bigIntOfString "0" = some 0 := by decide
    have equal := Option.some.inj (number.symm.trans read)
    have := apart must
    omega
  rw [EconomicKernel.decimal, Option.any_some, to_string_nonneg nonneg, is_decimal_to_string,
    Bool.true_and, ← to_string_nonneg nonneg]
  cases positive with
  | false => rfl
  | true => simpa using zero rfl

theorem parse_int_to_string {value : Int} (nonneg : 0 ≤ value) :
    parseInt (toString value) = checked value := by
  have read := big_int_of_nat value.toNat
  have decimal := is_decimal_to_string value.toNat
  obtain ⟨nonempty, digits⟩ := is_decimal_digits decimal
  rw [big_int_of_digits nonempty digits] at read
  rw [to_string_nonneg nonneg, parse_int_decimal decimal, Option.some.inj read,
    Int.toNat_of_nonneg nonneg]

variable {instrument provider : String} {item : OptimizerPriceItem}
  {liquidityPenaltyBps commitment cost : Int}

theorem point_case_valid (known : instrument ∈ commitmentInstruments)
    (providerKnown : provider ∈ ["aws", "azure", "gcp"]) (costNonneg : 0 ≤ cost)
    (commitmentNonneg : 0 ≤ commitment) (rateNonneg : 0 ≤ item.hourlyRateCents)
    (upfrontNonneg : 0 ≤ item.upfrontCents) (bpsNonneg : 0 ≤ liquidityPenaltyBps)
    (termPositive : 0 < item.termMonths) :
    validateCase (pointCase instrument provider item liquidityPenaltyBps commitment cost) =
      true := by
  have effectiveNonneg : 0 ≤ item.hourlyRateCents * hoursPerMonth :=
    Int.mul_nonneg rateNonneg (by decide)
  have text : ∀ {value : Int}, 0 ≤ value →
      EconomicKernel.decimal (some (toString value)) false = true :=
    fun nonneg => decimal_to_string nonneg nofun
  have term : EconomicKernel.decimal (some (toString item.termMonths)) true = true :=
    decimal_to_string termPositive.le fun _ => termPositive
  have instrumentKnown : oneOf (some instrument) ["compute_savings_plan", "reserved_instance",
      "azure_reservation", "gcp_cud", "no_action"] = true := by
    have listed : instrument ∈ ["compute_savings_plan", "reserved_instance", "azure_reservation",
        "gcp_cud", "no_action"] := List.mem_append_left ["no_action"] known
    simpa [oneOf] using listed
  have providers : oneOf (some provider) ["aws", "azure", "gcp"] = true := by
    simpa [oneOf] using providerKnown
  have dimensions : validDimensions (pointDimensions instrument provider item) = true := by
    simp only [validDimensions, Bool.and_eq_true]
    exact ⟨⟨⟨⟨⟨⟨by rfl, instrumentKnown⟩, by rfl⟩, providers⟩, by rfl⟩, by rfl⟩,
      text termPositive.le⟩
  have inputs : validInputs (pointInputs item liquidityPenaltyBps commitment cost) = true := by
    simp only [validInputs, inputKeys, List.all_cons, List.all_nil, Bool.and_eq_true]
    exact ⟨by rfl, text effectiveNonneg, text commitmentNonneg, text costNonneg, text bpsNonneg,
      text costNonneg, term, text upfrontNonneg, trivial⟩
  simp only [validateCase, Bool.and_eq_true]
  exact ⟨⟨⟨⟨⟨⟨⟨⟨by rfl, by rfl⟩, by rfl⟩, dimensions⟩, by rfl⟩, inputs⟩, by rfl⟩,
    by rfl⟩, by rfl⟩

theorem point_case_computed (known : instrument ∈ commitmentInstruments) (costNonneg : 0 ≤ cost)
    (commitmentNonneg : 0 ≤ commitment) (rateNonneg : 0 ≤ item.hourlyRateCents)
    (upfrontNonneg : 0 ≤ item.upfrontCents) (bpsNonneg : 0 ≤ liquidityPenaltyBps)
    (termPositive : 0 < item.termMonths)
    (within : ∀ value ∈ kernelValues cost (item.hourlyRateCents * hoursPerMonth) commitment cost
      item.upfrontCents item.termMonths liquidityPenaltyBps, WithinI128 value) :
    compute (pointCase instrument provider item liquidityPenaltyBps commitment cost) =
      some (exactEconomics cost (item.hourlyRateCents * hoursPerMonth) commitment cost
        item.upfrontCents item.termMonths liquidityPenaltyBps) := by
  have effectiveNonneg : 0 ≤ item.hourlyRateCents * hoursPerMonth :=
    Int.mul_nonneg rateNonneg (by decide)
  have active : instrument ≠ "no_action" := by
    rintro rfl
    exact absurd known (by decide)
  have economical := economics_within upfrontNonneg termPositive bpsNonneg within
  have operands := within
  simp only [kernelValues, List.forall_mem_cons] at operands
  obtain ⟨costWithin, effectiveWithin, commitmentWithin, _, upfrontWithin, termWithin, bpsWithin,
    _⟩ := operands
  have read : ∀ (key : String) {value : Int}, 0 ≤ value → WithinI128 value →
      stringField (pointInputs item liquidityPenaltyBps commitment cost) key =
        some (toString value) →
      integerField (pointInputs item liquidityPenaltyBps commitment cost) key = some value := by
    intro key value nonneg valueWithin found
    rw [integerField, found, Option.bind_some, parse_int_to_string nonneg, checked,
      if_pos valueWithin]
  have dimensionsFound : (pointCase instrument provider item liquidityPenaltyBps commitment
      cost).field "dimensions" = some (pointDimensions instrument provider item) := rfl
  have inputsFound : (pointCase instrument provider item liquidityPenaltyBps commitment
      cost).field "inputs" = some (pointInputs item liquidityPenaltyBps commitment cost) := rfl
  have instrumentFound : stringField (pointDimensions instrument provider item) "instrument" =
      some instrument := rfl
  simp only [compute, dimensionsFound, inputsFound, instrumentFound, if_neg active,
    Option.bind_eq_bind, Option.bind_some,
    read "on_demand_cost_cents" costNonneg costWithin rfl,
    read "commitment_effective_cost_cents" effectiveNonneg effectiveWithin rfl,
    read "committed_capacity_cents" commitmentNonneg commitmentWithin rfl,
    read "eligible_usage_cents" costNonneg costWithin rfl,
    read "upfront_cost_cents" upfrontNonneg upfrontWithin rfl,
    read "term_months" termPositive.le termWithin rfl,
    read "liquidity_penalty_bps" bpsNonneg bpsWithin rfl, economical]

theorem exact_net_value {policy : PolicySnapshot}
    (upfrontNonneg : 0 ≤ item.upfrontCents) (bpsNonneg : 0 ≤ policy.liquidityPenaltyBps)
    (termPositive : 0 < item.termMonths) :
    (exactEconomics cost (item.hourlyRateCents * hoursPerMonth) commitment cost item.upfrontCents
      item.termMonths policy.liquidityPenaltyBps).netSavingsCents =
      netValue (itemCosts policy item) commitment cost := by
  have waste := unused_eq commitment cost
  simp only [exactEconomics, netValue, itemCosts, rounded_div_nonneg upfrontNonneg termPositive,
    rounded_div_nonneg (Int.mul_nonneg upfrontNonneg bpsNonneg) (show (0 : Int) < 10000 by decide),
    waste]

/-- The worker, the Zig kernel and the reference of its fixtures agree. -/
theorem economic_kernels_agree :
    (∀ (policy : PolicySnapshot) (item : OptimizerPriceItem) (instrument provider : String)
        (cost commitment : Int),
      instrument ∈ commitmentInstruments → provider ∈ ["aws", "azure", "gcp"] →
      0 ≤ cost → 0 ≤ commitment → 0 ≤ item.hourlyRateCents → 0 ≤ item.upfrontCents →
      0 ≤ policy.liquidityPenaltyBps → 0 < item.termMonths →
      (∀ value ∈ kernelValues cost (item.hourlyRateCents * hoursPerMonth) commitment cost
        item.upfrontCents item.termMonths policy.liquidityPenaltyBps, WithinI128 value) →
      ∃ printed, evaluate (pointCase instrument provider item policy.liquidityPenaltyBps
          commitment cost) = some printed ∧
        printed.netSavingsCents = toString (netValue (itemCosts policy item) commitment cost)) ∧
    ∀ case printed, evaluate case = some printed → computeExpected case = some printed := by
  refine ⟨?_, fun _ _ evaluated => reference_agrees evaluated⟩
  intro policy item instrument provider cost commitment known providerKnown costNonneg
    commitmentNonneg rateNonneg upfrontNonneg bpsNonneg termPositive within
  have valid := point_case_valid known providerKnown costNonneg commitmentNonneg rateNonneg
    upfrontNonneg bpsNonneg termPositive
  have computed : compute (pointCase instrument provider item policy.liquidityPenaltyBps
      commitment cost) = _ :=
    point_case_computed known costNonneg commitmentNonneg rateNonneg upfrontNonneg bpsNonneg
      termPositive within
  refine ⟨(exactEconomics cost (item.hourlyRateCents * hoursPerMonth) commitment cost
    item.upfrontCents item.termMonths policy.liquidityPenaltyBps).text, ?_, ?_⟩
  · rw [evaluate, if_pos valid, computed]
    rfl
  · rw [← exact_net_value upfrontNonneg bpsNonneg termPositive]
    rfl

theorem economic_kernels_agree_partial_upfront :
    (evaluate (pointCase "reserved_instance" "aws"
      { sku := "m5", region := "us-east-1", termMonths := 12, paymentOption := .partialUpfront,
        hourlyRateCents := 10, upfrontCents := 100000, coverageRules := .object [] }
      250 9000 8000)).map (·.netSavingsCents) = some "-11133" := by
  obtain ⟨printed, evaluated, net⟩ := economic_kernels_agree.1 ⟨0, 0, 0, 0, 250⟩
    { sku := "m5", region := "us-east-1", termMonths := 12, paymentOption := .partialUpfront,
      hourlyRateCents := 10, upfrontCents := 100000, coverageRules := .object [] }
    "reserved_instance" "aws" 8000 9000 (by decide) (by decide) (by decide) (by decide)
    (by decide) (by decide) (by decide) (by decide) (by decide)
  rw [evaluated, Option.map_some, net]
  decide

end Agreement

end CommitmentOptimizer.Optimizer.KernelAgreement
