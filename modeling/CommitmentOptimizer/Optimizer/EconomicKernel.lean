import CommitmentOptimizer.Foundations.BigIntText

/-!
# The economic kernel

The `evaluate` command of the Zig kernel (`contract.zig`, `case_contract.zig`) and
the JavaScript reference of its fixtures (`economic-kernel-fixture-contract.mjs`).
`none` is an invalid request, a safety-checked overflow or a thrown error.
-/

namespace CommitmentOptimizer.Optimizer.EconomicKernel

open Foundations
open Foundations.SqlConstraints
open Foundations.BigIntText

set_option autoImplicit false

section CaseContract

def caseKeys : List String :=
  ["case_id", "case_version", "dimensions", "expected", "inputs", "operation", "oracle", "units"]

def dimensionKeys : List String :=
  ["instrument", "payment_option", "provider", "region", "tenant_reporting_currency",
    "term_months"]

def inputKeys : List String :=
  ["commitment_effective_cost_cents", "committed_capacity_cents", "eligible_usage_cents",
    "liquidity_penalty_bps", "on_demand_cost_cents", "term_months", "upfront_cost_cents"]

def oracleKeys : List String := ["owner", "prd_ref", "status"]

def expectedKeys : List String :=
  ["downside_loss_cents", "gross_savings_cents", "liquidity_penalty_cents", "net_savings_cents",
    "unused_waste_cents", "upfront_amortization_cents"]

/-- The keys of an object, in their order. -/
def exactObject (keys : List String) : Json → Bool
  | .object fields => fields.map Prod.fst == keys
  | _ => false

def stringField (object : Json) (key : String) : Option String :=
  match object.field key with
  | some (.string value) => some value
  | _ => none

def decimal (value : Option String) (positive : Bool) : Bool :=
  value.any fun text => isDecimal text.toList && !(positive && text == "0")

def signedDecimal (value : Option String) : Bool :=
  value.any fun text =>
    match text.toList with
    | '-' :: digits => isDecimal digits
    | digits => isDecimal digits

def isLowerAscii (character : Char) : Bool := 'a' ≤ character && character ≤ 'z'

def isUpperAscii (character : Char) : Bool := 'A' ≤ character && character ≤ 'Z'

def validIdentifier (value : Option String) : Bool :=
  value.any fun text =>
    let characters := text.toList
    characters ≠ [] && characters.length ≤ 96 && characters.head? ≠ some '-' &&
      characters.getLast? ≠ some '-' &&
      characters.all fun character =>
        isLowerAscii character || character.isDigit || character == '-'

def validDimension (value : Option String) : Bool :=
  value.any fun text =>
    let characters := text.toList
    characters ≠ [] && characters.length ≤ 64 &&
      characters.all fun character =>
        isLowerAscii character || isUpperAscii character || character.isDigit ||
          character == '-' || character == '_'

def validCurrency (value : Option String) : Bool :=
  value.any fun text => text.toList.length == 3 && text.toList.all isUpperAscii

def oneOf (value : Option String) (allowed : List String) : Bool :=
  value.any allowed.contains

def validDimensions (value : Json) : Bool :=
  exactObject dimensionKeys value &&
    oneOf (stringField value "instrument")
      ["compute_savings_plan", "reserved_instance", "azure_reservation", "gcp_cud", "no_action"] &&
    oneOf (stringField value "payment_option")
      ["all_upfront", "no_upfront", "partial_upfront", "not_applicable"] &&
    oneOf (stringField value "provider") ["aws", "azure", "gcp"] &&
    validDimension (stringField value "region") &&
    validCurrency (stringField value "tenant_reporting_currency") &&
    decimal (stringField value "term_months") false

def validInputs (value : Json) : Bool :=
  exactObject inputKeys value &&
    inputKeys.all fun key => decimal (stringField value key) (key == "term_months")

def validOracle (value : Json) : Bool :=
  exactObject oracleKeys value &&
    stringField value "owner" == some "phase1-zig-economic-kernel-formulas-rounding" &&
    stringField value "prd_ref" == some "5.5" && stringField value "status" == some "implemented"

def validExpected (value : Json) : Bool :=
  exactObject expectedKeys value &&
    expectedKeys.all fun key => signedDecimal (stringField value key)

def validUnits (value : Json) : Bool :=
  exactObject inputKeys value &&
    inputKeys.all fun key =>
      stringField value key == some
        (if key = "liquidity_penalty_bps" then "basis_points"
        else if key = "term_months" then "count"
        else "tenant_reporting_currency_minor_unit")

/-- `validate` of `case_contract.zig`. -/
def validateCase (case : Json) : Bool :=
  exactObject caseKeys case &&
    validIdentifier (stringField case "case_id") &&
    stringField case "case_version" == some "economic-kernel-case/v1" &&
    (case.field "dimensions").any validDimensions &&
    (case.field "expected").any validExpected &&
    (case.field "inputs").any validInputs &&
    stringField case "operation" == some "evaluate" &&
    (case.field "oracle").any validOracle &&
    (case.field "units").any validUnits

end CaseContract

section Arithmetic

abbrev WithinI128 (value : Int) : Prop := -2 ^ 127 ≤ value ∧ value < 2 ^ 127

/-- The result of an `i128` operation; an overflow stops the kernel. -/
def checked (value : Int) : Option Int := if WithinI128 value then some value else none

/-- `std.fmt.parseInt(i128, text, 10)`. -/
def parseInt (text : String) : Option Int :=
  let magnitude (digits : List Char) : Option Nat :=
    if digits.head? = some '_' ∨ digits.getLast? = some '_' then none
    else natOfDigits 10 (digits.filter (· ≠ '_'))
  match text.toList with
  | '+' :: digits => (magnitude digits).bind fun value => checked value
  | '-' :: digits => (magnitude digits).bind fun value => checked (-value)
  | digits => (magnitude digits).bind fun value => checked value

def divTrunc (numerator denominator : Int) : Option Int :=
  if denominator = 0 then none else checked (numerator.tdiv denominator)

/-- `divRoundHalfUp` of `contract.zig`. -/
def divRoundHalfUp (numerator denominator : Int) : Option Int := do
  let half ← divTrunc denominator 2
  let raised ← checked (numerator + half)
  divTrunc raised denominator

end Arithmetic

section Evaluation

structure Evaluation where
  downsideLossCents : Int
  grossSavingsCents : Int
  liquidityPenaltyCents : Int
  netSavingsCents : Int
  unusedWasteCents : Int
  upfrontAmortizationCents : Int
  deriving DecidableEq, Repr

def noAction : Evaluation := ⟨0, 0, 0, 0, 0, 0⟩

def integerField (object : Json) (key : String) : Option Int :=
  (stringField object key).bind parseInt

/-- The operations of `compute` after the fields are read. -/
def economics (onDemandCost commitmentEffectiveCost committedCapacity eligibleUsage upfrontCost
    termMonths liquidityPenaltyBps : Int) : Option Evaluation := do
  let grossSavings ← checked (onDemandCost - commitmentEffectiveCost)
  let surplus ← checked (committedCapacity - eligibleUsage)
  let unusedWaste := max 0 surplus
  let upfrontAmortization ← divRoundHalfUp upfrontCost termMonths
  let product ← checked (upfrontCost * liquidityPenaltyBps)
  let liquidityPenalty ← divRoundHalfUp product 10000
  let afterWaste ← checked (grossSavings - unusedWaste)
  let afterUpfront ← checked (afterWaste - upfrontAmortization)
  let netSavings ← checked (afterUpfront - liquidityPenalty)
  let loss ← checked (-netSavings)
  return {
    downsideLossCents := max 0 loss
    grossSavingsCents := grossSavings
    liquidityPenaltyCents := liquidityPenalty
    netSavingsCents := netSavings
    unusedWasteCents := unusedWaste
    upfrontAmortizationCents := upfrontAmortization }

/-- `compute` of `contract.zig`. -/
def compute (case : Json) : Option Evaluation := do
  let dimensions ← case.field "dimensions"
  let inputs ← case.field "inputs"
  let instrument ← stringField dimensions "instrument"
  if instrument = "no_action" then return noAction
  let onDemandCost ← integerField inputs "on_demand_cost_cents"
  let commitmentEffectiveCost ← integerField inputs "commitment_effective_cost_cents"
  let committedCapacity ← integerField inputs "committed_capacity_cents"
  let eligibleUsage ← integerField inputs "eligible_usage_cents"
  let upfrontCost ← integerField inputs "upfront_cost_cents"
  let termMonths ← integerField inputs "term_months"
  let liquidityPenaltyBps ← integerField inputs "liquidity_penalty_bps"
  economics onDemandCost commitmentEffectiveCost committedCapacity eligibleUsage upfrontCost
    termMonths liquidityPenaltyBps

/-- The six outputs as text. -/
structure EvaluationText where
  downsideLossCents : String
  grossSavingsCents : String
  liquidityPenaltyCents : String
  netSavingsCents : String
  unusedWasteCents : String
  upfrontAmortizationCents : String
  deriving DecidableEq, Repr

def Evaluation.text (evaluation : Evaluation) : EvaluationText where
  downsideLossCents := toString evaluation.downsideLossCents
  grossSavingsCents := toString evaluation.grossSavingsCents
  liquidityPenaltyCents := toString evaluation.liquidityPenaltyCents
  netSavingsCents := toString evaluation.netSavingsCents
  unusedWasteCents := toString evaluation.unusedWasteCents
  upfrontAmortizationCents := toString evaluation.upfrontAmortizationCents

/-- The evaluation that the `evaluate` command prints. -/
def evaluate (case : Json) : Option EvaluationText :=
  if validateCase case then (compute case).map Evaluation.text else none

end Evaluation

section Reference

def bigIntField (object : Json) (key : String) : Option Int :=
  (stringField object key).bind bigIntOfString

/-- `divRoundHalfUp` of the reference; a zero denominator throws. -/
def referenceDivRoundHalfUp (numerator denominator : Int) : Option Int :=
  if denominator = 0 then none
  else some ((numerator + denominator.tdiv 2).tdiv denominator)

def computeExpected (fixtureCase : Json) : Option EvaluationText := do
  let dimensions ← fixtureCase.field "dimensions"
  if stringField dimensions "instrument" = some "no_action" then
    return ⟨"0", "0", "0", "0", "0", "0"⟩
  let input ← fixtureCase.field "inputs"
  let onDemandCost ← bigIntField input "on_demand_cost_cents"
  let commitmentEffectiveCost ← bigIntField input "commitment_effective_cost_cents"
  let gross := onDemandCost - commitmentEffectiveCost
  let committedCapacity ← bigIntField input "committed_capacity_cents"
  let eligibleUsage ← bigIntField input "eligible_usage_cents"
  let unused := if eligibleUsage < committedCapacity then committedCapacity - eligibleUsage else 0
  let upfrontCost ← bigIntField input "upfront_cost_cents"
  let termMonths ← bigIntField input "term_months"
  let upfront ← referenceDivRoundHalfUp upfrontCost termMonths
  let liquidityPenaltyBps ← bigIntField input "liquidity_penalty_bps"
  let liquidity ← referenceDivRoundHalfUp (upfrontCost * liquidityPenaltyBps) 10000
  let net := gross - unused - upfront - liquidity
  return {
    downsideLossCents := if net < 0 then toString (-net) else "0"
    grossSavingsCents := toString gross
    liquidityPenaltyCents := toString liquidity
    netSavingsCents := toString net
    unusedWasteCents := toString unused
    upfrontAmortizationCents := toString upfront }

end Reference

end CommitmentOptimizer.Optimizer.EconomicKernel
