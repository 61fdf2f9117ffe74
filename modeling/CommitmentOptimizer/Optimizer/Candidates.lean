import CommitmentOptimizer.Foundations.BigIntText
import CommitmentOptimizer.Foundations.LexicographicChoice
import CommitmentOptimizer.Optimizer.OptimizerRuns

/-!
# Candidates of an optimizer run

The evaluation of price items against the forecast in `optimizer-worker.ts`, and
the choice among the candidates. `none` stands for an exception, which fails the
run.
-/

namespace CommitmentOptimizer.Optimizer.Candidates

open Foundations
open Foundations.BigIntText
open Foundations.SqlConstraints
open Recommendations.RecommendationLifecycle
open OptimizerRuns

set_option autoImplicit false

inductive PaymentOption where
  | noUpfront | partialUpfront | allUpfront | monthly
  deriving DecidableEq, Repr

structure OptimizerPriceItem where
  sku : String
  region : String
  termMonths : Int
  paymentOption : PaymentOption
  hourlyRateCents : Int
  upfrontCents : Int
  coverageRules : Json
  deriving DecidableEq

section BigInt

/-- Half away from zero; `/` of two `bigint` values truncates. -/
def roundedDiv (numerator denominator : Int) : Int :=
  if denominator = 0 then 0
  else if 0 ≤ numerator then (numerator + denominator.tdiv 2).tdiv denominator
  else -((-numerator + denominator.tdiv 2).tdiv denominator)

def sortBigInt (values : List Int) : List Int := values.insertionSort (· ≤ ·)

def percentile (values : List Int) (pct : Nat) : Int :=
  values.getD ((pct * values.length + 99) / 100 - 1) 0

def meanRounded (values : List Int) : Int :=
  if values = [] then 0 else roundedDiv values.sum values.length

/-- `value.split(".")` with the two digits after the point; missing digits are zeros. -/
def decimalPercentToBps (value : String) : Option Int :=
  let parts := value.toList.splitOn '.'
  let fraction := parts.getD 1 []
  let digits := (fraction ++ List.replicate (2 - utf16Length fraction) '0').take 2
  do
    let whole ← bigIntOfString (String.ofList (parts.headD []))
    let hundredths ← bigIntOfString (String.ofList digits)
    return whole * 100 + hundredths

end BigInt

section Snapshots

def objectAt (source : Json) (key : String) : Json :=
  match source.field key with
  | some (.object fields) => .object fields
  | _ => .object []

def stringAt (source : Json) (key : String) : String :=
  match source.field key with
  | some (.string value) => value
  | _ => "0"

def integerAt (source : Json) (key : String) (fallback : Int) : Int :=
  match source.field key with
  | some (.number (some value)) => if value.den = 1 then value.num else fallback
  | _ => fallback

def providerValue (source : Json) (key : String) : Provider :=
  match source.field key with
  | some (.string "azure") => .azure
  | some (.string "gcp") => .gcp
  | _ => .aws

structure PolicySnapshot where
  maxDownsideLossCents : Int
  minExpectedSavingsCents : Int
  maxUtilizationGapBps : Int
  approvalThresholdCents : Int
  liquidityPenaltyBps : Int

def policySnapshot (snapshot : Json) : Option PolicySnapshot := do
  let policy := objectAt snapshot "policy"
  let config := objectAt policy "config"
  return {
    maxDownsideLossCents := ← bigIntOfString (stringAt policy "maxDownsideLossCents")
    minExpectedSavingsCents := ← bigIntOfString (stringAt policy "minExpectedSavingsCents")
    maxUtilizationGapBps := ← decimalPercentToBps (stringAt policy "maxUtilizationGapPct")
    approvalThresholdCents := ← bigIntOfString (stringAt policy "approvalThresholdCents")
    liquidityPenaltyBps := integerAt config "liquidity_penalty_bps" 0 }

structure ForecastPoint where
  month : String
  provider : Provider
  serviceCode : String
  region : String
  forecastOnDemandCostCents : String

def forecastPoints (forecast : Json) : List ForecastPoint :=
  match forecast.field "forecast_points" with
  | some (.array points) => points.map fun row =>
      { month := stringAt row "month"
        provider := providerValue row "provider"
        serviceCode := stringAt row "service_code"
        region := stringAt row "region"
        forecastOnDemandCostCents := stringAt row "forecast_on_demand_cost_cents" }
  | _ => []

end Snapshots

section Evaluation

def hoursPerMonth : Int := 730

def coverageServiceCode (item : OptimizerPriceItem) : Option String :=
  let value := match item.coverageRules.field "service_code" with
    | none | some .null => item.coverageRules.field "service"
    | code => code
  match value with
  | some (.string code) => if jsTrim code.toList = [] then none else some code
  | _ => none

def pointsForItem (points : List ForecastPoint) (item : OptimizerPriceItem) :
    List ForecastPoint :=
  points.filter fun point => point.region = item.region &&
    (coverageServiceCode item).all fun code => point.serviceCode = code

def bindingConstraints (policy : PolicySnapshot) (expected p95Downside utilizationGapBps : Int) :
    List String :=
  (if policy.maxDownsideLossCents < p95Downside then ["risk_budget"] else []) ++
  (if expected < policy.minExpectedSavingsCents then ["minimum_expected_savings"] else []) ++
  (if policy.maxUtilizationGapBps < utilizationGapBps then ["utilization_gap"] else [])

def riskBand (p95Downside maxDownsideLossCents : Int) : RiskBand :=
  if p95Downside = 0 then .low
  else if p95Downside ≤ maxDownsideLossCents then .medium else .high

structure CommitmentInstrumentCandidate where
  provider : Provider
  instrument : Instrument
  serviceCode : String
  region : String
  termMonths : Int
  paymentOption : PaymentOption
  commitmentAmountCents : Int
  expectedSavingsCents : Int
  p95DownsideLossCents : Int
  utilizationP50Bps : Int
  utilizationP95Bps : Int
  confidenceScore : Int
  riskBand : RiskBand
  feasible : Bool
  bindingConstraints : List String
  deriving DecidableEq, Repr

/-- The monthly price of an item apart from unused commitment. -/
structure ItemCosts where
  monthlyEffectiveCost : Int
  upfrontAmortization : Int
  liquidityPenalty : Int

def itemCosts (policy : PolicySnapshot) (item : OptimizerPriceItem) : ItemCosts where
  monthlyEffectiveCost := item.hourlyRateCents * hoursPerMonth
  upfrontAmortization := roundedDiv item.upfrontCents item.termMonths
  liquidityPenalty := roundedDiv (item.upfrontCents * policy.liquidityPenaltyBps) 10000

/-- The net value of one forecast point. -/
def netValue (costs : ItemCosts) (commitment cost : Int) : Int :=
  let unusedWaste := if cost < commitment then commitment - cost else 0
  cost - costs.monthlyEffectiveCost - unusedWaste - costs.upfrontAmortization -
    costs.liquidityPenalty

def evaluateItem (run : OptimizerRun) (policy : PolicySnapshot) (points : List ForecastPoint)
    (item : OptimizerPriceItem) : Option (List CommitmentInstrumentCandidate) :=
  match points with
  | [] => some []
  | first :: _ => do
      let costs ← points.mapM fun point => bigIntOfString point.forecastOnDemandCostCents
      let eligibleCosts := sortBigInt costs
      let commitment := percentile eligibleCosts 50
      let nets := eligibleCosts.map (netValue (itemCosts policy item) commitment)
      let downside := sortBigInt (nets.map fun value => if value < 0 then -value else 0)
      let expected := meanRounded nets
      let p95Downside := percentile downside 95
      let utilizations := sortBigInt (eligibleCosts.map fun cost =>
        if commitment = 0 then 0 else (min cost commitment * 10000).tdiv commitment)
      let utilizationP50 := percentile utilizations 50
      let utilizationP95 := percentile utilizations 95
      let binding := bindingConstraints policy expected p95Downside (10000 - utilizationP50)
      return [{
        provider := run.provider
        instrument := run.instrument
        serviceCode := (coverageServiceCode item).getD first.serviceCode
        region := item.region
        termMonths := item.termMonths
        paymentOption := item.paymentOption
        commitmentAmountCents := commitment
        expectedSavingsCents := if 0 < expected then expected else 0
        p95DownsideLossCents := p95Downside
        utilizationP50Bps := utilizationP50
        utilizationP95Bps := utilizationP95
        confidenceScore := 9000
        riskBand := Candidates.riskBand p95Downside policy.maxDownsideLossCents
        feasible := binding.isEmpty
        bindingConstraints := binding }]

def compareCandidates (left right : CommitmentInstrumentCandidate) : Int :=
  if left.feasible ≠ right.feasible then if left.feasible then -1 else 1
  else
    let expected := right.expectedSavingsCents - left.expectedSavingsCents
    if expected ≠ 0 then if 0 < expected then 1 else -1
    else
      let downside := left.p95DownsideLossCents - right.p95DownsideLossCents
      if downside = 0 then 0 else if 0 < downside then 1 else -1

/-- `priceItems.flatMap(evaluateItem)`. -/
def evaluateItems (run : OptimizerRun) (snapshot forecast : Json)
    (priceItems : List OptimizerPriceItem) : Option (List CommitmentInstrumentCandidate) := do
  let points := (forecastPoints forecast).filter fun point =>
    point.provider = run.provider && point.region ≠ ""
  let policy ← policySnapshot snapshot
  let evaluated ← priceItems.mapM fun item =>
    evaluateItem run policy (pointsForItem points item) item
  return evaluated.flatten

def optimizeCommitmentInstrument (run : OptimizerRun) (snapshot forecast : Json)
    (priceItems : List OptimizerPriceItem) : Option (List CommitmentInstrumentCandidate) := do
  let candidates ← evaluateItems run snapshot forecast priceItems
  return candidates.insertionSort fun left right => compareCandidates left right ≤ 0

/-- Each branch of the switch requires the provider of the instrument. -/
def optimizeCommitmentRun (run : OptimizerRun) (snapshot forecast : Json)
    (priceItems : List OptimizerPriceItem) : Option (List CommitmentInstrumentCandidate) :=
  if run.provider ≠ run.instrument.provider then none
  else optimizeCommitmentInstrument run snapshot forecast priceItems

/-- The candidate that `processNext` takes. -/
def selectCandidate (candidates : List CommitmentInstrumentCandidate) :
    Option CommitmentInstrumentCandidate :=
  (candidates.filter (·.feasible)).head?

end Evaluation

end CommitmentOptimizer.Optimizer.Candidates
