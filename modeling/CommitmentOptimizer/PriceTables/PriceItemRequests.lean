import CommitmentOptimizer.Optimizer.OptimizerPolicies

/-!
# The items of a price table request

`priceItem` of `price-tables-input.ts` and what it calls, and the rows that are
stored of its results.
-/

namespace CommitmentOptimizer.PriceTables.PriceItemRequests

open Foundations
open Foundations.SqlConstraints
open Imports.ControlTotals
open Imports.UsageRows
open Optimizer.Candidates
open Optimizer.OptimizerPolicies
open Optimizer.OptimizerWorker
open PriceTableItems
open PriceTableTransactions
open PriceTableVersions
open Recommendations.RecommendationLifecycle

set_option autoImplicit false

section Readers

structure PriceItemInput where
  sku : CleanText
  region : CleanText
  termMonths : Int
  paymentOption : PaymentOption
  hourlyRateCents : UnsignedText
  upfrontCents : UnsignedText
  coverageRules : Json
  deriving DecidableEq

def term : Option Json → Option Int
  | some (.number (some value)) =>
      if value = 12 then some 12 else if value = 36 then some 36 else none
  | _ => none

def payment : Option Json → Option PaymentOption
  | some (.string "no_upfront") => some .noUpfront
  | some (.string "partial_upfront") => some .partialUpfront
  | some (.string "all_upfront") => some .allUpfront
  | some (.string "monthly") => some .monthly
  | _ => none

/-- An object with the limits of a policy's configuration. -/
def coverage (runtime : PolicyRuntime) : Option Json → Option Json := configObject runtime

/-- `false` where the source throws `invalid()`. -/
def validateCoverageRules (provider : Provider) (instrument : Instrument)
    (coverageRules : Json) : Bool :=
  let usageFamily := coverageRules.field "usage_family"
  let serviceCode := coverageRules.field "service_code"
  usageFamily = some (.string "compute") &&
    ((provider = .aws && serviceCode = some (.string "AmazonEC2")) ||
      (provider = .azure && serviceCode = some (.string "Microsoft.Compute")) ||
      (instrument = .gcpCommittedUseDiscount && serviceCode = some (.string "Compute Engine")))

def priceItemFields : List String :=
  ["sku", "region", "term_months", "payment_option", "hourly_rate_cents", "upfront_cents",
    "coverage_rules"]

/-- `none` where the source throws `invalid()`. -/
def priceItem (runtime : PolicyRuntime) (value : Json) (provider : Provider)
    (instrument : Instrument) : Option PriceItemInput :=
  if closedRecord priceItemFields value then do
    let termMonths ← term (value.field "term_months")
    let paymentOption ← payment (value.field "payment_option")
    let coverageRules ← coverage runtime (value.field "coverage_rules")
    if validateCoverageRules provider instrument coverageRules then
      return {
        sku := ← cleanText runtime.normalize 512 (value.field "sku")
        region := ← cleanText runtime.normalize 128 (value.field "region")
        termMonths
        paymentOption
        hourlyRateCents := ← unsignedInteger (value.field "hourly_rate_cents")
        upfrontCents := ← unsignedInteger (value.field "upfront_cents")
        coverageRules }
    else none
  else none

end Readers

section Rows

/-- What the INSERT of an item takes of its input. -/
def PriceItemInput.columns (itemId : Uuid) (input : PriceItemInput) : PriceTableItemInput where
  itemId := itemId
  sku := input.sku.text
  region := input.region.text
  termMonths := input.termMonths
  paymentOption := input.paymentOption
  hourlyRateCents := input.hourlyRateCents.value
  upfrontCents := input.upfrontCents.value
  coverageRules := input.coverageRules

/-- A row that a request has stored: an item that the parser accepted and the constraints
of the table too. -/
inductive StoredPriceItem (runtime : PolicyRuntime) (octets : Json → Nat) :
    PriceTableItem → Prop where
  | inserted (version : PriceTableVersion) (now : Instant) (itemId : Uuid) (value : Json)
      (input : PriceItemInput) :
      priceItem runtime value version.provider version.instrument = some input →
      (∀ constraint ∈ (newItem version now (input.columns itemId)).checks octets,
        constraint.2 = true) →
      StoredPriceItem runtime octets (newItem version now (input.columns itemId))

variable {runtime : PolicyRuntime} {octets : Json → Nat} {row : PriceTableItem}

theorem price_item_covered {value : Json} {provider : Provider} {instrument : Instrument}
    {input : PriceItemInput} (accepted : priceItem runtime value provider instrument = some input) :
    validateCoverageRules provider instrument input.coverageRules = true := by
  unfold priceItem at accepted
  split_ifs at accepted
  obtain ⟨_, _, accepted⟩ := Option.bind_eq_some_iff.mp accepted
  obtain ⟨_, _, accepted⟩ := Option.bind_eq_some_iff.mp accepted
  obtain ⟨rules, _, accepted⟩ := Option.bind_eq_some_iff.mp accepted
  split_ifs at accepted with valid
  obtain ⟨_, _, accepted⟩ := Option.bind_eq_some_iff.mp accepted
  obtain ⟨_, _, accepted⟩ := Option.bind_eq_some_iff.mp accepted
  obtain ⟨_, _, accepted⟩ := Option.bind_eq_some_iff.mp accepted
  obtain ⟨_, _, accepted⟩ := Option.bind_eq_some_iff.mp accepted
  obtain rfl := Option.some.inj accepted
  exact valid

def coveredServices : List String := ["AmazonEC2", "Microsoft.Compute", "Compute Engine"]

/-- A stored item covers one of three services. -/
theorem stored_price_item_service (stored : StoredPriceItem runtime octets row) :
    ∃ code ∈ coveredServices, coverageServiceCode (optimizerPriceItem row) = some code := by
  cases stored with
  | inserted version now itemId value input accepted _ =>
      have valid := price_item_covered accepted
      simp only [validateCoverageRules, Bool.and_eq_true, Bool.or_eq_true, decide_eq_true_eq]
        at valid
      have read : ∀ code ∈ coveredServices,
          input.coverageRules.field "service_code" = some (.string code) →
          coverageServiceCode (optimizerPriceItem (newItem version now (input.columns itemId))) =
            some code := by
        intro code listed found
        have visible : jsTrim code.toList ≠ [] :=
          (by decide : ∀ code ∈ coveredServices, jsTrim code.toList ≠ []) code listed
        have rules : (optimizerPriceItem (newItem version now (input.columns itemId))).coverageRules =
            input.coverageRules := rfl
        rw [coverageServiceCode, rules, found]
        dsimp only
        rw [if_neg visible]
      obtain ⟨_, (⟨_, code⟩ | ⟨_, code⟩) | ⟨_, code⟩⟩ := valid
      · exact ⟨_, by decide, read _ (by decide) code⟩
      · exact ⟨_, by decide, read _ (by decide) code⟩
      · exact ⟨_, by decide, read _ (by decide) code⟩

theorem stored_price_item_checks (stored : StoredPriceItem runtime octets row) :
    isCanonicalText 128 row.region = true ∧ 0 < row.termMonths := by
  cases stored with
  | inserted version now itemId value input _ checked =>
      simp only [PriceTableItem.checks, List.forall_mem_cons] at checked
      exact ⟨checked.2.2.1, of_decide_eq_true checked.2.2.2.1⟩

end Rows

end CommitmentOptimizer.PriceTables.PriceItemRequests
