import CommitmentOptimizer.Foundations.HalfAwayRounding
import CommitmentOptimizer.Foundations.NearestRank
import CommitmentOptimizer.Optimizer.OptimizerPolicies
import CommitmentOptimizer.Optimizer.Relaxations

/-!
# What a feasible candidate reports

The figures of `evaluateItem` under a stored policy: the percentile of the losses, the
rounded mean of the net values and the two utilizations.
-/

namespace CommitmentOptimizer.Optimizer.Feasibility

open Foundations
open Foundations.BigIntText
open Foundations.HalfAwayRounding
open Foundations.NearestRank
open Foundations.SqlConstraints
open Recommendations.RecommendationLifecycle
open OptimizerRuns
open OptimizerRunCreation
open OptimizerPolicies
open OptimizerWorker
open Candidates
open CandidateChoice (exampleRun exampleItem)
open Relaxations (ItemFigures itemFigures utilization medianCost netValues p95Loss figures_loss
  figures_expected withinLimits binding_is_empty utilization_p50 sort_big_int_sorted
  sort_big_int_nonempty utilization_self)

set_option autoImplicit false

section Rounding

/-- Half away from zero. -/
theorem rounded_div_half_away (numerator : Int) {denominator : Nat} (positive : 0 < denominator) :
    roundedDiv numerator denominator = roundHalfAway (numerator / denominator : ℚ) := by
  have castPositive : (0 : ℚ) < denominator := by exact_mod_cast positive
  have nonzero : (denominator : Int) ≠ 0 := by exact_mod_cast positive.ne'
  have half : (denominator : Int).tdiv 2 = denominator / 2 :=
    Int.tdiv_eq_ediv_of_nonneg (Int.natCast_nonneg _)
  rw [roundedDiv, if_neg nonzero, half, roundHalfAway]
  by_cases nonneg : 0 ≤ numerator
  · have quotient : (0 : ℚ) ≤ numerator / denominator :=
      div_nonneg (by exact_mod_cast nonneg) castPositive.le
    rw [if_pos nonneg, if_pos quotient, Int.tdiv_eq_ediv_of_nonneg (by omega),
      half_added_quotient numerator positive]
  · have quotient : ¬ (0 : ℚ) ≤ numerator / denominator := by
      rw [not_le]
      exact div_neg_of_neg_of_pos (by exact_mod_cast not_le.mp nonneg) castPositive
    rw [if_neg nonneg, if_neg quotient, Int.tdiv_eq_ediv_of_nonneg (by omega),
      half_added_quotient (-numerator) positive, Int.cast_neg, neg_div]

/-- The exact mean. -/
def meanOf (values : List Int) : ℚ := values.sum / values.length

theorem mean_rounded_half_away {values : List Int} (nonempty : values ≠ []) :
    meanRounded values = roundHalfAway (meanOf values) := by
  rw [meanRounded, if_neg nonempty]
  exact rounded_div_half_away _ (List.length_pos_of_ne_nil nonempty)

end Rounding

section Figures

/-- The loss of each month, zero where it gains. -/
def monthlyLosses (policy : PolicySnapshot) (item : OptimizerPriceItem) (costs : List Int) :
    List Int :=
  (netValues policy item costs).map fun value => if value < 0 then -value else 0

/-- The candidate that `evaluateItem` makes of the figures. -/
def itemCandidate (run : OptimizerRun) (policy : PolicySnapshot) (serviceCode : String)
    (item : OptimizerPriceItem) (figures : ItemFigures) : CommitmentInstrumentCandidate :=
  let binding := bindingConstraints policy figures.expected figures.p95Downside
    (10000 - figures.utilizationP50)
  { provider := run.provider
    instrument := run.instrument
    serviceCode := (coverageServiceCode item).getD serviceCode
    region := item.region
    termMonths := item.termMonths
    paymentOption := item.paymentOption
    commitmentAmountCents := figures.commitment
    expectedSavingsCents := if 0 < figures.expected then figures.expected else 0
    p95DownsideLossCents := figures.p95Downside
    utilizationP50Bps := figures.utilizationP50
    utilizationP95Bps := figures.utilizationP95
    confidenceScore := 9000
    riskBand := riskBand figures.p95Downside policy.maxDownsideLossCents
    feasible := binding.isEmpty
    bindingConstraints := binding }

variable {run : OptimizerRun} {policy : PolicySnapshot} {item : OptimizerPriceItem}
  {costs : List Int}

theorem evaluate_item_some {points : List ForecastPoint} (nonempty : points ≠ [])
    (read : (points.mapM fun point => bigIntOfString point.forecastOnDemandCostCents) =
      some costs) :
    ∃ first ∈ points, evaluateItem run policy points item =
      some [itemCandidate run policy first.serviceCode item
        (itemFigures (itemCosts policy item) costs)] := by
  cases points with
  | nil => exact absurd rfl nonempty
  | cons first rest =>
      refine ⟨first, List.mem_cons_self, ?_⟩
      rw [evaluateItem, read]
      rfl

theorem costs_nonempty {points : List ForecastPoint} (nonempty : points ≠ [])
    (read : (points.mapM fun point => bigIntOfString point.forecastOnDemandCostCents) =
      some costs) : costs ≠ [] := by
  rintro rfl
  cases points with
  | nil => exact nonempty rfl
  | cons first rest =>
      rw [PartialLists.map_m_cons] at read
      obtain ⟨_, _, read⟩ := Option.bind_eq_some_iff.mp read
      obtain ⟨_, _, same⟩ := Option.map_eq_some_iff.mp read
      cases same

/-- The reported downside is the least loss that 95 percent of the months stay within. -/
theorem p95_loss_least (nonempty : costs ≠ []) :
    IsLeast {loss | loss ∈ monthlyLosses policy item costs ∧
        95 * costs.length ≤ 100 * (monthlyLosses policy item costs).countP (· ≤ loss)}
      (itemFigures (itemCosts policy item) costs).p95Downside := by
  have losses : monthlyLosses policy item costs ≠ [] := by
    simpa [monthlyLosses, netValues] using nonempty
  have length : (monthlyLosses policy item costs).length = costs.length := by
    rw [monthlyLosses, netValues, List.length_map, List.length_map]
  have permuted : (sortBigInt (monthlyLosses policy item costs)).Perm
      (monthlyLosses policy item costs) := List.perm_insertionSort _ _
  have least := @nearest_rank_least _ _ _ 95 0
    (sort_big_int_sorted (monthlyLosses policy item costs)) (sort_big_int_nonempty losses)
    (by decide) (by decide)
  simp only [permuted.mem_iff, permuted.length_eq, permuted.countP_eq, length] at least
  rw [figures_loss]
  exact least

end Figures

section Reports

variable {runtime : PolicyRuntime} {resolved : ResolvedInputs}

/-- Under a stored policy, a feasible candidate has the rounded mean as its savings: it
is not below zero. -/
theorem feasible_savings {run : OptimizerRun} {policy : PolicySnapshot} {item : OptimizerPriceItem}
    {serviceCode : String} {figures : ItemFigures} (minimum : 0 ≤ policy.minExpectedSavingsCents)
    (feasible : (itemCandidate run policy serviceCode item figures).feasible = true) :
    (itemCandidate run policy serviceCode item figures).expectedSavingsCents =
      figures.expected := by
  have within : withinLimits policy figures = true := (binding_is_empty policy figures).symm.trans
    feasible
  simp only [withinLimits, Bool.and_eq_true, decide_eq_true_eq] at within
  have nonneg : 0 ≤ figures.expected := minimum.trans within.1.2
  change (if 0 < figures.expected then figures.expected else 0) = figures.expected
  split_ifs with positive
  · rfl
  · omega

theorem feasible_candidate_reports (stored : StoredPolicy runtime resolved.policy) (runId : Uuid)
    (input : OptimizerRunCreateInput) (randomSeed : Int) (run : OptimizerRun)
    (item : OptimizerPriceItem) {points : List ForecastPoint} (nonempty : points ≠ [])
    {costs : List Int} (read : (points.mapM fun point =>
      bigIntOfString point.forecastOnDemandCostCents) = some costs) :
    ∃ policy candidate,
      Candidates.policySnapshot (inputSnapshot runId input resolved randomSeed) = some policy ∧
      evaluateItem run policy points item = some [candidate] ∧
      IsLeast {loss | loss ∈ monthlyLosses policy item costs ∧
        95 * costs.length ≤ 100 * (monthlyLosses policy item costs).countP (· ≤ loss)}
        candidate.p95DownsideLossCents ∧
      (candidate.feasible = true →
        candidate.expectedSavingsCents = roundHalfAway (meanOf (netValues policy item costs))) ∧
      (candidate.feasible = true ↔
        candidate.p95DownsideLossCents ≤ resolved.policy.maxDownsideLossCents ∧
        resolved.policy.minExpectedSavingsCents ≤
          roundHalfAway (meanOf (netValues policy item costs)) ∧
        10000 - candidate.utilizationP50Bps ≤ resolved.policy.maxUtilizationGapBps) ∧
      (candidate.feasible = true → candidate.riskBand ≠ .high) := by
  have inRange := stored_policy_in_range stored
  have someCosts := costs_nonempty nonempty read
  obtain ⟨first, _, evaluated⟩ := @evaluate_item_some run (snapshotOf resolved.policy) item _ _
    nonempty read
  have someNets : netValues (snapshotOf resolved.policy) item costs ≠ [] := by
    simpa [netValues] using someCosts
  have mean : (itemFigures (itemCosts (snapshotOf resolved.policy) item) costs).expected =
      roundHalfAway (meanOf (netValues (snapshotOf resolved.policy) item costs)) := by
    rw [figures_expected, mean_rounded_half_away someNets]
  have verdict := binding_is_empty (snapshotOf resolved.policy)
    (itemFigures (itemCosts (snapshotOf resolved.policy) item) costs)
  have limits := Bool.eq_iff_iff.mp verdict
  simp only [withinLimits, Bool.and_eq_true, decide_eq_true_eq, mean, and_assoc] at limits
  refine ⟨_, _, policy_snapshot_read inRange runId input randomSeed, evaluated,
    p95_loss_least someCosts, ?_, ?_, ?_⟩
  · intro feasible
    rw [feasible_savings inRange.minExpectedSavings.1 feasible, mean]
  · rw [← mean] at limits ⊢
    exact limits
  · intro feasible high
    have within := ((Bool.eq_iff_iff.mp verdict).mp feasible)
    simp only [withinLimits, Bool.and_eq_true, decide_eq_true_eq] at within
    change Candidates.riskBand _ _ = _ at high
    rw [Candidates.riskBand, if_pos within.1.1] at high
    split_ifs at high

def examplePolicy (maxLoss maxGapBps : Nat) : OptimizerPolicy :=
  createdPolicy 3 7 (exampleInput maxLoss maxGapBps [])

theorem example_policy_stored : StoredPolicy exampleRuntime (examplePolicy 1000 2000) :=
  .created 3 7 (exampleBody "1000" "20" []) _ (by decide)

def examplePoints : List ForecastPoint :=
  [⟨"2026-01", .aws, "AmazonEC2", "us-east-1", "2000"⟩,
   ⟨"2026-02", .aws, "AmazonEC2", "us-east-1", "1000"⟩]

theorem feasible_candidate_reports_two_months :
    StoredPolicy exampleRuntime (examplePolicy 1000 2000) ∧
    ∃ policy candidate,
      Candidates.policySnapshot (inputSnapshot 1 exampleCreate
        (exampleResolved (examplePolicy 1000 2000)) 42) = some policy ∧
      evaluateItem exampleRun policy examplePoints (exampleItem "us-east-1") = some [candidate] ∧
      IsLeast {loss | loss ∈ monthlyLosses policy (exampleItem "us-east-1") [2000, 1000] ∧
        95 * [(2000 : Int), 1000].length ≤
          100 * (monthlyLosses policy (exampleItem "us-east-1") [2000, 1000]).countP (· ≤ loss)}
        candidate.p95DownsideLossCents ∧
      (candidate.feasible = true → candidate.expectedSavingsCents =
        roundHalfAway (meanOf (netValues policy (exampleItem "us-east-1") [2000, 1000]))) ∧
      (candidate.feasible = true ↔ candidate.p95DownsideLossCents ≤ 1000 ∧
        0 ≤ roundHalfAway (meanOf (netValues policy (exampleItem "us-east-1") [2000, 1000])) ∧
        10000 - candidate.utilizationP50Bps ≤ 2000) ∧
      (candidate.feasible = true → candidate.riskBand ≠ .high) :=
  ⟨example_policy_stored, @feasible_candidate_reports exampleRuntime
    (exampleResolved (examplePolicy 1000 2000)) example_policy_stored 1 exampleCreate 42 exampleRun
    (exampleItem "us-east-1") examplePoints (by decide) [2000, 1000] (by decide)⟩

end Reports

section Utilizations

variable {runtime : PolicyRuntime} {resolved : ResolvedInputs} {costs : List Int}

theorem utilization_at_most {commitment : Int} (nonneg : 0 ≤ commitment) (cost : Int) :
    utilization commitment cost ≤ 10000 := by
  unfold utilization
  split_ifs with zero
  · decide
  · have positive : 0 < commitment := lt_of_le_of_ne nonneg (Ne.symm zero)
    calc (min cost commitment * 10000).tdiv commitment
        ≤ (commitment * 10000).tdiv commitment := by
          apply Int.tdiv_le_tdiv positive
          exact Int.mul_le_mul_of_nonneg_right (min_le_right _ _) (by decide)
      _ = 10000 := by
          rw [Int.mul_comm]
          exact Int.mul_tdiv_cancel 10000 zero

theorem commitment_nonneg (itemCosts : ItemCosts) (nonempty : costs ≠ [])
    (nonneg : ∀ cost ∈ costs, 0 ≤ cost) : 0 ≤ (itemFigures itemCosts costs).commitment := by
  apply nonneg
  exact (List.mem_insertionSort _).mp
    (@nearest_rank_mem _ _ 50 0 (sort_big_int_nonempty nonempty) (by decide))

/-- The 95th percentile is not below the median and no utilization is above all of the
commitment. -/
theorem utilization_p95 (itemCosts : ItemCosts) (nonempty : costs ≠ [])
    (nonneg : ∀ cost ∈ costs, 0 ≤ cost) :
    (itemFigures itemCosts costs).utilizationP95 =
      if (itemFigures itemCosts costs).commitment = 0 then 0 else 10000 := by
  have positive := commitment_nonneg itemCosts nonempty nonneg
  have median := utilization_p50 itemCosts nonempty
  have eligible := sort_big_int_nonempty nonempty
  obtain ⟨utilizations, isMapped⟩ : ∃ utilizations, utilizations =
      (sortBigInt costs).map (utilization (itemFigures itemCosts costs).commitment) := ⟨_, rfl⟩
  have someUtilizations : utilizations ≠ [] := by simpa [isMapped] using eligible
  have higher : (itemFigures itemCosts costs).utilizationP50 ≤
      (itemFigures itemCosts costs).utilizationP95 := by
    have order := @nearest_rank_mono_percent _ _ _ 0 (sort_big_int_sorted utilizations)
      (sort_big_int_nonempty someUtilizations) 50 95 (by decide) (by decide)
    rwa [isMapped] at order
  have member : (itemFigures itemCosts costs).utilizationP95 ∈ utilizations := by
    have inSorted := @nearest_rank_mem _ _ 95 0 (sort_big_int_nonempty someUtilizations)
      (by decide)
    rw [sortBigInt, List.mem_insertionSort, isMapped] at inSorted
    rw [isMapped]
    exact inSorted
  rw [isMapped, List.mem_map] at member
  obtain ⟨cost, _, same⟩ := member
  rw [median] at higher
  rw [← same] at higher ⊢
  split_ifs at higher ⊢ with zero
  · rw [zero, utilization, if_pos rfl]
  · exact le_antisymm (utilization_at_most positive cost) higher

/-- A utilization is all or nothing, so that the gap binds for free months only. -/
theorem utilization_constraint_vacuous (stored : StoredPolicy runtime resolved.policy)
    (runId : Uuid) (input : OptimizerRunCreateInput) (randomSeed : Int) (run : OptimizerRun)
    (item : OptimizerPriceItem) {points : List ForecastPoint} (nonempty : points ≠ [])
    (read : (points.mapM fun point => bigIntOfString point.forecastOnDemandCostCents) =
      some costs) (nonneg : ∀ cost ∈ costs, 0 ≤ cost) :
    ∃ policy candidate,
      Candidates.policySnapshot (inputSnapshot runId input resolved randomSeed) = some policy ∧
      evaluateItem run policy points item = some [candidate] ∧
      candidate.commitmentAmountCents = medianCost costs ∧ 0 ≤ medianCost costs ∧
      (0 < candidate.commitmentAmountCents →
        formatBps candidate.utilizationP50Bps = "100.00" ∧
        formatBps candidate.utilizationP95Bps = "100.00") ∧
      (candidate.commitmentAmountCents = 0 →
        formatBps candidate.utilizationP50Bps = "0.00" ∧
        formatBps candidate.utilizationP95Bps = "0.00") ∧
      ("utilization_gap" ∈ candidate.bindingConstraints ↔
        medianCost costs = 0 ∧ resolved.policy.maxUtilizationGapBps < 10000) := by
  have inRange := stored_policy_in_range stored
  have someCosts := costs_nonempty nonempty read
  obtain ⟨first, _, evaluated⟩ := @evaluate_item_some run (snapshotOf resolved.policy) item _ _
    nonempty read
  obtain ⟨figures, isFigures⟩ : ∃ figures,
    itemFigures (itemCosts (snapshotOf resolved.policy) item) costs = figures := ⟨_, rfl⟩
  have median : figures.commitment = medianCost costs := by rw [← isFigures]; rfl
  have p50 := utilization_p50 (itemCosts (snapshotOf resolved.policy) item) someCosts
  have p95 := utilization_p95 (itemCosts (snapshotOf resolved.policy) item) someCosts nonneg
  have positive := commitment_nonneg (itemCosts (snapshotOf resolved.policy) item) someCosts nonneg
  rw [isFigures] at p50 p95 positive evaluated
  have full : formatBps 10000 = "100.00" := by decide
  have none : formatBps 0 = "0.00" := by decide
  refine ⟨_, _, policy_snapshot_read inRange runId input randomSeed, evaluated, median,
    median ▸ positive, ?_, ?_, ?_⟩
  · intro some
    change 0 < figures.commitment at some
    change formatBps figures.utilizationP50 = _ ∧ formatBps figures.utilizationP95 = _
    rw [p50, p95, if_neg some.ne', full]
    exact ⟨rfl, rfl⟩
  · intro zero
    change figures.commitment = 0 at zero
    change formatBps figures.utilizationP50 = _ ∧ formatBps figures.utilizationP95 = _
    rw [p50, p95, if_pos zero, none]
    exact ⟨rfl, rfl⟩
  · change "utilization_gap" ∈ bindingConstraints _ _ _ (10000 - figures.utilizationP50) ↔ _
    have binds : ∀ expected loss gap, "utilization_gap" ∈
        bindingConstraints (snapshotOf resolved.policy) expected loss gap ↔
          (resolved.policy.maxUtilizationGapBps : Int) < gap := by
      intro expected loss gap
      unfold bindingConstraints
      simp only [List.mem_append, List.mem_ite_nil_right, List.mem_singleton, String.reduceEq,
        and_false, false_or, and_true]
      rfl
    rw [binds, p50, median]
    split_ifs with zero
    · simp only [zero, true_and]
      omega
    · simp only [zero, false_and, iff_false]
      omega

theorem utilization_constraint_vacuous_two_months :
    StoredPolicy exampleRuntime (examplePolicy 1000 2000) ∧
    ∃ policy candidate,
      Candidates.policySnapshot (inputSnapshot 1 exampleCreate
        (exampleResolved (examplePolicy 1000 2000)) 42) = some policy ∧
      evaluateItem exampleRun policy examplePoints (exampleItem "us-east-1") = some [candidate] ∧
      candidate.commitmentAmountCents = medianCost [2000, 1000] ∧
      0 ≤ medianCost [2000, 1000] ∧
      (0 < candidate.commitmentAmountCents →
        formatBps candidate.utilizationP50Bps = "100.00" ∧
        formatBps candidate.utilizationP95Bps = "100.00") ∧
      (candidate.commitmentAmountCents = 0 →
        formatBps candidate.utilizationP50Bps = "0.00" ∧
        formatBps candidate.utilizationP95Bps = "0.00") ∧
      ("utilization_gap" ∈ candidate.bindingConstraints ↔
        medianCost [2000, 1000] = 0 ∧ 2000 < 10000) :=
  ⟨example_policy_stored, @utilization_constraint_vacuous exampleRuntime
    (exampleResolved (examplePolicy 1000 2000)) [2000, 1000] example_policy_stored 1 exampleCreate
    42 exampleRun (exampleItem "us-east-1") examplePoints (by decide) (by decide)
    (by decide)⟩

end Utilizations

end CommitmentOptimizer.Optimizer.Feasibility
