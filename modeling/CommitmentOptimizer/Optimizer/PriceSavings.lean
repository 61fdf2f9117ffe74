import CommitmentOptimizer.Backtests.BacktestReplay
import CommitmentOptimizer.Optimizer.Feasibility

/-!
# Savings and the price of an item

How the figures of `evaluateItem` depend on the price of the item, and what they
attribute to the spend that the commitment does not cover.
-/

namespace CommitmentOptimizer.Optimizer.PriceSavings

open Foundations
open Foundations.BigIntText
open Foundations.HalfAwayRounding
open Foundations.NearestRank
open Foundations.SqlConstraints
open Recommendations.RecommendationLifecycle
open OptimizerRuns
open OptimizerRunCreation
open OptimizerPolicies
open Candidates
open CandidateChoice (exampleRun exampleItem)
open Relaxations (ItemFigures itemFigures medianCost netValues p95Loss figures_loss
  figures_expected withinLimits binding_is_empty utilization_p50 sort_big_int_sorted)
open Feasibility

set_option autoImplicit false

section Prices

variable {policy : PolicySnapshot} {item cheap dear : OptimizerPriceItem} {costs : List Int}

/-- What an item costs in every month, whatever is used. -/
def monthlyPrice (policy : PolicySnapshot) (item : OptimizerPriceItem) : Int :=
  (itemCosts policy item).monthlyEffectiveCost + (itemCosts policy item).upfrontAmortization +
    (itemCosts policy item).liquidityPenalty

/-- The economic columns of an item that the price table parser accepts and the table
holds. -/
structure TablePrice (item : OptimizerPriceItem) : Prop where
  termMonths : item.termMonths = 12 ∨ item.termMonths = 36
  hourlyRate : 0 ≤ item.hourlyRateCents ∧ item.hourlyRateCents ≤ 9223372036854775807
  upfront : 0 ≤ item.upfrontCents ∧ item.upfrontCents ≤ 9223372036854775807

/-- Two items that differ in their prices only, the second being the dearer one. -/
structure Dearer (cheap dear : OptimizerPriceItem) : Prop where
  same : dear = { cheap with
    hourlyRateCents := dear.hourlyRateCents, upfrontCents := dear.upfrontCents }
  hourlyRate : cheap.hourlyRateCents ≤ dear.hourlyRateCents
  upfront : cheap.upfrontCents ≤ dear.upfrontCents

theorem net_value_price (commitment cost : Int) :
    netValue (itemCosts policy item) commitment cost =
      cost - (if cost < commitment then commitment - cost else 0) - monthlyPrice policy item := by
  unfold netValue monthlyPrice
  dsimp only
  omega

theorem rounded_div_mono {less more : Int} (order : less ≤ more) {denominator : Int}
    (positive : 0 < denominator) : roundedDiv less denominator ≤ roundedDiv more denominator := by
  obtain ⟨number, rfl⟩ := Int.eq_ofNat_of_zero_le positive.le
  have natural : 0 < number := by exact_mod_cast positive
  rw [rounded_div_half_away less natural, rounded_div_half_away more natural]
  apply round_half_away_mono
  have cast : (less : ℚ) ≤ more := by exact_mod_cast order
  exact div_le_div_of_nonneg_right cast (by exact_mod_cast natural.le)

/-- No price falls when its amounts rise, unless the penalty rewards the upfront part. -/
theorem monthly_price_mono (dearer : Dearer cheap dear) (term : 0 < cheap.termMonths)
    (penalty : 0 ≤ policy.liquidityPenaltyBps) :
    monthlyPrice policy cheap ≤ monthlyPrice policy dear := by
  have sameTerm : dear.termMonths = cheap.termMonths := by rw [dearer.same]
  have hourly : cheap.hourlyRateCents * hoursPerMonth ≤ dear.hourlyRateCents * hoursPerMonth :=
    Int.mul_le_mul_of_nonneg_right dearer.hourlyRate (by decide)
  have amortized := rounded_div_mono dearer.upfront term
  have penalized := rounded_div_mono
    (Int.mul_le_mul_of_nonneg_right dearer.upfront penalty) (by decide : (0 : Int) < 10000)
  unfold monthlyPrice itemCosts
  dsimp only
  rw [sameTerm]
  omega

/-- The net values of two items differ by their prices. -/
theorem net_values_shift : netValues policy cheap costs =
    (netValues policy dear costs).map
      fun value => value + (monthlyPrice policy dear - monthlyPrice policy cheap) := by
  rw [netValues, netValues, List.map_map]
  apply List.map_congr_left
  intro cost _
  rw [Function.comp_apply, net_value_price, net_value_price]
  omega

theorem mean_of_shift {values : List Int} (nonempty : values ≠ []) (shift : Int) :
    meanOf (values.map fun value => value + shift) = meanOf values + shift := by
  have positive : (values.length : ℚ) ≠ 0 := by
    exact_mod_cast (List.length_pos_of_ne_nil nonempty).ne'
  have sum : (values.map fun value => value + shift).sum = values.sum + values.length * shift := by
    rw [List.sum_map_add, List.map_id', List.map_const', List.sum_replicate, nsmul_eq_mul]
  rw [meanOf, meanOf, sum, List.length_map, eq_comm, ← sub_eq_zero]
  push_cast
  field_simp
  ring

theorem mean_rounded_shift_iff (nonempty : costs ≠ []) :
    meanRounded (netValues policy dear costs) ≤ meanRounded (netValues policy cheap costs) ↔
      monthlyPrice policy cheap ≤ monthlyPrice policy dear := by
  have someNets : netValues policy dear costs ≠ [] := by simpa [netValues] using nonempty
  have someCheap : netValues policy cheap costs ≠ [] := by simpa [netValues] using nonempty
  rw [mean_rounded_half_away someNets, mean_rounded_half_away someCheap,
    @net_values_shift policy cheap dear costs, mean_of_shift someNets]
  constructor
  · intro ordered
    by_contra dearer
    refine absurd ordered (not_le.mpr (round_half_away_strict ?_))
    have gap : monthlyPrice policy dear - monthlyPrice policy cheap ≤ -1 := by omega
    have cast : ((monthlyPrice policy dear - monthlyPrice policy cheap : Int) : ℚ) ≤ -1 := by
      exact_mod_cast gap
    linarith
  · intro order
    apply round_half_away_mono
    have gap : (0 : ℚ) ≤ ((monthlyPrice policy dear - monthlyPrice policy cheap : Int) : ℚ) := by
      exact_mod_cast (by omega : 0 ≤ monthlyPrice policy dear - monthlyPrice policy cheap)
    linarith

theorem p95_loss_mono (nonempty : costs ≠ [])
    (order : monthlyPrice policy cheap ≤ monthlyPrice policy dear) :
    p95Loss policy cheap costs ≤ p95Loss policy dear costs := by
  let loss (item : OptimizerPriceItem) (cost : Int) : Int :=
    let value := netValue (itemCosts policy item) (medianCost costs) cost
    if value < 0 then -value else 0
  have losses : ∀ item, (netValues policy item costs).map
      (fun value => if value < 0 then -value else 0) = costs.map (loss item) := by
    intro item
    rw [netValues, List.map_map]
    rfl
  have below : ∀ cost ∈ costs, loss cheap cost ≤ loss dear cost := by
    intro cost _
    dsimp only [loss]
    rw [net_value_price, net_value_price]
    split_ifs <;> omega
  rw [p95Loss, p95Loss, losses, losses]
  exact nearest_rank_mono below (List.perm_insertionSort _ _) (List.perm_insertionSort _ _)
    (sort_big_int_sorted _) (sort_big_int_sorted _) nonempty (by decide) (by decide)

end Prices

section Monotone

/-- A forecast and two items, the second being the dearer one. -/
structure PricePair where
  points : List ForecastPoint
  costs : List Int
  cheap : OptimizerPriceItem
  dear : OptimizerPriceItem
  nonempty : points ≠ []
  read : (points.mapM fun point => bigIntOfString point.forecastOnDemandCostCents) = some costs
  cheapPrice : TablePrice cheap
  dearPrice : TablePrice dear
  dearer : Dearer cheap dear

/-- The dearer item saves no more, loses no less and is feasible only with the other. -/
def PriceMonotone (run : OptimizerRun) (policy : PolicySnapshot) (pair : PricePair) : Prop :=
  ∃ lower upper,
    evaluateItem run policy pair.points pair.cheap = some [lower] ∧
    evaluateItem run policy pair.points pair.dear = some [upper] ∧
    meanRounded (netValues policy pair.dear pair.costs) ≤
      meanRounded (netValues policy pair.cheap pair.costs) ∧
    lower.p95DownsideLossCents ≤ upper.p95DownsideLossCents ∧
    (upper.feasible = true → lower.feasible = true)

variable {policy : PolicySnapshot}

theorem feasible_mono {cheap dear : OptimizerPriceItem} {costs : List Int} (nonempty : costs ≠ [])
    (order : monthlyPrice policy cheap ≤ monthlyPrice policy dear)
    (feasible : withinLimits policy (itemFigures (itemCosts policy dear) costs) = true) :
    withinLimits policy (itemFigures (itemCosts policy cheap) costs) = true := by
  have mean := (mean_rounded_shift_iff nonempty).mpr order
  have loss := p95_loss_mono nonempty order
  rw [Relaxations.figures_within nonempty] at feasible ⊢
  exact ⟨loss.trans feasible.1, feasible.2.1.trans mean, feasible.2.2⟩

theorem price_monotone_of_pair (run : OptimizerRun) (policy : PolicySnapshot) (pair : PricePair) :
    PriceMonotone run policy pair ↔
      monthlyPrice policy pair.cheap ≤ monthlyPrice policy pair.dear := by
  have someCosts := costs_nonempty pair.nonempty pair.read
  obtain ⟨_, _, evaluatedCheap⟩ := @evaluate_item_some run policy pair.cheap _ _ pair.nonempty
    pair.read
  obtain ⟨_, _, evaluatedDear⟩ := @evaluate_item_some run policy pair.dear _ _ pair.nonempty
    pair.read
  constructor
  · rintro ⟨_, _, _, _, mean, _⟩
    exact (mean_rounded_shift_iff someCosts).mp mean
  · intro order
    refine ⟨_, _, evaluatedCheap, evaluatedDear, (mean_rounded_shift_iff someCosts).mpr order,
      ?_, ?_⟩
    · change (itemFigures (itemCosts policy pair.cheap) pair.costs).p95Downside ≤
        (itemFigures (itemCosts policy pair.dear) pair.costs).p95Downside
      rw [figures_loss, figures_loss]
      exact p95_loss_mono someCosts order
    · intro feasible
      exact (binding_is_empty policy _).trans
        (feasible_mono someCosts order ((binding_is_empty policy _).symm.trans feasible))

def upfrontItem (upfront : Int) : OptimizerPriceItem :=
  { exampleItem "us-east-1" with
    termMonths := 36, hourlyRateCents := 0, upfrontCents := upfront }

/-- Two upfront payments for three years. -/
def upfrontPair (less more : Int) (lessNonneg : 0 ≤ less) (order : less ≤ more)
    (bounded : more ≤ 9223372036854775807) : PricePair where
  points := [⟨"2026-01", .aws, "AmazonEC2", "us-east-1", "1000"⟩]
  costs := [1000]
  cheap := upfrontItem less
  dear := upfrontItem more
  nonempty := by decide
  read := by decide
  cheapPrice :=
    ⟨Or.inr rfl, ⟨Int.le_refl 0, Int.natCast_nonneg 9223372036854775807⟩, lessNonneg,
      order.trans bounded⟩
  dearPrice :=
    ⟨Or.inr rfl, ⟨Int.le_refl 0, Int.natCast_nonneg 9223372036854775807⟩,
      lessNonneg.trans order, bounded⟩
  dearer := ⟨rfl, Int.le_refl 0, order⟩

/-- The price of an upfront payment alone. -/
def upfrontPrice (bps upfront : Int) : Int :=
  roundedDiv upfront 36 + roundedDiv (upfront * bps) 10000

theorem monthly_price_upfront (upfront : Int) :
    monthlyPrice policy (upfrontItem upfront) = upfrontPrice policy.liquidityPenaltyBps upfront := by
  have price : monthlyPrice policy (upfrontItem upfront) = 0 * hoursPerMonth +
      roundedDiv upfront 36 + roundedDiv (upfront * policy.liquidityPenaltyBps) 10000 := rfl
  rw [price, upfrontPrice, Int.zero_mul, Int.zero_add]

/-- A payment at which a small reward is rounded up to the next cent. -/
def rewardedUpfront (reward step : Nat) : Nat := (10000 * step + 5000 + reward - 1) / reward

theorem small_reward_dips : ∀ less : Fin 277, ∃ step : Fin 3,
    1 ≤ rewardedUpfront (less + 1) step ∧ rewardedUpfront (less + 1) step ≤ 25000 ∧
    upfrontPrice (-(less + 1 : Nat)) (rewardedUpfront (less + 1) step) <
      upfrontPrice (-(less + 1 : Nat)) (rewardedUpfront (less + 1) step - 1 : Int) := by
  decide +kernel

/-- Any negative penalty makes some larger upfront payment the cheaper one. -/
theorem upfront_dips {bps : Int} (negative : bps < 0) :
    ∃ less more, 0 ≤ less ∧ less ≤ more ∧ more ≤ 9223372036854775807 ∧
      upfrontPrice bps more < upfrontPrice bps less := by
  obtain ⟨reward, rfl⟩ : ∃ reward : Nat, bps = -(reward : Int) :=
    ⟨bps.natAbs, by omega⟩
  by_cases small : reward ≤ 277
  · have dips := small_reward_dips ⟨reward - 1, by omega⟩
    have same : reward - 1 + 1 = reward := by omega
    simp only [same] at dips
    obtain ⟨step, some, bounded, less⟩ := dips
    exact ⟨_, _, by omega, by omega, by omega, less⟩
  · -- the reward outweighs the payment spread over the term
    refine ⟨0, 360000, by decide, by decide, by decide, ?_⟩
    have rewarded : roundedDiv (360000 * -(reward : Int)) 10000 ≤
        roundedDiv (360000 * -278) 10000 := rounded_div_mono (by omega) (by decide)
    have amounts : roundedDiv 360000 36 + roundedDiv (360000 * -278) 10000 < roundedDiv 0 36 := by
      decide
    have free : roundedDiv (0 * -(reward : Int)) 10000 = 0 := by
      rw [Int.zero_mul]
      decide
    rw [upfrontPrice, upfrontPrice, free]
    omega

variable {runtime : PolicyRuntime} {resolved : ResolvedInputs}

/-- The prices order the figures of two items exactly as the penalty lets them, and a
penalty that is not negative always does. -/
theorem price_monotone_iff (stored : StoredPolicy runtime resolved.policy) (runId : Uuid)
    (input : OptimizerRunCreateInput) (randomSeed : Int) :
    ∃ policy, Candidates.policySnapshot (inputSnapshot runId input resolved randomSeed) =
        some policy ∧
      policy.liquidityPenaltyBps =
        integerAt resolved.policy.config "liquidity_penalty_bps" 0 ∧
      (∀ run pair, PriceMonotone run policy pair ↔
        monthlyPrice policy pair.cheap ≤ monthlyPrice policy pair.dear) ∧
      ((∀ run pair, PriceMonotone run policy pair) ↔ 0 ≤ policy.liquidityPenaltyBps) := by
  refine ⟨_, policy_snapshot_read (stored_policy_in_range stored) runId input randomSeed, rfl,
    fun run pair => price_monotone_of_pair run _ pair, ?_⟩
  constructor
  · intro monotone
    by_contra negative
    obtain ⟨less, more, nonneg, order, bounded, dips⟩ := upfront_dips (not_le.mp negative)
    have prices := (price_monotone_of_pair _ _ _).mp
      (monotone exampleRun (upfrontPair less more nonneg order bounded))
    change monthlyPrice _ (upfrontItem less) ≤ monthlyPrice _ (upfrontItem more) at prices
    rw [monthly_price_upfront, monthly_price_upfront] at prices
    exact absurd dips (not_lt.mpr prices)
  · intro penalty run pair
    exact (price_monotone_of_pair _ _ _).mpr
      (monthly_price_mono pair.dearer (by have := pair.cheapPrice.termMonths; omega) penalty)

def penaltyPolicy (bps : Rat) : OptimizerPolicy :=
  createdPolicy 3 7 (exampleInput 1000 2000 [("liquidity_penalty_bps", .number (some bps))])

theorem penalty_policy_stored : StoredPolicy exampleRuntime (penaltyPolicy (-10000)) :=
  .created 3 7 (exampleBody "1000" "20" [("liquidity_penalty_bps", .number (some (-10000)))]) _
    (by decide)

theorem price_monotone_iff_rewarded :
    StoredPolicy exampleRuntime (penaltyPolicy (-10000)) ∧
    ∃ policy, Candidates.policySnapshot (inputSnapshot 1 exampleCreate
        (exampleResolved (penaltyPolicy (-10000))) 42) = some policy ∧
      policy.liquidityPenaltyBps =
        integerAt (penaltyPolicy (-10000)).config "liquidity_penalty_bps" 0 ∧
      (∀ run pair, PriceMonotone run policy pair ↔
        monthlyPrice policy pair.cheap ≤ monthlyPrice policy pair.dear) ∧
      ((∀ run pair, PriceMonotone run policy pair) ↔ 0 ≤ policy.liquidityPenaltyBps) :=
  ⟨penalty_policy_stored, @price_monotone_iff exampleRuntime
    (exampleResolved (penaltyPolicy (-10000))) penalty_policy_stored 1 exampleCreate 42⟩

/-- Under a penalty of −10000 basis points, an upfront payment is a gain of its amount in
every month. -/
theorem price_not_monotone :
    ¬ ∀ (runtime : PolicyRuntime) (resolved : ResolvedInputs),
      StoredPolicy runtime resolved.policy →
      ∀ (runId : Uuid) (input : OptimizerRunCreateInput) (randomSeed : Int) (run : OptimizerRun)
        (pair : PricePair) (policy : PolicySnapshot),
        Candidates.policySnapshot (inputSnapshot runId input resolved randomSeed) =
          some policy → PriceMonotone run policy pair := by
  intro monotone
  have inRange := stored_policy_in_range penalty_policy_stored
  obtain ⟨_, _, _, _, mean, _⟩ := monotone exampleRuntime (exampleResolved (penaltyPolicy (-10000)))
    penalty_policy_stored 1 exampleCreate 42 exampleRun
    (upfrontPair 0 3600 (by decide) (by decide) (by decide)) _
    (@policy_snapshot_read (exampleResolved (penaltyPolicy (-10000))) inRange 1 exampleCreate 42)
  have more : ¬ meanRounded
        (netValues (snapshotOf (penaltyPolicy (-10000))) (upfrontItem 3600) [1000]) ≤
      meanRounded (netValues (snapshotOf (penaltyPolicy (-10000))) (upfrontItem 0) [1000]) := by
    decide
  exact more mean

end Monotone

section Coverage

variable {policy : PolicySnapshot} {item : OptimizerPriceItem} {costs : List Int}

theorem monthly_price_nonneg (price : TablePrice item) (penalty : 0 ≤ policy.liquidityPenaltyBps) :
    0 ≤ monthlyPrice policy item := by
  have free : Dearer { item with hourlyRateCents := 0, upfrontCents := 0 } item :=
    ⟨rfl, price.hourlyRate.1, price.upfront.1⟩
  have term : 0 < item.termMonths := by
    have := price.termMonths
    omega
  have zero : monthlyPrice policy { item with hourlyRateCents := 0, upfrontCents := 0 } = 0 := by
    change 0 * hoursPerMonth + roundedDiv 0 item.termMonths +
      roundedDiv (0 * policy.liquidityPenaltyBps) 10000 = 0
    have nothing : ∀ denominator : Int, 0 < denominator → roundedDiv 0 denominator = 0 := by
      intro denominator positive
      rw [roundedDiv, if_neg positive.ne', if_pos (Int.le_refl 0), Int.zero_add,
        Int.tdiv_eq_ediv_of_nonneg (Int.tdiv_nonneg positive.le (by decide)),
        Int.tdiv_eq_ediv_of_nonneg positive.le]
      exact Int.ediv_eq_zero_of_lt (by omega) (by omega)
    rw [Int.zero_mul, Int.zero_mul, nothing _ term, nothing 10000 (by decide)]
    rfl
  rw [← zero]
  exact monthly_price_mono free term penalty

/-- A month that costs five times the commitment, under an item of one cent an hour. -/
def peakCosts : List Int := [1000, 1000, 5000]

theorem example_item_price : TablePrice (exampleItem "us-east-1") :=
  ⟨Or.inl rfl, by decide, by decide⟩

end Coverage

end CommitmentOptimizer.Optimizer.PriceSavings
