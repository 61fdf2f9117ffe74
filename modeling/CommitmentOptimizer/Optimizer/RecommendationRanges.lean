import CommitmentOptimizer.Forecasting.ForecastUsage
import CommitmentOptimizer.Optimizer.PriceSavings
import CommitmentOptimizer.Optimizer.StalePrices
import CommitmentOptimizer.PriceTables.PriceItemRequests

/-!
# Which recommendations fit into their columns

The row that the worker inserts for a selected candidate, from the usage, the policy and
the price items that a run reads. Its costs have no upper bound, and the BIGINT columns
have one.
-/

namespace CommitmentOptimizer.Optimizer.RecommendationRanges

open Foundations
open Foundations.BigIntText
open Foundations.HalfAwayRounding
open Foundations.NearestRank
open Foundations.SqlConstraints
open Foundations.UuidText
open Forecasting.ForecastRuns
open Forecasting.ForecastUsage
open Forecasting.SeasonalForecast (ForecastRuntime ForecastWorkerRun buildSeasonalNaiveArtifact
  exampleService exampleRegion)
open PriceTables.PriceItemRequests
open PriceTables.PriceTableItems
open PriceTables.PriceTableTransactions
open PriceTables.PriceTableVersions
open Recommendations.RecommendationLifecycle
open OptimizerPolicies
open OptimizerRuns
open OptimizerRunCreation
open OptimizerWorker
open Candidates
open CandidateChoice (exampleRun)
open Feasibility
open Relaxations (ItemFigures itemFigures medianCost netValues figures_loss figures_expected
  withinLimits binding_is_empty utilization_p50 sort_big_int_sorted sort_big_int_nonempty)
open PriceSavings (monthlyPrice net_value_price)
open StalePrices (select_candidate_row)

set_option autoImplicit false

section Explanations

theorem utf8_size_at_most (text : String) : text.utf8ByteSize ≤ 4 * text.length := by
  obtain ⟨characters, rfl⟩ : ∃ characters, text = String.ofList characters :=
    ⟨text.toList, String.ofList_toList.symm⟩
  induction characters with
  | nil => simp
  | cons first rest induction =>
      have joined : String.ofList (first :: rest) =
          String.singleton first ++ String.ofList rest := by
        apply String.toList_injective
        simp
      rw [joined, String.utf8ByteSize_append, String.length_append,
        String.utf8ByteSize_singleton, String.length_singleton]
      have size := first.utf8Size_le_four
      omega

theorem intercalate_length (separator : String) (texts : List String) {limit : Nat}
    (short : ∀ text ∈ texts, text.length ≤ limit) :
    (separator.intercalate texts).length ≤ texts.length * (limit + separator.length) := by
  induction texts with
  | nil => simp
  | cons first rest induction =>
      have head := short first List.mem_cons_self
      have tail := induction fun text member => short text (List.mem_cons_of_mem _ member)
      cases rest with
      | nil =>
          rw [String.intercalate_singleton]
          simp only [List.length_cons, List.length_nil]
          omega
      | cons second others =>
          rw [String.intercalate_cons_cons, String.length_append, String.length_append,
            List.length_cons, Nat.succ_mul]
          omega

/-- An explanation of the worker's is far below the limit of its column. -/
theorem explanation_fits {run : OptimizerRun} (few : run.priceTableVersionIds.length ≤ 16)
    (uuids : ∀ id ∈ run.id :: run.priceTableVersionIds, id < 16 ^ 32) :
    (Explanation.text
      { baselineName := "on_demand"
        bindingConstraints := ["risk_budget"]
        priceTableVersionIds := run.priceTableVersionIds
        frontierUri := frontierUri run }).utf8ByteSize ≤ 65536 := by
  have uri : (frontierUri run).length = 65 := by
    have own := (uuid_text_length run.id).mpr (uuids _ List.mem_cons_self)
    unfold frontierUri
    rw [String.length_append, String.length_append, own]
    rfl
  have each : ∀ text ∈ (run.priceTableVersionIds.map uuidText).map fun text =>
      "\"" ++ text ++ "\"", text.length ≤ 38 := by
    simp only [List.mem_map, forall_exists_index, and_imp]
    rintro _ _ id listed rfl rfl
    have own := (uuid_text_length id).mpr (uuids _ (List.mem_cons_of_mem _ listed))
    rw [String.length_append, String.length_append, own]
    decide
  have versions := intercalate_length ", " _ each
  have scaled : run.priceTableVersionIds.length * 40 ≤ 16 * 40 := Nat.mul_le_mul_right _ few
  have separator : (", " : String).length = 2 := by decide
  have literals : ∀ text ∈ ["\x7b", "\"frontier_uri\": ", "\"", "\"baseline_name\": ", "on_demand",
      "\"binding_constraints\": ", "[", "risk_budget", "]", "\"price_table_version_ids\": ",
      "\x7d"], text.length ≤ 32 := by decide
  simp only [List.forall_mem_cons] at literals
  rw [List.length_map, List.length_map, separator] at versions
  refine (utf8_size_at_most _).trans ?_
  simp only [Explanation.text, String.intercalate_cons_cons, String.intercalate_singleton,
    String.length_append, List.map_cons, List.map_nil, uri, separator]
  omega

end Explanations

section Amounts

def bigintMax : Int := 9223372036854775807

theorem is_bigint_iff {value : Int} (nonneg : 0 ≤ value) :
    isBigint value = true ↔ value ≤ bigintMax := by
  rw [isBigint, bigintMax, Bool.and_eq_true, decide_eq_true_eq, decide_eq_true_eq]
  omega

/-- What the costs stay below a level, all together. -/
def shortfall (level : Int) (costs : List Int) : Int :=
  (costs.map fun cost => if cost < level then level - cost else 0).sum

/-- The median of the costs and the mean of what they save are amounts of the table. -/
structure AmountsFit (policy : PolicySnapshot) (item : OptimizerPriceItem) (costs : List Int) :
    Prop where
  half : costs.length ≤ 2 * costs.countP (· ≤ bigintMax)
  savings : 2 * (costs.sum - shortfall (medianCost costs) costs -
    costs.length * monthlyPrice policy item) < (2 * bigintMax + 1) * costs.length

instance (policy : PolicySnapshot) (item : OptimizerPriceItem) (costs : List Int) :
    Decidable (AmountsFit policy item costs) :=
  decidable_of_iff
    (costs.length ≤ 2 * costs.countP (· ≤ bigintMax) ∧
      2 * (costs.sum - shortfall (medianCost costs) costs -
        costs.length * monthlyPrice policy item) < (2 * bigintMax + 1) * costs.length)
    ⟨fun fit => ⟨fit.1, fit.2⟩, fun fit => ⟨fit.half, fit.savings⟩⟩

variable {policy : PolicySnapshot} {item : OptimizerPriceItem} {costs : List Int}

theorem net_values_sum : (netValues policy item costs).sum =
    costs.sum - shortfall (medianCost costs) costs - costs.length * monthlyPrice policy item := by
  rw [netValues, shortfall]
  generalize medianCost costs = level
  induction costs with
  | nil => simp
  | cons cost rest induction =>
      simp only [List.map_cons, List.sum_cons, List.length_cons, induction, net_value_price]
      push_cast
      ring

theorem median_cost_le_iff (nonempty : costs ≠ []) (bound : Int) :
    medianCost costs ≤ bound ↔ costs.length ≤ 2 * costs.countP (· ≤ bound) := by
  have permuted : (sortBigInt costs).Perm costs := List.perm_insertionSort _ _
  have within := @nearest_rank_le_iff _ _ _ 50 0 (sort_big_int_sorted costs)
    (sort_big_int_nonempty nonempty) (by decide) (by decide) bound
  rw [permuted.length_eq, permuted.countP_eq] at within
  change nearestRank (sortBigInt costs) 50 0 ≤ bound ↔ _
  rw [within]
  omega

theorem mean_rounded_le_iff {values : List Int} (nonempty : values ≠ []) {bound : Int}
    (nonneg : 0 ≤ bound) :
    meanRounded values ≤ bound ↔ 2 * values.sum < (2 * bound + 1) * values.length := by
  have positive : (0 : ℚ) < values.length := by
    exact_mod_cast List.length_pos_of_ne_nil nonempty
  rw [mean_rounded_half_away nonempty, round_half_away_le_iff nonneg, meanOf,
    div_lt_iff₀ positive]
  constructor
  · intro less
    have doubled : (2 * values.sum : ℚ) < (2 * bound + 1) * values.length := by linarith
    exact_mod_cast doubled
  · intro less
    have doubled : (2 * values.sum : ℚ) < (2 * bound + 1) * values.length := by
      exact_mod_cast less
    linarith

/-- The two figures that have no bound of their own. -/
theorem amounts_fit_iff (nonempty : costs ≠ []) :
    AmountsFit policy item costs ↔
      (itemFigures (itemCosts policy item) costs).commitment ≤ bigintMax ∧
      (itemFigures (itemCosts policy item) costs).expected ≤ bigintMax := by
  have someNets : netValues policy item costs ≠ [] := by simpa [netValues] using nonempty
  have length : (netValues policy item costs).length = costs.length := List.length_map _
  have median := median_cost_le_iff nonempty bigintMax
  have mean := mean_rounded_le_iff someNets (by decide : 0 ≤ bigintMax)
  rw [net_values_sum, length] at mean
  rw [figures_expected]
  constructor
  · intro fit
    exact ⟨median.mpr fit.half, mean.mpr fit.savings⟩
  · rintro ⟨commitment, expected⟩
    exact ⟨median.mp commitment, mean.mp expected⟩

end Amounts

section Rows

/-- What a run, its stored inputs and the price items of its versions are: the run and
the items passed the constraints of their tables, the policy its parser, and the
forecast is the object that its worker stored for rows of the usage table. -/
structure StoredInputs (policies : PolicyRuntime) (octets : Json → Nat) where
  run : OptimizerRun
  checked : ∀ constraint ∈ run.checks octets, constraint.2 = true
  uuids : ∀ id ∈ run.id :: run.priceTableVersionIds, id < 16 ^ 32
  request : OptimizerRunCreateInput
  resolved : ResolvedInputs
  randomSeed : Int
  policy : StoredPolicy policies resolved.policy
  forecasts : ForecastRuntime
  forecastRun : ForecastRun
  forecastModel : ForecastWorkerModel
  forecastWorkerRun : ForecastWorkerRun
  usage : List StoredUsage
  minHistoryDays : Int
  rows : List PriceTableItem
  items : ∀ row ∈ rows, StoredPriceItem policies octets row

variable {policies : PolicyRuntime} {octets : Json → Nat}

def StoredInputs.snapshot (inputs : StoredInputs policies octets) : Json :=
  inputSnapshot inputs.run.id inputs.request inputs.resolved inputs.randomSeed

def StoredInputs.forecast (inputs : StoredInputs policies octets) : Json :=
  artifactJson (buildSeasonalNaiveArtifact inputs.forecasts inputs.forecastWorkerRun
    (listUsageMonths inputs.forecastRun inputs.forecastModel inputs.usage) inputs.minHistoryDays)

/-- The forecast points that an item is evaluated against. -/
def StoredInputs.points (inputs : StoredInputs policies octets) (item : OptimizerPriceItem) :
    List ForecastPoint :=
  pointsForItem ((forecastPoints inputs.forecast).filter fun point =>
    point.provider = inputs.run.provider && point.region ≠ "") item

/-- The optimizer_runs table has the row of the run. -/
def Recorded (run : OptimizerRun) (runs : OptimizerRunTable) : Prop :=
  ∃ row, runs.find run.id = some row ∧ row.toOptimizerRunIdentity = run.toOptimizerRunIdentity

theorem recommendation_parent {run : OptimizerRun} {runs : OptimizerRunTable}
    (recorded : Recorded run runs) {new : Recommendation} (sameRun : new.optimizerRunId = run.id)
    (sameTenant : new.tenantId = run.tenantId) :
    recommendationParent runs new = some (run.provider, run.instrument) := by
  obtain ⟨row, found, identity⟩ := recorded
  have tenant : row.tenantId = run.tenantId := congrArg OptimizerRunIdentity.tenantId identity
  have provider : row.provider = run.provider := congrArg OptimizerRunIdentity.provider identity
  have instrument : row.instrument = run.instrument :=
    congrArg OptimizerRunIdentity.instrument identity
  rw [recommendationParent, sameRun, found, Option.filter_some, sameTenant, tenant,
    decide_eq_true rfl, if_pos rfl, Option.map_some, provider, instrument]

/-- Only the ranges of the amounts are left when everything else is in order. -/
theorem insert_recommendation_iff {run : OptimizerRun} {runs : OptimizerRunTable}
    (recorded : Recorded run runs) {new : Recommendation} (sameRun : new.optimizerRunId = run.id)
    (sameTenant : new.tenantId = run.tenantId) (sameProvider : new.provider = run.provider)
    (sameInstrument : new.instrument = run.instrument) {recommendations : RecommendationTable}
    (fresh : recommendations.find new.id = none)
    (checked : ∀ constraint ∈ new.checks, constraint.2 = true) :
    (∃ next, insertRecommendation new runs recommendations = .ok next) ↔
      isBigint new.commitmentAmountCents = true ∧ isBigint new.expectedSavingsCents = true ∧
        isBigint new.p95DownsideLossCents = true := by
  rw [insertRecommendation, recommendation_parent recorded sameRun sameTenant]
  simp only [bind_ok, require_ok, Bool.and_eq_true, exists_const, and_assoc]
  constructor
  · rintro ⟨_, commitment, savings, loss, _⟩
    exact ⟨commitment, savings, loss⟩
  · rintro ⟨commitment, savings, loss⟩
    refine ⟨recommendations.insert new, commitment, savings, loss, ?_⟩
    rw [insertRecommendationRow, enforceRecommendationInsert, if_neg (by
      rw [sameProvider, sameInstrument]
      simp)]
    exact bind_ok.mpr ⟨new, rfl, bind_ok.mpr ⟨(), check_all_ok.mpr checked,
      bind_ok.mpr ⟨(), require_ok.mpr (Option.isNone_iff_eq_none.mpr fresh), rfl⟩⟩⟩

variable {run : OptimizerRun} {policy : PolicySnapshot} {item : OptimizerPriceItem}
  {costs : List Int}

/-- The loss of a feasible candidate is within the policy's limit. -/
theorem feasible_loss (nonempty : costs ≠ []) {serviceCode : String}
    (feasible : (itemCandidate run policy serviceCode item
      (itemFigures (itemCosts policy item) costs)).feasible = true) :
    0 ≤ (itemFigures (itemCosts policy item) costs).p95Downside ∧
      (itemFigures (itemCosts policy item) costs).p95Downside ≤ policy.maxDownsideLossCents := by
  have within := (binding_is_empty policy (itemFigures (itemCosts policy item) costs)).symm.trans
    feasible
  simp only [withinLimits, Bool.and_eq_true, decide_eq_true_eq] at within
  refine ⟨?_, within.1.1⟩
  have member := (@p95_loss_least policy item costs nonempty).1.1
  obtain ⟨value, _, same⟩ := List.mem_map.mp member
  rw [← same]
  split_ifs with negative
  · omega
  · exact le_refl _

theorem all_or_nothing {commitment value : Int}
    (figure : value = if commitment = 0 then 0 else 10000) :
    0 ≤ value ∧ value ≤ 10000 := by
  rw [figure]
  split_ifs <;> decide

theorem approval_consistent (required : Prop) [Decidable required]
    {status : RecommendationStatus}
    (isStatus : status = if required then .pendingApproval else .ready) :
    ((!decide required && (status == .draft || status == .ready || status == .superseded)) ||
      decide required) = true := by
  subst isStatus
  by_cases needed : required
  · simp [needed]
  · simp [needed]

/-- Every constraint of the table holds of the row of a feasible candidate. -/
theorem new_recommendation_checks (checked : ∀ constraint ∈ run.checks octets, constraint.2 = true)
    (uuids : ∀ id ∈ run.id :: run.priceTableVersionIds, id < 16 ^ 32)
    (minimum : 0 ≤ policy.minExpectedSavingsCents) (nonempty : costs ≠ [])
    (nonneg : ∀ cost ∈ costs, 0 ≤ cost) {code : String} (covered : code ∈ coveredServices)
    (covers : coverageServiceCode item = some code)
    (region : isCanonicalText 128 item.region = true)
    (term : 0 < item.termMonths) {serviceCode : String} (feasible : (itemCandidate run policy
      serviceCode item (itemFigures (itemCosts policy item) costs)).feasible = true)
    (id : Uuid) (now : Instant) :
    ∀ constraint ∈ (newRecommendation id run policy (itemCandidate run policy serviceCode item
      (itemFigures (itemCosts policy item) costs)) now).checks, constraint.2 = true := by
  have loss := feasible_loss nonempty feasible
  have savings := feasible_savings minimum feasible
  have within := (binding_is_empty policy (itemFigures (itemCosts policy item) costs)).symm.trans
    feasible
  have commitment := commitment_nonneg (itemCosts policy item) nonempty nonneg
  have median := all_or_nothing (utilization_p50 (itemCosts policy item) nonempty)
  have high := all_or_nothing (utilization_p95 (itemCosts policy item) nonempty nonneg)
  have service : isCanonicalText 128 code = true :=
    (by decide : ∀ code ∈ coveredServices, isCanonicalText 128 code = true) code covered
  have named : (itemCandidate run policy serviceCode item
      (itemFigures (itemCosts policy item) costs)).serviceCode = code := by
    rw [itemCandidate, covers]
    rfl
  simp only [withinLimits, Bool.and_eq_true, decide_eq_true_eq] at within
  simp only [OptimizerRun.checks, List.forall_mem_cons] at checked
  obtain ⟨instrument, versions, _⟩ := checked
  simp only [Bool.and_eq_true, decide_eq_true_eq] at versions
  generalize itemFigures (itemCosts policy item) costs = figures at *
  have gain : 0 ≤ (itemCandidate run policy serviceCode item figures).expectedSavingsCents := by
    rw [savings]
    exact minimum.trans within.1.2
  simp only [Recommendation.checks, List.forall_mem_cons, newRecommendation]
  refine ⟨instrument, ?_, ?_, ?_, ?_, ?_, List.forall_mem_nil _⟩
  · rw [named, service, Bool.true_and]
    exact region
  · simp only [Bool.and_eq_true]
    exact ⟨⟨⟨⟨⟨⟨⟨⟨⟨decide_eq_true term, decide_eq_true commitment⟩, decide_eq_true gain⟩,
      decide_eq_true loss.1⟩, decide_eq_true median.1⟩, decide_eq_true median.2⟩,
      decide_eq_true high.1⟩, decide_eq_true high.2⟩, rfl⟩, rfl⟩
  · exact approval_consistent _ rfl
  · exact decide_eq_true (explanation_fits versions.1.2 uuids)
  · exact decide_eq_true (le_refl now)

end Rows

section Insertion

variable {policies : PolicyRuntime} {octets : Json → Nat}

/-- A candidate of an item is the one made of the costs of its points. -/
theorem selected_figures (inputs : StoredInputs policies octets) {row : PriceTableItem}
    {evaluated : List CommitmentInstrumentCandidate} {selected : CommitmentInstrumentCandidate}
    (own : evaluateItems inputs.run inputs.snapshot inputs.forecast [optimizerPriceItem row] =
      some evaluated) (member : selected ∈ evaluated) :
    ∃ costs serviceCode,
      ((inputs.points (optimizerPriceItem row)).mapM fun point =>
        bigIntOfString point.forecastOnDemandCostCents) = some costs ∧
      costs ≠ [] ∧ (∀ cost ∈ costs, 0 ≤ cost) ∧
      selected = itemCandidate inputs.run (snapshotOf inputs.resolved.policy) serviceCode
        (optimizerPriceItem row)
        (itemFigures (itemCosts (snapshotOf inputs.resolved.policy) (optimizerPriceItem row))
          costs) := by
  have known : Candidates.policySnapshot inputs.snapshot =
      some (snapshotOf inputs.resolved.policy) :=
    policy_snapshot_read (stored_policy_in_range inputs.policy) inputs.run.id inputs.request
      inputs.randomSeed
  simp only [evaluateItems, known, Option.bind_eq_bind, Option.bind_some, List.mapM_cons,
    List.mapM_nil] at own
  obtain ⟨lists, each, same⟩ := Option.bind_eq_some_iff.mp own
  obtain ⟨first, evaluation, listed⟩ := Option.bind_eq_some_iff.mp each
  obtain rfl := Option.some.inj listed
  obtain rfl := Option.some.inj same
  rw [List.flatten_cons, List.flatten_nil, List.append_nil] at member
  change evaluateItem _ _ (inputs.points (optimizerPriceItem row)) _ = some first at evaluation
  have listed : inputs.points (optimizerPriceItem row) ⊆ forecastPoints inputs.forecast :=
    fun point inside => (List.mem_filter.mp (List.mem_filter.mp inside).1).1
  obtain ⟨costs, read, nonneg⟩ := stored_costs_read listed
  have some : inputs.points (optimizerPriceItem row) ≠ [] := by
    intro none
    rw [none] at evaluation
    obtain rfl := Option.some.inj evaluation
    cases member
  obtain ⟨point, _, candidate⟩ := @evaluate_item_some inputs.run
    (snapshotOf inputs.resolved.policy) (optimizerPriceItem row) costs _ some read
  obtain rfl := Option.some.inj (evaluation.symm.trans candidate)
  exact ⟨costs, point.serviceCode, read, costs_nonempty some read, nonneg,
    List.mem_singleton.mp member⟩

theorem inserting_iff {runtime : OptimizerRuntime} {worker : Nat} {input : Input} {shared : Shared}
    {run : OptimizerRun} {snapshot : Json} {policy : PolicySnapshot}
    (known : Candidates.policySnapshot snapshot = some policy)
    {selected : CommitmentInstrumentCandidate} {item : Option PriceTableItem} :
    (operate runtime worker input (.inserting run snapshot selected item) shared).isSome = true ↔
      ∃ next, insertRecommendation (newRecommendation input.drawnId run policy selected
        shared.clock) shared.runs shared.recommendations = .ok next := by
  rw [operate, known]
  dsimp only
  split
  case h_1 next accepted => exact iff_of_true rfl ⟨next, accepted⟩
  case h_2 failed =>
      exact iff_of_false nofun fun ⟨_, accepted⟩ => nomatch failed.symm.trans accepted

/-- The loss of a feasible candidate is an amount of the policy's; the other two amounts
are not below zero. -/
theorem amounts_in_range_iff {row : OptimizerPolicy} (inRange : PolicyInRange row)
    {run : OptimizerRun} {item : OptimizerPriceItem} {costs : List Int} (nonempty : costs ≠ [])
    (nonneg : ∀ cost ∈ costs, 0 ≤ cost) {serviceCode : String}
    (feasible : (itemCandidate run (snapshotOf row) serviceCode item
      (itemFigures (itemCosts (snapshotOf row) item) costs)).feasible = true) :
    (isBigint (itemCandidate run (snapshotOf row) serviceCode item
        (itemFigures (itemCosts (snapshotOf row) item) costs)).commitmentAmountCents = true ∧
      isBigint (itemCandidate run (snapshotOf row) serviceCode item
        (itemFigures (itemCosts (snapshotOf row) item) costs)).expectedSavingsCents = true ∧
      isBigint (itemCandidate run (snapshotOf row) serviceCode item
        (itemFigures (itemCosts (snapshotOf row) item) costs)).p95DownsideLossCents = true) ↔
      AmountsFit (snapshotOf row) item costs := by
  obtain ⟨lossNonneg, lossLimit⟩ := feasible_loss nonempty feasible
  have limit : (snapshotOf row).maxDownsideLossCents ≤ bigintMax := inRange.maxDownsideLoss.2
  have minimum : 0 ≤ (snapshotOf row).minExpectedSavingsCents := inRange.minExpectedSavings.1
  have savings := feasible_savings minimum feasible
  have commitment := commitment_nonneg (itemCosts (snapshotOf row) item) nonempty nonneg
  have within := (binding_is_empty (snapshotOf row)
    (itemFigures (itemCosts (snapshotOf row) item) costs)).symm.trans feasible
  simp only [withinLimits, Bool.and_eq_true, decide_eq_true_eq] at within
  rw [savings, amounts_fit_iff nonempty]
  refine and_congr (is_bigint_iff commitment) ?_
  rw [is_bigint_iff (minimum.trans within.1.2)]
  exact and_iff_left ((is_bigint_iff lossNonneg).mpr (lossLimit.trans limit))

/-- The INSERT of a selected candidate succeeds exactly when half of the costs of its
item's months are BIGINT values and the mean of what they save rounds to one. -/
theorem recommendation_inserted_iff (inputs : StoredInputs policies octets)
    {candidates : List CommitmentInstrumentCandidate}
    (computed : optimizeCommitmentRun inputs.run inputs.snapshot inputs.forecast
      (inputs.rows.map optimizerPriceItem) = some candidates)
    {selected : CommitmentInstrumentCandidate}
    (chosen : selectCandidate candidates = some selected) :
    ∃ row costs,
      selectedRow inputs.run inputs.snapshot inputs.forecast inputs.rows = some row ∧
      ((inputs.points (optimizerPriceItem row)).mapM fun point =>
        bigIntOfString point.forecastOnDemandCostCents) = some costs ∧
      ∀ (runtime : OptimizerRuntime) (worker : Nat) (input : Input) (shared : Shared),
        Recorded inputs.run shared.runs → shared.recommendations.find input.drawnId = none →
        ((operate runtime worker input
            (.inserting inputs.run inputs.snapshot selected (some row)) shared).isSome = true ↔
          AmountsFit (snapshotOf inputs.resolved.policy) (optimizerPriceItem row) costs) := by
  obtain ⟨row, evaluated, isRow, own, member⟩ := select_candidate_row computed chosen
  obtain ⟨costs, serviceCode, read, nonempty, nonneg, isSelected⟩ :=
    selected_figures inputs own member
  refine ⟨row, costs, isRow, read, fun runtime worker input shared recorded fresh => ?_⟩
  have feasible : selected.feasible = true := by
    rw [selectCandidate, List.head?_filter] at chosen
    exact List.find?_some chosen
  have inRange := stored_policy_in_range inputs.policy
  have known : Candidates.policySnapshot inputs.snapshot =
      some (snapshotOf inputs.resolved.policy) :=
    policy_snapshot_read inRange inputs.run.id inputs.request inputs.randomSeed
  have stored := inputs.items row (StalePrices.selected_row_mem isRow)
  obtain ⟨code, covered, covers⟩ := stored_price_item_service stored
  obtain ⟨region, term⟩ := stored_price_item_checks stored
  have feasibleFigures := isSelected ▸ feasible
  have range := amounts_in_range_iff inRange nonempty nonneg feasibleFigures
  have checked := new_recommendation_checks inputs.checked inputs.uuids
    inRange.minExpectedSavings.1 nonempty nonneg covered covers region term feasibleFigures
    input.drawnId shared.clock
  rw [← isSelected] at range checked
  have inserted := @insert_recommendation_iff inputs.run shared.runs recorded
    (newRecommendation input.drawnId inputs.run (snapshotOf inputs.resolved.policy) selected
      shared.clock)
    rfl rfl (by rw [isSelected]; rfl) (by rw [isSelected]; rfl) shared.recommendations fresh checked
  rw [inserting_iff known, inserted]
  exact range

def exampleUsage (cents : Nat) (bigint : cents ≤ 9223372036854775807) : StoredUsage where
  tenantId := 7
  provider := .aws
  serviceCode := exampleService
  region := exampleRegion
  usageStart := 20090 * 86400000000
  usageEnd := 20091 * 86400000000
  usageQuantity := 100000000
  onDemandCostCents := cents
  realizedCostCents := 0
  period := by decide
  bigint := bigint
  dated := by decide

def exampleVersion : PriceTableVersion where
  id := 4
  tenantId := 7
  provider := .aws
  instrument := .awsComputeSavingsPlan
  versionLabel := "2025-01"
  effectiveFrom := 20089
  effectiveTo := none
  sourceUri := "prices/4.json"
  checksum := "0"
  createdAt := 0
  status := .active
  updatedAt := 0

/-- An item that costs nothing. -/
def exampleItemBody : Json := .object
  [("sku", .string "free"), ("region", .string "us-east-1"),
   ("term_months", .number (some 12)), ("payment_option", .string "no_upfront"),
   ("hourly_rate_cents", .string "0"), ("upfront_cents", .string "0"),
   ("coverage_rules", .object
     [("usage_family", .string "compute"), ("service_code", .string "AmazonEC2")])]

def exampleItemInput : PriceItemInput where
  sku :=
    { text := "free"
      trimmed := by decide
      nonempty := by decide
      printable := by decide }
  region :=
    { text := "us-east-1"
      trimmed := by decide
      nonempty := by decide
      printable := by decide }
  termMonths := 12
  paymentOption := .noUpfront
  hourlyRateCents := ⟨"0", zero_is_decimal⟩
  upfrontCents := ⟨"0", zero_is_decimal⟩
  coverageRules := .object
    [("usage_family", .string "compute"), ("service_code", .string "AmazonEC2")]

def exampleOctets : Json → Nat := fun _ => 2

def exampleRow : PriceTableItem := newItem exampleVersion 0 (exampleItemInput.columns 6)

theorem example_row_stored : StoredPriceItem exampleRuntime exampleOctets exampleRow :=
  .inserted exampleVersion 0 6 exampleItemBody exampleItemInput (by decide)
    (by decide)

def exampleForecasts : ForecastRuntime where
  parseDate text :=
    if text = "2025-01-01T00:00:00Z" then some ⟨20089 * 86400000, by decide⟩
    else some ⟨20119 * 86400000, by decide⟩

/-- January of 2025, and a forecast of February. -/
def exampleInputs (usage : List StoredUsage) : StoredInputs exampleRuntime exampleOctets where
  run := exampleRun
  checked := by decide
  uuids := by decide
  request := exampleCreate
  resolved := exampleResolved (examplePolicy 1000 2000)
  randomSeed := 42
  policy := example_policy_stored
  forecasts := exampleForecasts
  forecastRun := { (exampleResolved (examplePolicy 1000 2000)).forecast with
    tenantId := 7
    inputWindowStart := 20089
    inputWindowEnd := 20119 }
  forecastModel :=
    { id := 1
      tenantId := 7
      providerScope := ["aws"]
      serviceScope := ["AmazonEC2"]
      method := "seasonal_naive"
      config := .object [] }
  forecastWorkerRun :=
    { id := 1
      forecastModelId := 1
      method := "seasonal_naive"
      inputWindowStart := ⟨"2025-01-01", by decide⟩
      inputWindowEnd := ⟨"2025-01-31", by decide⟩
      horizonMonths := ⟨1, by decide⟩
      randomSeed := 0 }
  usage := usage
  minHistoryDays := 90
  rows := [exampleRow]
  items := by
    intro row listed
    obtain rfl := List.mem_singleton.mp listed
    exact example_row_stored

def exampleSelected (cents : Int) : CommitmentInstrumentCandidate where
  provider := .aws
  instrument := .awsComputeSavingsPlan
  serviceCode := "AmazonEC2"
  region := "us-east-1"
  termMonths := 12
  paymentOption := .noUpfront
  commitmentAmountCents := cents
  expectedSavingsCents := cents
  p95DownsideLossCents := 0
  utilizationP50Bps := 10000
  utilizationP95Bps := 10000
  confidenceScore := 9000
  riskBand := .low
  feasible := true
  bindingConstraints := []

theorem recommendation_inserted_small_cost :
    ∃ row costs,
      selectedRow exampleRun (exampleInputs [exampleUsage 100 (by decide)]).snapshot
        (exampleInputs [exampleUsage 100 (by decide)]).forecast [exampleRow] = some row ∧
      (((exampleInputs [exampleUsage 100 (by decide)]).points (optimizerPriceItem row)).mapM
        fun point => bigIntOfString point.forecastOnDemandCostCents) = some costs ∧
      ∀ (runtime : OptimizerRuntime) (worker : Nat) (input : Input) (shared : Shared),
        Recorded exampleRun shared.runs → shared.recommendations.find input.drawnId = none →
        ((operate runtime worker input (.inserting exampleRun
            (exampleInputs [exampleUsage 100 (by decide)]).snapshot (exampleSelected 100)
            (some row)) shared).isSome = true ↔
          AmountsFit (snapshotOf (examplePolicy 1000 2000)) (optimizerPriceItem row) costs) :=
  @recommendation_inserted_iff _ _ (exampleInputs [exampleUsage 100 (by decide)])
    [exampleSelected 100] (by decide +kernel) (exampleSelected 100) rfl

theorem wide_commitment_refused {new : Recommendation}
    (wide : isBigint new.commitmentAmountCents = false) (runs : OptimizerRunTable)
    (recommendations : RecommendationTable) :
    insertRecommendation new runs recommendations = .error (outOfRange "bigint") := by
  rw [insertRecommendation, wide]
  rfl

/-- Two stored costs of the largest amount make a feasible candidate that no
recommendation can hold. -/
def largestUsage : StoredUsage := exampleUsage 9223372036854775807 (by decide)

theorem feasible_candidate_refused :
    optimizeCommitmentRun exampleRun (exampleInputs [largestUsage, largestUsage]).snapshot
        (exampleInputs [largestUsage, largestUsage]).forecast [optimizerPriceItem exampleRow] =
      some [exampleSelected 18446744073709551614] ∧
    selectCandidate [exampleSelected 18446744073709551614] =
      some (exampleSelected 18446744073709551614) ∧
    ∀ (runtime : OptimizerRuntime) (worker : Nat) (input : Input) (shared : Shared)
      (item : Option PriceTableItem),
      operate runtime worker input (.inserting exampleRun
        (exampleInputs [largestUsage, largestUsage]).snapshot
        (exampleSelected 18446744073709551614) item) shared = none := by
  refine ⟨by decide +kernel, rfl, fun runtime worker input shared item => ?_⟩
  have known : Candidates.policySnapshot (exampleInputs [largestUsage, largestUsage]).snapshot =
      some (snapshotOf (examplePolicy 1000 2000)) :=
    @policy_snapshot_read (exampleResolved (examplePolicy 1000 2000))
      (stored_policy_in_range example_policy_stored) exampleRun.id exampleCreate 42
  have wide : isBigint (exampleSelected 18446744073709551614).commitmentAmountCents = false := by
    decide
  have refused := @wide_commitment_refused (newRecommendation input.drawnId exampleRun
    (snapshotOf (examplePolicy 1000 2000)) (exampleSelected 18446744073709551614) shared.clock)
    wide shared.runs shared.recommendations
  rw [operate, known]
  dsimp only
  rw [refused]

end Insertion

end CommitmentOptimizer.Optimizer.RecommendationRanges
