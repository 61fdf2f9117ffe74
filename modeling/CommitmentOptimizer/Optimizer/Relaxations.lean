import Mathlib.Algebra.BigOperators.Group.List.Basic
import Mathlib.Data.List.GetD
import Mathlib.Order.MinMax
import CommitmentOptimizer.Optimizer.KernelAgreement
import CommitmentOptimizer.Optimizer.SelectionOrder

/-!
# What the suggested relaxations are worth

An infeasible run suggests two policy values (`infeasibilityDetails` of
`optimizer-worker.ts`). The run is evaluated again under them.
-/

namespace CommitmentOptimizer.Optimizer.Relaxations

open Foundations
open Foundations.BigIntText
open Foundations.PartialLists
open Recommendations.RecommendationLifecycle
open OptimizerRuns
open OptimizerWorker
open OptimizerRunCreation (centsText)
open Candidates
open CandidateChoice
open SelectionOrder

set_option autoImplicit false

section Figures

/-- What `evaluateItem` computes from the costs before it applies the limits. -/
structure ItemFigures where
  commitment : Int
  expected : Int
  p95Downside : Int
  utilizationP50 : Int
  utilizationP95 : Int

/-- The utilization of a commitment by one point. -/
def utilization (commitment cost : Int) : Int :=
  if commitment = 0 then 0 else (min cost commitment * 10000).tdiv commitment

def itemFigures (itemCosts : ItemCosts) (costs : List Int) : ItemFigures :=
  let eligibleCosts := sortBigInt costs
  let commitment := percentile eligibleCosts 50
  let nets := eligibleCosts.map (netValue itemCosts commitment)
  let utilizations := sortBigInt (eligibleCosts.map (utilization commitment))
  { commitment := commitment
    expected := meanRounded nets
    p95Downside := percentile (sortBigInt (nets.map fun value => if value < 0 then -value else 0)) 95
    utilizationP50 := percentile utilizations 50
    utilizationP95 := percentile utilizations 95 }

/-- The costs of the points that an item covers. -/
def monthlyCosts (points : List ForecastPoint) (item : OptimizerPriceItem) : Option (List Int) :=
  (pointsForItem points item).mapM fun point => bigIntOfString point.forecastOnDemandCostCents

/-- The figures of an item, if there is a point to evaluate it with. -/
def evaluatedFigures (policy : PolicySnapshot) (points : List ForecastPoint)
    (item : OptimizerPriceItem) : Option (Option ItemFigures) :=
  (monthlyCosts points item).map fun costs =>
    if costs = [] then none else some (itemFigures (itemCosts policy item) costs)

/-- The limits of the policy on the figures. -/
def withinLimits (policy : PolicySnapshot) (figures : ItemFigures) : Bool :=
  figures.p95Downside ≤ policy.maxDownsideLossCents &&
    policy.minExpectedSavingsCents ≤ figures.expected &&
    10000 - figures.utilizationP50 ≤ policy.maxUtilizationGapBps

variable {run : OptimizerRun} {policy : PolicySnapshot} {points : List ForecastPoint}
  {item : OptimizerPriceItem}

theorem binding_is_empty (policy : PolicySnapshot) (figures : ItemFigures) :
    (bindingConstraints policy figures.expected figures.p95Downside
      (10000 - figures.utilizationP50)).isEmpty = withinLimits policy figures := by
  rw [Bool.eq_iff_iff]
  simp only [bindingConstraints, withinLimits, List.isEmpty_iff, List.append_eq_nil_iff,
    ite_eq_right_iff, List.cons_ne_nil, imp_false, not_lt, Bool.and_eq_true, decide_eq_true_eq]

/-- The candidates of an item are its figures under the limits. -/
theorem evaluate_item_figures :
    (evaluateItem run policy (pointsForItem points item) item).map
        (List.map fun candidate => (candidate.feasible, candidate.p95DownsideLossCents)) =
      (evaluatedFigures policy points item).map fun figures =>
        figures.toList.map fun figures => (withinLimits policy figures, figures.p95Downside) := by
  unfold evaluatedFigures monthlyCosts
  cases pointsForItem points item with
  | nil => rfl
  | cons first rest =>
      simp only [evaluateItem, Option.bind_eq_bind, map_m_cons]
      cases bigIntOfString first.forecastOnDemandCostCents with
      | none => rfl
      | some cost =>
          simp only [Option.bind_some]
          generalize List.mapM (fun point : ForecastPoint =>
            bigIntOfString point.forecastOnDemandCostCents) rest = costs
          cases costs with
          | none => rfl
          | some costs =>
              have binding := binding_is_empty policy
                (itemFigures (itemCosts policy item) (cost :: costs))
              simp only [Option.bind_some, Option.map_some, Option.pure_def, List.map_cons,
                List.map_nil, if_neg (List.cons_ne_nil cost costs), Option.toList_some, ← binding]
              rfl

end Figures

section Utilization

variable {values : List Int}

theorem percentile_mem {pct : Nat} (nonempty : values ≠ []) (atMost : pct ≤ 100) :
    percentile values pct ∈ values := by
  have positive := List.length_pos_of_ne_nil nonempty
  have inside : (pct * values.length + 99) / 100 - 1 < values.length := by
    have bound : pct * values.length ≤ 100 * values.length := Nat.mul_le_mul_right _ atMost
    omega
  rw [percentile, List.getD_eq_getElem _ _ inside]
  exact List.getElem_mem inside

theorem sorted_get_le (sorted : values.Pairwise (· ≤ ·)) {earlier later : Nat}
    (inside : earlier < values.length) (laterInside : later < values.length)
    (order : earlier ≤ later) : values[earlier] ≤ values[later] := by
  rcases Nat.lt_or_eq_of_le order with before | same
  · exact List.pairwise_iff_getElem.mp sorted earlier later inside laterInside before
  · subst same
    exact le_refl _

theorem sort_big_int_nonempty (nonempty : values ≠ []) : sortBigInt values ≠ [] := by
  intro empty
  have same := (List.perm_insertionSort (· ≤ ·) values).length_eq
  rw [show List.insertionSort (· ≤ ·) values = [] from empty] at same
  exact nonempty (List.length_eq_zero_iff.mp same.symm)

theorem sort_big_int_sorted (values : List Int) : (sortBigInt values).Pairwise (· ≤ ·) :=
  List.pairwise_insertionSort _ _

theorem sort_big_int_of_sorted (sorted : values.Pairwise (· ≤ ·)) : sortBigInt values = values :=
  List.Pairwise.insertionSort_eq sorted

theorem sort_big_int_of_reversed (reversed : values.Pairwise (· ≥ ·)) :
    sortBigInt values = values.reverse := by
  have sorted : values.reverse.Pairwise (· ≤ ·) := List.pairwise_reverse.mpr reversed
  rw [← sort_big_int_of_sorted sorted]
  exact sort_big_int_perm (List.reverse_perm values).symm

theorem utilization_self {commitment : Int} (nonzero : commitment ≠ 0) {cost : Int}
    (covered : commitment ≤ cost) : utilization commitment cost = 10000 := by
  rw [utilization, if_neg nonzero, min_eq_right covered, Int.mul_comm]
  exact Int.mul_tdiv_cancel 10000 nonzero

theorem capped_mono (commitment : Int) {left right : Int} (less : left ≤ right) :
    min left commitment * 10000 ≤ min right commitment * 10000 :=
  Int.mul_le_mul_of_nonneg_right (min_le_min_right commitment less) (by decide)

theorem utilization_mono {commitment : Int} (positive : 0 < commitment) {left right : Int}
    (less : left ≤ right) : utilization commitment left ≤ utilization commitment right := by
  rw [utilization, utilization, if_neg positive.ne', if_neg positive.ne']
  exact Int.tdiv_le_tdiv positive (capped_mono commitment less)

theorem utilization_anti {commitment : Int} (negative : commitment < 0) {left right : Int}
    (less : left ≤ right) : utilization commitment right ≤ utilization commitment left := by
  have opposite : ∀ value : Int, value.tdiv commitment = -(value.tdiv (-commitment)) := by
    intro value
    rw [Int.tdiv_neg, Int.neg_neg]
  rw [utilization, utilization, if_neg negative.ne, if_neg negative.ne, opposite, opposite]
  have positive : 0 < -commitment := by omega
  exact Int.neg_le_neg (Int.tdiv_le_tdiv positive (capped_mono commitment less))

theorem median_utilization (sorted : values.Pairwise (· ≤ ·)) (nonempty : values ≠ []) :
    percentile (sortBigInt (values.map (utilization (percentile values 50)))) 50 =
      if percentile values 50 = 0 then 0 else 10000 := by
  have positive := List.length_pos_of_ne_nil nonempty
  have inside : (50 * values.length + 99) / 100 - 1 < values.length := by omega
  have median : percentile values 50 = values[(50 * values.length + 99) / 100 - 1] := by
    rw [percentile, List.getD_eq_getElem _ _ inside]
  generalize commitmentEq : percentile values 50 = commitment at median ⊢
  rcases lt_trichotomy commitment 0 with negative | zero | positiveCommitment
  · -- the utilizations fall, and the month opposite the median costs at least as much
    have reversed : (values.map (utilization commitment)).Pairwise (· ≥ ·) :=
      List.Pairwise.map _ (fun _ _ => utilization_anti negative) sorted
    have opposite : values.length - 1 - ((50 * values.length + 99) / 100 - 1) < values.length := by
      omega
    have covered : commitment ≤
        values[values.length - 1 - ((50 * values.length + 99) / 100 - 1)] := by
      rw [median]
      exact sorted_get_le sorted inside opposite (by omega)
    rw [if_neg negative.ne, sort_big_int_of_reversed reversed, percentile,
      List.getD_eq_getElem _ _ (by simpa using inside)]
    simp only [List.getElem_reverse, List.length_reverse, List.length_map, List.getElem_map]
    exact utilization_self negative.ne covered
  · have each : ∀ value ∈ sortBigInt (values.map (utilization commitment)), value = 0 := by
      intro value member
      obtain ⟨cost, _, rfl⟩ := List.mem_map.mp ((List.mem_insertionSort _).mp member)
      rw [utilization, if_pos zero]
    rw [if_pos zero]
    exact each _ (percentile_mem (sort_big_int_nonempty (by simpa using nonempty)) (by decide))
  · have rising : (values.map (utilization commitment)).Pairwise (· ≤ ·) :=
      List.Pairwise.map _ (fun _ _ => utilization_mono positiveCommitment) sorted
    rw [if_neg positiveCommitment.ne', sort_big_int_of_sorted rising, percentile,
      List.getD_eq_getElem _ _ (by simpa using inside)]
    simp only [List.length_map, List.getElem_map, ← median]
    exact utilization_self positiveCommitment.ne' (le_refl _)

/-- The median month uses all of a commitment to the median cost. -/
theorem utilization_p50 (itemCosts : ItemCosts) {costs : List Int} (nonempty : costs ≠ []) :
    (itemFigures itemCosts costs).utilizationP50 =
      if (itemFigures itemCosts costs).commitment = 0 then 0 else 10000 := by
  have sorted := sort_big_int_sorted costs
  have sortedNonempty := sort_big_int_nonempty nonempty
  change percentile (sortBigInt ((sortBigInt costs).map
    (utilization (percentile (sortBigInt costs) 50)))) 50 =
      if percentile (sortBigInt costs) 50 = 0 then 0 else 10000
  generalize sortBigInt costs = eligible at sorted sortedNonempty ⊢
  exact median_utilization sorted sortedNonempty

end Utilization

section Snapshots

/-- `{ ...source, [key]: value }`. -/
def withField (key : String) (value : Json) : Json → Json
  | .object fields => .object ((key, value) :: fields.filter fun field => field.1 ≠ key)
  | _ => .object [(key, value)]

/-- The value that the details suggest for a field of the policy. -/
def suggestedValue (details : Json) (name : String) : String :=
  match details.field "ranked_relaxations" with
  | some (.array entries) =>
      ((entries.find? fun entry => stringAt entry "field" = name).map fun entry =>
        stringAt entry "suggested_value").getD "0"
  | _ => "0"

/-- The snapshot with the two suggested values in its policy. -/
def relaxedSnapshot (snapshot details : Json) : Json :=
  withField "policy"
    (withField "maxDownsideLossCents"
      (.string (suggestedValue details "max_downside_loss_cents"))
      (withField "minExpectedSavingsCents"
        (.string (suggestedValue details "min_expected_savings_cents"))
        (objectAt snapshot "policy")))
    snapshot

variable {source value : Json} {key other : String}

theorem with_field_same : (withField key value source).field key = some value := by
  cases source <;> simp [withField, Json.field]

theorem with_field_other (apart : other ≠ key) :
    (withField key value source).field other = source.field other := by
  cases source with
  | object fields =>
      have notFirst : (other == key) = false := by simpa using apart
      simp only [withField, Json.field, List.lookup_cons, notFirst]
      induction fields with
      | nil => rfl
      | cons field fields induction =>
          obtain ⟨name, child⟩ := field
          by_cases same : name = key
          · subst same
            simp only [List.filter_cons, ne_eq, not_true_eq_false, decide_false,
              Bool.false_eq_true, if_false, List.lookup_cons, notFirst]
            exact induction
          · simp only [List.filter_cons, ne_eq, same, not_false_eq_true, decide_true, if_true,
              List.lookup_cons]
            cases other == name with
            | true => rfl
            | false => exact induction
  | _ =>
      have notFirst : (other == key) = false := by simpa using apart
      simp [withField, Json.field, List.lookup_cons, notFirst]

theorem string_at_same {text : String} :
    stringAt (withField key (.string text) source) key = text := by
  rw [stringAt, with_field_same]

theorem string_at_other (apart : other ≠ key) :
    stringAt (withField key value source) other = stringAt source other := by
  rw [stringAt, stringAt, with_field_other apart]

theorem object_at_other (apart : other ≠ key) :
    objectAt (withField key value source) other = objectAt source other := by
  rw [objectAt, objectAt, with_field_other apart]

theorem relaxed_policy {snapshot details : Json} : objectAt (relaxedSnapshot snapshot details)
    "policy" = withField "maxDownsideLossCents"
      (.string (suggestedValue details "max_downside_loss_cents"))
      (withField "minExpectedSavingsCents"
        (.string (suggestedValue details "min_expected_savings_cents"))
        (objectAt snapshot "policy")) := by
  rw [objectAt, relaxedSnapshot, with_field_same]
  cases objectAt snapshot "policy" <;> rfl

/-- The suggestions become the two limits of the policy. -/
theorem policy_snapshot_relaxed {snapshot details : Json} {policy : PolicySnapshot}
    {minimum maximum : Int} (parsed : policySnapshot snapshot = some policy)
    (minimumRead : bigIntOfString (suggestedValue details "min_expected_savings_cents") =
      some minimum)
    (maximumRead : bigIntOfString (suggestedValue details "max_downside_loss_cents") =
      some maximum) :
    policySnapshot (relaxedSnapshot snapshot details) = some { policy with
      minExpectedSavingsCents := minimum, maxDownsideLossCents := maximum } := by
  simp only [policySnapshot, Option.bind_eq_bind, Option.bind_eq_some_iff] at parsed
  obtain ⟨_, _, _, _, gap, gapRead, threshold, thresholdRead, same⟩ := parsed
  rw [Option.pure_def, Option.some.injEq] at same
  subst same
  simp only [policySnapshot, relaxed_policy, string_at_same, ne_eq, String.reduceEq,
    not_false_eq_true, string_at_other, object_at_other, minimumRead, maximumRead, gapRead,
    thresholdRead, Option.bind_eq_bind, Option.bind_some]
  rfl

end Snapshots

section Evaluations

variable {run : OptimizerRun} {snapshot forecast : Json} {priceItems : List OptimizerPriceItem}
  {policy : PolicySnapshot} {item : OptimizerPriceItem}

/-- The points that `optimizeCommitmentInstrument` keeps. -/
def eligiblePoints (run : OptimizerRun) (forecast : Json) : List ForecastPoint :=
  (forecastPoints forecast).filter fun point => point.provider = run.provider && point.region ≠ ""

/-- The verdict and the loss of every candidate, from the figures of the items. -/
theorem evaluated_verdicts (run : OptimizerRun) (forecast : Json)
    (priceItems : List OptimizerPriceItem) (parsed : policySnapshot snapshot = some policy) :
    (evaluateItems run snapshot forecast priceItems).map
        (List.map fun candidate => (candidate.feasible, candidate.p95DownsideLossCents)) =
      (priceItems.mapM (evaluatedFigures policy (eligiblePoints run forecast))).map fun figures =>
        figures.flatMap fun own => own.toList.map fun figures =>
          (withinLimits policy figures, figures.p95Downside) := by
  calc (evaluateItems run snapshot forecast priceItems).map (List.map fun candidate =>
        (candidate.feasible, candidate.p95DownsideLossCents))
      = ((priceItems.mapM fun item => evaluateItem run policy
          (pointsForItem (eligiblePoints run forecast) item) item).map
          (List.map (List.map fun candidate =>
            (candidate.feasible, candidate.p95DownsideLossCents)))).map List.flatten := by
        unfold evaluateItems eligiblePoints
        rw [parsed, Option.map_map]
        simp only [Option.bind_eq_bind, Option.bind_some, Option.pure_def]
        generalize List.mapM (m := Option) _ priceItems = evaluated
        cases evaluated with
        | none => rfl
        | some evaluated => simp only [Option.bind_some, Option.map_some, Function.comp_apply,
            List.map_flatten]
    _ = (priceItems.mapM fun item =>
          (evaluatedFigures policy (eligiblePoints run forecast) item).map fun own =>
            own.toList.map fun figures =>
              (withinLimits policy figures, figures.p95Downside)).map List.flatten := by
        rw [map_m_map]
        simp only [evaluate_item_figures]
    _ = _ := by
        rw [← map_m_map, Option.map_map]
        rfl

/-- The candidates with a verdict and a loss are the items with such figures. -/
theorem candidate_iff_figures {evaluated : List CommitmentInstrumentCandidate}
    (parsed : policySnapshot snapshot = some policy)
    (evaluation : evaluateItems run snapshot forecast priceItems = some evaluated)
    {verdict : Bool} {loss : Int} :
    (∃ candidate ∈ evaluated, candidate.feasible = verdict ∧
      candidate.p95DownsideLossCents = loss) ↔
    ∃ item ∈ priceItems, ∃ figures,
      evaluatedFigures policy (eligiblePoints run forecast) item = some (some figures) ∧
      withinLimits policy figures = verdict ∧ figures.p95Downside = loss := by
  have verdicts := evaluated_verdicts run forecast priceItems parsed
  rw [evaluation, Option.map_some] at verdicts
  obtain ⟨lists, mapped, listed⟩ := Option.map_eq_some_iff.mp verdicts.symm
  have inList : (∃ candidate ∈ evaluated, candidate.feasible = verdict ∧
      candidate.p95DownsideLossCents = loss) ↔
      (verdict, loss) ∈ evaluated.map fun candidate =>
        (candidate.feasible, candidate.p95DownsideLossCents) := by
    simp only [List.mem_map, Prod.mk.injEq]
  rw [inList, ← listed, List.mem_flatMap]
  simp only [List.mem_map, Option.mem_toList, Prod.mk.injEq]
  constructor
  · rintro ⟨own, member, figures, rfl, same⟩
    obtain ⟨item, isItem, evaluatedOwn⟩ := mem_of_map_m mapped member
    exact ⟨item, isItem, figures, evaluatedOwn, same⟩
  · rintro ⟨item, isItem, figures, evaluatedOwn, same⟩
    obtain ⟨own, member, found⟩ := map_m_of_mem mapped isItem
    rw [evaluatedOwn] at found
    exact ⟨own, member, figures, (Option.some.inj found).symm, same⟩

/-- Whether an evaluation succeeds does not depend on the limits. -/
theorem evaluates_iff (run : OptimizerRun) (forecast : Json) (priceItems : List OptimizerPriceItem)
    (parsed : policySnapshot snapshot = some policy) :
    (evaluateItems run snapshot forecast priceItems).isSome = true ↔
      ∀ item ∈ priceItems, (monthlyCosts (eligiblePoints run forecast) item).isSome = true := by
  have verdicts := congrArg Option.isSome (evaluated_verdicts run forecast priceItems parsed)
  rw [Option.isSome_map, Option.isSome_map] at verdicts
  rw [verdicts, map_m_is_some]
  simp only [evaluatedFigures, Option.isSome_map]

theorem optimized_iff {candidates : List CommitmentInstrumentCandidate} :
    optimizeCommitmentRun run snapshot forecast priceItems = some candidates ↔
      run.provider = run.instrument.provider ∧
      ∃ evaluated, evaluateItems run snapshot forecast priceItems = some evaluated ∧
        candidates =
          evaluated.insertionSort fun left right => compareCandidates left right ≤ 0 := by
  unfold optimizeCommitmentRun
  split_ifs with mismatch
  · exact iff_of_false nofun fun both => mismatch both.1
  · rw [not_not.mp mismatch]
    unfold optimizeCommitmentInstrument
    cases evaluateItems run snapshot forecast priceItems with
    | none => simp
    | some evaluated => simp [eq_comm]

end Evaluations

section Condition

/-- The cost that half of the months reach. -/
def medianCost (costs : List Int) : Int := percentile (sortBigInt costs) 50

/-- What the commitment to the median cost is worth in each month. -/
def netValues (policy : PolicySnapshot) (item : OptimizerPriceItem) (costs : List Int) : List Int :=
  costs.map (netValue (itemCosts policy item) (medianCost costs))

def p95Loss (policy : PolicySnapshot) (item : OptimizerPriceItem) (costs : List Int) : Int :=
  percentile (sortBigInt ((netValues policy item costs).map fun value =>
    if value < 0 then -value else 0)) 95

/-- Some item with the least p95 loss of all has a mean net value that does not round
below zero, and its utilization gap, all or nothing, is allowed. -/
def Relaxable (run : OptimizerRun) (snapshot forecast : Json)
    (priceItems : List OptimizerPriceItem) : Prop :=
  ∃ policy, policySnapshot snapshot = some policy ∧ ∃ item ∈ priceItems, ∃ costs,
    monthlyCosts (eligiblePoints run forecast) item = some costs ∧ costs ≠ [] ∧
    (∀ other ∈ priceItems, ∀ otherCosts,
      monthlyCosts (eligiblePoints run forecast) other = some otherCosts → otherCosts ≠ [] →
        p95Loss policy item costs ≤ p95Loss policy other otherCosts) ∧
    -(netValues policy item costs).sum < ((costs.length : Int) + 1) / 2 ∧
    (if medianCost costs = 0 then 10000 else 0) ≤ policy.maxUtilizationGapBps

variable {policy : PolicySnapshot} {item : OptimizerPriceItem} {costs : List Int}

theorem nets_perm (policy : PolicySnapshot) (item : OptimizerPriceItem) (costs : List Int) :
    ((sortBigInt costs).map (netValue (itemCosts policy item) (medianCost costs))).Perm
      (netValues policy item costs) :=
  (List.perm_insertionSort (· ≤ ·) costs).map _

theorem figures_loss : (itemFigures (itemCosts policy item) costs).p95Downside =
    p95Loss policy item costs := by
  have losses := sort_big_int_perm
    ((nets_perm policy item costs).map fun value : Int => if value < 0 then -value else 0)
  exact congrArg (percentile · 95) losses

theorem mean_rounded_perm {values shuffled : List Int} (permuted : values.Perm shuffled) :
    meanRounded values = meanRounded shuffled := by
  have same : values = [] ↔ shuffled = [] := by
    rw [← List.length_eq_zero_iff, ← List.length_eq_zero_iff, permuted.length_eq]
  simp only [meanRounded, same, permuted.sum_eq, permuted.length_eq]

theorem figures_expected : (itemFigures (itemCosts policy item) costs).expected =
    meanRounded (netValues policy item costs) :=
  mean_rounded_perm (nets_perm policy item costs)

theorem mean_rounded_nonneg {values : List Int} (nonempty : values ≠ []) :
    0 ≤ meanRounded values ↔ -values.sum < ((values.length : Int) + 1) / 2 := by
  have positive : (0 : Int) < values.length := by
    exact_mod_cast List.length_pos_of_ne_nil nonempty
  rw [meanRounded, if_neg nonempty, roundedDiv, if_neg positive.ne']
  generalize (values.length : Int) = count at positive ⊢
  have half : count.tdiv 2 = count / 2 := Int.tdiv_eq_ediv_of_nonneg positive.le
  rw [half]
  split_ifs with gains
  · have quotient : 0 ≤ (values.sum + count / 2).tdiv count :=
      Int.tdiv_nonneg (by omega) positive.le
    exact iff_of_true quotient (by omega)
  · rw [Int.tdiv_eq_ediv_of_nonneg (by omega)]
    have below : (-values.sum + count / 2) / count ≤ 0 ↔ -values.sum + count / 2 < count := by
      rw [← Int.lt_add_one_iff, Int.zero_add, Int.ediv_lt_iff_lt_mul positive, Int.one_mul]
    omega

theorem figures_within (nonempty : costs ≠ []) :
    withinLimits policy (itemFigures (itemCosts policy item) costs) = true ↔
      p95Loss policy item costs ≤ policy.maxDownsideLossCents ∧
      policy.minExpectedSavingsCents ≤ meanRounded (netValues policy item costs) ∧
      (if medianCost costs = 0 then 10000 else 0) ≤ policy.maxUtilizationGapBps := by
  have median : (itemFigures (itemCosts policy item) costs).commitment = medianCost costs := rfl
  simp only [withinLimits, figures_loss, figures_expected, utilization_p50 _ nonempty, median,
    Bool.and_eq_true, decide_eq_true_eq, and_assoc]
  split_ifs <;> simp

theorem figures_iff {points : List ForecastPoint} {figures : ItemFigures} :
    evaluatedFigures policy points item = some (some figures) ↔
      ∃ costs, monthlyCosts points item = some costs ∧ costs ≠ [] ∧
        figures = itemFigures (itemCosts policy item) costs := by
  unfold evaluatedFigures
  cases monthlyCosts points item with
  | none => simp
  | some costs =>
      by_cases empty : costs = []
      · simp [empty]
      · simp [empty, eq_comm]

/-- No month loses less than nothing. -/
theorem p95_loss_nonneg (nonempty : costs ≠ []) : 0 ≤ p95Loss policy item costs := by
  have losses : (netValues policy item costs).map (fun value => if value < 0 then -value else 0) ≠
      [] := by
    simpa [netValues] using nonempty
  have member : p95Loss policy item costs ∈ sortBigInt ((netValues policy item costs).map _) :=
    percentile_mem (sort_big_int_nonempty losses) (by decide)
  obtain ⟨value, _, same⟩ := List.mem_map.mp ((List.mem_insertionSort _).mp member)
  rw [← same]
  split_ifs <;> omega

end Condition

section Soundness

variable {run : OptimizerRun} {snapshot forecast : Json} {priceItems : List OptimizerPriceItem}
  {candidates : List CommitmentInstrumentCandidate} {policy : PolicySnapshot}

theorem suggested_savings (candidates : List CommitmentInstrumentCandidate) :
    suggestedValue (infeasibilityDetails candidates) "min_expected_savings_cents" = "0" := by
  simp [suggestedValue, infeasibilityDetails, Json.field, stringAt, List.lookup_cons]

theorem suggested_loss (candidates : List CommitmentInstrumentCandidate) :
    suggestedValue (infeasibilityDetails candidates) "max_downside_loss_cents" =
      toString (minBigInt (candidates.map (·.p95DownsideLossCents))) := by
  simp [suggestedValue, infeasibilityDetails, Json.field, stringAt, List.lookup_cons, centsText]

/-- The losses of the candidates are those of the items with points. -/
theorem candidate_losses {evaluated : List CommitmentInstrumentCandidate}
    (parsed : policySnapshot snapshot = some policy)
    (evaluation : evaluateItems run snapshot forecast priceItems = some evaluated) {loss : Int} :
    loss ∈ evaluated.map (·.p95DownsideLossCents) ↔
      ∃ item ∈ priceItems, ∃ costs, monthlyCosts (eligiblePoints run forecast) item = some costs ∧
        costs ≠ [] ∧ p95Loss policy item costs = loss := by
  rw [List.mem_map]
  constructor
  · rintro ⟨candidate, member, rfl⟩
    obtain ⟨item, isItem, figures, found, _, same⟩ :=
      (candidate_iff_figures parsed evaluation).mp ⟨candidate, member, rfl, rfl⟩
    obtain ⟨costs, read, some, rfl⟩ := figures_iff.mp found
    exact ⟨item, isItem, costs, read, some, figures_loss.symm.trans same⟩
  · rintro ⟨item, isItem, costs, read, some, same⟩
    obtain ⟨candidate, member, _, loss⟩ := (candidate_iff_figures parsed evaluation).mpr
      ⟨item, isItem, _, figures_iff.mpr ⟨costs, read, some, rfl⟩, rfl, figures_loss.trans same⟩
    exact ⟨candidate, member, loss⟩

theorem parsed_of_evaluated {evaluated : List CommitmentInstrumentCandidate}
    (evaluation : evaluateItems run snapshot forecast priceItems = some evaluated) :
    ∃ policy, policySnapshot snapshot = some policy := by
  unfold evaluateItems at evaluation
  obtain ⟨policy, parsed, _⟩ := Option.bind_eq_some_iff.mp evaluation
  exact ⟨policy, parsed⟩

/-- A run that is evaluated again under other limits is feasible when some item keeps
within them. -/
theorem feasible_again_iff {other : Json} {limits : PolicySnapshot} {minimum maximum : Int}
    (parsed : policySnapshot snapshot = some policy)
    (optimized : optimizeCommitmentRun run snapshot forecast priceItems = some candidates)
    (again : policySnapshot other = some limits)
    (same : limits = { policy with
      minExpectedSavingsCents := minimum, maxDownsideLossCents := maximum }) :
    (∃ relaxed, optimizeCommitmentRun run other forecast priceItems = some relaxed ∧
      ∃ candidate ∈ relaxed, candidate.feasible = true) ↔
    ∃ item ∈ priceItems, ∃ costs,
      monthlyCosts (eligiblePoints run forecast) item = some costs ∧ costs ≠ [] ∧
      p95Loss policy item costs ≤ maximum ∧
      minimum ≤ meanRounded (netValues policy item costs) ∧
      (if medianCost costs = 0 then 10000 else 0) ≤ policy.maxUtilizationGapBps := by
  obtain ⟨provider, evaluated, evaluation, _⟩ := optimized_iff.mp optimized
  have read := (evaluates_iff run forecast priceItems parsed).mp
    (Option.isSome_iff_exists.mpr ⟨_, evaluation⟩)
  obtain ⟨reevaluated, reevaluation⟩ := Option.isSome_iff_exists.mp
    ((evaluates_iff run forecast priceItems again).mpr read)
  have verdicts : (∃ relaxed, optimizeCommitmentRun run other forecast priceItems = some relaxed ∧
      ∃ candidate ∈ relaxed, candidate.feasible = true) ↔
      ∃ loss, ∃ candidate ∈ reevaluated,
        candidate.feasible = true ∧ candidate.p95DownsideLossCents = loss := by
    constructor
    · rintro ⟨relaxed, reoptimized, candidate, member, feasible⟩
      obtain ⟨_, _, sameEvaluation, rfl⟩ := optimized_iff.mp reoptimized
      obtain rfl := Option.some.inj (reevaluation.symm.trans sameEvaluation)
      exact ⟨_, candidate, (List.mem_insertionSort _).mp member, feasible, rfl⟩
    · rintro ⟨_, candidate, member, feasible, _⟩
      exact ⟨_, optimized_iff.mpr ⟨provider, reevaluated, reevaluation, rfl⟩, candidate,
        (List.mem_insertionSort _).mpr member, feasible⟩
  subst same
  simp only [verdicts, candidate_iff_figures again reevaluation]
  constructor
  · rintro ⟨_, item, isItem, figures, found, within, _⟩
    obtain ⟨costs, costsRead, some, rfl⟩ := figures_iff.mp found
    exact ⟨item, isItem, costs, costsRead, some, (figures_within some).mp within⟩
  · rintro ⟨item, isItem, costs, costsRead, some, limits⟩
    exact ⟨_, item, isItem, _, figures_iff.mpr ⟨costs, costsRead, some, rfl⟩,
      (figures_within some).mpr limits, rfl⟩

/-- Under the suggested limits a run has a feasible candidate exactly when an item with
the least loss of all earns enough. -/
theorem relaxations_sound_iff
    (optimized : optimizeCommitmentRun run snapshot forecast priceItems = some candidates)
    (nonempty : candidates ≠ []) :
    (∃ relaxed, optimizeCommitmentRun run
        (relaxedSnapshot snapshot (infeasibilityDetails candidates)) forecast priceItems =
          some relaxed ∧
      ∃ candidate ∈ relaxed, candidate.feasible = true) ↔
    Relaxable run snapshot forecast priceItems := by
  obtain ⟨_, evaluated, evaluation, sorted⟩ := optimized_iff.mp optimized
  obtain ⟨policy, parsed⟩ := parsed_of_evaluated evaluation
  obtain ⟨least, leastEq⟩ : ∃ least, minBigInt (candidates.map (·.p95DownsideLossCents)) = least :=
    ⟨_, rfl⟩
  have losses : (candidates.map (·.p95DownsideLossCents)).Perm
      (evaluated.map (·.p95DownsideLossCents)) := by
    rw [sorted]
    exact (List.perm_insertionSort _ _).map _
  have anyLoss : candidates.map (·.p95DownsideLossCents) ≠ [] := by simpa using nonempty
  obtain ⟨attained, lower⟩ := min_big_int_least anyLoss
  rw [leastEq] at attained lower
  obtain ⟨lowest, isLowest, lowestCosts, lowestRead, lowestSome, lowestLoss⟩ :=
    (candidate_losses parsed evaluation).mp (losses.mem_iff.mp attained)
  have nonneg : 0 ≤ least := lowestLoss ▸ p95_loss_nonneg lowestSome
  have lossRead : bigIntOfString (suggestedValue (infeasibilityDetails candidates)
      "max_downside_loss_cents") = some least := by
    rw [suggested_loss, leastEq, KernelAgreement.to_string_nonneg nonneg, big_int_of_nat,
      Int.toNat_of_nonneg nonneg]
  have savingsRead : bigIntOfString (suggestedValue (infeasibilityDetails candidates)
      "min_expected_savings_cents") = some 0 := by
    rw [suggested_savings]
    decide
  have again := policy_snapshot_relaxed parsed savingsRead lossRead
  rw [feasible_again_iff parsed optimized again rfl]
  constructor
  · rintro ⟨item, isItem, costs, read, some, loss, mean, gap⟩
    have leastOfAll : ∀ other ∈ priceItems, ∀ otherCosts,
        monthlyCosts (eligiblePoints run forecast) other = Option.some otherCosts →
        otherCosts ≠ [] → p95Loss policy item costs ≤ p95Loss policy other otherCosts := by
      intro other isOther otherCosts otherRead otherSome
      have member := losses.mem_iff.mpr ((candidate_losses parsed evaluation).mpr
        ⟨other, isOther, otherCosts, otherRead, otherSome, rfl⟩)
      exact loss.trans (lower _ member)
    have sumLimit := (mean_rounded_nonneg (by simpa [netValues] using some)).mp mean
    rw [netValues, List.length_map, ← netValues] at sumLimit
    exact ⟨policy, parsed, item, isItem, costs, read, some, leastOfAll, sumLimit, gap⟩
  · rintro ⟨samePolicy, sameParsed, item, isItem, costs, read, some, leastOfAll, sumLimit, gap⟩
    obtain rfl := Option.some.inj (parsed.symm.trans sameParsed)
    have loss : p95Loss policy item costs ≤ least :=
      lowestLoss ▸ leastOfAll lowest isLowest lowestCosts lowestRead lowestSome
    have mean : 0 ≤ meanRounded (netValues policy item costs) := by
      refine (mean_rounded_nonneg (by simpa [netValues] using some)).mpr ?_
      rwa [netValues, List.length_map, ← netValues]
    exact ⟨item, isItem, costs, read, some, loss, mean, gap⟩

def limitedSnapshot (minimum maximum : String) : Json :=
  .object [("policy", .object [
    ("objective", .string "maximize_expected_savings"),
    ("maxDownsideLossCents", .string maximum),
    ("minExpectedSavingsCents", .string minimum),
    ("maxUtilizationGapPct", .string "20.00"),
    ("approvalThresholdCents", .string "0"),
    ("config", .object [])])]

def cheapForecast : Json :=
  .object [("forecast_points", .array [examplePoint "2026-01" "us-east-1" "100"])]

theorem relaxations_sound_downside_binds :
    ∃ candidates, optimizeCommitmentRun exampleRun (limitedSnapshot "0" "100") exampleForecast
        [exampleItem "us-east-1"] = some candidates ∧
      (∀ candidate ∈ candidates, candidate.feasible = false) ∧
      ((∃ relaxed, optimizeCommitmentRun exampleRun
          (relaxedSnapshot (limitedSnapshot "0" "100") (infeasibilityDetails candidates))
          exampleForecast [exampleItem "us-east-1"] = some relaxed ∧
        ∃ candidate ∈ relaxed, candidate.feasible = true) ↔
      Relaxable exampleRun (limitedSnapshot "0" "100") exampleForecast
        [exampleItem "us-east-1"]) := by
  have verdicts : (optimizeCommitmentRun exampleRun (limitedSnapshot "0" "100") exampleForecast
      [exampleItem "us-east-1"]).map (List.map (·.feasible)) = some [false] := by
    decide
  obtain ⟨candidates, optimized, mapped⟩ := Option.map_eq_some_iff.mp verdicts
  refine ⟨candidates, optimized, ?_, relaxations_sound_iff optimized ?_⟩
  · intro candidate member
    have verdict : candidate.feasible ∈ candidates.map (·.feasible) := List.mem_map_of_mem member
    rw [mapped] at verdict
    exact List.mem_singleton.mp verdict
  · rintro rfl
    cases mapped

/-- A commitment of 730 cents a month to a month that costs 100 cents loses 630 cents
whatever the policy allows; the run is still infeasible under the suggested limits. -/
theorem relaxations_not_sound :
    ¬ ∀ (run : OptimizerRun) (snapshot forecast : Json) (priceItems : List OptimizerPriceItem)
      (candidates : List CommitmentInstrumentCandidate),
      optimizeCommitmentRun run snapshot forecast priceItems = some candidates →
      candidates ≠ [] → (∀ candidate ∈ candidates, candidate.feasible = false) →
      ∃ relaxed, optimizeCommitmentRun run
          (relaxedSnapshot snapshot (infeasibilityDetails candidates)) forecast priceItems =
            some relaxed ∧
        ∃ candidate ∈ relaxed, candidate.feasible = true := by
  intro sound
  have verdicts : (optimizeCommitmentRun exampleRun (limitedSnapshot "500" "10") cheapForecast
      [exampleItem "us-east-1"]).map (fun candidates => (candidates.map (·.feasible),
        (optimizeCommitmentRun exampleRun
          (relaxedSnapshot (limitedSnapshot "500" "10") (infeasibilityDetails candidates))
          cheapForecast [exampleItem "us-east-1"]).map (List.map (·.feasible)))) =
      some ([false], some [false]) := by
    decide
  obtain ⟨candidates, optimized, both⟩ := Option.map_eq_some_iff.mp verdicts
  obtain ⟨before, after⟩ := Prod.mk.inj both
  have nonempty : candidates ≠ [] := by
    rintro rfl
    cases before
  have infeasible : ∀ candidate ∈ candidates, candidate.feasible = false := by
    intro candidate member
    have verdict : candidate.feasible ∈ candidates.map (·.feasible) := List.mem_map_of_mem member
    rw [before] at verdict
    exact List.mem_singleton.mp verdict
  obtain ⟨relaxed, reoptimized, candidate, member, feasible⟩ :=
    sound _ _ _ _ candidates optimized nonempty infeasible
  rw [reoptimized, Option.map_some] at after
  have verdict : candidate.feasible ∈ relaxed.map (·.feasible) := List.mem_map_of_mem member
  rw [Option.some.inj after, feasible] at verdict
  cases List.mem_singleton.mp verdict

end Soundness

end CommitmentOptimizer.Optimizer.Relaxations
