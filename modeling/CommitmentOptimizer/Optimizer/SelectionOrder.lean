import CommitmentOptimizer.Foundations.PartialLists
import CommitmentOptimizer.Optimizer.CandidateChoice
import CommitmentOptimizer.Optimizer.OptimizerWorker

/-!
# The selection does not depend on the order of its inputs

What a run selects, and what its frontier sums up, from price items and forecast
points in any order.
-/

namespace CommitmentOptimizer.Optimizer.SelectionOrder

open Foundations
open Foundations.LexicographicChoice
open Foundations.PartialLists
open Recommendations.RecommendationLifecycle
open OptimizerRuns
open OptimizerRunCreation
open OptimizerWorker
open Candidates
open CandidateChoice

set_option autoImplicit false

/-- What `compareCandidates` looks at. -/
def candidateKey : CommitmentInstrumentCandidate → Bool × Int × Int :=
  rankKey (·.feasible) (·.expectedSavingsCents) (·.p95DownsideLossCents)

/-- The expected savings and the downside of the selection; `none` is a failed run. -/
def selectionValues (run : OptimizerRun) (snapshot forecast : Json)
    (priceItems : List OptimizerPriceItem) : Option (Option (Int × Int)) :=
  (optimizeCommitmentRun run snapshot forecast priceItems).map fun candidates =>
    (selectCandidate candidates).map fun chosen =>
      (chosen.expectedSavingsCents, chosen.p95DownsideLossCents)

section Points

variable {run : OptimizerRun} {policy : PolicySnapshot} {item : OptimizerPriceItem}
  {points others : List ForecastPoint}

theorem sort_big_int_perm {values shuffled : List Int} (permuted : values.Perm shuffled) :
    sortBigInt values = sortBigInt shuffled := by
  have same : (sortBigInt values).Perm (sortBigInt shuffled) :=
    (List.perm_insertionSort _ _).trans (permuted.trans (List.perm_insertionSort _ _).symm)
  exact same.eq_of_pairwise' (List.pairwise_insertionSort _ _) (List.pairwise_insertionSort _ _)

/-- An item is evaluated alike from points in any order, but for the service it names. -/
theorem evaluate_item_perm (permuted : points.Perm others) :
    (evaluateItem run policy points item).map (List.map candidateKey) =
      (evaluateItem run policy others item).map (List.map candidateKey) := by
  cases points with
  | nil =>
      rw [List.nil_perm.mp permuted]
  | cons first rest =>
      cases others with
      | nil => exact absurd (List.perm_nil.mp permuted) (by simp)
      | cons otherFirst otherRest =>
          have costs := map_m_perm (fun point : ForecastPoint =>
            BigIntText.bigIntOfString point.forecastOnDemandCostCents) permuted
          simp only [evaluateItem, Option.bind_eq_bind]
          generalize List.mapM (fun point : ForecastPoint =>
            BigIntText.bigIntOfString point.forecastOnDemandCostCents) (first :: rest) = costsHere
            at costs ⊢
          generalize List.mapM (fun point : ForecastPoint =>
            BigIntText.bigIntOfString point.forecastOnDemandCostCents)
            (otherFirst :: otherRest) = costsThere at costs ⊢
          cases costs with
          | none => rfl
          | some permutedCosts =>
              simp only [Option.bind_some, sort_big_int_perm permutedCosts]
              rfl

/-- The keys of the candidates, from items and points in any order. -/
theorem evaluate_items_perm (run : OptimizerRun) (snapshot : Json)
    {forecast shuffledForecast : Json} {priceItems shuffledItems : List OptimizerPriceItem}
    (pointsPermuted : (forecastPoints forecast).Perm (forecastPoints shuffledForecast))
    (itemsPermuted : priceItems.Perm shuffledItems) :
    Option.Rel (fun left right => (left.map candidateKey).Perm (right.map candidateKey))
      (evaluateItems run snapshot forecast priceItems)
      (evaluateItems run snapshot shuffledForecast shuffledItems) := by
  have eligible := pointsPermuted.filter fun point =>
    point.provider = run.provider && point.region ≠ ""
  unfold evaluateItems
  cases policySnapshot snapshot with
  | none => exact .none
  | some policy =>
      simp only [Option.bind_eq_bind, Option.bind_some]
      generalize hereEq : (fun item => evaluateItem run policy (pointsForItem
        ((forecastPoints forecast).filter fun point =>
          point.provider = run.provider && point.region ≠ "") item) item) = here
      generalize thereEq : (fun item => evaluateItem run policy (pointsForItem
        ((forecastPoints shuffledForecast).filter fun point =>
          point.provider = run.provider && point.region ≠ "") item) item) = there
      have pointwise : (fun item => (here item).map (List.map candidateKey)) =
          fun item => (there item).map (List.map candidateKey) := by
        funext item
        rw [← hereEq, ← thereEq]
        exact evaluate_item_perm (eligible.filter _)
      have keys : (priceItems.mapM here).map (List.map (List.map candidateKey)) =
          (priceItems.mapM there).map (List.map (List.map candidateKey)) := by
        rw [map_m_map, map_m_map, pointwise]
      have shuffled := map_m_perm there itemsPermuted
      generalize priceItems.mapM here = evaluatedHere at keys ⊢
      generalize priceItems.mapM there = evaluatedThere at keys shuffled
      generalize shuffledItems.mapM there = evaluatedShuffled at shuffled ⊢
      cases shuffled with
      | none =>
          rw [Option.map_none, Option.map_eq_none_iff] at keys
          rw [keys]
          exact .none
      | @some listed shuffledLists permuted =>
          rw [Option.map_some, Option.map_eq_some_iff] at keys
          obtain ⟨lists, rfl, sameKeys⟩ := keys
          refine .some ?_
          rw [List.map_flatten, sameKeys, ← List.map_flatten]
          exact permuted.flatten.map candidateKey

end Points

section Selection

variable {run : OptimizerRun} {snapshot forecast : Json}
  {priceItems : List OptimizerPriceItem} {candidates : List CommitmentInstrumentCandidate}

/-- The selection is feasible and the best of its list, and is absent only without a
feasible candidate. -/
structure SelectsBest (candidates : List CommitmentInstrumentCandidate)
    (selected : Option CommitmentInstrumentCandidate) : Prop where
  absent : selected = none ↔ ∀ candidate ∈ candidates, candidate.feasible = false
  feasible : ∀ chosen, selected = some chosen → chosen ∈ candidates ∧ chosen.feasible = true
  greatestSavings : ∀ chosen, selected = some chosen →
    ∀ other ∈ candidates, other.feasible = true →
      other.expectedSavingsCents ≤ chosen.expectedSavingsCents
  leastDownside : ∀ chosen, selected = some chosen →
    ∀ other ∈ candidates, other.feasible = true →
      other.expectedSavingsCents = chosen.expectedSavingsCents →
        chosen.p95DownsideLossCents ≤ other.p95DownsideLossCents
  undominated : ∀ chosen, selected = some chosen →
    ∀ other ∈ candidates, other.feasible = true →
      ¬ (chosen.expectedSavingsCents < other.expectedSavingsCents ∧
        other.p95DownsideLossCents < chosen.p95DownsideLossCents)

theorem selects_best
    (optimized : optimizeCommitmentRun run snapshot forecast priceItems = some candidates) :
    SelectsBest candidates (selectCandidate candidates) := by
  obtain ⟨evaluated, _, same, selection⟩ := select_candidate_choose optimized
  rw [selection]
  constructor
  · rw [choose_none]
    simp only [same]
  · intro chosen chosenEq
    obtain ⟨member, feasible, _⟩ := choose_some chosenEq
    exact ⟨(same chosen).mpr member, feasible⟩
  · intro chosen chosenEq other member feasible
    exact ((choose_some chosenEq).2.2 other ((same other).mp member) feasible).1
  · intro chosen chosenEq other member feasible
    exact ((choose_some chosenEq).2.2 other ((same other).mp member) feasible).2
  · rintro chosen chosenEq other member feasible ⟨more, _⟩
    have most := ((choose_some chosenEq).2.2 other ((same other).mp member) feasible).1
    omega

theorem selection_values_eq : selectionValues run snapshot forecast priceItems =
    if run.provider ≠ run.instrument.provider then none
    else (evaluateItems run snapshot forecast priceItems).map fun evaluated =>
      (choose (·.feasible) (·.expectedSavingsCents) (·.p95DownsideLossCents) evaluated).map
        fun chosen => (chosen.expectedSavingsCents, chosen.p95DownsideLossCents) := by
  have ranking : (fun left right => compareCandidates left right ≤ 0) =
      fun left right => ranks (·.feasible) (·.expectedSavingsCents) (·.p95DownsideLossCents)
        left right = true := by
    funext left right
    exact propext (compare_candidates_ranks left right)
  unfold selectionValues optimizeCommitmentRun
  split_ifs with mismatch
  · rfl
  · unfold optimizeCommitmentInstrument
    cases evaluateItems run snapshot forecast priceItems with
    | none => rfl
    | some evaluated =>
        simp only [Option.bind_eq_bind, Option.bind_some, Option.map_some, Option.pure_def,
          selectCandidate, choose]
        congr 5

theorem selection_values_perm {shuffledForecast : Json} {shuffledItems : List OptimizerPriceItem}
    (pointsPermuted : (forecastPoints forecast).Perm (forecastPoints shuffledForecast))
    (itemsPermuted : priceItems.Perm shuffledItems) :
    selectionValues run snapshot forecast priceItems =
      selectionValues run snapshot shuffledForecast shuffledItems := by
  have evaluated := evaluate_items_perm run snapshot pointsPermuted itemsPermuted
  rw [selection_values_eq, selection_values_eq]
  generalize evaluateItems run snapshot forecast priceItems = here at evaluated ⊢
  generalize evaluateItems run snapshot shuffledForecast shuffledItems = there at evaluated ⊢
  cases evaluated with
  | none => rfl
  | some permuted => rw [Option.map_some, Option.map_some, choose_values_perm permuted]

end Selection

section Frontier

/-- The fold of `maxBigInt`, and in the opposite order that of `minBigInt`. -/
theorem foldl_max_bounds {Value : Type} [LinearOrder Value] (values : List Value)
    (start : Value) :
    start ≤ values.foldl max start ∧ (∀ value ∈ values, value ≤ values.foldl max start) ∧
      (values.foldl max start = start ∨ values.foldl max start ∈ values) := by
  induction values generalizing start with
  | nil => exact ⟨le_refl _, by simp, Or.inl rfl⟩
  | cons head tail induction =>
      obtain ⟨below, each, found⟩ := induction (max start head)
      rw [List.foldl_cons]
      refine ⟨(le_max_left _ _).trans below, ?_, ?_⟩
      · exact List.forall_mem_cons.mpr ⟨(le_max_right _ _).trans below, each⟩
      · rcases found with same | member
        · rcases le_total start head with less | more
          · exact Or.inr (List.mem_cons.mpr (Or.inl (same.trans (max_eq_right less))))
          · exact Or.inl (same.trans (max_eq_left more))
        · exact Or.inr (List.mem_cons_of_mem _ member)

variable {values : List Int}

theorem max_big_int_greatest (nonempty : values ≠ []) :
    maxBigInt values ∈ values ∧ ∀ value ∈ values, value ≤ maxBigInt values := by
  obtain ⟨first, rest, rfl⟩ := List.exists_cons_of_ne_nil nonempty
  obtain ⟨below, each, found⟩ := foldl_max_bounds rest first
  exact ⟨List.mem_cons.mpr found, List.forall_mem_cons.mpr ⟨below, each⟩⟩

theorem min_big_int_least (nonempty : values ≠ []) :
    minBigInt values ∈ values ∧ ∀ value ∈ values, minBigInt values ≤ value := by
  obtain ⟨first, rest, rfl⟩ := List.exists_cons_of_ne_nil nonempty
  obtain ⟨below, each, found⟩ := @foldl_max_bounds (OrderDual Int) _ rest first
  exact ⟨List.mem_cons.mpr found, List.forall_mem_cons.mpr ⟨below, each⟩⟩

/-- The counts and the bounds that the frontier's summary states are those of the
whole list; without candidates the bounds are zero. -/
structure SummarizesAll (frontier : Json) (evaluated : List CommitmentInstrumentCandidate) :
    Prop where
  candidateCount : (objectAt frontier "summary").field "candidate_count" =
    some (.number (some evaluated.length))
  feasibleCount : (objectAt frontier "summary").field "feasible_count" =
    some (.number (some (evaluated.countP (·.feasible))))
  bestExpectedSavings : ∃ best : Int,
    (objectAt frontier "summary").field "best_expected_savings_cents" =
      some (.string (toString best)) ∧
    (evaluated = [] → best = 0) ∧
    (evaluated ≠ [] → (∃ candidate ∈ evaluated, candidate.expectedSavingsCents = best) ∧
      ∀ candidate ∈ evaluated, candidate.expectedSavingsCents ≤ best)
  lowestDownside : ∃ lowest : Int,
    (objectAt frontier "summary").field "lowest_p95_downside_loss_cents" =
      some (.string (toString lowest)) ∧
    (evaluated = [] → lowest = 0) ∧
    (evaluated ≠ [] → (∃ candidate ∈ evaluated, candidate.p95DownsideLossCents = lowest) ∧
      ∀ candidate ∈ evaluated, lowest ≤ candidate.p95DownsideLossCents)

theorem summarizes_all {run : OptimizerRun} {candidates evaluated : List CommitmentInstrumentCandidate}
    (permuted : candidates.Perm evaluated) :
    SummarizesAll (buildFrontier run candidates) evaluated := by
  have nonempty : evaluated ≠ [] → ∀ value : CommitmentInstrumentCandidate → Int,
      candidates.map value ≠ [] := by
    rintro some value none
    rw [List.map_eq_nil_iff] at none
    subst none
    exact some (List.nil_perm.mp permuted)
  constructor
  · rw [← permuted.length_eq]
    rfl
  · rw [← permuted.countP_eq, List.countP_eq_length_filter]
    rfl
  · refine ⟨_, rfl, ?_, ?_⟩
    · rintro rfl
      rw [List.perm_nil.mp permuted]
      rfl
    · intro some
      obtain ⟨member, bounds⟩ := max_big_int_greatest (nonempty some _)
      obtain ⟨candidate, inside, same⟩ := List.mem_map.mp member
      refine ⟨⟨candidate, permuted.mem_iff.mp inside, same⟩, fun other otherMember => ?_⟩
      exact bounds _ (List.mem_map_of_mem (permuted.mem_iff.mpr otherMember))
  · refine ⟨_, rfl, ?_, ?_⟩
    · rintro rfl
      rw [List.perm_nil.mp permuted]
      rfl
    · intro some
      obtain ⟨member, bounds⟩ := min_big_int_least (nonempty some _)
      obtain ⟨candidate, inside, same⟩ := List.mem_map.mp member
      refine ⟨⟨candidate, permuted.mem_iff.mp inside, same⟩, fun other otherMember => ?_⟩
      exact bounds _ (List.mem_map_of_mem (permuted.mem_iff.mpr otherMember))

end Frontier

/-- What a run selects is the best of its candidates, whatever the order of its price
items and forecast points, and its frontier sums up the whole list. -/
theorem selection_optimal (run : OptimizerRun) (snapshot forecast : Json)
    (priceItems : List OptimizerPriceItem) :
    (∀ candidates, optimizeCommitmentRun run snapshot forecast priceItems = some candidates →
      ∃ evaluated, evaluateItems run snapshot forecast priceItems = some evaluated ∧
        candidates.Perm evaluated ∧ SelectsBest evaluated (selectCandidate candidates) ∧
        SummarizesAll (buildFrontier run candidates) evaluated) ∧
    ∀ (shuffledForecast : Json) (shuffledItems : List OptimizerPriceItem),
      (forecastPoints forecast).Perm (forecastPoints shuffledForecast) →
      priceItems.Perm shuffledItems →
      selectionValues run snapshot forecast priceItems =
        selectionValues run snapshot shuffledForecast shuffledItems := by
  refine ⟨fun candidates optimized => ?_, fun _ _ => selection_values_perm⟩
  obtain ⟨evaluated, evaluation, rfl⟩ := optimized_candidates optimized
  have permuted := List.perm_insertionSort
    (ranks (·.feasible) (·.expectedSavingsCents) (·.p95DownsideLossCents) · ·) evaluated
  have best := selects_best optimized
  refine ⟨evaluated, evaluation, permuted, ?_, summarizes_all permuted⟩
  constructor
  · simpa only [permuted.mem_iff] using best.absent
  · simpa only [permuted.mem_iff] using best.feasible
  · simpa only [permuted.mem_iff] using best.greatestSavings
  · simpa only [permuted.mem_iff] using best.leastDownside
  · simpa only [permuted.mem_iff] using best.undominated

theorem selection_optimal_two_regions :
    (∃ evaluated, SelectsBest evaluated
      (selectCandidate ((optimizeCommitmentRun exampleRun
        (exampleSnapshot "maximize_expected_savings") exampleForecast
        [exampleItem "us-east-1", exampleItem "eu-west-1"]).getD []))) ∧
    selectionValues exampleRun (exampleSnapshot "maximize_expected_savings") exampleForecast
        [exampleItem "us-east-1", exampleItem "eu-west-1"] =
      selectionValues exampleRun (exampleSnapshot "maximize_expected_savings") exampleForecast
        [exampleItem "eu-west-1", exampleItem "us-east-1"] := by
  have optimal := selection_optimal exampleRun (exampleSnapshot "maximize_expected_savings")
    exampleForecast [exampleItem "us-east-1", exampleItem "eu-west-1"]
  have optimized : (optimizeCommitmentRun exampleRun
      (exampleSnapshot "maximize_expected_savings") exampleForecast
      [exampleItem "us-east-1", exampleItem "eu-west-1"]).isSome = true := by
    decide
  obtain ⟨candidates, optimized⟩ := Option.isSome_iff_exists.mp optimized
  obtain ⟨evaluated, _, _, best, _⟩ := optimal.1 candidates optimized
  refine ⟨⟨evaluated, ?_⟩, optimal.2 _ _ (.refl _) (.swap _ _ [])⟩
  rw [optimized]
  exact best

end CommitmentOptimizer.Optimizer.SelectionOrder
