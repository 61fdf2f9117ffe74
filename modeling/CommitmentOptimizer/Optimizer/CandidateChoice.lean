import Mathlib.Data.Int.Order.Basic
import CommitmentOptimizer.Optimizer.Candidates

/-!
# The candidate a run selects

The ranking of `optimizer-worker.ts` against the objective of the policy that the
snapshot freezes.
-/

namespace CommitmentOptimizer.Optimizer.CandidateChoice

open Foundations
open Foundations.LexicographicChoice
open Recommendations.RecommendationLifecycle
open OptimizerRuns
open Candidates

set_option autoImplicit false

inductive OptimizerPolicyObjective where
  | maximizeExpectedSavings | minimizeDownsideLoss | efficientFrontier
  deriving DecidableEq, Repr

/-- The objective that `createRun` freezes; the worker does not read it. -/
def snapshotObjective (snapshot : Json) : Option OptimizerPolicyObjective :=
  match (objectAt snapshot "policy").field "objective" with
  | some (.string "maximize_expected_savings") => some .maximizeExpectedSavings
  | some (.string "minimize_downside_loss") => some .minimizeDownsideLoss
  | some (.string "efficient_frontier") => some .efficientFrontier
  | _ => none

/-- No feasible candidate serves the objective better than `chosen`. -/
def ServesObjective (objective : Option OptimizerPolicyObjective)
    (candidates : List CommitmentInstrumentCandidate) (chosen : CommitmentInstrumentCandidate) :
    Prop :=
  ∀ other ∈ candidates, other.feasible = true →
    match objective with
    | some .maximizeExpectedSavings =>
        ¬ chosen.expectedSavingsCents < other.expectedSavingsCents
    | some .minimizeDownsideLoss =>
        ¬ other.p95DownsideLossCents < chosen.p95DownsideLossCents
    | some .efficientFrontier =>
        ¬ (chosen.expectedSavingsCents ≤ other.expectedSavingsCents ∧
          other.p95DownsideLossCents ≤ chosen.p95DownsideLossCents ∧
          (chosen.expectedSavingsCents < other.expectedSavingsCents ∨
            other.p95DownsideLossCents < chosen.p95DownsideLossCents))
    | none => True

/-- The selection honours the objective: a feasible candidate that serves it, and
none exactly when no candidate is feasible. -/
def HonoursObjective (objective : Option OptimizerPolicyObjective)
    (candidates : List CommitmentInstrumentCandidate)
    (selected : Option CommitmentInstrumentCandidate) : Prop :=
  (selected = none ↔ ∀ candidate ∈ candidates, candidate.feasible = false) ∧
    ∀ chosen, selected = some chosen →
      chosen ∈ candidates ∧ chosen.feasible = true ∧ ServesObjective objective candidates chosen

/-- Some feasible candidate has both the greatest expected savings and the least
p95 downside loss. -/
def HasIdealCandidate (candidates : List CommitmentInstrumentCandidate) : Prop :=
  ∃ ideal ∈ candidates, ideal.feasible = true ∧ ∀ other ∈ candidates, other.feasible = true →
    other.expectedSavingsCents ≤ ideal.expectedSavingsCents ∧
      ideal.p95DownsideLossCents ≤ other.p95DownsideLossCents

section Ranking

theorem compare_candidates_ranks (left right : CommitmentInstrumentCandidate) :
    compareCandidates left right ≤ 0 ↔
      ranks (·.feasible) (·.expectedSavingsCents) (·.p95DownsideLossCents) left right = true := by
  unfold compareCandidates
  by_cases same : left.feasible = right.feasible
  · rw [ranks_accepted same, if_neg (not_not.mpr same)]
    by_cases equal : left.expectedSavingsCents = right.expectedSavingsCents
    · rw [if_neg (by omega)]
      dsimp only
      split_ifs <;> omega
    · rw [if_pos (by omega)]
      split_ifs <;> omega
  · rw [if_pos same]
    simp only [ranks, ne_eq, same, not_false_eq_true, if_true]
    cases left.feasible with
    | false => simp
    | true => simp

variable {run : OptimizerRun} {snapshot forecast : Json} {priceItems : List OptimizerPriceItem}
  {candidates : List CommitmentInstrumentCandidate}

/-- The worker's candidates are the evaluated items, sorted by the ranking. -/
theorem optimized_candidates
    (optimized : optimizeCommitmentRun run snapshot forecast priceItems = some candidates) :
    ∃ evaluated, evaluateItems run snapshot forecast priceItems = some evaluated ∧
      candidates = evaluated.insertionSort
        (ranks (·.feasible) (·.expectedSavingsCents) (·.p95DownsideLossCents) · ·) := by
  unfold optimizeCommitmentRun at optimized
  split at optimized
  · cases optimized
  · obtain ⟨evaluated, evaluation, sorted⟩ := Option.bind_eq_some_iff.mp optimized
    refine ⟨evaluated, evaluation, ?_⟩
    rw [← Option.some.inj sorted]
    congr 1
    funext left right
    exact propext (compare_candidates_ranks left right)

/-- `selectCandidate` of the sorted candidates is the choice of the ranking. -/
theorem select_candidate_choose
    (optimized : optimizeCommitmentRun run snapshot forecast priceItems = some candidates) :
    ∃ evaluated, evaluateItems run snapshot forecast priceItems = some evaluated ∧
      (∀ candidate, candidate ∈ candidates ↔ candidate ∈ evaluated) ∧
      selectCandidate candidates = choose (·.feasible) (·.expectedSavingsCents)
        (·.p95DownsideLossCents) evaluated := by
  obtain ⟨evaluated, evaluation, rfl⟩ := optimized_candidates optimized
  exact ⟨evaluated, evaluation, fun candidate => List.mem_insertionSort _, rfl⟩

end Ranking

section Objectives

variable {candidates : List CommitmentInstrumentCandidate}
  {chosen : CommitmentInstrumentCandidate}

theorem choose_serves_iff (objective : Option OptimizerPolicyObjective)
    (choice : choose (·.feasible) (·.expectedSavingsCents) (·.p95DownsideLossCents) candidates =
      some chosen) :
    ServesObjective objective candidates chosen ↔
      (objective = some .minimizeDownsideLoss → HasIdealCandidate candidates) := by
  obtain ⟨_, _, bounds⟩ := choose_some choice
  have least := choose_least_loss_iff choice
  match objective with
  | none => exact ⟨fun _ => nofun, fun _ _ _ _ => trivial⟩
  | some .maximizeExpectedSavings =>
      refine ⟨fun _ => nofun, fun _ other member feasible => ?_⟩
      exact not_lt.mpr (bounds other member feasible).1
  | some .minimizeDownsideLoss =>
      simp only [ServesObjective, not_lt, forall_const]
      exact least
  | some .efficientFrontier =>
      refine ⟨fun _ => nofun, fun _ other member feasible => ?_⟩
      rintro ⟨savings, downside, better⟩
      obtain ⟨sameSavings, sameDownside⟩ :=
        choose_undominated choice member feasible savings downside
      omega

theorem choose_honours_iff (objective : Option OptimizerPolicyObjective) :
    HonoursObjective objective candidates
        (choose (·.feasible) (·.expectedSavingsCents) (·.p95DownsideLossCents) candidates) ↔
      (objective = some .minimizeDownsideLoss →
        (∃ candidate ∈ candidates, candidate.feasible = true) → HasIdealCandidate candidates) := by
  rw [HonoursObjective, and_iff_right choose_none]
  constructor
  · rintro honoured minimizes ⟨candidate, member, feasible⟩
    match choice : choose (·.feasible) (·.expectedSavingsCents) (·.p95DownsideLossCents)
        candidates with
    | none => simp [choose_none.mp choice candidate member] at feasible
    | some chosen =>
        exact (choose_serves_iff objective choice).mp (honoured chosen choice).2.2 minimizes
  · intro ideal chosen choice
    obtain ⟨member, feasible, _⟩ := choose_some choice
    refine ⟨member, feasible, (choose_serves_iff objective choice).mpr fun minimizes => ?_⟩
    exact ideal minimizes ⟨chosen, member, feasible⟩

end Objectives

/-- What the run's inputs must satisfy for the selection to honour the objective. -/
def ObjectiveServed (run : OptimizerRun) (snapshot forecast : Json)
    (priceItems : List OptimizerPriceItem) : Prop :=
  snapshotObjective snapshot = some .minimizeDownsideLoss →
    ∀ evaluated, evaluateItems run snapshot forecast priceItems = some evaluated →
      (∃ candidate ∈ evaluated, candidate.feasible = true) → HasIdealCandidate evaluated

theorem selection_honours_objective_iff (run : OptimizerRun) (snapshot forecast : Json)
    (priceItems : List OptimizerPriceItem) (candidates : List CommitmentInstrumentCandidate)
    (optimized : optimizeCommitmentRun run snapshot forecast priceItems = some candidates) :
    HonoursObjective (snapshotObjective snapshot) candidates (selectCandidate candidates) ↔
      ObjectiveServed run snapshot forecast priceItems := by
  obtain ⟨evaluated, evaluation, same, selection⟩ := select_candidate_choose optimized
  have shared : HonoursObjective (snapshotObjective snapshot) candidates
      (selectCandidate candidates) ↔
      HonoursObjective (snapshotObjective snapshot) evaluated (selectCandidate candidates) := by
    simp only [HonoursObjective, ServesObjective, same]
  rw [shared, selection, choose_honours_iff]
  simp only [ObjectiveServed, evaluation, Option.some.injEq, forall_eq']


section Examples

def exampleRun : OptimizerRun where
  id := 1
  tenantId := 7
  forecastRunId := 2
  scenarioId := none
  optimizerPolicyId := 3
  provider := .aws
  instrument := .awsComputeSavingsPlan
  priceTableVersionIds := [4]
  randomSeed := 42
  inputSnapshotUri := "optimizer-runs/1/input.json"
  createdByUserId := none
  createdAt := 0
  status := .running
  outputUri := none
  frontierUri := none
  infeasibilityDetails := .object []
  errorDetails := .object []
  updatedAt := 0

def exampleSnapshot (objective : String) : Json :=
  .object [("policy", .object [
    ("objective", .string objective),
    ("maxDownsideLossCents", .string "1000"),
    ("minExpectedSavingsCents", .string "0"),
    ("maxUtilizationGapPct", .string "20.00"),
    ("approvalThresholdCents", .string "0"),
    ("config", .object [])])]

def examplePoint (month region cost : String) : Json :=
  .object [("month", .string month), ("provider", .string "aws"),
    ("service_code", .string "AmazonEC2"), ("region", .string region),
    ("forecast_on_demand_cost_cents", .string cost)]

def exampleForecast : Json :=
  .object [("forecast_points", .array [
    examplePoint "2026-01" "us-east-1" "100000",
    examplePoint "2026-02" "us-east-1" "200000",
    examplePoint "2026-03" "us-east-1" "200000",
    examplePoint "2026-01" "eu-west-1" "100000"])]

def exampleItem (region : String) : OptimizerPriceItem where
  sku := "csp"
  region := region
  termMonths := 12
  paymentOption := .noUpfront
  hourlyRateCents := 1
  upfrontCents := 0
  coverageRules := .object []

theorem selection_honours_objective_maximize :
    ∃ candidates, optimizeCommitmentRun exampleRun (exampleSnapshot "maximize_expected_savings")
        exampleForecast [exampleItem "us-east-1", exampleItem "eu-west-1"] = some candidates ∧
      HonoursObjective (some .maximizeExpectedSavings) candidates (selectCandidate candidates) := by
  have optimized : (optimizeCommitmentRun exampleRun
      (exampleSnapshot "maximize_expected_savings") exampleForecast
      [exampleItem "us-east-1", exampleItem "eu-west-1"]).isSome = true := by
    decide
  obtain ⟨candidates, optimized⟩ := Option.isSome_iff_exists.mp optimized
  refine ⟨candidates, optimized, ?_⟩
  exact (selection_honours_objective_iff exampleRun _ _ _ candidates optimized).mpr nofun

/-- Under `minimize_downside_loss` the run selects a candidate with a loss of 730
cents although a feasible one without any loss exists. -/
theorem minimize_downside_not_honoured :
    ¬ ∀ (run : OptimizerRun) (snapshot forecast : Json) (priceItems : List OptimizerPriceItem)
      (candidates : List CommitmentInstrumentCandidate),
      optimizeCommitmentRun run snapshot forecast priceItems = some candidates →
      HonoursObjective (snapshotObjective snapshot) candidates (selectCandidate candidates) := by
  intro honoured
  have selections : (optimizeCommitmentRun exampleRun (exampleSnapshot "minimize_downside_loss")
      exampleForecast [exampleItem "us-east-1", exampleItem "eu-west-1"]).map
        (fun candidates => (selectCandidate candidates).map fun chosen =>
          (chosen.p95DownsideLossCents, candidates.any fun other =>
            other.feasible && other.p95DownsideLossCents == 0)) = some (some (730, true)) := by
    decide
  obtain ⟨candidates, optimized, selection⟩ := Option.map_eq_some_iff.mp selections
  obtain ⟨chosen, chosenSelected, losses⟩ := Option.map_eq_some_iff.mp selection
  obtain ⟨chosenLoss, otherFound⟩ := Prod.mk.inj losses
  obtain ⟨other, member, better⟩ := List.any_eq_true.mp otherFound
  rw [Bool.and_eq_true, beq_iff_eq] at better
  obtain ⟨_, _, serves⟩ := (honoured _ _ _ _ candidates optimized).2 chosen chosenSelected
  have least : ¬ other.p95DownsideLossCents < chosen.p95DownsideLossCents :=
    serves other member better.1
  rw [better.2, chosenLoss] at least
  exact least (by decide)

end Examples

end CommitmentOptimizer.Optimizer.CandidateChoice
