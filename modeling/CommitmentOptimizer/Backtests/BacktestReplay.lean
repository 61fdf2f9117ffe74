import CommitmentOptimizer.Backtests.BacktestRuns
import CommitmentOptimizer.Foundations.GroupedRows
import CommitmentOptimizer.Imports.UsageRows
import CommitmentOptimizer.Optimizer.Candidates
import Mathlib.Data.List.Sort
import Mathlib.Data.String.Basic

/-!
# The replay of a backtest

`buildBacktestArtifact` and what it calls (`backtest-worker.ts`). The texts of
months are any linear order, which stands for `localeCompare` on them. Amounts
of cents are integers, where the source keeps their decimal texts.
-/

namespace CommitmentOptimizer.Backtests.BacktestReplay

open Foundations
open Foundations.GroupedRows
open Foundations.SqlConstraints
open Imports.UsageRows
open Backtests.BacktestRuns
open Optimizer.Candidates
open Recommendations.RecommendationLifecycle

set_option autoImplicit false

/-- The texts `YYYY-MM` in the order of their characters. -/
instance : LinearOrder MonthText :=
  LinearOrder.lift' MonthText.text fun left right same => by
    cases left
    cases right
    cases same
    rfl

inductive ReplayBaseline where
  | noCommitment | lastMonthSteadyState | seventyPercentUtilization
  deriving DecidableEq, Repr

def ReplayBaseline.asBaseline : ReplayBaseline → BacktestBaseline
  | .noCommitment => .noCommitment
  | .lastMonthSteadyState => .lastMonthSteadyState
  | .seventyPercentUtilization => .seventyPercentUtilization

section Rows

variable (Month : Type)

structure BacktestUsageMonth where
  month : Month
  provider : Provider
  serviceCode : String
  region : String
  onDemandCostCents : Int
  realizedCostCents : Int
  commitmentAppliedCents : Int
  lineItemCount : Nat

structure MonthlyTotal where
  month : Month
  onDemandCostCents : Int
  realizedCostCents : Int
  deriving DecidableEq, Repr

structure DecisionInputs where
  priorMonthsSeen : Nat
  latestVisibleMonth : Option Month
  deriving DecidableEq, Repr

structure ReplayMonth where
  month : Month
  onDemandCostCents : Int
  realizedCostCents : Int
  simulatedCommitmentCents : Int
  simulatedCostCents : Int
  simulatedSavingsCents : Int
  regretCents : Int
  decisionInputs : DecisionInputs Month
  deriving DecidableEq, Repr

structure ReplayResult where
  baseline : ReplayBaseline
  totalOnDemandCostCents : Int
  totalRealizedCostCents : Int
  simulatedTotalCostCents : Int
  simulatedSavingsCents : Int
  regretCents : Int
  downsideLossCents : Int
  monthlyResults : List (ReplayMonth Month)
  deriving DecidableEq, Repr

/-- What `metrics.baseline_results` keeps of a result. -/
structure BaselineMetrics where
  baseline : ReplayBaseline
  simulatedSavingsCents : Int
  regretCents : Int
  downsideLossCents : Int
  monthlyResults : List (ReplayMonth Month)
  deriving DecidableEq, Repr

structure BacktestMetrics where
  baseline : BacktestBaseline
  replayMonths : Nat
  sourceLineItems : Nat
  totalOnDemandCostCents : Int
  selectedSimulatedSavingsCents : Int
  selectedRegretCents : Int
  selectedDownsideLossCents : Int
  bestBaseline : ReplayBaseline
  bestSimulatedSavingsCents : Int
  baselineResults : List (BaselineMetrics Month)
  noFutureLeakage : Bool
  deriving DecidableEq, Repr

structure BacktestArtifact where
  schemaVersion : String
  backtestRunId : Uuid
  inputSnapshot : Json
  replayWindow : Int × Int
  metrics : BacktestMetrics Month
  baselineResults : List (ReplayResult Month)

end Rows

variable {Month : Type} [LinearOrder Month]

def total (values : List Int) : Int := values.foldl (· + ·) 0

def mean (values : List Int) : Int :=
  let sum := total values
  let count : Int := values.length
  (sum + count.tdiv 2).tdiv count

section Totals

abbrev MonthValues := Int × Int

def addMonth (current : MonthValues) (row : BacktestUsageMonth Month) : MonthValues :=
  (current.1 + row.onDemandCostCents, current.2 + row.realizedCostCents)

def monthlyTotals (usageMonths : List (BacktestUsageMonth Month)) : List (MonthlyTotal Month) :=
  let totals : GroupMap Month MonthValues :=
    groupInto (fun row => row.month) (fun _ => (0, 0)) addMonth usageMonths
  (totals.entries.mergeSort fun left right => left.1 ≤ right.1).map fun entry =>
    { month := entry.1, onDemandCostCents := entry.2.1, realizedCostCents := entry.2.2 }

/-- What the rows of a month sum to, when it has any. -/
def monthTotal (month : Month) (usageMonths : List (BacktestUsageMonth Month)) :
    Option MonthValues :=
  match usageMonths.filter fun row => row.month = month with
  | [] => none
  | rows => some ((rows.map fun row => row.onDemandCostCents).sum,
      (rows.map fun row => row.realizedCostCents).sum)

omit [LinearOrder Month] in
theorem add_months (start : MonthValues) (rows : List (BacktestUsageMonth Month)) :
    rows.foldl addMonth start =
      (start.1 + (rows.map fun row => row.onDemandCostCents).sum,
        start.2 + (rows.map fun row => row.realizedCostCents).sum) := by
  induction rows generalizing start with
  | nil => simp
  | cons row rest induction =>
      rw [List.foldl_cons, induction]
      simp only [addMonth, List.map_cons, List.sum_cons]
      exact Prod.ext (Int.add_assoc _ _ _) (Int.add_assoc _ _ _)

theorem total_of_month (month : Month) (rows : List (BacktestUsageMonth Month)) :
    totalOf (fun row => row.month) (fun _ => (0, 0)) addMonth month rows =
      monthTotal month rows := by
  rw [totalOf, rowsOf, monthTotal]
  cases rows.filter fun row => row.month = month with
  | nil => rfl
  | cons first rest =>
      change some ((first :: rest).foldl addMonth (0, 0)) = some _
      rw [add_months, Int.zero_add, Int.zero_add]

theorem mem_monthly_totals {rows : List (BacktestUsageMonth Month)} {entry : MonthlyTotal Month} :
    entry ∈ monthlyTotals rows ↔
      monthTotal entry.month rows = some (entry.onDemandCostCents, entry.realizedCostCents) := by
  rw [← total_of_month, ← lookup_group_into, ← Option.mem_def, AList.mem_lookup_iff]
  simp only [monthlyTotals, List.mem_map, List.mem_mergeSort]
  constructor
  · rintro ⟨group, member, rfl⟩
    exact member
  · intro member
    exact ⟨_, member, rfl⟩

/-- The order of two groups by their months. -/
def monthOrder (left right : Sigma fun _ : Month => MonthValues) : Bool := left.1 ≤ right.1

theorem monthly_totals_sorted (rows : List (BacktestUsageMonth Month)) :
    (monthlyTotals rows).Pairwise fun left right => left.month < right.month := by
  rw [monthlyTotals, List.pairwise_map]
  let groups : GroupMap Month MonthValues :=
    groupInto (fun row => row.month) (fun _ => (0, 0)) addMonth rows
  have sorted : (groups.entries.mergeSort monthOrder).Pairwise
      fun left right => left.1 ≤ right.1 :=
    (List.pairwise_mergeSort (by simpa [monthOrder] using fun _ _ _ => le_trans)
      (by simpa [monthOrder] using fun left right : Sigma fun _ => _ => le_total left.1 right.1)
      _).imp
      of_decide_eq_true
  have distinct : (groups.entries.mergeSort monthOrder).Pairwise
      fun left right => left.1 ≠ right.1 :=
    (List.mergeSort_perm groups.entries monthOrder).pairwise_iff (fun apart => apart.symm)
      |>.mpr (List.nodupKeys_iff_pairwise.mp groups.nodupKeys)
  exact sorted.imp₂ (fun _ _ before apart => lt_of_le_of_ne before apart) distinct

end Totals

section Replay

/-- `commitmentForBaseline`; `priorActuals.at(-1)!` is there when the list is not empty. -/
def commitmentForBaseline (baseline : ReplayBaseline) (priorActuals : List Int) : Int :=
  match baseline, priorActuals.getLast? with
  | .noCommitment, _ | _, none => 0
  | .lastMonthSteadyState, some prior => prior
  | .seventyPercentUtilization, some _ => (mean priorActuals * 70).tdiv 100

def simulatedCost (onDemandCostCents commitmentCents discountBps : Int) : Int :=
  if commitmentCents = 0 then onDemandCostCents
  else
    let covered :=
      if onDemandCostCents < commitmentCents then onDemandCostCents else commitmentCents
    let uncovered := onDemandCostCents - covered
    let committedCost := (commitmentCents * (10000 - discountBps) + 5000).tdiv 10000
    uncovered + committedCost

/-- The two arrays that the loop of `replayBaseline` fills. -/
structure ReplayState (Month : Type) where
  monthlyResults : List (ReplayMonth Month)
  priorActuals : List Int

/-- `months[index - 1]?.month ?? null`. -/
def latestVisibleMonth (months : List (MonthlyTotal Month)) : Nat → Option Month
  | 0 => none
  | index + 1 => months[index]?.map fun month => month.month

def replayMonth (baseline : ReplayBaseline) (months : List (MonthlyTotal Month))
    (discountBps : Int) (state : ReplayState Month) (month : MonthlyTotal Month) :
    ReplayState Month :=
  let commitment := commitmentForBaseline baseline state.priorActuals
  let simulatedMonthCost := simulatedCost month.onDemandCostCents commitment discountBps
  let savings := month.onDemandCostCents - simulatedMonthCost
  { monthlyResults := state.monthlyResults ++
      [{ month := month.month
         onDemandCostCents := month.onDemandCostCents
         realizedCostCents := month.realizedCostCents
         simulatedCommitmentCents := commitment
         simulatedCostCents := simulatedMonthCost
         simulatedSavingsCents := savings
         regretCents := if savings < 0 then -savings else 0
         decisionInputs :=
           { priorMonthsSeen := state.priorActuals.length
             latestVisibleMonth := latestVisibleMonth months state.monthlyResults.length } }]
    priorActuals := state.priorActuals ++ [month.onDemandCostCents] }

def replayBaseline (baseline : ReplayBaseline) (months : List (MonthlyTotal Month))
    (discountBps : Int) : ReplayResult Month :=
  let monthlyResults :=
    (months.foldl (replayMonth baseline months discountBps) ⟨[], []⟩).monthlyResults
  let regret := total (monthlyResults.map fun month => month.regretCents)
  { baseline
    totalOnDemandCostCents := total (months.map fun month => month.onDemandCostCents)
    totalRealizedCostCents := total (months.map fun month => month.realizedCostCents)
    simulatedTotalCostCents := total (monthlyResults.map fun month => month.simulatedCostCents)
    simulatedSavingsCents := total (monthlyResults.map fun month => month.simulatedSavingsCents)
    regretCents := regret
    downsideLossCents := regret
    monthlyResults }

end Replay

section Artifact

def backtestDiscountBps (snapshot : Json) : Int :=
  let policy := objectAt snapshot "policy"
  let config := objectAt policy "config"
  match config.field "backtest_discount_bps" with
  | some (.number (some value)) =>
      if value.den = 1 ∧ 0 ≤ value ∧ value ≤ 10000 then value.num else 3000
  | _ => 3000

def buildBacktestArtifact (run : BacktestRun) (inputSnapshot : Json)
    (usageMonths : List (BacktestUsageMonth Month)) : BacktestArtifact Month :=
  let months := monthlyTotals usageMonths
  let discountBps := backtestDiscountBps inputSnapshot
  let first := replayBaseline .noCommitment months discountBps
  let rest :=
    [replayBaseline .lastMonthSteadyState months discountBps,
     replayBaseline .seventyPercentUtilization months discountBps]
  let selected := (first :: rest).find? fun result => result.baseline.asBaseline = run.baseline
  let best := rest.foldl (fun current candidate =>
    if candidate.simulatedSavingsCents > current.simulatedSavingsCents then candidate
    else current) first
  { schemaVersion := "backtest-run-output:v1"
    backtestRunId := run.id
    inputSnapshot
    replayWindow := (run.windowStart, run.windowEnd)
    metrics :=
      { baseline := run.baseline
        replayMonths := months.length
        sourceLineItems := (usageMonths.map fun month => month.lineItemCount).sum
        totalOnDemandCostCents := total (months.map fun month => month.onDemandCostCents)
        selectedSimulatedSavingsCents :=
          (selected.map fun result => result.simulatedSavingsCents).getD 0
        selectedRegretCents := (selected.map fun result => result.regretCents).getD 0
        selectedDownsideLossCents := (selected.map fun result => result.downsideLossCents).getD 0
        bestBaseline := best.baseline
        bestSimulatedSavingsCents := best.simulatedSavingsCents
        baselineResults := (first :: rest).map fun result =>
          { baseline := result.baseline
            simulatedSavingsCents := result.simulatedSavingsCents
            regretCents := result.regretCents
            downsideLossCents := result.downsideLossCents
            monthlyResults := result.monthlyResults }
        noFutureLeakage := true }
    baselineResults := first :: rest }

end Artifact

section Decisions

/-- What a month's decision was and what it was made from. -/
structure Decision (Month : Type) where
  month : Month
  commitmentCents : Int
  inputs : DecisionInputs Month
  deriving DecidableEq, Repr

def ReplayMonth.decision (result : ReplayMonth Month) : Decision Month :=
  { month := result.month
    commitmentCents := result.simulatedCommitmentCents
    inputs := result.decisionInputs }

def decisionsThrough (last : Month) (results : List (ReplayMonth Month)) : List (Decision Month) :=
  (results.map ReplayMonth.decision).filter fun decision => decision.month ≤ last

/-- The decision for a month that follows the months of `earlier`. -/
def decisionAfter (baseline : ReplayBaseline) (earlier : List (MonthlyTotal Month))
    (month : Month) : Decision Month :=
  { month
    commitmentCents :=
      commitmentForBaseline baseline (earlier.map fun entry => entry.onDemandCostCents)
    inputs :=
      { priorMonthsSeen := earlier.length
        latestVisibleMonth := earlier.getLast?.map fun entry => entry.month } }

def decisionsFrom (baseline : ReplayBaseline) (earlier : List (MonthlyTotal Month)) :
    List (MonthlyTotal Month) → List (Decision Month)
  | [] => []
  | entry :: rest =>
      decisionAfter baseline earlier entry.month ::
        decisionsFrom baseline (earlier ++ [entry]) rest

omit [LinearOrder Month]

theorem latest_visible_month_append (earlier rest : List (MonthlyTotal Month)) :
    latestVisibleMonth (earlier ++ rest) earlier.length =
      earlier.getLast?.map fun entry => entry.month := by
  cases earlier using List.reverseRecOn with
  | nil => rfl
  | append_singleton earlier last =>
      rw [List.getLast?_concat, List.length_append, List.length_singleton, latestVisibleMonth,
        List.append_assoc, List.getElem?_append_right (le_refl _), Nat.sub_self]
      rfl

/-- One turn of the loop decides from the months before. -/
theorem replay_month_decides (baseline : ReplayBaseline) (discountBps : Int)
    (entry : MonthlyTotal Month) {months earlier rest : List (MonthlyTotal Month)}
    {state : ReplayState Month} (position : months = earlier ++ rest)
    (priors : state.priorActuals = earlier.map fun entry => entry.onDemandCostCents)
    (replayed : state.monthlyResults.length = earlier.length) :
    (replayMonth baseline months discountBps state entry).monthlyResults.map ReplayMonth.decision =
      state.monthlyResults.map ReplayMonth.decision ++
        [decisionAfter baseline earlier entry.month] := by
  rw [replayMonth, List.map_append, List.map_singleton, ReplayMonth.decision, decisionAfter,
    priors, replayed, position, latest_visible_month_append, List.length_map]

/-- The turns that are left decide from the months before them. -/
theorem replay_months_decide {baseline : ReplayBaseline}
    {months earlier rest : List (MonthlyTotal Month)}
    {discountBps : Int} {state : ReplayState Month} (position : months = earlier ++ rest)
    (priors : state.priorActuals = earlier.map fun entry => entry.onDemandCostCents)
    (replayed : state.monthlyResults.length = earlier.length) :
    (rest.foldl (replayMonth baseline months discountBps) state).monthlyResults.map
        ReplayMonth.decision =
      state.monthlyResults.map ReplayMonth.decision ++ decisionsFrom baseline earlier rest := by
  induction rest generalizing earlier state with
  | nil => simp [decisionsFrom]
  | cons entry rest induction =>
      have decided := replay_month_decides baseline discountBps entry position priors replayed
      have nextPosition : months = (earlier ++ [entry]) ++ rest := by simp [position]
      rw [List.foldl_cons, induction nextPosition (by simp [replayMonth, priors])
        (by simp [replayMonth, replayed]), decided, List.append_assoc]
      rfl

theorem replay_baseline_decides (baseline : ReplayBaseline) (months : List (MonthlyTotal Month))
    (discountBps : Int) :
    (replayBaseline baseline months discountBps).monthlyResults.map ReplayMonth.decision =
      decisionsFrom baseline [] months := by
  rw [replayBaseline, replay_months_decide (List.nil_append _).symm rfl rfl]
  rfl

theorem decisions_from_append (baseline : ReplayBaseline)
    (earlier left right : List (MonthlyTotal Month)) :
    decisionsFrom baseline earlier (left ++ right) =
      decisionsFrom baseline earlier left ++ decisionsFrom baseline (earlier ++ left) right := by
  induction left generalizing earlier with
  | nil => simp [decisionsFrom]
  | cons entry rest induction =>
      rw [List.cons_append, decisionsFrom, decisionsFrom, induction, List.append_assoc]
      rfl

theorem decisions_from_months (baseline : ReplayBaseline)
    (earlier months : List (MonthlyTotal Month)) :
    (decisionsFrom baseline earlier months).map (fun decision => decision.month) =
      months.map fun entry => entry.month := by
  induction months generalizing earlier with
  | nil => rfl
  | cons entry rest induction => rw [decisionsFrom, List.map_cons, List.map_cons, induction]; rfl

theorem month_of_decision {baseline : ReplayBaseline} {earlier months : List (MonthlyTotal Month)}
    {decision : Decision Month} (decided : decision ∈ decisionsFrom baseline earlier months) :
    ∃ entry ∈ months, entry.month = decision.month := by
  have listed : decision.month ∈
      (decisionsFrom baseline earlier months).map fun decision => decision.month :=
    List.mem_map_of_mem decided
  rw [decisions_from_months] at listed
  exact List.mem_map.mp listed

end Decisions

section TwoRuns

theorem totals_before {first second : List (BacktestUsageMonth Month)} {last : Month}
    (agree : ∀ month < last, monthTotal month first = monthTotal month second) :
    (monthlyTotals first).filter (fun entry => entry.month < last) =
      (monthlyTotals second).filter (fun entry => entry.month < last) := by
  have irreflexive : Std.Irrefl fun left right : MonthlyTotal Month => left.month < right.month :=
    ⟨fun entry => lt_irrefl entry.month⟩
  apply ((monthly_totals_sorted first).filter _).eq_of_mem_iff
    ((monthly_totals_sorted second).filter _)
  intro entry
  simp only [List.mem_filter, decide_eq_true_eq, mem_monthly_totals]
  constructor
  · rintro ⟨stored, before⟩
    exact ⟨agree entry.month before ▸ stored, before⟩
  · rintro ⟨stored, before⟩
    exact ⟨(agree entry.month before).symm ▸ stored, before⟩

/-- A sorted list around one of its months. -/
theorem split_at_month {months : List (MonthlyTotal Month)} {month : Month}
    (sorted : months.Pairwise fun left right => left.month < right.month)
    (member : month ∈ months.map fun entry => entry.month) :
    ∃ entry later, entry.month = month ∧ (∀ next ∈ later, month < next.month) ∧
      months = months.filter (fun entry => entry.month < month) ++ entry :: later := by
  obtain ⟨entry, entryMember, rfl⟩ := List.mem_map.mp member
  obtain ⟨before, later, rfl⟩ := List.append_of_mem entryMember
  obtain ⟨_, ordered, apart⟩ := List.pairwise_append.mp sorted
  have laterOnly : ∀ next ∈ later, entry.month < next.month := (List.pairwise_cons.mp ordered).1
  refine ⟨entry, later, rfl, laterOnly, ?_⟩
  have kept : before.filter (fun other => other.month < entry.month) = before :=
    List.filter_eq_self.mpr fun other otherMember =>
      decide_eq_true (apart other otherMember entry List.mem_cons_self)
  have dropped : later.filter (fun other => other.month < entry.month) = [] :=
    List.filter_eq_nil_iff.mpr fun other otherMember => by
      simpa using (laterOnly other otherMember).le
  rw [List.filter_append, List.filter_cons_of_neg (by simp), kept, dropped, List.append_nil]

/-- Through a replayed month, the decisions are those for the months before it and its own. -/
theorem decisions_through_month {baseline : ReplayBaseline} {months : List (MonthlyTotal Month)}
    {discountBps : Int} {month : Month}
    (sorted : months.Pairwise fun left right => left.month < right.month)
    (member : month ∈ months.map fun entry => entry.month) :
    decisionsThrough month (replayBaseline baseline months discountBps).monthlyResults =
      decisionsFrom baseline [] (months.filter fun entry => entry.month < month) ++
        [decisionAfter baseline (months.filter fun entry => entry.month < month) month] := by
  obtain ⟨entry, later, rfl, laterOnly, split⟩ := split_at_month sorted member
  obtain ⟨before, beforeIs⟩ :
      ∃ before, months.filter (fun other => other.month < entry.month) = before := ⟨_, rfl⟩
  have beforeOnly : ∀ other ∈ before, other.month < entry.month := by
    intro other otherMember
    rw [← beforeIs, List.mem_filter] at otherMember
    exact of_decide_eq_true otherMember.2
  rw [beforeIs] at split ⊢
  rw [decisionsThrough, replay_baseline_decides, split, decisions_from_append, List.nil_append,
    decisionsFrom, List.filter_append]
  congr 1
  · apply List.filter_eq_self.mpr
    intro decision decided
    obtain ⟨earlier, earlierMember, same⟩ := month_of_decision decided
    rw [← same]
    exact decide_eq_true (beforeOnly earlier earlierMember).le
  · rw [List.filter_cons_of_pos (by simp [decisionAfter]), List.filter_eq_nil_iff.mpr]
    intro decision decided
    obtain ⟨next, nextMember, same⟩ := month_of_decision decided
    rw [← same]
    simpa using laterOnly next nextMember

/-- A replayed month's commitment and decision inputs, and those of the months before it,
come from the totals of earlier months alone. -/
theorem no_future_leakage (run : BacktestRun) (inputSnapshot : Json)
    (first second : List (BacktestUsageMonth Month)) (last : Month)
    (agree : ∀ month < last, monthTotal month first = monthTotal month second)
    (inFirst : last ∈ (monthlyTotals first).map fun entry => entry.month)
    (inSecond : last ∈ (monthlyTotals second).map fun entry => entry.month) :
    (∀ baseline discountBps,
      decisionsThrough last
          (replayBaseline baseline (monthlyTotals first) discountBps).monthlyResults =
        decisionsThrough last
          (replayBaseline baseline (monthlyTotals second) discountBps).monthlyResults) ∧
    ((buildBacktestArtifact run inputSnapshot first).baselineResults.map fun result =>
        (result.baseline, decisionsThrough last result.monthlyResults)) =
      ((buildBacktestArtifact run inputSnapshot second).baselineResults.map fun result =>
        (result.baseline, decisionsThrough last result.monthlyResults)) ∧
    ((buildBacktestArtifact run inputSnapshot first).metrics.baselineResults.map fun result =>
        (result.baseline, decisionsThrough last result.monthlyResults)) =
      ((buildBacktestArtifact run inputSnapshot second).metrics.baselineResults.map fun result =>
        (result.baseline, decisionsThrough last result.monthlyResults)) ∧
    (buildBacktestArtifact run inputSnapshot first).metrics.noFutureLeakage = true := by
  have replays : ∀ baseline discountBps,
      decisionsThrough last
          (replayBaseline baseline (monthlyTotals first) discountBps).monthlyResults =
        decisionsThrough last
          (replayBaseline baseline (monthlyTotals second) discountBps).monthlyResults := by
    intro baseline discountBps
    rw [decisions_through_month (monthly_totals_sorted first) inFirst,
      decisions_through_month (monthly_totals_sorted second) inSecond, totals_before agree]
  have baselineOf : ∀ baseline (months : List (MonthlyTotal Month)) discountBps,
      (replayBaseline baseline months discountBps).baseline = baseline := fun _ _ _ => rfl
  refine ⟨replays, ?_, ?_, rfl⟩
  · simp only [buildBacktestArtifact, List.map_cons, List.map_nil, baselineOf, replays]
  · simp only [buildBacktestArtifact, List.map_cons, List.map_nil, baselineOf, replays]

end TwoRuns

section Witness

def january : MonthText := { text := "2025-01", form := by decide }
def february : MonthText := { text := "2025-02", form := by decide }

def usageRow (month : MonthText) (cents : Int) : BacktestUsageMonth MonthText :=
  { month
    provider := .aws
    serviceCode := "AmazonEC2"
    region := "us-east-1"
    onDemandCostCents := cents
    realizedCostCents := cents
    commitmentAppliedCents := 0
    lineItemCount := 1 }

theorem february_decided_from_january :
    decisionsThrough february
        (replayBaseline .lastMonthSteadyState
          (monthlyTotals [usageRow january 100, usageRow february 50]) 3000).monthlyResults =
      decisionsThrough february
        (replayBaseline .lastMonthSteadyState
          (monthlyTotals [usageRow february 900, usageRow january 40, usageRow january 60])
          3000).monthlyResults := by
  let run : BacktestRun :=
    { id := 1, tenantId := 2, name := "replay", policyId := 3, baseline := .lastMonthSteadyState,
      windowStart := 20089, windowEnd := 20147, inputSnapshotUri := "backtests/1/input.json",
      createdByUserId := none, createdAt := 0, status := .running, outputUri := none,
      metrics := .object [], errorDetails := .object [], updatedAt := 0 }
  have agree : ∀ month < february,
      monthTotal month [usageRow january 100, usageRow february 50] =
        monthTotal month [usageRow february 900, usageRow january 40, usageRow january 60] := by
    intro month before
    have notFebruary : february ≠ month := before.ne'
    by_cases own : january = month
    · simp [monthTotal, usageRow, notFebruary, own]
    · simp [monthTotal, usageRow, notFebruary, own]
  have listed : ∀ rows : List (BacktestUsageMonth MonthText), ∀ values,
      monthTotal february rows = some values →
      february ∈ (monthlyTotals rows).map fun entry => entry.month := by
    intro rows values stored
    have entryStored : ⟨february, values.1, values.2⟩ ∈ monthlyTotals rows :=
      mem_monthly_totals.mpr stored
    exact List.mem_map.mpr ⟨_, entryStored, rfl⟩
  exact (no_future_leakage run (.object []) _ _ february agree
    (listed _ (50, 50) (by decide)) (listed _ (900, 900) (by decide))).1 .lastMonthSteadyState 3000

end Witness

end CommitmentOptimizer.Backtests.BacktestReplay
