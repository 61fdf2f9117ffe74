import CommitmentOptimizer.Backtests.ReplayWindow
import CommitmentOptimizer.Forecasting.ForecastUsage
import CommitmentOptimizer.Foundations.WindowSums
import Mathlib.Algebra.Order.Group.Int
import Mathlib.Algebra.Order.Monoid.Prod

/-!
# Usage windows

What the queries of the forecasts and of the backtests return for a window, against the
usage that starts on a day of the window.
-/

namespace CommitmentOptimizer.Backtests.UsageWindows

open Foundations
open Foundations.GroupedRows
open Foundations.SqlConstraints
open Foundations.WindowSums
open Backtests.BacktestReplay
open Backtests.BacktestRuns
open Forecasting.ForecastRuns
open Forecasting.ForecastUsage
open Forecasting.SeasonalForecast
open Imports.ControlTotals (providerText)
open Recommendations.RecommendationLifecycle
open ReplayWindow

set_option autoImplicit false

section Days

/-- The moment falls on a UTC day of the window. -/
def onDayOf (first last : Int) (moment : Int) : Bool :=
  first ≤ moment / microsecondsPerDay && moment / microsecondsPerDay ≤ last

/-- The end of a day. -/
def endOf (day : Int) : Int := (day + 1) * microsecondsPerDay

theorem on_day_of_eq (first last moment : Int) :
    onDayOf first last moment =
      (decide (first * microsecondsPerDay ≤ moment) && decide (moment < endOf last)) := by
  rw [Bool.eq_iff_iff]
  simp only [onDayOf, Bool.and_eq_true, decide_eq_true_eq]
  simp only [endOf, microsecondsPerDay]
  omega

end Days

section Groups

variable {Item Group Cost : Type} [DecidableEq Group] (starts ends : Item → Int)
  (scope : Item → Bool) (group : Item → Group)

/-- The rows of a group, whatever their time. -/
def rowsInScope (wanted : Group) (items : List Item) : List Item :=
  items.filter fun item => scope item && decide (group item = wanted)

variable [AddCommMonoid Cost] (cost : Item → Cost)

/-- What the rows of a group that lie in the window cost. -/
def lyingCost (first last : Int) (items : List Item) (wanted : Group) : Cost :=
  sumOf cost (liesIn starts ends (first * microsecondsPerDay) (endOf last))
    (rowsInScope scope group wanted items)

/-- What the rows of a group that start on a day of the window cost. -/
def startedCost (first last : Int) (items : List Item) (wanted : Group) : Cost :=
  sumOf cost (fun item => onDayOf first last (starts item)) (rowsInScope scope group wanted items)

variable {starts ends scope group cost} [PartialOrder Cost] [IsOrderedAddMonoid Cost]
  [IsLeftCancelAdd Cost] {first last : Int} {items : List Item}

theorem mem_rows_in_scope {wanted : Group} {item : Item} :
    item ∈ rowsInScope scope group wanted items ↔
      item ∈ items ∧ scope item = true ∧ group item = wanted := by
  rw [rowsInScope, List.mem_filter, Bool.and_eq_true, decide_eq_true_iff]

/-- The rows in the window cost what starts in it, where what starts in it and goes on
after it costs nothing. -/
theorem lying_cost_iff (period : ∀ item ∈ items, starts item < ends item)
    (nonneg : ∀ item ∈ items, 0 ≤ cost item) :
    (∀ wanted, lyingCost starts ends scope group cost first last items wanted =
      startedCost starts scope group cost first last items wanted) ↔
        ∀ item ∈ items, scope item = true → onDayOf first last (starts item) = true →
          endOf last < ends item → cost item = 0 := by
  have onDay : (fun item => onDayOf first last (starts item)) =
      startsIn starts (first * microsecondsPerDay) (endOf last) :=
    funext fun item => on_day_of_eq first last (starts item)
  have compared := fun wanted => @lying_sum_iff Item Int _ starts ends Cost _ cost
    (rowsInScope scope group wanted items) (first * microsecondsPerDay) (endOf last) _ _ _
    (fun item member => period item (mem_rows_in_scope.mp member).1)
    (fun item member => nonneg item (mem_rows_in_scope.mp member).1)
  have each := forall_congr' compared
  simp only [mem_rows_in_scope, crosses, Bool.and_eq_true, decide_eq_true_eq] at each
  unfold lyingCost startedCost
  rw [onDay, each]
  simp only [on_day_of_eq, Bool.and_eq_true, decide_eq_true_eq]
  constructor
  · intro free item member inScope started ended
    exact free _ item ⟨member, inScope, rfl⟩ started.1 ⟨started.2, ended⟩
  · rintro free _ item ⟨member, inScope, _⟩ after ⟨before, ended⟩
    exact free item member inScope ⟨after, before⟩ ended

/-- Two adjacent windows cost what their union costs, where what goes on from one into the
other costs nothing. -/
theorem adjacent_cost_iff {middle : Int} (period : ∀ item ∈ items, starts item < ends item)
    (nonneg : ∀ item ∈ items, 0 ≤ cost item) (low : first ≤ middle + 1) (high : middle ≤ last) :
    (∀ wanted, lyingCost starts ends scope group cost first middle items wanted +
      lyingCost starts ends scope group cost (middle + 1) last items wanted =
        lyingCost starts ends scope group cost first last items wanted) ↔
      ∀ item ∈ items, scope item = true →
        liesIn starts ends (first * microsecondsPerDay) (endOf last) item = true →
          starts item < endOf middle → endOf middle < ends item → cost item = 0 := by
  have lower : first * microsecondsPerDay ≤ endOf middle := by
    rw [endOf, microsecondsPerDay]
    omega
  have upper : endOf middle ≤ endOf last := by
    rw [endOf, endOf, microsecondsPerDay]
    omega
  have compared := fun wanted => @adjacent_sum_iff Item Int _ starts ends Cost _ cost
    (rowsInScope scope group wanted items) (first * microsecondsPerDay) (endOf middle)
    (endOf last) _ _ _ lower upper
    (fun item member => period item (mem_rows_in_scope.mp member).1)
    (fun item member => nonneg item (mem_rows_in_scope.mp member).1)
  have start : (middle + 1) * microsecondsPerDay = endOf middle := rfl
  have each := forall_congr' compared
  simp only [mem_rows_in_scope, crosses, Bool.and_eq_true, decide_eq_true_eq] at each
  unfold lyingCost
  rw [start, each]
  constructor
  · intro free item member inScope lies before after
    exact free _ item ⟨member, inScope, rfl⟩ lies ⟨before, after⟩
  · rintro free _ item ⟨member, inScope, _⟩ lies ⟨before, after⟩
    exact free item member inScope lies before after

omit [PartialOrder Cost] [IsOrderedAddMonoid Cost] [IsLeftCancelAdd Cost] in
/-- The rows of a group among those of a query. -/
theorem group_cost_eq {inWindow : Item → Bool} (wanted : Group)
    (window : ∀ item, inWindow item =
      (scope item && liesIn starts ends (first * microsecondsPerDay) (endOf last) item)) :
    ((rowsOf group wanted (items.filter inWindow)).map cost).sum =
      lyingCost starts ends scope group cost first last items wanted := by
  have same : ∀ item ∈ items, (decide (group item = wanted) && inWindow item) =
      (liesIn starts ends (first * microsecondsPerDay) (endOf last) item &&
        (scope item && decide (group item = wanted))) := by
    intro item _
    rw [window, Bool.and_comm, Bool.and_right_comm, Bool.and_comm]
  rw [rowsOf, List.filter_filter, List.filter_congr same, lyingCost, rowsInScope, sum_of_filter,
    sumOf]

end Groups

section Forecasts

/-- The rows that a forecast is about, whatever their time. -/
def inForecastScope (run : ForecastRun) (model : ForecastWorkerModel) (item : StoredUsage) : Bool :=
  item.tenantId = run.tenantId && model.providerScope.contains (providerText item.provider) &&
    model.serviceScope.contains item.serviceCode.text

/-- Quantity, on-demand cost and realized cost. -/
def usageCosts (item : StoredUsage) : Int × Int × Int :=
  (item.usageQuantity, item.onDemandCostCents, item.realizedCostCents)

def totalCosts (total : UsageTotal) : Int × Int × Int :=
  (total.usageQuantity, total.onDemandCostCents, total.realizedCostCents)

def forecastMonthCosts (month : ForecastUsageMonth) : Int × Int × Int :=
  (month.usageQuantity, month.onDemandCostCents, month.realizedCostCents)

def forecastMonthGroup (month : ForecastUsageMonth) : UsageGroup :=
  (month.month, month.provider, month.serviceCode, month.region)

/-- What the query returns for a group. -/
def forecastTotal (run : ForecastRun) (model : ForecastWorkerModel) (items : List StoredUsage)
    (group : UsageGroup) : Int × Int × Int :=
  sumOf forecastMonthCosts (fun month => forecastMonthGroup month = group)
    (listUsageMonths run model items)

/-- The usage of a group that starts on a day of the window. -/
def forecastUsage (run : ForecastRun) (model : ForecastWorkerModel) (items : List StoredUsage)
    (group : UsageGroup) : Int × Int × Int :=
  startedCost StoredUsage.usageStart (inForecastScope run model) StoredUsage.group usageCosts
    run.inputWindowStart run.inputWindowEnd items group

variable {run : ForecastRun} {model : ForecastWorkerModel} {items : List StoredUsage}

theorem in_forecast_window_eq (item : StoredUsage) :
    inForecastWindow run model item = (inForecastScope run model item &&
      liesIn StoredUsage.usageStart StoredUsage.usageEnd
        (run.inputWindowStart * microsecondsPerDay) (endOf run.inputWindowEnd) item) := by
  rw [inForecastWindow, Bool.and_assoc]
  rfl

theorem forecast_total_eq (group : UsageGroup) :
    forecastTotal run model items group =
      lyingCost StoredUsage.usageStart StoredUsage.usageEnd (inForecastScope run model)
        StoredUsage.group usageCosts run.inputWindowStart run.inputWindowEnd items group := by
  have grouped := @group_entries_sum UsageGroup StoredUsage UsageTotal _ _ _ StoredUsage.group
    (fun _ => ⟨0, 0, 0, 0⟩) addUsage totalCosts usageCosts (fun _ => rfl) (fun _ _ => rfl)
    (items.filter (inForecastWindow run model)) group
  have listed : forecastTotal run model items group =
      ((rowsOf StoredUsage.group group (items.filter (inForecastWindow run model))).map
        usageCosts).sum := by
    rw [← grouped, forecastTotal, sumOf, listUsageMonths, List.filter_map, List.map_map]
    rfl
  rw [listed, group_cost_eq group in_forecast_window_eq]

end Forecasts

section Replays

/-- On-demand cost, realized cost and what commitments applied to. -/
def itemCosts (item : UsageItem) : Int × Int × Int :=
  (item.onDemandCostCents, item.realizedCostCents, item.commitmentAppliedCents)

def replayMonthCosts (month : BacktestUsageMonth Int) : Int × Int × Int :=
  (month.onDemandCostCents, month.realizedCostCents, month.commitmentAppliedCents)

def replayMonthGroup (month : BacktestUsageMonth Int) : Int × Provider × String × String :=
  (month.month, month.provider, month.serviceCode, month.region)

/-- What the query returns for a group. -/
def replayTotal (run : BacktestRun) (items : List UsageItem)
    (group : Int × Provider × String × String) : Int × Int × Int :=
  sumOf replayMonthCosts (fun month => replayMonthGroup month = group)
    (listReplayUsageMonths items run)

def inReplayScope (run : BacktestRun) (item : UsageItem) : Bool := item.tenantId = run.tenantId

/-- The usage of a group that starts on a day of the window. -/
def replayUsage (run : BacktestRun) (items : List UsageItem)
    (group : Int × Provider × String × String) : Int × Int × Int :=
  startedCost UsageItem.usageStart (inReplayScope run) UsageItem.group itemCosts run.windowStart
    run.windowEnd items group

variable {run : BacktestRun} {items : List UsageItem}

theorem in_replay_window_eq (item : UsageItem) :
    inReplayWindow run item = (inReplayScope run item &&
      liesIn UsageItem.usageStart UsageItem.usageEnd (run.windowStart * microsecondsPerDay)
        (endOf run.windowEnd) item) := by
  rw [inReplayWindow, Bool.and_assoc]
  rfl

theorem add_items_group (row : BacktestUsageMonth Int) (items : List UsageItem) :
    replayMonthGroup (items.foldl addItem row) = replayMonthGroup row := by
  induction items generalizing row with
  | nil => rfl
  | cons item rest induction => exact induction (addItem row item)

theorem replay_total_eq (group : Int × Provider × String × String) :
    replayTotal run items group =
      lyingCost UsageItem.usageStart UsageItem.usageEnd (inReplayScope run) UsageItem.group
        itemCosts run.windowStart run.windowEnd items group := by
  obtain ⟨start, isStart⟩ : ∃ start : UsageItem → BacktestUsageMonth Int, start =
    fun item => emptyMonth item.month item.provider item.serviceCode item.region := ⟨_, rfl⟩
  have grouped := @group_entries_sum (Int × Provider × String × String) UsageItem
    (BacktestUsageMonth Int) _ _ _ UsageItem.group start addItem replayMonthCosts itemCosts
    (fun _ => by rw [isStart]; rfl) (fun _ _ => rfl) (items.filter (inReplayWindow run)) group
  have own : ∀ entry ∈ (groupInto UsageItem.group start addItem
      (items.filter (inReplayWindow run))).entries, replayMonthGroup entry.2 = entry.1 := by
    intro entry member
    have found := lookup_some_of_mem member
    rw [lookup_group_into, totalOf] at found
    cases rows : rowsOf UsageItem.group entry.1 (items.filter (inReplayWindow run)) with
    | nil =>
        rw [rows] at found
        cases found
    | cons first rest =>
        rw [rows] at found
        have kept : first ∈ rowsOf UsageItem.group entry.1 (items.filter (inReplayWindow run)) := by
          simp [rows]
        have group : first.group = entry.1 := of_decide_eq_true (List.mem_filter.mp kept).2
        rw [← Option.some.inj found, add_items_group, ← group, isStart]
        rfl
  have listed : replayTotal run items group =
      ((rowsOf UsageItem.group group (items.filter (inReplayWindow run))).map itemCosts).sum := by
    rw [← grouped, replayTotal, sumOf, listReplayUsageMonths, List.filter_map, List.map_map,
      ← isStart]
    have kept : ∀ entry ∈ (groupInto UsageItem.group start addItem
        (items.filter (inReplayWindow run))).entries,
          decide (replayMonthGroup entry.2 = group) = decide (entry.1 = group) := by
      intro entry member
      rw [own entry member]
    have same := List.filter_congr kept
    exact congrArg (fun entries => (entries.map fun entry => replayMonthCosts entry.2).sum) same
  rw [listed, group_cost_eq group in_replay_window_eq]

end Replays

section Windows

/-- The query of a forecast returns the usage that starts on a day of its window. -/
def ForecastExact (run : ForecastRun) (model : ForecastWorkerModel) (items : List StoredUsage) :
    Prop := ∀ group, forecastTotal run model items group = forecastUsage run model items group

/-- The window up to a day and the window after it return what the whole window returns. -/
def ForecastAdds (run : ForecastRun) (model : ForecastWorkerModel) (items : List StoredUsage)
    (day : Int) : Prop :=
  ∀ group, forecastTotal { run with inputWindowEnd := day } model items group +
    forecastTotal { run with inputWindowStart := day + 1 } model items group =
      forecastTotal run model items group

def ReplayExact (run : BacktestRun) (items : List UsageItem) : Prop :=
  ∀ group, replayTotal run items group = replayUsage run items group

def ReplayAdds (run : BacktestRun) (items : List UsageItem) (day : Int) : Prop :=
  ∀ group, replayTotal { run with windowEnd := day } items group +
    replayTotal { run with windowStart := day + 1 } items group = replayTotal run items group

/-- What `usage_line_items_costs_nonnegative_check` promises. -/
structure AllowedUsage (item : UsageItem) : Prop where
  onDemand : 0 ≤ item.onDemandCostCents
  realized : 0 ≤ item.realizedCostCents
  applied : 0 ≤ item.commitmentAppliedCents

theorem usage_costs_nonneg (item : StoredUsage) : 0 ≤ usageCosts item :=
  ⟨Int.natCast_nonneg _, Int.natCast_nonneg _, Int.natCast_nonneg _⟩

theorem item_costs_nonneg {item : UsageItem} (allowed : AllowedUsage item) : 0 ≤ itemCosts item :=
  ⟨allowed.onDemand, allowed.realized, allowed.applied⟩

/-- A window query returns the usage that starts in the window exactly when no usage of its
scope starts in the window and goes on after it; adjacent windows add up exactly when no
usage goes on from one into the other. Usage that costs nothing aside. -/
theorem usage_windows_iff (forecast : ForecastRun) (model : ForecastWorkerModel)
    (usage : List StoredUsage) (replay : BacktestRun) (items : List UsageItem)
    (allowed : ∀ item ∈ items, AllowedUsage item) (day : Int) :
    (ForecastExact forecast model usage ↔
      ∀ item ∈ usage, inForecastScope forecast model item = true →
        onDayOf forecast.inputWindowStart forecast.inputWindowEnd item.usageStart = true →
          endOf forecast.inputWindowEnd < item.usageEnd → usageCosts item = 0) ∧
    (forecast.inputWindowStart ≤ day + 1 → day ≤ forecast.inputWindowEnd →
      (ForecastAdds forecast model usage day ↔
        ∀ item ∈ usage, inForecastWindow forecast model item = true →
          item.usageStart < endOf day → endOf day < item.usageEnd → usageCosts item = 0)) ∧
    (ReplayExact replay items ↔
      ∀ item ∈ items, inReplayScope replay item = true →
        onDayOf replay.windowStart replay.windowEnd item.usageStart = true →
          endOf replay.windowEnd < item.usageEnd → itemCosts item = 0) ∧
    (replay.windowStart ≤ day + 1 → day ≤ replay.windowEnd →
      (ReplayAdds replay items day ↔
        ∀ item ∈ items, inReplayWindow replay item = true →
          item.usageStart < endOf day → endOf day < item.usageEnd → itemCosts item = 0)) := by
  refine ⟨?_, fun low high => ?_, ?_, fun low high => ?_⟩
  · unfold ForecastExact
    simp only [forecast_total_eq]
    exact lying_cost_iff (fun item _ => item.period) fun item _ => usage_costs_nonneg item
  · unfold ForecastAdds
    simp only [forecast_total_eq, in_forecast_window_eq, Bool.and_eq_true, and_imp]
    exact adjacent_cost_iff (fun item _ => item.period) (fun item _ => usage_costs_nonneg item)
      low high
  · unfold ReplayExact
    simp only [replay_total_eq]
    exact lying_cost_iff (fun item _ => item.period) fun item member =>
      item_costs_nonneg (allowed item member)
  · unfold ReplayAdds
    simp only [replay_total_eq, in_replay_window_eq, Bool.and_eq_true, and_imp]
    exact adjacent_cost_iff (fun item _ => item.period)
      (fun item member => item_costs_nonneg (allowed item member)) low high

/-- Usage from eleven in the evening of 31 January 2025 to one in the morning. -/
def lateUsage : StoredUsage where
  tenantId := 2
  provider := .aws
  serviceCode := exampleService
  region := exampleRegion
  usageStart := 20119 * 86400000000 + 82800000000
  usageEnd := 20120 * 86400000000 + 3600000000
  usageQuantity := 200000000
  onDemandCostCents := 100
  realizedCostCents := 70
  period := by decide
  bigint := by decide
  dated := by decide

def lateItem : UsageItem where
  tenantId := 2
  provider := .aws
  serviceCode := "AmazonEC2"
  region := "us-east-1"
  usageStart := lateUsage.usageStart
  usageEnd := lateUsage.usageEnd
  onDemandCostCents := 100
  realizedCostCents := 70
  commitmentAppliedCents := 0
  period := by decide

/-- A forecast over the days of a window. -/
def forecastOver (first last : Int) : ForecastRun where
  id := 1
  tenantId := 2
  forecastModelId := 3
  inputWindowStart := first
  inputWindowEnd := last
  horizonMonths := 1
  randomSeed := 0
  createdAt := 0
  status := .running
  outputUri := none
  qualityMetrics := .object []
  errorDetails := .object []
  updatedAt := 0

def computeModel : ForecastWorkerModel where
  id := 3
  tenantId := 2
  providerScope := ["aws"]
  serviceScope := ["AmazonEC2"]
  method := "seasonal_naive"
  config := .object []

def replayOver (first last : Int) : BacktestRun where
  id := 1
  tenantId := 2
  name := "replay"
  policyId := 3
  baseline := .lastMonthSteadyState
  windowStart := first
  windowEnd := last
  inputSnapshotUri := "backtests/1/input.json"
  createdByUserId := none
  createdAt := 0
  status := .running
  outputUri := none
  metrics := .object []
  errorDetails := .object []
  updatedAt := 0

/-- January and February return the late usage together, and neither does alone. -/
theorem late_usage_windows :
    ForecastExact (forecastOver 20089 20147) computeModel [lateUsage] ∧
      ¬ ForecastAdds (forecastOver 20089 20147) computeModel [lateUsage] 20119 ∧
      ReplayExact (replayOver 20089 20147) [lateItem] ∧
      ¬ ReplayAdds (replayOver 20089 20147) [lateItem] 20119 := by
  have allowed : ∀ item ∈ [lateItem], AllowedUsage item :=
    List.forall_mem_singleton.mpr ⟨by decide, by decide, by decide⟩
  obtain ⟨forecasts, adds, replays, replayAdds⟩ := usage_windows_iff (forecastOver 20089 20147)
    computeModel [lateUsage] (replayOver 20089 20147) [lateItem] allowed 20119
  refine ⟨forecasts.mpr ?_, fun same => ?_, replays.mpr ?_, fun same => ?_⟩
  · exact List.forall_mem_singleton.mpr fun _ _ after => absurd after (by decide)
  · have free := (adds (by decide) (by decide)).mp same lateUsage List.mem_cons_self
      (by decide) (by decide) (by decide)
    exact absurd free (by decide)
  · exact List.forall_mem_singleton.mpr fun _ _ after => absurd after (by decide)
  · have free := (replayAdds (by decide) (by decide)).mp same lateItem List.mem_cons_self
      (by decide) (by decide) (by decide)
    exact absurd free (by decide)

/-- The query for January misses the late usage of its last day. -/
theorem late_usage_lost :
    ¬ (∀ run model usage, ForecastExact run model usage) ∧
      ¬ (∀ run items, (∀ item ∈ items, AllowedUsage item) → ReplayExact run items) ∧
      ¬ (∀ run model usage day, run.inputWindowStart ≤ day + 1 → day ≤ run.inputWindowEnd →
        ForecastAdds run model usage day) ∧
      ¬ ∀ run items day, (∀ item ∈ items, AllowedUsage item) → run.windowStart ≤ day + 1 →
        day ≤ run.windowEnd → ReplayAdds run items day := by
  have allowed : ∀ item ∈ [lateItem], AllowedUsage item :=
    List.forall_mem_singleton.mpr ⟨by decide, by decide, by decide⟩
  refine ⟨fun always => ?_, fun always => ?_, fun always => ?_, fun always => ?_⟩
  · have same := always (forecastOver 20089 20119) computeModel [lateUsage] lateUsage.group
    exact absurd same (by decide)
  · have same := always (replayOver 20089 20119) [lateItem] allowed lateItem.group
    exact absurd same (by decide)
  · have same := always (forecastOver 20089 20147) computeModel [lateUsage] 20119 (by decide)
      (by decide) lateUsage.group
    exact absurd same (by decide)
  · have same := always (replayOver 20089 20147) [lateItem] 20119 allowed (by decide) (by decide)
      lateItem.group
    exact absurd same (by decide)

end Windows

end CommitmentOptimizer.Backtests.UsageWindows
