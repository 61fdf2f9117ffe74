import CommitmentOptimizer.Forecasting.ForecastRuns
import CommitmentOptimizer.Forecasting.SeasonalForecast
import CommitmentOptimizer.Foundations.GroupedRows
import CommitmentOptimizer.Optimizer.OptimizerWorker

/-!
# The usage behind a forecast and the points in front of it

`listUsageMonths` (`forecast-repository.ts`), the object that the forecast worker
stores, and what the optimizer worker reads of it. Times are microseconds, and
the session's time zone is UTC.
-/

namespace CommitmentOptimizer.Forecasting.ForecastUsage

open Foundations
open Foundations.BigIntText
open Foundations.CalendarMonths
open Foundations.GroupedRows
open Foundations.SqlConstraints
open Forecasting.ForecastRuns
open Imports.ControlTotals
open Imports.UsageRows
open Optimizer.Candidates
open Recommendations.RecommendationLifecycle
open SeasonalForecast

set_option autoImplicit false

section Query

/-- A stored usage line item: its costs are a BIGINT that is not negative, its time has a
year of four digits. The quantity counts hundred-millionths. -/
structure StoredUsage where
  tenantId : Uuid
  provider : Provider
  serviceCode : ColumnText
  region : ColumnText
  usageStart : Int
  usageEnd : Int
  usageQuantity : Nat
  onDemandCostCents : Nat
  realizedCostCents : Nat
  period : usageStart < usageEnd
  bigint : onDemandCostCents ≤ 9223372036854775807
  dated : 0 ≤ monthOfDay (usageStart / 86400000000) ∧
    monthOfDay (usageStart / 86400000000) < 120000

/-- `to_char(date_trunc('month', usage_start AT TIME ZONE 'UTC'), 'YYYY-MM')`. -/
def StoredUsage.month (item : StoredUsage) : MonthText where
  text := monthSliceOf (monthOfDay (item.usageStart / 86400000000))
  form := (month_slice_of_dated item.dated.1 item.dated.2).1

/-- The `WHERE` of the query. -/
def inForecastWindow (run : ForecastRun) (model : ForecastWorkerModel) (item : StoredUsage) :
    Bool :=
  item.tenantId = run.tenantId && model.providerScope.contains (providerText item.provider) &&
    model.serviceScope.contains item.serviceCode.text &&
    run.inputWindowStart * 86400000000 ≤ item.usageStart &&
    item.usageEnd ≤ (run.inputWindowEnd + 1) * 86400000000

abbrev UsageGroup := MonthText × Provider × ColumnText × ColumnText

/-- The sums and the count of a group. -/
structure UsageTotal where
  onDemandCostCents : Nat
  realizedCostCents : Nat
  usageQuantity : Nat
  lineItemCount : Nat

def StoredUsage.group (item : StoredUsage) : UsageGroup :=
  (item.month, item.provider, item.serviceCode, item.region)

def addUsage (total : UsageTotal) (item : StoredUsage) : UsageTotal where
  onDemandCostCents := total.onDemandCostCents + item.onDemandCostCents
  realizedCostCents := total.realizedCostCents + item.realizedCostCents
  usageQuantity := total.usageQuantity + item.usageQuantity
  lineItemCount := total.lineItemCount + 1

/-- The groups of the query, whose `ORDER BY` the forecast does not depend on. -/
def listUsageMonths (run : ForecastRun) (model : ForecastWorkerModel) (items : List StoredUsage) :
    List ForecastUsageMonth :=
  let groups : GroupMap UsageGroup UsageTotal :=
    groupInto StoredUsage.group (fun _ => ⟨0, 0, 0, 0⟩) addUsage
      (items.filter (inForecastWindow run model))
  groups.entries.map fun entry =>
    { month := entry.1.1
      provider := entry.1.2.1
      serviceCode := entry.1.2.2.1
      region := entry.1.2.2.2
      onDemandCostCents := entry.2.onDemandCostCents
      realizedCostCents := entry.2.realizedCostCents
      usageQuantity := entry.2.usageQuantity
      lineItemCount := entry.2.lineItemCount
      nonneg := Int.natCast_nonneg _ }

end Query

section Output

def basisText : Basis → String
  | .seasonalMonth => "seasonal_month"
  | .allHistoryAverage => "all_history_average"

def pointJson (point : SeasonalForecast.ForecastPoint) : Json := .object
  [("month", .string point.month), ("provider", .string point.provider),
   ("service_code", .string point.serviceCode), ("region", .string point.region),
   ("forecast_on_demand_cost_cents", .string (toString point.forecastOnDemandCostCents)),
   ("basis", .string (basisText point.basis))]

def metricsJson (metrics : QualityMetrics) : Json := .object
  [("method", .string metrics.method),
   ("history_days", .number (metrics.historyDays.map fun days => (days : Rat))),
   ("monthly_observations", .number (some metrics.monthlyObservations)),
   ("source_line_items", .number (some metrics.sourceLineItems)),
   ("forecast_points", .number (some metrics.forecastPoints)),
   ("confidence", .string metrics.confidence),
   ("warnings", .array (metrics.warnings.map .string))]

/-- The object at `forecasts/<id>/seasonal-naive-v1.json`. -/
def artifactJson (artifact : SeasonalNaiveArtifact) : Json := .object
  [("schema_version", .string artifact.schemaVersion),
   ("forecast_run_id", .string (uuidText artifact.forecastRunId)),
   ("forecast_model_id", .string (uuidText artifact.forecastModelId)),
   ("method", .string artifact.method),
   ("input_window", .object [("start", .string artifact.inputWindow.1),
     ("end", .string artifact.inputWindow.2)]),
   ("horizon_months", .number (some artifact.horizonMonths)),
   ("random_seed", .string (toString artifact.randomSeed)),
   ("quality_metrics", metricsJson artifact.qualityMetrics),
   ("forecast_points", .array (artifact.forecastPoints.map pointJson))]

/-- The optimizer's view of a stored point. -/
def readPoint (point : SeasonalForecast.ForecastPoint) : Optimizer.Candidates.ForecastPoint where
  month := point.month
  provider := providerValue (pointJson point) "provider"
  serviceCode := point.serviceCode
  region := point.region
  forecastOnDemandCostCents := toString point.forecastOnDemandCostCents

theorem forecast_points_read (artifact : SeasonalNaiveArtifact) :
    forecastPoints (artifactJson artifact) = artifact.forecastPoints.map readPoint := by
  have points : (artifactJson artifact).field "forecast_points" =
      some (.array (artifact.forecastPoints.map pointJson)) := rfl
  rw [Optimizer.Candidates.forecastPoints, points]
  dsimp only
  rw [List.map_map]
  rfl

theorem average_cents_nonneg (months : List ForecastUsageMonth) : 0 ≤ averageCents months := by
  have nonneg : 0 ≤ (months.map fun month => month.onDemandCostCents).sum := by
    apply List.sum_nonneg
    simp only [List.mem_map, forall_exists_index, and_imp, forall_apply_eq_imp_iff₂]
    exact fun month _ => month.nonneg
  rw [average_cents_eq]
  exact Int.ediv_nonneg (by omega) (Int.natCast_nonneg _)

theorem forecast_point_nonneg (key : String) (history : List ForecastUsageMonth)
    (month : String) : 0 ≤ (forecastPoint key history month).forecastOnDemandCostCents :=
  average_cents_nonneg _

variable {runtime : ForecastRuntime} {run : ForecastWorkerRun}
  {months : List ForecastUsageMonth} {minHistoryDays : Int}

/-- The costs that the optimizer reads are the values of the points. -/
theorem stored_costs_read {points : List Optimizer.Candidates.ForecastPoint}
    (listed : points ⊆ forecastPoints
      (artifactJson (buildSeasonalNaiveArtifact runtime run months minHistoryDays))) :
    ∃ costs, (points.mapM fun point => bigIntOfString point.forecastOnDemandCostCents) =
      some costs ∧ ∀ cost ∈ costs, 0 ≤ cost := by
  induction points with
  | nil => exact ⟨[], rfl, nofun⟩
  | cons point rest induction =>
      obtain ⟨costs, read, nonneg⟩ :=
        induction fun later member => listed (List.mem_cons_of_mem _ member)
      have member := listed List.mem_cons_self
      rw [forecast_points_read] at member
      obtain ⟨stored, storedMember, rfl⟩ := List.mem_map.mp member
      obtain ⟨row, _, number, _, rfl⟩ := mem_forecast_points.mp storedMember
      have centsNonneg := forecast_point_nonneg (dimensionKey row)
        (historyOf row.dimension months) (monthSliceOf number)
      obtain ⟨cents, isCents⟩ := Int.eq_ofNat_of_zero_le centsNonneg
      refine ⟨cents :: costs, ?_, ?_⟩
      · have text : (readPoint (forecastPoint (dimensionKey row) (historyOf row.dimension months)
            (monthSliceOf number))).forecastOnDemandCostCents = toString cents := by
          rw [readPoint, isCents]
          rfl
        rw [List.mapM_cons, text, big_int_of_nat, read]
        rfl
      · exact List.forall_mem_cons.mpr ⟨Int.natCast_nonneg _, nonneg⟩

end Output

end CommitmentOptimizer.Forecasting.ForecastUsage
