import CommitmentOptimizer.Backtests.BacktestRuns
import CommitmentOptimizer.Forecasting.ForecastRuns
import CommitmentOptimizer.Foundations.FaultyWorkers

/-!
# The backtest and forecast workers

`processNext` of `backtest-worker.ts` and of `forecast-worker.ts` over the database
and the object store, one step for each call it awaits.
-/

namespace CommitmentOptimizer.Workers.RunWorkers

open Foundations
open Foundations.FaultyWorkers
open Foundations.SqlConstraints
open Backtests.BacktestRuns
open Forecasting.ForecastRuns
open Reports.ReportSnapshots

set_option autoImplicit false

inductive RunKind where
  | backtest | forecast
  deriving DecidableEq, Repr

/-- What the workers have done, for the statements about it. -/
inductive HistoryEvent where
  | claimed (kind : RunKind) (run : Uuid) (worker : Nat)
  | stored (key : String) (worker : Nat)
  | completed (kind : RunKind) (run : Uuid) (worker : Nat)
  deriving DecidableEq, Repr

/-- An object is `none` when it is missing or no JSON text. -/
structure Shared where
  clock : Instant
  backtests : BacktestRunTable
  reports : ReportSnapshotTable
  forecasts : ForecastRunTable
  models : ForecastModelTable
  objects : String → Option Json
  history : List HistoryEvent

def Shared.putObject (shared : Shared) (key : String) (value : Json) (worker : Nat) : Shared :=
  { shared with
    objects := Function.update shared.objects key (some value)
    history := shared.history ++ [.stored key worker] }

structure BacktestArtifact where
  content : Json
  metrics : Json
  report : Json

structure ForecastArtifact where
  content : Json
  qualityMetrics : Json

/-- What a worker computes from its run and from the usage it has read: any
functions do. `octets` is the length of a `jsonb` value's text. -/
structure RunComputation (Usage : Type) where
  octets : Json → Nat
  backtestArtifact : BacktestRun → Json → Usage → Option BacktestArtifact
  forecastArtifact : ForecastRun → ForecastWorkerModel → Usage → Option ForecastArtifact

/-- Where a `processNext` stands: what it does next. -/
inductive Phase where
  | claimingBacktest
  | readingSnapshot (run : BacktestRun)
  | replaying (run : BacktestRun) (snapshot : Json)
  | storingBacktest (run : BacktestRun) (artifact : BacktestArtifact)
  | completingBacktest (run : BacktestRun) (artifact : BacktestArtifact)
  | failingBacktest (run : BacktestRun)
  | claimingForecast
  | forecasting (run : ForecastRun) (model : ForecastWorkerModel)
  | storingForecast (run : ForecastRun) (artifact : ForecastArtifact)
  | completingForecast (run : ForecastRun) (artifact : ForecastArtifact)
  | failingForecast (run : ForecastRun)

/-- `locked` are the rows that concurrent claims hold, `reportId` is the identifier
that an INSERT draws, `usage` the rows that a usage query returns. -/
structure Input (Usage : Type) where
  locked : List Uuid
  reportId : Uuid
  usage : Usage

inductive Event where
  | tick (elapsed : Nat)

def backtestOutputUri (run : BacktestRun) : String :=
  "backtests/" ++ uuidText run.id ++ "/output.json"

def forecastOutputUri (run : ForecastRun) : String :=
  "forecasts/" ++ uuidText run.id ++ "/seasonal-naive-v1.json"

/-- `readJson`: a JSON value that is no object reads as an empty one. -/
def recordOf (value : Json) : Json := if value.isObject then value else .object []

section Worker

variable {Usage : Type} (computation : RunComputation Usage)

def operate (worker : Nat) (input : Input Usage) (phase : Phase) (shared : Shared) :
    Option (Shared × Option Phase) :=
  match phase with
  | .claimingBacktest =>
      match claimNextQueuedBacktest computation.octets shared.clock input.locked
          shared.backtests with
      | .ok (some run, runs) => some
          ({ shared with
             backtests := runs
             history := shared.history ++ [.claimed .backtest run.id worker] },
           some (.readingSnapshot run))
      | .ok (none, runs) => some ({ shared with backtests := runs }, none)
      | .error _ => none
  | .readingSnapshot run =>
      (shared.objects run.inputSnapshotUri).map fun value =>
        (shared, some (.replaying run (recordOf value)))
  | .replaying run snapshot =>
      (computation.backtestArtifact run snapshot input.usage).map fun artifact =>
        (shared, some (.storingBacktest run artifact))
  | .storingBacktest run artifact => some
      (shared.putObject (backtestOutputUri run) artifact.content worker,
       some (.completingBacktest run artifact))
  | .completingBacktest run artifact =>
      match completeBacktest computation.octets shared.clock input.reportId run
          (backtestOutputUri run) artifact.metrics artifact.report shared.backtests
          shared.reports with
      | .ok (runs, reports) => some
          ({ shared with
             backtests := runs
             reports := reports
             history := shared.history ++ [.completed .backtest run.id worker] },
           none)
      | .error _ => none
  | .failingBacktest run =>
      match failBacktest computation.octets shared.clock run.id "BACKTEST_WORKER_FAILED"
          shared.backtests with
      | .ok runs => some ({ shared with backtests := runs }, none)
      | .error _ => none
  | .claimingForecast =>
      match claimNextQueuedRun computation.octets shared.clock input.locked shared.models
          shared.forecasts with
      | .ok (some (run, model), runs) => some
          ({ shared with
             forecasts := runs
             history := shared.history ++ [.claimed .forecast run.id worker] },
           some (.forecasting run model))
      | .ok (none, runs) => some ({ shared with forecasts := runs }, none)
      | .error _ => none
  | .forecasting run model =>
      (computation.forecastArtifact run model input.usage).map fun artifact =>
        (shared, some (.storingForecast run artifact))
  | .storingForecast run artifact => some
      (shared.putObject (forecastOutputUri run) artifact.content worker,
       some (.completingForecast run artifact))
  | .completingForecast run artifact =>
      match completeRun computation.octets shared.clock run.id (forecastOutputUri run)
          artifact.qualityMetrics shared.forecasts with
      | .ok runs => some
          ({ shared with
             forecasts := runs
             history := shared.history ++ [.completed .forecast run.id worker] },
           none)
      | .error _ => none
  | .failingForecast run =>
      match failRun computation.octets shared.clock run.id "FORECAST_WORKER_FAILED"
          shared.forecasts with
      | .ok runs => some ({ shared with forecasts := runs }, none)
      | .error _ => none

/-- The `catch` of `processNext`; a claim or the catch itself that fails ends it. -/
def rescue : Phase → Option Phase
  | .claimingBacktest | .failingBacktest _ | .claimingForecast | .failingForecast _ => none
  | .readingSnapshot run | .replaying run _ | .storingBacktest run _ | .completingBacktest run _ =>
      some (.failingBacktest run)
  | .forecasting run _ | .storingForecast run _ | .completingForecast run _ =>
      some (.failingForecast run)

def entry : Phase → Bool
  | .claimingBacktest | .claimingForecast => true
  | _ => false

def program : Program Shared Phase (Input Usage) Event where
  entry := entry
  operate := operate computation
  rescue := rescue
  environment
    | .tick elapsed, shared => some { shared with clock := shared.clock + elapsed }

end Worker

/-- The run that a phase works on. -/
def Phase.run : Phase → Option (RunKind × Uuid)
  | .claimingBacktest | .claimingForecast => none
  | .readingSnapshot run | .replaying run _ | .storingBacktest run _ | .completingBacktest run _
  | .failingBacktest run => some (.backtest, run.id)
  | .forecasting run _ | .storingForecast run _ | .completingForecast run _
  | .failingForecast run => some (.forecast, run.id)

end CommitmentOptimizer.Workers.RunWorkers
