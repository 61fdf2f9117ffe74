import CommitmentOptimizer.Foundations.JobQueue
import CommitmentOptimizer.Foundations.Json
import CommitmentOptimizer.Foundations.SqlConstraints

/-!
# The forecast_runs table

Rows, CHECK constraints and the UPDATE branch of the lifecycle trigger of
`forecast_runs` (migration 0015), and the statements of the worker in
`forecast-repository.ts`.
-/

namespace CommitmentOptimizer.Forecasting.ForecastRuns

open Foundations
open Foundations.JobQueue
open Foundations.SqlConstraints

set_option autoImplicit false

inductive ForecastRunStatus where
  | queued | running | completed | failed | cancelled
  deriving DecidableEq, Repr

/-- The columns the trigger freezes, in the order of its `ROW(...)`. Dates are day
numbers. -/
structure ForecastRunIdentity where
  id : Uuid
  tenantId : Uuid
  forecastModelId : Uuid
  inputWindowStart : Int
  inputWindowEnd : Int
  horizonMonths : Int
  randomSeed : Int
  createdAt : Instant
  deriving DecidableEq, Repr

structure ForecastRun extends ForecastRunIdentity where
  status : ForecastRunStatus
  outputUri : Option String
  qualityMetrics : Json
  errorDetails : Json
  updatedAt : Instant
  deriving DecidableEq

abbrev ForecastRunTable := KeyedTable fun row : ForecastRun => row.id

/-- What the worker reads of the run's model. -/
structure ForecastWorkerModel where
  id : Uuid
  tenantId : Uuid
  providerScope : List String
  serviceScope : List String
  method : String
  config : Json
  deriving DecidableEq

abbrev ForecastModelTable := KeyedTable fun row : ForecastWorkerModel => row.id

def secretKeys : List String :=
  ["credentials", "credential", "password", "secret", "token", "raw_file", "raw_bytes", "raw_row",
    "raw_rows"]

def ForecastRun.stateFields (row : ForecastRun) : Bool :=
  match row.status with
  | .queued | .running | .cancelled =>
      row.outputUri.isNone && row.qualityMetrics == .object [] && row.errorDetails == .object []
  | .completed =>
      row.outputUri.isSome && row.qualityMetrics != .object [] && row.errorDetails == .object []
  | .failed =>
      row.outputUri.isNone && row.qualityMetrics == .object [] && row.errorDetails != .object []

def ForecastRun.checks (octets : Json → Nat) (row : ForecastRun) : List (String × Bool) :=
  [("forecast_runs_input_window_check", row.inputWindowStart ≤ row.inputWindowEnd),
   ("forecast_runs_horizon_months_check", [1, 3, 6, 12, 24, 36].contains row.horizonMonths),
   ("forecast_runs_output_uri_canonical_check", isCanonicalTextOrNull 2048 row.outputUri),
   ("forecast_runs_quality_metrics_object_check",
     row.qualityMetrics.isObject && octets row.qualityMetrics ≤ 65536 &&
     !row.qualityMetrics.hasAnyKey secretKeys),
   ("forecast_runs_error_details_object_check",
     row.errorDetails.isObject && octets row.errorDetails ≤ 16384 &&
     !row.errorDetails.hasAnyKey ("stack" :: "stack_trace" :: secretKeys)),
   ("forecast_runs_state_fields_check", row.stateFields),
   ("forecast_runs_timestamps_ordered_check", row.createdAt ≤ row.updatedAt)]

def terminal : ForecastRunStatus → Bool
  | .completed | .failed | .cancelled => true
  | .queued | .running => false

def admitted : ForecastRunStatus → ForecastRunStatus → Bool
  | .queued, .running | .queued, .failed | .queued, .cancelled => true
  | .running, .completed | .running, .failed | .running, .cancelled => true
  | _, _ => false

/-- `enforce_forecast_run_lifecycle` for UPDATE. -/
def enforceForecastRunUpdate (clock : Instant) (old new : ForecastRun) :
    Except DbError ForecastRun :=
  if new.toForecastRunIdentity ≠ old.toForecastRunIdentity then
    .error (raised "forecast run inputs are immutable" "55000")
  else if terminal old.status then
    .error (raised "forecast run is terminal" "55000")
  else if ¬ admitted old.status new.status then
    .error (raised "invalid forecast run status transition" "55000")
  else .ok { new with updatedAt := clock }

/-- The row an UPDATE of `old` to `new` stores: trigger, then CHECK constraints. -/
def updateForecastRunRow (octets : Json → Nat) (clock : Instant) (old new : ForecastRun) :
    Except DbError ForecastRun := do
  let row ← enforceForecastRunUpdate clock old new
  checkAll (row.checks octets)
  return row

/-- What an accepted UPDATE stores. -/
theorem update_forecast_run_row_ok {octets : Json → Nat} {clock : Instant}
    {old new row : ForecastRun} (accepted : updateForecastRunRow octets clock old new = .ok row) :
    row = { new with updatedAt := clock } ∧
      new.toForecastRunIdentity = old.toForecastRunIdentity ∧
      admitted old.status new.status = true := by
  obtain ⟨enforced, triggered, accepted⟩ := bind_ok.mp accepted
  obtain ⟨_, _, stored⟩ := bind_ok.mp accepted
  obtain rfl := Except.ok.inj stored
  unfold enforceForecastRunUpdate at triggered
  split_ifs at triggered with changed ended moved
  obtain rfl := Except.ok.inj triggered
  exact ⟨rfl, not_not.mp changed, moved⟩

section Statements

variable (octets : Json → Nat) (clock : Instant)

/-- `claimNextQueuedRun`; `locked` are the rows that concurrent claims hold. A run
whose model is missing is claimed and not returned. -/
def claimNextQueuedRun (locked : List Uuid) (models : ForecastModelTable)
    (runs : ForecastRunTable) :
    Except DbError (Option (ForecastRun × ForecastWorkerModel) × ForecastRunTable) := do
  let (claimed, next) ← claimNext (fun row => row.status == .queued) (fun row => row.createdAt)
    (fun row => updateForecastRunRow octets clock row { row with status := .running }) locked runs
  let worked := claimed.bind fun run =>
    ((models.find run.forecastModelId).filter fun model => model.tenantId = run.tenantId).map
      fun model => (run, model)
  return (worked, next)

/-- `UPDATE … WHERE id = $1 AND status = 'running'`. -/
def updateRunning (id : Uuid) (change : ForecastRun → ForecastRun) (runs : ForecastRunTable) :
    Except DbError ForecastRunTable :=
  updateWhere id (fun row => row.status == .running)
    (fun row => updateForecastRunRow octets clock row (change row)) runs

def completeRun (runId : Uuid) (outputUri : String) (qualityMetrics : Json)
    (runs : ForecastRunTable) : Except DbError ForecastRunTable :=
  updateRunning octets clock runId (fun row => { row with
    status := .completed, outputUri := some outputUri, qualityMetrics := qualityMetrics,
    errorDetails := .object [] }) runs

def failRun (runId : Uuid) (code : String) (runs : ForecastRunTable) :
    Except DbError ForecastRunTable :=
  updateRunning octets clock runId (fun row => { row with
    status := .failed, outputUri := none, qualityMetrics := .object [],
    errorDetails := .object [("code", .string code)] }) runs

end Statements

section Effects

variable {octets : Json → Nat} {clock : Instant} {runs next : ForecastRunTable}

/-- A claim moves one queued row to running. -/
theorem claim_next_queued_run_ok {locked : List Uuid} {models : ForecastModelTable}
    {claimed : Option (ForecastRun × ForecastWorkerModel)}
    (done : claimNextQueuedRun octets clock locked models runs = .ok (claimed, next)) :
    (claimed = none ∧ next = runs) ∨
      ∃ old row, runs.find old.id = some old ∧ old.status = .queued ∧
        (∀ run model, claimed = some (run, model) → run = row) ∧
        row.toForecastRunIdentity = old.toForecastRunIdentity ∧ row.status = .running ∧
        next = runs.put row := by
  obtain ⟨⟨chosen, table⟩, claim, done⟩ := bind_ok.mp done
  obtain ⟨rfl, rfl⟩ := Prod.mk.inj (Except.ok.inj done)
  rcases claim_next_ok claim with ⟨rfl, rfl⟩ | ⟨old, row, found, queued, stored, rfl, rfl⟩
  · exact Or.inl ⟨rfl, rfl⟩
  · obtain ⟨rfl, identity, _⟩ := update_forecast_run_row_ok stored
    refine Or.inr ⟨old, { old with status := .running, updatedAt := clock }, found,
      beq_iff_eq.mp queued, ?_, identity, rfl, rfl⟩
    intro run model same
    obtain ⟨_, _, pair⟩ := Option.map_eq_some_iff.mp same
    exact (Prod.mk.inj pair).1.symm

/-- An update of a running row stores it, of any other changes nothing. -/
theorem update_running_ok {id : Uuid} {change : ForecastRun → ForecastRun}
    (done : updateRunning octets clock id change runs = .ok next) :
    ((∀ row, runs.find id = some row → row.status ≠ .running) ∧ next = runs) ∨
      ∃ old, runs.find id = some old ∧ old.status = .running ∧
        (change old).toForecastRunIdentity = old.toForecastRunIdentity ∧
        next = runs.put { change old with updatedAt := clock } := by
  rcases update_where_ok done with ⟨absent, rfl⟩ | ⟨old, row, found, running, stored, rfl⟩
  · exact Or.inl ⟨fun row found => by simpa using absent row found, rfl⟩
  · obtain ⟨rfl, identity, _⟩ := update_forecast_run_row_ok stored
    exact Or.inr ⟨old, found, beq_iff_eq.mp running, identity, rfl⟩

end Effects

end CommitmentOptimizer.Forecasting.ForecastRuns
