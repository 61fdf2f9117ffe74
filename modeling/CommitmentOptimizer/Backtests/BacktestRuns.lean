import CommitmentOptimizer.Foundations.JobQueue
import CommitmentOptimizer.Reports.ReportSnapshots

/-!
# The backtest_runs table

Rows, CHECK constraints and the UPDATE branch of the lifecycle trigger of
`backtest_runs` (migration 0022), and the statements of the worker in
`backtests-repository.ts`. `completeBacktest` is one transaction.
-/

namespace CommitmentOptimizer.Backtests.BacktestRuns

open Foundations
open Foundations.JobQueue
open Foundations.SqlConstraints
open Reports.ReportSnapshots

set_option autoImplicit false

inductive BacktestBaseline where
  | noCommitment | lastMonthSteadyState | seventyPercentUtilization | custom
  deriving DecidableEq, Repr

inductive BacktestRunStatus where
  | queued | running | completed | failed | cancelled
  deriving DecidableEq, Repr

/-- The columns the trigger freezes, in the order of its `ROW(...)`. Dates are day
numbers. -/
structure BacktestRunIdentity where
  id : Uuid
  tenantId : Uuid
  name : String
  policyId : Uuid
  baseline : BacktestBaseline
  windowStart : Int
  windowEnd : Int
  inputSnapshotUri : String
  createdByUserId : Option Uuid
  createdAt : Instant
  deriving DecidableEq, Repr

structure BacktestRun extends BacktestRunIdentity where
  status : BacktestRunStatus
  outputUri : Option String
  metrics : Json
  errorDetails : Json
  updatedAt : Instant
  deriving DecidableEq

abbrev BacktestRunTable := KeyedTable fun row : BacktestRun => row.id

def secretKeys : List String :=
  ["credentials", "credential", "password", "secret", "token", "raw_file", "raw_bytes", "raw_row",
    "raw_rows"]

def BacktestRun.completion (row : BacktestRun) : Bool :=
  match row.status with
  | .completed => row.outputUri.isSome && row.metrics != .object [] &&
      row.errorDetails == .object []
  | .failed => row.outputUri.isNone && row.errorDetails != .object []
  | .queued | .running | .cancelled => row.outputUri.isNone

def BacktestRun.checks (octets : Json → Nat) (row : BacktestRun) : List (String × Bool) :=
  [("backtest_runs_name_check", isCanonicalText 200 row.name),
   ("backtest_runs_window_check", row.windowStart ≤ row.windowEnd),
   ("backtest_runs_uri_text_check",
     isCanonicalText 2048 row.inputSnapshotUri && isCanonicalTextOrNull 2048 row.outputUri),
   ("backtest_runs_metrics_object_check",
     row.metrics.isObject && octets row.metrics ≤ 1048576 &&
     !row.metrics.hasAnyKey (secretKeys ++
       ["solver_variable", "solver_variables", "temp_table", "worker_shard_id"])),
   ("backtest_runs_error_details_object_check",
     row.errorDetails.isObject && octets row.errorDetails ≤ 65536 &&
     !row.errorDetails.hasAnyKey (secretKeys ++ ["stack"])),
   ("backtest_runs_completion_check", row.completion),
   ("backtest_runs_timestamps_ordered_check", row.createdAt ≤ row.updatedAt)]

def terminal : BacktestRunStatus → Bool
  | .completed | .failed | .cancelled => true
  | .queued | .running => false

def admitted : BacktestRunStatus → BacktestRunStatus → Bool
  | .queued, .running | .queued, .cancelled => true
  | .running, .completed | .running, .failed | .running, .cancelled => true
  | _, _ => false

/-- `enforce_backtest_run_lifecycle` for UPDATE. -/
def enforceBacktestRunUpdate (clock : Instant) (old new : BacktestRun) :
    Except DbError BacktestRun :=
  if new.toBacktestRunIdentity ≠ old.toBacktestRunIdentity then
    .error (raised "backtest run replay identity is immutable" "55000")
  else if terminal old.status then
    .error (raised "backtest run is terminal" "55000")
  else if ¬ admitted old.status new.status then
    .error (raised "invalid backtest run status transition" "55000")
  else .ok { new with updatedAt := clock }

/-- The row an UPDATE of `old` to `new` stores: trigger, then CHECK constraints. -/
def updateBacktestRunRow (octets : Json → Nat) (clock : Instant) (old new : BacktestRun) :
    Except DbError BacktestRun := do
  let row ← enforceBacktestRunUpdate clock old new
  checkAll (row.checks octets)
  return row

/-- What an accepted UPDATE stores. -/
theorem update_backtest_run_row_ok {octets : Json → Nat} {clock : Instant}
    {old new row : BacktestRun} (accepted : updateBacktestRunRow octets clock old new = .ok row) :
    row = { new with updatedAt := clock } ∧
      new.toBacktestRunIdentity = old.toBacktestRunIdentity ∧
      admitted old.status new.status = true := by
  obtain ⟨enforced, triggered, accepted⟩ := bind_ok.mp accepted
  obtain ⟨_, _, stored⟩ := bind_ok.mp accepted
  obtain rfl := Except.ok.inj stored
  unfold enforceBacktestRunUpdate at triggered
  split_ifs at triggered with changed ended moved
  obtain rfl := Except.ok.inj triggered
  exact ⟨rfl, not_not.mp changed, moved⟩

section Statements

variable (octets : Json → Nat) (clock : Instant)

/-- `claimNextQueuedBacktest`; `locked` are the rows that concurrent claims hold. -/
def claimNextQueuedBacktest (locked : List Uuid) (runs : BacktestRunTable) :
    Except DbError (Option BacktestRun × BacktestRunTable) :=
  claimNext (fun row => row.status == .queued) (fun row => row.createdAt)
    (fun row => updateBacktestRunRow octets clock row { row with status := .running }) locked runs

/-- `UPDATE … WHERE id = $1 AND status = 'running'`. -/
def updateRunning (id : Uuid) (change : BacktestRun → BacktestRun) (runs : BacktestRunTable) :
    Except DbError BacktestRunTable :=
  updateWhere id (fun row => row.status == .running)
    (fun row => updateBacktestRunRow octets clock row (change row)) runs

/-- `completeBacktest`: the two statements of its transaction. `reportId` is the
identifier drawn for the report snapshot. -/
def completeBacktest (reportId : Uuid) (run : BacktestRun) (outputUri : String)
    (metrics report : Json) (runs : BacktestRunTable) (reports : ReportSnapshotTable) :
    Except DbError (BacktestRunTable × ReportSnapshotTable) := do
  let completed ← updateRunning octets clock run.id (fun row => { row with
    status := .completed, outputUri := some outputUri, metrics := metrics,
    errorDetails := .object [] }) runs
  let stored ← insertReportSnapshotRow octets
    { id := reportId
      tenantId := run.tenantId
      sourceType := .backtestRun
      sourceId := run.id
      snapshotJson := report
      renderedHtmlUri := none
      renderedPdfUri := none
      status := .queued
      createdByUserId := run.createdByUserId
      createdAt := clock
      updatedAt := clock } reports
  return (completed, stored)

def failBacktest (runId : Uuid) (code : String) (runs : BacktestRunTable) :
    Except DbError BacktestRunTable :=
  updateRunning octets clock runId (fun row => { row with
    status := .failed, outputUri := none, metrics := .object [],
    errorDetails := .object [("code", .string code)] }) runs

end Statements

section Effects

variable {octets : Json → Nat} {clock : Instant} {runs next : BacktestRunTable}

/-- A claim moves one queued row to running. -/
theorem claim_next_queued_backtest_ok {locked : List Uuid} {claimed : Option BacktestRun}
    (done : claimNextQueuedBacktest octets clock locked runs = .ok (claimed, next)) :
    (claimed = none ∧ next = runs) ∨
      ∃ old row, runs.find old.id = some old ∧ old.status = .queued ∧ claimed = some row ∧
        row.toBacktestRunIdentity = old.toBacktestRunIdentity ∧ row.status = .running ∧
        next = runs.put row := by
  rcases claim_next_ok done with unclaimed | ⟨old, row, found, queued, stored, rfl, rfl⟩
  · exact Or.inl unclaimed
  · obtain ⟨rfl, identity, _⟩ := update_backtest_run_row_ok stored
    exact Or.inr ⟨old, _, found, beq_iff_eq.mp queued, rfl, identity, rfl, rfl⟩

/-- An update of a running row stores it, of any other changes nothing. -/
theorem update_running_ok {id : Uuid} {change : BacktestRun → BacktestRun}
    (done : updateRunning octets clock id change runs = .ok next) :
    ((∀ row, runs.find id = some row → row.status ≠ .running) ∧ next = runs) ∨
      ∃ old, runs.find id = some old ∧ old.status = .running ∧
        (change old).toBacktestRunIdentity = old.toBacktestRunIdentity ∧
        next = runs.put { change old with updatedAt := clock } := by
  rcases update_where_ok done with ⟨absent, rfl⟩ | ⟨old, row, found, running, stored, rfl⟩
  · exact Or.inl ⟨fun row found => by simpa using absent row found, rfl⟩
  · obtain ⟨rfl, identity, _⟩ := update_backtest_run_row_ok stored
    exact Or.inr ⟨old, found, beq_iff_eq.mp running, identity, rfl⟩

end Effects

end CommitmentOptimizer.Backtests.BacktestRuns
