import CommitmentOptimizer.Foundations.Json
import CommitmentOptimizer.Recommendations.RecommendationLifecycle

/-!
# The optimizer_runs table

Rows, CHECK constraints and the UPDATE branch of the lifecycle trigger of
`optimizer_runs` (migration 0018).
-/

namespace CommitmentOptimizer.Optimizer.OptimizerRuns

open Foundations
open Foundations.SqlConstraints
open Recommendations.RecommendationLifecycle

set_option autoImplicit false

inductive OptimizerRunStatus where
  | queued | running | completed | failed | infeasible | cancelled
  deriving DecidableEq, Repr

/-- The columns the trigger freezes, in the order of its `ROW(...)`. -/
structure OptimizerRunIdentity where
  id : Uuid
  tenantId : Uuid
  forecastRunId : Uuid
  scenarioId : Option Uuid
  optimizerPolicyId : Uuid
  provider : Provider
  instrument : Instrument
  priceTableVersionIds : List Uuid
  randomSeed : Int
  inputSnapshotUri : String
  createdByUserId : Option Uuid
  createdAt : Instant
  deriving DecidableEq, Repr

structure OptimizerRun extends OptimizerRunIdentity where
  status : OptimizerRunStatus
  outputUri : Option String
  frontierUri : Option String
  infeasibilityDetails : Json
  errorDetails : Json
  updatedAt : Instant
  deriving DecidableEq

abbrev OptimizerRunTable := KeyedTable fun row : OptimizerRun => row.id

/-- Keys that no detail column may have at its top level. -/
def secretKeys : List String :=
  ["credentials", "credential", "password", "secret", "token", "raw_file", "raw_bytes", "raw_row",
    "raw_rows"]

def OptimizerRun.stateFields (row : OptimizerRun) : Bool :=
  match row.status with
  | .queued | .running | .cancelled =>
      row.outputUri.isNone && row.frontierUri.isNone &&
        row.infeasibilityDetails == .object [] && row.errorDetails == .object []
  | .completed =>
      row.outputUri.isSome && row.frontierUri.isSome &&
        row.infeasibilityDetails == .object [] && row.errorDetails == .object []
  | .failed =>
      row.outputUri.isNone && row.frontierUri.isNone &&
        row.infeasibilityDetails == .object [] && row.errorDetails != .object []
  | .infeasible =>
      row.outputUri.isNone && row.frontierUri.isSome &&
        row.infeasibilityDetails != .object [] && row.errorDetails == .object []

/-- `octets` is the length of a `jsonb` value's text. -/
def OptimizerRun.checks (octets : Json → Nat) (row : OptimizerRun) : List (String × Bool) :=
  [("optimizer_runs_provider_instrument_check", row.instrument.provider == row.provider),
   ("optimizer_runs_price_versions_check",
     1 ≤ row.priceTableVersionIds.length && row.priceTableVersionIds.length ≤ 16 &&
     row.priceTableVersionIds.Nodup),
   ("optimizer_runs_input_snapshot_uri_check", isCanonicalText 2048 row.inputSnapshotUri),
   ("optimizer_runs_output_uri_check", isCanonicalTextOrNull 2048 row.outputUri),
   ("optimizer_runs_frontier_uri_check", isCanonicalTextOrNull 2048 row.frontierUri),
   ("optimizer_runs_infeasibility_object_check",
     row.infeasibilityDetails.isObject && octets row.infeasibilityDetails ≤ 65536 &&
     !row.infeasibilityDetails.hasAnyKey secretKeys),
   ("optimizer_runs_error_details_object_check",
     row.errorDetails.isObject && octets row.errorDetails ≤ 16384 &&
     !row.errorDetails.hasAnyKey ("stack" :: "stack_trace" :: secretKeys)),
   ("optimizer_runs_state_fields_check", row.stateFields),
   ("optimizer_runs_timestamps_ordered_check", row.createdAt ≤ row.updatedAt)]

def terminal : OptimizerRunStatus → Bool
  | .completed | .failed | .infeasible | .cancelled => true
  | _ => false

def admitted : OptimizerRunStatus → OptimizerRunStatus → Bool
  | .queued, .running | .queued, .failed | .queued, .cancelled => true
  | .running, .completed | .running, .failed | .running, .infeasible => true
  | .running, .cancelled => true
  | _, _ => false

/-- `enforce_optimizer_run_lifecycle` for UPDATE. -/
def enforceOptimizerRunUpdate (clock : Instant) (old new : OptimizerRun) :
    Except DbError OptimizerRun :=
  if new.toOptimizerRunIdentity ≠ old.toOptimizerRunIdentity then
    .error (raised "optimizer run inputs are immutable" "55000")
  else if terminal old.status then
    .error (raised "optimizer run is terminal" "55000")
  else if ¬ admitted old.status new.status then
    .error (raised "invalid optimizer run status transition" "55000")
  else .ok { new with updatedAt := clock }

/-- The row an UPDATE of `old` to `new` stores: trigger, then CHECK constraints. -/
def updateOptimizerRunRow (octets : Json → Nat) (clock : Instant) (old new : OptimizerRun) :
    Except DbError OptimizerRun := do
  let row ← enforceOptimizerRunUpdate clock old new
  checkAll (row.checks octets)
  return row

/-- What an accepted UPDATE stores. -/
theorem update_optimizer_run_row_ok {octets : Json → Nat} {clock : Instant}
    {old new row : OptimizerRun} (accepted : updateOptimizerRunRow octets clock old new = .ok row) :
    row = { new with updatedAt := clock } ∧
      new.toOptimizerRunIdentity = old.toOptimizerRunIdentity ∧
      admitted old.status new.status = true := by
  obtain ⟨enforced, triggered, accepted⟩ := bind_ok.mp accepted
  obtain ⟨_, _, stored⟩ := bind_ok.mp accepted
  obtain rfl := Except.ok.inj stored
  unfold enforceOptimizerRunUpdate at triggered
  split_ifs at triggered with changed ended moved
  obtain rfl := Except.ok.inj triggered
  exact ⟨rfl, not_not.mp changed, moved⟩

end CommitmentOptimizer.Optimizer.OptimizerRuns
