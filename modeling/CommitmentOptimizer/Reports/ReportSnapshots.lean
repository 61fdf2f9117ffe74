import CommitmentOptimizer.Foundations.Json
import CommitmentOptimizer.Foundations.KeyedTable
import CommitmentOptimizer.Foundations.SqlConstraints

/-!
# The report_snapshots table

Rows, CHECK constraints and the lifecycle trigger of `report_snapshots`
(migration 0020).
-/

namespace CommitmentOptimizer.Reports.ReportSnapshots

open Foundations
open Foundations.SqlConstraints

set_option autoImplicit false

inductive ReportSourceType where
  | recommendation | optimizerRun | backtestRun | approval
  deriving DecidableEq, Repr

inductive ReportSnapshotStatus where
  | queued | rendered | failed | archived
  deriving DecidableEq, Repr

structure ReportSnapshot where
  id : Uuid
  tenantId : Uuid
  sourceType : ReportSourceType
  sourceId : Uuid
  snapshotJson : Json
  renderedHtmlUri : Option String
  renderedPdfUri : Option String
  status : ReportSnapshotStatus
  createdByUserId : Option Uuid
  createdAt : Instant
  updatedAt : Instant
  deriving DecidableEq

abbrev ReportSnapshotTable := KeyedTable fun row : ReportSnapshot => row.id

def secretKeys : List String :=
  ["credentials", "credential", "password", "secret", "token", "raw_file", "raw_bytes", "raw_row",
    "raw_rows", "approval_token"]

/-- `octets` is the length of a `jsonb` value's text. -/
def ReportSnapshot.checks (octets : Json → Nat) (row : ReportSnapshot) : List (String × Bool) :=
  [("report_snapshots_snapshot_json_object_check",
     row.snapshotJson.isObject && octets row.snapshotJson ≤ 1048576 &&
     !row.snapshotJson.hasAnyKey secretKeys),
   ("report_snapshots_uri_text_check",
     isCanonicalTextOrNull 2048 row.renderedHtmlUri &&
     isCanonicalTextOrNull 2048 row.renderedPdfUri),
   ("report_snapshots_rendered_uri_check",
     row.status != .rendered || row.renderedHtmlUri.isSome || row.renderedPdfUri.isSome),
   ("report_snapshots_timestamps_ordered_check", row.createdAt ≤ row.updatedAt)]

/-- `enforce_report_snapshot_lifecycle` for INSERT. -/
def enforceReportSnapshotInsert (new : ReportSnapshot) : Except DbError ReportSnapshot :=
  if new.status ≠ .queued then .error (raised "report snapshots must start queued" "55000")
  else .ok new

/-- INSERT of one row: trigger, CHECK constraints, primary key. -/
def insertReportSnapshotRow (octets : Json → Nat) (new : ReportSnapshot)
    (table : ReportSnapshotTable) : Except DbError ReportSnapshotTable := do
  let row ← enforceReportSnapshotInsert new
  checkAll (row.checks octets)
  require (table.find row.id).isNone (uniqueViolation "report_snapshots_pkey")
  return table.insert row

/-- The columns the trigger freezes, in the order of its `ROW(...)`. -/
structure ReportSnapshotIdentity where
  id : Uuid
  tenantId : Uuid
  sourceType : ReportSourceType
  sourceId : Uuid
  snapshotJson : Json
  createdByUserId : Option Uuid
  createdAt : Instant
  deriving DecidableEq

def ReportSnapshot.identity (row : ReportSnapshot) : ReportSnapshotIdentity where
  id := row.id
  tenantId := row.tenantId
  sourceType := row.sourceType
  sourceId := row.sourceId
  snapshotJson := row.snapshotJson
  createdByUserId := row.createdByUserId
  createdAt := row.createdAt

def admitted : ReportSnapshotStatus → ReportSnapshotStatus → Bool
  | .queued, .rendered | .queued, .failed | .queued, .archived => true
  | .rendered, .archived | .failed, .archived => true
  | _, _ => false

/-- `enforce_report_snapshot_lifecycle` for UPDATE. -/
def enforceReportSnapshotUpdate (clock : Instant) (old new : ReportSnapshot) :
    Except DbError ReportSnapshot :=
  if new.identity ≠ old.identity then
    .error (raised "report snapshot identity is immutable" "55000")
  else if old.status = .archived then
    .error (raised "report snapshot is archived" "55000")
  else if ¬ admitted old.status new.status then
    .error (raised "invalid report snapshot status transition" "55000")
  else .ok { new with updatedAt := clock }

/-- The row an UPDATE of `old` to `new` stores: trigger, then CHECK constraints. -/
def updateReportSnapshotRow (octets : Json → Nat) (clock : Instant) (old new : ReportSnapshot) :
    Except DbError ReportSnapshot := do
  let row ← enforceReportSnapshotUpdate clock old new
  checkAll (row.checks octets)
  return row

theorem update_report_snapshot_row_ok {octets : Json → Nat} {clock : Instant}
    {old new row : ReportSnapshot}
    (accepted : updateReportSnapshotRow octets clock old new = .ok row) :
    row = { new with updatedAt := clock } ∧ new.identity = old.identity := by
  obtain ⟨enforced, triggered, accepted⟩ := bind_ok.mp accepted
  obtain ⟨_, _, stored⟩ := bind_ok.mp accepted
  obtain rfl := Except.ok.inj stored
  unfold enforceReportSnapshotUpdate at triggered
  split_ifs at triggered with changed
  obtain rfl := Except.ok.inj triggered
  exact ⟨rfl, not_not.mp changed⟩

theorem insert_report_snapshot_row_ok {octets : Json → Nat} {new : ReportSnapshot}
    {table next : ReportSnapshotTable}
    (accepted : insertReportSnapshotRow octets new table = .ok next) :
    next = table.insert new ∧ table.find new.id = none := by
  obtain ⟨row, triggered, accepted⟩ := bind_ok.mp accepted
  obtain ⟨_, _, accepted⟩ := bind_ok.mp accepted
  obtain ⟨_, fresh, stored⟩ := bind_ok.mp accepted
  unfold enforceReportSnapshotInsert at triggered
  split_ifs at triggered
  obtain rfl := Except.ok.inj triggered
  exact ⟨(Except.ok.inj stored).symm, Option.isNone_iff_eq_none.mp (require_ok.mp fresh)⟩

end CommitmentOptimizer.Reports.ReportSnapshots
