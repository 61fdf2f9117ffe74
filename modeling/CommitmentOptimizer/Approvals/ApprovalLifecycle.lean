import CommitmentOptimizer.Recommendations.RecommendationLifecycle

/-!
# The approvals table

Rows, CHECK constraints and the lifecycle trigger of `approvals` (migration
0021), and the decision packet that an approval freezes.
-/

namespace CommitmentOptimizer.Approvals.ApprovalLifecycle

open Foundations
open Foundations.SqlConstraints
open Recommendations.RecommendationLifecycle

set_option autoImplicit false

inductive ApprovalStatus where
  | queued | pending | approved | rejected | expired | failed
  deriving DecidableEq, Repr

/-- What `readSnapshotContext` selects about the tenant and the assignee. -/
structure SnapshotContext where
  tenantName : String
  tenantLegalName : String
  tenantDisplayName : String
  tenantContactEmail : Option String
  tenantContactPhone : Option String
  tenantSupportUrl : Option String
  tenantFinanceOwnerEmail : Option String
  assignedToEmail : Option String
  deriving DecidableEq, Repr

/-- The `recommendation` member of the packet. -/
structure SnapshotRecommendation where
  id : Uuid
  type : RecommendationType
  provider : Provider
  instrument : Instrument
  serviceCode : String
  region : String
  termMonths : Int
  commitmentAmountCents : Int
  expectedSavingsCents : Int
  p95DownsideLossCents : Int
  utilizationP50Bps : Int
  utilizationP95Bps : Int
  confidenceScore : Int
  riskBand : RiskBand
  explanation : Explanation
  deriving DecidableEq, Repr

/-- The `approval` member of the packet. -/
structure SnapshotApproval where
  status : String
  assignedTo : Option String
  expiresAt : Instant
  decisionReason : Option String
  requestReason : Option String
  deriving DecidableEq, Repr

/-- The `approval_packet:v1` object; its `tenant` member is the context without
the assignee. -/
structure ApprovalSnapshot where
  contractVersion : String
  tenant : SnapshotContext
  recommendation : SnapshotRecommendation
  approval : SnapshotApproval
  deriving DecidableEq, Repr

/-- The columns the trigger freezes, in the order of its `ROW(...)`. -/
structure ApprovalIdentity where
  id : Uuid
  tenantId : Uuid
  recommendationId : Uuid
  requestedByUserId : Option Uuid
  assignedToUserId : Option Uuid
  approvalSnapshot : ApprovalSnapshot
  requestedAt : Instant
  expiresAt : Instant
  createdAt : Instant
  deriving DecidableEq, Repr

structure Approval extends ApprovalIdentity where
  status : ApprovalStatus
  workflowExecutionId : Option String
  decisionReason : Option String
  decidedAt : Option Instant
  updatedAt : Instant
  deriving DecidableEq, Repr

abbrev ApprovalTable := KeyedTable fun row : Approval => row.id

/-- `status IN ('queued', 'pending')`: the rows of the partial unique index. -/
def ApprovalStatus.isOpen : ApprovalStatus → Bool
  | queued | pending => true
  | approved | rejected | expired | failed => false

/-- `snapshotOctets` is `octet_length(approval_snapshot::text)`. -/
def Approval.checks (snapshotOctets : ApprovalSnapshot → Nat) (row : Approval) :
    List (String × Bool) :=
  [("approvals_workflow_execution_id_check",
     isCanonicalTextOrNull 512 row.workflowExecutionId),
   ("approvals_decision_reason_check", isCanonicalTextOrNull 2000 row.decisionReason),
   ("approvals_snapshot_object_check", snapshotOctets row.approvalSnapshot ≤ 1048576),
   ("approvals_timestamps_ordered_check",
     row.requestedAt < row.expiresAt && row.requestedAt ≤ row.createdAt &&
     row.createdAt ≤ row.updatedAt &&
     row.decidedAt.all (row.requestedAt ≤ ·) &&
     (row.status.isOpen || row.decidedAt.isSome) &&
     (!row.status.isOpen || row.decidedAt.isNone))]

def admitted : ApprovalStatus → ApprovalStatus → Bool
  | .queued, .pending | .queued, .expired | .queued, .failed => true
  | .pending, .approved | .pending, .rejected | .pending, .expired | .pending, .failed => true
  | _, _ => false

/-- `enforce_approval_lifecycle` for INSERT. `recommendation` is the row of the
tenant with that id, if there is one. -/
def enforceApprovalInsert (recommendation : Option Recommendation) (new : Approval) :
    Except DbError Approval :=
  if recommendation.any fun row => row.status ≠ .pendingApproval || !row.approvalRequired then
    .error (raised "approvals require a pending approval recommendation" "55000")
  else if ¬ new.status.isOpen then
    .error (raised "approvals must start queued or pending" "55000")
  else .ok new

/-- `enforce_approval_lifecycle` for UPDATE. -/
def enforceApprovalUpdate (clock : Instant) (old new : Approval) : Except DbError Approval :=
  if new.toApprovalIdentity ≠ old.toApprovalIdentity then
    .error (raised "approval request identity is immutable" "55000")
  else if ¬ old.status.isOpen then
    .error (raised "approval is terminal" "55000")
  else if ¬ admitted old.status new.status then
    .error (raised "invalid approval status transition" "55000")
  else if (new.status = .approved ∨ new.status = .rejected) ∧ new.decisionReason = none then
    .error (raised "approval decisions require a reason" "55000")
  else .ok { new with updatedAt := clock }

/-- The row an INSERT stores, before its keys are looked at. -/
def insertApprovalRow (snapshotOctets : ApprovalSnapshot → Nat)
    (recommendation : Option Recommendation) (new : Approval) : Except DbError Approval := do
  let row ← enforceApprovalInsert recommendation new
  checkAll (row.checks snapshotOctets)
  return row

/-- The row an UPDATE of `old` to `new` stores: trigger, then CHECK constraints. -/
def updateApprovalRow (snapshotOctets : ApprovalSnapshot → Nat) (clock : Instant)
    (old new : Approval) : Except DbError Approval := do
  let row ← enforceApprovalUpdate clock old new
  checkAll (row.checks snapshotOctets)
  return row

variable {snapshotOctets : ApprovalSnapshot → Nat}

theorem insert_approval_row_ok {recommendation : Recommendation} {new row : Approval}
    (accepted : insertApprovalRow snapshotOctets (some recommendation) new = .ok row) :
    row = new ∧ recommendation.status = .pendingApproval ∧
      recommendation.approvalRequired = true ∧ new.status.isOpen = true := by
  obtain ⟨enforced, triggered, accepted⟩ := bind_ok.mp accepted
  obtain ⟨_, _, stored⟩ := bind_ok.mp accepted
  cases stored
  unfold enforceApprovalInsert at triggered
  split_ifs at triggered with parent opened
  cases triggered
  simp only [Option.any_some, Bool.or_eq_true, decide_eq_true_eq, Bool.not_eq_true', not_or,
    not_not, Bool.not_eq_false] at parent
  exact ⟨rfl, parent.1, parent.2, opened⟩

/-- What an accepted UPDATE stores: the frozen columns of the old row, the new
values of the others, and the statement's clock. -/
theorem update_approval_row_ok {clock : Instant} {old new row : Approval}
    (accepted : updateApprovalRow snapshotOctets clock old new = .ok row) :
    row.toApprovalIdentity = old.toApprovalIdentity ∧ row.status = new.status ∧
      row.decisionReason = new.decisionReason ∧ row.decidedAt = new.decidedAt ∧
      old.status.isOpen = true ∧ admitted old.status new.status = true := by
  obtain ⟨enforced, triggered, accepted⟩ := bind_ok.mp accepted
  obtain ⟨_, _, stored⟩ := bind_ok.mp accepted
  cases stored
  unfold enforceApprovalUpdate at triggered
  split_ifs at triggered with changed ended moved unexplained
  cases triggered
  exact ⟨not_not.mp changed, rfl, rfl, rfl, ended, moved⟩

/-- An UPDATE that leaves the status alone is refused in every status. -/
theorem update_same_status_refused {clock : Instant} {old new : Approval}
    (same : new.status = old.status) :
    ∃ error, updateApprovalRow snapshotOctets clock old new = .error error ∧
      error.code = "55000" := by
  have refused : admitted old.status old.status = false := by cases old.status <;> rfl
  unfold updateApprovalRow enforceApprovalUpdate
  rw [same, if_pos (show ¬ admitted old.status old.status = true by simp [refused])]
  split_ifs <;> exact ⟨_, rfl, rfl⟩

end CommitmentOptimizer.Approvals.ApprovalLifecycle
