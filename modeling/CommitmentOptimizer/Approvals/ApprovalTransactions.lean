import CommitmentOptimizer.Approvals.ApprovalLifecycle
import CommitmentOptimizer.Foundations.RowLocking
import CommitmentOptimizer.Tenants.Users

/-!
# The transactions of the approvals repository

`createPending`, `decide` (approve and reject), `expireDue` and
`setWorkflowExecutionId` of `approvals-repository.ts`, statement by statement.
`transaction_timestamp()` is the clock at BEGIN, `clock_timestamp()` the clock
at the statement.
-/

namespace CommitmentOptimizer.Approvals.ApprovalTransactions

open Foundations
open Foundations.SqlConstraints
open Foundations.RowLocking
open Recommendations.RecommendationLifecycle
open Tenants.Users
open ApprovalLifecycle

set_option autoImplicit false

structure TenantProfile where
  name : String
  legalName : String
  displayName : String
  contactEmail : Option String
  contactPhone : Option String
  supportUrl : Option String
  financeOwnerEmail : Option String
  isActive : Bool
  deriving DecidableEq, Repr

structure UserProfile where
  email : String
  role : UserRole
  isActive : Bool
  deriving DecidableEq, Repr

/-- The tables that the approvals only read. -/
structure Directory where
  tenant : Uuid → Option TenantProfile
  user : Uuid → Uuid → Option UserProfile
  optimizerRun : Uuid → Uuid → Option (Provider × Instrument)

structure ApprovalsDb where
  recommendations : RecommendationTable
  approvals : ApprovalTable
  directory : Directory
  clock : Instant

/-- Rows, and the entries of `approvals_recommendation_state_key`. -/
inductive ApprovalsKey where
  | recommendation (id : Uuid)
  | approval (id : Uuid)
  | openApproval (tenantId recommendationId : Uuid)
  deriving DecidableEq, Repr

inductive ApprovalsAbort where
  | notFound
  | invalidState (message : String)
  | database (error : DbError)
  deriving DecidableEq, Repr

abbrev ApprovalsTxn (Value : Type) := Txn ApprovalsDb ApprovalsKey ApprovalsAbort Value

/-- `approvalId` is the identifier `gen_random_uuid()` draws. -/
structure ApprovalInsertInput where
  approvalId : Uuid
  recommendationId : Uuid
  requestedByUserId : Option Uuid
  assignedToUserId : Option Uuid
  reason : Option String
  expiresAt : Instant
  deriving DecidableEq, Repr

structure ApprovalDecisionInput where
  approvalId : Uuid
  decisionReason : String
  deriving DecidableEq, Repr

inductive Decision where
  | approved | rejected
  deriving DecidableEq, Repr

def Decision.approval : Decision → ApprovalStatus
  | approved => .approved
  | rejected => .rejected

def Decision.recommendation : Decision → RecommendationStatus
  | approved => .approved
  | rejected => .rejected

def mapWriteError (error : DbError) : ApprovalsAbort :=
  if error.code = "23505" ∨ error.code = "55000" then
    .invalidState "Approval state is no longer current."
  else .database error

namespace ApprovalsDb

def findRecommendation (db : ApprovalsDb) (tenantId id : Uuid) : Option Recommendation :=
  (db.recommendations.find id).filter fun row => row.tenantId = tenantId

def findApproval (db : ApprovalsDb) (tenantId id : Uuid) : Option Approval :=
  (db.approvals.find id).filter fun row => row.tenantId = tenantId

/-- The row, if any, in `approvals_recommendation_state_key` for the pair. -/
def openApproval (db : ApprovalsDb) (tenantId recommendationId : Uuid) : Option Approval :=
  db.approvals.rows.find? fun row =>
    row.status.isOpen && row.tenantId = tenantId && row.recommendationId = recommendationId

def putRecommendation (row : Recommendation) (db : ApprovalsDb) : ApprovalsDb :=
  { db with recommendations := db.recommendations.put row }

def putApproval (row : Approval) (db : ApprovalsDb) : ApprovalsDb :=
  { db with approvals := db.approvals.put row }

def insertApproval (row : Approval) (db : ApprovalsDb) : ApprovalsDb :=
  { db with approvals := db.approvals.insert row }

end ApprovalsDb

def readSnapshotContext (db : ApprovalsDb) (tenantId : Uuid) (assignedToUserId : Option Uuid) :
    Option SnapshotContext := do
  let tenant ← (db.directory.tenant tenantId).filter (·.isActive)
  let assignee := assignedToUserId.bind fun id => (db.directory.user tenantId id).filter fun user =>
    user.isActive && (user.role == .financeApprover || user.role == .tenantAdmin)
  if assignedToUserId.isSome && assignee.isNone then none
  else return {
    tenantName := tenant.name
    tenantLegalName := tenant.legalName
    tenantDisplayName := tenant.displayName
    tenantContactEmail := tenant.contactEmail
    tenantContactPhone := tenant.contactPhone
    tenantSupportUrl := tenant.supportUrl
    tenantFinanceOwnerEmail := tenant.financeOwnerEmail
    assignedToEmail := assignee.map (·.email) }

def buildApprovalSnapshot (recommendation : Recommendation) (context : SnapshotContext)
    (input : ApprovalInsertInput) : ApprovalSnapshot where
  contractVersion := "approval_packet:v1"
  tenant := context
  recommendation :=
    { id := recommendation.id
      type := recommendation.recommendationType
      provider := recommendation.provider
      instrument := recommendation.instrument
      serviceCode := recommendation.serviceCode
      region := recommendation.region
      termMonths := recommendation.termMonths
      commitmentAmountCents := recommendation.commitmentAmountCents
      expectedSavingsCents := recommendation.expectedSavingsCents
      p95DownsideLossCents := recommendation.p95DownsideLossCents
      utilizationP50Bps := recommendation.utilizationP50Bps
      utilizationP95Bps := recommendation.utilizationP95Bps
      confidenceScore := recommendation.confidenceScore
      riskBand := recommendation.riskBand
      explanation := recommendation.explanation }
  approval :=
    { status := "pending"
      assignedTo := context.assignedToEmail
      expiresAt := input.expiresAt
      decisionReason := none
      requestReason := input.reason }

section Statements

variable (snapshotOctets : ApprovalSnapshot → Nat)

/-- The users and the tenant an approval refers to. -/
def foreignKeys (db : ApprovalsDb) (row : Approval) : Except DbError Unit := do
  let user (id : Option Uuid) := id.all fun id => (db.directory.user row.tenantId id).isSome
  require (db.directory.tenant row.tenantId).isSome (foreignKeyViolation "approvals_tenant_id_fkey")
  require (db.findRecommendation row.tenantId row.recommendationId).isSome
    (foreignKeyViolation "approvals_tenant_recommendation_fkey")
  require (user row.requestedByUserId)
    (foreignKeyViolation "approvals_tenant_requested_user_fkey")
  require (user row.assignedToUserId) (foreignKeyViolation "approvals_tenant_assigned_user_fkey")

/-- `INSERT INTO approvals`: the trigger reads the recommendation FOR SHARE,
then CHECK constraints, the two unique indexes and the foreign keys follow. -/
def insertApproval (new : Approval) : ApprovalsTxn Approval := do
  let recommendation ← Txn.selectForUpdate (.recommendation new.recommendationId)
    fun db => db.findRecommendation new.tenantId new.recommendationId
  let row ← Txn.attempt
    ((insertApprovalRow snapshotOctets recommendation new).mapError mapWriteError)
  Txn.lockRow (.approval row.id)
  Txn.lockRow (.openApproval row.tenantId row.recommendationId)
  let db ← Txn.view
  Txn.attempt ((require (db.approvals.find row.id).isNone
    (uniqueViolation "approvals_pkey")).mapError mapWriteError)
  Txn.attempt ((require (db.openApproval row.tenantId row.recommendationId).isNone
    (uniqueViolation "approvals_recommendation_state_key")).mapError mapWriteError)
  Txn.attempt ((foreignKeys db row).mapError mapWriteError)
  Txn.save (ApprovalsDb.insertApproval row)
  return row

def createPending (tenantId : Uuid) (input : ApprovalInsertInput) (begun : ApprovalsDb) :
    ApprovalsTxn Approval := do
  let selected ← Txn.selectForUpdate (.recommendation input.recommendationId)
    fun db => db.findRecommendation tenantId input.recommendationId
  match selected with
  | none => Txn.abort .notFound
  | some recommendation =>
      if recommendation.status ≠ .pendingApproval ∨ ¬ recommendation.approvalRequired then
        Txn.abort (.invalidState "Recommendation is not awaiting approval.")
      else
        let db ← Txn.view
        match readSnapshotContext db tenantId input.assignedToUserId with
        | none => Txn.abort .notFound
        | some context =>
            insertApproval snapshotOctets
              { id := input.approvalId
                tenantId := tenantId
                recommendationId := input.recommendationId
                requestedByUserId := input.requestedByUserId
                assignedToUserId := input.assignedToUserId
                approvalSnapshot := buildApprovalSnapshot recommendation context input
                requestedAt := begun.clock
                expiresAt := input.expiresAt
                createdAt := begun.clock
                status := .pending
                workflowExecutionId := none
                decisionReason := none
                decidedAt := none
                updatedAt := begun.clock }

/-- `UPDATE recommendations SET status = ... WHERE tenant_id AND id AND status =
'pending_approval'`: no row when nothing matches. -/
def settleRecommendation (onError : DbError → ApprovalsAbort) (tenantId id : Uuid)
    (status : RecommendationStatus) : ApprovalsTxn (Option Recommendation) := do
  let matched ← Txn.selectForUpdate (.recommendation id) fun db =>
    (db.findRecommendation tenantId id).filter fun row => row.status = .pendingApproval
  match matched with
  | none => return none
  | some old =>
      let db ← Txn.view
      let row ← Txn.attempt
        ((updateRecommendationRow db.clock old { old with status := status }).mapError onError)
      Txn.save (ApprovalsDb.putRecommendation row)
      return some row

/-- `UPDATE approvals SET ... WHERE ... RETURNING`: the row leaves the partial
unique index when its status closes. -/
def settleApproval (onError : DbError → ApprovalsAbort) (id : Uuid)
    (select : ApprovalsDb → Option Approval) (change : Approval → Approval) :
    ApprovalsTxn (Option Approval) := do
  let matched ← Txn.selectForUpdate (.approval id) select
  match matched with
  | none => return none
  | some old =>
      Txn.lockRow (.openApproval old.tenantId old.recommendationId)
      let db ← Txn.view
      let row ← Txn.attempt
        ((updateApprovalRow snapshotOctets db.clock old (change old)).mapError onError)
      Txn.save (ApprovalsDb.putApproval row)
      return some row

def decide (tenantId : Uuid) (input : ApprovalDecisionInput) (status : Decision)
    (begun : ApprovalsDb) : ApprovalsTxn (Option Approval) := do
  let selected ← Txn.selectForUpdate (.approval input.approvalId)
    fun db => db.findApproval tenantId input.approvalId
  match selected with
  | none => return none
  | some approval =>
      if approval.status ≠ .pending then
        Txn.abort (.invalidState "Approval is not pending.")
      else
        let _ ← settleRecommendation mapWriteError tenantId approval.recommendationId
          status.recommendation
        settleApproval snapshotOctets mapWriteError input.approvalId
          (fun db => db.findApproval tenantId input.approvalId)
          fun row => { row with
            status := status.approval
            decisionReason := some input.decisionReason
            decidedAt := some begun.clock }

/-- `WHERE status = 'pending' AND expires_at <= $1`. -/
def due (now : Instant) (row : Approval) : Bool :=
  row.status = .pending && row.expiresAt ≤ now

/-- The `due` rows in the order `expires_at ASC, id ASC`. -/
def dueApprovals (now : Instant) (db : ApprovalsDb) : List Approval :=
  (db.approvals.rows.filter (due now)).mergeSort fun left right =>
    left.expiresAt < right.expiresAt ||
      (left.expiresAt = right.expiresAt && left.id ≤ right.id)

/-- The keys of the snapshot's due rows that are still due when they are locked. -/
def dueKeys (now : Instant) (snapshot db : ApprovalsDb) : List ApprovalsKey :=
  ((dueApprovals now snapshot).filter fun row => (db.approvals.find row.id).any (due now)).map
    fun row => .approval row.id

/-- The rows of `due JOIN recommendations` that the second part updates. -/
def expirable (now : Instant) (snapshot : ApprovalsDb) (locked : List ApprovalsKey) :
    List Approval :=
  (dueApprovals now snapshot).filter fun row => .approval row.id ∈ locked &&
    (snapshot.findRecommendation row.tenantId row.recommendationId).any
      fun recommendation => recommendation.status = .pendingApproval

/-- The rows of `approvals JOIN expired_recommendations` that the third part tries. -/
def pendingRows (snapshot : ApprovalsDb) (expired : List Recommendation) : List Approval :=
  snapshot.approvals.rows.filter fun row =>
    row.status = .pending && expired.any fun recommendation =>
      recommendation.tenantId = row.tenantId && recommendation.id = row.recommendationId

structure ApprovalExpiryResult where
  processed : Bool
  approvalIds : List Uuid
  recommendationIds : List Uuid
  deriving DecidableEq, Repr

/-- One statement with three common table expressions over one snapshot: lock
the due approvals, expire their recommendations, then expire the pending
approvals of the recommendations that moved. -/
def expireDue (now : Instant) (limit : Nat) (snapshot : ApprovalsDb) :
    ApprovalsTxn ApprovalExpiryResult := do
  let locked ← Txn.lockRows (dueKeys now snapshot) limit
  let expired ← Txn.forEach
    (fun row : Approval => settleRecommendation .database row.tenantId row.recommendationId .expired)
    [] (expirable now snapshot locked)
  let settled ← Txn.forEach
    (fun row : Approval => settleApproval snapshotOctets .database row.id
      (fun db => (db.approvals.find row.id).filter fun current => current.status = .pending)
      fun current => { current with status := .expired, decidedAt := some now })
    [] (pendingRows snapshot expired)
  return {
    processed := !settled.isEmpty
    approvalIds := settled.map (·.id)
    recommendationIds := settled.map (·.recommendationId) }

def setWorkflowExecutionId (tenantId approvalId : Uuid) (executionId : String) :
    ApprovalsTxn (Option Approval) :=
  settleApproval snapshotOctets .database approvalId
    (fun db => (db.findApproval tenantId approvalId).filter fun row =>
      row.workflowExecutionId.isNone)
    fun row => { row with workflowExecutionId := some executionId }

/-- The write of `insertRecommendation` in `optimizer-runs-repository.ts`: new
recommendations keep arriving while approvals are handled. -/
def insertRecommendation (identity : RecommendationIdentity) (begun : ApprovalsDb) :
    ApprovalsTxn Unit := do
  let new : Recommendation :=
    { identity with
      createdAt := begun.clock
      status := if identity.approvalRequired then .pendingApproval else .ready
      updatedAt := begun.clock }
  Txn.lockRow (.recommendation new.id)
  let db ← Txn.view
  let _ ← Txn.attempt ((insertRecommendationRow
    (db.directory.optimizerRun new.tenantId new.optimizerRunId) new
    db.recommendations).mapError .database)
  Txn.save fun db => { db with recommendations := db.recommendations.insert new }

end Statements

inductive ApprovalsRequest where
  | createPending (tenantId : Uuid) (input : ApprovalInsertInput)
  | decide (tenantId : Uuid) (input : ApprovalDecisionInput) (status : Decision)
  | expireDue (now : Instant) (limit : Nat)
  | setWorkflowExecutionId (tenantId approvalId : Uuid) (executionId : String)
  | insertRecommendation (identity : RecommendationIdentity)

inductive ApprovalsValue where
  | approval (row : Option Approval)
  | expiry (result : ApprovalExpiryResult)
  | stored
  deriving DecidableEq, Repr

/-- `begun` is the database at `BEGIN`, or the snapshot of the only statement. -/
def approvalsProgram (snapshotOctets : ApprovalSnapshot → Nat) :
    ApprovalsRequest → ApprovalsDb → ApprovalsTxn ApprovalsValue
  | .createPending tenantId input, begun => do
      return .approval (some (← createPending snapshotOctets tenantId input begun))
  | .decide tenantId input status, begun => do
      return .approval (← decide snapshotOctets tenantId input status begun)
  | .expireDue now limit, begun => do
      return .expiry (← expireDue snapshotOctets now limit begun)
  | .setWorkflowExecutionId tenantId approvalId executionId, _ => do
      return .approval (← setWorkflowExecutionId snapshotOctets tenantId approvalId executionId)
  | .insertRecommendation identity, begun => do
      insertRecommendation identity begun
      return .stored

/-- What moves without a transaction of the approvals: time, and the tables the
approvals only read. -/
inductive ApprovalsDrift where
  | tick (elapsed : Nat)
  | directory (current : Directory)

def approvalsDrift : ApprovalsDrift → ApprovalsDb → ApprovalsDb
  | .tick elapsed, db => { db with clock := db.clock + elapsed }
  | .directory current, db => { db with directory := current }

abbrev ApprovalsSystem :=
  System ApprovalsDb ApprovalsKey ApprovalsAbort ApprovalsValue ApprovalsRequest

abbrev ApprovalsAction := Action ApprovalsRequest ApprovalsDrift

/-- One statement of one of the interleaved transactions, or a drift. -/
abbrev approvalsStep (snapshotOctets : ApprovalSnapshot → Nat) :
    ApprovalsSystem → ApprovalsAction → Option ApprovalsSystem :=
  step (approvalsProgram snapshotOctets) approvalsDrift

end CommitmentOptimizer.Approvals.ApprovalTransactions
