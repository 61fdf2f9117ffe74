import CommitmentOptimizer.Adapters.EventHistory
import CommitmentOptimizer.Approvals.ApprovalLifecycle

/-!
# The ecosystem dispatcher

`processNext` of `ecosystem-service.ts` as a state machine with one step for
each call it awaits, next to the events that other processes enqueue and the
approvals that they decide.
-/

namespace CommitmentOptimizer.Adapters.EcosystemDispatcher

open Foundations
open Foundations.SqlConstraints
open EcosystemEvents
open EventHistory
open Approvals.ApprovalLifecycle

set_option autoImplicit false

structure AdapterConfig where
  notificationHubUrl : String
  notificationHubApiKey : String
  workflowEngineUrl : String
  workflowEngineApiKey : String
  approvalWorkflowId : String

structure HttpRequest where
  url : String
  apiKey : String
  idempotencyKey : String
  body : Json

/-- `fetch` throws, or returns a status and the body it could parse. -/
inductive Reply where
  | threw
  | response (status : Nat) (json : Option Json)

/-- What is outside the repository's code: `new URL(path, base)`, which throws
on a bad base, and the length of a `jsonb` as text. `recorder` says whether
the service was given `setWorkflowExecutionId`. -/
structure Platform where
  config : AdapterConfig
  resolve : String → String → Option String
  payloadOctets : Json → Nat
  snapshotOctets : ApprovalSnapshot → Nat
  recorder : Bool

def isUnreserved (character : Char) : Bool :=
  character.isAlphanum || "-_.!~*'()".toList.contains character

/-- `encodeURIComponent`. -/
def encodeUriComponent (text : String) : String :=
  let percent (byte : UInt8) : List Char :=
    '%' :: (Nat.digitChar (byte.toNat / 16)).toUpper :: [(Nat.digitChar (byte.toNat % 16)).toUpper]
  String.ofList (text.toList.flatMap fun character =>
    if isUnreserved character then [character]
    else (String.utf8EncodeChar character).flatMap percent)

def jsonRequest (url apiKey : String) (event : EcosystemEvent) (body : Json) : HttpRequest where
  url := url
  apiKey := apiKey
  idempotencyKey := event.eventId
  body := body

/-- `none` where the source throws. -/
def requestFor (platform : Platform) (event : EcosystemEvent) : Option HttpRequest :=
  match event.targetSystem with
  | .notificationHub => do
      let url ← platform.resolve "/api/events" platform.config.notificationHubUrl
      return jsonRequest url platform.config.notificationHubApiKey event (.object
        [("event_type", .string event.eventType), ("event_id", .string event.eventId),
         ("tenant_id", .string (uuidText event.tenantId)), ("payload", event.payload)])
  | .workflowEngine =>
      if platform.config.approvalWorkflowId = "" then none
      else do
        let path := "/api/workflows/" ++ encodeUriComponent platform.config.approvalWorkflowId ++
          "/execute"
        let url ← platform.resolve path platform.config.workflowEngineUrl
        return jsonRequest url platform.config.workflowEngineApiKey event (.object
          [("event_id", .string event.eventId), ("trigger_data", event.payload)])
  | .invoiceReconciliationEngine => none

/-- The trimmed characters of a string of 1 to 512 code units. -/
def stringValue : Option Json → Option (List Char)
  | some (.string text) =>
      let normalized := jsTrim text.toList
      if normalized ≠ [] ∧ utf16Length normalized ≤ 512 then some normalized else none
  | _ => none

def responseExecutionId : Option Json → Option (List Char)
  | some (.object fields) =>
      let record := Json.object fields
      (stringValue (record.field "execution_id")).or
        ((stringValue (record.field "executionId")).or (stringValue (record.field "id")))
  | _ => none

/-- In milliseconds. -/
def backoffMs (attempt : Nat) : Nat := min (60 * 60 * 1000) (1000 * 2 ^ (attempt - 1))

/-- `setWorkflowExecutionId` of `approvals-repository.ts` as one statement: the
parameters are converted first, then the UPDATE runs on the row it matches. -/
def recordExecution (snapshotOctets : ApprovalSnapshot → Nat) (clock : Instant) (tenantId : Uuid)
    (approvalId executionId : List Char) (approvals : ApprovalTable) :
    Except DbError ApprovalTable :=
  match uuidOfText approvalId with
  | none => .error (invalidText "uuid")
  | some id =>
      if '\x00' ∈ executionId then .error invalidEncoding
      else
        match (approvals.find id).filter fun row =>
            row.tenantId = tenantId && row.workflowExecutionId.isNone with
        | none => .ok approvals
        | some old => do
            let row ← updateApprovalRow snapshotOctets clock old
              { old with workflowExecutionId := some (String.ofList executionId) }
            return approvals.put row

/-- Where `processNext` stands: what it does next. -/
inductive Phase where
  | idle
  | sending (event : EcosystemEvent)
  | recording (event : EcosystemEvent) (approvalId executionId : List Char)
  | marking (event : EcosystemEvent)
  | giving (event : EcosystemEvent) (error : String)

structure Delivery where
  event : Uuid
  acknowledged : Bool
  deriving DecidableEq, Repr

/-- `delivered` is the history of requests that left the process. -/
structure DispatchState where
  db : EventsDb
  approvals : ApprovalTable
  phase : Phase
  delivered : List Delivery

/-- The first five are the dispatcher's calls, with the answers and the
application clock the environment gives them; the others are the environment. -/
inductive DispatchAction where
  | claim (now : Instant)
  | send (reply : Reply)
  | record
  | markSent
  | giveUp (now : Instant)
  | enqueue (input : EnqueueInput)
  | approvals (current : ApprovalTable)
  | tick (elapsed : Nat)
  | tenants (current : Uuid → Bool)

def requestFailed : String := "ADAPTER_REQUEST_FAILED"

/-- `response.status >= 200 && response.status < 300`. -/
def Reply.acknowledges : Reply → Bool
  | threw => false
  | response status _ => 200 ≤ status && status < 300

/-- The branch after `fetch`. -/
def afterFetch (platform : Platform) (event : EcosystemEvent) : Reply → Phase
  | .threw => .giving event requestFailed
  | .response status json =>
      if 200 ≤ status ∧ status < 300 then
        match stringValue (event.payload.field "approval_id"), responseExecutionId json with
        | some approvalId, some executionId =>
            if event.targetSystem = .workflowEngine ∧ platform.recorder = true then
              .recording event approvalId executionId
            else .marking event
        | _, _ => .marking event
      else .giving event ("REMOTE_HTTP_" ++ toString status)

/-- What the other transactions may do to the approvals: insert rows without an
execution identifier, and never touch that column. -/
def approvalsMove (before after : ApprovalTable) : Bool :=
  after.rows.all fun row =>
    match before.find row.id with
    | some old => row.workflowExecutionId = old.workflowExecutionId
    | none => row.workflowExecutionId.isNone

def dispatchStep (platform : Platform) (state : DispatchState) :
    DispatchAction → Option DispatchState
  | .claim now =>
      match state.phase with
      | .idle =>
          match claimNext platform.payloadOctets now state.db with
          | .ok (some event, db) => some { state with db := db, phase := .sending event }
          | .ok (none, db) => some { state with db := db }
          | .error _ => some state
      | _ => none
  | .send reply =>
      match state.phase with
      | .sending event =>
          match requestFor platform event with
          | none => some { state with phase := .giving event requestFailed }
          | some _ => some { state with
              phase := afterFetch platform event reply
              delivered := state.delivered ++ [⟨event.id, reply.acknowledges⟩] }
      | _ => none
  | .record =>
      match state.phase with
      | .recording event approvalId executionId =>
          match recordExecution platform.snapshotOctets state.db.clock event.tenantId approvalId
              executionId state.approvals with
          | .ok approvals => some { state with approvals := approvals, phase := .marking event }
          | .error _ => some { state with phase := .giving event requestFailed }
      | _ => none
  | .markSent =>
      match state.phase with
      | .marking event =>
          match markSent platform.payloadOctets event.id state.db with
          | .ok (_, db) => some { state with db := db, phase := .idle }
          | .error _ => some { state with phase := .giving event requestFailed }
      | _ => none
  | .giveUp now =>
      match state.phase with
      | .giving event error =>
          let outcome :=
            if event.attemptCount ≥ 5 then markFailed platform.payloadOctets event.id error state.db
            else markRetry platform.payloadOctets event.id
              (now + 1000 * backoffMs event.attemptCount) error state.db
          some { state with db := settled state.db outcome, phase := .idle }
      | _ => none
  | .enqueue input =>
      some { state with db := settled state.db (enqueue platform.payloadOctets input state.db) }
  | .approvals current =>
      if approvalsMove state.approvals current then some { state with approvals := current }
      else none
  | .tick elapsed => some { state with db := { state.db with clock := state.db.clock + elapsed } }
  | .tenants current => some { state with db := { state.db with tenant := current } }

end CommitmentOptimizer.Adapters.EcosystemDispatcher
