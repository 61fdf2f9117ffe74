import CommitmentOptimizer.Foundations.Json
import CommitmentOptimizer.Foundations.KeyedTable
import CommitmentOptimizer.Foundations.Schedules
import CommitmentOptimizer.Foundations.SqlConstraints

/-!
# The ecosystem events table

Rows, CHECK constraints and the lifecycle trigger of `ecosystem_events`
(migration 0023), and the statements of `ecosystem-repository.ts`, each of
which commits by itself.
-/

namespace CommitmentOptimizer.Adapters.EcosystemEvents

open Foundations
open Foundations.Schedules
open Foundations.SqlConstraints

set_option autoImplicit false

inductive EcosystemTarget where
  | notificationHub | workflowEngine | invoiceReconciliationEngine
  deriving DecidableEq, Repr

inductive EcosystemEventStatus where
  | queued | sent | failed | disabled | retrying
  deriving DecidableEq, Repr

/-- The columns the trigger freezes, in the order of its `ROW(...)`. -/
structure EcosystemEventIdentity where
  id : Uuid
  tenantId : Uuid
  eventType : String
  eventId : String
  payload : Json
  targetSystem : EcosystemTarget
  createdAt : Instant
  deriving DecidableEq

structure EcosystemEvent extends EcosystemEventIdentity where
  status : EcosystemEventStatus
  nextAttemptAt : Option Instant
  attemptCount : Nat
  lastError : Option String
  updatedAt : Instant
  deriving DecidableEq

abbrev EcosystemEventTable := KeyedTable fun row : EcosystemEvent => row.id

def forbiddenPayloadKeys : List String :=
  ["credentials", "credential", "password", "secret", "token", "api_key", "apiKey",
    "authorization", "cookie", "set-cookie", "raw_file", "raw_bytes", "raw_row", "raw_rows",
    "solver_variable", "solver_variables", "candidate_id"]

def EcosystemEventStatus.isActive : EcosystemEventStatus → Bool
  | queued | retrying => true
  | sent | failed | disabled => false

section Constraints

variable (payloadOctets : Json → Nat)

/-- `payloadOctets` is `octet_length(payload::text)`. -/
def EcosystemEvent.checks (row : EcosystemEvent) : List (String × Bool) :=
  [("ecosystem_events_event_type_check", isCanonicalText 200 row.eventType),
   ("ecosystem_events_event_id_check", isCanonicalText 200 row.eventId),
   ("ecosystem_events_payload_check",
     row.payload.isObject && payloadOctets row.payload ≤ 1048576 &&
     !row.payload.hasAnyKey forbiddenPayloadKeys),
   ("ecosystem_events_attempt_count_check", row.attemptCount ≤ 1000),
   ("ecosystem_events_last_error_check", isCanonicalTextOrNull 2000 row.lastError),
   ("ecosystem_events_status_fields_check",
     (row.status.isActive && row.nextAttemptAt.isSome) ||
     ((row.status == .sent || row.status == .disabled) && row.nextAttemptAt.isNone) ||
     row.status == .failed),
   ("ecosystem_events_timestamps_ordered_check", row.createdAt ≤ row.updatedAt)]

/-- `enforce_ecosystem_event_lifecycle` for INSERT. -/
def enforceEventInsert (new : EcosystemEvent) : Except DbError EcosystemEvent :=
  if ¬ (new.status = .queued ∨ new.status = .disabled) then
    .error (raised "ecosystem events must start queued or disabled" "55000")
  else .ok new

def admitted : EcosystemEventStatus → EcosystemEventStatus → Bool
  | .queued, .retrying | .queued, .sent | .queued, .failed | .queued, .disabled => true
  | .retrying, .retrying | .retrying, .sent | .retrying, .failed | .retrying, .disabled => true
  | _, _ => false

/-- `enforce_ecosystem_event_lifecycle` for UPDATE. -/
def enforceEventUpdate (clock : Instant) (old new : EcosystemEvent) :
    Except DbError EcosystemEvent :=
  if new.toEcosystemEventIdentity ≠ old.toEcosystemEventIdentity then
    .error (raised "ecosystem event identity is immutable" "55000")
  else if ¬ old.status.isActive then
    .error (raised "ecosystem event is terminal" "55000")
  else if ¬ admitted old.status new.status then
    .error (raised "invalid ecosystem event status transition" "55000")
  else .ok { new with updatedAt := clock }

/-- The row an UPDATE of `old` to `new` stores: trigger, then CHECK constraints. -/
def updateEventRow (clock : Instant) (old new : EcosystemEvent) :
    Except DbError EcosystemEvent := do
  let row ← enforceEventUpdate clock old new
  checkAll (row.checks payloadOctets)
  return row

/-- The row an INSERT proposes, before its keys are looked at. -/
def insertEventRow (new : EcosystemEvent) : Except DbError EcosystemEvent := do
  let row ← enforceEventInsert new
  checkAll (row.checks payloadOctets)
  return row

end Constraints

structure EventsDb where
  events : EcosystemEventTable
  tenant : Uuid → Bool
  clock : Instant

/-- `id` is the identifier `gen_random_uuid()` draws, `now` the application's
`new Date()`. -/
structure EnqueueInput where
  id : Uuid
  now : Instant
  tenantId : Uuid
  eventType : String
  eventId : String
  payload : Json
  targetSystem : EcosystemTarget
  enabled : Bool

/-- The row of `ecosystem_events_tenant_target_event_key` for the input. -/
def EventsDb.conflicting (db : EventsDb) (input : EnqueueInput) : Option EcosystemEvent :=
  db.events.rows.find? fun row => row.tenantId = input.tenantId &&
    row.targetSystem = input.targetSystem && row.eventId = input.eventId

/-- The row the INSERT of `enqueue` proposes. -/
def EnqueueInput.row (input : EnqueueInput) (clock : Instant) : EcosystemEvent where
  id := input.id
  tenantId := input.tenantId
  eventType := input.eventType
  eventId := input.eventId
  payload := input.payload
  targetSystem := input.targetSystem
  createdAt := clock
  status := if input.enabled then .queued else .disabled
  nextAttemptAt := if input.enabled then some input.now else none
  attemptCount := 0
  lastError := none
  updatedAt := clock

section Statements

variable (payloadOctets : Json → Nat)

/-- `INSERT ... ON CONFLICT (tenant_id, target_system, event_id) DO UPDATE SET
updated_at = ecosystem_events.updated_at`. The proposed row passes its own
trigger and constraints before the conflict is looked for, and the DO UPDATE
branch is an UPDATE with its trigger. -/
def enqueue (input : EnqueueInput) (db : EventsDb) :
    Except DbError (EcosystemEvent × EventsDb) := do
  let proposed ← insertEventRow payloadOctets (input.row db.clock)
  match db.conflicting input with
  | some old =>
      let row ← updateEventRow payloadOctets db.clock old { old with updatedAt := old.updatedAt }
      return (row, { db with events := db.events.put row })
  | none =>
      require (db.events.find proposed.id).isNone (uniqueViolation "ecosystem_events_pkey")
      require (db.tenant proposed.tenantId) (foreignKeyViolation "ecosystem_events_tenant_id_fkey")
      return (proposed, { db with events := db.events.insert proposed })

/-- `UPDATE ... WHERE id = $1 [AND status = 'retrying'] RETURNING`. -/
def updateEvent (id : Uuid) (matching : EcosystemEvent → Bool)
    (change : EcosystemEvent → EcosystemEvent) (db : EventsDb) :
    Except DbError (Option EcosystemEvent × EventsDb) :=
  match (db.events.find id).filter matching with
  | none => .ok (none, db)
  | some old => do
      let row ← updateEventRow payloadOctets db.clock old (change old)
      return (some row, { db with events := db.events.put row })

/-- `status IN ('queued', 'retrying') AND next_attempt_at <= $1`. -/
def claimable (now : Instant) (row : EcosystemEvent) : Bool :=
  row.status.isActive && row.nextAttemptAt.any (· ≤ now)

/-- `ORDER BY next_attempt_at ASC, created_at ASC, id ASC`. -/
def claimsBefore (left right : EcosystemEvent) : Bool :=
  let leftAt := left.nextAttemptAt.getD 0
  let rightAt := right.nextAttemptAt.getD 0
  leftAt < rightAt || (leftAt == rightAt && (left.createdAt < right.createdAt ||
    (left.createdAt == right.createdAt && left.id ≤ right.id)))

/-- The first row of the ordered list: `LIMIT 1`. -/
def firstClaim : List EcosystemEvent → Option EcosystemEvent
  | [] => none
  | row :: rest =>
      match firstClaim rest with
      | none => some row
      | some other => if claimsBefore row other then some row else some other

/-- `interval '5 minutes'`. -/
def claimInterval : Instant := 300000000

def claimNext (now : Instant) (db : EventsDb) :
    Except DbError (Option EcosystemEvent × EventsDb) :=
  match firstClaim (db.events.rows.filter (claimable now)) with
  | none => .ok (none, db)
  | some row => updateEvent payloadOctets row.id (fun _ => true) (fun old => { old with
      status := .retrying
      attemptCount := old.attemptCount + 1
      nextAttemptAt := some (db.clock + claimInterval) }) db

def isRetrying (row : EcosystemEvent) : Bool := row.status == .retrying

def markSent (id : Uuid) (db : EventsDb) : Except DbError (Option EcosystemEvent × EventsDb) :=
  updateEvent payloadOctets id isRetrying
    (fun old => { old with status := .sent, nextAttemptAt := none, lastError := none }) db

def markRetry (id : Uuid) (nextAttemptAt : Instant) (error : String) (db : EventsDb) :
    Except DbError (Option EcosystemEvent × EventsDb) :=
  updateEvent payloadOctets id isRetrying (fun old => { old with
    status := .retrying
    nextAttemptAt := some nextAttemptAt
    lastError := some error }) db

def markFailed (id : Uuid) (error : String) (db : EventsDb) :
    Except DbError (Option EcosystemEvent × EventsDb) :=
  updateEvent payloadOctets id isRetrying
    (fun old => { old with status := .failed, nextAttemptAt := none, lastError := some error }) db

end Statements

section Rows

variable {payloadOctets : Json → Nat}

theorem update_event_row_ok {clock : Instant} {old new row : EcosystemEvent} :
    updateEventRow payloadOctets clock old new = .ok row ↔
      new.toEcosystemEventIdentity = old.toEcosystemEventIdentity ∧
        old.status.isActive = true ∧ admitted old.status new.status = true ∧
        row = { new with updatedAt := clock } ∧
        ∀ constraint ∈ row.checks payloadOctets, constraint.2 = true := by
  rw [updateEventRow, bind_ok]
  constructor
  · rintro ⟨enforced, triggered, accepted⟩
    obtain ⟨_, checked, stored⟩ := bind_ok.mp accepted
    cases stored
    unfold enforceEventUpdate at triggered
    split_ifs at triggered with changed ended moved
    cases triggered
    exact ⟨not_not.mp changed, ended, moved, rfl, check_all_ok.mp checked⟩
  · rintro ⟨same, active, moved, rfl, checked⟩
    refine ⟨_, ?_, bind_ok.mpr ⟨(), check_all_ok.mpr checked, rfl⟩⟩
    rw [enforceEventUpdate, if_neg (not_not.mpr same), if_neg (not_not.mpr active),
      if_neg (not_not.mpr moved)]

theorem insert_event_row_ok {new row : EcosystemEvent} :
    insertEventRow payloadOctets new = .ok row ↔
      row = new ∧ (new.status = .queued ∨ new.status = .disabled) ∧
        ∀ constraint ∈ new.checks payloadOctets, constraint.2 = true := by
  rw [insertEventRow, bind_ok]
  constructor
  · rintro ⟨enforced, triggered, accepted⟩
    obtain ⟨_, checked, stored⟩ := bind_ok.mp accepted
    cases stored
    unfold enforceEventInsert at triggered
    split_ifs at triggered with started
    cases triggered
    exact ⟨rfl, started, check_all_ok.mp checked⟩
  · rintro ⟨rfl, started, checked⟩
    refine ⟨row, ?_, bind_ok.mpr ⟨(), check_all_ok.mpr checked, rfl⟩⟩
    rw [enforceEventInsert, if_neg (not_not.mpr started)]

end Rows

end CommitmentOptimizer.Adapters.EcosystemEvents
