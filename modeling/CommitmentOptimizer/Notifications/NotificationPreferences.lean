import Mathlib.Data.List.Sort
import CommitmentOptimizer.Imports.UsageRows
import CommitmentOptimizer.Notifications.NotificationTables
import CommitmentOptimizer.Sessions.Authentication

/-!
# Updating notification preferences

`parseNotificationPreferences` of `notifications-input.ts`,
`updateNotificationPreferences` of `notifications-service.ts` and
`replacePreferences` of `notifications-repository.ts` with its transaction. The
requests of a tenant are serialized by the lock on the tenant's row.
-/

namespace CommitmentOptimizer.Notifications.NotificationPreferences

open Foundations
open Foundations.SqlConstraints
open Tenants.Users
open Sessions.Authentication (RequestContext)
open Imports.UsageRows (hasControlCharacter)
open NotificationTables

set_option autoImplicit false

structure AppError where
  code : String
  message : String
  statusCode : Nat
  deriving DecidableEq, Repr

def invalid : AppError := ⟨"VALIDATION_ERROR", "Request is invalid.", 400⟩

def forbidden : AppError := ⟨"FORBIDDEN", "Access denied.", 403⟩

def preferenceConflict : AppError :=
  ⟨"NOTIFICATION_PREFERENCE_LOCKED",
    "This notification preference requires tenant-admin control.", 409⟩

def unavailable : AppError :=
  ⟨"NOTIFICATIONS_UNAVAILABLE", "Notifications are temporarily unavailable.", 503⟩

section Parser

structure NotificationPreferenceInput where
  eventType : String
  channel : NotificationChannel
  urgency : NotificationUrgency
  enabled : Bool
  lockedByAdmin : Option Bool
  deriving DecidableEq

def record (allowed : List String) : Json → Option Json
  | .object fields =>
      if fields.all fun field => allowed.contains field.1 then some (.object fields) else none
  | _ => none

/-- The text as it was sent: only a normalized copy is looked at. -/
def safeText (normalize : List Char → List Char) (max : Nat) : Option Json → Option String
  | some (.string value) =>
      let normalized := jsTrim (normalize value.toList)
      if 0 < normalized.length ∧ normalized.length ≤ max ∧
          hasControlCharacter normalized = false then some value
      else none
  | _ => none

/-- `isOneOf(value, …)`, read as the value it is. -/
def isOneOf {Value : Type} (text : Value → String) (allowed : List Value) :
    Option Json → Option Value
  | some (.string value) => allowed.find? fun candidate => text candidate = value
  | _ => none

def parseEntry (normalize : List Char → List Char) (entry : Json) :
    Option NotificationPreferenceInput := do
  let row ← record ["event_type", "channel", "urgency", "enabled", "locked_by_admin"] entry
  let eventType ← safeText normalize 200 (row.field "event_type")
  let channel ← isOneOf channelText [.inApp, .email] (row.field "channel")
  let urgency ← isOneOf urgencyText [.low, .medium, .high] (row.field "urgency")
  let enabled ← match row.field "enabled" with
    | some (.bool value) => some value
    | _ => none
  let lockedByAdmin ← match row.field "locked_by_admin" with
    | none => some none
    | some (.bool value) => some (some value)
    | some _ => none
  return ⟨eventType, channel, urgency, enabled, lockedByAdmin⟩

/-- `${eventType}\0${channel}`. -/
def preferenceKey (eventType : String) (channel : NotificationChannel) : String :=
  eventType ++ "\x00" ++ channelText channel

def NotificationPreferenceInput.textKey (input : NotificationPreferenceInput) : String :=
  preferenceKey input.eventType input.channel

/-- Entry after entry, with the keys seen so far. -/
def parseEntries (normalize : List Char → List Char) :
    List String → List Json → Option (List NotificationPreferenceInput)
  | _, [] => some []
  | seen, entry :: rest => do
      let input ← parseEntry normalize entry
      if seen.contains input.textKey then none
      else do
        let inputs ← parseEntries normalize (input.textKey :: seen) rest
        return input :: inputs

/-- `none` where the source throws `invalid()`. -/
def parseNotificationPreferences (normalize : List Char → List Char) (value : Json) :
    Option (List NotificationPreferenceInput) := do
  let input ← record ["preferences"] value
  match input.field "preferences" with
  | some (.array entries) =>
      if entries.length ≤ 100 then parseEntries normalize [] entries else none
  | _ => none

end Parser

section Transaction

/-- The statements of the transaction; the upserts are numbered. -/
inductive Statement where
  | begin | tenant | current | upsert (number : Nat) | result
  deriving DecidableEq

/-- What becomes of a COMMIT. When its answer is lost the caller learns nothing. -/
inductive CommitFate where
  | applied | rejected | unconfirmed
  deriving DecidableEq

/-- What the database and the connection contribute to one request. -/
structure Circumstances where
  fails : Statement → Bool
  commit : CommitFate
  newId : Nat → Uuid
  clock : Nat → Instant

/-- An error is an `AppError` or comes from the database. -/
inductive Thrown where
  | app (error : AppError)
  | other
  deriving DecidableEq

inductive Outcome (Value : Type) where
  | answered (value : Value)
  | refused (error : AppError)
  | unconfirmed
  deriving DecidableEq

/-- `safe`. -/
def safe : Thrown → AppError
  | .app error => error
  | .other => unavailable

def run {Value : Type} (circumstances : Circumstances) (statement : Statement)
    (outcome : Except DbError Value) : Except Thrown Value :=
  if circumstances.fails statement then .error .other else outcome.mapError fun _ => .other

/-- What `operation` wrote is kept by COMMIT and dropped by ROLLBACK. -/
def withTenantTransaction {Value : Type} (circumstances : Circumstances) (tenantId : Uuid)
    (operation : NotificationsDb → Except Thrown (Value × NotificationsDb))
    (db : NotificationsDb) : Outcome Value × NotificationsDb :=
  let body : Except Thrown (Value × NotificationsDb) := do
    run circumstances .begin (.ok ())
    let tenants ← run circumstances .tenant (.ok (db.tenant tenantId))
    if tenants then operation db else .error .other
  match body with
  | .error error => (.refused (safe error), db)
  | .ok (value, pending) =>
      match circumstances.commit with
      | .applied => (.answered value, pending)
      | .rejected => (.refused (safe .other), db)
      | .unconfirmed => (.unconfirmed, pending)

/-- `locked`, unless the entry is a conflict. -/
def lockedValue (actorRole : UserRole) (previous : Option NotificationPreference)
    (input : NotificationPreferenceInput) : Except Thrown Bool :=
  let locked := (input.lockedByAdmin.or (previous.map (·.lockedByAdmin))).getD false
  if actorRole ≠ .tenantAdmin ∧ (input.lockedByAdmin.isSome ∨ previous.any (·.lockedByAdmin)) ∧
      (input.lockedByAdmin.isSome ∨ input.enabled = false) then
    .error (.app preferenceConflict)
  else if input.urgency = .high ∧ input.enabled = false ∧ locked = false then
    .error (.app preferenceConflict)
  else .ok locked

/-- `currentByKey.get(key)`: a `Map` keeps the last row of a key. -/
def currentByKey (current : List NotificationPreference) (key : String) :
    Option NotificationPreference :=
  current.reverse.find? fun row => preferenceKey row.eventType row.channel = key

def isTenantAdmin (role : UserRole) : Bool := role = .tenantAdmin

/-- The turn of one entry. -/
def writePreference (circumstances : Circumstances) (now : Instant) (tenantId userId : Uuid)
    (actorRole : UserRole) (current : List NotificationPreference) (number : Nat)
    (input : NotificationPreferenceInput) (db : NotificationsDb) :
    Except Thrown NotificationsDb := do
  let locked ← lockedValue actorRole (currentByKey current input.textKey) input
  run circumstances (.upsert number)
    (upsertPreference (circumstances.clock number)
      { id := circumstances.newId number
        tenantId := tenantId
        userId := userId
        eventType := input.eventType
        channel := input.channel
        urgency := input.urgency
        enabled := input.enabled
        lockedByAdmin := locked
        createdAt := now
        updatedAt := now }
      (fun old => !old.lockedByAdmin || isTenantAdmin actorRole) db)

def writePreferences (circumstances : Circumstances) (now : Instant) (tenantId userId : Uuid)
    (actorRole : UserRole) (current : List NotificationPreference) :
    Nat → List NotificationPreferenceInput → NotificationsDb → Except Thrown NotificationsDb
  | _, [], db => .ok db
  | number, input :: rest, db => do
      let next ← writePreference circumstances now tenantId userId actorRole current number input db
      writePreferences circumstances now tenantId userId actorRole current (number + 1) rest next

def preferencesOf (tenantId userId : Uuid) (db : NotificationsDb) : List NotificationPreference :=
  db.preferences.rows.filter fun row => row.tenantId = tenantId ∧ row.userId = userId

/-- The rows in the order of `event_type` and `channel`, which is the database's. -/
def listPreferences (ordered : NotificationPreference → NotificationPreference → Bool)
    (tenantId userId : Uuid) (db : NotificationsDb) : List NotificationPreference :=
  (preferencesOf tenantId userId db).insertionSort fun left right => ordered left right

def replacePreferences (ordered : NotificationPreference → NotificationPreference → Bool)
    (circumstances : Circumstances) (tenantId userId : Uuid) (actorRole : UserRole)
    (preferences : List NotificationPreferenceInput) (db : NotificationsDb) :
    Outcome (List NotificationPreference) × NotificationsDb :=
  withTenantTransaction circumstances tenantId (fun db => do
    let current ← run circumstances .current (.ok (preferencesOf tenantId userId db))
    let pending ← writePreferences circumstances db.clock tenantId userId actorRole current 0
      preferences db
    let rows ← run circumstances .result (.ok (listPreferences ordered tenantId userId pending))
    return (rows, pending)) db

end Transaction

/-- The parts of the platform that requests and emissions rely on. -/
structure Platform where
  normalize : List Char → List Char
  ordered : NotificationPreference → NotificationPreference → Bool

def updateNotificationPreferences (platform : Platform) (circumstances : Circumstances)
    (context : RequestContext) (body : Json) (db : NotificationsDb) :
    Outcome (List NotificationPreference) × NotificationsDb :=
  match context with
  | .apiKey .. => (.refused forbidden, db)
  | .user tenantId actorUserId role _ =>
      match parseNotificationPreferences platform.normalize body with
      | none => (.refused invalid, db)
      | some preferences =>
          replacePreferences platform.ordered circumstances tenantId actorUserId role preferences db

end CommitmentOptimizer.Notifications.NotificationPreferences
