import CommitmentOptimizer.Foundations.Json
import CommitmentOptimizer.Tenants.Users

/-!
# Notifications and their preferences

Rows, CHECK constraints and triggers of `notifications` and
`notification_preferences` (migrations 0024 and 0025).
-/

namespace CommitmentOptimizer.Notifications.NotificationTables

open Foundations
open Foundations.SqlConstraints
open Tenants.Users

set_option autoImplicit false

inductive NotificationStatus where
  | unread | read | archived | dismissed
  deriving DecidableEq, Repr

inductive NotificationUrgency where
  | low | medium | high
  deriving DecidableEq, Repr

inductive NotificationChannel where
  | inApp | email
  deriving DecidableEq, Repr

inductive NotificationSourceType where
  | importBatch | recommendation | approval | backtestRun | ecosystemEvent | system
  deriving DecidableEq, Repr

def statusText : NotificationStatus → String
  | .unread => "unread"
  | .read => "read"
  | .archived => "archived"
  | .dismissed => "dismissed"

def urgencyText : NotificationUrgency → String
  | .low => "low"
  | .medium => "medium"
  | .high => "high"

def channelText : NotificationChannel → String
  | .inApp => "in_app"
  | .email => "email"

def sourceTypeText : NotificationSourceType → String
  | .importBatch => "import_batch"
  | .recommendation => "recommendation"
  | .approval => "approval"
  | .backtestRun => "backtest_run"
  | .ecosystemEvent => "ecosystem_event"
  | .system => "system"

structure NotificationPreference where
  id : Uuid
  tenantId : Uuid
  userId : Uuid
  eventType : String
  channel : NotificationChannel
  urgency : NotificationUrgency
  enabled : Bool
  lockedByAdmin : Bool
  createdAt : Instant
  updatedAt : Instant
  deriving DecidableEq

/-- The columns of the unique index. -/
structure PreferenceKey where
  tenantId : Uuid
  userId : Uuid
  eventType : String
  channel : NotificationChannel
  deriving DecidableEq

def NotificationPreference.key (row : NotificationPreference) : PreferenceKey :=
  ⟨row.tenantId, row.userId, row.eventType, row.channel⟩

abbrev PreferenceTable := KeyedTable NotificationPreference.key

def NotificationPreference.checks (row : NotificationPreference) : List (String × Bool) :=
  [("notification_preferences_event_type_check", isCanonicalText 200 row.eventType),
   ("notification_preferences_lock_check",
     !row.lockedByAdmin || (row.urgency == .high && row.channel == .inApp)),
   ("notification_preferences_timestamps_ordered_check", row.createdAt ≤ row.updatedAt)]

structure Notification where
  id : Uuid
  tenantId : Uuid
  recipientUserId : Uuid
  eventType : String
  sourceType : NotificationSourceType
  sourceId : Option Uuid
  templateId : String
  urgency : NotificationUrgency
  title : String
  body : String
  payload : Json
  status : NotificationStatus
  readAt : Option Instant
  createdAt : Instant
  updatedAt : Instant
  deriving DecidableEq

abbrev NotificationTable := KeyedTable fun row : Notification => row.id

def privateKeys : List String :=
  ["credentials", "credential", "password", "secret", "token", "api_key", "apiKey",
    "authorization", "cookie", "set-cookie", "raw_file", "raw_bytes", "raw_row", "raw_rows",
    "candidate_id"]

/-- `octets` is the length of a `jsonb` value's text. -/
def Notification.checks (octets : Json → Nat) (row : Notification) : List (String × Bool) :=
  [("notifications_body_check", isCanonicalText 10000 row.body),
   ("notifications_event_type_check", isCanonicalText 200 row.eventType),
   ("notifications_payload_check",
     row.payload.isObject && octets row.payload ≤ 1048576 && !row.payload.hasAnyKey privateKeys),
   ("notifications_status_read_check", (row.status == .unread) == row.readAt.isNone),
   ("notifications_template_id_check", isCanonicalText 200 row.templateId),
   ("notifications_timestamps_ordered_check", row.createdAt ≤ row.updatedAt),
   ("notifications_title_check", isCanonicalText 300 row.title)]

structure NotificationsDb where
  tenant : Uuid → Bool
  users : UserTable
  preferences : PreferenceTable
  notifications : NotificationTable
  clock : Instant

/-- The foreign keys to `tenants` and `users`. -/
def NotificationsDb.hasUser (db : NotificationsDb) (tenantId userId : Uuid) : Bool :=
  db.tenant tenantId && db.users.rows.any fun row => row.tenantId = tenantId && row.id = userId

section Preferences

/-- A new preference takes its place in the table. -/
def insertPreference (row : NotificationPreference) (db : NotificationsDb) :
    Except DbError NotificationsDb := do
  require (!db.preferences.rows.any (·.id = row.id))
    (uniqueViolation "notification_preferences_pkey")
  require (db.hasUser row.tenantId row.userId)
    (foreignKeyViolation "notification_preferences_tenant_user_fkey")
  return { db with preferences := db.preferences.insert row }

/-- `INSERT … ON CONFLICT … DO UPDATE SET … WHERE …` for a proposed row, whose checks
come first; `mayUpdate` is the last condition and `now` the trigger's clock. -/
def upsertPreference (now : Instant) (proposed : NotificationPreference)
    (mayUpdate : NotificationPreference → Bool) (db : NotificationsDb) :
    Except DbError NotificationsDb := do
  checkAll proposed.checks
  match db.preferences.find proposed.key with
  | none => insertPreference proposed db
  | some old =>
      if mayUpdate old then do
        let row := { old with
          urgency := proposed.urgency
          enabled := proposed.enabled
          lockedByAdmin := proposed.lockedByAdmin
          updatedAt := now }
        checkAll row.checks
        return { db with preferences := db.preferences.put row }
      else return db

end Preferences

section Notifications

/-- The row of an INSERT, with the column defaults. -/
def insertNotification (octets : Json → Nat) (row : Notification) (db : NotificationsDb) :
    Except DbError NotificationsDb := do
  require (row.status = .unread && row.readAt.isNone)
    (raised "notifications must start unread" "55000")
  checkAll (row.checks octets)
  require (db.notifications.find row.id).isNone (uniqueViolation "notifications_pkey")
  require (db.hasUser row.tenantId row.recipientUserId)
    (foreignKeyViolation "notifications_tenant_recipient_fkey")
  return { db with notifications := db.notifications.insert row }

/-- `markRead`: the row as the UPDATE and its trigger leave it. -/
def readNotification (now : Instant) (row : Notification) : Notification :=
  if row.status = .unread then
    { row with status := .read, readAt := some now, updatedAt := now }
  else { row with updatedAt := now }

/-- A terminal row raises, which leaves the table as it is. -/
def markRead (tenantId userId id : Uuid) (db : NotificationsDb) : NotificationsDb :=
  match db.notifications.find id with
  | none => db
  | some row =>
      if row.tenantId = tenantId ∧ row.recipientUserId = userId ∧ row.status ≠ .archived ∧
          row.status ≠ .dismissed then
        { db with notifications := db.notifications.put (readNotification db.clock row) }
      else db

end Notifications

end CommitmentOptimizer.Notifications.NotificationTables
