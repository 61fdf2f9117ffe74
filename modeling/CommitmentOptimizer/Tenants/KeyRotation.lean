import CommitmentOptimizer.Foundations.Timestamps
import CommitmentOptimizer.Foundations.TransactionHistory
import CommitmentOptimizer.Tenants.TenantRegistration

/-!
# The rotation of an API key

`api-key-rotation-input.ts`, the transaction of `api-key-rotation-repository.ts`, statement by
statement, and the audit row of `rotation-audit-writer.ts`. Identifiers and random bytes are
drawn by the caller of the model.
-/

namespace CommitmentOptimizer.Tenants.KeyRotation

open Foundations
open Foundations.RowLocking
open Foundations.SqlConstraints
open Foundations.Timestamps
open Foundations.TransactionHistory
open Sessions.AccessTokens
open Users
open ApiKeyCredentials
open TenantRows
open TenantRegistration

set_option autoImplicit false

section Input

structure ApiKeyRotationInput where
  apiKeyId : Uuid
  note : Option String
  deriving DecidableEq

variable (normalize : List Char → List Char)

/-- `none` is the error that is thrown; `normalize` is NFC. -/
def normalizeNote : JsValue → Option String
  | .string text =>
      let note := normalize text.toList
      if note = [] || jsTrim note ≠ note || 200 < note.length || note.any isControl then none
      else some (String.ofList note)
  | _ => none

def allowedKeys : List String := ["api_key_id", "note"]

def parseApiKeyRotationBody (body : JsValue) : Option ApiKeyRotationInput :=
  match body with
  | .object fields =>
      if fields.any fun field => field.1 ∉ allowedKeys then none
      else
        match body.field "api_key_id" with
        | .string text =>
            if isCanonicalUuid text then do
              let apiKeyId ← uuidOfText text.toList
              let note ← match body.field "note" with
                | .undefined => some none
                | note => (normalizeNote normalize note).map some
              return { apiKeyId, note }
            else none
        | _ => none
  | _ => none

end Input

section Transaction

/-- `validation` is answered with 400, `notFound` with 404 and `unavailable` with 503. -/
inductive RotationError where
  | validation | notFound | unavailable
  deriving DecidableEq, Repr

/-- The context's user is one of its tenant. `replacementId` and `auditId` are what
`gen_random_uuid()` draws, `requestId` what `randomUUID` draws. -/
structure RotationCall where
  tenantId : Uuid
  actorUserId : Uuid
  requestId : Uuid
  body : JsValue
  replacementId : Uuid
  auditId : Uuid
  entropy : List UInt8

structure RotationCommitted where
  revokedApiKey : ApiKey
  replacementApiKey : ApiKey
  auditId : Uuid
  apiKey : String
  deriving DecidableEq

abbrev RotationTxn := Txn TenantsDb TenantsKey RotationError

def RotationAudit.checks (row : RotationAudit) : List (String × Bool) :=
  [("audit_log_action_trimmed_check", isTrimmedText row.action),
   ("audit_log_actor_type_check", row.actorType ∈ ["user", "api_key", "job", "system"]),
   ("audit_log_actor_user_coupling_check", (row.actorType = "user") = row.actorUserId.isSome),
   ("audit_log_entity_type_trimmed_check", isTrimmedText row.entityType),
   ("audit_log_new_values_object_check", row.newValues.isObject),
   ("audit_log_old_values_object_check", row.oldValues.isObject),
   ("audit_log_request_id_trimmed_check", isTrimmedTextOrNull row.requestId)]

def insertAuditRow (db : TenantsDb) (new : RotationAudit) : Except DbError RotationAudit := do
  checkAll (RotationAudit.checks new)
  require (db.audits.find new.id).isNone (uniqueViolation "audit_log_pkey")
  require (db.tenants.find new.tenantId).isSome (foreignKeyViolation "audit_log_tenant_id_fkey")
  require (new.actorUserId.all fun id =>
      (db.users.find id).any fun user => user.tenantId = new.tenantId)
    (foreignKeyViolation "audit_log_tenant_actor_user_fkey")
  return new

/-- The row an UPDATE of a key stores. -/
def updateApiKeyRow (new : ApiKey) : Except DbError ApiKey := do
  checkAll new.checks
  return new

/-- The unrevoked key of the tenant. -/
def selectedKey (tenantId apiKeyId : Uuid) (db : TenantsDb) : Option ApiKey :=
  (db.apiKeys.find apiKeyId).filter fun row => row.tenantId = tenantId && row.revokedAt.isNone

/-- Every error but the repository's own becomes `unavailable`. -/
def orUnavailable {Value : Type} (outcome : Except DbError Value) : RotationTxn Value :=
  Txn.attempt (outcome.mapError fun _ => .unavailable)

/-- The text of `now` is read back to the same microsecond. -/
def revokeSelectedKey (call : RotationCall) (apiKeyId : Uuid) (now : Instant) :
    RotationTxn ApiKey := do
  let db ← Txn.view
  match selectedKey call.tenantId apiKeyId db with
  | none => Txn.abort .notFound
  | some old =>
      let row ← orUnavailable (updateApiKeyRow { old with revokedAt := some now })
      Txn.save (TenantsDb.putApiKey row)
      return row

def replacementKey (call : RotationCall) (note : Option String) (keyHash : String)
    (now : Instant) : ApiKey where
  id := call.replacementId
  tenantId := call.tenantId
  keyHash := keyHash
  note := note
  createdAt := now
  revokedAt := none

def insertReplacement (new : ApiKey) : RotationTxn ApiKey := do
  Txn.lockRow (.apiKey new.id)
  Txn.lockRow (.keyHash new.keyHash)
  let db ← Txn.view
  let row ← orUnavailable (insertApiKeyRow db new)
  Txn.save (TenantsDb.insertApiKey row)
  return row

def oldValues (old : ApiKey) : Json :=
  .object [("created_at", .string (timestamptzText old.createdAt)), ("revoked_at", .null)]

def newValues (replacement : ApiKey) (revokedAt : Instant) : Json :=
  .object
    [("result", .string "succeeded"),
     ("revoked_at", .string (timestamptzText revokedAt)),
     ("replacement", .object
       [("id", .string (uuidText replacement.id)),
        ("created_at", .string (timestamptzText replacement.createdAt)),
        ("revoked_at", .null)])]

def rotationAudit (call : RotationCall) (old replacement : ApiKey) (now : Instant) :
    RotationAudit where
  id := call.auditId
  tenantId := call.tenantId
  actorUserId := some call.actorUserId
  actorType := "user"
  action := "api_key.rotated"
  entityType := "api_key"
  entityId := some old.id
  oldValues := oldValues old
  newValues := newValues replacement now
  requestId := some (uuidText call.requestId)
  createdAt := now

def insertRotationAudit (new : RotationAudit) : RotationTxn Uuid := do
  Txn.lockRow (.audit new.id)
  let db ← Txn.view
  let row ← orUnavailable (insertAuditRow db new)
  Txn.save (TenantsDb.insertAudit row)
  return row.id

def performRotation (call : RotationCall) (input : ApiKeyRotationInput)
    (credential : ApiKeyCredential) (now : Instant) : RotationTxn RotationCommitted := do
  let selected ← Txn.selectForUpdate (.apiKey input.apiKeyId)
    (selectedKey call.tenantId input.apiKeyId)
  match selected with
  | none => Txn.abort .notFound
  | some oldKey =>
      let revoked ← revokeSelectedKey call input.apiKeyId now
      let replacement ← insertReplacement
        (replacementKey call input.note credential.keyHash now)
      let auditId ← insertRotationAudit (rotationAudit call oldKey replacement now)
      return ⟨revoked, replacement, auditId, credential.plaintext⟩

/-- `rotate` of the service. -/
def rotationProgram (normalize : List Char → List Char) (sha : Sha256) (apiKeyPrefix : String)
    (call : RotationCall) (begun : TenantsDb) : RotationTxn RotationCommitted :=
  match parseApiKeyRotationBody normalize call.body with
  | none => Txn.abort .validation
  | some input =>
      match createApiKeyCredential sha apiKeyPrefix call.entropy with
      | none => Txn.abort .unavailable
      | some credential => performRotation call input credential begun.clock

end Transaction

/-- What a rotation of `old` stores. -/
def storeRotation (call : RotationCall) (note : Option String) (keyHash : String) (old : ApiKey)
    (now : Instant) (db : TenantsDb) : TenantsDb :=
  let replacement := replacementKey call note keyHash now
  { db with
    apiKeys := (db.apiKeys.put { old with revokedAt := some now }).insert replacement
    audits := db.audits.insert (rotationAudit call old replacement now) }

/-- A committed rotation has replaced an unrevoked key of the tenant, for a user of it. -/
def Rotated (sha : Sha256) (apiKeyPrefix : String) (call : RotationCall)
    (value : RotationCommitted) (before after : TenantsDb) : Prop :=
  ∃ (input : ApiKeyRotationInput) (credential : ApiKeyCredential) (old : ApiKey),
    createApiKeyCredential sha apiKeyPrefix call.entropy = some credential ∧
    selectedKey call.tenantId input.apiKeyId before = some old ∧
    before.apiKeys.find call.replacementId = none ∧
    before.audits.find call.auditId = none ∧
    (∃ user, before.users.find call.actorUserId = some user ∧ user.tenantId = call.tenantId) ∧
    value =
      { revokedApiKey := { old with revokedAt := some before.clock }
        replacementApiKey := replacementKey call input.note credential.keyHash before.clock
        auditId := call.auditId
        apiKey := credential.plaintext } ∧
    after = storeRotation call input.note credential.keyHash old before.clock before

section Alone

variable {call : RotationCall} {input : ApiKeyRotationInput} {credential : ApiKeyCredential}
  {now : Instant} {db after : TenantsDb}

theorem insert_audit_row_ok {new row : RotationAudit} (accepted : insertAuditRow db new = .ok row) :
    row = new ∧ db.audits.find new.id = none ∧
      ∀ id, new.actorUserId = some id →
        ∃ user, db.users.find id = some user ∧ user.tenantId = new.tenantId := by
  obtain ⟨_, _, accepted⟩ := bind_ok.mp accepted
  obtain ⟨_, fresh, accepted⟩ := bind_ok.mp accepted
  obtain ⟨_, _, accepted⟩ := bind_ok.mp accepted
  obtain ⟨_, actor, accepted⟩ := bind_ok.mp accepted
  refine ⟨(Except.ok.inj accepted).symm, Option.isNone_iff_eq_none.mp (require_ok.mp fresh), ?_⟩
  intro id acting
  have known := require_ok.mp actor
  rw [acting, Option.all_some, Option.any_eq_true] at known
  obtain ⟨user, found, own⟩ := known
  exact ⟨user, found, of_decide_eq_true own⟩

theorem update_api_key_row_ok {new row : ApiKey} (accepted : updateApiKeyRow new = .ok row) :
    row = new := by
  obtain ⟨_, _, accepted⟩ := bind_ok.mp accepted
  exact (Except.ok.inj accepted).symm

theorem selected_key_some {tenantId apiKeyId : Uuid} {row : ApiKey} :
    selectedKey tenantId apiKeyId db = some row ↔
      db.apiKeys.find apiKeyId = some row ∧ row.tenantId = tenantId ∧ row.revokedAt = none := by
  rw [selectedKey, Option.filter_eq_some_iff, Bool.and_eq_true, decide_eq_true_eq,
    Option.isNone_iff_eq_none]

theorem run_or_unavailable {Value : Type} {outcome : Except DbError Value} {value : Value} :
    runAlone (orUnavailable outcome) (fun db => db) db = .ok (value, after) ↔
      outcome = .ok value ∧ db = after := by
  rw [orUnavailable, run_alone_attempt, map_ok]
  constructor
  · intro ran
    obtain ⟨found, accepted, same⟩ := ran
    cases same
    exact ⟨map_error_ok.mp accepted, rfl⟩
  · intro accepted
    exact ⟨value, map_error_ok.mpr accepted.1, by rw [accepted.2]⟩

theorem revoke_selected_key_alone {apiKeyId : Uuid} {old row : ApiKey}
    (selected : selectedKey call.tenantId apiKeyId db = some old)
    (ran : runAlone (revokeSelectedKey call apiKeyId now) (fun db => db) db = .ok (row, after)) :
    row = { old with revokedAt := some now } ∧ after = db.putApiKey row := by
  rw [revokeSelectedKey, run_alone_view_then, selected] at ran
  obtain ⟨stored, _, updated, onward⟩ := run_alone_then.mp ran
  obtain ⟨accepted, rfl⟩ := run_or_unavailable.mp updated
  rw [run_alone_save_then] at onward
  cases onward
  exact ⟨update_api_key_row_ok accepted, rfl⟩

theorem insert_replacement_alone {new row : ApiKey}
    (ran : runAlone (insertReplacement new) (fun db => db) db = .ok (row, after)) :
    row = new ∧ db.apiKeys.find new.id = none ∧ after = db.insertApiKey new := by
  rw [insertReplacement, run_alone_lock_then, run_alone_lock_then, run_alone_view_then] at ran
  obtain ⟨stored, _, inserted, onward⟩ := run_alone_then.mp ran
  obtain ⟨accepted, rfl⟩ := run_or_unavailable.mp inserted
  obtain ⟨rfl, fresh, -, -⟩ := insert_api_key_row_ok accepted
  rw [run_alone_save_then] at onward
  cases onward
  exact ⟨rfl, fresh, rfl⟩

theorem insert_rotation_audit_alone {new : RotationAudit} {id : Uuid}
    (ran : runAlone (insertRotationAudit new) (fun db => db) db = .ok (id, after)) :
    id = new.id ∧ db.audits.find new.id = none ∧
      (∀ actor, new.actorUserId = some actor →
        ∃ user, db.users.find actor = some user ∧ user.tenantId = new.tenantId) ∧
      after = db.insertAudit new := by
  rw [insertRotationAudit, run_alone_lock_then, run_alone_view_then] at ran
  obtain ⟨stored, _, inserted, onward⟩ := run_alone_then.mp ran
  obtain ⟨accepted, rfl⟩ := run_or_unavailable.mp inserted
  obtain ⟨rfl, fresh, actor⟩ := insert_audit_row_ok accepted
  rw [run_alone_save_then] at onward
  cases onward
  exact ⟨rfl, fresh, actor, rfl⟩

theorem perform_rotation_alone {sha : Sha256} {apiKeyPrefix : String} {value : RotationCommitted}
    (issued : createApiKeyCredential sha apiKeyPrefix call.entropy = some credential)
    (ran : runAlone (performRotation call input credential db.clock) (fun db => db) db =
      .ok (value, after)) : Rotated sha apiKeyPrefix call value db after := by
  obtain ⟨found, _, selected, ran⟩ := run_alone_then.mp ran
  rw [run_alone_select] at selected
  cases selected
  cases selected : selectedKey call.tenantId input.apiKeyId db with
  | none =>
      rw [selected] at ran
      cases ran
  | some old =>
      rw [selected] at ran
      obtain ⟨revoked, _, revokes, ran⟩ := run_alone_then.mp ran
      obtain ⟨rfl, rfl⟩ := revoke_selected_key_alone selected revokes
      obtain ⟨replacement, _, inserts, ran⟩ := run_alone_then.mp ran
      obtain ⟨rfl, fresh, rfl⟩ := insert_replacement_alone inserts
      obtain ⟨auditId, _, audits, ran⟩ := run_alone_then.mp ran
      obtain ⟨rfl, freshAudit, actor, rfl⟩ := insert_rotation_audit_alone audits
      cases ran
      rw [TenantsDb.putApiKey, KeyedTable.put, KeyedTable.find_modify,
        Option.map_eq_none_iff] at fresh
      exact ⟨input, credential, old, issued, selected, fresh, freshAudit,
        actor call.actorUserId rfl, rfl, rfl⟩

theorem rotation_commits {normalize : List Char → List Char} {sha : Sha256}
    {apiKeyPrefix : String} {value : RotationCommitted}
    (ran : runAlone (rotationProgram normalize sha apiKeyPrefix call db) (fun db => db) db =
      .ok (value, after)) : Rotated sha apiKeyPrefix call value db after := by
  unfold rotationProgram at ran
  cases parsed : parseApiKeyRotationBody normalize call.body with
  | none =>
      rw [parsed] at ran
      cases ran
  | some input =>
      rw [parsed] at ran
      cases issued : createApiKeyCredential sha apiKeyPrefix call.entropy with
      | none =>
          simp only [issued] at ran
          cases ran
      | some credential =>
          simp only [issued] at ran
          exact perform_rotation_alone issued ran

end Alone

end CommitmentOptimizer.Tenants.KeyRotation
