import CommitmentOptimizer.Foundations.Json
import CommitmentOptimizer.Sessions.SessionTables
import CommitmentOptimizer.Tenants.Users

/-!
# Tenants, API keys and registration requests

Rows, CHECK constraints and foreign keys of `tenants`, `api_keys` and
`registration_requests` (migrations 0001, 0003 and 0004), and the rows of
`audit_log` (migration 0005) that a key rotation writes.
-/

namespace CommitmentOptimizer.Tenants.TenantRows

open Foundations
open Foundations.SqlConstraints
open Sessions.SessionTables
open Users

set_option autoImplicit false

def isTrimmedText (text : String) : Bool := text == btrim text && text != ""

def isTrimmedTextOrNull : Option String → Bool
  | none => true
  | some text => isTrimmedText text

structure Tenant where
  id : Uuid
  name : String
  legalName : String
  fullLegalName : String
  displayName : String
  address : Json
  registration : Json
  contactEmail : Option String
  contactPhone : Option String
  supportUrl : Option String
  financeOwnerEmail : Option String
  wordmark : Option String
  defaultCurrency : String
  timezone : String
  riskBudgetCents : Int
  isActive : Bool
  createdAt : Instant
  updatedAt : Instant
  deriving DecidableEq

abbrev TenantTable := KeyedTable fun row : Tenant => row.id

/-- `^[A-Z]{3}$`. -/
def isCurrencyShape (text : String) : Bool :=
  text.toList.length == 3 && text.toList.all fun character => 'A' ≤ character && character ≤ 'Z'

def Tenant.checks (row : Tenant) : List (String × Bool) :=
  [("tenants_address_object_check", row.address.isObject),
   ("tenants_contact_email_trimmed_check", isTrimmedTextOrNull row.contactEmail),
   ("tenants_contact_phone_trimmed_check", isTrimmedTextOrNull row.contactPhone),
   ("tenants_currency_shape_check", isCurrencyShape row.defaultCurrency),
   ("tenants_display_name_trimmed_check", isTrimmedText row.displayName),
   ("tenants_finance_owner_email_trimmed_check", isTrimmedTextOrNull row.financeOwnerEmail),
   ("tenants_full_legal_name_trimmed_check", isTrimmedText row.fullLegalName),
   ("tenants_legal_name_trimmed_check", isTrimmedText row.legalName),
   ("tenants_name_trimmed_check", isTrimmedText row.name),
   ("tenants_registration_object_check", row.registration.isObject),
   ("tenants_risk_budget_nonnegative_check", 0 ≤ row.riskBudgetCents),
   ("tenants_support_url_trimmed_check", isTrimmedTextOrNull row.supportUrl),
   ("tenants_timestamps_ordered_check", row.createdAt ≤ row.updatedAt),
   ("tenants_timezone_trimmed_check", isTrimmedText row.timezone),
   ("tenants_wordmark_trimmed_check", isTrimmedTextOrNull row.wordmark)]

structure ApiKey where
  id : Uuid
  tenantId : Uuid
  keyHash : String
  note : Option String
  createdAt : Instant
  revokedAt : Option Instant
  deriving DecidableEq, Repr

abbrev ApiKeyTable := KeyedTable fun row : ApiKey => row.id

def ApiKey.checks (row : ApiKey) : List (String × Bool) :=
  [("api_keys_note_trimmed_check", isTrimmedTextOrNull row.note),
   ("api_keys_revoked_chronology_check", row.revokedAt.all (row.createdAt ≤ ·))]

inductive RegistrationStatus where
  | pending | succeeded | failed
  deriving DecidableEq, Repr

structure RegistrationRow where
  id : Uuid
  idempotencyKeyHash : Digest
  requestSha256 : Digest
  status : RegistrationStatus
  tenantId : Option Uuid
  apiKeyId : Option Uuid
  errorCode : Option String
  createdAt : Instant
  updatedAt : Instant
  deriving DecidableEq

abbrev RegistrationTable := KeyedTable fun row : RegistrationRow => row.id

def RegistrationRow.checks (row : RegistrationRow) : List (String × Bool) :=
  [("registration_requests_error_code_trimmed_check", isTrimmedTextOrNull row.errorCode),
   ("registration_requests_failed_state_check", row.status != .failed ||
     (row.tenantId.isNone && row.apiKeyId.isNone && row.errorCode.isSome)),
   ("registration_requests_idempotency_key_hash_32_bytes_check",
     row.idempotencyKeyHash.length == 32),
   ("registration_requests_pending_state_check", row.status != .pending ||
     (row.tenantId.isNone && row.apiKeyId.isNone && row.errorCode.isNone)),
   ("registration_requests_request_sha256_32_bytes_check", row.requestSha256.length == 32),
   ("registration_requests_succeeded_state_check", row.status != .succeeded ||
     (row.tenantId.isSome && row.apiKeyId.isSome && row.errorCode.isNone))]

/-- The `api_key.rotated` rows: the columns that are read again. -/
structure RotationAudit where
  id : Uuid
  tenantId : Uuid
  actorUserId : Option Uuid
  actorType : String
  action : String
  entityType : String
  entityId : Option Uuid
  oldValues : Json
  newValues : Json
  requestId : Option String
  createdAt : Instant
  deriving DecidableEq

abbrev RotationAuditTable := KeyedTable fun row : RotationAudit => row.id

structure TenantsDb where
  tenants : TenantTable
  users : UserTable
  credentials : CredentialTable
  apiKeys : ApiKeyTable
  registrations : RegistrationTable
  audits : RotationAuditTable
  clock : Instant

namespace TenantsDb

def findRegistration (db : TenantsDb) (keyHash : Digest) : Option RegistrationRow :=
  db.registrations.rows.find? fun row => row.idempotencyKeyHash = keyHash

def findApiKeyByHash (db : TenantsDb) (keyHash : String) : Option ApiKey :=
  db.apiKeys.rows.find? fun row => row.keyHash = keyHash

def insertTenant (row : Tenant) (db : TenantsDb) : TenantsDb :=
  { db with tenants := db.tenants.insert row }

def insertApiKey (row : ApiKey) (db : TenantsDb) : TenantsDb :=
  { db with apiKeys := db.apiKeys.insert row }

def putApiKey (row : ApiKey) (db : TenantsDb) : TenantsDb :=
  { db with apiKeys := db.apiKeys.put row }

def insertRegistration (row : RegistrationRow) (db : TenantsDb) : TenantsDb :=
  { db with registrations := db.registrations.insert row }

def putRegistration (row : RegistrationRow) (db : TenantsDb) : TenantsDb :=
  { db with registrations := db.registrations.put row }

def insertAudit (row : RotationAudit) (db : TenantsDb) : TenantsDb :=
  { db with audits := db.audits.insert row }

end TenantsDb

section Statements

variable (db : TenantsDb)

/-- The checks an INSERT of a tenant passes. -/
def insertTenantRow (new : Tenant) : Except DbError Tenant := do
  require (isBigint new.riskBudgetCents) (outOfRange "bigint")
  checkAll new.checks
  require (db.tenants.find new.id).isNone (uniqueViolation "tenants_pkey")
  return new

def insertApiKeyRow (new : ApiKey) : Except DbError ApiKey := do
  checkAll new.checks
  require (db.apiKeys.find new.id).isNone (uniqueViolation "api_keys_pkey")
  require (db.findApiKeyByHash new.keyHash).isNone (uniqueViolation "api_keys_key_hash_key")
  require (db.tenants.find new.tenantId).isSome (foreignKeyViolation "api_keys_tenant_id_fkey")
  return new

def insertRegistrationRow (new : RegistrationRow) : Except DbError RegistrationRow := do
  checkAll new.checks
  require (db.registrations.find new.id).isNone (uniqueViolation "registration_requests_pkey")
  require (db.findRegistration new.idempotencyKeyHash).isNone
    (uniqueViolation "registration_requests_idempotency_key_hash_key")
  return new

/-- `set_registration_requests_updated_at`, the CHECK constraints and the foreign keys,
which a null column does not engage. -/
def updateRegistrationRow (now : Instant) (new : RegistrationRow) :
    Except DbError RegistrationRow := do
  let row := { new with updatedAt := now }
  checkAll row.checks
  require (row.tenantId.all fun id => (db.tenants.find id).isSome)
    (foreignKeyViolation "registration_requests_tenant_id_fkey")
  require (row.apiKeyId.all fun id => (db.apiKeys.find id).isSome)
    (foreignKeyViolation "registration_requests_api_key_id_fkey")
  require (row.tenantId.all fun tenantId => row.apiKeyId.all fun id =>
      (db.apiKeys.find id).any fun key => key.tenantId = tenantId)
    (foreignKeyViolation "registration_requests_result_api_key_tenant_fkey")
  return row

end Statements

section Accepted

variable {db : TenantsDb}

theorem insert_tenant_row_ok {new row : Tenant} (accepted : insertTenantRow db new = .ok row) :
    row = new ∧ db.tenants.find new.id = none := by
  obtain ⟨_, _, accepted⟩ := bind_ok.mp accepted
  obtain ⟨_, _, accepted⟩ := bind_ok.mp accepted
  obtain ⟨_, fresh, accepted⟩ := bind_ok.mp accepted
  exact ⟨(Except.ok.inj accepted).symm, Option.isNone_iff_eq_none.mp (require_ok.mp fresh)⟩

theorem insert_api_key_row_ok {new row : ApiKey} (accepted : insertApiKeyRow db new = .ok row) :
    row = new ∧ db.apiKeys.find new.id = none ∧ db.findApiKeyByHash new.keyHash = none ∧
      (db.tenants.find new.tenantId).isSome = true := by
  obtain ⟨_, _, accepted⟩ := bind_ok.mp accepted
  obtain ⟨_, fresh, accepted⟩ := bind_ok.mp accepted
  obtain ⟨_, freshHash, accepted⟩ := bind_ok.mp accepted
  obtain ⟨_, tenant, accepted⟩ := bind_ok.mp accepted
  exact ⟨(Except.ok.inj accepted).symm, Option.isNone_iff_eq_none.mp (require_ok.mp fresh),
    Option.isNone_iff_eq_none.mp (require_ok.mp freshHash), require_ok.mp tenant⟩

theorem insert_registration_row_ok {new row : RegistrationRow}
    (accepted : insertRegistrationRow db new = .ok row) :
    row = new ∧ db.registrations.find new.id = none ∧
      db.findRegistration new.idempotencyKeyHash = none := by
  obtain ⟨_, _, accepted⟩ := bind_ok.mp accepted
  obtain ⟨_, fresh, accepted⟩ := bind_ok.mp accepted
  obtain ⟨_, freshHash, accepted⟩ := bind_ok.mp accepted
  exact ⟨(Except.ok.inj accepted).symm, Option.isNone_iff_eq_none.mp (require_ok.mp fresh),
    Option.isNone_iff_eq_none.mp (require_ok.mp freshHash)⟩

theorem update_registration_row_ok {now : Instant} {new row : RegistrationRow}
    (accepted : updateRegistrationRow db now new = .ok row) :
    row = { new with updatedAt := now } := by
  obtain ⟨_, _, accepted⟩ := bind_ok.mp accepted
  obtain ⟨_, _, accepted⟩ := bind_ok.mp accepted
  obtain ⟨_, _, accepted⟩ := bind_ok.mp accepted
  obtain ⟨_, _, accepted⟩ := bind_ok.mp accepted
  exact (Except.ok.inj accepted).symm

end Accepted

end CommitmentOptimizer.Tenants.TenantRows
