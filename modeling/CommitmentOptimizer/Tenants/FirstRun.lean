import CommitmentOptimizer.Sessions.SessionTransactions
import CommitmentOptimizer.Tenants.KeyRotation
import CommitmentOptimizer.Tenants.RotationChains

/-!
# The first run

`initialization.ts` from the prepared input on, with `initialization-state.ts`,
`initialization-rotation-state.ts` and `initialization-admin.ts`. A first run holds the
initialization lock and is modelled as a function of the database. What the database lists
without ORDER BY comes in any order. The audit row of the administrator is left out.
-/

namespace CommitmentOptimizer.Tenants.FirstRun

open Foundations
open Foundations.SqlConstraints
open Foundations.Timestamps
open Sessions.SessionTables
open Sessions.SessionTransactions (isAllowedPasswordPhc)
open Users
open ApiKeyCredentials (Sha256 createApiKeyCredential firstRunApiKeyNote)
open TenantRows
open TenantRegistration (NormalizedTenantInput)
open RotationChains

set_option autoImplicit false

structure PreparedFirstRunAdmin where
  email : String
  name : String
  passwordHash : String
  allowed : isAllowedPasswordPhc passwordHash = true

structure PreparedFirstRunInput where
  tenant : NormalizedTenantInput
  admin : Option PreparedFirstRunAdmin
  apiKeyPrefix : String

/-- Identifiers as texts. -/
structure InitializationIdentifiers where
  tenantId : String
  apiKeyId : String
  adminUserId : Option String
  deriving DecidableEq

inductive FirstRunInitializationResult where
  | created (identifiers : InitializationIdentifiers) (apiKey : String)
  | existing (identifiers : InitializationIdentifiers)
  deriving DecidableEq

inductive FirstRunInitializationError where
  | initializationStateAmbiguous | initializationFailed
  deriving DecidableEq

/-- An order of the rows of a query. -/
structure RowOrder (Row : Type) where
  list : List Row → List Row
  perm : ∀ rows, (list rows).Perm rows

section State

inductive OriginSource where
  | marker | registration
  deriving DecidableEq

structure OriginRow extends InitializationOrigin where
  source : OriginSource

/-- The orders in which the queries of one first run list their rows. -/
structure FirstRunOrders where
  origins : RowOrder OriginRow
  keys : RowOrder InitializationKeyRow
  audits : RowOrder InitializationAuditRow
  joined : RowOrder (Tenant × ApiKey)
  admins : RowOrder User

structure FirstRunStateCounts where
  tenantCount : Nat
  userCount : Nat
  keyCount : Nat
  markerCount : Nat
  registrationCount : Nat
  succeededRegistrationCount : Nat

def isMarker (row : ApiKey) : Bool := row.note = some firstRunApiKeyNote

/-- The join of a request with its tenant and its key. -/
def isSucceededRegistration (db : TenantsDb) (row : RegistrationRow) : Bool :=
  row.status = .succeeded &&
    (row.tenantId.bind db.tenants.find).any fun tenant =>
      (row.apiKeyId.bind db.apiKeys.find).any fun key => key.tenantId = tenant.id

def readFirstRunState (db : TenantsDb) : FirstRunStateCounts where
  tenantCount := db.tenants.rows.length
  userCount := db.users.rows.length
  keyCount := db.apiKeys.rows.length
  markerCount := (db.apiKeys.rows.filter isMarker).length
  registrationCount := db.registrations.rows.length
  succeededRegistrationCount :=
    (db.registrations.rows.filter (isSucceededRegistration db)).length

def isFreshFirstRunState (counts : FirstRunStateCounts) : Bool :=
  [counts.tenantCount, counts.userCount, counts.keyCount, counts.markerCount,
    counts.registrationCount, counts.succeededRegistrationCount].all fun count => count = 0

def markerOrigin (row : ApiKey) : OriginRow where
  keyId := uuidText row.id
  tenantId := uuidText row.tenantId
  source := .marker

def registrationOrigin (row : RegistrationRow) : OriginRow where
  keyId := (row.apiKeyId.map uuidText).getD ""
  tenantId := (row.tenantId.map uuidText).getD ""
  source := .registration

/-- The `UNION ALL` of the origins. -/
def originRows (db : TenantsDb) : List OriginRow :=
  (db.apiKeys.rows.filter isMarker).map markerOrigin ++
    (db.registrations.rows.filter fun row => row.status = .succeeded).map registrationOrigin

def keyRow (row : ApiKey) : InitializationKeyRow where
  id := uuidText row.id
  tenantId := uuidText row.tenantId
  keyHash := some row.keyHash
  createdAt := timestamptzText row.createdAt
  revokedAt := row.revokedAt.map fun instant => timestamptzText instant

def auditRow (db : TenantsDb) (row : RotationAudit) : InitializationAuditRow where
  tenantId := uuidText row.tenantId
  actorUserId := row.actorUserId.map uuidText
  actorTenantId := (row.actorUserId.bind db.users.find).map fun user => uuidText user.tenantId
  actorType := row.actorType
  action := row.action
  entityType := row.entityType
  entityId := row.entityId.map uuidText
  requestId := row.requestId
  createdAt := timestamptzText row.createdAt
  oldValues := row.oldValues
  newValues := row.newValues

def auditRows (db : TenantsDb) : List InitializationAuditRow :=
  (db.audits.rows.filter fun row => row.action = "api_key.rotated").map (auditRow db)

/-- `markerKeyId`. -/
def markerKeyId (origins : List OriginRow) : Except String String :=
  match origins.filter fun row => row.source = .marker with
  | [marker] => .ok marker.keyId
  | _ => .error "Initialization marker is ambiguous."

/-- The state, and the key that the marker names. -/
def readInitializationRotationState (orders : FirstRunOrders) (db : TenantsDb) :
    Except String (InitializationRotationState × String) := do
  let origins := orders.origins.list (originRows db)
  let markerKeyId ← markerKeyId origins
  return ({ origins := origins.map OriginRow.toInitializationOrigin
            keys := orders.keys.list (db.apiKeys.rows.map keyRow)
            audits := orders.audits.list (auditRows db) }, markerKeyId)

end State

section Existing

/-- The columns that the first run's tenant has from its input and from the defaults. -/
def tenantMatches (tenant : NormalizedTenantInput) (row : Tenant) : Bool :=
  row.name = tenant.name && row.legalName = tenant.legalName &&
    row.fullLegalName = tenant.fullLegalName && row.displayName = tenant.displayName &&
    row.address = .object [] && row.registration = .object [] &&
    row.contactEmail.isNone && row.contactPhone.isNone && row.supportUrl.isNone &&
    row.financeOwnerEmail.isNone && row.wordmark.isNone &&
    row.defaultCurrency = "USD" && row.timezone = "UTC" && row.riskBudgetCents = 0 &&
    row.isActive

def keyMatches (tenant : Tenant) (key : ApiKey) : Bool :=
  key.tenantId = tenant.id && ApiKeyCredentials.isKeyHash key.keyHash

/-- `tenants t JOIN api_keys k ON k.note = $1`. -/
def joinedRows (db : TenantsDb) : List (Tenant × ApiKey) :=
  db.tenants.rows.flatMap fun tenant => (db.apiKeys.rows.filter isMarker).map fun key =>
    (tenant, key)

def isTenantAdmin (tenantId : Uuid) (row : User) : Bool :=
  row.tenantId = tenantId && row.role = .tenantAdmin

/-- `none` is `null`. -/
def verifyInitializedAdmin (order : RowOrder User) (db : TenantsDb) (tenantId : Uuid)
    (admin : PreparedFirstRunAdmin) : Option String :=
  match order.list (db.users.rows.filter (isTenantAdmin tenantId)) with
  | [row] =>
      if row.email ≠ admin.email || row.name ≠ admin.name || !row.isActive then none
      else
        let credential := (db.credentials.find row.id).filter fun credential =>
          credential.tenantId = tenantId
        if (credential.map Credential.passwordHash).any isAllowedPasswordPhc then
          some (uuidText row.id)
        else none
  | _ => none

/-- The cast of `currentApiKeyId` gives the text of an identifier back. -/
def verifySingleState (orders : FirstRunOrders) (input : PreparedFirstRunInput) (db : TenantsDb)
    (currentApiKeyId : String) :
    Except FirstRunInitializationError InitializationIdentifiers :=
  match (orders.joined.list (joinedRows db)).head? with
  | none => .error .initializationStateAmbiguous
  | some (tenant, key) =>
      if !tenantMatches input.tenant tenant || !keyMatches tenant key then
        .error .initializationStateAmbiguous
      else match input.admin with
        | none => .ok ⟨uuidText tenant.id, currentApiKeyId, none⟩
        | some admin =>
            match verifyInitializedAdmin orders.admins db tenant.id admin with
            | none => .error .initializationStateAmbiguous
            | some adminUserId => .ok ⟨uuidText tenant.id, currentApiKeyId, some adminUserId⟩

/-- The part of `existingState` whose errors are caught. -/
def currentMarkerId (orders : FirstRunOrders) (db : TenantsDb) : Except String String := do
  let (state, markerKeyId) ← readInitializationRotationState orders db
  let currentKeys ← validateApiKeyRotationChains state
  match currentKeys.lookup markerKeyId with
  | some id =>
      if id = "" then .error "The initialization marker has no current key." else .ok id
  | none => .error "The initialization marker has no current key."

def existingState (orders : FirstRunOrders) (input : PreparedFirstRunInput) (db : TenantsDb) :
    Except FirstRunInitializationError (Option InitializationIdentifiers) :=
  let counts := readFirstRunState db
  if isFreshFirstRunState counts then .ok none
  else
    let expectedOrigins := 1 + counts.succeededRegistrationCount
    if counts.markerCount ≠ 1 || counts.registrationCount ≠ counts.succeededRegistrationCount ||
        counts.tenantCount ≠ expectedOrigins || counts.keyCount < expectedOrigins then
      .error .initializationStateAmbiguous
    else match currentMarkerId orders db with
      | .error _ => .error .initializationStateAmbiguous
      | .ok currentMarkerId => (verifySingleState orders input db currentMarkerId).map some

end Existing

section Creation

/-- What the database and `randomBytes` draw. -/
structure FirstRunDraw where
  tenantId : Uuid
  adminUserId : Uuid
  apiKeyId : Uuid
  entropy : List UInt8

/-- The defaults of the columns that the INSERT leaves out. -/
def firstTenant (id : Uuid) (tenant : NormalizedTenantInput) (now : Instant) : Tenant where
  id := id
  name := tenant.name
  legalName := tenant.legalName
  fullLegalName := tenant.fullLegalName
  displayName := tenant.displayName
  address := .object []
  registration := .object []
  contactEmail := none
  contactPhone := none
  supportUrl := none
  financeOwnerEmail := none
  wordmark := none
  defaultCurrency := "USD"
  timezone := "UTC"
  riskBudgetCents := 0
  isActive := true
  createdAt := now
  updatedAt := now

def firstAdmin (id tenantId : Uuid) (admin : PreparedFirstRunAdmin) (now : Instant) : User where
  id := id
  tenantId := tenantId
  email := admin.email
  name := admin.name
  role := .tenantAdmin
  isActive := true
  createdAt := now
  updatedAt := now

def firstCredential (userId tenantId : Uuid) (admin : PreparedFirstRunAdmin) (now : Instant) :
    Credential where
  userId := userId
  tenantId := tenantId
  passwordHash := admin.passwordHash
  passwordChangedAt := now
  createdAt := now
  updatedAt := now

def firstApiKey (id tenantId : Uuid) (keyHash : String) (now : Instant) : ApiKey where
  id := id
  tenantId := tenantId
  keyHash := keyHash
  note := some firstRunApiKeyNote
  createdAt := now
  revokedAt := none

/-- The INSERT of a user with its keys. -/
def insertAdminRow (locale : DbLocale) (db : TenantsDb) (new : User) : Except DbError User := do
  let row ← insertUserRow locale new
  require (db.users.find row.id).isNone (uniqueViolation "users_pkey")
  require (!db.users.rows.any fun other =>
      other.tenantId = row.tenantId && other.email = row.email)
    (uniqueViolation "users_tenant_email_key")
  require (db.tenants.find row.tenantId).isSome (foreignKeyViolation "users_tenant_id_fkey")
  return row

def insertCredentialRow (db : TenantsDb) (new : Credential) : Except DbError Credential := do
  checkAll new.checks
  require (db.credentials.find new.userId).isNone
    (uniqueViolation "user_auth_credentials_pkey")
  require (db.tenants.find new.tenantId).isSome
    (foreignKeyViolation "user_auth_credentials_tenant_id_fkey")
  require ((db.users.find new.userId).any fun user => user.tenantId = new.tenantId)
    (foreignKeyViolation "user_auth_credentials_tenant_user_fkey")
  return new

def insertFreshAdmin (locale : DbLocale) (draw : FirstRunDraw) (tenantId : Uuid)
    (admin : Option PreparedFirstRunAdmin) (db : TenantsDb) :
    Except DbError (Option Uuid × TenantsDb) :=
  match admin with
  | none => .ok (none, db)
  | some admin => do
      let user ← insertAdminRow locale db (firstAdmin draw.adminUserId tenantId admin db.clock)
      let db := { db with users := db.users.insert user }
      let credential ←
        insertCredentialRow db (firstCredential user.id tenantId admin db.clock)
      return (some user.id, { db with credentials := db.credentials.insert credential })

/-- The INSERTs of a first run. -/
def createRows (locale : DbLocale) (input : PreparedFirstRunInput)
    (draw : FirstRunDraw) (keyHash : String) (db : TenantsDb) :
    Except DbError (InitializationIdentifiers × TenantsDb) := do
  let tenant ← insertTenantRow db (firstTenant draw.tenantId input.tenant db.clock)
  let (adminUserId, db) ←
    insertFreshAdmin locale draw tenant.id input.admin (db.insertTenant tenant)
  let key ← insertApiKeyRow db (firstApiKey draw.apiKeyId tenant.id keyHash db.clock)
  return (⟨uuidText tenant.id, uuidText key.id, adminUserId.map uuidText⟩, db.insertApiKey key)

def createState (sha : Sha256) (locale : DbLocale) (input : PreparedFirstRunInput)
    (draw : FirstRunDraw) (db : TenantsDb) :
    Except FirstRunInitializationError (FirstRunInitializationResult × TenantsDb) :=
  match createApiKeyCredential sha input.apiKeyPrefix draw.entropy with
  | none => .error .initializationFailed
  | some credential =>
      match createRows locale input draw credential.keyHash db with
      | .error _ => .error .initializationFailed
      | .ok (identifiers, after) => .ok (.created identifiers credential.plaintext, after)

/-- The committed transaction; an error is a rollback. -/
def initializeFirstRun (sha : Sha256) (locale : DbLocale) (orders : FirstRunOrders)
    (input : PreparedFirstRunInput) (draw : FirstRunDraw) (db : TenantsDb) :
    Except FirstRunInitializationError (FirstRunInitializationResult × TenantsDb) := do
  match ← existingState orders input db with
  | some existing => return (.existing existing, db)
  | none => createState sha locale input draw db

end Creation

end CommitmentOptimizer.Tenants.FirstRun
