import CommitmentOptimizer.Foundations.RowLocking
import CommitmentOptimizer.Sessions.SessionTables
import CommitmentOptimizer.Tenants.Users

/-!
# The transactions on credentials and sessions

Login, refresh, logout, `setPassword` and the user mutations, statement by
statement. A request starts with the first thing it asks the database: `BEGIN`,
or the read that comes before it. `now` is the transaction timestamp.
-/

namespace CommitmentOptimizer.Sessions.SessionTransactions

open Foundations
open Foundations.SqlConstraints
open Foundations.RowLocking
open Tenants.Users
open SessionTables

set_option autoImplicit false

structure SessionsDb where
  tenants : Uuid → Option Bool
  users : UserTable
  credentials : CredentialTable
  families : RefreshFamilyTable
  tokens : RefreshTokenTable
  clock : Instant

/-- Rows, the advisory lock of `setPassword`, and the entries of
`auth_refresh_tokens_token_digest_key`. -/
inductive SessionsKey where
  | tenant (id : Uuid)
  | user (id : Uuid)
  | password (tenantId userId : Uuid)
  | credential (userId : Uuid)
  | family (id : Uuid)
  | token (id : Uuid)
  | digest (value : Digest)
  deriving DecidableEq

/-- `families` is an error of an UPDATE on `auth_refresh_families`, `database`
one of another statement. -/
inductive SessionsAbort where
  | unavailable
  | notFound
  | unverified
  | failure (message : String)
  | families (error : DbError)
  | database (error : DbError)
  deriving DecidableEq, Repr

abbrev SessionsTxn := Txn SessionsDb SessionsKey SessionsAbort

/-- What the sessions take from outside: Unicode normalization of a password,
`argon2.verify` (`none` where they throw) and the configuration. -/
structure SessionRuntime where
  locale : DbLocale
  normalizePassword : String → Option String
  argonVerify : String → String → Option Bool
  dummyPasswordHash : String
  accessLifetimeSeconds : Nat

section PasswordCredential

def base64Value (character : Char) : Option Nat :=
  let code := character.toNat
  if 0x41 ≤ code ∧ code ≤ 0x5A then some (code - 0x41)
  else if 0x61 ≤ code ∧ code ≤ 0x7A then some (code - 0x61 + 26)
  else if 0x30 ≤ code ∧ code ≤ 0x39 then some (code - 0x30 + 52)
  else if character = '+' then some 62
  else if character = '/' then some 63
  else none

/-- The length of `decodeCanonicalBase64`: the bits that the last character
does not need are zero. -/
def canonicalBase64Length (text : List Char) : Option Nat :=
  match text.mapM base64Value with
  | none => none
  | some values =>
      let spare := match text.length % 4 with
        | 2 => 16
        | 3 => 4
        | _ => 1
      if text ≠ [] ∧ text.length % 4 ≠ 1 ∧ values.getLast?.all (· % spare = 0) then
        some (text.length * 3 / 4)
      else none

def isAllowedPasswordPhc (value : String) : Bool :=
  value.utf8ByteSize ≤ 512 &&
    match value.toList.splitOn '$' with
    | [empty, algorithm, version, costs, salt, hash] =>
        empty.isEmpty && algorithm == "argon2id".toList && version == "v=19".toList &&
          costs == "m=65536,t=3,p=1".toList && canonicalBase64Length salt == some 16 &&
          canonicalBase64Length hash == some 32
    | _ => false

def verifyPassword (runtime : SessionRuntime) (encoded password : String) : Option Bool := do
  let normalized ← runtime.normalizePassword password
  if isAllowedPasswordPhc encoded then runtime.argonVerify encoded normalized else some false

end PasswordCredential

def second : Nat := 1000000
def day : Nat := 86400 * second

/-- The claims that `sign` turns into an access token. -/
structure AccessClaims where
  userId : Uuid
  tenantId : Uuid
  role : UserRole
  familyId : Uuid
  csrfHash : Digest
  issuedAt : Nat
  expiresAt : Nat
  deriving DecidableEq

structure SessionMetadata where
  userId : Uuid
  tenantId : Uuid
  role : UserRole
  accessExpiresAt : Instant
  refreshIdleExpiresAt : Instant
  refreshAbsoluteExpiresAt : Instant
  deriving DecidableEq

structure SessionIssue where
  session : SessionMetadata
  accessToken : AccessClaims
  deriving DecidableEq

namespace SessionsDb

def familyTokens (db : SessionsDb) (familyId : Uuid) : List RefreshToken :=
  db.tokens.rows.filter fun row => row.familyId = familyId

def findUser (db : SessionsDb) (tenantId id : Uuid) : Option User :=
  (db.users.find id).filter fun row => row.tenantId = tenantId

def findCredential (db : SessionsDb) (tenantId userId : Uuid) : Option Credential :=
  (db.credentials.find userId).filter fun row => row.tenantId = tenantId

/-- The row of `users_tenant_email_key`. -/
def findUserByEmail (db : SessionsDb) (tenantId : Uuid) (email : String) : Option User :=
  db.users.rows.find? fun row => row.tenantId = tenantId && row.email = email

/-- `findFamilyId` of the refresh and the logout repository. -/
def findFamilyId (db : SessionsDb) (tokenDigest : Digest) : Option Uuid :=
  match db.tokens.rows.filter fun row => row.tokenDigest = tokenDigest with
  | [row] => some row.familyId
  | _ => none

def putUser (row : User) (db : SessionsDb) : SessionsDb :=
  { db with users := db.users.put row }

def insertUser (row : User) (db : SessionsDb) : SessionsDb :=
  { db with users := db.users.insert row }

def putCredential (row : Credential) (db : SessionsDb) : SessionsDb :=
  { db with credentials := db.credentials.put row }

def insertCredential (row : Credential) (db : SessionsDb) : SessionsDb :=
  { db with credentials := db.credentials.insert row }

def putFamily (row : RefreshFamily) (db : SessionsDb) : SessionsDb :=
  { db with families := db.families.put row }

def insertFamily (row : RefreshFamily) (db : SessionsDb) : SessionsDb :=
  { db with families := db.families.insert row }

def putToken (row : RefreshToken) (db : SessionsDb) : SessionsDb :=
  { db with tokens := db.tokens.put row }

def insertToken (row : RefreshToken) (db : SessionsDb) : SessionsDb :=
  { db with tokens := db.tokens.insert row }

end SessionsDb

section Statements

def lockTenant (tenantId : Uuid) : SessionsTxn (Option Bool) :=
  Txn.selectForUpdate (.tenant tenantId) fun db => db.tenants tenantId

def lockUser (tenantId id : Uuid) : SessionsTxn (Option User) :=
  Txn.selectForUpdate (.user id) fun db => db.findUser tenantId id

def lockCredential (tenantId userId : Uuid) : SessionsTxn (Option Credential) :=
  Txn.selectForUpdate (.credential userId) fun db => db.findCredential tenantId userId

/-- `SELECT ... FROM users WHERE tenant_id AND email FOR UPDATE`: the condition
is tried again on the row that was waited for. -/
def lockUserByEmail (tenantId : Uuid) (email : String) : SessionsTxn (Option User) := do
  match (← Txn.view).findUserByEmail tenantId email with
  | none => return none
  | some found =>
      Txn.lockRow (.user found.id)
      return ((← Txn.view).findUser tenantId found.id).filter fun row => row.email = email

/-- `INSERT INTO auth_refresh_families`. -/
def insertFamily (new : RefreshFamily) : SessionsTxn Unit := do
  let row ← Txn.attempt ((insertFamilyRow new).mapError .database)
  Txn.lockRow (.family row.id)
  let db ← Txn.view
  Txn.attempt ((require (db.families.find row.id).isNone
    (uniqueViolation "auth_refresh_families_pkey")).mapError .database)
  Txn.attempt ((require (db.tenants row.tenantId).isSome
    (foreignKeyViolation "auth_refresh_families_tenant_id_fkey")).mapError .database)
  Txn.attempt ((require (db.findUser row.tenantId row.userId).isSome
    (foreignKeyViolation "auth_refresh_families_tenant_user_fkey")).mapError .database)
  Txn.save (SessionsDb.insertFamily row)

/-- The unique indexes of `auth_refresh_tokens`. -/
def tokenKeys (db : SessionsDb) (row : RefreshToken) : Except DbError Unit := do
  require (db.tokens.find row.id).isNone (uniqueViolation "auth_refresh_tokens_pkey")
  require (db.tokens.rows.all fun other => other.tokenDigest ≠ row.tokenDigest)
    (uniqueViolation "auth_refresh_tokens_token_digest_key")
  require (row.usedAt.isSome || (db.familyTokens row.familyId).all (·.usedAt.isSome))
    (uniqueViolation "auth_refresh_tokens_one_current_family_key")
  require (row.parentTokenId.isSome || (db.familyTokens row.familyId).all (·.parentTokenId.isSome))
    (uniqueViolation "auth_refresh_tokens_one_root_family_key")
  require (row.parentTokenId.isNone ||
      db.tokens.rows.all fun other => other.parentTokenId ≠ row.parentTokenId)
    (uniqueViolation "auth_refresh_tokens_one_child_per_parent_key")

def tokenForeignKeys (db : SessionsDb) (row : RefreshToken) : Except DbError Unit := do
  require (db.tenants row.tenantId).isSome
    (foreignKeyViolation "auth_refresh_tokens_tenant_id_fkey")
  require ((db.families.find row.familyId).any (·.tenantId = row.tenantId))
    (foreignKeyViolation "auth_refresh_tokens_tenant_family_fkey")
  require (row.parentTokenId.all fun parent => (db.tokens.find parent).any fun other =>
      other.tenantId = row.tenantId && other.familyId = row.familyId)
    (foreignKeyViolation "auth_refresh_tokens_parent_same_family_fkey")

/-- `INSERT INTO auth_refresh_tokens`. -/
def insertToken (new : RefreshToken) : SessionsTxn Unit := do
  let row ← Txn.attempt ((insertTokenRow new).mapError .database)
  Txn.lockRow (.token row.id)
  Txn.lockRow (.digest row.tokenDigest)
  let db ← Txn.view
  Txn.attempt ((tokenKeys db row).mapError .database)
  Txn.attempt ((tokenForeignKeys db row).mapError .database)
  Txn.save (SessionsDb.insertToken row)

/-- `UPDATE auth_refresh_tokens SET used_at ... WHERE id AND used_at IS NULL`. -/
def markUsed (now : Instant) (id : Uuid) : SessionsTxn (Option RefreshToken) := do
  let matched ← Txn.selectForUpdate (.token id) fun db =>
    (db.tokens.find id).filter fun row => row.usedAt.isNone
  match matched with
  | none => return none
  | some old =>
      let row ← Txn.attempt
        ((updateTokenRow now old { old with usedAt := some now }).mapError .database)
      Txn.save (SessionsDb.putToken row)
      return some row

/-- One row of `UPDATE auth_refresh_families SET revoked_at, revocation_reason
WHERE ... AND revoked_at IS NULL`. -/
def revokeFamily (now : Instant) (reason : RevocationReason) (matching : RefreshFamily → Bool)
    (id : Uuid) : SessionsTxn (Option RefreshFamily) := do
  let matched ← Txn.selectForUpdate (.family id) fun db =>
    (db.families.find id).filter fun row => matching row && row.revokedAt.isNone
  match matched with
  | none => return none
  | some old =>
      let row ← Txn.attempt ((updateFamilyRow now old
        { old with revokedAt := some now, revocationReason := some reason }).mapError .families)
      Txn.save (SessionsDb.putFamily row)
      return some row

/-- `tenant_id = $1 AND user_id = $2`. -/
def belongsTo (tenantId userId : Uuid) (row : RefreshFamily) : Bool :=
  row.tenantId = tenantId && row.userId = userId

/-- The rows of the user that the UPDATE finds in its snapshot. -/
def revocable (db : SessionsDb) (tenantId userId : Uuid) : List RefreshFamily :=
  db.families.rows.filter fun row => belongsTo tenantId userId row && row.revokedAt.isNone

/-- `revokeFamilies` of `user-password-repository.ts` and `revokeUserFamilies` of
`users-repository.ts`. -/
def revokeFamilies (now : Instant) (tenantId userId : Uuid) (reason : RevocationReason) :
    SessionsTxn (List RefreshFamily) := do
  let snapshot ← Txn.view
  Txn.forEach (fun row : RefreshFamily =>
    revokeFamily now reason (belongsTo tenantId userId) row.id) []
    (revocable snapshot tenantId userId)

end Statements

inductive UserPatchResult where
  | updated (user : User)
  | notFound
  | versionConflict
  | lastAdmin
  deriving DecidableEq

inductive SessionsValue where
  | issued (issue : SessionIssue)
  | invalid
  | csrfInvalid
  | userInactive
  | tenantInactive
  | complete
  | passwordSet (sessionsRevoked : Nat)
  | patched (result : UserPatchResult)
  | created (user : User)
  deriving DecidableEq

section Login

/-- The identifiers are drawn by `randomUUID`, the digests belong to secrets
drawn by `createOpaqueSecret`. -/
structure LoginRequest where
  tenantId : Uuid
  email : String
  password : String
  familyId : Uuid
  tokenId : Uuid
  tokenDigest : Digest
  csrfDigest : Digest

structure LoginCandidate where
  tenantId : Uuid
  userId : Uuid
  role : UserRole
  tenantActive : Bool
  userActive : Bool
  passwordHash : Option String

def findCandidate (db : SessionsDb) (tenantId : Uuid) (email : String) :
    Option LoginCandidate := do
  let tenantActive ← db.tenants tenantId
  let user ← db.findUserByEmail tenantId email
  return {
    tenantId := tenantId
    userId := user.id
    role := user.role
    tenantActive := tenantActive
    userActive := user.isActive
    passwordHash := (db.findCredential user.tenantId user.id).map (·.passwordHash) }

structure LoginProof where
  id : Uuid
  role : UserRole
  userActive : Bool
  tenantActive : Bool
  passwordHash : Option String

def lockLoginProof (tenantId : Uuid) (email : String) : SessionsTxn (Option LoginProof) := do
  let tenant ← lockTenant tenantId
  let user ← lockUserByEmail tenantId email
  match tenant, user with
  | some tenantActive, some identity =>
      let credential ← lockCredential tenantId identity.id
      return some {
        id := identity.id
        role := identity.role
        userActive := identity.isActive
        tenantActive := tenantActive
        passwordHash := credential.map (·.passwordHash) }
  | _, _ => return none

/-- The family that a login of the user inserts. -/
def LoginRequest.family (request : LoginRequest) (userId : Uuid) (now : Instant) :
    RefreshFamily where
  id := request.familyId
  tenantId := request.tenantId
  userId := userId
  absoluteExpiresAt := now + 30 * day
  createdAt := now
  revokedAt := none
  revocationReason := none
  updatedAt := now

/-- The root token of that family. -/
def LoginRequest.token (request : LoginRequest) (now : Instant) : RefreshToken where
  id := request.tokenId
  tenantId := request.tenantId
  familyId := request.familyId
  parentTokenId := none
  tokenDigest := request.tokenDigest
  csrfDigest := request.csrfDigest
  idleExpiresAt := now + 7 * day
  createdAt := now
  usedAt := none
  updatedAt := now

def insertSession (runtime : SessionRuntime) (request : LoginRequest) (identity : LoginProof)
    (now : Instant) : SessionsTxn SessionIssue := do
  insertFamily (request.family identity.id now)
  insertToken (request.token now)
  return {
    session :=
      { userId := identity.id
        tenantId := request.tenantId
        role := identity.role
        accessExpiresAt := now + runtime.accessLifetimeSeconds * second
        refreshIdleExpiresAt := now + 7 * day
        refreshAbsoluteExpiresAt := now + 30 * day }
    accessToken :=
      { userId := identity.id
        tenantId := request.tenantId
        role := identity.role
        familyId := request.familyId
        csrfHash := request.csrfDigest
        issuedAt := now / second
        expiresAt := (now + runtime.accessLifetimeSeconds * second) / second } }

/-- `issue` of `auth-login-repository.ts`, from its `BEGIN`. -/
def loginTransaction (runtime : SessionRuntime) (request : LoginRequest)
    (expectedPasswordHash : String) : SessionsTxn SessionsValue := do
  let now := (← Txn.view).clock
  match ← lockLoginProof request.tenantId request.email with
  | none => return .invalid
  | some locked =>
      if locked.passwordHash ≠ some expectedPasswordHash then return .invalid
      else if ¬ locked.tenantActive then return .tenantInactive
      else if ¬ locked.userActive then return .userInactive
      else return .issued (← insertSession runtime request locked now)

/-- The hash whose verification a login waits for before its transaction. -/
def verifiedHash (request : LoginRequest) (begun : SessionsDb) : Option String :=
  (findCandidate begun request.tenantId request.email).bind (·.passwordHash)

/-- `login` of `auth-session-service.ts`; `begun` is what `findCandidate` saw. -/
def login (runtime : SessionRuntime) (request : LoginRequest) (begun : SessionsDb) :
    SessionsTxn SessionsValue :=
  let realHash := verifiedHash request begun
  let selectedHash := (realHash.filter isAllowedPasswordPhc).getD runtime.dummyPasswordHash
  match verifyPassword runtime selectedHash request.password with
  | none => Txn.abort .unverified
  | some verified =>
      match realHash with
      | none => return .invalid
      | some expected =>
          if expected = "" ∨ selectedHash ≠ expected ∨ ¬ verified then return .invalid
          else loginTransaction runtime request expected

end Login

section Refresh

/-- `childId` is drawn by `randomUUID`; the child's digests belong to secrets
drawn by `createOpaqueSecret`. -/
structure RefreshRotateInput where
  presentedDigest : Digest
  presentedCsrfDigest : Digest
  childId : Uuid
  childTokenDigest : Digest
  childCsrfDigest : Digest

structure RefreshRow where
  tokenId : Uuid
  familyId : Uuid
  tenantId : Uuid
  userId : Uuid
  role : UserRole
  userActive : Bool
  tenantActive : Bool
  csrfDigest : Digest
  used : Bool
  idleValid : Bool
  absoluteValid : Bool
  revoked : Bool
  absoluteExpiresAt : Instant

/-- The join of `readRefresh` and `readToken` on one family and one digest. -/
def presentedToken (db : SessionsDb) (familyId : Uuid) (digest : Digest) :
    Option (RefreshFamily × RefreshToken) := do
  let family ← db.families.find familyId
  match db.tokens.rows.filter fun row => row.familyId = family.id &&
      row.tenantId = family.tenantId && row.tokenDigest = digest with
  | [token] => some (family, token)
  | _ => none

def readRefresh (db : SessionsDb) (now : Instant) (familyId : Uuid) (digest : Digest) :
    Option RefreshRow := do
  let (family, token) ← presentedToken db familyId digest
  let user ← db.findUser family.tenantId family.userId
  let tenantActive ← db.tenants family.tenantId
  return {
    tokenId := token.id
    familyId := family.id
    tenantId := family.tenantId
    userId := family.userId
    role := user.role
    userActive := user.isActive
    tenantActive := tenantActive
    csrfDigest := token.csrfDigest
    used := token.usedAt.isSome
    idleValid := now < token.idleExpiresAt
    absoluteValid := now < family.absoluteExpiresAt
    revoked := family.revokedAt.isSome
    absoluteExpiresAt := family.absoluteExpiresAt }

/-- The token that replaces the presented one. -/
def RefreshRotateInput.child (input : RefreshRotateInput) (row : RefreshRow) (now : Instant) :
    RefreshToken where
  id := input.childId
  tenantId := row.tenantId
  familyId := row.familyId
  parentTokenId := some row.tokenId
  tokenDigest := input.childTokenDigest
  csrfDigest := input.childCsrfDigest
  idleExpiresAt := min (now + 7 * day) row.absoluteExpiresAt
  createdAt := now
  usedAt := none
  updatedAt := now

def markUsedAndInsertChild (input : RefreshRotateInput) (row : RefreshRow) (now : Instant) :
    SessionsTxn Unit := do
  match ← markUsed now row.tokenId with
  | none => Txn.abort .unavailable
  | some _ => insertToken (input.child row now)

def rotateCurrent (runtime : SessionRuntime) (input : RefreshRotateInput) (row : RefreshRow)
    (now : Instant) : SessionsTxn SessionIssue := do
  markUsedAndInsertChild input row now
  return {
    session :=
      { userId := row.userId
        tenantId := row.tenantId
        role := row.role
        accessExpiresAt := now + runtime.accessLifetimeSeconds * second
        refreshIdleExpiresAt := min (now + 7 * day) row.absoluteExpiresAt
        refreshAbsoluteExpiresAt := row.absoluteExpiresAt }
    accessToken :=
      { userId := row.userId
        tenantId := row.tenantId
        role := row.role
        familyId := row.familyId
        csrfHash := input.childCsrfDigest
        issuedAt := now / second
        expiresAt := (now + runtime.accessLifetimeSeconds * second) / second } }

def evaluateLockedRefresh (runtime : SessionRuntime) (input : RefreshRotateInput)
    (familyId : Uuid) (now : Instant) : SessionsTxn SessionsValue := do
  let family ← Txn.selectForUpdate (.family familyId) fun db => db.families.find familyId
  match family with
  | none => return .invalid
  | some _ =>
      match readRefresh (← Txn.view) now familyId input.presentedDigest with
      | none => return .invalid
      | some row =>
          if row.csrfDigest ≠ input.presentedCsrfDigest then return .csrfInvalid
          else if row.revoked then return .invalid
          else if ¬ row.tenantActive then
            let _ ← revokeFamily now .tenantInactive (fun _ => true) row.familyId
            return .tenantInactive
          else if ¬ row.userActive then
            let _ ← revokeFamily now .userInactive (fun _ => true) row.familyId
            return .userInactive
          else if row.used then
            match ← revokeFamily now .reuseDetected (fun _ => true) row.familyId with
            | none => Txn.abort .unavailable
            | some _ => return .invalid
          else if ¬ row.idleValid ∨ ¬ row.absoluteValid then return .invalid
          else return .issued (← rotateCurrent runtime input row now)

/-- `refresh` of `auth-session-service.ts`; `begun` is what `findFamilyId` saw. -/
def refresh (runtime : SessionRuntime) (input : RefreshRotateInput) (begun : SessionsDb) :
    SessionsTxn SessionsValue :=
  match begun.findFamilyId input.presentedDigest with
  | none => return .invalid
  | some familyId => do
      let now := (← Txn.view).clock
      evaluateLockedRefresh runtime input familyId now

structure LogoutInput where
  presentedDigest : Digest
  presentedCsrfDigest : Digest

/-- `logout` of `auth-session-service.ts`. Where the source rolls back and
returns, nothing has been written. -/
def logout (input : LogoutInput) (begun : SessionsDb) : SessionsTxn SessionsValue :=
  match begun.findFamilyId input.presentedDigest with
  | none => return .complete
  | some familyId => do
      let now := (← Txn.view).clock
      let family ← Txn.selectForUpdate (.family familyId) fun db => db.families.find familyId
      match family with
      | none => return .complete
      | some _ =>
          match presentedToken (← Txn.view) familyId input.presentedDigest with
          | none => return .complete
          | some (family, token) =>
              if token.csrfDigest ≠ input.presentedCsrfDigest then return .csrfInvalid
              else if family.revokedAt.isSome then return .complete
              else
                match ← revokeFamily now .logout (fun _ => true) familyId with
                | none => Txn.abort .unavailable
                | some _ => return .complete

end Refresh

section UserChanges

structure UserPasswordMutationInput where
  tenantId : Uuid
  targetUserId : Uuid
  passwordHash : String
  deriving DecidableEq

def writeCredential (input : UserPasswordMutationInput) (now : Instant) (existed : Bool) :
    SessionsTxn Unit :=
  if existed then do
    match ← lockCredential input.tenantId input.targetUserId with
    | none => Txn.abort .unavailable
    | some old =>
        let row ← Txn.attempt ((updateCredentialRow now old
          { old with
            passwordHash := input.passwordHash
            passwordChangedAt := now }).mapError .database)
        Txn.save (SessionsDb.putCredential row)
  else do
    let new : Credential :=
      { userId := input.targetUserId
        tenantId := input.tenantId
        passwordHash := input.passwordHash
        passwordChangedAt := now
        createdAt := now
        updatedAt := now }
    Txn.attempt ((checkAll new.checks).mapError .database)
    Txn.lockRow (.credential new.userId)
    let db ← Txn.view
    Txn.attempt ((require (db.credentials.find new.userId).isNone
      (uniqueViolation "user_auth_credentials_pkey")).mapError .database)
    Txn.attempt ((require (db.tenants new.tenantId).isSome
      (foreignKeyViolation "user_auth_credentials_tenant_id_fkey")).mapError .database)
    Txn.attempt ((require (db.findUser new.tenantId new.userId).isSome
      (foreignKeyViolation "user_auth_credentials_tenant_user_fkey")).mapError .database)
    Txn.save (SessionsDb.insertCredential new)

/-- `passwordTransaction`; `begun` is the database at its `BEGIN`. -/
def setPassword (input : UserPasswordMutationInput) (begun : SessionsDb) :
    SessionsTxn SessionsValue := do
  match ← lockTenant input.tenantId with
  | none => Txn.abort .unavailable
  | some _ =>
      match ← lockUser input.tenantId input.targetUserId with
      | none => Txn.abort .notFound
      | some _ =>
          Txn.lockRow (.password input.tenantId input.targetUserId)
          let existed ← lockCredential input.tenantId input.targetUserId
          writeCredential input begun.clock existed.isSome
          let revoked ← revokeFamilies begun.clock input.tenantId input.targetUserId .passwordReset
          return .passwordSet revoked.length

/-- `withTenantTransaction`. -/
def withTenantTransaction (tenantId : Uuid) (operation : SessionsTxn SessionsValue) :
    SessionsTxn SessionsValue := do
  match ← lockTenant tenantId with
  | none => Txn.abort (.failure "Authenticated tenant vanished.")
  | some _ => operation

/-- `id` is what `gen_random_uuid()` draws. -/
def createUser (id tenantId : Uuid) (input : UserCreateInput) (locale : DbLocale)
    (begun : SessionsDb) : SessionsTxn SessionsValue :=
  withTenantTransaction tenantId do
    let row ← Txn.attempt ((insertUserRow locale
      { id := id
        tenantId := tenantId
        email := input.email
        name := input.name
        role := input.role
        isActive := input.isActive
        createdAt := begun.clock
        updatedAt := begun.clock }).mapError .database)
    Txn.lockRow (.user row.id)
    let db ← Txn.view
    Txn.attempt ((require (db.users.find row.id).isNone
      (uniqueViolation "users_pkey")).mapError .database)
    Txn.attempt ((require (db.findUserByEmail row.tenantId row.email).isNone
      (uniqueViolation "users_tenant_email_key")).mapError .database)
    Txn.attempt ((require (db.tenants row.tenantId).isSome
      (foreignKeyViolation "users_tenant_id_fkey")).mapError .database)
    Txn.save (SessionsDb.insertUser row)
    return .created row

structure UserPatchInput where
  tenantId : Uuid
  userId : Uuid
  expectedUpdatedAt : Instant
  changes : UserPatchChanges

def familyRevocationReason (current : User) (changes : UserPatchChanges) :
    Option RevocationReason :=
  let nextActive := changes.isActive.getD current.isActive
  if current.isActive && !nextActive then some .userInactive
  else
    let nextRole := changes.role.getD current.role
    if nextRole ≠ current.role then some .roleChanged else none

/-- `UPDATE users SET ... WHERE tenant_id AND id RETURNING`. -/
def updateUser (locale : DbLocale) (now : Instant) (tenantId userId : Uuid)
    (changes : UserPatchChanges) : SessionsTxn User := do
  if changes.isEmpty then Txn.abort (.failure "A user update requires a field.")
  else
    match ← lockUser tenantId userId with
    | none => Txn.abort (.failure "User mutation did not return a row.")
    | some old =>
        let row ← Txn.attempt
          ((updateUserRow locale now (changes.apply old)).mapError .database)
        let db ← Txn.view
        Txn.attempt ((require
          (db.users.rows.all fun other => other.id = row.id || other.tenantId ≠ row.tenantId ||
            other.email ≠ row.email)
          (uniqueViolation "users_tenant_email_key")).mapError .database)
        Txn.save (SessionsDb.putUser row)
        return row

def patchLocked (locale : DbLocale) (input : UserPatchInput) (now : Instant) :
    SessionsTxn SessionsValue := do
  match ← lockUser input.tenantId input.userId with
  | none => return .patched .notFound
  | some current =>
      if current.updatedAt ≠ input.expectedUpdatedAt then return .patched .versionConflict
      else
        let db ← Txn.view
        if isAdminRemoval current input.changes ∧
            activeAdminCount db.users input.tenantId ≤ 1 then return .patched .lastAdmin
        else
          let user ← updateUser locale now input.tenantId input.userId input.changes
          match familyRevocationReason current input.changes with
          | none => return .patched (.updated user)
          | some reason =>
              let _ ← revokeFamilies now input.tenantId input.userId reason
              return .patched (.updated user)

/-- `patch` of `users-repository.ts`; `begun` is the database at its `BEGIN`. -/
def patchUser (locale : DbLocale) (input : UserPatchInput) (begun : SessionsDb) :
    SessionsTxn SessionsValue :=
  withTenantTransaction input.tenantId (patchLocked locale input begun.clock)

end UserChanges

inductive SessionsRequest where
  | login (request : LoginRequest)
  | refresh (input : RefreshRotateInput)
  | logout (input : LogoutInput)
  | setPassword (input : UserPasswordMutationInput)
  | createUser (id tenantId : Uuid) (input : UserCreateInput)
  | patchUser (input : UserPatchInput)

def sessionsProgram (runtime : SessionRuntime) :
    SessionsRequest → SessionsDb → SessionsTxn SessionsValue
  | .login request, begun => login runtime request begun
  | .refresh input, begun => refresh runtime input begun
  | .logout input, begun => logout input begun
  | .setPassword input, begun => setPassword input begun
  | .createUser id tenantId input, begun => createUser id tenantId input runtime.locale begun
  | .patchUser input, begun => patchUser runtime.locale input begun

/-- Time passes, and an operator adds a tenant or changes whether it is active. -/
inductive SessionsDrift where
  | tick (elapsed : Nat)
  | tenant (id : Uuid) (isActive : Bool)

def sessionsDrift : SessionsDrift → SessionsDb → SessionsDb
  | .tick elapsed, db => { db with clock := db.clock + elapsed }
  | .tenant id isActive, db =>
      { db with tenants := Function.update db.tenants id (some isActive) }

abbrev SessionsSystem :=
  System SessionsDb SessionsKey SessionsAbort SessionsValue SessionsRequest

abbrev SessionsAction := Action SessionsRequest SessionsDrift

/-- One statement of one of the interleaved requests, or a drift. -/
abbrev sessionsStep (runtime : SessionRuntime) :
    SessionsSystem → SessionsAction → Option SessionsSystem :=
  step (sessionsProgram runtime) sessionsDrift

end CommitmentOptimizer.Sessions.SessionTransactions
