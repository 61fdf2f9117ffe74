import CommitmentOptimizer.Sessions.AccessTokens
import CommitmentOptimizer.Sessions.SessionSafety

/-!
# Authentication of requests

Credential selection, the CSRF proof of the access cookie, and the two ways in
which an access token is authenticated: as a cookie it is joined with its
refresh family, as a Bearer credential it is not.
-/

namespace CommitmentOptimizer.Sessions.Authentication

open Foundations
open Foundations.Schedules
open Foundations.SqlConstraints
open Foundations.RowLocking
open Tenants.Users
open SessionTables
open SessionTransactions
open SessionInvariants
open SessionVerification
open SessionSafety
open AccessTokens

set_option autoImplicit false

inductive HeaderValue where
  | single (value : String)
  | many (values : List String)

abbrev RequestHeaders := String → Option HeaderValue

structure HttpRequest where
  id : String
  method : String
  headers : RequestHeaders
  cookies : String → Option String
  body : Option Json

inductive RequestCredential where
  | apiKey (value : String)
  | jwt (value : String)
  | accessCookie (value : String)
  deriving DecidableEq

section Selection

def singleHeader : Option HeaderValue → Except AuthErrorCode (Option String)
  | none => .ok none
  | some (.single value) => .ok (some value)
  | some (.many [value]) => .ok (some value)
  | some (.many _) => .error .authInvalid

def isTrimmed (value : String) : Bool :=
  value != "" && jsTrim value.toList == value.toList

/-- `/^Bearer ([^\s]+)$/iu`. -/
def bearerToken (authorization : String) : Option String :=
  let text := authorization.toList
  let token := text.drop 7
  if (text.take 7).map Char.toLower = "bearer ".toList ∧ token ≠ [] ∧
      token.all (!isJsSpace ·) then some (String.ofList token)
  else none

def selectRequestCredential (headers : RequestHeaders) (accessCookie : Option String) :
    Except AuthErrorCode RequestCredential := do
  let apiKey ← singleHeader (headers "x-api-key")
  let authorization ← singleHeader (headers "authorization")
  match apiKey, accessCookie, authorization with
  | none, none, none => .error .authRequired
  | some value, none, none =>
      assertAuth (isTrimmed value) .authInvalid
      return .apiKey value
  | none, some value, none =>
      assertAuth (isTrimmed value) .authInvalid
      return .accessCookie value
  | none, none, some value =>
      match bearerToken value with
      | none => .error .authInvalid
      | some token => return .jwt token
  | _, _, _ => .error .authCredentialConflict

def assertCanonicalCookie (rawCookie : Option String) (name : String)
    (parsedValue : Option String) (code : AuthErrorCode) :
    Except AuthErrorCode (Option String) := do
  let count := (((rawCookie.getD "").toList.splitOn ';').filter fun part =>
    jsTrim (part.takeWhile (· != '=')) == name.toList).length
  assertAuth (count == if parsedValue.isNone then 0 else 1) code
  return parsedValue

end Selection

structure SessionCookiePolicy where
  publicOrigin : String
  accessName : String
  csrfName : String

structure AccessCookieProof where
  method : String
  headers : RequestHeaders
  csrfCookie : Option String
  expectedOrigin : String

/-- What authentication takes from outside: the JWT library, the hash functions
and the `api_keys` query. -/
structure AuthenticationRuntime where
  headerReader : HeaderReader
  verifyJwt : String → Option Json
  digestSecret : String → Digest
  findApiKeyIdentity : String → Option (Uuid × Uuid × Bool)
  jwtPolicy : JwtClaimPolicy
  cookiePolicy : SessionCookiePolicy

section Csrf

def oneHeader : Option HeaderValue → Option String
  | some (.single value) => if value = "" ∨ ',' ∈ value.toList then none else some value
  | _ => none

def optionalOneHeader : Option HeaderValue → Option String
  | none => none
  | input => some ((oneHeader input).getD "invalid")

def assertSameOrigin (headers : RequestHeaders) (expectedOrigin : String) :
    Except AuthErrorCode Unit :=
  assertAuth (oneHeader (headers "origin") == some expectedOrigin &&
    (optionalOneHeader (headers "sec-fetch-site")).all (· == "same-origin")) .csrfInvalid

/-- `isCanonicalOpaqueSecret`. -/
def isCanonicalOpaqueSecret (value : String) : Bool := isCanonicalHash value

def assertDoubleSubmit (headers : RequestHeaders) (csrfCookie : Option String) :
    Except AuthErrorCode String :=
  match oneHeader (headers "x-csrf-token"), csrfCookie with
  | some csrfHeader, some cookie => do
      assertAuth (isCanonicalOpaqueSecret cookie && isCanonicalOpaqueSecret csrfHeader &&
        cookie == csrfHeader) .csrfInvalid
      return csrfHeader
  | _, _ => .error .csrfInvalid

def isUnsafe (method : String) : Bool :=
  !(["GET", "HEAD", "OPTIONS"].map String.toList).contains (method.toList.map Char.toUpper)

def assertAccessCookieProof (digestSecret : String → Digest) (proof : AccessCookieProof)
    (csrfHash : String) : Except AuthErrorCode Unit := do
  if isUnsafe proof.method then
    assertSameOrigin proof.headers proof.expectedOrigin
    let csrf ← assertDoubleSubmit proof.headers proof.csrfCookie
    assertAuth (String.ofList (encodeBase64Url (digestSecret csrf)) == csrfHash) .csrfInvalid

/-- `/^application\/x-www-form-urlencoded(?:\s*;|$)/iu`. -/
def isFormContentType : Option HeaderValue → Bool
  | some (.single value) =>
      let name := "application/x-www-form-urlencoded".toList
      let rest := value.toList.drop name.length
      (value.toList.take name.length).map Char.toLower == name &&
        (rest.isEmpty || (rest.dropWhile isJsSpace).head? == some ';')
  | _ => false

def formCsrfHeaders (headers : RequestHeaders) (body : Option Json) : RequestHeaders :=
  if (headers "x-csrf-token").isSome ∨ ¬ isFormContentType (headers "content-type") then headers
  else
    match body.bind (·.field "_csrf") with
    | some (.string csrf) => Function.update headers "x-csrf-token" (some (.single csrf))
    | _ => headers

end Csrf

inductive RequestContext where
  | user (tenantId actorUserId : Uuid) (role : UserRole) (requestId : String)
  | apiKey (tenantId apiKeyId : Uuid) (requestId : String)
  deriving DecidableEq

structure UserIdentity where
  actorUserId : Uuid
  tenantId : Uuid
  role : UserRole
  userActive : Bool
  tenantActive : Bool

/-- `FROM users JOIN tenants WHERE u.id = $1 AND u.tenant_id = $2 AND u.role = $3`. -/
def findUserIdentity (db : SessionsDb) (assertion : VerifiedJwtAssertions) :
    Option UserIdentity := do
  let userId ← uuidOfText assertion.userId.toList
  let tenantId ← uuidOfText assertion.tenantId.toList
  let user ← (db.findUser tenantId userId).filter fun row => row.role = assertion.role
  let tenantActive ← db.tenants tenantId
  return {
    actorUserId := user.id
    tenantId := tenantId
    role := user.role
    userActive := user.isActive
    tenantActive := tenantActive }

/-- The same, joined with the unrevoked family of the token. -/
def findCookieUserIdentity (db : SessionsDb) (assertion : VerifiedCookieJwtAssertions) :
    Option UserIdentity := do
  let identity ← findUserIdentity db assertion.toVerifiedJwtAssertions
  let familyId ← uuidOfText assertion.familyId.toList
  let _ ← (db.families.find familyId).filter fun row =>
    belongsTo identity.tenantId identity.actorUserId row && row.revokedAt.isNone &&
      decide (db.clock < row.absoluteExpiresAt)
  return identity

def createUserRequestContext (identity : Option UserIdentity) (requestId : String) :
    Except AuthErrorCode RequestContext :=
  match identity with
  | none => .error .authInvalid
  | some identity => do
      assertAuth identity.userActive .userInactive
      assertAuth identity.tenantActive .tenantInactive
      return .user identity.tenantId identity.actorUserId identity.role requestId

/-- `authenticateApiKey`. -/
def authenticateApiKey (runtime : AuthenticationRuntime) (plaintext requestId : String) :
    Except AuthErrorCode RequestContext :=
  match runtime.findApiKeyIdentity plaintext with
  | none => .error .authInvalid
  | some (apiKeyId, tenantId, tenantActive) => do
      assertAuth tenantActive .tenantInactive
      return .apiKey tenantId apiKeyId requestId

/-- What `authenticateJwt` has when the signature is verified. -/
def verifiedPayload (runtime : AuthenticationRuntime) (token : String) :
    Except AuthErrorCode Json := do
  validateJwtProtectedHeader runtime.headerReader token
  match runtime.verifyJwt token with
  | none => .error .authInvalid
  | some payload => return payload

/-- `authenticate` of `auth-service.ts`. -/
def authenticateCredential (runtime : AuthenticationRuntime) (db : SessionsDb) (nowSeconds : Rat)
    (requestId : String) (proof : AccessCookieProof) :
    RequestCredential → Except AuthErrorCode RequestContext
  | .apiKey plaintext => authenticateApiKey runtime plaintext requestId
  | .accessCookie token => do
      let payload ← verifiedPayload runtime token
      let assertion ← validateCookieJwtClaims runtime.jwtPolicy nowSeconds payload
      assertAccessCookieProof runtime.digestSecret proof assertion.csrfHash
      createUserRequestContext (findCookieUserIdentity db assertion) requestId
  | .jwt token => do
      let payload ← verifiedPayload runtime token
      let assertion ← validateJwtClaims runtime.jwtPolicy nowSeconds payload
      createUserRequestContext (findUserIdentity db assertion) requestId

def rawCookie (request : HttpRequest) : Option String :=
  match request.headers "cookie" with
  | some (.single value) => some value
  | _ => none

/-- The credential that a request is authenticated by. -/
def requestCredential (policy : SessionCookiePolicy) (request : HttpRequest) :
    Except AuthErrorCode RequestCredential := do
  let access ← assertCanonicalCookie (rawCookie request) policy.accessName
    (request.cookies policy.accessName) .authInvalid
  selectRequestCredential request.headers access

def cookieCsrf (policy : SessionCookiePolicy) (request : HttpRequest) :
    RequestCredential → Except AuthErrorCode (Option String)
  | .accessCookie _ => assertCanonicalCookie (rawCookie request) policy.csrfName
      (request.cookies policy.csrfName) .csrfInvalid
  | _ => .ok none

/-- `app.authenticate` of `plugins/auth.ts`. -/
def authenticate (runtime : AuthenticationRuntime) (db : SessionsDb) (nowSeconds : Rat)
    (request : HttpRequest) : Except AuthErrorCode RequestContext := do
  let credential ← requestCredential runtime.cookiePolicy request
  let csrf ← cookieCsrf runtime.cookiePolicy request credential
  authenticateCredential runtime db nowSeconds request.id
    { method := request.method
      headers := formCsrfHeaders request.headers request.body
      csrfCookie := csrf
      expectedOrigin := runtime.cookiePolicy.publicOrigin } credential

section Revocation

/-- The token is the credential of the request, if the request has one. -/
def Presents (policy : SessionCookiePolicy) (request : HttpRequest) (token : String) : Prop :=
  ∀ credential, requestCredential policy request = .ok credential →
    credential = .jwt token ∨ credential = .accessCookie token

/-- The token verifies to the payload that was signed for the claims, if at all. -/
def Carries (runtime : AuthenticationRuntime) (token : String) (tokenId : Uuid)
    (claims : AccessClaims) : Prop :=
  ∀ payload, runtime.verifyJwt token = some payload →
    payload = accessPayload runtime.jwtPolicy tokenId claims

/-- The token is a Bearer credential that verifies, within its lifetime, and the
user and the tenant are still active and the role is the same. -/
structure BearerHonoured (runtime : AuthenticationRuntime) (db : SessionsDb) (nowSeconds : Rat)
    (request : HttpRequest) (token : String) (claims : AccessClaims) : Prop where
  bearer : requestCredential runtime.cookiePolicy request = .ok (.jwt token)
  header : validateJwtProtectedHeader runtime.headerReader token = .ok ()
  verified : runtime.verifyJwt token ≠ none
  current : Current runtime.jwtPolicy nowSeconds claims
  user : ∃ user, db.findUser claims.tenantId claims.userId = some user ∧
    user.role = claims.role ∧ user.isActive = true
  tenant : db.tenants claims.tenantId = some true

variable {runtime : AuthenticationRuntime} {db : SessionsDb} {nowSeconds : Rat}
  {request : HttpRequest} {proof : AccessCookieProof} {token requestId : String} {tokenId : Uuid}
  {claims : AccessClaims} {context : RequestContext}

theorem verified_payload_ok {payload : Json} :
    verifiedPayload runtime token = .ok payload ↔
      validateJwtProtectedHeader runtime.headerReader token = .ok () ∧
        runtime.verifyJwt token = some payload := by
  simp only [verifiedPayload, bind_ok]
  constructor
  · rintro ⟨⟨⟩, header, verified⟩
    split at verified
    · cases verified
    case h_2 found same => exact ⟨header, same.trans (congrArg some (Except.ok.inj verified))⟩
  · rintro ⟨header, verified⟩
    exact ⟨(), header, by rw [verified]; rfl⟩

theorem create_context_ok {identity : Option UserIdentity} :
    (∃ context, createUserRequestContext identity requestId = .ok context) ↔
      ∃ found, identity = some found ∧ found.userActive = true ∧ found.tenantActive = true := by
  cases identity with
  | none => simp [createUserRequestContext]
  | some identity =>
      simp only [createUserRequestContext, bind_ok, assert_auth_ok, Option.some.injEq,
        exists_eq_left']
      constructor
      · rintro ⟨context, _, userActive, _, tenantActive, _⟩
        exact ⟨userActive, tenantActive⟩
      · rintro ⟨userActive, tenantActive⟩
        exact ⟨_, (), userActive, (), tenantActive, rfl⟩

/-- The identity found for the claims of a token. -/
theorem find_user_identity_active (current : Current runtime.jwtPolicy nowSeconds claims) :
    (∃ found, findUserIdentity db ⟨uuidText claims.userId, uuidText claims.tenantId, claims.role⟩ =
        some found ∧ found.userActive = true ∧ found.tenantActive = true) ↔
      (∃ user, db.findUser claims.tenantId claims.userId = some user ∧
        user.role = claims.role ∧ user.isActive = true) ∧ db.tenants claims.tenantId = some true := by
  simp only [findUserIdentity, uuid_of_canonical current.userId,
    uuid_of_canonical current.tenantId, bind, Option.bind]
  cases db.findUser claims.tenantId claims.userId with
  | none => simp
  | some user =>
      by_cases same : user.role = claims.role
      · cases tenant : db.tenants claims.tenantId with
        | none => simp [Option.filter, same]
        | some tenantActive => simp [Option.filter, same]
      · simp [Option.filter, same]

theorem bearer_authenticated_iff (carries : Carries runtime token tokenId claims) :
    (∃ context, authenticateCredential runtime db nowSeconds requestId proof (.jwt token) =
        .ok context) ↔
      validateJwtProtectedHeader runtime.headerReader token = .ok () ∧
        runtime.verifyJwt token ≠ none ∧ Current runtime.jwtPolicy nowSeconds claims ∧
        (∃ user, db.findUser claims.tenantId claims.userId = some user ∧
          user.role = claims.role ∧ user.isActive = true) ∧
        db.tenants claims.tenantId = some true := by
  simp only [authenticateCredential, bind_ok, verified_payload_ok]
  constructor
  · rintro ⟨context, payload, ⟨header, verified⟩, assertion, valid, created⟩
    rw [carries payload verified, access_payload_valid] at valid
    obtain ⟨current, rfl⟩ := valid
    have active := create_context_ok.mp ⟨context, created⟩
    exact ⟨header, by simp [verified], current, (find_user_identity_active current).mp active⟩
  · rintro ⟨header, verified, current, active⟩
    obtain ⟨payload, present⟩ := Option.ne_none_iff_exists'.mp verified
    obtain ⟨context, created⟩ := create_context_ok.mpr ((find_user_identity_active current).mpr active)
    refine ⟨context, payload, ⟨header, present⟩, _, ?_, created⟩
    rw [carries payload present, access_payload_valid]
    exact ⟨current, rfl⟩

/-- The cookie of a revoked family is not authenticated. -/
theorem revoked_cookie_rejected {family : RefreshFamily} (member : family ∈ db.families)
    (revoked : family.revokedAt ≠ none) (carries : Carries runtime token tokenId claims)
    (issued : claims.familyId = family.id) :
    authenticateCredential runtime db nowSeconds requestId proof (.accessCookie token) ≠
      .ok context := by
  intro accepted
  obtain ⟨payload, verified, accepted⟩ := bind_ok.mp accepted
  obtain ⟨assertion, valid, accepted⟩ := bind_ok.mp accepted
  obtain ⟨_, _, created⟩ := bind_ok.mp accepted
  obtain ⟨identity, found, _⟩ := create_context_ok.mp ⟨context, created⟩
  rw [carries payload (verified_payload_ok.mp verified).2] at valid
  have sid : uuidOfText assertion.familyId.toList = some family.id := by
    obtain ⟨_, _, valid⟩ := bind_ok.mp valid
    obtain ⟨familyText, named, valid⟩ := bind_ok.mp valid
    have text : (accessPayload runtime.jwtPolicy tokenId claims).field "sid" =
      some (.string (uuidText claims.familyId)) := rfl
    obtain ⟨canonical, rfl⟩ := (uuid_claim_ok text).mp named
    have hash : (accessPayload runtime.jwtPolicy tokenId claims).field "csrf_hash" =
      some (.string (String.ofList (encodeBase64Url claims.csrfHash))) := rfl
    rw [hash] at valid
    obtain ⟨_, _, built⟩ := bind_ok.mp valid
    obtain rfl := Except.ok.inj built
    rw [uuid_of_canonical canonical, issued]
  simp [findCookieUserIdentity, sid, KeyedTable.find_key member, Option.filter, revoked] at found

/-- From the revocation of a family on, a request that presents an access token
of the family is rejected, unless the token is honoured as a Bearer credential. -/
theorem revoked_family_rejected_iff {sessions : SessionRuntime} {start : SessionsDb}
    {system later : SessionsSystem} {family : RefreshFamily} (fresh : Fresh start)
    (reached : Reachable (sessionsStep sessions) (System.initial start) system)
    (member : family ∈ system.db.families) (revoked : family.revokedAt ≠ none)
    (onward : Reachable (sessionsStep sessions) system later)
    (issued : claims.familyId = family.id) (carries : Carries runtime token tokenId claims)
    (presents : Presents runtime.cookiePolicy request token) :
    (∀ context, authenticate runtime later.db nowSeconds request ≠ .ok context) ↔
      ¬ BearerHonoured runtime later.db nowSeconds request token claims := by
  have verified := sessions_verified sessions
  have sound := reachable_system_sound fresh reached
  obtain ⟨stays, _⟩ := evolves_revoked_for_good (reachable_evolves verified sound onward)
    family member revoked
  rw [← not_exists, not_iff_not]
  constructor
  · rintro ⟨context, accepted⟩
    obtain ⟨credential, selected, accepted⟩ := bind_ok.mp accepted
    obtain ⟨csrf, _, accepted⟩ := bind_ok.mp accepted
    rcases presents credential selected with rfl | rfl
    · obtain ⟨header, signed, current, user, tenant⟩ :=
        (bearer_authenticated_iff carries).mp ⟨context, accepted⟩
      exact ⟨selected, header, signed, current, user, tenant⟩
    · exact absurd accepted (revoked_cookie_rejected stays revoked carries issued)
  · intro honoured
    obtain ⟨context, accepted⟩ := (bearer_authenticated_iff carries).mpr ⟨honoured.header,
      honoured.verified, honoured.current, honoured.user, honoured.tenant⟩
    exact ⟨context, bind_ok.mpr ⟨_, honoured.bearer, bind_ok.mpr ⟨none, rfl, accepted⟩⟩⟩

section Example

/-- The claims that `exampleLogin` signs. -/
def exampleClaims : AccessClaims where
  userId := exampleId 1
  tenantId := exampleId 7
  role := .financeApprover
  familyId := exampleId 10
  csrfHash := exampleDigest 30
  issuedAt := 5
  expiresAt := 905

def exampleToken : String := "eyJ0eXAiOiJKV1QiLCJhbGciOiJSUzI1NiJ9.e30.AA"

def examplePolicy : JwtClaimPolicy where
  issuer := "https://ccpo.test"
  audience := "ccpo"
  maxLifetimeSeconds := 900
  clockToleranceSeconds := 0

def exampleAuthentication : AuthenticationRuntime where
  headerReader :=
    { decodeUtf8 := fun bytes => String.ofList (bytes.map fun byte => Char.ofNat byte.toNat)
      parseJson := fun text =>
        if text = "\x7b\"typ\":\"JWT\",\"alg\":\"RS256\"\x7d" then
          some (.object [("typ", .string "JWT"), ("alg", .string "RS256")])
        else none }
  verifyJwt token :=
    if token = exampleToken then some (accessPayload examplePolicy (exampleId 40) exampleClaims)
    else none
  digestSecret _ := exampleDigest 30
  findApiKeyIdentity _ := none
  jwtPolicy := examplePolicy
  cookiePolicy := ⟨"https://ccpo.test", "ccpo_access", "ccpo_csrf"⟩

def bearerRequest : HttpRequest where
  id := "req-1"
  method := "GET"
  headers name := if name = "authorization" then some (.single ("Bearer " ++ exampleToken)) else none
  cookies _ := none
  body := none

def cookieRequest : HttpRequest where
  id := "req-2"
  method := "GET"
  headers name := if name = "cookie" then some (.single ("ccpo_access=" ++ exampleToken)) else none
  cookies name := if name = "ccpo_access" then some exampleToken else none
  body := none

theorem example_token_carries :
    Carries exampleAuthentication exampleToken (exampleId 40) exampleClaims := by
  intro payload verified
  exact (Option.some.inj verified).symm

/-- The family of `exampleClaims` ends revoked. -/
theorem replayed_refresh_revokes :
    ∃ system family, execute (sessionsStep exampleRuntime) (System.initial exampleDb)
        replayedRefresh = some system ∧
      family ∈ system.db.families ∧ family.revokedAt ≠ none ∧
      exampleClaims.familyId = family.id ∧
      authenticate exampleAuthentication system.db 6 bearerRequest =
        .ok (.user (exampleId 7) (exampleId 1) .financeApprover "req-1") := by
  have ends : ((execute (sessionsStep exampleRuntime) (System.initial exampleDb)
      replayedRefresh).map fun system =>
        ((system.db.families.find (exampleId 10)).map fun family => family.revokedAt.isSome,
          decide (authenticate exampleAuthentication system.db 6 bearerRequest =
            .ok (.user (exampleId 7) (exampleId 1) .financeApprover "req-1")))) =
      some (some true, true) := by decide +kernel
  obtain ⟨system, arrived, facts⟩ := Option.map_eq_some_iff.mp ends
  obtain ⟨revoked, accepted⟩ := Prod.mk.inj facts
  obtain ⟨family, found, revoked⟩ := Option.map_eq_some_iff.mp revoked
  have key := KeyedTable.key_of_find found
  exact ⟨system, family, arrived, KeyedTable.mem_of_find found,
    Option.isSome_iff_ne_none.mp revoked, key.symm, of_decide_eq_true accepted⟩

end Example

/-- As a cookie the token of the revoked family is rejected. -/
theorem revoked_family_rejected_cookie :
    ∃ system, execute (sessionsStep exampleRuntime) (System.initial exampleDb) replayedRefresh =
        some system ∧
      ∀ context, authenticate exampleAuthentication system.db 6 cookieRequest ≠ .ok context := by
  obtain ⟨system, family, arrived, member, revoked, issued, _⟩ := replayed_refresh_revokes
  have selected : requestCredential exampleAuthentication.cookiePolicy cookieRequest =
    .ok (.accessCookie exampleToken) := by decide
  refine ⟨system, arrived, (revoked_family_rejected_iff example_db_fresh ⟨_, arrived⟩ member revoked
    (reachable_refl system) issued example_token_carries ?_).mpr ?_⟩
  · intro credential found
    rw [selected] at found
    exact Or.inr (Except.ok.inj found).symm
  · intro honoured
    have bearer := honoured.bearer
    rw [selected] at bearer
    cases bearer

/-- As a Bearer credential it is accepted. -/
theorem revoked_family_accepted_as_bearer :
    ¬ ∀ (start : SessionsDb) (system : SessionsSystem) (family : RefreshFamily)
      (claims : AccessClaims) (token : String) (tokenId : Uuid) (nowSeconds : Rat)
      (request : HttpRequest), Fresh start →
      Reachable (sessionsStep exampleRuntime) (System.initial start) system →
      family ∈ system.db.families → family.revokedAt ≠ none → claims.familyId = family.id →
      Carries exampleAuthentication token tokenId claims →
      Presents exampleAuthentication.cookiePolicy request token →
      ∀ context, authenticate exampleAuthentication system.db nowSeconds request ≠ .ok context := by
  intro always
  obtain ⟨system, family, arrived, member, revoked, issued, accepted⟩ := replayed_refresh_revokes
  have selected : requestCredential exampleAuthentication.cookiePolicy bearerRequest =
    .ok (.jwt exampleToken) := by decide
  refine always exampleDb system family exampleClaims exampleToken (exampleId 40) 6 bearerRequest
    example_db_fresh ⟨_, arrived⟩ member revoked issued example_token_carries ?_ _ accepted
  intro credential found
  rw [selected] at found
  exact Or.inl (Except.ok.inj found).symm

end Revocation

end CommitmentOptimizer.Sessions.Authentication
