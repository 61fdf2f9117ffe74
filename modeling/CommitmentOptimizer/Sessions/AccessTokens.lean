import CommitmentOptimizer.Foundations.Json
import CommitmentOptimizer.Foundations.UuidText
import CommitmentOptimizer.Sessions.SessionTransactions

/-!
# Access tokens and their claims

The payload that `accessSigner` signs, and the checks of `jwt-validation.ts`.
-/

namespace CommitmentOptimizer.Sessions.AccessTokens

open Foundations
open Foundations.SqlConstraints
open Foundations.UuidText
open Tenants.Users
open SessionTables
open SessionTransactions

set_option autoImplicit false

inductive AuthErrorCode where
  | authRequired | authCredentialConflict | authInvalid | csrfInvalid | tenantInactive
  | userInactive
  deriving DecidableEq, Repr

def assertAuth (condition : Bool) (code : AuthErrorCode) : Except AuthErrorCode Unit :=
  if condition then .ok () else .error code

section Base64Url

def base64UrlDigit (value : Nat) : Char :=
  if value < 26 then Char.ofNat (0x41 + value)
  else if value < 52 then Char.ofNat (0x61 + (value - 26))
  else if value < 62 then Char.ofNat (0x30 + (value - 52))
  else if value = 62 then '-'
  else '_'

def base64UrlValue (character : Char) : Option Nat :=
  if character = '-' then some 62
  else if character = '_' then some 63
  else if character = '+' ∨ character = '/' then none
  else base64Value character

/-- `Buffer.from(text, "base64url")`, from the values of the characters. -/
def decodeBase64Url : List Nat → List UInt8
  | first :: second :: third :: fourth :: rest =>
      let bits := first * 0x40000 + second * 0x1000 + third * 0x40 + fourth
      UInt8.ofNat (bits / 0x10000) :: UInt8.ofNat (bits / 0x100) :: UInt8.ofNat bits ::
        decodeBase64Url rest
  | [first, second, third] =>
      let bits := first * 0x400 + second * 0x10 + third / 4
      [UInt8.ofNat (bits / 0x100), UInt8.ofNat bits]
  | [first, second] => [UInt8.ofNat (first * 4 + second / 16)]
  | _ => []

/-- `bytes.toString("base64url")`. -/
def encodeBase64Url : List UInt8 → List Char
  | first :: second :: third :: rest =>
      let bits := first.toNat * 0x10000 + second.toNat * 0x100 + third.toNat
      base64UrlDigit (bits / 0x40000) :: base64UrlDigit (bits / 0x1000 % 64) ::
        base64UrlDigit (bits / 0x40 % 64) :: base64UrlDigit (bits % 64) :: encodeBase64Url rest
  | [first, second] =>
      let bits := first.toNat * 0x400 + second.toNat * 4
      [base64UrlDigit (bits / 0x1000), base64UrlDigit (bits / 0x40 % 64),
        base64UrlDigit (bits % 64)]
  | [first] => [base64UrlDigit (first.toNat / 4), base64UrlDigit (first.toNat % 4 * 16)]
  | [] => []

/-- The decoded bytes, when the text is what they encode to. -/
def canonicalBase64Url (text : List Char) : Option (List UInt8) := do
  let bytes := decodeBase64Url (← text.mapM base64UrlValue)
  if encodeBase64Url bytes = text then some bytes else none

end Base64Url

/-- The functions of the JavaScript runtime that read a token's header. -/
structure HeaderReader where
  decodeUtf8 : List UInt8 → String
  parseJson : String → Option Json

/-- The matches of `"key"\s*:`, which cannot overlap. -/
def jsonKeyCount (text key : List Char) : Nat :=
  let quoted := '"' :: (key ++ ['"'])
  (text.tails.filter fun suffix => quoted.isPrefixOf suffix &&
    ((suffix.drop quoted.length).dropWhile isJsSpace).head? == some ':').length

def validateJwtProtectedHeader (reader : HeaderReader) (token : String) :
    Except AuthErrorCode Unit := do
  match token.toList.splitOn '.' with
  | [encoded, payload, signature] =>
      assertAuth ([encoded, payload, signature].all fun segment =>
        !segment.isEmpty && segment.all fun character => (base64UrlValue character).isSome)
        .authInvalid
      match canonicalBase64Url encoded with
      | none => .error .authInvalid
      | some decoded =>
          let headerText := reader.decodeUtf8 decoded
          assertAuth (jsonKeyCount headerText.toList "typ".toList == 1 &&
            jsonKeyCount headerText.toList "alg".toList == 1) .authInvalid
          match reader.parseJson headerText with
          | some (.object [(first, firstValue), (second, secondValue)]) =>
              let header := Json.object [(first, firstValue), (second, secondValue)]
              assertAuth (header.field "typ" = some (.string "JWT") &&
                header.field "alg" = some (.string "RS256")) .authInvalid
          | _ => .error .authInvalid
  | _ => .error .authInvalid

structure JwtClaimPolicy where
  issuer : String
  audience : String
  maxLifetimeSeconds : Rat
  clockToleranceSeconds : Rat

structure VerifiedJwtAssertions where
  userId : String
  tenantId : String
  role : UserRole

structure VerifiedCookieJwtAssertions extends VerifiedJwtAssertions where
  familyId : String
  csrfHash : String

def userRoleText : UserRole → String
  | .tenantAdmin => "tenant_admin"
  | .finopsAnalyst => "finops_analyst"
  | .financeApprover => "finance_approver"
  | .readOnlyAuditor => "read_only_auditor"

/-- `isUserRole`. -/
def userRoleOfText (text : String) : Option UserRole :=
  [.tenantAdmin, .finopsAnalyst, .financeApprover, .readOnlyAuditor].find? fun role =>
    userRoleText role == text

/-- `UUID_PATTERN`. -/
def isCanonicalUuid (text : String) : Bool :=
  text.length == 36 &&
    (text.toList.zipIdx.all fun (character, position) =>
      if position ∈ [8, 13, 18, 23] then character == '-'
      else (hexDigit character).isSome && !character.isUpper) &&
    text.toList[14]?.any (fun character => '1' ≤ character && character ≤ '8') &&
    text.toList[19]?.any fun character => character ∈ ['8', '9', 'a', 'b']

def isCanonicalHash (text : String) : Bool :=
  text.length == 43 && (canonicalBase64Url text.toList).isSome

def uuidClaim (name : String) (payload : Json) : Except AuthErrorCode String :=
  match payload.field name with
  | some (.string text) => if isCanonicalUuid text then .ok text else .error .authInvalid
  | _ => .error .authInvalid

def roleClaim (payload : Json) : Except AuthErrorCode UserRole :=
  match payload.field "role" with
  | some (.string text) =>
      match userRoleOfText text with
      | some role => .ok role
      | none => .error .authInvalid
  | _ => .error .authInvalid

def hasTokenId (payload : Json) : Bool :=
  match payload.field "jti" with
  | some (.string text) => !(jsTrim text.toList).isEmpty
  | _ => false

def numericDate : Option Json → Except AuthErrorCode Rat
  | some (.number (some value)) => .ok value
  | _ => .error .authInvalid

def validateJwtClaims (policy : JwtClaimPolicy) (nowSeconds : Rat) (payload : Json) :
    Except AuthErrorCode VerifiedJwtAssertions := do
  assertAuth payload.isObject .authInvalid
  assertAuth (payload.field "iss" = some (.string policy.issuer) &&
    payload.field "aud" = some (.string policy.audience)) .authInvalid
  let userId ← uuidClaim "sub" payload
  let tenantId ← uuidClaim "tenant_id" payload
  let role ← roleClaim payload
  assertAuth (hasTokenId payload) .authInvalid
  let issuedAt ← numericDate (payload.field "iat")
  let expiresAt ← numericDate (payload.field "exp")
  let notBefore ← match payload.field "nbf" with
    | none => Except.ok none
    | some value => (numericDate (some value)).map some
  assertAuth (issuedAt ≤ nowSeconds + policy.clockToleranceSeconds &&
    nowSeconds - policy.clockToleranceSeconds ≤ expiresAt && issuedAt < expiresAt &&
    expiresAt - issuedAt ≤ policy.maxLifetimeSeconds &&
    notBefore.all (· ≤ nowSeconds + policy.clockToleranceSeconds)) .authInvalid
  return ⟨userId, tenantId, role⟩

def validateCookieJwtClaims (policy : JwtClaimPolicy) (nowSeconds : Rat) (payload : Json) :
    Except AuthErrorCode VerifiedCookieJwtAssertions := do
  let assertions ← validateJwtClaims policy nowSeconds payload
  let familyId ← uuidClaim "sid" payload
  match payload.field "csrf_hash" with
  | some (.string csrfHash) =>
      assertAuth (isCanonicalHash csrfHash) .authInvalid
      return ⟨assertions, familyId, csrfHash⟩
  | _ => .error .authInvalid

/-- What `accessSigner` signs; `tokenId` is drawn by `randomUUID`. -/
def accessPayload (policy : JwtClaimPolicy) (tokenId : Uuid) (claims : AccessClaims) : Json :=
  .object
    [("iss", .string policy.issuer),
     ("aud", .string policy.audience),
     ("sub", .string (uuidText claims.userId)),
     ("tenant_id", .string (uuidText claims.tenantId)),
     ("role", .string (userRoleText claims.role)),
     ("jti", .string (uuidText tokenId)),
     ("iat", .number (some claims.issuedAt)),
     ("exp", .number (some claims.expiresAt)),
     ("sid", .string (uuidText claims.familyId)),
     ("csrf_hash", .string (String.ofList (encodeBase64Url claims.csrfHash)))]

section Lifetime

/-- The token's identifiers are of a version that UUIDs have, and the time is
within its lifetime. -/
structure Current (policy : JwtClaimPolicy) (nowSeconds : Rat) (claims : AccessClaims) : Prop where
  userId : isCanonicalUuid (uuidText claims.userId) = true
  tenantId : isCanonicalUuid (uuidText claims.tenantId) = true
  issued : (claims.issuedAt : Rat) ≤ nowSeconds + policy.clockToleranceSeconds
  unexpired : nowSeconds - policy.clockToleranceSeconds ≤ claims.expiresAt
  ordered : claims.issuedAt < claims.expiresAt
  lifetime : (claims.expiresAt : Rat) - claims.issuedAt ≤ policy.maxLifetimeSeconds

variable {policy : JwtClaimPolicy} {nowSeconds : Rat} {tokenId : Uuid} {claims : AccessClaims}

theorem uuid_of_canonical {id : Uuid} (canonical : isCanonicalUuid (uuidText id) = true) :
    uuidOfText (uuidText id).toList = some id := by
  simp only [isCanonicalUuid, Bool.and_eq_true, beq_iff_eq] at canonical
  exact uuid_of_text_uuid_text ((uuid_text_length id).mp canonical.1.1.1)

theorem role_of_role_text (role : UserRole) : userRoleOfText (userRoleText role) = some role := by
  cases role <;> decide

theorem js_trim_nonempty {text : List Char} {character : Char} (member : character ∈ text)
    (visible : isJsSpace character = false) : jsTrim text ≠ [] := by
  have front : text.dropWhile isJsSpace ≠ [] := by
    intro empty
    have space := List.dropWhile_eq_nil_iff.mp empty character member
    rw [visible] at space
    cases space
  have first : isJsSpace ((text.dropWhile isJsSpace).head front) = false :=
    Bool.not_eq_true _ ▸ List.head_dropWhile_not isJsSpace front
  intro empty
  have back := List.dropWhile_eq_nil_iff.mp (List.reverse_eq_nil_iff.mp empty)
    ((text.dropWhile isJsSpace).head front) (List.mem_reverse.mpr (List.head_mem front))
  rw [first] at back
  cases back

theorem has_token_id (policy : JwtClaimPolicy) (tokenId : Uuid) (claims : AccessClaims) :
    hasTokenId (accessPayload policy tokenId claims) = true := by
  have hyphen : '-' ∈ (uuidText tokenId).toList := by
    rw [uuid_text_list]
    simp
  change (!(jsTrim (uuidText tokenId).toList).isEmpty) = true
  simpa using js_trim_nonempty hyphen (by decide)

theorem assert_auth_ok {condition : Bool} {code : AuthErrorCode} {value : Unit} :
    assertAuth condition code = .ok value ↔ condition = true := by
  cases condition <;> simp [assertAuth]

theorem uuid_claim_ok {name : String} {payload : Json} {id : Uuid} {text : String}
    (present : payload.field name = some (.string (uuidText id))) :
    uuidClaim name payload = .ok text ↔
      isCanonicalUuid (uuidText id) = true ∧ text = uuidText id := by
  rw [uuidClaim, present]
  by_cases canonical : isCanonicalUuid (uuidText id) = true
  · simp [canonical, eq_comm]
  · simp [canonical]

theorem access_payload_valid {assertions : VerifiedJwtAssertions} :
    validateJwtClaims policy nowSeconds (accessPayload policy tokenId claims) =
        .ok assertions ↔
      Current policy nowSeconds claims ∧
        assertions = ⟨uuidText claims.userId, uuidText claims.tenantId, claims.role⟩ := by
  have issuer : (accessPayload policy tokenId claims).field "iss" = some (.string policy.issuer) :=
    rfl
  have audience : (accessPayload policy tokenId claims).field "aud" =
    some (.string policy.audience) := rfl
  have subject : (accessPayload policy tokenId claims).field "sub" =
    some (.string (uuidText claims.userId)) := rfl
  have tenant : (accessPayload policy tokenId claims).field "tenant_id" =
    some (.string (uuidText claims.tenantId)) := rfl
  have role : roleClaim (accessPayload policy tokenId claims) = .ok claims.role := by
    change (match userRoleOfText (userRoleText claims.role) with
      | some role => Except.ok role
      | none => .error AuthErrorCode.authInvalid) = _
    rw [role_of_role_text]
  have issuedAt : numericDate ((accessPayload policy tokenId claims).field "iat") =
    .ok (claims.issuedAt : Rat) := rfl
  have expiresAt : numericDate ((accessPayload policy tokenId claims).field "exp") =
    .ok (claims.expiresAt : Rat) := rfl
  have notBefore : (accessPayload policy tokenId claims).field "nbf" = none := rfl
  simp only [validateJwtClaims, bind_ok, assert_auth_ok, uuid_claim_ok subject,
    uuid_claim_ok tenant, role, issuedAt, expiresAt, notBefore, issuer, audience, has_token_id]
  constructor
  · rintro ⟨_, _, _, _, _, ⟨userCanonical, rfl⟩, _, ⟨tenantCanonical, rfl⟩, _, sameRole, _, _, _,
      sameIssued, _, sameExpires, _, sameBefore, _, window, built⟩
    obtain rfl := Except.ok.inj sameRole
    obtain rfl := Except.ok.inj sameIssued
    obtain rfl := Except.ok.inj sameExpires
    obtain rfl := Except.ok.inj sameBefore
    obtain rfl := Except.ok.inj built
    simp only [Bool.and_eq_true, decide_eq_true_eq] at window
    obtain ⟨⟨⟨⟨issued, unexpired⟩, ordered⟩, lifetime⟩, _⟩ := window
    exact ⟨⟨userCanonical, tenantCanonical, issued, unexpired, by exact_mod_cast ordered,
      lifetime⟩, rfl⟩
  · rintro ⟨current, rfl⟩
    have ordered : (claims.issuedAt : Rat) < claims.expiresAt := by exact_mod_cast current.ordered
    refine ⟨(), rfl, (), rfl, _, ⟨current.userId, rfl⟩, _, ⟨current.tenantId, rfl⟩, _, rfl, (),
      trivial, _, rfl, _, rfl, _, rfl, (), ?_, rfl⟩
    simp [current.issued, current.unexpired, ordered, current.lifetime]

end Lifetime

end CommitmentOptimizer.Sessions.AccessTokens
