import CommitmentOptimizer.Foundations.BigIntText
import CommitmentOptimizer.Foundations.JsonTextUnique
import CommitmentOptimizer.Foundations.JsValues
import CommitmentOptimizer.Foundations.RowLocking
import CommitmentOptimizer.Tenants.ApiKeyCredentials
import CommitmentOptimizer.Tenants.TenantRows

/-!
# Tenant registration

`registration-digests.ts` from the normalized tenant on, and the transaction of
`registration-repository.ts`, statement by statement. Identifiers and random
bytes are drawn by the caller of the model.
-/

namespace CommitmentOptimizer.Tenants.TenantRegistration

open Foundations
open Foundations.BigIntText
open Foundations.IsoInstants
open Foundations.JsonText
open Foundations.RowLocking
open Foundations.SqlConstraints
open Sessions.SessionTables
open ApiKeyCredentials
open TenantRows

set_option autoImplicit false

section Records

/-- The properties of an object with text values, as they were added. -/
abbrev TextRecord := KeyedTable fun entry : String × String => entry.1

def utf16Units (text : List Char) : List Nat :=
  text.flatMap fun character =>
    let code := character.toNat
    if code < 0x10000 then [code]
    else [0xd800 + (code - 0x10000) / 0x400, 0xdc00 + (code - 0x10000) % 0x400]

/-- `left < right ? -1 : left > right ? 1 : 0` is not positive. -/
def textOrder (left right : String) : Bool :=
  ¬ utf16Units right.toList < utf16Units left.toList

def isArrayIndex (name : String) : Bool :=
  isDecimal name.toList && digitsValue name.toList < 4294967295

/-- The order in which an object lists what was added to it. -/
def propertyOrder (entries : List (String × String)) : List (String × String) :=
  let (indexes, names) := entries.partition fun entry => isArrayIndex entry.1
  (indexes.mergeSort fun left right =>
    digitsValue left.1.toList ≤ digitsValue right.1.toList) ++ names

/-- `sortedRegistration`, as its entries are listed. -/
def sortedRegistration (input : TextRecord) : List (String × String) :=
  propertyOrder ((propertyOrder input.rows).mergeSort fun left right => textOrder left.1 right.1)

def textObject (entries : List (String × String)) : Json :=
  .object (entries.map fun entry => (entry.1, .string entry.2))

end Records

structure TenantAddress where
  line1 : Option String
  line2 : Option String
  locality : Option String
  region : Option String
  postalCode : Option String
  countryCode : Option String
  deriving DecidableEq, Repr

/-- What `normalizeRiskBudget` accepts, before its bound. -/
structure DecimalText where
  text : String
  decimal : isDecimal text.toList = true

structure NormalizedTenantInput where
  name : String
  legalName : String
  fullLegalName : String
  displayName : String
  address : TenantAddress
  registration : TextRecord
  contactEmail : Option String
  contactPhone : Option String
  supportUrl : Option String
  financeOwnerEmail : Option String
  wordmark : Option String
  defaultCurrency : String
  timezone : String
  riskBudgetCents : DecimalText

section Digests

def nullable : Option String → Json
  | none => .null
  | some text => .string text

def canonicalAddress (address : TenantAddress) : Json :=
  .object
    [("line1", nullable address.line1), ("line2", nullable address.line2),
     ("locality", nullable address.locality), ("region", nullable address.region),
     ("postal_code", nullable address.postalCode), ("country_code", nullable address.countryCode)]

def canonicalBody (tenant : NormalizedTenantInput) : Json :=
  .object
    [("name", .string tenant.name),
     ("legal_name", .string tenant.legalName),
     ("full_legal_name", .string tenant.fullLegalName),
     ("display_name", .string tenant.displayName),
     ("address", canonicalAddress tenant.address),
     ("registration", textObject (sortedRegistration tenant.registration)),
     ("contact_email", nullable tenant.contactEmail),
     ("contact_phone", nullable tenant.contactPhone),
     ("support_url", nullable tenant.supportUrl),
     ("finance_owner_email", nullable tenant.financeOwnerEmail),
     ("wordmark", nullable tenant.wordmark),
     ("default_currency", .string tenant.defaultCurrency),
     ("timezone", .string tenant.timezone),
     ("risk_budget_cents", .string tenant.riskBudgetCents.text)]

/-- The body has no number, so how one is written does not matter. -/
def canonicalRegistrationRequest (tenant : NormalizedTenantInput) : String :=
  String.ofList ("tenant-registration:v1\n".toList ++ jsonText (fun _ => []) (canonicalBody tenant))

/-- `^[\x21-\x7e]+$` and 16 to 128 characters. -/
def isIdempotencyKey (text : List Char) : Bool :=
  16 ≤ text.length && text.length ≤ 128 &&
    text.all fun character => '\x21' ≤ character && character ≤ '\x7e'

structure IdempotencyKey where
  text : String
  form : isIdempotencyKey text.toList = true
  deriving DecidableEq

/-- `validateIdempotencyKey`; `none` is the error it throws. -/
def validateIdempotencyKey : JsValue → Option IdempotencyKey
  | .string value =>
      if value.toList.any isControl then none
      else if form : isIdempotencyKey (String.ofList (jsTrim value.toList)).toList then
        some ⟨String.ofList (jsTrim value.toList), form⟩
      else none
  | _ => none

structure PreparedRegistrationRequest where
  tenant : NormalizedTenantInput
  idempotencyKeyHash : Digest
  requestSha256 : Digest
  canonicalRequest : String

def prepareRegistrationRequest (sha : Sha256) (idempotencyKey : JsValue)
    (tenant : NormalizedTenantInput) : Option PreparedRegistrationRequest := do
  let normalizedKey ← validateIdempotencyKey idempotencyKey
  let canonicalRequest := canonicalRegistrationRequest tenant
  return {
    tenant
    idempotencyKeyHash := sha.digest normalizedKey.text
    requestSha256 := sha.digest canonicalRequest
    canonicalRequest }

/-- Two normalized bodies with the same properties, in whatever order. -/
def SameBody (left right : NormalizedTenantInput) : Prop :=
  { left with registration := right.registration } = right ∧
    left.registration.rows.Perm right.registration.rows

theorem property_order_perm (entries : List (String × String)) :
    (propertyOrder entries).Perm entries := by
  simp only [propertyOrder, List.partition_eq_filter_filter]
  refine List.Perm.trans (List.Perm.append_right _ (List.mergeSort_perm _ _)) ?_
  have split := List.filter_append_perm (fun entry : String × String => isArrayIndex entry.1) entries
  exact split

theorem sorted_registration_perm (input : TextRecord) :
    (sortedRegistration input).Perm input.rows :=
  (property_order_perm _).trans ((List.mergeSort_perm _ _).trans (property_order_perm _))

theorem text_object_number_free (entries : List (String × String)) :
    JsonTextUnique.numberFree (textObject entries) = true := by
  rw [textObject, JsonTextUnique.numberFree]
  induction entries with
  | nil => rfl
  | cons entry rest induction =>
      simpa [JsonTextUnique.fieldsNumberFree, JsonTextUnique.numberFree] using induction

theorem text_object_injective {left right : List (String × String)}
    (same : textObject left = textObject right) : left = right := by
  refine List.map_injective_iff.mpr ?_ (Json.object.inj same)
  intro first second equal
  obtain ⟨name, value⟩ := Prod.mk.inj equal
  exact Prod.ext name (Json.string.inj value)

theorem nullable_injective {left right : Option String} (same : nullable left = nullable right) :
    left = right := by
  cases left <;> cases right <;> simp_all [nullable]

theorem nullable_number_free (value : Option String) :
    JsonTextUnique.numberFree (nullable value) = true := by
  cases value <;> rfl

theorem canonical_body_number_free (tenant : NormalizedTenantInput) :
    JsonTextUnique.numberFree (canonicalBody tenant) = true := by
  simp [canonicalBody, canonicalAddress, JsonTextUnique.numberFree,
    JsonTextUnique.fieldsNumberFree, nullable_number_free, text_object_number_free]

theorem canonical_address_injective {left right : TenantAddress}
    (same : canonicalAddress left = canonicalAddress right) : left = right := by
  simp only [canonicalAddress, Json.object.injEq, List.cons.injEq, Prod.mk.injEq, true_and,
    and_true] at same
  obtain ⟨line1, line2, locality, region, postalCode, countryCode⟩ := same
  cases left
  cases right
  simp only [TenantAddress.mk.injEq]
  exact ⟨nullable_injective line1, nullable_injective line2, nullable_injective locality,
    nullable_injective region, nullable_injective postalCode, nullable_injective countryCode⟩

theorem decimal_text_ext {left right : DecimalText} (same : left.text = right.text) :
    left = right := by
  cases left
  cases right
  cases same
  rfl

/-- The text that is hashed tells bodies apart. -/
theorem canonical_registration_request_injective {left right : NormalizedTenantInput}
    (same : canonicalRegistrationRequest left = canonicalRegistrationRequest right) :
    SameBody left right := by
  have texts := List.append_cancel_left (String.ofList_injective same)
  have bodies := JsonTextUnique.json_text_injective _ (canonical_body_number_free left)
    (canonical_body_number_free right) texts
  simp only [canonicalBody, Json.object.injEq, Json.string.injEq, List.cons.injEq,
    Prod.mk.injEq, true_and, and_true] at bodies
  obtain ⟨name, legalName, fullLegalName, displayName, address, registration, contactEmail,
    contactPhone, supportUrl, financeOwnerEmail, wordmark, currency, timezone, budget⟩ := bodies
  constructor
  · cases left
    cases right
    simp only [NormalizedTenantInput.mk.injEq, true_and]
    exact ⟨name, legalName, fullLegalName, displayName, canonical_address_injective address,
      nullable_injective contactEmail, nullable_injective contactPhone,
      nullable_injective supportUrl, nullable_injective financeOwnerEmail,
      nullable_injective wordmark, currency, timezone, decimal_text_ext budget⟩
  · have entries := text_object_injective registration
    exact (sorted_registration_perm left.registration).symm.trans
      (entries ▸ sorted_registration_perm right.registration)

end Digests

section Transaction

/-- `idempotencyKeyInvalid` is the `RegistrationDigestError` of the preparation; the others
are errors of the transaction, with status 409 or 503. -/
inductive RegistrationError where
  | idempotencyKeyInvalid
  | inProgress
  | terminalFailure
  | keyReused
  | nonReplayable (tenantId apiKeyId : Option Uuid)
  | dependencyUnavailable
  deriving DecidableEq, Repr

/-- Rows, the entries of the unique indexes, and the advisory locks. -/
inductive TenantsKey where
  | registrationLock (lockId : Int)
  | initializationLock
  | idempotencyKey (hash : Digest)
  | registration (id : Uuid)
  | tenant (id : Uuid)
  | apiKey (id : Uuid)
  | keyHash (hash : String)
  | user (id : Uuid)
  | audit (id : Uuid)
  deriving DecidableEq

/-- `idempotencyKey` is the header; the identifiers are what `gen_random_uuid()` draws. -/
structure RegistrationCall where
  idempotencyKey : JsValue
  tenant : NormalizedTenantInput
  registrationId : Uuid
  tenantId : Uuid
  apiKeyId : Uuid
  entropy : List UInt8

structure RegistrationCreated where
  tenant : Tenant
  apiKey : String
  deriving DecidableEq

abbrev RegistrationTxn := Txn TenantsDb TenantsKey RegistrationError

def initialKeyNote : String := "Initial analyst automation key"

/-- `digest.readBigInt64BE(0)`. -/
def lockIdOf (digest : Digest) : Int :=
  let value := (digest.take 8).foldl (fun value byte => value * 256 + byte.toNat) (0 : Nat)
  if value < 9223372036854775808 then value else value - 18446744073709551616

/-- `pg_try_advisory_xact_lock`. -/
def acquireRegistrationLock (digest : Digest) : RegistrationTxn Unit := do
  let locked ← Txn.lockRows (fun _ => [.registrationLock (lockIdOf digest)]) 1
  match locked with
  | [] => Txn.abort .inProgress
  | _ => return ()

def rejectExisting (prepared : PreparedRegistrationRequest) : RegistrationTxn Unit := do
  let existing ← Txn.selectForUpdate (.idempotencyKey prepared.idempotencyKeyHash)
    fun db => db.findRegistration prepared.idempotencyKeyHash
  match existing with
  | none => return ()
  | some row =>
      if row.requestSha256 ≠ prepared.requestSha256 then Txn.abort .keyReused
      else match row.status with
        | .pending => Txn.abort .inProgress
        | .failed => Txn.abort .terminalFailure
        | .succeeded => Txn.abort (.nonReplayable row.tenantId row.apiKeyId)

/-- Every error but the repository's own becomes `dependencyUnavailable`. -/
def orUnavailable {Value : Type} (outcome : Except DbError Value) : RegistrationTxn Value :=
  Txn.attempt (outcome.mapError fun _ => .dependencyUnavailable)

def pendingRow (call : RegistrationCall) (prepared : PreparedRegistrationRequest) (now : Instant) :
    RegistrationRow where
  id := call.registrationId
  idempotencyKeyHash := prepared.idempotencyKeyHash
  requestSha256 := prepared.requestSha256
  status := .pending
  tenantId := none
  apiKeyId := none
  errorCode := none
  createdAt := now
  updatedAt := now

def insertPending (new : RegistrationRow) : RegistrationTxn Unit := do
  Txn.lockRow (.registration new.id)
  Txn.lockRow (.idempotencyKey new.idempotencyKeyHash)
  let db ← Txn.view
  let row ← orUnavailable (insertRegistrationRow db new)
  Txn.save (TenantsDb.insertRegistration row)

/-- `databaseAddress`: an empty text is left out as a missing one is. -/
def databaseAddress (address : TenantAddress) : Json :=
  let present := fun field : String × Option String =>
    match field.2 with
    | some text => if text = "" then none else some (field.1, Json.string text)
    | none => none
  .object ([("line1", address.line1), ("line2", address.line2), ("locality", address.locality),
    ("region", address.region), ("postal_code", address.postalCode),
    ("country_code", address.countryCode)].filterMap present)

/-- The parameters of the INSERT; `is_active` and the times are the defaults. -/
def newTenant (id : Uuid) (tenant : NormalizedTenantInput) (now : Instant) : Tenant where
  id := id
  name := tenant.name
  legalName := tenant.legalName
  fullLegalName := tenant.fullLegalName
  displayName := tenant.displayName
  address := databaseAddress tenant.address
  registration := textObject (propertyOrder tenant.registration.rows)
  contactEmail := tenant.contactEmail
  contactPhone := tenant.contactPhone
  supportUrl := tenant.supportUrl
  financeOwnerEmail := tenant.financeOwnerEmail
  wordmark := tenant.wordmark
  defaultCurrency := tenant.defaultCurrency
  timezone := tenant.timezone
  riskBudgetCents := digitsValue tenant.riskBudgetCents.text.toList
  isActive := true
  createdAt := now
  updatedAt := now

def insertTenant (new : Tenant) : RegistrationTxn Tenant := do
  Txn.lockRow (.tenant new.id)
  let db ← Txn.view
  let row ← orUnavailable (insertTenantRow db new)
  Txn.save (TenantsDb.insertTenant row)
  return row

def insertApiKey (new : ApiKey) : RegistrationTxn Uuid := do
  Txn.lockRow (.apiKey new.id)
  Txn.lockRow (.keyHash new.keyHash)
  let db ← Txn.view
  let row ← orUnavailable (insertApiKeyRow db new)
  Txn.save (TenantsDb.insertApiKey row)
  return row.id

def succeedLedger (now : Instant) (digest : Digest) (tenantId apiKeyId : Uuid) :
    RegistrationTxn Unit := do
  let matched ← Txn.selectForUpdate (.idempotencyKey digest) fun db =>
    (db.findRegistration digest).filter fun row => row.status = .pending
  match matched with
  | none => Txn.abort .dependencyUnavailable
  | some old =>
      let db ← Txn.view
      let row ← orUnavailable (updateRegistrationRow db now
        { old with status := .succeeded, tenantId := some tenantId, apiKeyId := some apiKeyId })
      Txn.save (TenantsDb.putRegistration row)

def initialKey (call : RegistrationCall) (tenantId : Uuid) (credential : ApiKeyCredential)
    (now : Instant) : ApiKey where
  id := call.apiKeyId
  tenantId := tenantId
  keyHash := credential.keyHash
  note := some initialKeyNote
  createdAt := now
  revokedAt := none

/-- `runTransaction` from `insertPending` on. -/
def createTenant (sha : Sha256) (apiKeyPrefix : String) (call : RegistrationCall)
    (prepared : PreparedRegistrationRequest) (now : Instant) :
    RegistrationTxn RegistrationCreated := do
  insertPending (pendingRow call prepared now)
  match createApiKeyCredential sha apiKeyPrefix call.entropy with
  | none => Txn.abort .dependencyUnavailable
  | some credential =>
      let tenant ← insertTenant (newTenant call.tenantId prepared.tenant now)
      let apiKeyId ← insertApiKey (initialKey call tenant.id credential now)
      succeedLedger now prepared.idempotencyKeyHash tenant.id apiKeyId
      return { tenant, apiKey := credential.plaintext }

/-- `now` is the transaction's time. -/
def runTransaction (sha : Sha256) (apiKeyPrefix : String) (call : RegistrationCall)
    (prepared : PreparedRegistrationRequest) (now : Instant) :
    RegistrationTxn RegistrationCreated := do
  acquireRegistrationLock prepared.idempotencyKeyHash
  rejectExisting prepared
  createTenant sha apiKeyPrefix call prepared now

def registrationProgram (sha : Sha256) (apiKeyPrefix : String) (call : RegistrationCall)
    (begun : TenantsDb) : RegistrationTxn RegistrationCreated :=
  match prepareRegistrationRequest sha call.idempotencyKey call.tenant with
  | none => Txn.abort .idempotencyKeyInvalid
  | some prepared => runTransaction sha apiKeyPrefix call prepared begun.clock

end Transaction

abbrev RegistrationSystem :=
  System TenantsDb TenantsKey RegistrationError RegistrationCreated RegistrationCall

abbrev RegistrationAction := Action RegistrationCall Nat

/-- Only the clock moves without a transaction. -/
def registrationDrift (elapsed : Nat) (db : TenantsDb) : TenantsDb :=
  { db with clock := db.clock + elapsed }

abbrev registrationStep (sha : Sha256) (apiKeyPrefix : String) :
    RegistrationSystem → RegistrationAction → Option RegistrationSystem :=
  step (registrationProgram sha apiKeyPrefix) registrationDrift

end CommitmentOptimizer.Tenants.TenantRegistration
