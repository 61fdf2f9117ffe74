import CommitmentOptimizer.Foundations.TransactionHistory
import CommitmentOptimizer.Tenants.RegistrationVerification

/-!
# One registration for an idempotency key

Over every schedule of registrations, a key creates at most one tenant and one
API key, and what fails leaves nothing behind.
-/

namespace CommitmentOptimizer.Tenants.RegistrationOnce

open Foundations
open Foundations.RowLocking
open Foundations.Schedules
open Foundations.TransactionHistory
open Sessions.SessionTables
open ApiKeyCredentials
open TenantRows
open TenantRegistration
open RegistrationVerification

set_option autoImplicit false

abbrev RegistrationEnding :=
  Ending TenantsDb RegistrationError RegistrationCreated RegistrationCall

/-- The key after trimming, when it is valid. -/
def trimmedKey (call : RegistrationCall) : Option String :=
  (validateIdempotencyKey call.idempotencyKey).map fun key => key.text

def createdTenants (ending : RegistrationEnding) : List Tenant :=
  match ending.outcome with
  | .committed value => [value.tenant]
  | .rolledBack _ | .dropped => []

section Stored

variable (sha : Sha256) (apiKeyPrefix : String)

def createdKeys (ending : RegistrationEnding) : List ApiKey :=
  match ending.outcome, createApiKeyCredential sha apiKeyPrefix ending.request.entropy with
  | .committed value, some credential =>
      [initialKey ending.request value.tenant.id credential ending.begun.clock]
  | _, _ => []

def createdRows (ending : RegistrationEnding) : List RegistrationRow :=
  match ending.outcome,
      prepareRegistrationRequest sha ending.request.idempotencyKey ending.request.tenant with
  | .committed _, some prepared => [succeededRow ending.request prepared ending.begun.clock]
  | _, _ => []

end Stored

/-- Turned away without effect. -/
def Rejected (ending : RegistrationEnding) : Prop :=
  ending.after = ending.before ∧
    (ending.outcome = .dropped ∨ ending.outcome = .rolledBack .inProgress ∨
      ending.outcome = .rolledBack .keyReused)

def callsFor (key : String) (history : List RegistrationEnding) : List RegistrationEnding :=
  history.filter fun ending => trimmedKey ending.request = some key

/-- No two bodies of the calls have one digest. -/
def CollisionFree (sha : Sha256) (schedule : List RegistrationAction) : Prop :=
  ∀ first firstId second secondId, Action.start firstId first ∈ schedule →
    Action.start secondId second ∈ schedule →
    sha.digest (canonicalRegistrationRequest first.tenant) =
      sha.digest (canonicalRegistrationRequest second.tenant) →
    canonicalRegistrationRequest first.tenant = canonicalRegistrationRequest second.tenant

structure RegisteredOnce (sha : Sha256) (apiKeyPrefix : String) (start finish : TenantsDb)
    (history : List RegistrationEnding) : Prop where
  ledger : LedgerConsistent finish
  tenants : finish.tenants.rows = start.tenants.rows ++ history.flatMap createdTenants
  apiKeys : finish.apiKeys.rows =
    start.apiKeys.rows ++ history.flatMap (createdKeys sha apiKeyPrefix)
  rows : finish.registrations.rows =
    start.registrations.rows ++ history.flatMap (createdRows sha)
  once : ∀ key, (callsFor key history).countP Ending.committed ≤ 1 ∧
    ((callsFor key history).flatMap createdTenants).length ≤ 1 ∧
    ((callsFor key history).flatMap (createdKeys sha apiKeyPrefix)).length ≤ 1
  unrecorded : ∀ ending ∈ history, ending.committed = true → ∀ prepared,
    prepareRegistrationRequest sha ending.request.idempotencyKey ending.request.tenant =
      some prepared → start.findRegistration prepared.idempotencyKeyHash = none
  failed : ∀ ending ∈ history, ending.committed = false → ending.after = ending.before
  recorded : ∀ ending ∈ history, ∀ prepared row,
    prepareRegistrationRequest sha ending.request.idempotencyKey ending.request.tenant =
      some prepared →
    ending.before.findRegistration prepared.idempotencyKeyHash = some row →
    row.requestSha256 ≠ prepared.requestSha256 → Rejected ending
  reused : history.Pairwise fun earlier later => earlier.committed = true →
    trimmedKey earlier.request = trimmedKey later.request →
    ¬ SameBody earlier.request.tenant later.request.tenant → Rejected later

section Single

variable {sha : Sha256} {apiKeyPrefix : String} {ending : RegistrationEnding}

theorem committed_created (kept : ending.Kept (registrationsContract sha apiKeyPrefix))
    (committed : ending.committed = true) :
    ∃ value prepared credential, ending.outcome = .committed value ∧
      prepareRegistrationRequest sha ending.request.idempotencyKey ending.request.tenant =
        some prepared ∧
      createApiKeyCredential sha apiKeyPrefix ending.request.entropy = some credential ∧
      Unused ending.request prepared credential ending.before ∧
      value.tenant = newTenant ending.request.tenantId prepared.tenant ending.begun.clock ∧
      ending.after =
        storeRegistration ending.request prepared credential ending.begun.clock ending.before := by
  obtain ⟨request, begun, outcome, before, after⟩ := ending
  cases outcome with
  | committed value =>
      obtain ⟨prepared, credential, preparation, issued, unused, returned, stored⟩ := kept.2
      exact ⟨value, prepared, credential, rfl, preparation, issued, unused,
        congrArg RegistrationCreated.tenant returned, stored⟩
  | rolledBack reason | dropped => cases committed

theorem uncommitted_unchanged (kept : ending.Kept (registrationsContract sha apiKeyPrefix))
    (uncommitted : ending.committed = false) : ending.after = ending.before := by
  obtain ⟨request, begun, outcome, before, after⟩ := ending
  cases outcome with
  | committed value => cases uncommitted
  | rolledBack reason => exact kept.2.1
  | dropped => exact kept.2

/-- What an ending adds to the three tables. -/
theorem ending_adds (kept : ending.Kept (registrationsContract sha apiKeyPrefix)) :
    ending.after.tenants.rows = ending.before.tenants.rows ++ createdTenants ending ∧
    ending.after.apiKeys.rows =
      ending.before.apiKeys.rows ++ createdKeys sha apiKeyPrefix ending ∧
    ending.after.registrations.rows =
      ending.before.registrations.rows ++ createdRows sha ending := by
  cases committed : ending.committed with
  | false =>
      rw [uncommitted_unchanged kept committed]
      obtain ⟨request, begun, outcome, before, after⟩ := ending
      cases outcome with
      | committed value => cases committed
      | rolledBack reason | dropped => simp [createdTenants, createdKeys, createdRows]
  | true =>
      obtain ⟨value, prepared, credential, outcome, preparation, issued, unused, tenant, stored⟩ :=
        committed_created kept committed
      rw [stored]
      simp only [createdTenants, createdKeys, createdRows, outcome, preparation, issued, tenant]
      exact ⟨KeyedTable.rows_insert unused.tenant, KeyedTable.rows_insert unused.apiKey,
        KeyedTable.rows_insert unused.registration⟩

/-- A recorded key that belongs to another body. -/
theorem recorded_rejected (kept : ending.Kept (registrationsContract sha apiKeyPrefix))
    {prepared : PreparedRegistrationRequest} {row : RegistrationRow}
    (preparation : prepareRegistrationRequest sha ending.request.idempotencyKey
      ending.request.tenant = some prepared)
    (found : ending.before.findRegistration prepared.idempotencyKeyHash = some row)
    (other : row.requestSha256 ≠ prepared.requestSha256) : Rejected ending := by
  obtain ⟨request, begun, outcome, before, after⟩ := ending
  cases outcome with
  | committed value =>
      obtain ⟨own, credential, same, _, unused, _⟩ := kept.2
      obtain rfl := Option.some.inj (preparation.symm.trans same)
      exact absurd (unused.hash.symm.trans found) nofun
  | rolledBack reason =>
      obtain ⟨_, unchanged, turnedAway⟩ := kept
      refine ⟨unchanged, Or.inr ?_⟩
      rcases turnedAway prepared row preparation found with busy | ⟨_, reused⟩ | ⟨same, _⟩
      · exact Or.inl (congrArg Outcome.rolledBack busy)
      · exact Or.inr (congrArg Outcome.rolledBack reused)
      · exact absurd same other
  | dropped => exact ⟨kept.2, Or.inl rfl⟩

/-- A key that succeeds has no row before. -/
theorem unrecorded_before (kept : ending.Kept (registrationsContract sha apiKeyPrefix))
    {start : TenantsDb}
    (follows : (registrationsContract sha apiKeyPrefix).evolves start ending.before)
    (committed : ending.committed = true) {prepared : PreparedRegistrationRequest}
    (preparation : prepareRegistrationRequest sha ending.request.idempotencyKey
      ending.request.tenant = some prepared) :
    start.findRegistration prepared.idempotencyKeyHash = none := by
  obtain ⟨_, own, _, _, same, _, unused, _⟩ := committed_created kept committed
  obtain rfl := Option.some.inj (preparation.symm.trans same)
  exact find_registration_none.mpr fun row member =>
    find_registration_none.mp unused.hash row (follows row member)

end Single

section Pairs

variable {sha : Sha256} {apiKeyPrefix : String}

def preparedFor (sha : Sha256) (key : IdempotencyKey) (tenant : NormalizedTenantInput) :
    PreparedRegistrationRequest where
  tenant := tenant
  idempotencyKeyHash := sha.digest key.text
  requestSha256 := sha.digest (canonicalRegistrationRequest tenant)
  canonicalRequest := canonicalRegistrationRequest tenant

theorem prepare_some {idempotencyKey : JsValue} {tenant : NormalizedTenantInput}
    {prepared : PreparedRegistrationRequest} :
    prepareRegistrationRequest sha idempotencyKey tenant = some prepared ↔
      ∃ key, validateIdempotencyKey idempotencyKey = some key ∧
        preparedFor sha key tenant = prepared := by
  unfold prepareRegistrationRequest
  cases validateIdempotencyKey idempotencyKey with
  | none => simp
  | some key => simp [preparedFor]

theorem find_recorded {db : TenantsDb} (consistent : LedgerConsistent db) {row : RegistrationRow}
    (member : row ∈ db.registrations) :
    db.findRegistration row.idempotencyKeyHash = some row := by
  cases found : db.findRegistration row.idempotencyKeyHash with
  | none => exact absurd rfl (find_registration_none.mp found row member)
  | some other =>
      obtain ⟨otherMember, same⟩ := find_registration_some found
      rw [List.inj_on_of_nodup_map consistent.hashes otherMember member same]

variable {earlier later : RegistrationEnding}

/-- After a success, the ledger has the key with the body's digest. -/
theorem success_recorded (kept : earlier.Kept (registrationsContract sha apiKeyPrefix))
    (laterKept : later.Kept (registrationsContract sha apiKeyPrefix))
    (ordered : (registrationsContract sha apiKeyPrefix).evolves earlier.after later.before)
    (committed : earlier.committed = true)
    (sameKey : trimmedKey earlier.request = trimmedKey later.request) :
    ∃ prepared row,
      prepareRegistrationRequest sha later.request.idempotencyKey later.request.tenant =
        some prepared ∧
      later.before.findRegistration prepared.idempotencyKeyHash = some row ∧
      row.requestSha256 = sha.digest (canonicalRegistrationRequest earlier.request.tenant) ∧
      prepared.requestSha256 = sha.digest (canonicalRegistrationRequest later.request.tenant) := by
  obtain ⟨_, prepared, credential, _, preparation, _, unused, _, stored⟩ :=
    committed_created kept committed
  obtain ⟨key, valid, rfl⟩ := prepare_some.mp preparation
  obtain ⟨laterKey, laterValid, sameText⟩ :
      ∃ laterKey, validateIdempotencyKey later.request.idempotencyKey = some laterKey ∧
        laterKey.text = key.text := by
    rw [trimmedKey, valid, Option.map_some] at sameKey
    exact Option.map_eq_some_iff.mp sameKey.symm
  have written :
      succeededRow earlier.request (preparedFor sha key earlier.request.tenant)
        earlier.begun.clock ∈ earlier.after.registrations := by
    rw [stored]
    exact (KeyedTable.mem_insert unused.registration).mpr (Or.inr rfl)
  have found := find_recorded laterKept.1 (ordered _ written)
  refine ⟨preparedFor sha laterKey later.request.tenant, succeededRow earlier.request
    (preparedFor sha key earlier.request.tenant) earlier.begun.clock,
    prepare_some.mpr ⟨laterKey, laterValid, rfl⟩, ?_, rfl, rfl⟩
  rw [preparedFor, sameText]
  exact found

theorem success_once (kept : earlier.Kept (registrationsContract sha apiKeyPrefix))
    (laterKept : later.Kept (registrationsContract sha apiKeyPrefix))
    (ordered : (registrationsContract sha apiKeyPrefix).evolves earlier.after later.before)
    (committed : earlier.committed = true)
    (sameKey : trimmedKey earlier.request = trimmedKey later.request) :
    later.committed = false := by
  obtain ⟨prepared, row, preparation, found, _⟩ :=
    success_recorded kept laterKept ordered committed sameKey
  cases again : later.committed with
  | false => rfl
  | true =>
      obtain ⟨_, own, _, _, same, _, unused, _⟩ := committed_created laterKept again
      obtain rfl := Option.some.inj (preparation.symm.trans same)
      exact absurd (unused.hash.symm.trans found) nofun

end Pairs

section Runs

variable {sha : Sha256} {apiKeyPrefix : String}

/-- What each element gives is counted by those that give something. -/
theorem length_flat_map_le {Item Part : Type} {gives : Item → List Part} {counted : Item → Bool}
    (single : ∀ item, (gives item).length ≤ (counted item).toNat) (items : List Item) :
    (items.flatMap gives).length ≤ items.countP counted := by
  induction items with
  | nil => simp
  | cons item rest induction =>
      rw [List.flatMap_cons, List.length_append, List.countP_cons]
      have own := single item
      have counts : (if counted item = true then 1 else 0) = (counted item).toNat := by
        cases counted item <;> rfl
      rw [counts]
      omega

theorem count_le_one {Item : Type} {counted : Item → Bool} {items : List Item}
    (once : items.Pairwise fun first second => counted first = true → counted second = false) :
    items.countP counted ≤ 1 := by
  induction items with
  | nil => simp
  | cons item rest induction =>
      obtain ⟨own, later⟩ := List.pairwise_cons.mp once
      rw [List.countP_cons]
      split_ifs with counts
      · have none_ : rest.countP counted = 0 :=
          List.countP_eq_zero.mpr fun other member => by simp [own other member counts]
        omega
      · have most := induction later
        omega

theorem created_tenants_single (ending : RegistrationEnding) :
    (createdTenants ending).length ≤ ending.committed.toNat := by
  obtain ⟨request, begun, outcome, before, after⟩ := ending
  cases outcome <;> simp [createdTenants, Ending.committed]

theorem created_keys_single (ending : RegistrationEnding) :
    (createdKeys sha apiKeyPrefix ending).length ≤ ending.committed.toNat := by
  obtain ⟨request, begun, outcome, before, after⟩ := ending
  cases outcome with
  | committed value =>
      simp only [createdKeys]
      cases createApiKeyCredential sha apiKeyPrefix request.entropy <;> simp [Ending.committed]
  | rolledBack reason | dropped => simp [createdKeys]

/-- Idempotency of registration, over every schedule of its transactions. -/
theorem registered_once {db : TenantsDb} (consistent : LedgerConsistent db)
    {schedule : List RegistrationAction} (collisionFree : CollisionFree sha schedule)
    {finish : RegistrationSystem}
    (arrived : execute (registrationStep sha apiKeyPrefix) (System.initial db) schedule =
      some finish) :
    RegisteredOnce sha apiKeyPrefix db finish.db
      (endings (registrationProgram sha apiKeyPrefix) registrationDrift (System.initial db)
        schedule) := by
  have verified := registrations_verified sha apiKeyPrefix
  have sound : (System.initial db : RegistrationSystem).Sound
      (registrationsContract sha apiKeyPrefix) := initial_sound consistent
  have kept := endings_kept verified sound schedule
  have ordered := endings_ordered verified sound schedule
  have reached := reachable_sound verified sound ⟨schedule, arrived⟩
  have pairs := List.Pairwise.and_mem.mp ordered
  have once : ∀ key, (callsFor key (endings (registrationProgram sha apiKeyPrefix)
      registrationDrift (System.initial db) schedule)).countP Ending.committed ≤ 1 := by
    intro key
    refine count_le_one ((List.Pairwise.and_mem.mp (ordered.filter _)).imp ?_)
    rintro earlier later ⟨earlierCalled, laterCalled, follows⟩ committed
    obtain ⟨earlierMember, earlierKey⟩ := List.mem_filter.mp earlierCalled
    obtain ⟨laterMember, laterKey⟩ := List.mem_filter.mp laterCalled
    exact success_once (kept earlier earlierMember) (kept later laterMember) follows committed
      ((of_decide_eq_true earlierKey).trans (of_decide_eq_true laterKey).symm)
  refine
    { ledger := reached.invariant
      tenants := part_accumulates (fun db => db.tenants.rows) createdTenants
        (fun elapsed db => show (registrationDrift elapsed db).tenants.rows = _ from rfl)
        arrived fun ending member => (ending_adds (kept ending member)).1
      apiKeys := part_accumulates (fun db => db.apiKeys.rows) (createdKeys sha apiKeyPrefix)
        (fun elapsed db => show (registrationDrift elapsed db).apiKeys.rows = _ from rfl)
        arrived fun ending member => (ending_adds (kept ending member)).2.1
      rows := part_accumulates (fun db => db.registrations.rows) (createdRows sha)
        (fun elapsed db => show (registrationDrift elapsed db).registrations.rows = _ from rfl)
        arrived fun ending member => (ending_adds (kept ending member)).2.2
      once := fun key => ⟨once key,
        (length_flat_map_le created_tenants_single _).trans (once key),
        (length_flat_map_le created_keys_single _).trans (once key)⟩
      unrecorded := fun ending member committed prepared preparation =>
        unrecorded_before (kept ending member) (ending_follows verified sound member) committed
          preparation
      failed := fun ending member => uncommitted_unchanged (kept ending member)
      recorded := fun ending member prepared row preparation found other =>
        recorded_rejected (kept ending member) preparation found other
      reused := pairs.imp ?_ }
  rintro earlier later ⟨earlierMember, laterMember, follows⟩ committed sameKey otherBody
  obtain ⟨prepared, row, preparation, found, recordedDigest, ownDigest⟩ :=
    success_recorded (kept earlier earlierMember) (kept later laterMember) follows committed sameKey
  refine recorded_rejected (kept later laterMember) preparation found fun same => otherBody ?_
  have started : ∀ ending ∈ endings (registrationProgram sha apiKeyPrefix) registrationDrift
      (System.initial db) schedule, ∃ id, Action.start id ending.request ∈ schedule := by
    intro ending member
    rcases ending_started member with started | ⟨id, session, present, _⟩
    · exact started
    · cases present
  obtain ⟨earlierId, earlierStarted⟩ := started earlier earlierMember
  obtain ⟨laterId, laterStarted⟩ := started later laterMember
  exact canonical_registration_request_injective
    (collisionFree _ _ _ _ earlierStarted laterStarted
      (recordedDigest.symm.trans (same.trans ownDigest)))

end Runs

section Witness

def lengthDigest : Sha256 where
  digest text := UInt8.ofNat text.length :: List.replicate 31 0
  octets _ := rfl

def acme (budget : String) (decimal : BigIntText.isDecimal budget.toList = true) :
    NormalizedTenantInput where
  name := "A"
  legalName := "A"
  fullLegalName := "A"
  displayName := "A"
  address := ⟨none, none, none, none, none, none⟩
  registration := KeyedTable.empty
  contactEmail := none
  contactPhone := none
  supportUrl := none
  financeOwnerEmail := none
  wordmark := none
  defaultCurrency := "USD"
  timezone := "UTC"
  riskBudgetCents := ⟨budget, decimal⟩

def registration (tenant : NormalizedTenantInput) (id : Nat) : RegistrationCall where
  idempotencyKey := .string "0123456789abcdef"
  tenant := tenant
  registrationId := id
  tenantId := id
  apiKeyId := id
  entropy := List.replicate 32 0

def emptyDb : TenantsDb where
  tenants := KeyedTable.empty
  users := KeyedTable.empty
  credentials := KeyedTable.empty
  apiKeys := KeyedTable.empty
  registrations := KeyedTable.empty
  audits := KeyedTable.empty
  clock := 0

/-- The second call has the key of the first, which holds its lock, and another body. -/
def twoCalls : List RegistrationAction :=
  [.start 0 (registration (acme "0" BigIntText.zero_is_decimal) 1), .advance 0,
    .start 1 (registration (acme "10" (by decide)) 2), .advance 1, .advance 1] ++
    List.replicate 18 (.advance 0)

theorem acme_body (budget : String) (decimal : BigIntText.isDecimal budget.toList = true) :
    canonicalBody (acme budget decimal) = .object
      [("name", .string "A"), ("legal_name", .string "A"), ("full_legal_name", .string "A"),
       ("display_name", .string "A"),
       ("address", canonicalAddress ⟨none, none, none, none, none, none⟩),
       ("registration", .object []), ("contact_email", .null), ("contact_phone", .null),
       ("support_url", .null), ("finance_owner_email", .null), ("wordmark", .null),
       ("default_currency", .string "USD"), ("timezone", .string "UTC"),
       ("risk_budget_cents", .string budget)] := by
  have sorted : sortedRegistration KeyedTable.empty = [] := by
    simp [sortedRegistration, propertyOrder, KeyedTable.empty]
  unfold canonicalBody
  simp only [acme, sorted, textObject, List.map_nil, nullable]

theorem acme_digests (decimal : BigIntText.isDecimal "0".toList = true)
    (other : BigIntText.isDecimal "10".toList = true) :
    lengthDigest.digest (canonicalRegistrationRequest (acme "0" decimal)) ≠
      lengthDigest.digest (canonicalRegistrationRequest (acme "10" other)) := by
  unfold canonicalRegistrationRequest lengthDigest
  simp only [acme_body, String.length_ofList]
  decide +kernel

theorem two_calls_collision_free : CollisionFree lengthDigest twoCalls := by
  have bodies : ∀ call id, Action.start id call ∈ twoCalls →
      call.tenant = acme "0" BigIntText.zero_is_decimal ∨ call.tenant = acme "10" (by decide) := by
    intro call id member
    simp only [twoCalls, List.cons_append, List.mem_cons, List.mem_replicate,
      List.nil_append, Action.start.injEq, reduceCtorEq, and_false, or_false, false_or] at member
    rcases member with ⟨_, rfl⟩ | ⟨_, rfl⟩
    · exact Or.inl rfl
    · exact Or.inr rfl
  intro first firstId second secondId firstStarted secondStarted same
  rcases bodies first firstId firstStarted with left | left <;>
    rcases bodies second secondId secondStarted with right | right <;>
    rw [left, right] at same ⊢
  · exact absurd same (acme_digests _ _)
  · exact absurd same.symm (acme_digests _ _)

theorem two_calls_registered_once :
    ∃ finish, execute (registrationStep lengthDigest "ccpo") (System.initial emptyDb) twoCalls =
        some finish ∧
      RegisteredOnce lengthDigest "ccpo" emptyDb finish.db
        (endings (registrationProgram lengthDigest "ccpo") registrationDrift
          (System.initial emptyDb) twoCalls) := by
  have finished : (execute (registrationStep lengthDigest "ccpo") (System.initial emptyDb)
      twoCalls).isSome = true := by decide
  obtain ⟨finish, arrived⟩ := Option.isSome_iff_exists.mp finished
  have consistent : LedgerConsistent emptyDb := ⟨List.nodup_nil, nofun⟩
  exact ⟨finish, arrived, registered_once consistent two_calls_collision_free arrived⟩

end Witness

end CommitmentOptimizer.Tenants.RegistrationOnce
