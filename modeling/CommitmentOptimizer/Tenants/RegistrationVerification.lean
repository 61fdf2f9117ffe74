import CommitmentOptimizer.Tenants.TenantRegistration

/-!
# Every registration meets the contract

The contract of the ledger of registrations, and the obligation of the
transaction. The advisory lock of an idempotency key protects its ledger row
even before there is one.
-/

namespace CommitmentOptimizer.Tenants.RegistrationVerification

open Foundations
open Foundations.RowLocking
open Foundations.SqlConstraints
open Sessions.SessionTables
open ApiKeyCredentials
open TenantRows
open TenantRegistration

set_option autoImplicit false

/-- Every ledger row is the only one of its key and names a tenant and a key of it. -/
structure LedgerConsistent (db : TenantsDb) : Prop where
  hashes : (db.registrations.rows.map fun row => row.idempotencyKeyHash).Nodup
  succeeded : ∀ row ∈ db.registrations, row.status = .succeeded ∧
    ∃ tenant ∈ db.tenants, ∃ key ∈ db.apiKeys, row.tenantId = some tenant.id ∧
      row.apiKeyId = some key.id ∧ key.tenantId = tenant.id

def succeededRow (call : RegistrationCall) (prepared : PreparedRegistrationRequest)
    (now : Instant) : RegistrationRow :=
  { pendingRow call prepared now with
    status := .succeeded, tenantId := some call.tenantId, apiKeyId := some call.apiKeyId }

/-- What a registration stores. -/
def storeRegistration (call : RegistrationCall) (prepared : PreparedRegistrationRequest)
    (credential : ApiKeyCredential) (now : Instant) (db : TenantsDb) : TenantsDb :=
  { db with
    tenants := db.tenants.insert (newTenant call.tenantId prepared.tenant now)
    apiKeys := db.apiKeys.insert (initialKey call call.tenantId credential now)
    registrations := db.registrations.insert (succeededRow call prepared now) }

/-- Nothing that a registration inserts is there. -/
structure Unused (call : RegistrationCall) (prepared : PreparedRegistrationRequest)
    (credential : ApiKeyCredential) (db : TenantsDb) : Prop where
  hash : db.findRegistration prepared.idempotencyKeyHash = none
  registration : db.registrations.find call.registrationId = none
  tenant : db.tenants.find call.tenantId = none
  apiKey : db.apiKeys.find call.apiKeyId = none
  keyHash : db.findApiKeyByHash credential.keyHash = none

/-- A committed registration has created its tenant, its key and its ledger row. -/
def Created (sha : Sha256) (apiKeyPrefix : String) (call : RegistrationCall) (now : Instant)
    (value : RegistrationCreated) (before after : TenantsDb) : Prop :=
  ∃ prepared credential,
    prepareRegistrationRequest sha call.idempotencyKey call.tenant = some prepared ∧
    createApiKeyCredential sha apiKeyPrefix call.entropy = some credential ∧
    Unused call prepared credential before ∧
    value =
      { tenant := newTenant call.tenantId prepared.tenant now, apiKey := credential.plaintext } ∧
    after = storeRegistration call prepared credential now before

/-- Why a registration whose key is recorded is turned away. -/
def TurnedAway (sha : Sha256) (call : RegistrationCall) (reason : RegistrationError)
    (db : TenantsDb) : Prop :=
  ∀ prepared row, prepareRegistrationRequest sha call.idempotencyKey call.tenant = some prepared →
    db.findRegistration prepared.idempotencyKeyHash = some row →
    reason = .inProgress ∨ (row.requestSha256 ≠ prepared.requestSha256 ∧ reason = .keyReused) ∨
      (row.requestSha256 = prepared.requestSha256 ∧
        reason = .nonReplayable row.tenantId row.apiKeyId)

def Same : TenantsKey → TenantsDb → TenantsDb → Prop
  | .registrationLock lockId, first, second => ∀ hash, lockIdOf hash = lockId →
      first.findRegistration hash = second.findRegistration hash
  | .idempotencyKey hash, first, second =>
      first.findRegistration hash = second.findRegistration hash
  | .registration id, first, second => first.registrations.find id = second.registrations.find id
  | .tenant id, first, second => first.tenants.find id = second.tenants.find id
  | .apiKey id, first, second => first.apiKeys.find id = second.apiKeys.find id
  | .keyHash hash, first, second => first.findApiKeyByHash hash = second.findApiKeyByHash hash
  | .initializationLock, _, _ | .user _, _, _ | .audit _, _, _ => True

theorem same_refl (key : TenantsKey) (db : TenantsDb) : Same key db db := by
  cases key <;> first | rfl | exact fun _ _ => rfl | trivial

theorem same_trans (key : TenantsKey) (first second third : TenantsDb)
    (left : Same key first second) (right : Same key second third) : Same key first third := by
  cases key with
  | registrationLock lockId => exact fun hash own => (left hash own).trans (right hash own)
  | idempotencyKey hash | registration id | tenant id | apiKey id | keyHash hash =>
      exact Eq.trans left right
  | initializationLock | user id | audit id => trivial

def registrationsContract (sha : Sha256) (apiKeyPrefix : String) :
    Contract TenantsDb TenantsKey RegistrationError RegistrationCreated RegistrationCall where
  invariant := LedgerConsistent
  evolves first second := ∀ row ∈ first.registrations, row ∈ second.registrations
  same := Same
  onCommit call begun value := Created sha apiKeyPrefix call begun.clock value
  onAbort call _ reason := TurnedAway sha call reason
  evolves_refl _ _ member := member
  evolves_trans _ _ _ left right row member := right row (left row member)
  same_refl := same_refl
  same_trans := same_trans

section Store

variable {call : RegistrationCall} {prepared : PreparedRegistrationRequest}
  {credential : ApiKeyCredential} {now : Instant} {db : TenantsDb}

theorem find_registration_some {hash : Digest} {row : RegistrationRow}
    (found : db.findRegistration hash = some row) :
    row ∈ db.registrations ∧ row.idempotencyKeyHash = hash :=
  ⟨List.mem_of_find?_eq_some found, by simpa using List.find?_some found⟩

theorem find_registration_none {hash : Digest} :
    db.findRegistration hash = none ↔ ∀ row ∈ db.registrations, row.idempotencyKeyHash ≠ hash := by
  simp [TenantsDb.findRegistration, List.find?_eq_none, KeyedTable.mem_rows]

/-- A ledger row that is inserted is found by its hash, and no other is disturbed. -/
theorem find_insert_registration (new : RegistrationRow)
    (fresh : db.registrations.find new.id = none) (hash : Digest) :
    (db.insertRegistration new).findRegistration hash =
      (db.findRegistration hash).or
        (if new.idempotencyKeyHash = hash then some new else none) := by
  rw [TenantsDb.findRegistration, TenantsDb.insertRegistration, KeyedTable.rows_insert fresh,
    List.find?_append, TenantsDb.findRegistration]
  by_cases own : new.idempotencyKeyHash = hash <;> simp [own]

theorem find_insert_key_hash (new : ApiKey) (fresh : db.apiKeys.find new.id = none)
    (hash : String) :
    (db.insertApiKey new).findApiKeyByHash hash =
      (db.findApiKeyByHash hash).or (if new.keyHash = hash then some new else none) := by
  rw [TenantsDb.findApiKeyByHash, TenantsDb.insertApiKey, KeyedTable.rows_insert fresh,
    List.find?_append, TenantsDb.findApiKeyByHash]
  by_cases own : new.keyHash = hash <;> simp [own]

theorem store_registration_consistent (consistent : LedgerConsistent db)
    (unused : Unused call prepared credential db) :
    LedgerConsistent (storeRegistration call prepared credential now db) where
  hashes := by
    have rows : (db.registrations.insert (succeededRow call prepared now)).rows =
        db.registrations.rows ++ [succeededRow call prepared now] :=
      KeyedTable.rows_insert unused.registration
    simp only [storeRegistration, rows, List.map_append, List.map_singleton]
    rw [← List.concat_eq_append]
    refine List.Nodup.concat ?_ consistent.hashes
    intro taken
    obtain ⟨row, member, same⟩ := List.mem_map.mp taken
    exact find_registration_none.mp unused.hash row member same
  succeeded := by
    intro row member
    have kept : ∀ tenant ∈ db.tenants, tenant ∈ (storeRegistration call prepared credential now
        db).tenants := fun tenant old => KeyedTable.mem_insert_of_mem old
    rcases KeyedTable.mem_of_mem_insert member with old | rfl
    · obtain ⟨status, tenant, tenantMember, key, keyMember, facts⟩ := consistent.succeeded row old
      exact ⟨status, tenant, kept tenant tenantMember, key, KeyedTable.mem_insert_of_mem keyMember,
        facts⟩
    · exact ⟨rfl, newTenant call.tenantId prepared.tenant now,
        (KeyedTable.mem_insert unused.tenant).mpr (Or.inr rfl),
        initialKey call call.tenantId credential now,
        (KeyedTable.mem_insert unused.apiKey).mpr (Or.inr rfl), rfl, rfl, rfl⟩

/-- Only the keys of the call and of its digest are touched. -/
theorem store_registration_untouched (unused : Unused call prepared credential db)
    {held : List TenantsKey} {key : TenantsKey} (free : key ∉ held)
    (owned : [.registrationLock (lockIdOf prepared.idempotencyKeyHash),
      .idempotencyKey prepared.idempotencyKeyHash, .registration call.registrationId,
      .tenant call.tenantId, .apiKey call.apiKeyId, .keyHash credential.keyHash] ⊆ held) :
    Same key db (storeRegistration call prepared credential now db) := by
  have apart : key ∉ [.registrationLock (lockIdOf prepared.idempotencyKeyHash),
      .idempotencyKey prepared.idempotencyKeyHash, .registration call.registrationId,
      .tenant call.tenantId, .apiKey call.apiKeyId, .keyHash credential.keyHash] :=
    fun member => free (owned member)
  simp only [List.mem_cons, List.not_mem_nil, or_false, not_or] at apart
  have ledger : ∀ hash, prepared.idempotencyKeyHash ≠ hash → db.findRegistration hash =
      (storeRegistration call prepared credential now db).findRegistration hash := by
    intro hash other
    have found := find_insert_registration (succeededRow call prepared now)
      unused.registration hash
    have notOwn : ¬ (succeededRow call prepared now).idempotencyKeyHash = hash := other
    rw [if_neg notOwn, Option.or_none] at found
    exact found.symm
  cases key with
  | registrationLock lockId =>
      intro hash own
      exact ledger hash fun same => apart.1 (by rw [← own, same])
  | idempotencyKey hash => exact ledger hash fun same => apart.2.1 (by rw [same])
  | registration id =>
      have other : ¬ call.registrationId = id := fun same => apart.2.2.1 (by rw [same])
      simp [Same, storeRegistration, succeededRow, pendingRow, other]
  | tenant id =>
      have other : ¬ call.tenantId = id := fun same => apart.2.2.2.1 (by rw [same])
      simp [Same, storeRegistration, newTenant, other]
  | apiKey id =>
      have other : ¬ call.apiKeyId = id := fun same => apart.2.2.2.2.1 (by rw [same])
      simp [Same, storeRegistration, initialKey, other]
  | keyHash hash =>
      have other : ¬ (initialKey call call.tenantId credential now).keyHash = hash :=
        fun same => apart.2.2.2.2.2 (by rw [← same]; rfl)
      have found := find_insert_key_hash (initialKey call call.tenantId credential now)
        unused.apiKey hash
      rw [if_neg other, Option.or_none] at found
      exact found.symm
  | initializationLock | user id | audit id => trivial

end Store

section Transaction

variable {sha : Sha256} {apiKeyPrefix : String} {call : RegistrationCall}
  {prepared : PreparedRegistrationRequest} {credential : ApiKeyCredential}
  {begun seen now : TenantsDb} {held : List TenantsKey} {pending : TenantsDb → TenantsDb}

/-- What `Contract.rely` allows for the held keys. -/
abbrev Relied (sha : Sha256) (apiKeyPrefix : String) := (registrationsContract sha apiKeyPrefix).rely

theorem abortable_in_progress :
    (registrationsContract sha apiKeyPrefix).Abortable call begun .inProgress held seen :=
  fun _ _ _ _ _ _ => Or.inl rfl

/-- While the advisory lock is held, a missing ledger row stays missing. -/
theorem still_unrecorded (owned : .registrationLock (lockIdOf prepared.idempotencyKeyHash) ∈ held)
    (moved : Relied sha apiKeyPrefix held seen now)
    (unrecorded : seen.findRegistration prepared.idempotencyKeyHash = none) :
    now.findRegistration prepared.idempotencyKeyHash = none :=
  (moved.2.2 _ owned _ rfl).symm.trans unrecorded

/-- Without a ledger row any error may end the transaction. -/
theorem abortable_unrecorded
    (preparation : prepareRegistrationRequest sha call.idempotencyKey call.tenant = some prepared)
    (owned : .registrationLock (lockIdOf prepared.idempotencyKeyHash) ∈ held)
    (unrecorded : seen.findRegistration prepared.idempotencyKeyHash = none)
    (reason : RegistrationError) :
    (registrationsContract sha apiKeyPrefix).Abortable call begun reason held seen := by
  intro now moved other row same found
  obtain rfl := Option.some.inj (preparation.symm.trans same)
  rw [still_unrecorded owned moved unrecorded] at found
  cases found

/-- The row that `succeedLedger` finds and what it writes over it. -/
theorem pending_found (unused : Unused call prepared credential now) (instant : Instant) :
    (((now.insertRegistration (pendingRow call prepared instant)).findRegistration
      prepared.idempotencyKeyHash).filter fun row => row.status = .pending) =
      some (pendingRow call prepared instant) := by
  rw [find_insert_registration (pendingRow call prepared instant) unused.registration, unused.hash]
  simp [pendingRow]

theorem succeeded_store (unused : Unused call prepared credential now) (instant : Instant) :
    (((now.insertRegistration (pendingRow call prepared instant)).insertTenant
        (newTenant call.tenantId prepared.tenant instant)).insertApiKey
        (initialKey call call.tenantId credential instant)).putRegistration
        (succeededRow call prepared instant) =
      storeRegistration call prepared credential instant now := by
  have ledger : (now.registrations.insert (pendingRow call prepared instant)).put
      (succeededRow call prepared instant) =
      now.registrations.insert (succeededRow call prepared instant) :=
    KeyedTable.put_insert rfl unused.registration
  simp only [TenantsDb.insertRegistration, TenantsDb.insertTenant, TenantsDb.insertApiKey,
    TenantsDb.putRegistration, storeRegistration, ledger]

theorem created_committable
    (preparation : prepareRegistrationRequest sha call.idempotencyKey call.tenant = some prepared)
    (issued : createApiKeyCredential sha apiKeyPrefix call.entropy = some credential)
    (owned : [.registrationLock (lockIdOf prepared.idempotencyKeyHash),
      .idempotencyKey prepared.idempotencyKeyHash, .registration call.registrationId,
      .tenant call.tenantId, .apiKey call.apiKeyId, .keyHash credential.keyHash] ⊆ held)
    (unused : ∀ now, Relied sha apiKeyPrefix held seen now → Unused call prepared credential now)
    (stores : ∀ now, Unused call prepared credential now →
      pending now = storeRegistration call prepared credential begun.clock now) :
    (registrationsContract sha apiKeyPrefix).Committable call begun
      { tenant := newTenant call.tenantId prepared.tenant begun.clock
        apiKey := credential.plaintext } held pending seen := by
  intro now moved
  have free := unused now moved
  rw [stores now free]
  exact ⟨store_registration_consistent moved.1 free,
    fun row member => KeyedTable.mem_insert_of_mem member,
    fun key outside => store_registration_untouched free outside owned,
    prepared, credential, preparation, issued, free, rfl, rfl⟩

theorem still_unused
    (owned : [.registrationLock (lockIdOf prepared.idempotencyKeyHash),
      .registration call.registrationId, .tenant call.tenantId, .apiKey call.apiKeyId,
      .keyHash credential.keyHash] ⊆ held)
    (moved : Relied sha apiKeyPrefix held seen now)
    (unused : Unused call prepared credential seen) : Unused call prepared credential now where
  hash := still_unrecorded (owned (by simp)) moved unused.hash
  registration :=
    (moved.2.2 (.registration call.registrationId) (owned (by simp))).symm.trans unused.registration
  tenant := (moved.2.2 (.tenant call.tenantId) (owned (by simp))).symm.trans unused.tenant
  apiKey := (moved.2.2 (.apiKey call.apiKeyId) (owned (by simp))).symm.trans unused.apiKey
  keyHash := (moved.2.2 (.keyHash credential.keyHash) (owned (by simp))).symm.trans unused.keyHash

/-- The statements after the last INSERT. -/
theorem succeed_ledger_meets
    (preparation : prepareRegistrationRequest sha call.idempotencyKey call.tenant = some prepared)
    (issued : createApiKeyCredential sha apiKeyPrefix call.entropy = some credential)
    (owned : [.registrationLock (lockIdOf prepared.idempotencyKeyHash),
      .registration call.registrationId, .tenant call.tenantId, .apiKey call.apiKeyId,
      .keyHash credential.keyHash] ⊆ held)
    (unused : Unused call prepared credential seen) :
    (succeedLedger begun.clock prepared.idempotencyKeyHash call.tenantId call.apiKeyId).Meets
      (Relied sha apiKeyPrefix)
      (fun _ held pending seen => (registrationsContract sha apiKeyPrefix).Committable call begun
        { tenant := newTenant call.tenantId prepared.tenant begun.clock
          apiKey := credential.plaintext } held pending seen)
      ((registrationsContract sha apiKeyPrefix).Abortable call begun) held
      (fun db => ((db.insertRegistration (pendingRow call prepared begun.clock)).insertTenant
        (newTenant call.tenantId prepared.tenant begun.clock)).insertApiKey
        (initialKey call call.tenantId credential begun.clock)) seen := by
  unfold succeedLedger
  rw [Txn.meets_then]
  apply Contract.meets_select
  · intro now moved _
    exact abortable_unrecorded preparation (owned (by simp)) (still_unused owned moved unused).hash _
  · intro now moved
    have unusedNow := still_unused owned moved unused
    have found := pending_found unusedNow begun.clock
    dsimp only [TenantsDb.insertTenant, TenantsDb.insertApiKey, TenantsDb.findRegistration]
      at found ⊢
    rw [found]
    have more : held ⊆ .idempotencyKey prepared.idempotencyKeyHash :: held :=
      List.subset_cons_self _ _
    simp only [orUnavailable, Txn.meets_then, Txn.meets_view, Txn.meets_attempt, Txn.meets_save]
    intro later resumed
    have unusedLater := still_unused (List.Subset.trans owned more) resumed unusedNow
    refine ⟨fun row accepted => ?_, fun reason _ => abortable_unrecorded preparation
      (more (owned (by simp))) unusedLater.hash reason⟩
    obtain rfl := update_registration_row_ok (map_error_ok.mp accepted)
    refine created_committable preparation issued ?_
      (fun now onward => still_unused (List.Subset.trans owned more) onward unusedLater)
      fun now unused => succeeded_store unused begun.clock
    intro key member
    rcases List.mem_cons.mp member with rfl | member
    · exact more (owned (by simp))
    · rcases List.mem_cons.mp member with rfl | member
      · exact List.mem_cons_self
      · exact more (owned (List.mem_cons_of_mem _ member))

/-- The statements after `insertPending`. -/
theorem credential_meets
    (preparation : prepareRegistrationRequest sha call.idempotencyKey call.tenant = some prepared)
    (issued : createApiKeyCredential sha apiKeyPrefix call.entropy = some credential)
    (owned : .registrationLock (lockIdOf prepared.idempotencyKeyHash) ∈ held)
    (ownedRow : .registration call.registrationId ∈ held)
    (unrecorded : seen.findRegistration prepared.idempotencyKeyHash = none)
    (freshRegistration : seen.registrations.find call.registrationId = none) :
    (show RegistrationTxn RegistrationCreated from do
      let tenant ← insertTenant (newTenant call.tenantId prepared.tenant begun.clock)
      let apiKeyId ← insertApiKey (initialKey call tenant.id credential begun.clock)
      succeedLedger begun.clock prepared.idempotencyKeyHash tenant.id apiKeyId
      return { tenant, apiKey := credential.plaintext }).Meets (Relied sha apiKeyPrefix)
      ((registrationsContract sha apiKeyPrefix).Committable call begun)
      ((registrationsContract sha apiKeyPrefix).Abortable call begun) held
      (TenantsDb.insertRegistration (pendingRow call prepared begun.clock)) seen := by
  have aborts : ∀ keys later, .registrationLock (lockIdOf prepared.idempotencyKeyHash) ∈ keys →
      later.findRegistration prepared.idempotencyKeyHash = none → ∀ reason,
      (registrationsContract sha apiKeyPrefix).Abortable call begun reason keys later :=
    fun keys later member => abortable_unrecorded preparation member
  simp only [insertTenant, insertApiKey, Txn.meets_then, Txn.meets_lockRow, Txn.meets_view,
    orUnavailable, Txn.meets_attempt, Txn.meets_save, Txn.meets_pure]
  intro first toFirst second toSecond
  have movedTenant : Relied sha apiKeyPrefix held seen second :=
    Contract.rely_trans toFirst (Contract.rely_subset (List.subset_cons_self _ _) toSecond)
  refine ⟨fun tenant accepted => ?_, fun reason _ => aborts _ second
    (List.mem_cons_of_mem _ owned) (still_unrecorded owned movedTenant unrecorded) reason⟩
  obtain ⟨rfl, freshTenant⟩ := insert_tenant_row_ok (map_error_ok.mp accepted)
  intro third toThird fourth toFourth fifth toFifth
  have movedKey : Relied sha apiKeyPrefix (.tenant call.tenantId :: held) second fifth :=
    Contract.rely_trans toThird (Contract.rely_trans
      (Contract.rely_subset (List.subset_cons_self _ _) toFourth)
      (Contract.rely_subset (fun key member => by
        rcases List.mem_cons.mp member with rfl | older
        · simp [newTenant]
        · simp [older]) toFifth))
  have moved : Relied sha apiKeyPrefix held seen fifth :=
    Contract.rely_trans movedTenant (Contract.rely_subset (List.subset_cons_self _ _) movedKey)
  refine ⟨fun key accepted => ?_, fun reason _ => aborts _ fifth
    (by simp [owned]) (still_unrecorded owned moved unrecorded) reason⟩
  obtain ⟨rfl, freshKey, freshHash, _⟩ := insert_api_key_row_ok (map_error_ok.mp accepted)
  have unused : Unused call prepared credential fifth :=
    { hash := still_unrecorded owned moved unrecorded
      registration := (moved.2.2 _ ownedRow).symm.trans freshRegistration
      tenant := (movedKey.2.2 _ List.mem_cons_self).symm.trans freshTenant
      apiKey := freshKey
      keyHash := freshHash }
  exact succeed_ledger_meets preparation issued
    (by simp [owned, ownedRow, newTenant, initialKey]) unused

theorem create_tenant_meets
    (preparation : prepareRegistrationRequest sha call.idempotencyKey call.tenant = some prepared)
    (owned : .registrationLock (lockIdOf prepared.idempotencyKeyHash) ∈ held)
    (unrecorded : seen.findRegistration prepared.idempotencyKeyHash = none) :
    (createTenant sha apiKeyPrefix call prepared begun.clock).Meets (Relied sha apiKeyPrefix)
      ((registrationsContract sha apiKeyPrefix).Committable call begun)
      ((registrationsContract sha apiKeyPrefix).Abortable call begun)
      held (fun db => db) seen := by
  have aborts : ∀ keys later, .registrationLock (lockIdOf prepared.idempotencyKeyHash) ∈ keys →
      later.findRegistration prepared.idempotencyKeyHash = none → ∀ reason,
      (registrationsContract sha apiKeyPrefix).Abortable call begun reason keys later :=
    fun keys later member => abortable_unrecorded preparation member
  have lock {keys : List TenantsKey} (more : held ⊆ keys) :
      .registrationLock (lockIdOf prepared.idempotencyKeyHash) ∈ keys := more owned
  simp only [createTenant, insertPending, Txn.meets_then, Txn.meets_lockRow, Txn.meets_view,
    orUnavailable, Txn.meets_attempt, Txn.meets_save]
  intro first toFirst second toSecond third toThird
  have moved : Relied sha apiKeyPrefix held seen third :=
    Contract.rely_trans toFirst (Contract.rely_trans
      (Contract.rely_subset (List.subset_cons_self _ _) toSecond)
      (Contract.rely_subset (fun key member => by simp [member]) toThird))
  have unrecordedThird := still_unrecorded owned moved unrecorded
  refine ⟨fun row accepted => ?_, fun reason _ =>
    aborts _ third (lock fun key member => by simp [member]) unrecordedThird reason⟩
  obtain ⟨rfl, freshRegistration, _⟩ := insert_registration_row_ok (map_error_ok.mp accepted)
  cases issued : createApiKeyCredential sha apiKeyPrefix call.entropy with
  | none => exact aborts _ third (lock fun key member => by simp [member]) unrecordedThird _
  | some credential =>
      exact credential_meets preparation issued
        (lock fun key member => by simp [member]) (by simp [pendingRow]) unrecordedThird
        freshRegistration

/-- A recorded key ends the transaction, with an error that its row decides. -/
theorem recorded_meets {row : RegistrationRow}
    (preparation : prepareRegistrationRequest sha call.idempotencyKey call.tenant = some prepared)
    (consistent : LedgerConsistent seen)
    (existing : seen.findRegistration prepared.idempotencyKeyHash = some row)
    {after : Unit → List TenantsKey → (TenantsDb → TenantsDb) → TenantsDb → Prop} :
    (show RegistrationTxn Unit from
      if row.requestSha256 ≠ prepared.requestSha256 then Txn.abort .keyReused
      else match row.status with
        | .pending => Txn.abort .inProgress
        | .failed => Txn.abort .terminalFailure
        | .succeeded => Txn.abort (.nonReplayable row.tenantId row.apiKeyId)).Meets
      (Relied sha apiKeyPrefix) after
      ((registrationsContract sha apiKeyPrefix).Abortable call begun)
      (.idempotencyKey prepared.idempotencyKeyHash :: held) pending seen := by
  have stays : ∀ now, Relied sha apiKeyPrefix (.idempotencyKey prepared.idempotencyKeyHash :: held)
      seen now → now.findRegistration prepared.idempotencyKeyHash = some row :=
    fun now moved => (moved.2.2 _ List.mem_cons_self).symm.trans existing
  have turnedAway : ∀ reason, (row.requestSha256 ≠ prepared.requestSha256 ∧ reason = .keyReused) ∨
      (row.requestSha256 = prepared.requestSha256 ∧
        reason = .nonReplayable row.tenantId row.apiKeyId) →
      (registrationsContract sha apiKeyPrefix).Abortable call begun reason
        (.idempotencyKey prepared.idempotencyKeyHash :: held) seen := by
    intro reason decided now moved other found same recorded
    obtain rfl := Option.some.inj (preparation.symm.trans same)
    obtain rfl := Option.some.inj ((stays now moved).symm.trans recorded)
    exact Or.inr decided
  have status := (consistent.succeeded row (find_registration_some existing).1).1
  by_cases reused : row.requestSha256 ≠ prepared.requestSha256
  · rw [if_pos reused]
    exact turnedAway _ (Or.inl ⟨reused, rfl⟩)
  · rw [if_neg reused, status]
    exact turnedAway _ (Or.inr ⟨not_not.mp reused, rfl⟩)

theorem run_transaction_meets
    (preparation : prepareRegistrationRequest sha call.idempotencyKey call.tenant = some prepared) :
    (runTransaction sha apiKeyPrefix call prepared begun.clock).Meets (Relied sha apiKeyPrefix)
      ((registrationsContract sha apiKeyPrefix).Committable call begun)
      ((registrationsContract sha apiKeyPrefix).Abortable call begun)
      [] (fun db => db) begun := by
  simp only [runTransaction, acquireRegistrationLock, Txn.meets_then, Txn.meets_lockRows]
  intro first _ granted within
  rcases List.sublist_singleton.mp within with rfl | rfl
  · exact abortable_in_progress
  · rw [Txn.meets_pure, rejectExisting, Txn.meets_then]
    apply Contract.meets_select
    · intro now _ unrecorded
      exact create_tenant_meets preparation List.mem_cons_self unrecorded
    · intro now relied
      cases existing : now.findRegistration prepared.idempotencyKeyHash with
      | none =>
          exact create_tenant_meets preparation (List.mem_cons_of_mem _ List.mem_cons_self) existing
      | some row => exact recorded_meets preparation relied.1 existing

theorem registrations_verified (sha : Sha256) (apiKeyPrefix : String) :
    (registrationsContract sha apiKeyPrefix).Verified (registrationProgram sha apiKeyPrefix)
      registrationDrift where
  requests call begun _ := by
    unfold registrationProgram
    split
    case h_1 invalid =>
      intro now _ prepared row preparation
      rw [invalid] at preparation
      cases preparation
    case h_2 prepared preparation => exact run_transaction_meets preparation
  drifts elapsed db consistent :=
    ⟨⟨consistent.hashes, consistent.succeeded⟩, fun _ member => member, fun key => by
      cases key <;> first | rfl | exact fun _ _ => rfl | trivial⟩

end Transaction

end CommitmentOptimizer.Tenants.RegistrationVerification
