import CommitmentOptimizer.Foundations.UuidText
import CommitmentOptimizer.Foundations.TrimmedTexts
import CommitmentOptimizer.Tenants.FirstRun
import CommitmentOptimizer.Tenants.RegistrationOnce
import CommitmentOptimizer.Tenants.RotationGrowth

/-!
# The life of an installation

A first run, and what registrations and key rotations leave of the state that the next first
run checks.
-/

namespace CommitmentOptimizer.Tenants.FirstRunHistory

open Foundations
open Foundations.SqlConstraints
open Foundations.SuccessorChains
open Foundations.Timestamps
open Foundations.TransactionHistory
open Foundations.TrimmedTexts
open Foundations.UuidText
open Sessions.SessionTables
open Users
open ApiKeyCredentials (Sha256 createApiKeyCredential create_api_key_credential_hash
  firstRunApiKeyNote)
open TenantRows
open TenantRegistration (RegistrationCall registrationProgram newTenant initialKey
  initialKeyNote)
open RegistrationVerification (LedgerConsistent Unused storeRegistration succeededRow
  registrations_verified find_registration_none)
open RotationChains
open RotationHistories
open RotationGrowth
open KeyRotation
open FirstRun

set_option autoImplicit false

section Operations

/-- A user is enrolled for another tenant than the first run's. -/
inductive Operation where
  | register (call : RegistrationCall)
  | rotate (call : RotationCall)
  | enrol (user : User)
  | elapse (time : Nat)

/-- The database, and the rotations that were committed. -/
structure History where
  db : TenantsDb
  rotations : List RotationCommitted

variable (normalize : List Char → List Char) (sha : Sha256) (apiKeyPrefix : String)
  (firstTenant : Uuid)

def enrolled (user : User) (db : TenantsDb) : TenantsDb :=
  if user.tenantId ≠ firstTenant ∧ (db.tenants.find user.tenantId).isSome ∧
      db.users.find user.id = none then
    { db with users := db.users.insert user }
  else db

def perform (history : History) : Operation → History
  | .register call =>
      match runAlone (registrationProgram sha apiKeyPrefix call history.db) (fun db => db)
          history.db with
      | .ok (_, after) => { history with db := after }
      | .error _ => history
  | .rotate call =>
      match runAlone (rotationProgram normalize sha apiKeyPrefix call history.db) (fun db => db)
          history.db with
      | .ok (value, after) => ⟨after, history.rotations ++ [value]⟩
      | .error _ => history
  | .enrol user => { history with db := enrolled firstTenant user history.db }
  | .elapse time => { history with db := { history.db with clock := history.db.clock + time } }

def live (created : TenantsDb) (operations : List Operation) : History :=
  operations.foldl (perform normalize sha apiKeyPrefix firstTenant) ⟨created, []⟩

/-- The key that a key has become. -/
def currentKey (first : Uuid) (rotations : List RotationCommitted) : Uuid :=
  rotations.foldl (fun current value =>
    if value.revokedApiKey.id = current then value.replacementApiKey.id else current) first

/-- The keys that carry the note of the first run's key. -/
def markedKeys (rotations : List RotationCommitted) : List ApiKey :=
  (rotations.map RotationCommitted.replacementApiKey).filter isMarker

theorem current_key_append (first : Uuid) (rotations : List RotationCommitted)
    (value : RotationCommitted) :
    currentKey first (rotations ++ [value]) =
      if value.revokedApiKey.id = currentKey first rotations then value.replacementApiKey.id
      else currentKey first rotations := by
  rw [currentKey, List.foldl_append]
  rfl

theorem marked_keys_append (rotations : List RotationCommitted) (value : RotationCommitted) :
    markedKeys (rotations ++ [value]) =
      markedKeys rotations ++ if isMarker value.replacementApiKey then [value.replacementApiKey]
        else [] := by
  rw [markedKeys, List.map_append, List.filter_append, List.map_singleton,
    List.filter_singleton, cond_eq_ite]
  rfl

end Operations

section Texts

theorem uuid_text_visible (id : Uuid) :
    ∀ character ∈ (uuidText id).toList, isJsSpace character = false := by
  have digits : ∀ character ∈ padded id, isJsSpace character = false := by
    intro character member
    have hex := padded_hex id character member
    unfold hexDigit at hex
    dsimp only at hex
    simp [isJsSpace]
    split_ifs at hex with digit upper lower
    · omega
    · omega
    · omega
    · cases hex
  have dash : isJsSpace '-' = false := by decide
  intro character member
  rw [uuid_text_list] at member
  simp only [List.mem_append, List.mem_cons] at member
  rcases member with first | rfl | second | rfl | third | rfl | fourth | rfl | last
  · exact digits character (List.mem_of_mem_take first)
  · exact dash
  · exact digits character (List.mem_of_mem_drop (List.mem_of_mem_take second))
  · exact dash
  · exact digits character (List.mem_of_mem_drop (List.mem_of_mem_take third))
  · exact dash
  · exact digits character (List.mem_of_mem_drop (List.mem_of_mem_take fourth))
  · exact dash
  · exact digits character (List.mem_of_mem_drop last)

theorem uuid_text_trimmed (id : Uuid) : jsTrim (uuidText id).toList = (uuidText id).toList :=
  js_trim_visible
    (fun character first => uuid_text_visible id character (List.mem_of_mem_head? first))
    (fun character last => uuid_text_visible id character (List.mem_of_mem_getLast? last))

theorem uuid_text_nonempty (id : Uuid) : uuidText id ≠ "" := by
  intro empty
  have texts := congrArg String.toList empty
  rw [uuid_text_list] at texts
  exact absurd texts (by simp)

theorem timestamptz_text_nonempty (instant : Int) : timestamptzText instant ≠ "" := by
  intro empty
  have texts := congrArg String.toList empty
  rw [timestamptzText] at texts
  simp only [String.toList_append] at texts
  exact absurd texts (by simp)

/-- Both sources write the pattern of a key hash. -/
theorem is_key_hash_iff (text : String) : ApiKeyCredentials.isKeyHash text = isKeyHash text := by
  have digit : ∀ character : Char,
      ('0' ≤ character && character ≤ '9') = character.isDigit := fun _ => rfl
  rw [ApiKeyCredentials.isKeyHash, isKeyHash]
  simp only [digit]
  rfl

end Texts

section Invariant

/-- The identifiers that a first run has drawn, and the database that it leaves. -/
structure Installation where
  tenantId : Uuid
  apiKeyId : Uuid
  created : TenantsDb

/-- What the rotation chains are checked against as long as one key is marked. -/
def chainState (installation : Installation) (db : TenantsDb) : InitializationRotationState where
  origins := ⟨uuidText installation.apiKeyId, uuidText installation.tenantId⟩ ::
    db.registrations.rows.map fun row => (registrationOrigin row).toInitializationOrigin
  keys := db.apiKeys.rows.map keyRow
  audits := auditRows db

/-- The chains of the keys, and where the one of the first run's key ends. -/
def Chained (installation : Installation) (db : TenantsDb) (current : Uuid) : Prop :=
  ∃ links paths, List.Forall₂ (Links (db.apiKeys.rows.map keyRow)) (auditRows db) links ∧
    Partitioned (chainState installation db) links paths ∧
    ∃ path ∈ paths, path.head? = some (uuidText installation.apiKeyId) ∧
      path.getLast? = some (uuidText current)

/-- What every operation leaves of a first run. -/
structure Installed (installation : Installation) (history : History) : Prop where
  ledger : LedgerConsistent history.db
  tenant : ∃ tenant, installation.created.tenants.rows = [tenant] ∧
    tenant.id = installation.tenantId ∧ tenant ∈ history.db.tenants
  tenants : history.db.tenants.rows.length = 1 + history.db.registrations.rows.length
  keys : 1 + history.db.registrations.rows.length ≤ history.db.apiKeys.rows.length
  admins : history.db.users.rows.filter (isTenantAdmin installation.tenantId) =
    installation.created.users.rows.filter (isTenantAdmin installation.tenantId)
  credentials : history.db.credentials = installation.created.credentials
  actors : ∀ audit ∈ history.db.audits, audit.action = "api_key.rotated" ∧
    ∃ id user, audit.actorUserId = some id ∧ history.db.users.find id = some user
  marker : ∃ key ∈ history.db.apiKeys, key.id = installation.apiKeyId ∧
    key.tenantId = installation.tenantId
  marked : (history.db.apiKeys.rows.filter isMarker).map ApiKey.id =
    installation.apiKeyId :: (markedKeys history.rotations).map ApiKey.id
  hashes : ∀ key ∈ history.db.apiKeys, ApiKeyCredentials.isKeyHash key.keyHash = true
  chained : Chained installation history.db
    (currentKey installation.apiKeyId history.rotations)

end Invariant

section Growth

variable {installation : Installation} {db : TenantsDb} {current : Uuid}

theorem key_ids (db : TenantsDb) :
    (db.apiKeys.rows.map keyRow).map InitializationKeyRow.id =
      (db.apiKeys.rows.map ApiKey.id).map uuidText := by
  rw [List.map_map, List.map_map]
  rfl

theorem key_ids_nodup (db : TenantsDb) :
    ((db.apiKeys.rows.map keyRow).map InitializationKeyRow.id).Nodup := by
  rw [key_ids]
  exact db.apiKeys.distinct.map fun _ _ same => uuid_text_injective same

/-- A key that is not stored has no row in the history. -/
theorem fresh_key_id {id : Uuid} (fresh : db.apiKeys.find id = none) :
    uuidText id ∉ (db.apiKeys.rows.map keyRow).map InitializationKeyRow.id := by
  rw [key_ids]
  intro member
  obtain ⟨other, stored, same⟩ := List.mem_map.mp member
  obtain ⟨row, isRow, rfl⟩ := List.mem_map.mp stored
  exact KeyedTable.find_eq_none.mp fresh row isRow (uuid_text_injective same)

theorem links_more {keys more : List InitializationKeyRow} (grown : keys ⊆ more)
    {audit : InitializationAuditRow} {link : CanonicalLink} (linked : Links keys audit link) :
    Links more audit link := by
  obtain ⟨old, isOld, replacement, isReplacement, record, same⟩ := linked
  exact ⟨old, grown isOld, replacement, grown isReplacement, record, same⟩

/-- The audit rows look the same while their actors stay. -/
theorem audit_rows_kept {after : TenantsDb} (audits : after.audits = db.audits)
    (kept : ∀ audit ∈ db.audits, audit.actorUserId.bind after.users.find =
      audit.actorUserId.bind db.users.find) : auditRows after = auditRows db := by
  rw [auditRows, auditRows, audits]
  refine List.map_congr_left fun audit member => ?_
  rw [auditRow, auditRow, kept audit (List.mem_of_mem_filter member)]

section Registration

variable {call : RegistrationCall} {prepared : TenantRegistration.PreparedRegistrationRequest}
  {credential : ApiKeyCredentials.ApiKeyCredential} {now : Instant}
  (unused : Unused call prepared credential db)

include unused in
theorem registered_keys :
    (storeRegistration call prepared credential now db).apiKeys.rows =
      db.apiKeys.rows ++ [initialKey call call.tenantId credential now] :=
  KeyedTable.rows_insert unused.apiKey

include unused in
theorem registered_tenants :
    (storeRegistration call prepared credential now db).tenants.rows =
      db.tenants.rows ++ [newTenant call.tenantId prepared.tenant now] :=
  KeyedTable.rows_insert unused.tenant

include unused in
theorem registered_requests :
    (storeRegistration call prepared credential now db).registrations.rows =
      db.registrations.rows ++ [succeededRow call prepared now] :=
  KeyedTable.rows_insert unused.registration

include unused in
theorem chained_registered (chained : Chained installation db current) :
    Chained installation (storeRegistration call prepared credential now db) current := by
  obtain ⟨links, paths, read, parts, path, isPath, head, last⟩ := chained
  have keys := @registered_keys db call prepared credential now unused
  have rows := @registered_requests db call prepared credential now unused
  have audits : auditRows (storeRegistration call prepared credential now db) = auditRows db :=
    audit_rows_kept rfl fun _ _ => rfl
  refine ⟨links, paths ++ [[uuidText call.apiKeyId]], ?_, ?_, path,
    List.mem_append_left _ isPath, head, last⟩
  · rw [audits]
    refine read.imp fun audit link linked => links_more ?_ linked
    rw [keys, List.map_append]
    exact List.subset_append_left _ _
  · have origins : (chainState installation
        (storeRegistration call prepared credential now db)).origins =
        (chainState installation db).origins ++
          [⟨uuidText call.apiKeyId, uuidText call.tenantId⟩] := by
      rw [chainState, rows, List.map_append]
      rfl
    have keyRows : (chainState installation
        (storeRegistration call prepared credential now db)).keys =
        (chainState installation db).keys ++
          [keyRow (initialKey call call.tenantId credential now)] := by
      rw [chainState, keys, List.map_append]
      rfl
    have fresh := @fresh_key_id db call.apiKeyId unused.apiKey
    exact @partitioned_registered _ _ _ _ parts
      ⟨uuidText call.apiKeyId, uuidText call.tenantId⟩
      (keyRow (initialKey call call.tenantId credential now)) rfl rfl rfl fresh origins keyRows

include unused in
theorem installed_registered {rotations : List RotationCommitted}
    (installed : Installed installation ⟨db, rotations⟩)
    (issued : ApiKeyCredentials.isKeyHash credential.keyHash = true)
    (ledger : LedgerConsistent (storeRegistration call prepared credential now db)) :
    Installed installation ⟨storeRegistration call prepared credential now db, rotations⟩ where
  ledger := ledger
  tenant := by
    obtain ⟨tenant, only, own, stored⟩ := installed.tenant
    exact ⟨tenant, only, own, KeyedTable.mem_insert_of_mem stored⟩
  tenants := by
    have before : db.tenants.rows.length = 1 + db.registrations.rows.length := installed.tenants
    rw [registered_tenants unused, registered_requests unused, List.length_append,
      List.length_append, before]
    rfl
  keys := by
    have before : 1 + db.registrations.rows.length ≤ db.apiKeys.rows.length := installed.keys
    rw [registered_keys unused, registered_requests unused, List.length_append,
      List.length_append]
    exact Nat.add_le_add_right before 1
  admins := installed.admins
  credentials := installed.credentials
  actors := installed.actors
  marker := by
    obtain ⟨key, stored, own, tenant⟩ := installed.marker
    exact ⟨key, KeyedTable.mem_insert_of_mem stored, own, tenant⟩
  marked := by
    have plain : isMarker (initialKey call call.tenantId credential now) = false := by
      have apart : initialKeyNote ≠ firstRunApiKeyNote := by decide
      exact decide_eq_false fun same => apart (Option.some.inj same)
    rw [registered_keys unused, List.filter_append, List.filter_singleton, plain, cond_false,
      List.append_nil]
    exact installed.marked
  hashes := by
    intro key member
    rcases KeyedTable.mem_of_mem_insert member with stored | rfl
    · exact installed.hashes key stored
    · exact issued
  chained := chained_registered unused installed.chained

end Registration

section Rotation

/-- What a committed rotation of `old` has met. -/
structure Rotatable (call : RotationCall) (old : ApiKey) (db : TenantsDb) : Prop where
  stored : old ∈ db.apiKeys
  tenant : old.tenantId = call.tenantId
  unrevoked : old.revokedAt = none
  apiKey : db.apiKeys.find call.replacementId = none
  audit : db.audits.find call.auditId = none
  actor : ∃ user, db.users.find call.actorUserId = some user ∧ user.tenantId = call.tenantId

variable {call : RotationCall} {note : Option String} {keyHash : String} {old : ApiKey}
  {now : Instant} (rotatable : Rotatable call old db)

include rotatable in
theorem rotated_keys :
    (storeRotation call note keyHash old now db).apiKeys.rows =
      (db.apiKeys.put { old with revokedAt := some now }).rows ++
        [replacementKey call note keyHash now] := by
  apply KeyedTable.rows_insert
  rw [KeyedTable.put, KeyedTable.find_modify, Option.map_eq_none_iff]
  exact rotatable.apiKey

include rotatable in
theorem put_key_rows :
    (db.apiKeys.put { old with revokedAt := some now }).rows.map keyRow =
      (db.apiKeys.rows.map keyRow).map (revoke (uuidText old.id) (timestamptzText now)) := by
  rw [KeyedTable.put, KeyedTable.modify, List.map_map, List.map_map]
  refine List.map_congr_left fun row member => ?_
  rw [Function.comp_apply, Function.comp_apply, revoke]
  by_cases same : row.id = old.id
  · have rotated : row = old := KeyedTable.eq_of_key member rotatable.stored same
    have own : (keyRow old).id = uuidText old.id := rfl
    rw [rotated, if_pos rfl, if_pos own]
    rfl
  · have apart : ¬ (keyRow row).id = uuidText old.id := fun texts => same (uuid_text_injective texts)
    rw [if_neg same, if_neg apart]

include rotatable in
theorem rotated_key_rows :
    (storeRotation call note keyHash old now db).apiKeys.rows.map keyRow =
      (db.apiKeys.rows.map keyRow).map (revoke (uuidText old.id) (timestamptzText now)) ++
        [keyRow (replacementKey call note keyHash now)] := by
  rw [rotated_keys rotatable, List.map_append, put_key_rows rotatable]
  rfl

include rotatable in
theorem rotated_audits :
    auditRows (storeRotation call note keyHash old now db) =
      auditRows db ++
        [auditRow db (rotationAudit call old (replacementKey call note keyHash now) now)] := by
  have rows : (storeRotation call note keyHash old now db).audits.rows = db.audits.rows ++
      [rotationAudit call old (replacementKey call note keyHash now) now] :=
    KeyedTable.rows_insert rotatable.audit
  have named : decide ((rotationAudit call old (replacementKey call note keyHash now) now).action =
      "api_key.rotated") = true := decide_eq_true rfl
  rw [auditRows, rows, List.filter_append, List.filter_singleton, named, cond_true, List.map_append]
  rfl

include rotatable in
/-- The audit row of a rotation records it. -/
theorem rotation_record :
    RotationRecord (revoke (uuidText old.id) (timestamptzText now) (keyRow old))
      (keyRow (replacementKey call note keyHash now))
      (auditRow db (rotationAudit call old (replacementKey call note keyHash now) now)) := by
  obtain ⟨user, found, acting⟩ := rotatable.actor
  have revoked : revoke (uuidText old.id) (timestamptzText now) (keyRow old) =
      { keyRow old with revokedAt := some (timestamptzText now) } := if_pos rfl
  rw [revoked]
  exact
    { actor := ⟨rfl, uuidText call.actorUserId, rfl, uuid_text_nonempty _⟩
      actorTenant := by
        intro tenantId named
        have known : some (uuidText user.tenantId) = some tenantId := by
          rw [← named, auditRow]
          change _ = (db.users.find call.actorUserId).map _
          rw [found]
          rfl
        rw [← Option.some.inj known, acting]
        rfl
      action := rfl
      entity := ⟨rfl, rfl⟩
      request := ⟨uuidText call.requestId, rfl, uuid_text_nonempty _, uuid_text_trimmed _⟩
      tenant := ⟨congrArg uuidText rotatable.tenant, rfl⟩
      different := by
        intro same
        exact KeyedTable.find_eq_none.mp rotatable.apiKey old rotatable.stored
          (uuid_text_injective same)
      rotatedAt := ⟨timestamptz_text_nonempty _, rfl⟩
      oldValues := ⟨_, rfl, .refl _⟩
      newValues := ⟨_, ⟨_, rfl, .refl _⟩, ⟨_, rfl, .refl _⟩⟩ }

include rotatable in
theorem chained_rotated (chained : Chained installation db current) :
    Chained installation (storeRotation call note keyHash old now db)
      (if old.id = current then call.replacementId else current) := by
  obtain ⟨links, paths, read, parts, path, isPath, head, last⟩ := chained
  have keys := @rotated_key_rows db call note keyHash old now rotatable
  have fresh := @fresh_key_id db call.replacementId rotatable.apiKey
  have unique := key_ids_nodup db
  have member : keyRow old ∈ (chainState installation db).keys :=
    List.mem_map_of_mem rotatable.stored
  have unrevoked : (keyRow old).revokedAt = none := by
    rw [keyRow, rotatable.unrevoked]
    rfl
  refine ⟨links ++ [⟨uuidText old.id, uuidText call.replacementId⟩],
    paths.map (extendAt (uuidText old.id) (uuidText call.replacementId)), ?_, ?_,
    extendAt (uuidText old.id) (uuidText call.replacementId) path, List.mem_map_of_mem isPath,
    extend_at_head head, ?_⟩
  · rw [rotated_audits rotatable, keys]
    refine List.rel_append (read.imp fun audit link linked => ?_) (.cons ?_ .nil)
    · rw [← keys]
      exact @links_rotated (chainState installation db)
        (chainState installation (storeRotation call note keyHash old now db)) (keyRow old)
        (keyRow (replacementKey call note keyHash now)) (timestamptzText now) unique member
        unrevoked keys audit link linked
    · refine ⟨_, List.mem_append_left _ (List.mem_map_of_mem member), _,
        List.mem_append_right _ (List.mem_singleton_self _), rotation_record rotatable, ?_⟩
      rw [(revoke_fields _ _ _).1]
      rfl
  · exact @partitioned_rotated (chainState installation db)
      (chainState installation (storeRotation call note keyHash old now db)) links paths
      (keyRow old) (keyRow (replacementKey call note keyHash now)) (timestamptzText now) unique
      member unrevoked fresh keys parts (congrArg uuidText rotatable.tenant).symm rfl rfl
  · rw [extend_at_last, last]
    by_cases same : old.id = current
    · rw [if_pos same, if_pos (by rw [same])]
    · rw [if_neg same, if_neg fun texts => same (uuid_text_injective (Option.some.inj texts)).symm]

include rotatable in
/-- A rotation keeps the identifiers and the tenants of the keys. -/
theorem rotated_key_kept {key : ApiKey} (member : key ∈ db.apiKeys) :
    ∃ kept ∈ (storeRotation call note keyHash old now db).apiKeys, kept.id = key.id ∧
      kept.tenantId = key.tenantId := by
  by_cases same : key.id = old.id
  · have rotated : key = old := KeyedTable.eq_of_key member rotatable.stored same
    rw [rotated]
    refine ⟨{ old with revokedAt := some now }, KeyedTable.mem_insert_of_mem ?_, rfl, rfl⟩
    exact KeyedTable.mem_put.mpr (Or.inl ⟨rfl, old, rotatable.stored, rfl⟩)
  · refine ⟨key, KeyedTable.mem_insert_of_mem ?_, rfl, rfl⟩
    exact KeyedTable.mem_put.mpr (Or.inr ⟨member, same⟩)

include rotatable in
theorem ledger_rotated (ledger : LedgerConsistent db) :
    LedgerConsistent (storeRotation call note keyHash old now db) where
  hashes := ledger.hashes
  succeeded := by
    intro row member
    obtain ⟨status, tenant, isTenant, key, isKey, named, keyed, own⟩ :=
      ledger.succeeded row member
    obtain ⟨kept, isKept, sameId, sameTenant⟩ :=
      @rotated_key_kept db call note keyHash old now rotatable key isKey
    exact ⟨status, tenant, isTenant, kept, isKept, named, sameId ▸ keyed, sameTenant.trans own⟩

include rotatable in
theorem rotated_marked :
    ((storeRotation call note keyHash old now db).apiKeys.rows.filter isMarker).map ApiKey.id =
      (db.apiKeys.rows.filter isMarker).map ApiKey.id ++
        (if isMarker (replacementKey call note keyHash now) then
          [replacementKey call note keyHash now] else []).map ApiKey.id := by
  have kept : (db.apiKeys.put { old with revokedAt := some now }).rows.filter isMarker =
      (db.apiKeys.rows.filter isMarker).map fun row =>
        if row.id = old.id then { old with revokedAt := some now } else row := by
    apply KeyedTable.filter_put
    intro other member same
    have rotated : other = old := KeyedTable.eq_of_key member rotatable.stored same
    rw [rotated]
    rfl
  have ids : ((db.apiKeys.put { old with revokedAt := some now }).rows.filter isMarker).map
      ApiKey.id = (db.apiKeys.rows.filter isMarker).map ApiKey.id := by
    rw [kept, List.map_map]
    refine List.map_congr_left fun row _ => ?_
    rw [Function.comp_apply]
    split_ifs with same
    · exact same.symm
    · rfl
  rw [rotated_keys rotatable, List.filter_append, List.filter_singleton, cond_eq_ite,
    List.map_append, ids]

include rotatable in
theorem installed_rotated {rotations : List RotationCommitted} {value : RotationCommitted}
    (installed : Installed installation ⟨db, rotations⟩)
    (issued : ApiKeyCredentials.isKeyHash keyHash = true)
    (revoked : value.revokedApiKey.id = old.id)
    (replacement : value.replacementApiKey = replacementKey call note keyHash now) :
    Installed installation
      ⟨storeRotation call note keyHash old now db, rotations ++ [value]⟩ where
  ledger := ledger_rotated rotatable installed.ledger
  tenant := installed.tenant
  tenants := installed.tenants
  keys := by
    have before : 1 + db.registrations.rows.length ≤ db.apiKeys.rows.length := installed.keys
    rw [rotated_keys rotatable, List.length_append, KeyedTable.put, KeyedTable.modify,
      List.length_map]
    exact Nat.le_add_right_of_le before
  admins := installed.admins
  credentials := installed.credentials
  actors := by
    intro audit member
    rcases KeyedTable.mem_of_mem_insert member with stored | rfl
    · exact installed.actors audit stored
    · obtain ⟨user, found, _⟩ := rotatable.actor
      exact ⟨rfl, call.actorUserId, user, rfl, found⟩
  marker := by
    obtain ⟨key, member, own, tenant⟩ := installed.marker
    obtain ⟨kept, isKept, sameId, sameTenant⟩ :=
      @rotated_key_kept db call note keyHash old now rotatable key member
    exact ⟨kept, isKept, sameId.trans own, sameTenant.trans tenant⟩
  marked := by
    rw [rotated_marked rotatable, marked_keys_append, List.map_append, replacement,
      ← List.cons_append]
    exact congrArg (· ++ _) installed.marked
  hashes := by
    intro key member
    rcases KeyedTable.mem_of_mem_insert member with put | rfl
    · rcases KeyedTable.mem_put.mp put with ⟨rfl, _⟩ | ⟨stored, _⟩
      · exact installed.hashes old rotatable.stored
      · exact installed.hashes key stored
    · exact issued
  chained := by
    rw [current_key_append, revoked, replacement]
    exact chained_rotated rotatable installed.chained

end Rotation

theorem installed_enrolled {rotations : List RotationCommitted} (user : User)
    (installed : Installed installation ⟨db, rotations⟩) :
    Installed installation ⟨enrolled installation.tenantId user db, rotations⟩ := by
  unfold enrolled
  split_ifs with enrols
  · obtain ⟨other, -, fresh⟩ := enrols
    have kept : ∀ audit ∈ db.audits, audit.actorUserId.bind (db.users.insert user).find =
        audit.actorUserId.bind db.users.find := by
      intro audit member
      obtain ⟨_, id, actor, named, found⟩ := installed.actors audit member
      have known : db.users.find id = some actor := found
      rw [named, Option.bind_some, Option.bind_some, KeyedTable.find_insert, known, Option.some_or]
    have audits : auditRows { db with users := db.users.insert user } = auditRows db :=
      audit_rows_kept rfl kept
    exact
      { ledger := ⟨installed.ledger.hashes, installed.ledger.succeeded⟩
        tenant := installed.tenant
        tenants := installed.tenants
        keys := installed.keys
        admins := by
          have outside : isTenantAdmin installation.tenantId user = false := by
            rw [isTenantAdmin, decide_eq_false other, Bool.false_and]
          rw [KeyedTable.filter_insert fresh, outside]
          exact (List.append_nil _).trans installed.admins
        credentials := installed.credentials
        actors := by
          intro audit member
          obtain ⟨action, id, actor, named, found⟩ := installed.actors audit member
          have known : db.users.find id = some actor := found
          refine ⟨action, id, actor, named, ?_⟩
          rw [KeyedTable.find_insert, known, Option.some_or]
        marker := installed.marker
        marked := installed.marked
        hashes := installed.hashes
        chained := by
          obtain ⟨links, paths, read, parts, path⟩ := installed.chained
          refine ⟨links, paths, ?_, ⟨parts.starts, parts.linked, parts.keys, parts.current⟩, path⟩
          rw [audits]
          exact read }
  · exact installed

theorem installed_elapsed {rotations : List RotationCommitted} (time : Nat)
    (installed : Installed installation ⟨db, rotations⟩) :
    Installed installation ⟨{ db with clock := db.clock + time }, rotations⟩ where
  ledger := ⟨installed.ledger.hashes, installed.ledger.succeeded⟩
  tenant := installed.tenant
  tenants := installed.tenants
  keys := installed.keys
  admins := installed.admins
  credentials := installed.credentials
  actors := installed.actors
  marker := installed.marker
  marked := installed.marked
  hashes := installed.hashes
  chained := by
    obtain ⟨links, paths, read, parts, path⟩ := installed.chained
    exact ⟨links, paths, read, ⟨parts.starts, parts.linked, parts.keys, parts.current⟩, path⟩

end Growth

section Runs

variable {normalize : List Char → List Char} {sha : Sha256} {apiKeyPrefix : String}
  {installation : Installation}

theorem perform_installed {history : History} (operation : Operation)
    (installed : Installed installation history) :
    Installed installation
      (perform normalize sha apiKeyPrefix installation.tenantId history operation) := by
  obtain ⟨db, rotations⟩ := history
  cases operation with
  | register call =>
      rw [perform]
      split
      case h_1 value after ran =>
        obtain ⟨ledger, prepared, credential, -, issued, unused, -, rfl⟩ :=
          run_alone_commits (registrations_verified sha apiKeyPrefix) installed.ledger ran
        exact installed_registered unused installed
          (create_api_key_credential_hash issued) ledger
      case h_2 => exact installed
  | rotate call =>
      rw [perform]
      split
      case h_1 value after ran =>
        obtain ⟨input, credential, old, issued, selected, freshKey, freshAudit, actor, rfl, rfl⟩ :=
          rotation_commits ran
        obtain ⟨found, tenant, unrevoked⟩ := selected_key_some.mp selected
        have rotatable : Rotatable call old db :=
          ⟨KeyedTable.mem_of_find found, tenant, unrevoked, freshKey, freshAudit, actor⟩
        exact installed_rotated rotatable installed (create_api_key_credential_hash issued) rfl rfl
      case h_2 => exact installed
  | enrol user => exact installed_enrolled user installed
  | elapse time => exact installed_elapsed time installed

theorem live_installed {created : TenantsDb} (operations : List Operation)
    (installed : Installed installation ⟨created, []⟩) :
    Installed installation
      (live normalize sha apiKeyPrefix installation.tenantId created operations) := by
  unfold live
  generalize (⟨created, []⟩ : History) = history at installed ⊢
  induction operations generalizing history with
  | nil => exact installed
  | cons operation rest induction => exact induction _ (perform_installed operation installed)

end Runs

section Again

variable {installation : Installation} {history : History}
  (installed : Installed installation history)

theorem succeeded_all {db : TenantsDb} (ledger : LedgerConsistent db) :
    db.registrations.rows.filter (isSucceededRegistration db) = db.registrations.rows := by
  rw [List.filter_eq_self]
  intro row member
  obtain ⟨status, tenant, isTenant, key, isKey, named, keyed, own⟩ := ledger.succeeded row member
  have tenantFound : db.tenants.find tenant.id = some tenant := KeyedTable.find_key isTenant
  have keyFound : db.apiKeys.find key.id = some key := KeyedTable.find_key isKey
  rw [isSucceededRegistration, status, named, keyed, Option.bind_some, Option.bind_some,
    tenantFound, keyFound, Option.any_some, Option.any_some, decide_eq_true own]
  rfl

theorem marked_keys_nil {rotations : List RotationCommitted} :
    markedKeys rotations = [] ↔
      ∀ value ∈ rotations, value.replacementApiKey.note ≠ some firstRunApiKeyNote := by
  rw [markedKeys, List.filter_eq_nil_iff, List.forall_mem_map]
  simp only [isMarker, decide_eq_true_eq, ne_eq]

include installed in
theorem marker_count :
    (history.db.apiKeys.rows.filter isMarker).length = 1 ↔ markedKeys history.rotations = [] := by
  have lengths := congrArg List.length installed.marked
  rw [List.length_map, List.length_cons, List.length_map] at lengths
  rw [lengths, Nat.add_eq_right, List.length_eq_zero_iff]

include installed in
/-- The only marked key is the one of the first run. -/
theorem only_marker (unmarked : markedKeys history.rotations = []) :
    ∃ key, history.db.apiKeys.rows.filter isMarker = [key] ∧ key.id = installation.apiKeyId ∧
      key.tenantId = installation.tenantId ∧ key ∈ history.db.apiKeys := by
  have marked := installed.marked
  rw [unmarked, List.map_nil, List.map_eq_singleton_iff] at marked
  obtain ⟨key, only, own⟩ := marked
  obtain ⟨stored, isStored, sameId, tenant⟩ := installed.marker
  have member : key ∈ history.db.apiKeys := by
    have listed : key ∈ history.db.apiKeys.rows.filter isMarker := by
      rw [only]
      exact List.mem_singleton_self key
    exact List.mem_of_mem_filter listed
  have same : key = stored := KeyedTable.eq_of_key member isStored (own.trans sameId.symm)
  exact ⟨key, only, own, same ▸ tenant, member⟩

include installed in
theorem origin_rows (unmarked : markedKeys history.rotations = []) :
    ∃ marker, originRows history.db =
        marker :: history.db.registrations.rows.map registrationOrigin ∧
      marker.source = .marker ∧
      marker.toInitializationOrigin =
        ⟨uuidText installation.apiKeyId, uuidText installation.tenantId⟩ := by
  obtain ⟨key, only, own, tenant, -⟩ := only_marker installed unmarked
  have succeeded : history.db.registrations.rows.filter (fun row => row.status = .succeeded) =
      history.db.registrations.rows := by
    rw [List.filter_eq_self]
    exact fun row member => decide_eq_true (installed.ledger.succeeded row member).1
  refine ⟨markerOrigin key, ?_, rfl, ?_⟩
  · rw [originRows, only, succeeded]
    rfl
  · rw [← own, ← tenant]
    rfl

include installed in
theorem chain_state_well_formed : WellFormed (chainState installation history.db) := by
  obtain ⟨links, paths, read, parts, -⟩ := installed.chained
  refine ⟨key_ids_nodup history.db, ?_, origins_nodup parts (key_ids_nodup history.db), ?_, ?_⟩
  · intro key member
    obtain ⟨row, -, rfl⟩ := List.mem_map.mp member
    exact uuid_text_nonempty row.id
  · intro origin member
    rcases List.mem_cons.mp member with rfl | registered
    · exact uuid_text_nonempty installation.apiKeyId
    · obtain ⟨row, isRow, rfl⟩ := List.mem_map.mp registered
      obtain ⟨-, tenant, -, key, -, -, keyed, -⟩ := installed.ledger.succeeded row isRow
      have named : (registrationOrigin row).keyId = uuidText key.id := by
        rw [registrationOrigin, keyed]
        rfl
      exact fun empty => uuid_text_nonempty key.id (named.symm.trans empty)
  · intro key member hash own
    obtain ⟨row, isRow, rfl⟩ := List.mem_map.mp member
    rw [← Option.some.inj own, ← is_key_hash_iff]
    exact installed.hashes row isRow

include installed in
theorem read_state_again (orders : FirstRunOrders)
    (unmarked : markedKeys history.rotations = []) :
    ∃ state, readInitializationRotationState orders history.db =
        .ok (state, uuidText installation.apiKeyId) ∧
      state.origins.Perm (chainState installation history.db).origins ∧
      state.keys.Perm (chainState installation history.db).keys ∧
      state.audits.Perm (chainState installation history.db).audits := by
  obtain ⟨marker, rows, isMarker', named⟩ := origin_rows installed unmarked
  have listed := orders.origins.perm (originRows history.db)
  have kept : (originRows history.db).filter (fun row => row.source = .marker) = [marker] := by
    have others : (history.db.registrations.rows.map registrationOrigin).filter
        (fun row => row.source = .marker) = [] := by
      rw [List.filter_eq_nil_iff, List.forall_mem_map]
      intro row _ same
      cases of_decide_eq_true same
    rw [rows, List.filter_cons, if_pos (decide_eq_true isMarker'), others]
  have single : (orders.origins.list (originRows history.db)).filter
      (fun row => row.source = .marker) = [marker] := by
    apply List.perm_singleton.mp
    rw [← kept]
    exact listed.filter _
  have markerId : marker.keyId = uuidText installation.apiKeyId := by rw [named]
  have origins : ((originRows history.db).map OriginRow.toInitializationOrigin) =
      (chainState installation history.db).origins := by
    rw [rows, List.map_cons, named, List.map_map]
    rfl
  refine ⟨⟨(orders.origins.list (originRows history.db)).map OriginRow.toInitializationOrigin,
    orders.keys.list (history.db.apiKeys.rows.map keyRow),
    orders.audits.list (auditRows history.db)⟩, ?_, ?_, orders.keys.perm _, orders.audits.perm _⟩
  · rw [readInitializationRotationState, markerKeyId, single, ← markerId]
    rfl
  · rw [← origins]
    exact listed.map _

include installed in
/-- In whatever order the rows are listed, the marker's chain ends in the current key. -/
theorem current_marker_id (orders : FirstRunOrders)
    (unmarked : markedKeys history.rotations = []) :
    currentMarkerId orders history.db =
      .ok (uuidText (currentKey installation.apiKeyId history.rotations)) := by
  obtain ⟨state, reads, origins, keys, audits⟩ := read_state_again installed orders unmarked
  obtain ⟨links, paths, read, parts, path, isPath, head, last⟩ := installed.chained
  obtain ⟨current, valid, found⟩ := validated_in_any_order (chain_state_well_formed installed)
    read parts origins keys audits
  have looked := found path isPath _ _ head last
  have named := uuid_text_nonempty (currentKey installation.apiKeyId history.rotations)
  simp only [currentMarkerId, reads, valid, looked, if_neg named, bind, Except.bind]

variable {input : PreparedFirstRunInput} {draw : FirstRunDraw}

/-- What a first run finds of its own input in the database that it leaves. -/
structure Fits (input : PreparedFirstRunInput) (adminUserId : Uuid)
    (installation : Installation) : Prop where
  tenant : ∀ tenant ∈ installation.created.tenants.rows,
    tenantMatches input.tenant tenant = true
  admin : ∀ admin, input.admin = some admin → ∀ order : RowOrder User,
    verifyInitializedAdmin order installation.created installation.tenantId admin =
      some (uuidText adminUserId)

/-- The first row of the join is one of the first run's tenant. -/
def JoinsFirst (orders : FirstRunOrders) (tenantId : Uuid) (db : TenantsDb) : Prop :=
  (orders.joined.list (joinedRows db)).head?.map (fun row => row.1.id) = some tenantId

instance (orders : FirstRunOrders) (tenantId : Uuid) (db : TenantsDb) :
    Decidable (JoinsFirst orders tenantId db) :=
  inferInstanceAs (Decidable (_ = _))

include installed in
theorem verify_admin_again (order : RowOrder User) (admin : PreparedFirstRunAdmin) :
    verifyInitializedAdmin order history.db installation.tenantId admin =
      verifyInitializedAdmin order installation.created installation.tenantId admin := by
  rw [verifyInitializedAdmin, verifyInitializedAdmin, installed.admins, installed.credentials]

/-- What a first run answers when it finds its own state. -/
def identifiersOf (installation : Installation) (input : PreparedFirstRunInput)
    (adminUserId : Uuid) (rotations : List RotationCommitted) : InitializationIdentifiers where
  tenantId := uuidText installation.tenantId
  apiKeyId := uuidText (currentKey installation.apiKeyId rotations)
  adminUserId := input.admin.map fun _ => uuidText adminUserId

include installed in
theorem verify_single_again {adminUserId : Uuid} (orders : FirstRunOrders)
    (fits : Fits input adminUserId installation) (unmarked : markedKeys history.rotations = []) :
    verifySingleState orders input history.db
        (uuidText (currentKey installation.apiKeyId history.rotations)) =
      if JoinsFirst orders installation.tenantId history.db then
        .ok (identifiersOf installation input adminUserId history.rotations)
      else .error .initializationStateAmbiguous := by
  obtain ⟨marker, only, own, markerTenant, isKey⟩ := only_marker installed unmarked
  obtain ⟨first, created, firstId, stored⟩ := installed.tenant
  have joined : ∀ row ∈ orders.joined.list (joinedRows history.db),
      row.1 ∈ history.db.tenants ∧ row.2 = marker := by
    intro row member
    have listed := (orders.joined.perm _).mem_iff.mp member
    obtain ⟨tenant, isTenant, paired⟩ := List.mem_flatMap.mp listed
    rw [only, List.map_singleton, List.mem_singleton] at paired
    rw [paired]
    exact ⟨isTenant, rfl⟩
  rw [verifySingleState]
  cases head : (orders.joined.list (joinedRows history.db)).head? with
  | none =>
      have apart : ¬ JoinsFirst orders installation.tenantId history.db := by
        rw [JoinsFirst, head, Option.map_none]
        exact (Option.some_ne_none _).symm
      rw [if_neg apart]
  | some row =>
      obtain ⟨isTenant, isMarker'⟩ := joined row (List.mem_of_mem_head? head)
      obtain ⟨tenant, key⟩ := row
      have sameKey : key = marker := isMarker'
      have joins : JoinsFirst orders installation.tenantId history.db ↔
          tenant.id = installation.tenantId := by
        rw [JoinsFirst, head, Option.map_some, Option.some.injEq]
      rw [sameKey]
      dsimp only
      by_cases same : tenant.id = installation.tenantId
      · have sameTenant : tenant = first :=
          KeyedTable.eq_of_key isTenant stored (same.trans firstId.symm)
        have fitting : tenantMatches input.tenant tenant = true := by
          apply fits.tenant
          rw [created, sameTenant]
          exact List.mem_singleton_self first
        have keyed : keyMatches tenant marker = true := by
          rw [keyMatches, decide_eq_true (markerTenant.trans same.symm),
            installed.hashes marker isKey]
          rfl
        rw [if_pos (joins.mpr same), fitting, keyed, Bool.not_true, Bool.or_self, if_neg Bool.false_ne_true,
          identifiersOf]
        cases admins : input.admin with
        | none => rw [same, Option.map_none]
        | some admin =>
            dsimp only
            rw [same, verify_admin_again installed, fits.admin admin admins, Option.map_some]
      · have foreign : keyMatches tenant marker = false := by
          rw [keyMatches, markerTenant, decide_eq_false fun own => same own.symm, Bool.false_and]
        rw [if_neg fun own => same (joins.mp own), foreign, Bool.not_false, Bool.or_true, if_pos rfl]

include installed in
/-- A first run that is repeated. -/
theorem existing_state_again {adminUserId : Uuid} (orders : FirstRunOrders)
    (fits : Fits input adminUserId installation) :
    existingState orders input history.db =
      if (∀ value ∈ history.rotations,
            value.replacementApiKey.note ≠ some firstRunApiKeyNote) ∧
          JoinsFirst orders installation.tenantId history.db then
        .ok (some (identifiersOf installation input adminUserId history.rotations))
      else .error .initializationStateAmbiguous := by
  have succeeded := succeeded_all installed.ledger
  have fresh : isFreshFirstRunState (readFirstRunState history.db) = false := by
    have many : (readFirstRunState history.db).tenantCount ≠ 0 := by
      have count : (readFirstRunState history.db).tenantCount =
        1 + history.db.registrations.rows.length := installed.tenants
      omega
    rw [isFreshFirstRunState, List.all_cons, decide_eq_false many, Bool.false_and]
  have keys : ¬ history.db.apiKeys.rows.length < 1 + history.db.registrations.rows.length :=
    Nat.not_lt.mpr installed.keys
  have marked := marker_count installed
  rw [existingState, fresh, if_neg Bool.false_ne_true]
  simp only [readFirstRunState, succeeded, installed.tenants, ne_eq, not_true, decide_false,
    Bool.or_false, keys, decide_eq_true_eq]
  by_cases unmarked : markedKeys history.rotations = []
  · have notes := marked_keys_nil.mp unmarked
    rw [if_neg (not_not.mpr (marked.mpr unmarked)), current_marker_id installed orders unmarked]
    dsimp only
    rw [verify_single_again installed orders fits unmarked]
    by_cases joins : JoinsFirst orders installation.tenantId history.db
    · rw [if_pos joins, if_pos ⟨notes, joins⟩]
      rfl
    · rw [if_neg joins, if_neg fun both => joins both.2]
      rfl
  · rw [if_pos (fun single => unmarked (marked.mp single)),
      if_neg fun both => unmarked (marked_keys_nil.mpr both.1)]

end Again

section Created

variable {db after created : TenantsDb} {locale : DbLocale} {input : PreparedFirstRunInput}
  {draw : FirstRunDraw} {keyHash : String}

/-- The tables that a first run needs empty. -/
structure Fresh (db : TenantsDb) : Prop where
  tenants : db.tenants.rows = []
  users : db.users.rows = []
  apiKeys : db.apiKeys.rows = []
  registrations : db.registrations.rows = []

theorem fresh_of_counts (fresh : isFreshFirstRunState (readFirstRunState db) = true) :
    Fresh db := by
  have zero := List.all_eq_true.mp fresh
  refine ⟨?_, ?_, ?_, ?_⟩ <;> apply List.length_eq_zero_iff.mp <;> apply of_decide_eq_true <;>
    apply zero
  · exact List.mem_cons_self
  · exact List.mem_cons_of_mem _ List.mem_cons_self
  · exact List.mem_cons_of_mem _ (List.mem_cons_of_mem _ List.mem_cons_self)
  · exact List.mem_cons_of_mem _ (List.mem_cons_of_mem _ (List.mem_cons_of_mem _
      (List.mem_cons_of_mem _ List.mem_cons_self)))

theorem find_of_rows_nil {Key Row : Type} [DecidableEq Key] {key : Row → Key}
    {table : KeyedTable key} (none : table.rows = []) (wanted : Key) :
    table.find wanted = Option.none := by
  rw [KeyedTable.find, none]
  rfl

theorem insert_of_rows_nil {Key Row : Type} [DecidableEq Key] {key : Row → Key}
    {table : KeyedTable key} (none : table.rows = []) (row : Row) :
    (table.insert row).rows = [row] := by
  rw [KeyedTable.rows_insert (find_of_rows_nil none _), none, List.nil_append]

/-- The users and credentials that a first run stores. -/
def storeAdmin (draw : FirstRunDraw) (admin : Option PreparedFirstRunAdmin) (now : Instant)
    (db : TenantsDb) : TenantsDb :=
  match admin with
  | none => db
  | some admin =>
      { db with
        users := db.users.insert (firstAdmin draw.adminUserId draw.tenantId admin now)
        credentials :=
          db.credentials.insert (firstCredential draw.adminUserId draw.tenantId admin now) }

theorem store_admin_frame (admin : Option PreparedFirstRunAdmin) (now : Instant)
    (db : TenantsDb) :
    (storeAdmin draw admin now db).clock = db.clock ∧
      (storeAdmin draw admin now db).tenants = db.tenants ∧
      (storeAdmin draw admin now db).apiKeys = db.apiKeys ∧
      (storeAdmin draw admin now db).registrations = db.registrations ∧
      (storeAdmin draw admin now db).audits = db.audits := by
  cases admin <;> exact ⟨rfl, rfl, rfl, rfl, rfl⟩

/-- What a first run stores. -/
def storeFirstRun (input : PreparedFirstRunInput) (draw : FirstRunDraw) (keyHash : String)
    (db : TenantsDb) : TenantsDb :=
  (storeAdmin draw input.admin db.clock
    (db.insertTenant (firstTenant draw.tenantId input.tenant db.clock))).insertApiKey
      (firstApiKey draw.apiKeyId draw.tenantId keyHash db.clock)

theorem insert_fresh_admin_ok {tenantId : Uuid} {admin : Option PreparedFirstRunAdmin}
    {adminUserId : Option Uuid}
    (inserted : insertFreshAdmin locale draw tenantId admin db = .ok (adminUserId, after)) :
    tenantId = draw.tenantId → after = storeAdmin draw admin db.clock db ∧
      (admin ≠ none → db.credentials.find draw.adminUserId = none) := by
  rintro rfl
  cases admin with
  | none =>
      cases inserted
      exact ⟨rfl, fun absent => absurd rfl absent⟩
  | some admin =>
      obtain ⟨user, accepted, inserted⟩ := bind_ok.mp inserted
      obtain ⟨row, stored, accepted⟩ := bind_ok.mp accepted
      obtain ⟨_, _, accepted⟩ := bind_ok.mp accepted
      obtain ⟨_, _, accepted⟩ := bind_ok.mp accepted
      obtain ⟨_, _, accepted⟩ := bind_ok.mp accepted
      obtain rfl := Except.ok.inj accepted
      obtain rfl := insert_user_row_ok stored
      obtain ⟨credential, accepted, inserted⟩ := bind_ok.mp inserted
      obtain ⟨_, _, accepted⟩ := bind_ok.mp accepted
      obtain ⟨_, unused, accepted⟩ := bind_ok.mp accepted
      obtain ⟨_, _, accepted⟩ := bind_ok.mp accepted
      obtain ⟨_, _, accepted⟩ := bind_ok.mp accepted
      obtain rfl := Except.ok.inj accepted
      cases inserted
      exact ⟨rfl, fun _ => Option.isNone_iff_eq_none.mp (require_ok.mp unused)⟩

theorem create_rows_ok {identifiers : InitializationIdentifiers}
    (inserted : createRows locale input draw keyHash db = .ok (identifiers, after)) :
    after = storeFirstRun input draw keyHash db ∧
      (input.admin ≠ none → db.credentials.find draw.adminUserId = none) := by
  obtain ⟨tenant, accepted, inserted⟩ := bind_ok.mp inserted
  obtain ⟨rfl, -⟩ := insert_tenant_row_ok accepted
  obtain ⟨⟨adminUserId, middle⟩, admins, inserted⟩ := bind_ok.mp inserted
  obtain ⟨stored, unused⟩ := insert_fresh_admin_ok admins rfl
  obtain ⟨key, accepted, inserted⟩ := bind_ok.mp inserted
  obtain ⟨rfl, -⟩ := insert_api_key_row_ok accepted
  have final := congrArg Prod.snd (Except.ok.inj inserted)
  have clock : middle.clock = db.clock := by
    rw [stored]
    exact (store_admin_frame _ _ _).1
  refine ⟨final.symm.trans ?_, unused⟩
  dsimp only
  rw [clock, stored]
  rfl

section Stored

variable (empty : Fresh db)

include empty in
theorem stored_tenants : (storeFirstRun input draw keyHash db).tenants.rows =
    [firstTenant draw.tenantId input.tenant db.clock] := by
  rw [storeFirstRun, TenantsDb.insertApiKey, (store_admin_frame _ _ _).2.1,
    TenantsDb.insertTenant, insert_of_rows_nil empty.tenants]

include empty in
theorem stored_keys : (storeFirstRun input draw keyHash db).apiKeys.rows =
    [firstApiKey draw.apiKeyId draw.tenantId keyHash db.clock] := by
  rw [storeFirstRun, TenantsDb.insertApiKey, (store_admin_frame _ _ _).2.2.1,
    TenantsDb.insertTenant, insert_of_rows_nil empty.apiKeys]

include empty in
theorem stored_registrations : (storeFirstRun input draw keyHash db).registrations.rows = [] := by
  rw [storeFirstRun, TenantsDb.insertApiKey, (store_admin_frame _ _ _).2.2.2.1,
    TenantsDb.insertTenant, empty.registrations]

theorem stored_audits : (storeFirstRun input draw keyHash db).audits = db.audits := by
  rw [storeFirstRun, TenantsDb.insertApiKey, (store_admin_frame _ _ _).2.2.2.2,
    TenantsDb.insertTenant]

include empty in
/-- An audit row of a tenant that is not there cannot be. -/
theorem no_audits (known : ∀ audit ∈ db.audits, (db.tenants.find audit.tenantId).isSome = true) :
    db.audits.rows = [] := by
  rw [List.eq_nil_iff_forall_not_mem]
  intro audit member
  have found := known audit member
  rw [find_of_rows_nil empty.tenants] at found
  cases found

include empty in
theorem installed_created
    (known : ∀ audit ∈ db.audits, (db.tenants.find audit.tenantId).isSome = true)
    (issued : ApiKeyCredentials.isKeyHash keyHash = true) :
    Installed ⟨draw.tenantId, draw.apiKeyId, storeFirstRun input draw keyHash db⟩
      ⟨storeFirstRun input draw keyHash db, []⟩ := by
  have tenants := @stored_tenants db input draw keyHash empty
  have keys := @stored_keys db input draw keyHash empty
  have registrations := @stored_registrations db input draw keyHash empty
  have audits : (storeFirstRun input draw keyHash db).audits.rows = [] := by
    rw [stored_audits, no_audits empty known]
  have only : ∀ row ∈ (storeFirstRun input draw keyHash db).apiKeys,
      row = firstApiKey draw.apiKeyId draw.tenantId keyHash db.clock := by
    intro row member
    rw [← KeyedTable.mem_rows, keys] at member
    exact List.mem_singleton.mp member
  exact
    { ledger := by
        constructor
        · rw [registrations]
          exact List.nodup_nil
        · intro row member
          rw [← KeyedTable.mem_rows, registrations] at member
          cases member
      tenant := by
        refine ⟨_, tenants, rfl, ?_⟩
        rw [← KeyedTable.mem_rows, tenants]
        exact List.mem_singleton_self _
      tenants := by
        rw [tenants, registrations]
        rfl
      keys := by
        rw [keys, registrations]
        exact le_refl 1
      admins := rfl
      credentials := rfl
      actors := by
        intro audit member
        rw [← KeyedTable.mem_rows, audits] at member
        cases member
      marker := by
        refine ⟨firstApiKey draw.apiKeyId draw.tenantId keyHash db.clock, ?_, rfl, rfl⟩
        rw [← KeyedTable.mem_rows, keys]
        exact List.mem_singleton_self _
      marked := by
        have carries : isMarker (firstApiKey draw.apiKeyId draw.tenantId keyHash db.clock) = true :=
          decide_eq_true rfl
        rw [keys, List.filter_cons, if_pos carries]
        rfl
      hashes := by
        intro row member
        rw [only row member]
        exact issued
      chained := by
        refine ⟨[], [[uuidText draw.apiKeyId]], ?_, ?_, _, List.mem_singleton_self _, rfl, rfl⟩
        · rw [auditRows, audits]
          exact .nil
        · have origins : (chainState ⟨draw.tenantId, draw.apiKeyId,
              storeFirstRun input draw keyHash db⟩ (storeFirstRun input draw keyHash db)).origins =
              [⟨uuidText draw.apiKeyId, uuidText draw.tenantId⟩] := by
            rw [chainState, registrations]
            rfl
          have single : (chainState ⟨draw.tenantId, draw.apiKeyId,
              storeFirstRun input draw keyHash db⟩ (storeFirstRun input draw keyHash db)).keys =
              [keyRow (firstApiKey draw.apiKeyId draw.tenantId keyHash db.clock)] := by
            rw [chainState, keys]
            rfl
          refine ⟨?_, .refl _, ?_, ?_⟩
          · rw [origins, single]
            refine .cons ⟨rfl, fun key member _ => ?_⟩ .nil
            rw [List.mem_singleton.mp member]
            rfl
          · rw [single]
            exact .refl _
          · intro path isPath key member _
            rw [single] at member
            rw [List.mem_singleton.mp isPath, List.mem_singleton.mp member]
            exact ⟨fun _ => rfl, fun _ => rfl⟩ }

theorem fits_tenant (id : Uuid) (tenant : TenantRegistration.NormalizedTenantInput)
    (now : Instant) : tenantMatches tenant (firstTenant id tenant now) = true := by
  simp [tenantMatches, firstTenant]

include empty in
theorem stored_fits
    (unused : input.admin ≠ none → db.credentials.find draw.adminUserId = none) :
    Fits input draw.adminUserId
      ⟨draw.tenantId, draw.apiKeyId, storeFirstRun input draw keyHash db⟩ := by
  constructor
  · intro tenant member
    rw [stored_tenants empty] at member
    rw [List.mem_singleton.mp member]
    exact fits_tenant _ _ _
  · intro admin given order
    have free := unused (by rw [given]; exact Option.some_ne_none admin)
    have users : (storeFirstRun input draw keyHash db).users.rows =
        [firstAdmin draw.adminUserId draw.tenantId admin db.clock] := by
      rw [storeFirstRun, given]
      exact insert_of_rows_nil empty.users _
    have credential : (storeFirstRun input draw keyHash db).credentials.find draw.adminUserId =
        some (firstCredential draw.adminUserId draw.tenantId admin db.clock) := by
      rw [storeFirstRun, given]
      change (db.credentials.insert _).find draw.adminUserId = _
      rw [KeyedTable.find_insert, free, Option.none_or]
      exact if_pos rfl
    have isAdmin : isTenantAdmin draw.tenantId
        (firstAdmin draw.adminUserId draw.tenantId admin db.clock) = true := by
      rw [isTenantAdmin, Bool.and_eq_true]
      exact ⟨decide_eq_true rfl, decide_eq_true rfl⟩
    have listed : order.list [firstAdmin draw.adminUserId draw.tenantId admin db.clock] =
        [firstAdmin draw.adminUserId draw.tenantId admin db.clock] :=
      List.perm_singleton.mp (order.perm _)
    have filtered : (storeFirstRun input draw keyHash db).users.rows.filter
        (isTenantAdmin draw.tenantId) =
        [firstAdmin draw.adminUserId draw.tenantId admin db.clock] := by
      rw [users, List.filter_cons, if_pos isAdmin]
      rfl
    rw [verifyInitializedAdmin, filtered, listed]
    dsimp only
    rw [show (firstAdmin draw.adminUserId draw.tenantId admin db.clock).id = draw.adminUserId
      from rfl, credential]
    simp [firstAdmin, firstCredential, Option.filter, admin.allowed]

end Stored

end Created

section Repeated

variable {normalize : List Char → List Char} {sha : Sha256} {locale : DbLocale}
  {input : PreparedFirstRunInput} {draw : FirstRunDraw}

theorem create_state_ok {db created : TenantsDb} {result : FirstRunInitializationResult}
    (returned : createState sha locale input draw db = .ok (result, created)) :
    ∃ credential, createApiKeyCredential sha input.apiKeyPrefix draw.entropy = some credential ∧
      created = storeFirstRun input draw credential.keyHash db ∧
      (input.admin ≠ none → db.credentials.find draw.adminUserId = none) := by
  unfold createState at returned
  split at returned
  case h_1 => cases returned
  case h_2 credential issued =>
    split at returned
    case h_1 => cases returned
    case h_2 identifiers after inserted =>
      obtain ⟨stored, unused⟩ := create_rows_ok inserted
      have same := congrArg Prod.snd (Except.ok.inj returned)
      exact ⟨credential, issued, same.symm.trans stored, unused⟩

/-- What a first run that creates its state has started from and left. -/
theorem created_installed {orders : FirstRunOrders} {db created : TenantsDb}
    {identifiers : InitializationIdentifiers} {apiKey : String}
    (known : ∀ audit ∈ db.audits, (db.tenants.find audit.tenantId).isSome = true)
    (creates : initializeFirstRun sha locale orders input draw db =
      .ok (.created identifiers apiKey, created)) :
    Installed ⟨draw.tenantId, draw.apiKeyId, created⟩ ⟨created, []⟩ ∧
      Fits input draw.adminUserId ⟨draw.tenantId, draw.apiKeyId, created⟩ := by
  obtain ⟨existing, found, creates⟩ := bind_ok.mp creates
  cases existing with
  | some existing => cases creates
  | none =>
      have empty : Fresh db := by
        apply fresh_of_counts
        by_contra used
        rw [existingState, if_neg used] at found
        dsimp only at found
        split at found
        · cases found
        · split at found
          · cases found
          · obtain ⟨_, -, impossible⟩ := map_ok.mp found
            cases impossible
      obtain ⟨credential, issued, rfl, unused⟩ := create_state_ok creates
      exact ⟨installed_created empty known (create_api_key_credential_hash issued),
        stored_fits empty unused⟩

/-- What a first run answers after the operations of a history. -/
theorem first_run_again {before orders : FirstRunOrders} {later : FirstRunDraw}
    {apiKeyPrefix : String} {db created : TenantsDb} {identifiers : InitializationIdentifiers}
    {apiKey : String}
    (known : ∀ audit ∈ db.audits, (db.tenants.find audit.tenantId).isSome = true)
    (creates : initializeFirstRun sha locale before input draw db =
      .ok (.created identifiers apiKey, created)) (operations : List Operation) :
    let history := live normalize sha apiKeyPrefix draw.tenantId created operations
    initializeFirstRun sha locale orders input later history.db =
      if (∀ value ∈ history.rotations,
            value.replacementApiKey.note ≠ some firstRunApiKeyNote) ∧
          JoinsFirst orders draw.tenantId history.db then
        .ok (.existing ⟨uuidText draw.tenantId,
          uuidText (currentKey draw.apiKeyId history.rotations),
          input.admin.map fun _ => uuidText draw.adminUserId⟩, history.db)
      else .error .initializationStateAmbiguous := by
  intro history
  obtain ⟨installed, fits⟩ := created_installed known creates
  have still := @live_installed normalize sha apiKeyPrefix _ created operations installed
  have again := existing_state_again still orders fits
  rw [initializeFirstRun, again]
  split_ifs <;> rfl

def listedOrder (Row : Type) : RowOrder Row := ⟨id, fun _ => .refl _⟩

def listedOrders : FirstRunOrders :=
  ⟨listedOrder _, listedOrder _, listedOrder _, listedOrder _, listedOrder _⟩

def exampleFirstRun : PreparedFirstRunInput where
  tenant := RegistrationOnce.acme "0" BigIntText.zero_is_decimal
  admin := none
  apiKeyPrefix := "ccpo"

def exampleDraw : FirstRunDraw := ⟨1, 2, 3, List.replicate 32 0⟩

/-- The first run creates its state. -/
def creates (outcome :
    Except FirstRunInitializationError (FirstRunInitializationResult × TenantsDb)) : Bool :=
  match outcome with
  | .ok (.created _ _, _) => true
  | _ => false

theorem creates_ok
    {outcome : Except FirstRunInitializationError (FirstRunInitializationResult × TenantsDb)}
    (created : creates outcome = true) :
    ∃ identifiers apiKey db, outcome = .ok (.created identifiers apiKey, db) := by
  unfold creates at created
  split at created
  case h_1 identifiers apiKey db => exact ⟨identifiers, apiKey, db, rfl⟩
  case h_2 => cases created

theorem example_first_run_again :
    ∃ identifiers apiKey created,
      initializeFirstRun RegistrationOnce.lengthDigest ⟨id, fun _ => false⟩ listedOrders
          exampleFirstRun exampleDraw RegistrationOnce.emptyDb =
        .ok (.created identifiers apiKey, created) ∧
      ∀ operations : List Operation,
        let history := live id RegistrationOnce.lengthDigest "ccpo" exampleDraw.tenantId created
          operations
        initializeFirstRun RegistrationOnce.lengthDigest ⟨id, fun _ => false⟩ listedOrders
            exampleFirstRun exampleDraw history.db =
          if (∀ value ∈ history.rotations,
                value.replacementApiKey.note ≠ some firstRunApiKeyNote) ∧
              JoinsFirst listedOrders exampleDraw.tenantId history.db then
            .ok (.existing ⟨uuidText exampleDraw.tenantId,
              uuidText (currentKey exampleDraw.apiKeyId history.rotations),
              exampleFirstRun.admin.map fun _ => uuidText exampleDraw.adminUserId⟩, history.db)
          else .error .initializationStateAmbiguous := by
  have created : creates (initializeFirstRun RegistrationOnce.lengthDigest ⟨id, fun _ => false⟩
      listedOrders exampleFirstRun exampleDraw RegistrationOnce.emptyDb) = true := by
    decide +kernel
  obtain ⟨identifiers, apiKey, db, ran⟩ := creates_ok created
  have known : ∀ audit ∈ RegistrationOnce.emptyDb.audits,
      (RegistrationOnce.emptyDb.tenants.find audit.tenantId).isSome = true := by decide
  exact ⟨identifiers, apiKey, db, ran, fun operations => first_run_again known ran operations⟩

end Repeated

end CommitmentOptimizer.Tenants.FirstRunHistory
