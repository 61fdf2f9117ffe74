import CommitmentOptimizer.Sessions.SessionInvariants

/-!
# Every session transaction meets the contract

The contract of the session tables, one rule for each statement, and from them
the obligation of each request.
-/

namespace CommitmentOptimizer.Sessions.SessionVerification

open Foundations
open Foundations.SqlConstraints
open Foundations.RowLocking
open Tenants.Users
open SessionTables
open SessionTransactions
open SessionInvariants

set_option autoImplicit false

/-- A family is opened only under the stored hash that the login has verified. -/
def IssuesUnderVerified (request : LoginRequest) (begun before after : SessionsDb) : Prop :=
  (after.families = before.families ∧ after.tokens = before.tokens) ∨
    ∃ row ∈ before.credentials, verifiedHash request begun = some row.passwordHash

/-- A used token that is presented with its CSRF value leaves its family revoked. -/
def ReuseRevokes (input : RefreshRotateInput) (begun after : SessionsDb) : Prop :=
  ∀ token ∈ begun.tokens, token.tokenDigest = input.presentedDigest →
    token.csrfDigest = input.presentedCsrfDigest → token.usedAt ≠ none →
    ∃ family ∈ after.families, family.id = token.familyId ∧ family.revokedAt ≠ none

/-- All families of the user are revoked, and none that was revoked now had been
created after `began`. -/
structure RevokesAll (tenantId userId : Uuid) (began : Instant) (before after : SessionsDb) :
    Prop where
  revoked : ∀ family ∈ after.families, belongsTo tenantId userId family = true →
    family.revokedAt ≠ none
  dated : ∀ family ∈ before.families, belongsTo tenantId userId family = true →
    family.revokedAt = none → family.createdAt ≤ began

/-- An unrevoked family of the user was created after `began`. -/
def LaterFamily (tenantId userId : Uuid) (began : Instant) (db : SessionsDb) : Prop :=
  ∃ family ∈ db.families, belongsTo tenantId userId family = true ∧ family.revokedAt = none ∧
    began < family.createdAt

/-- Only the credential of the target may change, to the new hash. -/
structure StoresHash (input : UserPasswordMutationInput) (before after : SessionsDb) : Prop where
  stored : ∃ row ∈ after.credentials, row.userId = input.targetUserId ∧
    row.passwordHash = input.passwordHash
  others : ∀ row ∈ after.credentials, row ∈ before.credentials ∨
    (row.userId = input.targetUserId ∧ row.passwordHash = input.passwordHash)

/-- What a committed request has done. -/
def Promised : SessionsRequest → SessionsDb → SessionsValue → SessionsDb → SessionsDb → Prop
  | .login request, begun, _, before, after =>
      after.credentials = before.credentials ∧ IssuesUnderVerified request begun before after
  | .refresh input, begun, _, before, after =>
      after.credentials = before.credentials ∧ ReuseRevokes input begun after
  | .logout _, _, _, before, after => after.credentials = before.credentials
  | .setPassword input, begun, _, before, after => StoresHash input before after ∧
      RevokesAll input.tenantId input.targetUserId begun.clock before after
  | .createUser _ _ _, _, _, before, after => after.credentials = before.credentials
  | .patchUser input, begun, value, before, after => after.credentials = before.credentials ∧
      ∀ user, value = .patched (.updated user) → ∀ current ∈ before.users,
        current.id = input.userId → familyRevocationReason current input.changes ≠ none →
        RevokesAll input.tenantId input.userId begun.clock before after

/-- What holds when a request has rolled back. -/
def AbortPromised : SessionsRequest → SessionsDb → SessionsAbort → SessionsDb → Prop
  | .refresh input, begun, _, db => ReuseRevokes input begun db
  | .setPassword input, begun, .families _, db =>
      LaterFamily input.tenantId input.targetUserId begun.clock db
  | .patchUser input, begun, .families _, db =>
      LaterFamily input.tenantId input.userId begun.clock db
  | _, _, _, _ => True

def sessionsContract :
    Contract SessionsDb SessionsKey SessionsAbort SessionsValue SessionsRequest where
  invariant := Consistent
  evolves := Evolves
  same := Same
  onCommit := Promised
  onAbort := AbortPromised
  evolves_refl := evolves_refl
  evolves_trans := evolves_trans
  same_refl := same_refl
  same_trans := same_trans

abbrev Rely := sessionsContract.rely

variable {request : SessionsRequest} {begun seen now : SessionsDb} {held keys : List SessionsKey}
  {pending : SessionsDb → SessionsDb} {value : SessionsValue}
  {aborted : SessionsAbort → List SessionsKey → SessionsDb → Prop}

theorem committable (keeps : ∀ now, Rely held seen now → Keeps held now (pending now))
    (promised : ∀ now, Rely held seen now → Promised request begun value now (pending now)) :
    sessionsContract.Committable request begun value held pending seen :=
  fun now moved => ⟨(keeps now moved).consistent, (keeps now moved).evolves,
    fun key free => (keeps now moved).untouched key free, promised now moved⟩

/-- A request that wrote nothing may end. -/
theorem unchanged_committable
    (promised : ∀ now, Rely held seen now → Promised request begun value now now) :
    sessionsContract.Committable request begun value held (fun db => db) seen :=
  committable (fun _ moved => keeps_refl moved.1) promised

section Stable

theorem rely_family {id : Uuid} (moved : Rely held seen now)
    (member : SessionsKey.family id ∈ held) :
    now.families.find id = seen.families.find id ∧ now.familyTokens id = seen.familyTokens id :=
  ⟨(moved.2.2 _ member).1.symm, (moved.2.2 _ member).2.symm⟩

theorem rely_token {id : Uuid} (moved : Rely held seen now)
    (member : SessionsKey.token id ∈ held) : now.tokens.find id = seen.tokens.find id :=
  Eq.symm (moved.2.2 _ member)

theorem rely_user {id : Uuid} (moved : Rely held seen now)
    (member : SessionsKey.user id ∈ held) : now.users.find id = seen.users.find id :=
  (moved.2.2 _ member).1.symm

theorem rely_credential {userId : Uuid} (moved : Rely held seen now)
    (member : SessionsKey.credential userId ∈ held) :
    now.credentials.find userId = seen.credentials.find userId :=
  Eq.symm (moved.2.2 _ member)

theorem insertable_moves {token : RefreshToken} (insertable : Insertable held seen token)
    (moved : Rely held seen now) : Insertable held now token :=
  { insertable with
    freshId := (rely_token moved insertable.tokenKey).trans insertable.freshId
    freshDigest := (moved.2.2 _ insertable.digestKey).mp insertable.freshDigest }

theorem opens_moves {family : RefreshFamily} {token : RefreshToken}
    (opens : Opens held seen family token) (moved : Rely held seen now) :
    Opens held now family token :=
  { opens with
    insertable := insertable_moves opens.insertable moved
    freshFamily := by
      rw [(rely_family moved (opens.sameFamily ▸ opens.insertable.familyKey)).1]
      exact opens.freshFamily
    lifetime := ⟨opens.lifetime.1, opens.lifetime.2.trans moved.2.1.clock⟩
    holder := by
      refine ⟨moved.2.1.tenants _ opens.holder.1, ?_⟩
      rw [SessionsDb.findUser, rely_user moved opens.userKey]
      exact opens.holder.2 }

theorem rotates_moves {family : RefreshFamily} {token used child : RefreshToken}
    (rotates : Rotates held seen family token used child) (moved : Rely held seen now) :
    Rotates held now family token used child :=
  { rotates with
    familyStored := by
      have familyKey := rotates.childFamily ▸ rotates.insertable.familyKey
      refine KeyedTable.mem_of_find ((rely_family moved familyKey).1.trans ?_)
      exact KeyedTable.find_key rotates.familyStored
    tokenStored := by
      refine KeyedTable.mem_of_find ((rely_token moved rotates.tokenKey).trans ?_)
      exact KeyedTable.find_key rotates.tokenStored
    insertable := insertable_moves rotates.insertable moved }

theorem revokes_moves {families : List RefreshFamily} (revokes : Revokes held seen families)
    (moved : Rely held seen now) : Revokes held now families := by
  intro family member
  obtain ⟨familyKey, revoked, old, oldMember, same, unrevoked⟩ := revokes family member
  have sameId : family.id = old.id := congrArg RefreshFamilyIdentity.id same
  refine ⟨familyKey, revoked, old, ?_, same, unrevoked⟩
  refine KeyedTable.mem_of_find ((rely_family moved (sameId ▸ familyKey)).1.trans ?_)
  exact KeyedTable.find_key oldMember

end Stable

section Statements

theorem database_refused {Result : Type} {outcome : Except DbError Result}
    {reason : SessionsAbort} (refused : ∀ error keys now, aborted (.database error) keys now)
    (failed : outcome.mapError .database = .error reason) : aborted reason keys now := by
  obtain ⟨error, _, rfl⟩ := map_error_error.mp failed
  exact refused error keys now

/-- Rule for `SELECT ... FROM users WHERE tenant_id AND email FOR UPDATE`. -/
theorem meets_lockUserByEmail {tenantId : Uuid} {email : String}
    {after : Option User → List SessionsKey → (SessionsDb → SessionsDb) → SessionsDb → Prop}
    (missing : ∀ now keys, Rely held seen now → held ⊆ keys → after none keys pending now)
    (locked : ∀ now user, Rely held seen now → (pending now).findUser tenantId user.id = some user →
      after (some user) (.user user.id :: held) pending now) :
    (lockUserByEmail tenantId email).Meets Rely after aborted held pending seen := by
  unfold lockUserByEmail
  simp only [Txn.meets_then, Txn.meets_view]
  intro now moved
  cases found : (pending now).findUserByEmail tenantId email with
  | none => exact missing now held moved (List.Subset.refl held)
  | some user =>
      simp only [Txn.meets_then, Txn.meets_lockRow, Txn.meets_view, Txn.meets_pure]
      intro first firstMoved second secondMoved
      have movedOn : Rely held seen second := Contract.rely_trans moved
        (Contract.rely_trans firstMoved
          (Contract.rely_subset (List.subset_cons_self _ _) secondMoved))
      cases current : ((pending second).findUser tenantId user.id).filter
          fun row => row.email = email with
      | none => exact missing second _ movedOn (List.subset_cons_self _ _)
      | some row =>
          obtain ⟨stored, _⟩ := Option.filter_eq_some_iff.mp current
          have sameId := KeyedTable.key_of_find (Option.filter_eq_some_iff.mp stored).1
          rw [← sameId] at stored ⊢
          exact locked second row movedOn stored

/-- Rule for `INSERT INTO auth_refresh_families`. -/
theorem meets_insertFamily {new : RefreshFamily}
    {ended : Unit → List SessionsKey → (SessionsDb → SessionsDb) → SessionsDb → Prop}
    (refused : ∀ error keys now, aborted (.database error) keys now)
    (stored : ∀ now, Rely held seen now → new.createdAt < new.absoluteExpiresAt →
      (pending now).families.find new.id = none → ((pending now).tenants new.tenantId).isSome →
      ((pending now).findUser new.tenantId new.userId).isSome →
      ended () (.family new.id :: held) (fun db => (pending db).insertFamily new) now) :
    (insertFamily new).Meets Rely ended aborted held pending seen := by
  unfold insertFamily
  simp only [Txn.meets_then, Txn.meets_attempt, Txn.meets_lockRow, Txn.meets_view, Txn.meets_save]
  refine ⟨fun row accepted => ?_, fun _ => database_refused refused⟩
  obtain ⟨rfl, lifetime⟩ := insert_family_row_ok (map_error_ok.mp accepted)
  intro first firstMoved second secondMoved
  refine ⟨fun _ freshId => ?_, fun _ => database_refused refused⟩
  refine ⟨fun _ tenant => ?_, fun _ => database_refused refused⟩
  refine ⟨fun _ holder => ?_, fun _ => database_refused refused⟩
  exact stored second (Contract.rely_trans firstMoved
      (Contract.rely_subset (List.subset_cons_self _ _) secondMoved)) lifetime
    (Option.isNone_iff_eq_none.mp (require_ok.mp (map_error_ok.mp freshId)))
    (require_ok.mp (map_error_ok.mp tenant)) (require_ok.mp (map_error_ok.mp holder))

/-- Rule for `INSERT INTO auth_refresh_tokens`. -/
theorem meets_insertToken {new : RefreshToken}
    {ended : Unit → List SessionsKey → (SessionsDb → SessionsDb) → SessionsDb → Prop}
    (refused : ∀ error keys now, aborted (.database error) keys now)
    (stored : ∀ now, Rely held seen now → (pending now).tokens.find new.id = none →
      (∀ other ∈ (pending now).tokens, other.tokenDigest ≠ new.tokenDigest) →
      ended () (.digest new.tokenDigest :: .token new.id :: held)
        (fun db => (pending db).insertToken new) now) :
    (insertToken new).Meets Rely ended aborted held pending seen := by
  unfold insertToken
  simp only [Txn.meets_then, Txn.meets_attempt, Txn.meets_lockRow, Txn.meets_view, Txn.meets_save]
  refine ⟨fun row accepted => ?_, fun _ => database_refused refused⟩
  obtain rfl := insert_token_row_ok (map_error_ok.mp accepted)
  intro first firstMoved second secondMoved third thirdMoved
  refine ⟨fun _ unique => ?_, fun _ => database_refused refused⟩
  refine ⟨fun _ _ => ?_, fun _ => database_refused refused⟩
  obtain ⟨_, freshId, unique⟩ := bind_ok.mp (map_error_ok.mp unique)
  obtain ⟨_, freshDigest, _⟩ := bind_ok.mp unique
  refine stored third ?_ (Option.isNone_iff_eq_none.mp (require_ok.mp freshId)) ?_
  · exact Contract.rely_trans firstMoved (Contract.rely_trans
      (Contract.rely_subset (List.subset_cons_self _ _) secondMoved)
      (Contract.rely_subset (fun key member => by simp [member]) thirdMoved))
  · intro other member
    exact of_decide_eq_true (List.all_eq_true.mp (require_ok.mp freshDigest) other member)

/-- Rule for marking a token used. -/
theorem meets_markUsed {T : Instant} {id : Uuid}
    {after : Option RefreshToken → List SessionsKey → (SessionsDb → SessionsDb) → SessionsDb →
      Prop}
    (refused : ∀ error keys now, aborted (.database error) keys now)
    (unmatched : ∀ now keys, Rely held seen now → held ⊆ keys →
      (∀ token, (pending now).tokens.find id = some token → token.usedAt ≠ none) →
      after none keys pending now)
    (stored : ∀ now token used, Rely held seen now → (pending now).tokens.find id = some token →
      token.usedAt = none → used.toRefreshTokenIdentity = token.toRefreshTokenIdentity →
      used.usedAt ≠ none →
      after (some used) (.token id :: held) (fun db => (pending db).putToken used) now) :
    (markUsed T id).Meets Rely after aborted held pending seen := by
  unfold markUsed
  rw [Txn.meets_then]
  apply Contract.meets_select
  · intro now moved absent
    refine unmatched now held moved (List.Subset.refl held) ?_
    intro token found unused
    simp [found, unused] at absent
  · intro now moved
    cases selected : ((pending now).tokens.find id).filter fun row => row.usedAt.isNone with
    | none =>
        refine unmatched now _ moved (List.subset_cons_self _ _) ?_
        intro token found unused
        simp [found, unused] at selected
    | some token =>
        obtain ⟨found, unused⟩ := Option.filter_eq_some_iff.mp selected
        simp only [Txn.meets_then, Txn.meets_attempt, Txn.meets_save, Txn.meets_pure]
        refine ⟨fun used accepted => ?_, fun _ => database_refused refused⟩
        obtain ⟨same, spent, _⟩ := update_token_row_ok (map_error_ok.mp accepted)
        exact stored now token used moved found (Option.isNone_iff_eq_none.mp unused) same
          (by simp [spent])

/-- Rule for one row of an UPDATE that revokes families. -/
theorem meets_revokeFamily {T : Instant} {reason : RevocationReason}
    {matching : RefreshFamily → Bool} {id : Uuid}
    {after : Option RefreshFamily → List SessionsKey → (SessionsDb → SessionsDb) → SessionsDb →
      Prop}
    (lifetimes : ∀ now, Rely held seen now → ∀ family ∈ (pending now).families,
      family.createdAt < family.absoluteExpiresAt)
    (unmatched : ∀ now keys, Rely held seen now → held ⊆ keys →
      (∀ family, (pending now).families.find id = some family → matching family = true →
        family.revokedAt ≠ none) → after none keys pending now)
    (refused : ∀ now family error, Rely held seen now →
      (pending now).families.find id = some family → matching family = true →
      family.revokedAt = none → T < family.createdAt →
      aborted (.families error) (.family id :: held) now)
    (stored : ∀ now family, Rely held seen now → (pending now).families.find id = some family →
      matching family = true → family.revokedAt = none → family.createdAt ≤ T →
      after (some (family.revoked T reason)) (.family id :: held)
        (fun db => (pending db).putFamily (family.revoked T reason)) now) :
    (revokeFamily T reason matching id).Meets Rely after aborted held pending seen := by
  unfold revokeFamily
  rw [Txn.meets_then]
  apply Contract.meets_select
  · intro now moved absent
    refine unmatched now held moved (List.Subset.refl held) ?_
    intro family found matched unrevoked
    simp [found, matched, unrevoked] at absent
  · intro now moved
    cases selected : ((pending now).families.find id).filter
        fun row => matching row && row.revokedAt.isNone with
    | none =>
        refine unmatched now _ moved (List.subset_cons_self _ _) ?_
        intro family found matched unrevoked
        simp [found, matched, unrevoked] at selected
    | some family =>
        obtain ⟨found, chosen⟩ := Option.filter_eq_some_iff.mp selected
        simp only [Bool.and_eq_true, Option.isNone_iff_eq_none] at chosen
        have lifetime := lifetimes now moved family (KeyedTable.mem_of_find found)
        simp only [Txn.meets_then, Txn.meets_attempt, Txn.meets_save, Txn.meets_pure,
          revoke_family_row chosen.2 lifetime]
        split_ifs with dated
        · refine ⟨fun row accepted => ?_, fun _ failed => by cases failed⟩
          obtain rfl := Except.ok.inj (map_error_ok.mp accepted)
          exact stored now family moved found chosen.1 chosen.2 dated
        · refine ⟨fun row accepted => (by cases map_error_ok.mp accepted), fun _ failed => ?_⟩
          obtain ⟨error, _, rfl⟩ := map_error_error.mp failed
          exact refused now family error moved found chosen.1 chosen.2 (Nat.lt_of_not_le dated)

section RevokeAll

variable {T : Instant} {tenantId userId : Uuid} {base : SessionsDb → SessionsDb}

/-- A user's lock admits no family that was not there before. -/
theorem unrevoked_before (moved : Rely held seen now) (member : SessionsKey.user userId ∈ held)
    {family : RefreshFamily} (stored : family ∈ now.families)
    (belongs : belongsTo tenantId userId family = true) (unrevoked : family.revokedAt = none) :
    ∃ older ∈ seen.families, older.toRefreshFamilyIdentity = family.toRefreshFamilyIdentity ∧
      older.revokedAt = none := by
  have holder : family.userId = userId := by
    simp only [belongsTo, Bool.and_eq_true, decide_eq_true_eq] at belongs
    exact belongs.2
  obtain ⟨older, olderMember, same⟩ := (moved.2.2 _ member).2 family stored holder
  refine ⟨older, olderMember, same, ?_⟩
  by_contra revoked
  obtain ⟨later, laterMember, sameLater, kept⟩ := moved.2.1.families older olderMember
  have sameRow : later = family := KeyedTable.eq_of_key laterMember stored
    (congrArg RefreshFamilyIdentity.id (sameLater.trans same))
  rw [← sameRow, (kept revoked).1] at unrevoked
  exact revoked unrevoked

theorem belongs_identity {left right : RefreshFamily}
    (same : left.toRefreshFamilyIdentity = right.toRefreshFamilyIdentity) :
    belongsTo tenantId userId left = belongsTo tenantId userId right := by
  rw [belongsTo, belongsTo, congrArg RefreshFamilyIdentity.tenantId same,
    congrArg RefreshFamilyIdentity.userId same]

/-- Between two rows of the UPDATE: `found` is revoked, and what is still to be
revoked is among `rest`. -/
structure Revoking (T : Instant) (tenantId userId : Uuid) (base : SessionsDb → SessionsDb)
    (held : List SessionsKey) (seen : SessionsDb) (found rest : List RefreshFamily)
    (keys : List SessionsKey) (pending : SessionsDb → SessionsDb) (now : SessionsDb) : Prop where
  pending : pending = fun db => revoke found (base db)
  subset : held ⊆ keys
  moved : Rely held seen now
  revokes : Revokes keys now found
  dated : ∀ new ∈ found, new.createdAt ≤ T
  covered : ∀ family ∈ now.families, belongsTo tenantId userId family = true →
    family.revokedAt = none →
    (∃ new ∈ found, new.id = family.id) ∨ ∃ item ∈ rest, item.id = family.id

variable {found rest : List RefreshFamily}

theorem revoking_moves (userKey : SessionsKey.user userId ∈ held)
    (revoking : Revoking T tenantId userId base held seen found rest keys pending now)
    {later : SessionsDb} {more : List SessionsKey} (moved : Rely keys now later)
    (subset : keys ⊆ more) :
    Revoking T tenantId userId base held seen found rest more pending later where
  pending := revoking.pending
  subset := List.Subset.trans revoking.subset subset
  moved := Contract.rely_trans revoking.moved (Contract.rely_subset revoking.subset moved)
  revokes family member := by
    obtain ⟨familyKey, facts⟩ := revokes_moves revoking.revokes moved family member
    exact ⟨subset familyKey, facts⟩
  dated := revoking.dated
  covered family member belongs unrevoked := by
    obtain ⟨older, olderMember, same, olderUnrevoked⟩ :=
      unrevoked_before moved (revoking.subset userKey) member belongs unrevoked
    rw [← congrArg RefreshFamilyIdentity.id same]
    exact revoking.covered older olderMember (belongs_identity same ▸ belongs) olderUnrevoked

theorem revoking_families (sameFamilies : ∀ db, (base db).families = db.families)
    (revoking : Revoking T tenantId userId base held seen found rest keys pending now)
    (db : SessionsDb) : (pending db).families = (revoke found db).families := by
  rw [revoking.pending]
  simp only [revoke, sameFamilies]

/-- Rule for the UPDATE that revokes all families of a locked user. -/
theorem meets_revokeFamilies {reason : RevocationReason}
    {after : List RefreshFamily → List SessionsKey → (SessionsDb → SessionsDb) → SessionsDb →
      Prop}
    (sameFamilies : ∀ db, (base db).families = db.families)
    (userKey : SessionsKey.user userId ∈ held)
    (refused : ∀ now keys error family, SessionsKey.family family.id ∈ keys →
      family ∈ now.families → belongsTo tenantId userId family = true →
      family.revokedAt = none → T < family.createdAt → aborted (.families error) keys now)
    (stored : ∀ now keys found pending,
      Revoking T tenantId userId base held seen found [] keys pending now →
      after found keys pending now) :
    (revokeFamilies T tenantId userId reason).Meets Rely after aborted held base seen := by
  unfold revokeFamilies
  simp only [Txn.meets_then, Txn.meets_view]
  intro snapshot moved
  apply Txn.meets_forEach (Revoking T tenantId userId base held seen)
  · intro found item rest keys pending now revoking
    have families := revoking_families sameFamilies revoking
    apply meets_revokeFamily
    · intro later laterMoved family member
      have revokes := revokes_moves revoking.revokes laterMoved
      rw [families later] at member
      obtain ⟨old, oldMember, same⟩ := revoked_family revokes member
      rw [congrArg RefreshFamilyIdentity.createdAt same,
        congrArg RefreshFamilyIdentity.absoluteExpiresAt same]
      exact (laterMoved.1.lifetimes old oldMember).1
    · intro later more laterMoved subset absent
      have onward := revoking_moves userKey revoking laterMoved subset
      refine { onward with revokes := ?_, dated := ?_, pending := ?_, covered := ?_ }
      · simpa using onward.pending
      · simpa using onward.revokes
      · simpa using onward.dated
      · intro family member belongs unrevoked
        rcases onward.covered family member belongs unrevoked with done | ⟨other, waiting, same⟩
        · simpa using Or.inl done
        · rcases List.mem_cons.mp waiting with rfl | still
          · rcases KeyedTable.find_putAll later.families found other.id with ⟨_, present⟩ |
              ⟨new, newMember, newId, _⟩
            · rw [same, KeyedTable.find_key member] at present
              rw [families later] at absent
              exact absurd unrevoked (absent family (same ▸ present) belongs)
            · exact Or.inl ⟨new, by simpa using newMember, newId.trans same⟩
          · exact Or.inr ⟨other, still, same⟩
    · intro later family error laterMoved present belongs unrevoked late
      have member := KeyedTable.mem_of_find present
      rw [families later] at member
      have sameId := KeyedTable.key_of_find present
      rcases KeyedTable.mem_putAll member with ⟨kept, _⟩ | ⟨new, _⟩
      · exact refused later _ error family (by simp [sameId]) kept belongs unrevoked late
      · exact absurd unrevoked (revoking.revokes family new).2.1
    · intro later family laterMoved present belongs unrevoked inTime
      have onward := revoking_moves userKey revoking laterMoved
        (List.subset_cons_self (.family item.id) keys)
      have member := KeyedTable.mem_of_find present
      rw [families later] at member
      have sameId := KeyedTable.key_of_find present
      have kept : family ∈ later.families := by
        rcases KeyedTable.mem_putAll member with ⟨kept, _⟩ | ⟨new, _⟩
        · exact kept
        · exact absurd unrevoked (revoking.revokes family new).2.1
      refine { onward with revokes := ?_, dated := ?_, pending := ?_, covered := ?_ }
      · rw [onward.pending]
        funext db
        simp [revoke, SessionsDb.putFamily, KeyedTable.putAll_append]
      · intro new newMember
        rcases List.mem_append.mp newMember with old | last
        · exact onward.revokes new old
        · rw [Option.toList_some, List.mem_singleton] at last
          rw [last]
          exact ⟨by simp [RefreshFamily.revoked, sameId], by simp [RefreshFamily.revoked], family,
            kept, rfl, unrevoked⟩
      · intro new newMember
        rcases List.mem_append.mp newMember with old | last
        · exact onward.dated new old
        · rw [Option.toList_some, List.mem_singleton] at last
          rw [last]
          exact inTime
      · intro other otherMember otherBelongs otherUnrevoked
        rcases onward.covered other otherMember otherBelongs otherUnrevoked with
          ⟨new, newMember, same⟩ | ⟨waiting, waitingMember, same⟩
        · exact Or.inl ⟨new, List.mem_append_left _ newMember, same⟩
        · rcases List.mem_cons.mp waitingMember with rfl | still
          · refine Or.inl ⟨family.revoked T reason, by simp, ?_⟩
            exact sameId.trans same
          · exact Or.inr ⟨waiting, still, same⟩
  · intro found keys pending now revoking
    exact stored now keys found pending revoking
  · refine ⟨rfl, List.Subset.refl _, moved, ?_, ?_, ?_⟩
    · intro family member
      cases member
    · intro family member
      cases member
    · intro family member belongs unrevoked
      refine Or.inr ⟨family, ?_, rfl⟩
      rw [revocable, List.mem_filter, sameFamilies]
      exact ⟨member, by simp [belongs, unrevoked]⟩

theorem revokes_congr {db other : SessionsDb} {families : List RefreshFamily}
    (same : other.families = db.families) (revokes : Revokes held db families) :
    Revokes held other families := by
  intro family member
  rw [same]
  exact revokes family member

/-- At the end of the UPDATE all families of the user are revoked. -/
theorem revoking_all (sameFamilies : ∀ db, (base db).families = db.families)
    (revoking : Revoking T tenantId userId base held seen found [] keys pending now) :
    RevokesAll tenantId userId T now (pending now) where
  revoked family member belongs unrevoked := by
    rw [revoking_families sameFamilies revoking now] at member
    rcases KeyedTable.mem_putAll member with ⟨kept, others⟩ | ⟨new, _⟩
    · rcases revoking.covered family kept belongs unrevoked with ⟨new, newMember, same⟩ |
        ⟨_, absent, _⟩
      · exact others new newMember same
      · cases absent
    · exact (revoking.revokes family new).2.1 unrevoked
  dated family member belongs unrevoked := by
    rcases revoking.covered family member belongs unrevoked with ⟨new, newMember, same⟩ |
      ⟨_, absent, _⟩
    · obtain ⟨_, _, old, oldMember, sameOld, _⟩ := revoking.revokes new newMember
      have sameRow : old = family := KeyedTable.eq_of_key oldMember member (by
        rw [← congrArg RefreshFamilyIdentity.id sameOld, same])
      rw [← sameRow, ← congrArg RefreshFamilyIdentity.createdAt sameOld]
      exact revoking.dated new newMember
    · cases absent

theorem revoking_keeps (sameFamilies : ∀ db, (base db).families = db.families)
    (revoking : Revoking T tenantId userId base held seen found rest keys pending now)
    (keeps : Keeps keys now (base now)) : Keeps keys now (pending now) := by
  rw [revoking.pending]
  exact keeps_trans keeps (revoke_keeps keeps.consistent
    (revokes_congr (sameFamilies now) revoking.revokes))

/-- A family that is too late stays so under its lock. -/
theorem later_family_stays {family : RefreshFamily}
    (familyKey : SessionsKey.family family.id ∈ keys) (member : family ∈ seen.families)
    (belongs : belongsTo tenantId userId family = true) (unrevoked : family.revokedAt = none)
    (late : T < family.createdAt) (moved : Rely keys seen now) :
    LaterFamily tenantId userId T now := by
  have found := (rely_family moved familyKey).1.trans (KeyedTable.find_key member)
  exact ⟨family, KeyedTable.mem_of_find found, belongs, unrevoked, late⟩

end RevokeAll

end Statements

section SetPassword

variable {input : UserPasswordMutationInput} {write : SessionsDb → SessionsDb}

/-- What `writeCredential` writes, for the credential row that `seen` shows. -/
inductive CredentialWrite (input : UserPasswordMutationInput) (seen : SessionsDb) :
    (SessionsDb → SessionsDb) → Prop
  | updated (row old : Credential) (target : row.userId = input.targetUserId)
      (hash : row.passwordHash = input.passwordHash)
      (found : seen.credentials.find input.targetUserId = some old) :
      CredentialWrite input seen fun db => db.putCredential row
  | inserted (row : Credential) (target : row.userId = input.targetUserId)
      (hash : row.passwordHash = input.passwordHash)
      (absent : seen.credentials.find input.targetUserId = none) :
      CredentialWrite input seen fun db => db.insertCredential row

theorem credential_write_moves (written : CredentialWrite input seen write)
    (moved : Rely held seen now) (key : SessionsKey.credential input.targetUserId ∈ held) :
    CredentialWrite input now write := by
  cases written with
  | updated row old target hash found =>
      exact .updated row old target hash ((rely_credential moved key).trans found)
  | inserted row target hash absent =>
      exact .inserted row target hash ((rely_credential moved key).trans absent)

theorem credential_write_families (written : CredentialWrite input seen write) (db : SessionsDb) :
    (write db).families = db.families := by
  cases written <;> rfl

theorem credential_write_keeps (written : CredentialWrite input now write)
    (consistent : Consistent now) (key : SessionsKey.credential input.targetUserId ∈ held) :
    Keeps held now (write now) := by
  cases written with
  | updated row old target hash found =>
      refine credentials_keep consistent fun userId free => ?_
      have different : row.userId ≠ userId := fun same => free (same ▸ target ▸ key)
      simp [different]
  | inserted row target hash absent =>
      refine credentials_keep consistent fun userId free => ?_
      have different : row.userId ≠ userId := fun same => free (same ▸ target ▸ key)
      simp [different]

theorem credential_write_stores (written : CredentialWrite input now write) :
    StoresHash input now (write now) := by
  cases written with
  | updated row old target hash found =>
      have oldId := KeyedTable.key_of_find found
      constructor
      · exact ⟨row, KeyedTable.mem_put.mpr (Or.inl ⟨rfl, old, KeyedTable.mem_of_find found,
          oldId.trans target.symm⟩), target, hash⟩
      · intro other member
        rcases KeyedTable.mem_put.mp member with ⟨rfl, _⟩ | ⟨kept, _⟩
        · exact Or.inr ⟨target, hash⟩
        · exact Or.inl kept
  | inserted row target hash absent =>
      have fresh : now.credentials.find row.userId = none := by rw [target]; exact absent
      constructor
      · exact ⟨row, (KeyedTable.mem_insert fresh).mpr (Or.inr rfl), target, hash⟩
      · intro other member
        rcases (KeyedTable.mem_insert fresh).mp member with kept | rfl
        · exact Or.inl kept
        · exact Or.inr ⟨target, hash⟩

theorem stores_hash_congr {before after later : SessionsDb}
    (stores : StoresHash input before after) (same : later.credentials = after.credentials) :
    StoresHash input before later :=
  ⟨same ▸ stores.stored, same ▸ stores.others⟩

/-- Rule for the UPDATE or INSERT of the credential. -/
theorem meets_writeCredential {T : Instant} {existed : Bool}
    {ended : Unit → List SessionsKey → (SessionsDb → SessionsDb) → SessionsDb → Prop}
    (unavailable : ∀ keys now, aborted .unavailable keys now)
    (refused : ∀ error keys now, aborted (.database error) keys now)
    (stored : ∀ now keys write, Rely held seen now → held ⊆ keys →
      .credential input.targetUserId ∈ keys → CredentialWrite input now write →
      ended () keys write now) :
    (writeCredential input T existed).Meets Rely ended aborted held (fun db => db) seen := by
  unfold writeCredential
  split_ifs with found
  · rw [Txn.meets_then]
    apply Contract.meets_select
    · intro now _ _
      exact unavailable _ now
    · intro now moved
      cases current : now.findCredential input.tenantId input.targetUserId with
      | none => exact unavailable _ now
      | some old =>
          have oldFound := (Option.filter_eq_some_iff.mp current).1
          simp only [Txn.meets_then, Txn.meets_attempt, Txn.meets_save]
          refine ⟨fun row accepted => ?_, fun _ => database_refused refused⟩
          obtain ⟨sameUser, _, hash⟩ := update_credential_row_ok (map_error_ok.mp accepted)
          exact stored now _ _ moved (List.subset_cons_self _ _) List.mem_cons_self
            (.updated row old (sameUser.trans (KeyedTable.key_of_find oldFound)) hash oldFound)
  · simp only [Txn.meets_then, Txn.meets_attempt, Txn.meets_lockRow, Txn.meets_view,
      Txn.meets_save]
    refine ⟨fun _ _ => ?_, fun _ => database_refused refused⟩
    intro first firstMoved second secondMoved
    refine ⟨fun _ absent => ?_, fun _ => database_refused refused⟩
    refine ⟨fun _ _ => ?_, fun _ => database_refused refused⟩
    refine ⟨fun _ _ => ?_, fun _ => database_refused refused⟩
    exact stored second _ _ (Contract.rely_trans firstMoved
        (Contract.rely_subset (List.subset_cons_self _ _) secondMoved))
      (List.subset_cons_self _ _) List.mem_cons_self
      (.inserted _ rfl rfl (Option.isNone_iff_eq_none.mp (require_ok.mp (map_error_ok.mp absent))))

/-- What `passwordTransaction` does once it holds the user. -/
theorem password_writes_meet {existed : Bool}
    (userKey : SessionsKey.user input.targetUserId ∈ held) :
    (do
      writeCredential input begun.clock existed
      let revoked ← revokeFamilies begun.clock input.tenantId input.targetUserId .passwordReset
      return .passwordSet revoked.length : SessionsTxn SessionsValue).Meets Rely
      (sessionsContract.Committable (.setPassword input) begun)
      (sessionsContract.Abortable (.setPassword input) begun) held (fun db => db) seen := by
  rw [Txn.meets_then]
  apply meets_writeCredential
  · exact fun _ _ _ _ => trivial
  · exact fun _ _ _ _ _ => trivial
  · intro first firstKeys write moved subset credentialKey written
    have sameFamilies := credential_write_families written
    rw [Txn.meets_then]
    apply meets_revokeFamilies sameFamilies (subset userKey)
    · intro now keys error family familyKey member belongs unrevoked late later laterMoved
      exact later_family_stays familyKey member belongs unrevoked late laterMoved
    · intro now keys found pending revoking
      have settled : ∀ later, Rely keys now later → CredentialWrite input later write ∧
          Revoking begun.clock input.tenantId input.targetUserId write firstKeys first found []
            keys pending later := by
        intro later laterMoved
        have onward := revoking_moves (subset userKey) revoking laterMoved (List.Subset.refl keys)
        exact ⟨credential_write_moves written onward.moved credentialKey, onward⟩
      refine committable ?_ ?_
      · intro later laterMoved
        obtain ⟨writtenLater, onward⟩ := settled later laterMoved
        exact revoking_keeps sameFamilies onward (credential_write_keeps writtenLater laterMoved.1
          (revoking.subset credentialKey))
      · intro later laterMoved
        obtain ⟨writtenLater, onward⟩ := settled later laterMoved
        refine ⟨stores_hash_congr (credential_write_stores writtenLater) ?_,
          revoking_all sameFamilies onward⟩
        rw [onward.pending]
        rfl

theorem setPassword_meets (runtime : SessionRuntime) (input : UserPasswordMutationInput)
    (begun : SessionsDb) :
    (sessionsProgram runtime (.setPassword input) begun).Meets Rely
      (sessionsContract.Committable (.setPassword input) begun)
      (sessionsContract.Abortable (.setPassword input) begun) [] (fun db => db) begun := by
  simp only [sessionsProgram, setPassword, lockTenant, lockUser, lockCredential, Txn.meets_then]
  apply Contract.meets_select
  · exact fun _ _ _ _ _ => trivial
  · intro now _
    cases now.tenants input.tenantId with
    | none => exact fun _ _ => trivial
    | some tenant =>
        simp only [Txn.meets_then]
        apply Contract.meets_select
        · exact fun _ _ _ _ _ => trivial
        · intro now _
          cases now.findUser input.tenantId input.targetUserId with
          | none => exact fun _ _ => trivial
          | some user =>
              rw [Txn.meets_then, Txn.meets_lockRow]
              intro now _
              rw [Txn.meets_then]
              apply Contract.meets_select
              · exact fun _ _ _ => password_writes_meet (by simp)
              · exact fun _ _ => password_writes_meet (by simp)

end SetPassword

section Users

variable {input : UserPatchInput} {locale : DbLocale}

theorem find_user_some {db : SessionsDb} {tenantId id : Uuid} {row : User}
    (found : db.findUser tenantId id = some row) :
    db.users.find id = some row ∧ row.id = id ∧ row.tenantId = tenantId := by
  obtain ⟨stored, tenant⟩ := Option.filter_eq_some_iff.mp found
  exact ⟨stored, KeyedTable.key_of_find stored, of_decide_eq_true tenant⟩

/-- Rule for the UPDATE of one user. -/
theorem meets_updateUser {T : Instant} {tenantId userId : Uuid} {changes : UserPatchChanges}
    {ended : User → List SessionsKey → (SessionsDb → SessionsDb) → SessionsDb → Prop}
    (failed : ∀ message keys now, aborted (.failure message) keys now)
    (refused : ∀ error keys now, aborted (.database error) keys now)
    (stored : ∀ now later old row, Rely held seen now →
      (pending now).findUser tenantId userId = some old →
      Rely (.user userId :: held) now later → row = { changes.apply old with updatedAt := T } →
      ended row (.user userId :: held) (fun db => (pending db).putUser row) later) :
    (updateUser locale T tenantId userId changes).Meets Rely ended aborted held pending seen := by
  unfold updateUser
  split_ifs with empty
  · exact failed _ _ _
  · rw [Txn.meets_then]
    apply Contract.meets_select
    · exact fun _ _ _ => failed _ _ _
    · intro now moved
      cases found : (pending now).findUser tenantId userId with
      | none => exact failed _ _ _
      | some old =>
          simp only [Txn.meets_then, Txn.meets_attempt, Txn.meets_view, Txn.meets_save,
            Txn.meets_pure]
          refine ⟨fun row accepted later laterMoved => ?_, fun _ => database_refused refused⟩
          refine ⟨fun _ _ => ?_, fun _ => database_refused refused⟩
          exact stored now later old row moved found laterMoved
            (update_user_row_ok (map_error_ok.mp accepted))

/-- A refused patch changes nothing. -/
theorem unpatched_committable {result : UserPatchResult}
    (refusal : ∀ user, result ≠ .updated user) :
    sessionsContract.Committable (.patchUser input) begun (.patched result) held (fun db => db)
      seen :=
  unchanged_committable fun _ _ => ⟨rfl, fun user updated =>
    absurd (SessionsValue.patched.inj updated) (refusal user)⟩

/-- What `patchLocked` does once it has decided to write. -/
theorem patch_writes_meet {current row : User}
    (found : seen.findUser input.tenantId input.userId = some current)
    (sameId : row.id = current.id) (sameTenant : row.tenantId = current.tenantId)
    (userKey : SessionsKey.user input.userId ∈ held)
    (tenantKey : SessionsKey.tenant input.tenantId ∈ held) :
    (match familyRevocationReason current input.changes with
      | none => return .patched (.updated row)
      | some reason => do
          let _ ← revokeFamilies begun.clock input.tenantId input.userId reason
          return .patched (.updated row) : SessionsTxn SessionsValue).Meets Rely
      (sessionsContract.Committable (.patchUser input) begun)
      (sessionsContract.Abortable (.patchUser input) begun) held (fun db => db.putUser row)
      seen := by
  obtain ⟨stored, currentId, currentTenant⟩ := find_user_some found
  have standing : ∀ now, Rely held seen now → now.users.find input.userId = some current :=
    fun now moved => (rely_user moved userKey).trans stored
  have keeps : ∀ now keys, Rely held seen now → held ⊆ keys →
      Keeps keys now (now.putUser row) := by
    intro now keys moved subset
    refine put_user_keeps moved.1 (KeyedTable.mem_of_find (standing now moved)) sameId sameTenant
      (subset ?_) (subset ?_)
    · rw [sameId, currentId]
      exact userKey
    · rw [sameTenant, currentTenant]
      exact tenantKey
  cases decided : familyRevocationReason current input.changes with
  | none =>
      refine committable (fun now moved => keeps now held moved (List.Subset.refl held)) ?_
      intro now moved
      refine ⟨rfl, fun _ _ other member sameUser revoking => ?_⟩
      have present := standing now moved
      rw [← sameUser, KeyedTable.find_key member] at present
      rw [Option.some.inj present] at revoking
      exact absurd decided revoking
  | some reason =>
      have sameFamilies : ∀ db : SessionsDb, (db.putUser row).families = db.families :=
        fun _ => rfl
      rw [Txn.meets_then]
      apply meets_revokeFamilies sameFamilies userKey
      · intro now keys error family familyKey member belongs unrevoked late later laterMoved
        exact later_family_stays familyKey member belongs unrevoked late laterMoved
      · intro now keys found pending revoking
        have onward := fun later (laterMoved : Rely keys now later) =>
          revoking_moves userKey revoking laterMoved (List.Subset.refl keys)
        refine committable ?_ ?_
        · intro later laterMoved
          exact revoking_keeps sameFamilies (onward later laterMoved)
            (keeps later keys (onward later laterMoved).moved revoking.subset)
        · intro later laterMoved
          refine ⟨?_, fun _ _ _ _ _ _ => revoking_all sameFamilies (onward later laterMoved)⟩
          rw [revoking.pending]
          rfl

theorem patchUser_meets (runtime : SessionRuntime) (input : UserPatchInput)
    (begun : SessionsDb) :
    (sessionsProgram runtime (.patchUser input) begun).Meets Rely
      (sessionsContract.Committable (.patchUser input) begun)
      (sessionsContract.Abortable (.patchUser input) begun) [] (fun db => db) begun := by
  simp only [sessionsProgram, patchUser, withTenantTransaction, lockTenant, Txn.meets_then]
  apply Contract.meets_select
  · exact fun _ _ _ _ _ => trivial
  · intro now _
    cases now.tenants input.tenantId with
    | none => exact fun _ _ => trivial
    | some tenant =>
        simp only [patchLocked, lockUser, Txn.meets_then]
        apply Contract.meets_select
        · exact fun _ _ _ => unpatched_committable (by simp)
        · intro now _
          cases found : now.findUser input.tenantId input.userId with
          | none => exact unpatched_committable (by simp)
          | some current =>
              dsimp only
              split_ifs with changed
              · exact unpatched_committable (by simp)
              · rw [Txn.meets_then, Txn.meets_view]
                intro first firstMoved
                split_ifs with last
                · exact unpatched_committable (by simp)
                · rw [Txn.meets_then]
                  apply meets_updateUser
                  · exact fun _ _ _ _ _ => trivial
                  · exact fun _ _ _ _ _ => trivial
                  · intro second third old row secondMoved again thirdMoved written
                    have before : Rely _ now second := Contract.rely_trans firstMoved secondMoved
                    have sameOld : old = current := by
                      rw [SessionsDb.findUser, rely_user before (by simp)] at again
                      exact Option.some.inj (again.symm.trans found)
                    subst sameOld
                    refine patch_writes_meet ?_ (by rw [written]; rfl) (by rw [written]; rfl) ?_ ?_
                    · rw [SessionsDb.findUser, rely_user thirdMoved (by simp)]
                      exact again
                    · simp
                    · simp

theorem createUser_meets (runtime : SessionRuntime) (id tenantId : Uuid)
    (input : UserCreateInput) (begun : SessionsDb) :
    (sessionsProgram runtime (.createUser id tenantId input) begun).Meets Rely
      (sessionsContract.Committable (.createUser id tenantId input) begun)
      (sessionsContract.Abortable (.createUser id tenantId input) begun) [] (fun db => db)
      begun := by
  have refused : ∀ error keys now,
      sessionsContract.Abortable (.createUser id tenantId input) begun (.database error) keys now :=
    fun _ _ _ _ _ => trivial
  simp only [sessionsProgram, createUser, withTenantTransaction, lockTenant, Txn.meets_then]
  apply Contract.meets_select
  · exact fun _ _ _ _ _ => trivial
  · intro now _
    cases now.tenants tenantId with
    | none => exact fun _ _ => trivial
    | some tenant =>
        simp only [Txn.meets_then, Txn.meets_attempt, Txn.meets_lockRow, Txn.meets_view,
          Txn.meets_save, Txn.meets_pure]
        refine ⟨fun row accepted => ?_, fun _ => database_refused refused⟩
        have written := insert_user_row_ok (map_error_ok.mp accepted)
        have rowTenant : row.tenantId = tenantId := by rw [written]
        intro first _ second _
        refine ⟨fun _ absent => ?_, fun _ => database_refused refused⟩
        refine ⟨fun _ _ => ?_, fun _ => database_refused refused⟩
        refine ⟨fun _ _ => ?_, fun _ => database_refused refused⟩
        have fresh := Option.isNone_iff_eq_none.mp (require_ok.mp (map_error_ok.mp absent))
        refine committable (fun later moved => ?_) fun _ _ => rfl
        refine insert_user_keeps moved.1 ?_ (by simp) (by simp [rowTenant])
        exact (rely_user moved (by simp)).trans fresh

end Users

section Login

variable {login : LoginRequest}

/-- Rule for `lockLoginProof`. -/
theorem meets_lockLoginProof {tenantId : Uuid} {email : String}
    {after : Option LoginProof → List SessionsKey → (SessionsDb → SessionsDb) → SessionsDb → Prop}
    (missing : ∀ now keys, after none keys (fun db => db) now)
    (locked : ∀ now keys proof, Rely held seen now → .user proof.id ∈ keys →
      (∀ hash, proof.passwordHash = some hash → .credential proof.id ∈ keys ∧
        ∃ row, now.credentials.find proof.id = some row ∧ row.passwordHash = hash) →
      after (some proof) keys (fun db => db) now) :
    (lockLoginProof tenantId email).Meets Rely after aborted held (fun db => db) seen := by
  -- what follows the tenant's row, whatever was read of it
  have withTenant : ∃ onward, lockLoginProof tenantId email = lockTenant tenantId >>= onward ∧
      ∀ now keys tenant, Rely held seen now → held ⊆ keys →
        (onward tenant).Meets Rely after aborted keys (fun db => db) now := by
    refine ⟨_, rfl, ?_⟩
    intro now keys tenant moved subset
    rw [Txn.meets_then]
    apply meets_lockUserByEmail
    · intro later more _ _
      cases tenant with
      | none => exact missing _ _
      | some active => exact missing _ _
    · intro later user laterMoved found
      cases tenant with
      | none => exact missing _ _
      | some active =>
          have laterSeen := Contract.rely_trans moved (Contract.rely_subset subset laterMoved)
          dsimp only
          rw [Txn.meets_then]
          apply Contract.meets_select
          · intro last lastMoved _
            refine locked last _ _ (Contract.rely_trans laterSeen (Contract.rely_subset ?_ lastMoved))
              (by simp) ?_
            · exact List.Subset.trans subset (List.subset_cons_self _ _)
            · intro hash absent
              cases absent
          · intro last lastMoved
            refine locked last _ _ (Contract.rely_trans laterSeen (Contract.rely_subset ?_ lastMoved))
              (by simp) ?_
            · exact List.Subset.trans subset (List.subset_cons_self _ _)
            · intro hash present
              obtain ⟨row, stored, same⟩ := Option.map_eq_some_iff.mp present
              exact ⟨by simp, row, (Option.filter_eq_some_iff.mp stored).1, same⟩
  obtain ⟨onward, program, withTenant⟩ := withTenant
  rw [program, Txn.meets_then]
  apply Contract.meets_select
  · intro now moved _
    exact withTenant now held none moved (List.Subset.refl held)
  · intro now moved
    exact withTenant now _ _ moved (List.subset_cons_self _ _)

/-- A login that opens no family may end. -/
theorem unissued_committable :
    sessionsContract.Committable (.login login) begun value held (fun db => db) seen :=
  unchanged_committable fun _ _ => ⟨rfl, Or.inl ⟨rfl, rfl⟩⟩

theorem insertSession_meets {runtime : SessionRuntime} {proof : LoginProof} {T : Instant}
    {row : Credential} (began : T ≤ seen.clock) (userKey : SessionsKey.user proof.id ∈ held)
    (credentialKey : SessionsKey.credential proof.id ∈ held)
    (stored : seen.credentials.find proof.id = some row)
    (verified : verifiedHash login begun = some row.passwordHash) :
    (do return .issued (← insertSession runtime login proof T) : SessionsTxn SessionsValue).Meets
      Rely (sessionsContract.Committable (.login login) begun)
      (sessionsContract.Abortable (.login login) begun) held (fun db => db) seen := by
  have refused : ∀ error keys now,
      sessionsContract.Abortable (.login login) begun (.database error) keys now :=
    fun _ _ _ _ _ => trivial
  simp only [insertSession, Txn.meets_then]
  apply meets_insertFamily refused
  intro first firstMoved lifetime freshFamily tenant holder
  apply meets_insertToken refused
  intro second secondMoved freshId freshDigest
  simp only [Txn.meets_pure]
  have opens : Opens (.digest login.tokenDigest :: .token login.tokenId ::
      .family login.familyId :: held) second (login.family proof.id T) (login.token T) :=
    { insertable :=
        { freshId := freshId
          freshDigest := freshDigest
          unused := rfl
          tokenKey := by simp [LoginRequest.token]
          digestKey := by simp [LoginRequest.token]
          familyKey := by simp [LoginRequest.token] }
      freshFamily := (rely_family secondMoved List.mem_cons_self).1.trans freshFamily
      userKey := by simp [LoginRequest.family, userKey]
      root := rfl
      sameFamily := rfl
      sameTenant := rfl
      expiry := Nat.add_le_add_left (Nat.mul_le_mul_right day (by decide)) T
      lifetime := ⟨lifetime, began.trans (firstMoved.2.1.clock.trans secondMoved.2.1.clock)⟩
      holder := by
        have sameUser : second.users.find (login.family proof.id T).userId =
            first.users.find (login.family proof.id T).userId :=
          rely_user secondMoved (List.mem_cons_of_mem _ userKey)
        refine ⟨secondMoved.2.1.tenants _ tenant, ?_⟩
        rw [SessionsDb.findUser, sameUser]
        exact holder }
  refine committable (fun later moved => opened_keeps moved.1 (opens_moves opens moved)) ?_
  intro later moved
  have found : later.credentials.find proof.id = some row := calc
    later.credentials.find proof.id = second.credentials.find proof.id :=
      rely_credential moved (by simp [credentialKey])
    _ = first.credentials.find proof.id := rely_credential secondMoved (by simp [credentialKey])
    _ = seen.credentials.find proof.id := rely_credential firstMoved credentialKey
    _ = some row := stored
  exact ⟨rfl, Or.inr ⟨row, KeyedTable.mem_of_find found, verified⟩⟩

theorem loginTransaction_meets {runtime : SessionRuntime} {expected : String}
    (verified : verifiedHash login begun = some expected) :
    (loginTransaction runtime login expected).Meets Rely
      (sessionsContract.Committable (.login login) begun)
      (sessionsContract.Abortable (.login login) begun) [] (fun db => db) begun := by
  simp only [loginTransaction, Txn.meets_then, Txn.meets_view]
  intro start _
  apply meets_lockLoginProof
  · exact fun _ _ => unissued_committable
  · intro now keys proof moved userKey proven
    dsimp only
    split_ifs with mismatch tenant user
    · exact unissued_committable
    · obtain ⟨credentialKey, row, stored, hash⟩ := proven expected (not_not.mp mismatch)
      exact insertSession_meets moved.2.1.clock userKey credentialKey stored (hash ▸ verified)
    · exact unissued_committable
    · exact unissued_committable

theorem login_meets (runtime : SessionRuntime) (login : LoginRequest) (begun : SessionsDb) :
    (sessionsProgram runtime (.login login) begun).Meets Rely
      (sessionsContract.Committable (.login login) begun)
      (sessionsContract.Abortable (.login login) begun) [] (fun db => db) begun := by
  simp only [sessionsProgram, SessionTransactions.login]
  split
  case h_1 => exact fun _ _ => trivial
  case h_2 checked _ =>
    cases verified : verifiedHash login begun with
    | none => exact unissued_committable
    | some expected =>
        dsimp only
        split_ifs with unproven
        · exact unissued_committable
        · exact loginTransaction_meets verified

end Login

section Refresh

/-- A token's digest leads to its family. -/
theorem find_family_id_of_token {db : SessionsDb} (consistent : Consistent db)
    {token : RefreshToken} (member : token ∈ db.tokens) :
    db.findFamilyId token.tokenDigest = some token.familyId := by
  have only : db.tokens.rows.filter (fun row => row.tokenDigest = token.tokenDigest) = [token] := by
    refine KeyedTable.filter_unique member (by simp) fun other stored same => ?_
    exact consistent.digests other stored token member (of_decide_eq_true same)
  rw [SessionsDb.findFamilyId, only]

theorem token_of_find_family_id {db : SessionsDb} {digest : Digest} {familyId : Uuid}
    (located : db.findFamilyId digest = some familyId) :
    ∃ token ∈ db.tokens, token.tokenDigest = digest ∧ token.familyId = familyId := by
  unfold SessionsDb.findFamilyId at located
  split at located
  case h_1 token only =>
    have member : token ∈ db.tokens.rows.filter fun row => row.tokenDigest = digest := by
      rw [only]
      exact List.mem_singleton_self token
    obtain ⟨stored, same⟩ := List.mem_filter.mp member
    exact ⟨token, stored, of_decide_eq_true same, Option.some.inj located⟩
  case h_2 => cases located

theorem presented_token_some {db : SessionsDb} {familyId : Uuid} {digest : Digest}
    {family : RefreshFamily} {token : RefreshToken}
    (found : presentedToken db familyId digest = some (family, token)) :
    db.families.find familyId = some family ∧ token ∈ db.tokens ∧ token.familyId = familyId ∧
      token.tenantId = family.tenantId ∧ token.tokenDigest = digest := by
  unfold presentedToken at found
  obtain ⟨owner, stored, found⟩ := Option.bind_eq_some_iff.mp found
  split at found
  case h_1 row only =>
    obtain ⟨rfl, rfl⟩ := Prod.mk.inj (Option.some.inj found)
    have member : row ∈ db.tokens.rows.filter fun other => other.familyId = owner.id &&
        other.tenantId = owner.tenantId && other.tokenDigest = digest := by
      rw [only]
      exact List.mem_singleton_self row
    obtain ⟨tokenStored, same⟩ := List.mem_filter.mp member
    simp only [Bool.and_eq_true, decide_eq_true_eq] at same
    have ownerId := KeyedTable.key_of_find stored
    exact ⟨stored, tokenStored, same.1.1.trans ownerId, same.1.2, same.2⟩
  case h_2 => cases found

theorem presented_token_of_member {db : SessionsDb} (consistent : Consistent db)
    {token : RefreshToken} (member : token ∈ db.tokens) :
    ∃ family ∈ db.families, presentedToken db token.familyId token.tokenDigest =
      some (family, token) := by
  obtain ⟨family, stored, sameId, sameTenant, _⟩ := consistent.owned token member
  refine ⟨family, stored, ?_⟩
  have only : db.tokens.rows.filter (fun row => row.familyId = family.id &&
      row.tenantId = family.tenantId && row.tokenDigest = token.tokenDigest) = [token] := by
    refine KeyedTable.filter_unique member (by simp [sameId, sameTenant]) fun other otherStored same => ?_
    simp only [Bool.and_eq_true, decide_eq_true_eq] at same
    exact consistent.digests other otherStored token member same.2
  have found : db.families.find token.familyId = some family := by
    rw [← sameId]
    exact KeyedTable.find_key stored
  simp only [presentedToken, found, Option.bind_eq_bind, Option.bind_some, only]

/-- What `readRefresh` shows of the family and the token. -/
theorem read_refresh_some {db : SessionsDb} {T : Instant} {familyId : Uuid} {digest : Digest}
    {row : RefreshRow} (reading : readRefresh db T familyId digest = some row) :
    ∃ family token, presentedToken db familyId digest = some (family, token) ∧
      row.tokenId = token.id ∧ row.familyId = familyId ∧ row.tenantId = family.tenantId ∧
      row.csrfDigest = token.csrfDigest ∧ row.used = token.usedAt.isSome ∧
      row.revoked = family.revokedAt.isSome ∧
      row.absoluteExpiresAt = family.absoluteExpiresAt := by
  unfold readRefresh at reading
  obtain ⟨⟨family, token⟩, found, reading⟩ := Option.bind_eq_some_iff.mp reading
  obtain ⟨_, _, reading⟩ := Option.bind_eq_some_iff.mp reading
  obtain ⟨_, _, reading⟩ := Option.bind_eq_some_iff.mp reading
  obtain rfl := Option.some.inj reading
  have familyId' := KeyedTable.key_of_find (presented_token_some found).1
  exact ⟨family, token, found, rfl, familyId', rfl, rfl, rfl, rfl, rfl⟩

theorem read_refresh_of_member {db : SessionsDb} (consistent : Consistent db) (T : Instant)
    {token : RefreshToken} (member : token ∈ db.tokens) :
    readRefresh db T token.familyId token.tokenDigest ≠ none := by
  obtain ⟨family, stored, found⟩ := presented_token_of_member consistent member
  obtain ⟨tenant, holder⟩ := consistent.holders family stored
  obtain ⟨user, userFound⟩ := Option.isSome_iff_exists.mp holder
  obtain ⟨active, tenantFound⟩ := Option.isSome_iff_exists.mp tenant
  simp [readRefresh, found, userFound, tenantFound]

variable {T : Instant} {reason : RevocationReason} {family : RefreshFamily} {familyId : Uuid}

/-- Rule for revoking a family that is held, unrevoked and not too late. -/
theorem meets_revokeLocked
    {after : Option RefreshFamily → List SessionsKey → (SessionsDb → SessionsDb) → SessionsDb →
      Prop}
    (familyKey : SessionsKey.family familyId ∈ held)
    (found : seen.families.find familyId = some family) (unrevoked : family.revokedAt = none)
    (dated : family.createdAt ≤ T)
    (stored : ∀ now, Rely held seen now →
      after (some (family.revoked T reason)) (.family familyId :: held)
        (fun db => db.putFamily (family.revoked T reason)) now) :
    (revokeFamily T reason (fun _ => true) familyId).Meets Rely after aborted held
      (fun db => db) seen := by
  have standing : ∀ now, Rely held seen now → now.families.find familyId = some family :=
    fun now moved => (rely_family moved familyKey).1.trans found
  apply meets_revokeFamily
  · exact fun now moved other member => (moved.1.lifetimes other member).1
  · intro now keys moved _ revoked
    exact absurd unrevoked (revoked family (standing now moved) rfl)
  · intro now other error moved present _ _ late
    rw [standing now moved] at present
    obtain rfl := Option.some.inj present
    exact absurd dated (Nat.not_le_of_lt late)
  · intro now other moved present _ _ _
    rw [standing now moved] at present
    obtain rfl := Option.some.inj present
    exact stored now moved

theorem revoked_committable (familyKey : SessionsKey.family familyId ∈ held)
    (found : seen.families.find familyId = some family) (unrevoked : family.revokedAt = none)
    (promised : ∀ now, Rely held seen now → now.families.find familyId = some family →
      Promised request begun value now (now.putFamily (family.revoked T reason))) :
    sessionsContract.Committable request begun value held
      (fun db => db.putFamily (family.revoked T reason)) seen := by
  have standing : ∀ now, Rely held seen now → now.families.find familyId = some family :=
    fun now moved => (rely_family moved familyKey).1.trans found
  refine committable ?_ fun now moved => promised now moved (standing now moved)
  intro now moved
  have present := standing now moved
  have sameId := KeyedTable.key_of_find present
  have revokes : Revokes held now [family.revoked T reason] := by
    intro row member
    rw [List.mem_singleton.mp member]
    exact ⟨by simp [RefreshFamily.revoked, sameId, familyKey], by simp [RefreshFamily.revoked],
      family, KeyedTable.mem_of_find present, rfl, unrevoked⟩
  exact revoke_keeps moved.1 revokes

/-- A located family stays, and was created before it was located. -/
theorem located_family {digest : Digest} (consistent : Consistent begun)
    (located : begun.findFamilyId digest = some familyId) (evolved : Evolves begun now) :
    ∃ family, now.families.find familyId = some family ∧ family.createdAt ≤ begun.clock := by
  obtain ⟨token, member, _, tokenFamily⟩ := token_of_find_family_id located
  obtain ⟨owner, ownerMember, ownerId, _⟩ := consistent.owned token member
  obtain ⟨later, laterMember, same, _⟩ := evolved.families owner ownerMember
  have laterId : later.id = familyId :=
    (congrArg RefreshFamilyIdentity.id same).trans (ownerId.trans tokenFamily)
  refine ⟨later, KeyedTable.find_eq_some.mpr ⟨laterMember, laterId⟩, ?_⟩
  rw [congrArg RefreshFamilyIdentity.createdAt same]
  exact (consistent.lifetimes owner ownerMember).2

theorem located_dated {digest : Digest} (consistent : Consistent begun)
    (located : begun.findFamilyId digest = some familyId) (evolved : Evolves begun now)
    (found : now.families.find familyId = some family) : family.createdAt ≤ begun.clock := by
  obtain ⟨other, otherFound, dated⟩ := located_family consistent located evolved
  rw [found] at otherFound
  rw [Option.some.inj otherFound]
  exact dated

theorem logout_meets (runtime : SessionRuntime) (input : LogoutInput) (begun : SessionsDb)
    (consistent : Consistent begun) :
    (sessionsProgram runtime (.logout input) begun).Meets Rely
      (sessionsContract.Committable (.logout input) begun)
      (sessionsContract.Abortable (.logout input) begun) [] (fun db => db) begun := by
  simp only [sessionsProgram, logout]
  cases located : begun.findFamilyId input.presentedDigest with
  | none => exact unchanged_committable fun _ _ => rfl
  | some familyId =>
      simp only [Txn.meets_then, Txn.meets_view]
      intro start startMoved
      apply Contract.meets_select
      · exact fun _ _ _ => unchanged_committable fun _ _ => rfl
      · intro first firstMoved
        cases first.families.find familyId with
        | none => exact unchanged_committable fun _ _ => rfl
        | some owner =>
            simp only [Txn.meets_then, Txn.meets_view]
            intro second secondMoved
            cases presented : presentedToken second familyId input.presentedDigest with
            | none => exact unchanged_committable fun _ _ => rfl
            | some found =>
                obtain ⟨family, token⟩ := found
                have stored := (presented_token_some presented).1
                have evolved : Evolves begun second := evolves_trans _ _ _
                  (evolves_trans _ _ _ startMoved.2.1 firstMoved.2.1) secondMoved.2.1
                have dated := (located_dated consistent located evolved stored).trans
                  startMoved.2.1.clock
                dsimp only
                split_ifs with csrf revoked
                · exact unchanged_committable fun _ _ => rfl
                · exact unchanged_committable fun _ _ => rfl
                · have unrevoked : family.revokedAt = none := by simpa using revoked
                  rw [Txn.meets_then]
                  apply meets_revokeLocked List.mem_cons_self stored unrevoked dated
                  intro now moved
                  have found := (rely_family moved List.mem_cons_self).1.trans stored
                  exact revoked_committable List.mem_cons_self found unrevoked fun _ _ _ => rfl

section Rotation

variable {runtime : SessionRuntime} {input : RefreshRotateInput}

/-- Where no used token was presented, nothing is promised about reuse. -/
theorem reuse_vacuous {db : SessionsDb}
    (never : ∀ token ∈ begun.tokens, token.tokenDigest = input.presentedDigest →
      token.csrfDigest = input.presentedCsrfDigest → ¬ token.usedAt ≠ none) :
    ReuseRevokes input begun db :=
  fun token member digest csrf used => absurd used (never token member digest csrf)

/-- A refresh that writes nothing may end when no used token was presented. -/
theorem refused_committable
    (never : ∀ token ∈ begun.tokens, token.tokenDigest = input.presentedDigest →
      token.csrfDigest = input.presentedCsrfDigest → ¬ token.usedAt ≠ none) :
    sessionsContract.Committable (.refresh input) begun value held (fun db => db) seen :=
  unchanged_committable fun _ _ => ⟨rfl, reuse_vacuous never⟩

/-- The branches that revoke the family of the presented token. -/
theorem refresh_revokes_meet {next : Option RefreshFamily → SessionsTxn SessionsValue}
    (familyKey : SessionsKey.family familyId ∈ held)
    (found : seen.families.find familyId = some family) (unrevoked : family.revokedAt = none)
    (dated : family.createdAt ≤ T)
    (named : ∀ token ∈ begun.tokens, token.tokenDigest = input.presentedDigest →
      token.familyId = familyId)
    (settles : ∀ row, next (some row) = pure value) :
    (revokeFamily T reason (fun _ => true) familyId >>= next).Meets Rely
      (sessionsContract.Committable (.refresh input) begun)
      (sessionsContract.Abortable (.refresh input) begun) held (fun db => db) seen := by
  rw [Txn.meets_then]
  apply meets_revokeLocked familyKey found unrevoked dated
  intro now moved
  rw [settles, Txn.meets_pure]
  have present := (rely_family moved familyKey).1.trans found
  refine revoked_committable (List.mem_cons_of_mem _ familyKey) present unrevoked ?_
  intro later _ stored
  have sameId := KeyedTable.key_of_find stored
  refine ⟨rfl, fun token member digest _ _ => ?_⟩
  refine ⟨family.revoked T reason, KeyedTable.mem_put.mpr (Or.inl ⟨rfl, family,
    KeyedTable.mem_of_find stored, rfl⟩), ?_, by simp [RefreshFamily.revoked]⟩
  exact sameId.trans (named token member digest).symm

theorem rotateCurrent_meets {row : RefreshRow} {token : RefreshToken}
    (familyKey : SessionsKey.family familyId ∈ held)
    (presented : presentedToken seen familyId input.presentedDigest = some (family, token))
    (unrevoked : family.revokedAt = none) (rowToken : row.tokenId = token.id)
    (rowFamily : row.familyId = familyId) (rowTenant : row.tenantId = family.tenantId)
    (rowExpiry : row.absoluteExpiresAt = family.absoluteExpiresAt)
    (never : ∀ token ∈ begun.tokens, token.tokenDigest = input.presentedDigest →
      token.csrfDigest = input.presentedCsrfDigest → ¬ token.usedAt ≠ none) :
    (do return .issued (← rotateCurrent runtime input row T) : SessionsTxn SessionsValue).Meets
      Rely (sessionsContract.Committable (.refresh input) begun)
      (sessionsContract.Abortable (.refresh input) begun) held (fun db => db) seen := by
  obtain ⟨familyFound, tokenStored, tokenFamily, _, _⟩ := presented_token_some presented
  have familyId' := KeyedTable.key_of_find familyFound
  have abortable : ∀ reason keys now,
      sessionsContract.Abortable (.refresh input) begun reason keys now :=
    fun _ _ _ _ _ => reuse_vacuous never
  have tokens : ∀ now, Rely held seen now → now.tokens.find token.id = some token := by
    intro now moved
    have member : token ∈ now.familyTokens familyId := by
      rw [(rely_family moved familyKey).2]
      exact List.mem_filter.mpr ⟨tokenStored, decide_eq_true tokenFamily⟩
    exact KeyedTable.find_key (List.mem_filter.mp member).1
  simp only [rotateCurrent, markUsedAndInsertChild, Txn.meets_then]
  apply meets_markUsed (fun _ => abortable _)
  · intro now keys moved _ spent
    exact abortable _ _ _
  · intro first old used firstMoved found unusedOld same spent
    rw [rowToken, tokens first firstMoved] at found
    obtain rfl := Option.some.inj found
    apply meets_insertToken (fun _ => abortable _)
    intro second secondMoved freshId freshDigest
    simp only [Txn.meets_pure]
    have movedOn : Rely held seen second := Contract.rely_trans firstMoved
      (Contract.rely_subset (List.subset_cons_self _ _) secondMoved)
    have familyNow := (rely_family movedOn familyKey).1.trans familyFound
    have tokenNow := KeyedTable.mem_of_find (tokens second movedOn)
    have usedId : used.id = token.id := congrArg RefreshTokenIdentity.id same
    have rotates : Rotates (.digest input.childTokenDigest :: .token input.childId ::
        .token row.tokenId :: held) second family token used (input.child row T) :=
      { familyStored := KeyedTable.mem_of_find familyNow
        unrevoked := unrevoked
        tokenStored := tokenNow
        tokenFamily := tokenFamily.trans familyId'.symm
        unused := unusedOld
        tokenKey := by simp [rowToken]
        same := same
        spent := spent
        insertable :=
          { freshId := by
              rw [SessionsDb.putToken, KeyedTable.find_put] at freshId
              split_ifs at freshId
              · exact Option.map_eq_none_iff.mp freshId
              · exact freshId
            freshDigest := by
              intro other member
              by_cases sameRow : other.id = used.id
              · have sameOld := KeyedTable.eq_of_key member tokenNow (sameRow.trans usedId)
                rw [sameOld, ← congrArg RefreshTokenIdentity.tokenDigest same]
                exact freshDigest used (KeyedTable.mem_put.mpr (Or.inl ⟨rfl, other, member, sameRow⟩))
              · exact freshDigest other (KeyedTable.mem_put.mpr (Or.inr ⟨member, sameRow⟩))
            unused := rfl
            tokenKey := by simp [RefreshRotateInput.child]
            digestKey := by simp [RefreshRotateInput.child]
            familyKey := by simp [RefreshRotateInput.child, rowFamily, familyKey] }
        childFamily := rowFamily.trans familyId'.symm
        childTenant := rowTenant
        parent := by simp [RefreshRotateInput.child, rowToken]
        expiry := by
          rw [← rowExpiry]
          exact min_le_right _ _ }
    refine committable (fun later moved => rotated_keeps moved.1 (rotates_moves rotates moved)) ?_
    exact fun _ _ => ⟨rfl, reuse_vacuous never⟩

theorem evaluateLockedRefresh_meets (consistent : Consistent begun)
    (located : begun.findFamilyId input.presentedDigest = some familyId)
    (started : Rely [] begun seen) :
    (evaluateLockedRefresh runtime input familyId seen.clock).Meets Rely
      (sessionsContract.Committable (.refresh input) begun)
      (sessionsContract.Abortable (.refresh input) begun) [] (fun db => db) seen := by
  have named : ∀ token ∈ begun.tokens, token.tokenDigest = input.presentedDigest →
      token.familyId = familyId := by
    intro token member digest
    have other := find_family_id_of_token consistent member
    rw [digest, located] at other
    exact (Option.some.inj other).symm
  simp only [evaluateLockedRefresh, Txn.meets_then]
  apply Contract.meets_select
  · intro now moved absent
    obtain ⟨family, found, _⟩ :=
      located_family consistent located (evolves_trans _ _ _ started.2.1 moved.2.1)
    exact absurd (found.symm.trans absent) (by simp)
  · intro first firstMoved
    obtain ⟨owner, ownerFound, _⟩ :=
      located_family consistent located (evolves_trans _ _ _ started.2.1 firstMoved.2.1)
    simp only [ownerFound, Txn.meets_then, Txn.meets_view]
    intro second secondMoved
    have evolved : Evolves begun second := evolves_trans _ _ _
      (evolves_trans _ _ _ started.2.1 firstMoved.2.1) secondMoved.2.1
    -- A used token of `begun` is still there, unchanged.
    have stays : ∀ token ∈ begun.tokens, token.usedAt ≠ none → token ∈ second.tokens := by
      intro token member used
      obtain ⟨later, laterMember, _, kept⟩ := evolved.tokens token member
      exact kept used ▸ laterMember
    cases reading : readRefresh second seen.clock familyId input.presentedDigest with
    | none =>
        refine refused_committable fun token member digest _ used => ?_
        refine read_refresh_of_member secondMoved.1 seen.clock (stays token member used) ?_
        rw [named token member digest, digest]
        exact reading
    | some row =>
        obtain ⟨family, presented, found, rowToken, rowFamily, rowTenant, rowCsrf, rowUsed,
          rowRevoked, rowExpiry⟩ := read_refresh_some reading
        obtain ⟨stored, presentedStored, _, _, presentedDigest⟩ := presented_token_some found
        have dated := (located_dated consistent located evolved stored).trans started.2.1.clock
        have same : ∀ token ∈ begun.tokens, token.tokenDigest = input.presentedDigest →
            token.usedAt ≠ none → token = presented := fun token member digest used =>
          secondMoved.1.digests token (stays token member used) presented presentedStored
            (digest.trans presentedDigest.symm)
        dsimp only
        split_ifs with csrf revoked tenant user used expired
        · refine refused_committable fun token member digest sameCsrf spent => ?_
          rw [same token member digest spent, ← rowCsrf] at sameCsrf
          exact csrf sameCsrf
        · refine unchanged_committable fun now moved => ⟨rfl, fun token member digest _ _ => ?_⟩
          have present := (rely_family moved List.mem_cons_self).1.trans stored
          have sameId := KeyedTable.key_of_find present
          refine ⟨family, KeyedTable.mem_of_find present,
            sameId.trans (named token member digest).symm, ?_⟩
          rw [rowRevoked] at revoked
          exact Option.isSome_iff_ne_none.mp revoked
        all_goals
          have unrevoked : family.revokedAt = none := by
            rw [rowRevoked] at revoked
            simpa using revoked
        · rw [rowFamily]
          exact refresh_revokes_meet List.mem_cons_self stored unrevoked dated named fun _ => rfl
        · refine refused_committable fun token member digest _ spent => ?_
          rw [same token member digest spent] at spent
          rw [rowUsed] at used
          exact spent (by simpa using used)
        · refine rotateCurrent_meets List.mem_cons_self found unrevoked rowToken rowFamily rowTenant
            rowExpiry fun token member digest _ spent => ?_
          rw [same token member digest spent] at spent
          rw [rowUsed] at used
          exact spent (by simpa using used)
        · rw [rowFamily]
          exact refresh_revokes_meet List.mem_cons_self stored unrevoked dated named fun _ => rfl
        · rw [rowFamily]
          exact refresh_revokes_meet List.mem_cons_self stored unrevoked dated named fun _ => rfl

theorem refresh_meets (runtime : SessionRuntime) (input : RefreshRotateInput)
    (begun : SessionsDb) (consistent : Consistent begun) :
    (sessionsProgram runtime (.refresh input) begun).Meets Rely
      (sessionsContract.Committable (.refresh input) begun)
      (sessionsContract.Abortable (.refresh input) begun) [] (fun db => db) begun := by
  simp only [sessionsProgram, refresh]
  cases located : begun.findFamilyId input.presentedDigest with
  | none =>
      refine refused_committable fun token member digest _ _ => ?_
      have other := find_family_id_of_token consistent member
      rw [digest, located] at other
      cases other
  | some familyId =>
      simp only [Txn.meets_then, Txn.meets_view]
      intro start moved
      exact evaluateLockedRefresh_meets consistent located moved

end Rotation

end Refresh

theorem same_drift (event : SessionsDrift) (key : SessionsKey) (db : SessionsDb) :
    Same key db (sessionsDrift event db) := by
  cases event <;> cases key with
  | user id => exact ⟨rfl, fun family member _ => ⟨family, member, rfl⟩⟩
  | family id => exact ⟨rfl, rfl⟩
  | password tenantId userId => trivial
  | digest value => exact Iff.rfl
  | tenant id | credential id | token id => rfl

theorem drift_keeps (event : SessionsDrift) {db : SessionsDb} (consistent : Consistent db) :
    Keeps [] db (sessionsDrift event db) := by
  cases event with
  | tick elapsed =>
      refine ⟨⟨consistent.chained, consistent.owned, consistent.digests, ?_, consistent.holders⟩,
        ⟨(evolves_refl db).families, (evolves_refl db).tokens, fun _ present => present,
          Nat.le_add_right _ _⟩, fun key _ => same_drift _ key db⟩
      intro family member
      obtain ⟨lifetime, past⟩ := consistent.lifetimes family member
      exact ⟨lifetime, past.trans (Nat.le_add_right _ _)⟩
  | tenant id isActive =>
      have tenants : ∀ other, (db.tenants other).isSome →
          (Function.update db.tenants id (some isActive) other).isSome := by
        intro other present
        by_cases same : other = id
        · simp [same]
        · rw [Function.update_of_ne same]
          exact present
      refine ⟨⟨consistent.chained, consistent.owned, consistent.digests, consistent.lifetimes, ?_⟩,
        ⟨(evolves_refl db).families, (evolves_refl db).tokens, tenants, le_refl _⟩,
        fun key _ => same_drift _ key db⟩
      intro family member
      obtain ⟨tenant, holder⟩ := consistent.holders family member
      exact ⟨tenants family.tenantId tenant, holder⟩

/-- The session repositories meet their contract. -/
theorem sessions_verified (runtime : SessionRuntime) :
    sessionsContract.Verified (sessionsProgram runtime) sessionsDrift where
  requests request begun consistent := by
    cases request with
    | login request => exact login_meets runtime request begun
    | refresh input => exact refresh_meets runtime input begun consistent
    | logout input => exact logout_meets runtime input begun consistent
    | setPassword input => exact setPassword_meets runtime input begun
    | createUser id tenantId input => exact createUser_meets runtime id tenantId input begun
    | patchUser input => exact patchUser_meets runtime input begun
  drifts event db consistent := by
    have keeps := drift_keeps event consistent
    exact ⟨keeps.consistent, keeps.evolves, fun key => keeps.untouched key (by simp)⟩

end CommitmentOptimizer.Sessions.SessionVerification
