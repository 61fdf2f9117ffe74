import CommitmentOptimizer.Sessions.SessionTransactions

/-!
# What the session tables keep

The chain of a family's tokens, the invariant of the tables, how a committed
database may evolve, what each lock protects, and what every write of the
session transactions does to them.
-/

namespace CommitmentOptimizer.Sessions.SessionInvariants

open Foundations
open Foundations.SqlConstraints
open Tenants.Users
open SessionTables
open SessionTransactions

set_option autoImplicit false

/-- The tokens of a family in the order of their insertion: the first is the
root, each of the others has the one before it as its parent, and exactly the
last is unused. -/
structure LinearChain (tokens : List RefreshToken) : Prop where
  parents : tokens.map (·.parentTokenId) = none :: tokens.dropLast.map fun token => some token.id
  spent : ∀ token ∈ tokens.dropLast, token.usedAt ≠ none
  current : ∀ token ∈ tokens.getLast?, token.usedAt = none

section Chain

variable {tokens : List RefreshToken}

theorem chain_unused_last (chain : LinearChain tokens) {token : RefreshToken}
    (member : token ∈ tokens) (unused : token.usedAt = none) : tokens.getLast? = some token := by
  have nonempty : tokens ≠ [] := List.ne_nil_of_mem member
  rw [← List.dropLast_append_getLast nonempty, List.mem_append, List.mem_singleton] at member
  rcases member with earlier | last
  · exact absurd unused (chain.spent token earlier)
  · rw [List.getLast?_eq_some_getLast nonempty, last]

theorem chain_one_unused (chain : LinearChain tokens) {left right : RefreshToken}
    (leftMember : left ∈ tokens) (rightMember : right ∈ tokens) (leftUnused : left.usedAt = none)
    (rightUnused : right.usedAt = none) : left = right := by
  have leftLast := chain_unused_last chain leftMember leftUnused
  rw [chain_unused_last chain rightMember rightUnused] at leftLast
  exact (Option.some.inj leftLast).symm

/-- Two tokens of a chain have different parents. -/
theorem chain_one_successor (chain : LinearChain tokens) (distinct : (tokens.map (·.id)).Nodup)
    {left right : RefreshToken} (leftMember : left ∈ tokens) (rightMember : right ∈ tokens)
    (same : left.parentTokenId = right.parentTokenId) : left = right := by
  have parents : (tokens.map (·.parentTokenId)).Nodup := by
    rw [chain.parents, List.nodup_cons]
    constructor
    · intro absent
      obtain ⟨_, _, impossible⟩ := List.mem_map.mp absent
      cases impossible
    · have ids : (tokens.dropLast.map (·.id)).Nodup :=
        (List.Sublist.map _ (List.dropLast_sublist tokens)).nodup distinct
      have lifted : ((tokens.dropLast.map (·.id)).map some).Nodup :=
        List.Nodup.map (fun _ _ => Option.some.inj) ids
      rwa [List.map_map] at lifted
  exact List.inj_on_of_nodup_map parents leftMember rightMember same

theorem chain_root (token : RefreshToken) (root : token.parentTokenId = none)
    (unused : token.usedAt = none) : LinearChain [token] where
  parents := by simp [root]
  spent := by simp
  current := by simp [unused]

/-- Using the last token and appending its child keeps the chain. -/
theorem chain_rotate {earlier : List RefreshToken} {token used child : RefreshToken}
    (chain : LinearChain (earlier ++ [token]))
    (same : used.toRefreshTokenIdentity = token.toRefreshTokenIdentity)
    (spent : used.usedAt ≠ none) (parent : child.parentTokenId = some token.id)
    (unused : child.usedAt = none) : LinearChain (earlier ++ [used, child]) where
  parents := by
    have before := chain.parents
    have sameId : used.id = token.id := congrArg RefreshTokenIdentity.id same
    have sameParent : used.parentTokenId = token.parentTokenId :=
      congrArg RefreshTokenIdentity.parentTokenId same
    rw [List.dropLast_concat, List.map_append, List.map_singleton] at before
    have split : earlier ++ [used, child] = (earlier ++ [used]) ++ [child] := by simp
    rw [split, List.dropLast_concat, List.map_append, List.map_append, List.map_singleton,
      List.map_singleton, sameParent, before, parent, List.map_append, List.map_singleton, sameId]
    rfl
  spent := by
    have split : earlier ++ [used, child] = (earlier ++ [used]) ++ [child] := by simp
    intro other member
    rw [split, List.dropLast_concat, List.mem_append, List.mem_singleton] at member
    rcases member with old | rfl
    · exact chain.spent other (by rw [List.dropLast_concat]; exact old)
    · exact spent
  current := by simp [unused]

end Chain

structure Consistent (db : SessionsDb) : Prop where
  chained : ∀ family ∈ db.families, LinearChain (db.familyTokens family.id)
  owned : ∀ token ∈ db.tokens, ∃ family ∈ db.families, family.id = token.familyId ∧
    family.tenantId = token.tenantId ∧ token.idleExpiresAt ≤ family.absoluteExpiresAt
  digests : ∀ left ∈ db.tokens, ∀ right ∈ db.tokens,
    left.tokenDigest = right.tokenDigest → left = right
  lifetimes : ∀ family ∈ db.families,
    family.createdAt < family.absoluteExpiresAt ∧ family.createdAt ≤ db.clock
  holders : ∀ family ∈ db.families,
    (db.tenants family.tenantId).isSome ∧ (db.findUser family.tenantId family.userId).isSome

/-- Frozen columns stay, a revoked family and its tokens do not change any more,
and neither does a used token. -/
structure Evolves (before after : SessionsDb) : Prop where
  families : ∀ family ∈ before.families, ∃ later ∈ after.families,
    later.toRefreshFamilyIdentity = family.toRefreshFamilyIdentity ∧
      (family.revokedAt ≠ none → later = family ∧
        after.familyTokens family.id = before.familyTokens family.id)
  tokens : ∀ token ∈ before.tokens, ∃ later ∈ after.tokens,
    later.toRefreshTokenIdentity = token.toRefreshTokenIdentity ∧
      (token.usedAt ≠ none → later = token)
  tenants : ∀ id, (before.tenants id).isSome → (after.tenants id).isSome
  clock : before.clock ≤ after.clock

/-- What a key protects. A family's lock covers its tokens, a user's lock the
opening of families, a tenant's lock the rows of its users. -/
def Same : SessionsKey → SessionsDb → SessionsDb → Prop
  | .tenant id, before, after =>
      before.users.rows.filter (fun row => row.tenantId = id) =
        after.users.rows.filter fun row => row.tenantId = id
  | .user id, before, after => before.users.find id = after.users.find id ∧
      ∀ family ∈ after.families, family.userId = id → ∃ older ∈ before.families,
        older.toRefreshFamilyIdentity = family.toRefreshFamilyIdentity
  | .password _ _, _, _ => True
  | .credential userId, before, after =>
      before.credentials.find userId = after.credentials.find userId
  | .family id, before, after => before.families.find id = after.families.find id ∧
      before.familyTokens id = after.familyTokens id
  | .token id, before, after => before.tokens.find id = after.tokens.find id
  | .digest value, before, after => (∀ token ∈ before.tokens, token.tokenDigest ≠ value) ↔
      ∀ token ∈ after.tokens, token.tokenDigest ≠ value

/-- Before the first login. -/
structure Fresh (db : SessionsDb) : Prop where
  families : ∀ row, row ∉ db.families
  tokens : ∀ row, row ∉ db.tokens

theorem fresh_consistent {db : SessionsDb} (fresh : Fresh db) : Consistent db where
  chained family member := absurd member (fresh.families family)
  owned token member := absurd member (fresh.tokens token)
  digests token member := absurd member (fresh.tokens token)
  lifetimes family member := absurd member (fresh.families family)
  holders family member := absurd member (fresh.families family)

theorem evolves_refl (db : SessionsDb) : Evolves db db where
  families family member := ⟨family, member, rfl, fun _ => ⟨rfl, rfl⟩⟩
  tokens token member := ⟨token, member, rfl, fun _ => rfl⟩
  tenants _ present := present
  clock := le_refl _

theorem evolves_trans (first second third : SessionsDb)
    (left : Evolves first second) (right : Evolves second third) : Evolves first third where
  families family member := by
    obtain ⟨middle, middleMember, sameMiddle, keptMiddle⟩ := left.families family member
    obtain ⟨later, laterMember, sameLater, keptLater⟩ := right.families middle middleMember
    refine ⟨later, laterMember, sameLater.trans sameMiddle, fun revoked => ?_⟩
    obtain ⟨rfl, middleTokens⟩ := keptMiddle revoked
    obtain ⟨rfl, laterTokens⟩ := keptLater revoked
    exact ⟨rfl, laterTokens.trans middleTokens⟩
  tokens token member := by
    obtain ⟨middle, middleMember, sameMiddle, keptMiddle⟩ := left.tokens token member
    obtain ⟨later, laterMember, sameLater, keptLater⟩ := right.tokens middle middleMember
    refine ⟨later, laterMember, sameLater.trans sameMiddle, fun used => ?_⟩
    obtain rfl := keptMiddle used
    exact keptLater used
  tenants id present := right.tenants id (left.tenants id present)
  clock := le_trans left.clock right.clock

theorem same_refl (key : SessionsKey) (db : SessionsDb) : Same key db db := by
  cases key with
  | user id => exact ⟨rfl, fun family member _ => ⟨family, member, rfl⟩⟩
  | family id => exact ⟨rfl, rfl⟩
  | password tenantId userId => trivial
  | digest value => exact Iff.rfl
  | tenant id | credential id | token id => rfl

theorem same_trans (key : SessionsKey) (first second third : SessionsDb)
    (left : Same key first second) (right : Same key second third) : Same key first third := by
  cases key with
  | user id =>
      refine ⟨left.1.trans right.1, fun family member holder => ?_⟩
      obtain ⟨middle, middleMember, sameMiddle⟩ := right.2 family member holder
      have holderMiddle : middle.userId = id :=
        (congrArg RefreshFamilyIdentity.userId sameMiddle).trans holder
      obtain ⟨older, olderMember, sameOlder⟩ := left.2 middle middleMember holderMiddle
      exact ⟨older, olderMember, sameOlder.trans sameMiddle⟩
  | family id => exact ⟨left.1.trans right.1, left.2.trans right.2⟩
  | password tenantId userId => trivial
  | digest value => exact Iff.trans left right
  | tenant id | credential id | token id => exact Eq.trans left right

/-- What a committed write has to keep for the keys its transaction holds. -/
structure Keeps (held : List SessionsKey) (before after : SessionsDb) : Prop where
  consistent : Consistent after
  evolves : Evolves before after
  untouched : ∀ key, key ∉ held → Same key before after

theorem keeps_refl {held : List SessionsKey} {db : SessionsDb} (consistent : Consistent db) :
    Keeps held db db :=
  ⟨consistent, evolves_refl db, fun key _ => same_refl key db⟩

theorem keeps_trans {held : List SessionsKey} {first second third : SessionsDb}
    (left : Keeps held first second) (right : Keeps held second third) : Keeps held first third where
  consistent := right.consistent
  evolves := evolves_trans first second third left.evolves right.evolves
  untouched key free :=
    same_trans key first second third (left.untouched key free) (right.untouched key free)

section Revoke

/-- The writes of the statements that revoke families. -/
def revoke (families : List RefreshFamily) (db : SessionsDb) : SessionsDb :=
  { db with families := db.families.putAll families }

/-- The new rows revoke families that are held and were not revoked. -/
def Revokes (held : List SessionsKey) (db : SessionsDb) (families : List RefreshFamily) : Prop :=
  ∀ family ∈ families, SessionsKey.family family.id ∈ held ∧ family.revokedAt ≠ none ∧
    ∃ old ∈ db.families, family.toRefreshFamilyIdentity = old.toRefreshFamilyIdentity ∧
      old.revokedAt = none

variable {held : List SessionsKey} {db : SessionsDb} {families : List RefreshFamily}

/-- Every family has the identity of an old one. -/
theorem revoked_family (revokes : Revokes held db families) {family : RefreshFamily}
    (member : family ∈ (revoke families db).families) :
    ∃ old ∈ db.families, family.toRefreshFamilyIdentity = old.toRefreshFamilyIdentity := by
  rcases KeyedTable.mem_putAll member with ⟨kept, _⟩ | ⟨new, _⟩
  · exact ⟨family, kept, rfl⟩
  · obtain ⟨_, _, old, oldMember, same, _⟩ := revokes family new
    exact ⟨old, oldMember, same⟩

theorem revoke_consistent (consistent : Consistent db) (revokes : Revokes held db families) :
    Consistent (revoke families db) where
  chained family member := by
    obtain ⟨old, oldMember, same⟩ := revoked_family revokes member
    rw [congrArg RefreshFamilyIdentity.id same]
    exact consistent.chained old oldMember
  owned token member := by
    obtain ⟨old, oldMember, sameId, sameTenant, expiry⟩ := consistent.owned token member
    rcases KeyedTable.putAll_mem families oldMember with ⟨stays, _⟩ |
      ⟨changed, changedMember, sameKey, stored⟩
    · exact ⟨old, stays, sameId, sameTenant, expiry⟩
    · obtain ⟨_, _, origin, originMember, same, _⟩ := revokes changed changedMember
      have sameOld : origin = old := KeyedTable.eq_of_key originMember oldMember (by
        rw [← congrArg RefreshFamilyIdentity.id same, sameKey])
      rw [sameOld] at same
      refine ⟨changed, stored, sameKey.trans sameId,
        (congrArg RefreshFamilyIdentity.tenantId same).trans sameTenant, ?_⟩
      rw [congrArg RefreshFamilyIdentity.absoluteExpiresAt same]
      exact expiry
  digests := consistent.digests
  lifetimes family member := by
    obtain ⟨old, oldMember, same⟩ := revoked_family revokes member
    rw [congrArg RefreshFamilyIdentity.createdAt same,
      congrArg RefreshFamilyIdentity.absoluteExpiresAt same]
    exact consistent.lifetimes old oldMember
  holders family member := by
    obtain ⟨old, oldMember, same⟩ := revoked_family revokes member
    rw [congrArg RefreshFamilyIdentity.tenantId same, congrArg RefreshFamilyIdentity.userId same]
    exact consistent.holders old oldMember

theorem revoke_evolves (revokes : Revokes held db families) : Evolves db (revoke families db) where
  families family member := by
    rcases KeyedTable.putAll_mem families member with ⟨stays, _⟩ |
      ⟨changed, changedMember, sameKey, stored⟩
    · exact ⟨family, stays, rfl, fun _ => ⟨rfl, rfl⟩⟩
    · obtain ⟨_, _, old, oldMember, same, unrevoked⟩ := revokes changed changedMember
      have sameOld : old = family := KeyedTable.eq_of_key oldMember member (by
        rw [← congrArg RefreshFamilyIdentity.id same, sameKey])
      rw [sameOld] at same unrevoked
      exact ⟨changed, stored, same, fun revoked => absurd unrevoked revoked⟩
  tokens token member := ⟨token, member, rfl, fun _ => rfl⟩
  tenants _ present := present
  clock := le_refl _

theorem revoke_untouched (revokes : Revokes held db families) {key : SessionsKey}
    (free : key ∉ held) : Same key db (revoke families db) := by
  cases key with
  | user id =>
      refine ⟨rfl, fun family member _ => ?_⟩
      obtain ⟨old, oldMember, same⟩ := revoked_family revokes member
      exact ⟨old, oldMember, same.symm⟩
  | family id =>
      rcases KeyedTable.find_putAll db.families families id with ⟨_, found⟩ |
        ⟨family, member, same, _⟩
      · exact ⟨found.symm, rfl⟩
      · exact absurd (same ▸ (revokes family member).1) free
  | password tenantId userId => trivial
  | digest value => exact Iff.rfl
  | tenant id | credential id | token id => rfl

theorem revoke_keeps (consistent : Consistent db) (revokes : Revokes held db families) :
    Keeps held db (revoke families db) where
  consistent := revoke_consistent consistent revokes
  evolves := revoke_evolves revokes
  untouched _ free := revoke_untouched revokes free

end Revoke

section Tokens

variable {held : List SessionsKey} {db : SessionsDb}

theorem family_tokens_insert {token : RefreshToken} (fresh : db.tokens.find token.id = none)
    (familyId : Uuid) :
    (db.insertToken token).familyTokens familyId =
      db.familyTokens familyId ++ if token.familyId = familyId then [token] else [] := by
  rw [SessionsDb.familyTokens, SessionsDb.insertToken, KeyedTable.filter_insert fresh]
  simp [SessionsDb.familyTokens]

/-- What an inserted token needs from the database and the held keys. -/
structure Insertable (held : List SessionsKey) (db : SessionsDb) (token : RefreshToken) :
    Prop where
  freshId : db.tokens.find token.id = none
  freshDigest : ∀ other ∈ db.tokens, other.tokenDigest ≠ token.tokenDigest
  unused : token.usedAt = none
  tokenKey : SessionsKey.token token.id ∈ held
  digestKey : SessionsKey.digest token.tokenDigest ∈ held
  familyKey : SessionsKey.family token.familyId ∈ held

theorem insert_token_digests {token : RefreshToken}
    (distinct : ∀ left ∈ db.tokens, ∀ right ∈ db.tokens,
      left.tokenDigest = right.tokenDigest → left = right)
    (insertable : Insertable held db token) :
    ∀ left ∈ (db.insertToken token).tokens, ∀ right ∈ (db.insertToken token).tokens,
      left.tokenDigest = right.tokenDigest → left = right := by
  intro left leftMember right rightMember same
  rcases (KeyedTable.mem_insert insertable.freshId).mp leftMember with oldLeft | rfl
  · rcases (KeyedTable.mem_insert insertable.freshId).mp rightMember with oldRight | rfl
    · exact distinct left oldLeft right oldRight same
    · exact absurd same (insertable.freshDigest left oldLeft)
  · rcases (KeyedTable.mem_insert insertable.freshId).mp rightMember with oldRight | rfl
    · exact absurd same.symm (insertable.freshDigest right oldRight)
    · rfl

theorem insert_token_untouched {token : RefreshToken} (insertable : Insertable held db token)
    {key : SessionsKey} (free : key ∉ held) : Same key db (db.insertToken token) := by
  cases key with
  | user id => exact ⟨rfl, fun family member _ => ⟨family, member, rfl⟩⟩
  | family id =>
      have different : token.familyId ≠ id := fun same => free (same ▸ insertable.familyKey)
      exact ⟨rfl, by simp [family_tokens_insert insertable.freshId, different]⟩
  | token id =>
      have different : token.id ≠ id := fun same => free (same ▸ insertable.tokenKey)
      simp [Same, SessionsDb.insertToken, different]
  | digest value =>
      have different : token.tokenDigest ≠ value := fun same => free (same ▸ insertable.digestKey)
      constructor
      · intro absent other member
        rcases (KeyedTable.mem_insert insertable.freshId).mp member with old | rfl
        · exact absent other old
        · exact different
      · intro absent other member
        exact absent other (KeyedTable.mem_insert_of_mem member)
  | password tenantId userId => trivial
  | tenant id | credential id => rfl

/-- The writes of a login. -/
def openSession (family : RefreshFamily) (token : RefreshToken) (db : SessionsDb) : SessionsDb :=
  (db.insertFamily family).insertToken token

/-- When a login may open a family with its root token. -/
structure Opens (held : List SessionsKey) (db : SessionsDb) (family : RefreshFamily)
    (token : RefreshToken) : Prop where
  insertable : Insertable held db token
  freshFamily : db.families.find family.id = none
  userKey : SessionsKey.user family.userId ∈ held
  root : token.parentTokenId = none
  sameFamily : token.familyId = family.id
  sameTenant : token.tenantId = family.tenantId
  expiry : token.idleExpiresAt ≤ family.absoluteExpiresAt
  lifetime : family.createdAt < family.absoluteExpiresAt ∧ family.createdAt ≤ db.clock
  holder : (db.tenants family.tenantId).isSome ∧
    (db.findUser family.tenantId family.userId).isSome

section Open

variable {family : RefreshFamily} {token : RefreshToken}

/-- A family that is not there has no tokens. -/
theorem no_family_tokens {familyId : Uuid} (consistent : Consistent db)
    (absent : db.families.find familyId = none) : db.familyTokens familyId = [] := by
  rw [SessionsDb.familyTokens, List.filter_eq_nil_iff]
  intro other member same
  obtain ⟨owner, ownerMember, sameId, _⟩ := consistent.owned other member
  exact KeyedTable.find_eq_none.mp absent owner ownerMember
    (sameId.trans (of_decide_eq_true same))

theorem opened_tokens (opens : Opens held db family token) (familyId : Uuid) :
    (openSession family token db).familyTokens familyId =
      db.familyTokens familyId ++ if token.familyId = familyId then [token] else [] :=
  @family_tokens_insert (db.insertFamily family) token opens.insertable.freshId familyId

theorem mem_opened_tokens (opens : Opens held db family token) {other : RefreshToken} :
    other ∈ (openSession family token db).tokens ↔ other ∈ db.tokens ∨ other = token :=
  KeyedTable.mem_insert opens.insertable.freshId

theorem mem_opened_families (opens : Opens held db family token) {other : RefreshFamily} :
    other ∈ (openSession family token db).families ↔ other ∈ db.families ∨ other = family :=
  KeyedTable.mem_insert opens.freshFamily

theorem opened_consistent (consistent : Consistent db) (opens : Opens held db family token) :
    Consistent (openSession family token db) where
  chained other member := by
    rw [opened_tokens opens, opens.sameFamily]
    rcases (mem_opened_families opens).mp member with old | rfl
    · have different : family.id ≠ other.id :=
        fun same => KeyedTable.find_eq_none.mp opens.freshFamily other old same.symm
      rw [if_neg different, List.append_nil]
      exact consistent.chained other old
    · rw [if_pos rfl, no_family_tokens consistent opens.freshFamily, List.nil_append]
      exact chain_root token opens.root opens.insertable.unused
  owned other member := by
    rcases (mem_opened_tokens opens).mp member with old | rfl
    · obtain ⟨owner, ownerMember, facts⟩ := consistent.owned other old
      exact ⟨owner, (mem_opened_families opens).mpr (Or.inl ownerMember), facts⟩
    · exact ⟨family, (mem_opened_families opens).mpr (Or.inr rfl), opens.sameFamily.symm,
        opens.sameTenant.symm, opens.expiry⟩
  digests := by
    have insertable : Insertable held (db.insertFamily family) token :=
      { opens.insertable with }
    exact insert_token_digests consistent.digests insertable
  lifetimes other member := by
    rcases (mem_opened_families opens).mp member with old | rfl
    · exact consistent.lifetimes other old
    · exact opens.lifetime
  holders other member := by
    rcases (mem_opened_families opens).mp member with old | rfl
    · exact consistent.holders other old
    · exact opens.holder

theorem opened_evolves (opens : Opens held db family token) :
    Evolves db (openSession family token db) where
  families other member := by
    refine ⟨other, (mem_opened_families opens).mpr (Or.inl member), rfl, fun _ => ⟨rfl, ?_⟩⟩
    have different : token.familyId ≠ other.id := by
      rw [opens.sameFamily]
      exact fun same => KeyedTable.find_eq_none.mp opens.freshFamily other member same.symm
    rw [opened_tokens opens, if_neg different, List.append_nil]
  tokens other member :=
    ⟨other, (mem_opened_tokens opens).mpr (Or.inl member), rfl, fun _ => rfl⟩
  tenants _ present := present
  clock := le_refl _

theorem opened_untouched (opens : Opens held db family token) {key : SessionsKey}
    (free : key ∉ held) : Same key db (openSession family token db) := by
  cases key with
  | user id =>
      refine ⟨rfl, fun other member holder => ?_⟩
      rcases (mem_opened_families opens).mp member with old | rfl
      · exact ⟨other, old, rfl⟩
      · exact absurd (holder ▸ opens.userKey) free
  | family id =>
      have different : family.id ≠ id := by
        rw [← opens.sameFamily]
        exact fun same => free (same ▸ opens.insertable.familyKey)
      refine ⟨?_, ?_⟩
      · simp [openSession, SessionsDb.insertFamily, SessionsDb.insertToken, different]
      · rw [opened_tokens opens, opens.sameFamily, if_neg different, List.append_nil]
  | token id => exact insert_token_untouched opens.insertable free
  | digest value => exact insert_token_untouched opens.insertable free
  | password tenantId userId => trivial
  | tenant id | credential id => rfl

theorem opened_keeps (consistent : Consistent db) (opens : Opens held db family token) :
    Keeps held db (openSession family token db) where
  consistent := opened_consistent consistent opens
  evolves := opened_evolves opens
  untouched _ free := opened_untouched opens free

end Open

/-- The writes of a refresh that rotates a token. -/
def rotate (used child : RefreshToken) (db : SessionsDb) : SessionsDb :=
  (db.putToken used).insertToken child

/-- When `token` may be marked used and its child inserted. -/
structure Rotates (held : List SessionsKey) (db : SessionsDb) (family : RefreshFamily)
    (token used child : RefreshToken) : Prop where
  familyStored : family ∈ db.families
  unrevoked : family.revokedAt = none
  tokenStored : token ∈ db.tokens
  tokenFamily : token.familyId = family.id
  unused : token.usedAt = none
  tokenKey : SessionsKey.token token.id ∈ held
  same : used.toRefreshTokenIdentity = token.toRefreshTokenIdentity
  spent : used.usedAt ≠ none
  insertable : Insertable held db child
  childFamily : child.familyId = family.id
  childTenant : child.tenantId = family.tenantId
  parent : child.parentTokenId = some token.id
  expiry : child.idleExpiresAt ≤ family.absoluteExpiresAt

section Rotate

variable {family : RefreshFamily} {token used child : RefreshToken}

theorem rotates_id (rotates : Rotates held db family token used child) : used.id = token.id :=
  congrArg RefreshTokenIdentity.id rotates.same

theorem mem_used_tokens (rotates : Rotates held db family token used child)
    {other : RefreshToken} : other ∈ (db.putToken used).tokens ↔
      other = used ∨ (other ∈ db.tokens ∧ other.id ≠ token.id) := by
  rw [SessionsDb.putToken, KeyedTable.mem_put, rotates_id rotates]
  constructor
  · rintro (⟨same, _⟩ | kept)
    · exact Or.inl same
    · exact Or.inr kept
  · rintro (same | kept)
    · exact Or.inl ⟨same, token, rotates.tokenStored, rfl⟩
    · exact Or.inr kept

/-- Every token after the mark has the identity of one before it. -/
theorem used_token_identity (rotates : Rotates held db family token used child)
    {other : RefreshToken} (member : other ∈ (db.putToken used).tokens) :
    ∃ old ∈ db.tokens, other.toRefreshTokenIdentity = old.toRefreshTokenIdentity := by
  rcases (mem_used_tokens rotates).mp member with rfl | ⟨old, _⟩
  · exact ⟨token, rotates.tokenStored, rotates.same⟩
  · exact ⟨other, old, rfl⟩

theorem used_insertable (rotates : Rotates held db family token used child) :
    Insertable held (db.putToken used) child :=
  { rotates.insertable with
    freshId := by simp [SessionsDb.putToken, rotates.insertable.freshId]
    freshDigest := by
      intro other member
      obtain ⟨old, oldMember, same⟩ := used_token_identity rotates member
      rw [congrArg RefreshTokenIdentity.tokenDigest same]
      exact rotates.insertable.freshDigest old oldMember }

theorem used_other_family (rotates : Rotates held db family token used child) {familyId : Uuid}
    (different : family.id ≠ familyId) :
    (db.putToken used).familyTokens familyId = db.familyTokens familyId := by
  refine KeyedTable.filter_put_of_not ?_ ?_
  · intro old member same
    have sameToken : old = token :=
      KeyedTable.eq_of_key member rotates.tokenStored (same.trans (rotates_id rotates))
    simp [sameToken, rotates.tokenFamily, different]
  · simp [congrArg RefreshTokenIdentity.familyId rotates.same, rotates.tokenFamily, different]

/-- The marked token is the last of its family. -/
theorem used_family (consistent : Consistent db)
    (rotates : Rotates held db family token used child) :
    ∃ earlier, db.familyTokens family.id = earlier ++ [token] ∧
      (db.putToken used).familyTokens family.id = earlier ++ [used] := by
  have chain := consistent.chained family rotates.familyStored
  have member : token ∈ db.familyTokens family.id :=
    List.mem_filter.mpr ⟨rotates.tokenStored, decide_eq_true rotates.tokenFamily⟩
  obtain ⟨earlier, split⟩ :=
    List.getLast?_eq_some_iff.mp (chain_unused_last chain member rotates.unused)
  refine ⟨earlier, split, ?_⟩
  have agrees : ∀ old ∈ db.tokens, old.id = used.id →
      decide (old.familyId = family.id) = decide (used.familyId = family.id) := by
    intro old oldMember same
    rw [KeyedTable.eq_of_key oldMember rotates.tokenStored (same.trans (rotates_id rotates)),
      congrArg RefreshTokenIdentity.familyId rotates.same]
  have replaced : (db.putToken used).familyTokens family.id =
      (db.familyTokens family.id).map fun old => if old.id = used.id then used else old :=
    KeyedTable.filter_put agrees
  have kept : ∀ old ∈ earlier, (if old.id = used.id then used else old) = old := by
    intro old oldMember
    refine if_neg fun same => ?_
    have stored : old ∈ db.tokens := by
      have inFamily : old ∈ db.familyTokens family.id := by
        rw [split]
        exact List.mem_append_left _ oldMember
      exact (List.mem_filter.mp inFamily).1
    have sameToken := KeyedTable.eq_of_key stored rotates.tokenStored (same.trans (rotates_id rotates))
    rw [split] at chain
    exact chain.spent old (by rw [List.dropLast_concat]; exact oldMember)
      (sameToken ▸ rotates.unused)
  rw [replaced, split, List.map_append, List.map_singleton, if_pos (rotates_id rotates).symm,
    List.map_congr_left kept, List.map_id']

theorem rotated_tokens (rotates : Rotates held db family token used child) (familyId : Uuid) :
    (rotate used child db).familyTokens familyId =
      (db.putToken used).familyTokens familyId ++
        if child.familyId = familyId then [child] else [] :=
  family_tokens_insert (used_insertable rotates).freshId familyId

theorem mem_rotated_tokens (rotates : Rotates held db family token used child)
    {other : RefreshToken} : other ∈ (rotate used child db).tokens ↔
      other ∈ (db.putToken used).tokens ∨ other = child :=
  KeyedTable.mem_insert (used_insertable rotates).freshId

theorem rotated_consistent (consistent : Consistent db)
    (rotates : Rotates held db family token used child) :
    Consistent (rotate used child db) where
  chained other member := by
    rw [rotated_tokens rotates, rotates.childFamily]
    by_cases same : family.id = other.id
    · obtain rfl : family = other := KeyedTable.eq_of_key rotates.familyStored member same
      obtain ⟨earlier, split, replaced⟩ := used_family consistent rotates
      have chain := consistent.chained family rotates.familyStored
      rw [split] at chain
      rw [if_pos rfl, replaced, List.append_assoc]
      exact chain_rotate chain rotates.same rotates.spent rotates.parent rotates.insertable.unused
    · rw [if_neg same, List.append_nil, used_other_family rotates same]
      exact consistent.chained other member
  owned other member := by
    rcases (mem_rotated_tokens rotates).mp member with old | rfl
    · obtain ⟨before, beforeMember, same⟩ := used_token_identity rotates old
      rw [congrArg RefreshTokenIdentity.familyId same, congrArg RefreshTokenIdentity.tenantId same,
        congrArg RefreshTokenIdentity.idleExpiresAt same]
      exact consistent.owned before beforeMember
    · exact ⟨family, rotates.familyStored, rotates.childFamily.symm, rotates.childTenant.symm,
        rotates.expiry⟩
  digests := by
    refine insert_token_digests ?_ (used_insertable rotates)
    intro left leftMember right rightMember same
    obtain ⟨oldLeft, oldLeftMember, sameLeft⟩ := used_token_identity rotates leftMember
    obtain ⟨oldRight, oldRightMember, sameRight⟩ := used_token_identity rotates rightMember
    rw [congrArg RefreshTokenIdentity.tokenDigest sameLeft,
      congrArg RefreshTokenIdentity.tokenDigest sameRight] at same
    have sameOld := consistent.digests oldLeft oldLeftMember oldRight oldRightMember same
    refine KeyedTable.eq_of_key leftMember rightMember ?_
    rw [congrArg RefreshTokenIdentity.id sameLeft, sameOld,
      ← congrArg RefreshTokenIdentity.id sameRight]
  lifetimes := consistent.lifetimes
  holders := consistent.holders

theorem rotated_evolves (rotates : Rotates held db family token used child) :
    Evolves db (rotate used child db) where
  families other member := by
    refine ⟨other, member, rfl, fun revoked => ⟨rfl, ?_⟩⟩
    have different : family.id ≠ other.id := by
      intro same
      rw [← KeyedTable.eq_of_key rotates.familyStored member same] at revoked
      exact revoked rotates.unrevoked
    rw [rotated_tokens rotates, rotates.childFamily, if_neg different, List.append_nil,
      used_other_family rotates different]
  tokens other member := by
    by_cases same : other.id = token.id
    · obtain rfl : other = token := KeyedTable.eq_of_key member rotates.tokenStored same
      exact ⟨used, (mem_rotated_tokens rotates).mpr (Or.inl ((mem_used_tokens rotates).mpr
        (Or.inl rfl))), rotates.same, fun spent => absurd rotates.unused spent⟩
    · exact ⟨other, (mem_rotated_tokens rotates).mpr (Or.inl ((mem_used_tokens rotates).mpr
        (Or.inr ⟨member, same⟩))), rfl, fun _ => rfl⟩
  tenants _ present := present
  clock := le_refl _

theorem rotated_untouched (rotates : Rotates held db family token used child) {key : SessionsKey}
    (free : key ∉ held) : Same key db (rotate used child db) := by
  have inserted : Same key (db.putToken used) (rotate used child db) :=
    insert_token_untouched (used_insertable rotates) free
  refine same_trans key db _ _ ?_ inserted
  cases key with
  | user id => exact ⟨rfl, fun other member _ => ⟨other, member, rfl⟩⟩
  | family id =>
      have different : family.id ≠ id := by
        rw [← rotates.childFamily]
        exact fun same => free (same ▸ rotates.insertable.familyKey)
      exact ⟨rfl, (used_other_family rotates different).symm⟩
  | token id =>
      have different : token.id ≠ id := fun same => free (same ▸ rotates.tokenKey)
      simp [Same, SessionsDb.putToken, rotates_id rotates, different]
  | digest value =>
      constructor
      · intro absent other member
        obtain ⟨old, oldMember, same⟩ := used_token_identity rotates member
        rw [congrArg RefreshTokenIdentity.tokenDigest same]
        exact absent old oldMember
      · intro absent other member
        by_cases same : other.id = token.id
        · rw [KeyedTable.eq_of_key member rotates.tokenStored same,
            ← congrArg RefreshTokenIdentity.tokenDigest rotates.same]
          exact absent used ((mem_used_tokens rotates).mpr (Or.inl rfl))
        · exact absent other ((mem_used_tokens rotates).mpr (Or.inr ⟨member, same⟩))
  | password tenantId userId => trivial
  | tenant id | credential id => rfl

theorem rotated_keeps (consistent : Consistent db)
    (rotates : Rotates held db family token used child) :
    Keeps held db (rotate used child db) where
  consistent := rotated_consistent consistent rotates
  evolves := rotated_evolves rotates
  untouched _ free := rotated_untouched rotates free

end Rotate

end Tokens

section Accounts

variable {held : List SessionsKey} {db : SessionsDb}

/-- A write that changes credentials under their locks. -/
theorem credentials_keep {credentials : CredentialTable} (consistent : Consistent db)
    (others : ∀ userId, SessionsKey.credential userId ∉ held →
      db.credentials.find userId = credentials.find userId) :
    Keeps held db { db with credentials := credentials } where
  consistent := ⟨consistent.chained, consistent.owned, consistent.digests, consistent.lifetimes,
    consistent.holders⟩
  evolves := ⟨(evolves_refl db).families, (evolves_refl db).tokens, fun _ present => present,
    le_refl _⟩
  untouched key free := by
    cases key with
    | user id => exact ⟨rfl, fun family member _ => ⟨family, member, rfl⟩⟩
    | family id => exact ⟨rfl, rfl⟩
    | password tenantId userId => trivial
    | digest value => exact Iff.rfl
    | credential userId => exact others userId free
    | tenant id | token id => rfl

/-- A write that changes users under their locks and the lock of their tenant. -/
theorem users_keep {users : UserTable} (consistent : Consistent db)
    (stay : ∀ row ∈ db.users, ∃ later ∈ users, later.id = row.id ∧ later.tenantId = row.tenantId)
    (others : ∀ id, SessionsKey.user id ∉ held → db.users.find id = users.find id)
    (tenants : ∀ id, SessionsKey.tenant id ∉ held →
      db.users.rows.filter (fun row => row.tenantId = id) =
        users.rows.filter fun row => row.tenantId = id) :
    Keeps held db { db with users := users } where
  consistent :=
    { chained := consistent.chained
      owned := consistent.owned
      digests := consistent.digests
      lifetimes := consistent.lifetimes
      holders := by
        intro family member
        obtain ⟨tenant, holder⟩ := consistent.holders family member
        obtain ⟨row, found⟩ := Option.isSome_iff_exists.mp holder
        obtain ⟨stored, sameTenant⟩ := Option.filter_eq_some_iff.mp found
        obtain ⟨later, laterMember, sameId, laterTenant⟩ :=
          stay row (KeyedTable.mem_of_find stored)
        have rowId := KeyedTable.key_of_find stored
        have laterFound : users.find family.userId = some later :=
          KeyedTable.find_eq_some.mpr ⟨laterMember, sameId.trans rowId⟩
        refine ⟨tenant, ?_⟩
        have rowTenant : row.tenantId = family.tenantId := of_decide_eq_true sameTenant
        simp [SessionsDb.findUser, laterFound, laterTenant, rowTenant] }
  evolves := ⟨(evolves_refl db).families, (evolves_refl db).tokens, fun _ present => present,
    le_refl _⟩
  untouched key free := by
    cases key with
    | user id => exact ⟨others id free, fun family member _ => ⟨family, member, rfl⟩⟩
    | family id => exact ⟨rfl, rfl⟩
    | password tenantId userId => trivial
    | digest value => exact Iff.rfl
    | tenant id => exact tenants id free
    | credential id | token id => rfl

theorem put_user_keeps {old row : User} (consistent : Consistent db) (member : old ∈ db.users)
    (sameId : row.id = old.id) (sameTenant : row.tenantId = old.tenantId)
    (userKey : SessionsKey.user row.id ∈ held) (tenantKey : SessionsKey.tenant row.tenantId ∈ held) :
    Keeps held db (db.putUser row) := by
  refine users_keep consistent ?_ ?_ ?_
  · intro other otherMember
    by_cases same : other.id = row.id
    · have sameRow : other = old := KeyedTable.eq_of_key otherMember member (same.trans sameId)
      refine ⟨row, KeyedTable.mem_put.mpr (Or.inl ⟨rfl, other, otherMember, same⟩), same.symm, ?_⟩
      rw [sameRow, sameTenant]
    · exact ⟨other, KeyedTable.mem_put.mpr (Or.inr ⟨otherMember, same⟩), rfl, rfl⟩
  · intro id free
    have different : row.id ≠ id := fun same => free (same ▸ userKey)
    simp [different]
  · intro id free
    have different : row.tenantId ≠ id := fun same => free (same ▸ tenantKey)
    symm
    refine KeyedTable.filter_put_of_not ?_ (decide_eq_false different)
    intro other otherMember same
    rw [KeyedTable.eq_of_key otherMember member (same.trans sameId), ← sameTenant]
    exact decide_eq_false different

theorem insert_user_keeps {row : User} (consistent : Consistent db)
    (fresh : db.users.find row.id = none) (userKey : SessionsKey.user row.id ∈ held)
    (tenantKey : SessionsKey.tenant row.tenantId ∈ held) : Keeps held db (db.insertUser row) := by
  refine users_keep consistent ?_ ?_ ?_
  · intro other otherMember
    exact ⟨other, KeyedTable.mem_insert_of_mem otherMember, rfl, rfl⟩
  · intro id free
    have different : row.id ≠ id := fun same => free (same ▸ userKey)
    simp [different]
  · intro id free
    have different : row.tenantId ≠ id := fun same => free (same ▸ tenantKey)
    simp [KeyedTable.filter_insert fresh, different]

end Accounts

end CommitmentOptimizer.Sessions.SessionInvariants
