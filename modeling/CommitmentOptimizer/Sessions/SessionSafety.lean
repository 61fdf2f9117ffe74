import CommitmentOptimizer.Sessions.SessionVerification

/-!
# Safety of the refresh families

What every interleaving of the session transactions keeps.
-/

namespace CommitmentOptimizer.Sessions.SessionSafety

open Foundations
open Foundations.Schedules
open Foundations.SqlConstraints
open Foundations.RowLocking
open Tenants.Users
open SessionTables
open SessionTransactions
open SessionInvariants
open SessionVerification

set_option autoImplicit false

/-- The tokens of a family form one chain by parent token. -/
def LinearFamilies (db : SessionsDb) : Prop :=
  ∀ family ∈ db.families, LinearChain (db.familyTokens family.id)

/-- At most one token of a family is unused. -/
def OneUnused (db : SessionsDb) : Prop :=
  ∀ left ∈ db.tokens, ∀ right ∈ db.tokens, left.familyId = right.familyId →
    left.usedAt = none → right.usedAt = none → left = right

/-- A token has at most one successor. -/
def OneSuccessor (db : SessionsDb) : Prop :=
  ∀ token ∈ db.tokens, ∀ left ∈ db.tokens, ∀ right ∈ db.tokens,
    left.parentTokenId = some token.id → right.parentTokenId = some token.id → left = right

/-- A token belongs to a family that does not expire before it. -/
def IdleWithinFamily (db : SessionsDb) : Prop :=
  ∀ token ∈ db.tokens, ∃ family ∈ db.families, family.id = token.familyId ∧
    token.idleExpiresAt ≤ family.absoluteExpiresAt

/-- A family that is revoked in `before` stays as it is and receives no token. -/
def RevokedForGood (before after : SessionsDb) : Prop :=
  ∀ family ∈ before.families, family.revokedAt ≠ none →
    family ∈ after.families ∧ after.familyTokens family.id = before.familyTokens family.id

/-- A refresh that runs to its end leaves a family revoked when the token it
presents was used and came with its CSRF value. -/
def ReusePunished (runtime : SessionRuntime) (system : SessionsSystem) : Prop :=
  ∀ id session input next, system.session id = some session → session.request = .refresh input →
    sessionsStep runtime system (.advance id) = some next → next.session id = none →
    ReuseRevokes input session.begun next.db

variable {runtime : SessionRuntime}

theorem mem_family_tokens {db : SessionsDb} {familyId : Uuid} {token : RefreshToken} :
    token ∈ db.familyTokens familyId ↔ token ∈ db.tokens ∧ token.familyId = familyId := by
  simp [SessionsDb.familyTokens, KeyedTable.mem_rows]

theorem family_tokens_distinct (db : SessionsDb) (familyId : Uuid) :
    ((db.familyTokens familyId).map (·.id)).Nodup :=
  (List.Sublist.map _ List.filter_sublist).nodup db.tokens.distinct

theorem consistent_one_unused {db : SessionsDb} (consistent : Consistent db) : OneUnused db := by
  intro left leftMember right rightMember same leftUnused rightUnused
  obtain ⟨family, member, familyId, _⟩ := consistent.owned left leftMember
  have chain := consistent.chained family member
  refine chain_one_unused chain (mem_family_tokens.mpr ⟨leftMember, familyId.symm⟩)
    (mem_family_tokens.mpr ⟨rightMember, ?_⟩) leftUnused rightUnused
  rw [← same, familyId]

/-- The parent of a token belongs to the family of the token. -/
theorem parent_same_family {db : SessionsDb} (consistent : Consistent db)
    {token child : RefreshToken} (member : token ∈ db.tokens) (childMember : child ∈ db.tokens)
    (parent : child.parentTokenId = some token.id) : child.familyId = token.familyId := by
  obtain ⟨family, familyMember, familyId, _⟩ := consistent.owned child childMember
  have chain := consistent.chained family familyMember
  have inFamily := mem_family_tokens.mpr ⟨childMember, familyId.symm⟩
  have mapped := List.mem_map_of_mem (f := fun row => row.parentTokenId) inFamily
  rw [chain.parents, parent, List.mem_cons] at mapped
  rcases mapped with root | listed
  · cases root
  · obtain ⟨other, otherMember, sameId⟩ := List.mem_map.mp listed
    obtain ⟨stored, otherFamily⟩ := mem_family_tokens.mp (List.dropLast_subset _ otherMember)
    have same : other = token := KeyedTable.eq_of_key stored member (Option.some.inj sameId)
    rw [← same, otherFamily, familyId]

theorem consistent_one_successor {db : SessionsDb} (consistent : Consistent db) :
    OneSuccessor db := by
  intro token member left leftMember right rightMember leftParent rightParent
  have leftFamily := parent_same_family consistent member leftMember leftParent
  have rightFamily := parent_same_family consistent member rightMember rightParent
  obtain ⟨family, familyMember, familyId, _⟩ := consistent.owned token member
  refine chain_one_successor (consistent.chained family familyMember)
    (family_tokens_distinct db family.id) (mem_family_tokens.mpr ⟨leftMember, ?_⟩)
    (mem_family_tokens.mpr ⟨rightMember, ?_⟩) (leftParent.trans rightParent.symm)
  · rw [leftFamily, familyId]
  · rw [rightFamily, familyId]

theorem consistent_idle_within_family {db : SessionsDb} (consistent : Consistent db) :
    IdleWithinFamily db := by
  intro token member
  obtain ⟨family, familyMember, familyId, _, expiry⟩ := consistent.owned token member
  exact ⟨family, familyMember, familyId, expiry⟩

theorem evolves_revoked_for_good {before after : SessionsDb} (evolves : Evolves before after) :
    RevokedForGood before after := by
  intro family member revoked
  obtain ⟨later, laterMember, _, kept⟩ := evolves.families family member
  obtain ⟨rfl, tokens⟩ := kept revoked
  exact ⟨laterMember, tokens⟩

theorem reachable_system_sound {db : SessionsDb} {system : SessionsSystem} (fresh : Fresh db)
    (reached : Reachable (sessionsStep runtime) (System.initial db) system) :
    system.Sound sessionsContract :=
  reachable_sound (sessions_verified runtime) (initial_sound (fresh_consistent fresh)) reached

theorem sound_reuse_punished {system : SessionsSystem} (sound : system.Sound sessionsContract) :
    ReusePunished runtime system := by
  intro id session input next present requested taken ended
  rcases advance_ends present taken ended with ⟨value, standing, committed⟩ |
    ⟨reason, standing, kept⟩
  · obtain ⟨_, _, _, promised⟩ := commit_sound sound present standing
    rw [requested] at promised
    rw [committed]
    exact promised.2
  · have promised := rollback_sound sound present standing
    rw [requested] at promised
    rw [kept]
    exact promised

/-- The refresh families, over every interleaving of the session transactions. -/
theorem refresh_families_safe {db : SessionsDb} {system : SessionsSystem} (fresh : Fresh db)
    (reached : Reachable (sessionsStep runtime) (System.initial db) system) :
    LinearFamilies system.db ∧ OneUnused system.db ∧ OneSuccessor system.db ∧
      IdleWithinFamily system.db ∧ ReusePunished runtime system ∧
      ∀ later, Reachable (sessionsStep runtime) system later →
        RevokedForGood system.db later.db := by
  have sound := reachable_system_sound fresh reached
  have consistent : Consistent system.db := sound.invariant
  refine ⟨consistent.chained, consistent_one_unused consistent, consistent_one_successor consistent,
    consistent_idle_within_family consistent, sound_reuse_punished sound, ?_⟩
  intro later onward
  exact evolves_revoked_for_good (reachable_evolves (sessions_verified runtime) sound onward)

section Example

def storedHash : String :=
  "$argon2id$v=19$m=65536,t=3,p=1$AAAAAAAAAAAAAAAAAAAAAA$AAAAAAAAAAAAAAAAAAAAAAAAAAAAAAAAAAAAAAAAAAA"

/-- Passwords are verified against `storedHash` only. -/
def exampleRuntime : SessionRuntime where
  locale := ⟨id, fun character => character = ' '⟩
  normalizePassword := some
  argonVerify encoded password := some (encoded = storedHash ∧ password = "correct horse")
  dummyPasswordHash :=
    "$argon2id$v=19$m=65536,t=3,p=1$AAAAAAAAAAAAAAAAAAAAAA$AAAAAAAAAAAAAAAAAAAAAAAAAAAAAAAAAAAAAAAAAAE"
  accessLifetimeSeconds := 900

/-- An identifier of version 4. -/
def exampleId (number : Nat) : Uuid := 0x40008000000000000000 + number

/-- A tenant with one user and no session. -/
def exampleDb : SessionsDb where
  tenants id := if id = exampleId 7 then some true else none
  users := KeyedTable.empty.insert
    { id := exampleId 1
      tenantId := exampleId 7
      email := "ana@acme.test"
      name := "Ana"
      role := .financeApprover
      isActive := true
      createdAt := 0
      updatedAt := 0 }
  credentials := KeyedTable.empty.insert
    { userId := exampleId 1
      tenantId := exampleId 7
      passwordHash := storedHash
      passwordChangedAt := 0
      createdAt := 0
      updatedAt := 0 }
  families := KeyedTable.empty
  tokens := KeyedTable.empty
  clock := 5 * second

theorem example_db_fresh : Fresh exampleDb where
  families := KeyedTable.not_mem_empty
  tokens := KeyedTable.not_mem_empty

def exampleDigest (number : UInt8) : Digest := List.replicate 32 number

def exampleLogin : LoginRequest where
  tenantId := exampleId 7
  email := "ana@acme.test"
  password := "correct horse"
  familyId := exampleId 10
  tokenId := exampleId 20
  tokenDigest := exampleDigest 20
  csrfDigest := exampleDigest 30

def exampleRefresh : RefreshRotateInput where
  presentedDigest := exampleDigest 20
  presentedCsrfDigest := exampleDigest 30
  childId := exampleId 21
  childTokenDigest := exampleDigest 21
  childCsrfDigest := exampleDigest 31

/-- A login, a refresh with its token, and a replay of that refresh. -/
def replayedRefresh : List SessionsAction :=
  .start 0 (.login exampleLogin) :: List.replicate 18 (.advance 0) ++
    .start 1 (.refresh exampleRefresh) :: List.replicate 14 (.advance 1) ++
    .start 2 (.refresh exampleRefresh) :: List.replicate 10 (.advance 2)

end Example

/-- A run in which a replayed token revokes its family. -/
theorem refresh_families_safe_replayed :
    ∃ system, execute (sessionsStep exampleRuntime) (System.initial exampleDb) replayedRefresh =
        some system ∧
      (system.db.families.rows.map fun row => row.revocationReason) = [some .reuseDetected] ∧
      (system.db.tokens.rows.map fun row => row.parentTokenId) = [none, some (exampleId 20)] ∧
      LinearFamilies system.db ∧ OneUnused system.db := by
  have ends : ((execute (sessionsStep exampleRuntime) (System.initial exampleDb)
      replayedRefresh).map fun system =>
        (system.db.families.rows.map fun row => row.revocationReason,
          system.db.tokens.rows.map fun row => row.parentTokenId)) =
      some ([some .reuseDetected], [none, some (exampleId 20)]) := by decide
  obtain ⟨system, arrived, rows⟩ := Option.map_eq_some_iff.mp ends
  obtain ⟨reasons, parents⟩ := Prod.mk.inj rows
  have safe := refresh_families_safe example_db_fresh ⟨_, arrived⟩
  exact ⟨system, arrived, reasons, parents, safe.1, safe.2.1⟩

end CommitmentOptimizer.Sessions.SessionSafety
