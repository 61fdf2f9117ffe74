import CommitmentOptimizer.Foundations.KeyedTable
import CommitmentOptimizer.Foundations.SqlConstraints

/-!
# Credentials, refresh families and refresh tokens

Rows, CHECK constraints and triggers of `user_auth_credentials`,
`auth_refresh_families` and `auth_refresh_tokens` (migrations 0006 to 0008).
`now` is the transaction timestamp, which is what `now()` means in a trigger.
-/

namespace CommitmentOptimizer.Sessions.SessionTables

open Foundations
open Foundations.SqlConstraints

set_option autoImplicit false

structure Credential where
  userId : Uuid
  tenantId : Uuid
  passwordHash : String
  passwordChangedAt : Instant
  createdAt : Instant
  updatedAt : Instant
  deriving DecidableEq, Repr

abbrev CredentialTable := KeyedTable fun row : Credential => row.userId

def Credential.checks (row : Credential) : List (String × Bool) :=
  [("user_auth_credentials_password_hash_check",
     row.passwordHash == btrim row.passwordHash && row.passwordHash != "" &&
     row.passwordHash.utf8ByteSize ≤ 512 &&
     "$argon2id$v=19$".toList.isPrefixOf row.passwordHash.toList),
   ("user_auth_credentials_timestamps_ordered_check",
     row.createdAt ≤ row.passwordChangedAt && row.createdAt ≤ row.updatedAt)]

/-- `set_user_auth_credentials_updated_at`, then the CHECK constraints. -/
def updateCredentialRow (now : Instant) (old new : Credential) : Except DbError Credential := do
  require (new.userId = old.userId && new.tenantId = old.tenantId)
    (raised "credential identity is immutable" "23514")
  let row := { new with createdAt := old.createdAt, updatedAt := now }
  checkAll row.checks
  return row

inductive RevocationReason where
  | logout | reuseDetected | passwordReset | userInactive | tenantInactive | roleChanged
  | operatorRevoked
  deriving DecidableEq, Repr

/-- The columns the trigger freezes. -/
structure RefreshFamilyIdentity where
  id : Uuid
  tenantId : Uuid
  userId : Uuid
  absoluteExpiresAt : Instant
  createdAt : Instant
  deriving DecidableEq, Repr

structure RefreshFamily extends RefreshFamilyIdentity where
  revokedAt : Option Instant
  revocationReason : Option RevocationReason
  updatedAt : Instant
  deriving DecidableEq, Repr

abbrev RefreshFamilyTable := KeyedTable fun row : RefreshFamily => row.id

def RefreshFamily.checks (row : RefreshFamily) : List (String × Bool) :=
  [("auth_refresh_families_absolute_expiry_check", row.createdAt < row.absoluteExpiresAt),
   ("auth_refresh_families_revocation_chronology_check", row.revokedAt.all (row.createdAt ≤ ·)),
   ("auth_refresh_families_revocation_coupling_check",
     row.revokedAt.isNone == row.revocationReason.isNone),
   ("auth_refresh_families_timestamps_ordered_check", row.createdAt ≤ row.updatedAt)]

/-- `set_auth_refresh_families_updated_at`. -/
def enforceFamilyUpdate (now : Instant) (old new : RefreshFamily) :
    Except DbError RefreshFamily :=
  if new.toRefreshFamilyIdentity ≠ old.toRefreshFamilyIdentity then
    .error (raised "family identity and lifetime are immutable" "23514")
  else if old.revokedAt.isSome ∧
      (new.revokedAt ≠ old.revokedAt ∨ new.revocationReason ≠ old.revocationReason) then
    .error (raised "revocation is immutable" "23514")
  else .ok { new with updatedAt := now }

def updateFamilyRow (now : Instant) (old new : RefreshFamily) : Except DbError RefreshFamily := do
  let row ← enforceFamilyUpdate now old new
  checkAll row.checks
  return row

def insertFamilyRow (new : RefreshFamily) : Except DbError RefreshFamily := do
  checkAll new.checks
  return new

/-- A digest as stored in a `BYTEA` column. -/
abbrev Digest := List UInt8

/-- The columns the trigger freezes. -/
structure RefreshTokenIdentity where
  id : Uuid
  tenantId : Uuid
  familyId : Uuid
  parentTokenId : Option Uuid
  tokenDigest : Digest
  csrfDigest : Digest
  idleExpiresAt : Instant
  createdAt : Instant
  deriving DecidableEq

structure RefreshToken extends RefreshTokenIdentity where
  usedAt : Option Instant
  updatedAt : Instant
  deriving DecidableEq

abbrev RefreshTokenTable := KeyedTable fun row : RefreshToken => row.id

def RefreshToken.checks (row : RefreshToken) : List (String × Bool) :=
  [("auth_refresh_tokens_csrf_digest_length_check", row.csrfDigest.length == 32),
   ("auth_refresh_tokens_idle_expiry_check", row.createdAt < row.idleExpiresAt),
   ("auth_refresh_tokens_parent_not_self_check", row.parentTokenId != some row.id),
   ("auth_refresh_tokens_timestamps_ordered_check",
     row.usedAt.all (row.createdAt ≤ ·) && row.createdAt ≤ row.updatedAt),
   ("auth_refresh_tokens_token_digest_length_check", row.tokenDigest.length == 32)]

/-- `mark_auth_refresh_token_used`. -/
def enforceTokenUpdate (now : Instant) (old new : RefreshToken) : Except DbError RefreshToken :=
  if new.toRefreshTokenIdentity ≠ old.toRefreshTokenIdentity then
    .error (raised "token identity and lifetime are immutable" "23514")
  else if old.usedAt.isSome ∨ new.usedAt.isNone then
    .error (raised "token use is immutable" "23514")
  else .ok { new with usedAt := some now, updatedAt := now }

def updateTokenRow (now : Instant) (old new : RefreshToken) : Except DbError RefreshToken := do
  let row ← enforceTokenUpdate now old new
  checkAll row.checks
  return row

def insertTokenRow (new : RefreshToken) : Except DbError RefreshToken := do
  checkAll new.checks
  return new

section Rules

variable {now : Instant}

theorem update_credential_row_ok {old new row : Credential}
    (accepted : updateCredentialRow now old new = .ok row) :
    row.userId = old.userId ∧ row.tenantId = old.tenantId ∧
      row.passwordHash = new.passwordHash := by
  obtain ⟨_, identity, accepted⟩ := bind_ok.mp accepted
  obtain ⟨_, _, stored⟩ := bind_ok.mp accepted
  cases stored
  have same := require_ok.mp identity
  simp only [Bool.and_eq_true, decide_eq_true_eq] at same
  exact ⟨same.1, same.2, rfl⟩

/-- The row an UPDATE that revokes a family stores. -/
def RefreshFamily.revoked (row : RefreshFamily) (now : Instant) (reason : RevocationReason) :
    RefreshFamily :=
  { row with revokedAt := some now, revocationReason := some reason, updatedAt := now }

/-- A family can be revoked by the transactions that did not begin before it. -/
theorem revoke_family_row {old : RefreshFamily} {reason : RevocationReason}
    (unrevoked : old.revokedAt = none) (lifetime : old.createdAt < old.absoluteExpiresAt) :
    updateFamilyRow now old
        { old with revokedAt := some now, revocationReason := some reason } =
      if old.createdAt ≤ now then .ok (old.revoked now reason)
      else .error (checkViolation "auth_refresh_families_revocation_chronology_check") := by
  have triggered : enforceFamilyUpdate now old
      { old with revokedAt := some now, revocationReason := some reason } =
      .ok (old.revoked now reason) := by
    simp [enforceFamilyUpdate, RefreshFamily.revoked, unrevoked]
  simp only [updateFamilyRow, triggered, bind, Except.bind, RefreshFamily.checks]
  by_cases later : old.createdAt ≤ now
  · simp [checkAll, RefreshFamily.revoked, lifetime, later, pure, Except.pure]
  · simp [checkAll, RefreshFamily.revoked, lifetime, later]

theorem insert_family_row_ok {new row : RefreshFamily}
    (accepted : insertFamilyRow new = .ok row) :
    row = new ∧ new.createdAt < new.absoluteExpiresAt := by
  obtain ⟨_, checked, stored⟩ := bind_ok.mp accepted
  cases stored
  have lifetime := check_all_ok.mp checked _ List.mem_cons_self
  exact ⟨rfl, of_decide_eq_true lifetime⟩

theorem update_token_row_ok {old new row : RefreshToken}
    (accepted : updateTokenRow now old new = .ok row) :
    row.toRefreshTokenIdentity = old.toRefreshTokenIdentity ∧ row.usedAt = some now ∧
      old.usedAt = none := by
  obtain ⟨enforced, triggered, accepted⟩ := bind_ok.mp accepted
  obtain ⟨_, _, stored⟩ := bind_ok.mp accepted
  cases stored
  unfold enforceTokenUpdate at triggered
  split_ifs at triggered with frozen spent
  cases triggered
  have unused : old.usedAt = none := by simpa using (not_or.mp spent).1
  exact ⟨not_not.mp frozen, rfl, unused⟩

theorem insert_token_row_ok {new row : RefreshToken} (accepted : insertTokenRow new = .ok row) :
    row = new := by
  obtain ⟨_, _, stored⟩ := bind_ok.mp accepted
  cases stored
  rfl

end Rules

end CommitmentOptimizer.Sessions.SessionTables
