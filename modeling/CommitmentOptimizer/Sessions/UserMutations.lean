import CommitmentOptimizer.Foundations.TransactionFrames
import CommitmentOptimizer.Sessions.SessionVerification

/-!
# What a transaction does to the users of its tenant

Only `createUser` and `patch` write to `users`. The contract of the session
tables is strengthened by what their commits store.
-/

namespace CommitmentOptimizer.Sessions.UserMutations

open Foundations
open Foundations.SqlConstraints
open Foundations.RowLocking
open Foundations.TransactionFrames
open Tenants.Users
open SessionTables
open SessionTransactions
open SessionInvariants
open SessionVerification

set_option autoImplicit false

/-- The committed patch turns `current` into `user`. -/
structure Overwrites (input : UserPatchInput) (now : Instant) (before : SessionsDb)
    (current user : User) (after : SessionsDb) : Prop where
  found : before.findUser input.tenantId input.userId = some current
  version : current.updatedAt = input.expectedUpdatedAt
  written : user = { input.changes.apply current with updatedAt := now }
  admins : isAdminRemoval current input.changes = true →
    2 ≤ activeAdminCount before.users input.tenantId
  users : after.users = before.users.put user

/-- What a committed request has done to the users. -/
def UserPromised : SessionsRequest → SessionsDb → SessionsValue → SessionsDb → SessionsDb → Prop
  | .createUser _ _ _, begun, _, before, after =>
      ∃ row, row.updatedAt = begun.clock ∧ after.users = before.users.insert row
  | .patchUser input, begun, value, before, after =>
      match value with
      | .patched (.updated user) => ∃ current, Overwrites input begun.clock before current user after
      | _ => after = before
  | _, _, _, before, after => after.users = before.users

def usersContract :
    Contract SessionsDb SessionsKey SessionsAbort SessionsValue SessionsRequest :=
  { sessionsContract with
    onCommit := UserPromised
    onAbort := fun _ _ _ _ => True }

theorem patch_promised_cases {input : UserPatchInput} {begun before after : SessionsDb}
    {value : SessionsValue}
    (promised : usersContract.onCommit (.patchUser input) begun value before after) :
    (∃ user current, value = .patched (.updated user) ∧
        Overwrites input begun.clock before current user after) ∨
      ((∀ user, value ≠ .patched (.updated user)) ∧ after = before) := by
  cases value with
  | patched result =>
      cases result with
      | updated user =>
          obtain ⟨current, overwrites⟩ := promised
          exact Or.inl ⟨user, current, rfl, overwrites⟩
      | notFound | versionConflict | lastAdmin => exact Or.inr ⟨by simp, promised⟩
  | _ => exact Or.inr ⟨by simp, promised⟩

section Frames

/-- The part of the database that only the user mutations write. -/
abbrev KeepsUsers {Value : Type} (program : SessionsTxn Value) : Prop :=
  Preserves SessionsDb.users program

variable {now : Instant} {tenantId userId : Uuid} {reason : RevocationReason}

theorem revoke_family_keeps_users {matching : RefreshFamily → Bool} {id : Uuid} :
    KeepsUsers (revokeFamily now reason matching id) := by
  refine preserves_then (preserves_selectForUpdate _ _) fun matched => ?_
  cases matched with
  | none => exact preserves_pure none
  | some old =>
      refine preserves_then (preserves_attempt _) fun row => ?_
      exact preserves_then (preserves_save fun _ => rfl) fun _ => preserves_pure _

theorem revoke_families_keep_users : KeepsUsers (revokeFamilies now tenantId userId reason) :=
  preserves_then preserves_view fun _ =>
    preserves_forEach (fun _ => revoke_family_keeps_users) _ _

theorem insert_family_keeps_users (new : RefreshFamily) : KeepsUsers (insertFamily new) := by
  refine preserves_then (preserves_attempt _) fun row => ?_
  refine preserves_then (preserves_lockRow _) fun _ => ?_
  refine preserves_then preserves_view fun db => ?_
  refine preserves_then (preserves_attempt _) fun _ => ?_
  refine preserves_then (preserves_attempt _) fun _ => ?_
  refine preserves_then (preserves_attempt _) fun _ => ?_
  exact preserves_save fun _ => rfl

theorem insert_token_keeps_users (new : RefreshToken) : KeepsUsers (insertToken new) := by
  refine preserves_then (preserves_attempt _) fun row => ?_
  refine preserves_then (preserves_lockRow _) fun _ => ?_
  refine preserves_then (preserves_lockRow _) fun _ => ?_
  refine preserves_then preserves_view fun db => ?_
  refine preserves_then (preserves_attempt _) fun _ => ?_
  refine preserves_then (preserves_attempt _) fun _ => ?_
  exact preserves_save fun _ => rfl

theorem mark_used_keeps_users {id : Uuid} : KeepsUsers (markUsed now id) := by
  refine preserves_then (preserves_selectForUpdate _ _) fun matched => ?_
  cases matched with
  | none => exact preserves_pure none
  | some old =>
      refine preserves_then (preserves_attempt _) fun row => ?_
      exact preserves_then (preserves_save fun _ => rfl) fun _ => preserves_pure _

theorem lock_login_proof_keeps_users {email : String} :
    KeepsUsers (lockLoginProof tenantId email) := by
  refine preserves_then (preserves_selectForUpdate _ _) fun tenant => ?_
  have lockedUser : KeepsUsers (lockUserByEmail tenantId email) := by
    refine preserves_then preserves_view fun db => ?_
    cases db.findUserByEmail tenantId email with
    | none => exact preserves_pure none
    | some found =>
        refine preserves_then (preserves_lockRow _) fun _ => ?_
        exact preserves_then preserves_view fun _ => preserves_pure _
  refine preserves_then lockedUser fun user => ?_
  cases tenant with
  | none => exact preserves_pure none
  | some tenantActive =>
      cases user with
      | none => exact preserves_pure none
      | some identity =>
          exact preserves_then (preserves_selectForUpdate _ _) fun _ => preserves_pure _

theorem login_keeps_users (runtime : SessionRuntime) (request : LoginRequest)
    (begun : SessionsDb) : KeepsUsers (login runtime request begun) := by
  have transaction (expected : String) :
      KeepsUsers (loginTransaction runtime request expected) := by
    refine preserves_then preserves_view fun db => ?_
    refine preserves_then lock_login_proof_keeps_users fun proof => ?_
    cases proof with
    | none => exact preserves_pure _
    | some locked =>
        dsimp only
        split_ifs
        · exact preserves_pure _
        · refine preserves_then ?_ fun issue => preserves_pure _
          refine preserves_then (insert_family_keeps_users _) fun _ => ?_
          exact preserves_then (insert_token_keeps_users _) fun _ => preserves_pure _
        · exact preserves_pure _
        · exact preserves_pure _
  unfold login
  dsimp only
  split
  · exact preserves_abort _
  · split
    · exact preserves_pure _
    · split_ifs
      · exact preserves_pure _
      · exact transaction _

theorem refresh_keeps_users (runtime : SessionRuntime) (input : RefreshRotateInput)
    (begun : SessionsDb) : KeepsUsers (refresh runtime input begun) := by
  unfold refresh
  split
  · exact preserves_pure _
  · refine preserves_then preserves_view fun db => ?_
    refine preserves_then (preserves_selectForUpdate _ _) fun family => ?_
    cases family with
    | none => exact preserves_pure _
    | some found =>
        refine preserves_then preserves_view fun later => ?_
        split
        · exact preserves_pure _
        · split_ifs
          · exact preserves_pure _
          · exact preserves_pure _
          · refine preserves_then revoke_family_keeps_users fun revoked => ?_
            cases revoked with
            | none => exact preserves_abort _
            | some row => exact preserves_pure _
          · exact preserves_pure _
          · refine preserves_then ?_ fun issue => preserves_pure _
            refine preserves_then ?_ fun _ => preserves_pure _
            refine preserves_then mark_used_keeps_users fun marked => ?_
            cases marked with
            | none => exact preserves_abort _
            | some token => exact insert_token_keeps_users _
          · exact preserves_then revoke_family_keeps_users fun _ => preserves_pure _
          · exact preserves_then revoke_family_keeps_users fun _ => preserves_pure _

theorem logout_keeps_users (input : LogoutInput) (begun : SessionsDb) :
    KeepsUsers (logout input begun) := by
  unfold logout
  split
  · exact preserves_pure _
  · refine preserves_then preserves_view fun db => ?_
    refine preserves_then (preserves_selectForUpdate _ _) fun family => ?_
    cases family with
    | none => exact preserves_pure _
    | some found =>
        refine preserves_then preserves_view fun later => ?_
        split
        · exact preserves_pure _
        · split_ifs
          · exact preserves_pure _
          · exact preserves_pure _
          · refine preserves_then revoke_family_keeps_users fun revoked => ?_
            cases revoked with
            | none => exact preserves_abort _
            | some row => exact preserves_pure _

theorem set_password_keeps_users (input : UserPasswordMutationInput) (begun : SessionsDb) :
    KeepsUsers (setPassword input begun) := by
  have credential (existed : Bool) : KeepsUsers (writeCredential input begun.clock existed) := by
    unfold writeCredential
    split_ifs
    · refine preserves_then (preserves_selectForUpdate _ _) fun found => ?_
      cases found with
      | none => exact preserves_abort _
      | some old =>
          exact preserves_then (preserves_attempt _) fun _ => preserves_save fun _ => rfl
    · refine preserves_then (preserves_attempt _) fun _ => ?_
      refine preserves_then (preserves_lockRow _) fun _ => ?_
      refine preserves_then preserves_view fun db => ?_
      refine preserves_then (preserves_attempt _) fun _ => ?_
      refine preserves_then (preserves_attempt _) fun _ => ?_
      refine preserves_then (preserves_attempt _) fun _ => ?_
      exact preserves_save fun _ => rfl
  refine preserves_then (preserves_selectForUpdate _ _) fun tenant => ?_
  cases tenant with
  | none => exact preserves_abort _
  | some tenantActive =>
      refine preserves_then (preserves_selectForUpdate _ _) fun user => ?_
      cases user with
      | none => exact preserves_abort _
      | some found =>
          refine preserves_then (preserves_lockRow _) fun _ => ?_
          refine preserves_then (preserves_selectForUpdate _ _) fun existed => ?_
          refine preserves_then (credential _) fun _ => ?_
          exact preserves_then revoke_families_keep_users fun _ => preserves_pure _

end Frames

section Promises

/-- What a request promises about the users, wherever the database has moved. -/
abbrev Promises (request : SessionsRequest) (begun : SessionsDb)
    (program : SessionsTxn SessionsValue) (held : List SessionsKey)
    (pending : SessionsDb → SessionsDb) (seen : SessionsDb) : Prop :=
  program.Meets Rely
    (fun value held pending seen => ∀ now, Rely held seen now →
      UserPromised request begun value now (pending now))
    (fun _ _ _ => True) held pending seen

variable {seen now begun : SessionsDb} {held : List SessionsKey} {input : UserPatchInput}

theorem keeps_users_promised {program : SessionsTxn SessionsValue} {request : SessionsRequest}
    (kept : KeepsUsers program) (promised : ∀ value before after,
      after.users = before.users → UserPromised request begun value before after) :
    Promises request begun program [] (fun db => db) begun := by
  have unwritten : ∀ db : SessionsDb, db.users = (id db).users := fun _ => rfl
  exact meets_weaken (fun value _ pending _ same now _ => promised value now (pending now) (same now))
    (fun _ _ _ _ => trivial) (meets_frame kept unwritten)

/-- A tenant's lock keeps the number of its active admins. -/
theorem active_admins_stay {tenantId : Uuid} (moved : Rely held seen now)
    (member : SessionsKey.tenant tenantId ∈ held) :
    activeAdminCount now.users tenantId = activeAdminCount seen.users tenantId := by
  have sameRows : seen.users.rows.filter (fun row => row.tenantId = tenantId) =
      now.users.rows.filter fun row => row.tenantId = tenantId := moved.2.2 _ member
  have counted : ∀ users : UserTable, activeAdminCount users tenantId =
      ((users.rows.filter fun row => row.tenantId = tenantId).filter
        fun row => row.role = .tenantAdmin && row.isActive).length := by
    intro users
    rw [activeAdminCount, List.filter_filter]
    refine congrArg List.length (List.filter_congr fun row _ => ?_)
    rw [Bool.and_assoc, Bool.and_comm]
  rw [counted, counted, sameRows]

/-- What `patchLocked` does once it has decided to write. -/
theorem patch_writes_promised {first now : SessionsDb} {current user : User}
    (found : first.findUser input.tenantId input.userId = some current)
    (version : current.updatedAt = input.expectedUpdatedAt)
    (written : user = { input.changes.apply current with updatedAt := begun.clock })
    (admins : isAdminRemoval current input.changes = true →
      2 ≤ activeAdminCount first.users input.tenantId)
    (userKey : SessionsKey.user input.userId ∈ held)
    (tenantKey : SessionsKey.tenant input.tenantId ∈ held)
    (moved : Rely held first now) :
    Promises (.patchUser input) begun
      (match familyRevocationReason current input.changes with
        | none => return .patched (.updated user)
        | some reason => do
            let _ ← revokeFamilies begun.clock input.tenantId input.userId reason
            return .patched (.updated user)) held (fun db => db.putUser user) now := by
  have overwrites : ∀ later after, Rely held first later →
      after.users = later.users.put user →
      Overwrites input begun.clock later current user after := by
    intro later after laterMoved stored
    refine ⟨?_, version, written, ?_, stored⟩
    · rw [SessionsDb.findUser, rely_user laterMoved userKey]
      exact found
    · rw [active_admins_stay laterMoved tenantKey]
      exact admins
  cases familyRevocationReason current input.changes with
  | none =>
      exact fun later laterMoved =>
        ⟨current, overwrites later _ (Contract.rely_trans moved laterMoved) rfl⟩
  | some reason =>
      have written : ∀ db : SessionsDb, (db.putUser user).users = (db.putUser user).users :=
        fun _ => rfl
      rw [Promises, Txn.meets_then]
      refine meets_weaken ?_ (fun _ _ _ _ => trivial) (meets_and
        (meets_frame revoke_families_keep_users written)
        (meets_moves (List.Subset.refl held) moved))
      rintro found keys pending seen ⟨same, subset, onward⟩ later laterMoved
      refine ⟨current, overwrites later _ ?_ (same later)⟩
      exact Contract.rely_trans onward (Contract.rely_subset subset laterMoved)

theorem patch_promised (runtime : SessionRuntime) :
    Promises (.patchUser input) begun (patchUser runtime.locale input begun) [] (fun db => db)
      begun := by
  simp only [Promises, patchUser, withTenantTransaction, lockTenant, Txn.meets_then]
  apply Contract.meets_select
  · exact fun _ _ _ => trivial
  · intro now _
    cases now.tenants input.tenantId with
    | none => trivial
    | some tenant =>
        simp only [patchLocked, lockUser, Txn.meets_then]
        apply Contract.meets_select
        · exact fun _ _ _ _ _ => rfl
        · intro first _
          cases found : first.findUser input.tenantId input.userId with
          | none => exact fun _ _ => rfl
          | some current =>
              dsimp only
              split_ifs with changed
              · exact fun _ _ => rfl
              · rw [Txn.meets_then, Txn.meets_view]
                intro counted countedMoved
                split_ifs with last
                · exact fun _ _ => rfl
                · rw [Txn.meets_then]
                  apply meets_updateUser
                  · exact fun _ _ _ => trivial
                  · exact fun _ _ _ => trivial
                  · intro second third old row secondMoved again thirdMoved written
                    have before : Rely _ first second :=
                      Contract.rely_trans countedMoved secondMoved
                    have sameOld : old = current := by
                      rw [SessionsDb.findUser, rely_user before (by simp)] at again
                      exact Option.some.inj (again.symm.trans found)
                    subst sameOld
                    have onward : Rely _ first third := Contract.rely_trans before
                      (Contract.rely_subset (List.subset_cons_self _ _) thirdMoved)
                    refine patch_writes_promised again (not_not.mp changed) written ?_ (by simp)
                      (by simp) thirdMoved
                    intro removal
                    rw [active_admins_stay secondMoved (by simp)]
                    exact Nat.lt_of_not_le fun few => last ⟨removal, few⟩

theorem create_promised (runtime : SessionRuntime) (id tenantId : Uuid) (input : UserCreateInput) :
    Promises (.createUser id tenantId input) begun
      (createUser id tenantId input runtime.locale begun) [] (fun db => db) begun := by
  simp only [Promises, createUser, withTenantTransaction, lockTenant, Txn.meets_then]
  apply Contract.meets_select
  · exact fun _ _ _ => trivial
  · intro now _
    cases now.tenants tenantId with
    | none => trivial
    | some tenant =>
        simp only [Txn.meets_then, Txn.meets_attempt, Txn.meets_lockRow, Txn.meets_view,
          Txn.meets_save, Txn.meets_pure]
        refine ⟨fun row accepted _ _ _ _ => ?_, fun _ _ => trivial⟩
        refine ⟨fun _ _ => ⟨fun _ _ => ⟨fun _ _ => ?_, fun _ _ => trivial⟩, fun _ _ => trivial⟩,
          fun _ _ => trivial⟩
        obtain rfl := insert_user_row_ok (map_error_ok.mp accepted)
        exact fun _ _ => ⟨_, rfl, rfl⟩

/-- The session repositories keep what is promised about the users. -/
theorem users_verified (runtime : SessionRuntime) :
    usersContract.Verified (sessionsProgram runtime) sessionsDrift where
  requests request begun consistent := by
    have promised : Promises request begun (sessionsProgram runtime request begun) []
        (fun db => db) begun := by
      cases request with
      | login request =>
          exact keeps_users_promised (login_keeps_users runtime request begun) fun _ _ _ same => same
      | refresh input =>
          exact keeps_users_promised (refresh_keeps_users runtime input begun)
            fun _ _ _ same => same
      | logout input =>
          exact keeps_users_promised (logout_keeps_users input begun) fun _ _ _ same => same
      | setPassword input =>
          exact keeps_users_promised (set_password_keeps_users input begun) fun _ _ _ same => same
      | createUser id tenantId input => exact create_promised runtime id tenantId input
      | patchUser input => exact patch_promised runtime
    refine meets_weaken ?_ (fun _ _ _ _ _ _ => trivial)
      (meets_and ((sessions_verified runtime).requests request begun consistent) promised)
    rintro value held pending seen ⟨committable, kept⟩ now moved
    obtain ⟨holds, evolved, untouched, _⟩ := committable now moved
    exact ⟨holds, evolved, untouched, kept now moved⟩
  drifts := (sessions_verified runtime).drifts

end Promises

end CommitmentOptimizer.Sessions.UserMutations
