import CommitmentOptimizer.Sessions.SessionSafety

/-!
# Password resets and revoking patches against logins

A family carries the time at which its login began, and its revocation the time
at which the reset or the patch began. The tenant's lock is taken after that, so
a login that began later can insert its family first.
-/

namespace CommitmentOptimizer.Sessions.SecurityWrites

open Foundations
open Foundations.Schedules
open Foundations.SqlConstraints
open Foundations.RowLocking
open Tenants.Users
open SessionTables
open SessionTransactions
open SessionInvariants
open SessionVerification
open SessionSafety

set_option autoImplicit false

variable {runtime : SessionRuntime}

section Revocation

/-- The tenant and the user whose families a request has to revoke: the target
of a reset, or of a patch that deactivates it or changes its role. -/
def revokedUser (db : SessionsDb) : SessionsRequest → Option (Uuid × Uuid)
  | .setPassword input => some (input.tenantId, input.targetUserId)
  | .patchUser input =>
      if (db.users.find input.userId).any fun current =>
          (familyRevocationReason current input.changes).isSome then
        some (input.tenantId, input.userId)
      else none
  | _ => none

/-- The end of a transaction that has come to its UPDATE of the families. -/
def pastChecks : SessionsRequest → SessionsTxn SessionsValue → Bool
  | .setPassword _, .done (.passwordSet _) => true
  | .patchUser _, .done (.patched (.updated _)) => true
  | .setPassword _, .rollback (.families _) => true
  | .patchUser _, .rollback (.families _) => true
  | _, _ => false

def commits : SessionsTxn SessionsValue → Bool
  | .done _ => true
  | _ => false

structure SecurityWrite where
  session : Session SessionsDb SessionsKey SessionsAbort SessionsValue SessionsRequest
  tenantId : Uuid
  userId : Uuid

/-- The reset or revoking patch that has passed its own checks and that the
action ends. -/
def ending (system : SessionsSystem) : SessionsAction → Option SecurityWrite
  | .advance id => do
      let session ← system.session id
      let (tenantId, userId) ← revokedUser system.db session.request
      if pastChecks session.request session.rest then some ⟨session, tenantId, userId⟩ else none
  | _ => none

/-- The request commits, and all families of the user are revoked. -/
def Lands (runtime : SessionRuntime) (system : SessionsSystem) (action : SessionsAction) : Prop :=
  ∀ write, ending system action = some write → commits write.session.rest = true ∧
    ∀ next, sessionsStep runtime system action = some next → ∀ family ∈ next.db.families,
      belongsTo write.tenantId write.userId family = true → family.revokedAt ≠ none

/-- No unrevoked family of the user comes from a login that began later. -/
def NoLaterLogin (system : SessionsSystem) (action : SessionsAction) : Prop :=
  ∀ write, ending system action = some write → ∀ family ∈ system.db.families,
    belongsTo write.tenantId write.userId family = true → family.revokedAt = none →
    family.createdAt ≤ write.session.begun.clock

theorem ending_some {system : SessionsSystem} {action : SessionsAction} {write : SecurityWrite} :
    ending system action = some write ↔
      ∃ id, action = .advance id ∧ system.session id = some write.session ∧
        revokedUser system.db write.session.request = some (write.tenantId, write.userId) ∧
        pastChecks write.session.request write.session.rest = true := by
  cases action with
  | advance id =>
      simp only [ending, Option.bind_eq_bind, Option.bind_eq_some_iff]
      constructor
      · rintro ⟨session, present, ⟨tenantId, userId⟩, revokes, passed⟩
        split_ifs at passed with past
        cases passed
        exact ⟨id, rfl, present, revokes, past⟩
      · rintro ⟨other, same, present, revokes, past⟩
        cases same
        exact ⟨write.session, present, (write.tenantId, write.userId), revokes, by simp [past]⟩
  | start | drop | drift => simp [ending]

theorem patch_revokes {db : SessionsDb} {input : UserPatchInput} {user : Uuid × Uuid}
    (revokes : revokedUser db (.patchUser input) = some user) :
    user = (input.tenantId, input.userId) ∧ ∃ current ∈ db.users, current.id = input.userId ∧
      familyRevocationReason current input.changes ≠ none := by
  simp only [revokedUser] at revokes
  split_ifs at revokes with needed
  cases revokes
  cases found : db.users.find input.userId with
  | none => simp [found] at needed
  | some current =>
      rw [found, Option.any_some, Option.isSome_iff_ne_none] at needed
      exact ⟨rfl, current, KeyedTable.mem_of_find found, KeyedTable.key_of_find found, needed⟩

theorem past_checks {request : SessionsRequest} {rest : SessionsTxn SessionsValue}
    (past : pastChecks request rest = true) :
    (∃ error, rest = .rollback (.families error)) ∨
      (∃ input count, request = .setPassword input ∧ rest = .done (.passwordSet count)) ∨
      ∃ input user, request = .patchUser input ∧ rest = .done (.patched (.updated user)) := by
  unfold pastChecks at past
  split at past
  case h_1 input count => exact Or.inr (Or.inl ⟨input, count, rfl, rfl⟩)
  case h_2 input user => exact Or.inr (Or.inr ⟨input, user, rfl, rfl⟩)
  case h_3 error | h_4 error => exact Or.inl ⟨error, rfl⟩
  case h_5 => cases past

/-- A security write past its checks commits, or it has met a later family. -/
theorem ending_outcome {system : SessionsSystem} {action : SessionsAction} {write : SecurityWrite}
    (sound : system.Sound sessionsContract) (ends : ending system action = some write) :
    (∃ value, write.session.rest = .done value ∧
      RevokesAll write.tenantId write.userId write.session.begun.clock system.db
        (write.session.pending system.db)) ∨
    ∃ error, write.session.rest = .rollback (.families error) ∧
      LaterFamily write.tenantId write.userId write.session.begun.clock system.db := by
  obtain ⟨session, tenantId, userId⟩ := write
  obtain ⟨id, _, present, revokes, past⟩ := ending_some.mp ends
  rcases past_checks past with ⟨error, standing⟩ | ⟨input, count, requested, standing⟩ |
    ⟨input, user, requested, standing⟩
  · have promised := rollback_sound sound present standing
    refine Or.inr ⟨error, standing, ?_⟩
    cases requested : session.request with
    | setPassword input =>
        rw [requested] at revokes promised
        cases revokes
        exact promised
    | patchUser input =>
        rw [requested] at revokes promised
        obtain ⟨same, _⟩ := patch_revokes revokes
        cases same
        exact promised
    | login | refresh | logout | createUser =>
        rw [requested] at revokes
        cases revokes
  · obtain ⟨_, _, _, promised⟩ := commit_sound sound present standing
    rw [requested] at revokes promised
    cases revokes
    exact Or.inl ⟨_, standing, promised.2⟩
  · obtain ⟨_, _, _, promised⟩ := commit_sound sound present standing
    rw [requested] at revokes promised
    obtain ⟨same, current, member, sameId, reason⟩ := patch_revokes revokes
    cases same
    exact Or.inl ⟨_, standing, promised.2 user rfl current member sameId reason⟩

theorem lands_iff {system : SessionsSystem} {action : SessionsAction}
    (sound : system.Sound sessionsContract) :
    Lands runtime system action ↔ NoLaterLogin system action := by
  constructor
  · intro lands write ends
    have committed := (lands write ends).1
    rcases ending_outcome sound ends with ⟨_, _, revokes⟩ | ⟨error, refused, _⟩
    · exact revokes.dated
    · simp [refused, commits] at committed
  · intro earlier write ends
    rcases ending_outcome sound ends with ⟨value, standing, revokes⟩ | ⟨_, _, later⟩
    · refine ⟨by rw [standing]; rfl, fun next taken family member => ?_⟩
      obtain ⟨id, rfl, present, _⟩ := ending_some.mp ends
      simp only [sessionsStep, step, present, advanceSession, standing] at taken
      cases taken
      exact revokes.revoked family member
    · obtain ⟨family, member, owner, unrevoked, after⟩ := later
      exact absurd (earlier write ends family member owner unrevoked) (not_le_of_gt after)

/-- In a run every security write lands if and only if none of them meets a
family of a login that began later. -/
theorem security_writes_land_iff {db : SessionsDb} {schedule : List SessionsAction}
    (fresh : Fresh db) :
    Along (sessionsStep runtime) (Lands runtime) (System.initial db) schedule ↔
      Along (sessionsStep runtime) NoLaterLogin (System.initial db) schedule := by
  have initially : (System.initial db : SessionsSystem).Sound sessionsContract :=
    initial_sound (fresh_consistent fresh)
  constructor
  · exact along_implies
      (fun _ _ _ sound _ taken => step_sound (sessions_verified runtime) sound taken)
      (fun _ _ sound => (lands_iff sound).mp) initially
  · exact along_implies
      (fun _ _ _ sound _ taken => step_sound (sessions_verified runtime) sound taken)
      (fun _ _ sound => (lands_iff sound).mpr) initially

instance (system : SessionsSystem) (action : SessionsAction) :
    Decidable (Lands runtime system action) :=
  inferInstanceAs (Decidable (∀ write, ending system action = some write →
    commits write.session.rest = true ∧
      ∀ next, sessionsStep runtime system action = some next → ∀ family ∈ next.db.families,
        belongsTo write.tenantId write.userId family = true → family.revokedAt ≠ none))

instance (system : SessionsSystem) (action : SessionsAction) :
    Decidable (NoLaterLogin system action) :=
  inferInstanceAs (Decidable (∀ write, ending system action = some write →
    ∀ family ∈ system.db.families, belongsTo write.tenantId write.userId family = true →
      family.revokedAt = none → family.createdAt ≤ write.session.begun.clock))

def exampleReset : UserPasswordMutationInput where
  tenantId := exampleId 7
  targetUserId := exampleId 1
  passwordHash :=
    "$argon2id$v=19$m=65536,t=3,p=1$AAAAAAAAAAAAAAAAAAAAAA$AAAAAAAAAAAAAAAAAAAAAAAAAAAAAAAAAAAAAAAAAAI"

/-- A login, and a reset that begins after it. -/
def resetAfterLogin : List SessionsAction :=
  .start 0 (.login exampleLogin) :: List.replicate 18 (.advance 0) ++
    .drift (.tick second) :: .start 1 (.setPassword exampleReset) ::
    List.replicate 20 (.advance 1)

/-- A reset begins, one second passes, and a login takes the tenant's lock before it. -/
def resetBeforeLogin : List SessionsAction :=
  .start 1 (.setPassword exampleReset) :: .drift (.tick second) ::
    .start 0 (.login exampleLogin) :: List.replicate 18 (.advance 0) ++
    List.replicate 19 (.advance 1)

theorem security_writes_land_after_login :
    Along (sessionsStep exampleRuntime) (Lands exampleRuntime) (System.initial exampleDb)
      resetAfterLogin :=
  (security_writes_land_iff example_db_fresh).mpr (by decide +kernel)

/-- The reset fails on the family of the login and keeps the old password. -/
theorem reset_lost_to_login :
    ¬ ∀ (db : SessionsDb) (schedule : List SessionsAction), Fresh db →
      Along (sessionsStep exampleRuntime) (Lands exampleRuntime) (System.initial db) schedule := by
  intro always
  have lands := always exampleDb resetBeforeLogin example_db_fresh
  revert lands
  decide +kernel

end Revocation

section OldPassword

/-- No credential stores the hash and no request under way would store it. -/
structure Forgotten (hash : String) (system : SessionsSystem) : Prop where
  stored : ∀ row ∈ system.db.credentials, row.passwordHash ≠ hash
  underWay : ∀ id session input, system.session id = some session →
    session.request = .setPassword input → input.passwordHash ≠ hash

/-- The action does not begin a reset to the hash. -/
def NotRestored (hash : String) (action : SessionsAction) : Prop :=
  ∀ id input, action = .start id (.setPassword input) → input.passwordHash ≠ hash

/-- A login that has verified its password against the hash opens no session. -/
def OpensNothing (runtime : SessionRuntime) (hash : String) (system : SessionsSystem)
    (action : SessionsAction) : Prop :=
  ∀ id session request next, action = .advance id → system.session id = some session →
    session.request = .login request → verifiedHash request session.begun = some hash →
    sessionsStep runtime system action = some next →
    next.db.families = system.db.families ∧ next.db.tokens = system.db.tokens

theorem forgotten_step {system next : SessionsSystem} {action : SessionsAction} {hash : String}
    (sound : system.Sound sessionsContract) (forgotten : Forgotten hash system)
    (notRestored : NotRestored hash action)
    (taken : sessionsStep runtime system action = some next) : Forgotten hash next where
  stored := by
    rcases step_database taken with unchanged | ⟨event, _, drifted⟩ |
      ⟨id, session, value, _, present, standing, committed⟩
    · rw [unchanged]
      exact forgotten.stored
    · rw [drifted]
      cases event <;> exact forgotten.stored
    · obtain ⟨_, _, _, promised⟩ := commit_sound sound present standing
      rw [committed]
      cases requested : session.request with
      | setPassword input =>
          rw [requested] at promised
          intro row member
          rcases promised.1.others row member with old | ⟨_, new⟩
          · exact forgotten.stored row old
          · rw [new]
            exact forgotten.underWay id session input present requested
      | login | refresh | patchUser =>
          rw [requested] at promised
          rw [promised.1]
          exact forgotten.stored
      | logout | createUser =>
          rw [requested] at promised
          have same : (session.pending system.db).credentials = system.db.credentials := promised
          rw [same]
          exact forgotten.stored
  underWay id session input present requested := by
    rcases step_session taken present with started | ⟨earlier, before, sameRequest, _⟩
    · rw [requested] at started
      exact notRestored id input started
    · exact forgotten.underWay id earlier input before (sameRequest ▸ requested)

theorem opens_nothing_of_forgotten {system : SessionsSystem} {action : SessionsAction}
    {hash : String} (sound : system.Sound sessionsContract) (forgotten : Forgotten hash system) :
    OpensNothing runtime hash system action := by
  intro id session request next advanced present requested verified taken
  rcases step_database taken with unchanged | ⟨event, drifted, _⟩ |
    ⟨other, ended, value, same, otherPresent, standing, committed⟩
  · rw [unchanged]
    exact ⟨rfl, rfl⟩
  · rw [advanced] at drifted
    cases drifted
  · rw [advanced] at same
    cases same
    rw [present] at otherPresent
    cases otherPresent
    obtain ⟨_, _, _, promised⟩ := commit_sound sound present standing
    rw [requested] at promised
    rw [committed]
    rcases promised.2 with kept | ⟨row, member, expected⟩
    · exact kept
    · rw [verified] at expected
      exact absurd (Option.some.inj expected).symm (forgotten.stored row member)

/-- The reset that stands before its commit. -/
def standingReset (system : SessionsSystem) (id : Nat) : Option UserPasswordMutationInput := do
  let session ← system.session id
  match session.request, session.rest with
  | .setPassword input, .done _ => some input
  | _, _ => none

/-- Password hashes are salted: of all users only this one has had the hash, and
no reset under way or still to begin stores it. -/
structure Salted (hash : String) (userId : Uuid) (system : SessionsSystem)
    (rest : List SessionsAction) : Prop where
  unshared : ∀ row ∈ system.db.credentials, row.passwordHash = hash → row.userId = userId
  underWay : ∀ id session input, system.session id = some session →
    session.request = .setPassword input → input.passwordHash ≠ hash
  begins : ∀ action ∈ rest, NotRestored hash action

theorem standing_reset_some {system : SessionsSystem} {id : Nat}
    {input : UserPasswordMutationInput} (standing : standingReset system id = some input) :
    ∃ session value, system.session id = some session ∧ session.request = .setPassword input ∧
      session.rest = .done value := by
  obtain ⟨session, present, found⟩ := Option.bind_eq_some_iff.mp standing
  split at found
  case h_1 other value requested ended =>
    cases found
    exact ⟨session, value, present, requested, ended⟩
  case h_2 => cases found

/-- What the commit of a reset leaves behind. -/
theorem reset_committed {system next : SessionsSystem} {id : Nat}
    {input : UserPasswordMutationInput} (sound : system.Sound sessionsContract)
    (standing : standingReset system id = some input)
    (taken : sessionsStep runtime system (.advance id) = some next) :
    StoresHash input system.db next.db ∧
      ∀ family ∈ next.db.families, belongsTo input.tenantId input.targetUserId family = true →
        family.revokedAt ≠ none := by
  obtain ⟨session, value, present, requested, ended⟩ := standing_reset_some standing
  obtain ⟨_, _, _, promised⟩ := commit_sound sound present ended
  rw [requested] at promised
  have committed : next.db = session.pending system.db := by
    simp only [sessionsStep, step, present, advanceSession, ended] at taken
    cases taken
    rfl
  rw [committed]
  exact ⟨promised.1, promised.2.revoked⟩

theorem reset_forgets {system next : SessionsSystem} {id : Nat} {hash : String}
    {input : UserPasswordMutationInput} {rest : List SessionsAction}
    (sound : system.Sound sessionsContract) (standing : standingReset system id = some input)
    (taken : sessionsStep runtime system (.advance id) = some next)
    (salted : Salted hash input.targetUserId system rest) : Forgotten hash next where
  stored row member stored := by
    obtain ⟨stores, _⟩ := reset_committed sound standing taken
    obtain ⟨session, _, present, requested, _⟩ := standing_reset_some standing
    have replaced := salted.underWay id session input present requested
    obtain ⟨written, writtenMember, writtenUser, writtenHash⟩ := stores.stored
    rcases stores.others row member with old | ⟨_, new⟩
    · have owner := salted.unshared row old stored
      have sameRow : written = row :=
        KeyedTable.eq_of_key writtenMember member (writtenUser.trans owner.symm)
      exact replaced (writtenHash.symm.trans (sameRow ▸ stored))
    · exact replaced (new.symm.trans stored)
  underWay other later input found asked := by
    rcases step_session taken found with started | ⟨earlier, before, sameRequest, _⟩
    · cases started
    · exact salted.underWay other earlier input before (sameRequest ▸ asked)

/-- After the commit of a reset no login that has verified its password against
a hash from before opens a session, and the families of the user stay revoked. -/
theorem reset_ends_old_sessions {db : SessionsDb} {system next : SessionsSystem} {id : Nat}
    {hash : String} {input : UserPasswordMutationInput} {rest : List SessionsAction}
    (fresh : Fresh db)
    (reached : Reachable (sessionsStep runtime) (System.initial db) system)
    (standing : standingReset system id = some input)
    (taken : sessionsStep runtime system (.advance id) = some next)
    (salted : Salted hash input.targetUserId system rest) :
    Along (sessionsStep runtime) (OpensNothing runtime hash) next rest ∧
      (∀ family ∈ next.db.families, belongsTo input.tenantId input.targetUserId family = true →
        family.revokedAt ≠ none) ∧
      ∀ later, Reachable (sessionsStep runtime) next later →
        RevokedForGood next.db later.db := by
  have verified := sessions_verified runtime
  have sound := reachable_system_sound fresh reached
  have nextSound := step_sound verified sound taken
  refine ⟨?_, (reset_committed sound standing taken).2, fun later onward => ?_⟩
  · exact @along_implies _ _ (sessionsStep runtime) (fun _ action => NotRestored hash action) _
      (fun state => state.Sound sessionsContract ∧ Forgotten hash state)
      (fun _ _ _ holds notRestored taken => ⟨step_sound verified holds.1 taken,
        forgotten_step holds.1 holds.2 notRestored taken⟩)
      (fun _ _ holds _ => opens_nothing_of_forgotten holds.1 holds.2) _ _
      ⟨nextSound, reset_forgets sound standing taken salted⟩
      (along_of_actions (fun action member _ => salted.begins action member) next)
  · exact evolves_revoked_for_good (reachable_evolves verified nextSound onward)

/-- A session is open when a second login verifies the old password; then the
reset is ready to commit. -/
def resetDuringLogin : List SessionsAction :=
  .start 0 (.login exampleLogin) :: List.replicate 18 (.advance 0) ++
    .start 1 (.setPassword exampleReset) ::
    .start 2 (.login { exampleLogin with
      familyId := exampleId 11
      tokenId := exampleId 22
      tokenDigest := exampleDigest 22 }) ::
    List.replicate 19 (.advance 1)

theorem reset_during_login_salted {system : SessionsSystem}
    (arrived : execute (sessionsStep exampleRuntime) (System.initial exampleDb) resetDuringLogin =
      some system)
    (owner : ∀ row ∈ system.db.credentials, row.userId = exampleId 1) :
    Salted storedHash (exampleId 1) system (List.replicate 11 (.advance 2)) where
  unshared row member _ := owner row member
  underWay id session input present requested := by
    rcases session_started arrived present with listed | ⟨_, found, _⟩
    · rw [requested] at listed
      have resets : input = exampleReset := by
        simp [resetDuringLogin] at listed
        exact listed.2
      rw [resets]
      decide
    · cases found
  begins action member id input started := by
    rw [List.eq_of_mem_replicate member] at started
    cases started

/-- The open session is revoked, and the second login opens none. -/
theorem reset_ends_old_sessions_during_login :
    ∃ system next, execute (sessionsStep exampleRuntime) (System.initial exampleDb)
        resetDuringLogin = some system ∧
      sessionsStep exampleRuntime system (.advance 1) = some next ∧
      (next.db.families.rows.map fun row => row.revocationReason) = [some .passwordReset] ∧
      Along (sessionsStep exampleRuntime) (OpensNothing exampleRuntime storedHash) next
        (List.replicate 11 (.advance 2)) := by
  have ends : ((execute (sessionsStep exampleRuntime) (System.initial exampleDb)
      resetDuringLogin).bind fun system =>
        (sessionsStep exampleRuntime system (.advance 1)).map fun next =>
          (standingReset system 1, system.db.credentials.rows.map fun row => row.userId,
            next.db.families.rows.map fun row => row.revocationReason)) =
      some (some exampleReset, [exampleId 1], [some .passwordReset]) := by decide +kernel
  obtain ⟨system, arrived, committed⟩ := Option.bind_eq_some_iff.mp ends
  obtain ⟨next, taken, facts⟩ := Option.map_eq_some_iff.mp committed
  obtain ⟨standing, owners, reasons⟩ : standingReset system 1 = some exampleReset ∧
      (system.db.credentials.rows.map fun row => row.userId) = [exampleId 1] ∧
      (next.db.families.rows.map fun row => row.revocationReason) = [some .passwordReset] := by
    simpa using facts
  have owner : ∀ row ∈ system.db.credentials, row.userId = exampleId 1 := fun row member =>
    List.mem_singleton.mp (owners ▸ List.mem_map_of_mem (KeyedTable.mem_rows.mpr member))
  exact ⟨system, next, arrived, taken, reasons, (reset_ends_old_sessions example_db_fresh
    ⟨_, arrived⟩ standing taken (reset_during_login_salted arrived owner)).1⟩

end OldPassword

end CommitmentOptimizer.Sessions.SecurityWrites
