import CommitmentOptimizer.Sessions.SessionSafety
import CommitmentOptimizer.Sessions.UserMutations

/-!
# Safety of the user mutations

An active admin remains, no committed change is lost, and a patch that takes
rights away ends the sessions of the user, in every interleaving with the other
transactions on the session tables.
-/

namespace CommitmentOptimizer.Sessions.UserMutationSafety

open Foundations
open Foundations.Schedules
open Foundations.SqlConstraints
open Foundations.RowLocking
open Tenants.Users
open SessionTables
open SessionTransactions
open SessionInvariants
open SessionVerification
open SessionSafety
open UserMutations

set_option autoImplicit false

section Timestamps

def mutatesUsers : SessionsRequest → Bool
  | .createUser _ _ _ => true
  | .patchUser _ => true
  | _ => false

/-- The transaction timestamp of a user mutation that begins. -/
def stamp (system : SessionsSystem) : SessionsAction → Option Instant
  | .start _ request => if mutatesUsers request then some system.db.clock else none
  | _ => none

/-- The transaction timestamps of the user mutations that a schedule begins. -/
def timestamps (runtime : SessionRuntime) : SessionsSystem → List SessionsAction → List Instant
  | _, [] => []
  | system, action :: rest =>
      (stamp system action).toList ++
        match sessionsStep runtime system action with
        | some next => timestamps runtime next rest
        | none => []

/-- The timestamps differ from each other and from those of earlier transactions. -/
structure DistinctTimestamps (runtime : SessionRuntime) (db : SessionsDb)
    (schedule : List SessionsAction) : Prop where
  distinct : (timestamps runtime (System.initial db) schedule).Nodup
  stored : ∀ row ∈ db.users, row.updatedAt ∉ timestamps runtime (System.initial db) schedule

end Timestamps

/-- A patch with the version of a row that was committed in `earlier` overwrites that row. -/
def NoLostUpdate (earlier later : SessionsSystem) : Prop :=
  ∀ id session input user, later.session id = some session →
    session.request = .patchUser input → session.rest = .done (.patched (.updated user)) →
    ∀ row ∈ earlier.db.users, row.id = input.userId → row.updatedAt = input.expectedUpdatedAt →
      later.db.users.find input.userId = some row

/-- No family of the user is left unrevoked, and none is deleted. -/
structure RevokesFamilies (input : UserPatchInput) (before after : SessionsDb) : Prop where
  revoked : ∀ family ∈ after.families,
    belongsTo input.tenantId input.userId family = true → family.revokedAt ≠ none
  kept : ∀ family ∈ before.families, ∃ later ∈ after.families,
    later.toRefreshFamilyIdentity = family.toRefreshFamilyIdentity

/-- What the commit of a patch does in `next`. -/
def PatchCommits (runtime : SessionRuntime) (system : SessionsSystem) : Prop :=
  ∀ id session input user next, system.session id = some session →
    session.request = .patchUser input → session.rest = .done (.patched (.updated user)) →
    sessionsStep runtime system (.advance id) = some next →
    ∃ current, Overwrites input session.begun.clock system.db current user next.db ∧
      ((current.isActive = true ∧ user.isActive = false) ∨ user.role ≠ current.role →
        RevokesFamilies input system.db next.db)

/-- Every other step of a patch leaves the database as it is. -/
def RejectedPatchKeeps (runtime : SessionRuntime) (system : SessionsSystem) : Prop :=
  ∀ id session input next, system.session id = some session →
    session.request = .patchUser input →
    (sessionsStep runtime system (.advance id) = some next ∧
        ∀ user, session.rest ≠ .done (.patched (.updated user))) ∨
      sessionsStep runtime system (.drop id) = some next →
    next.db = system.db

section Admins

def isActiveAdmin (tenantId : Uuid) (row : User) : Bool :=
  row.tenantId = tenantId && row.role = .tenantAdmin && row.isActive

variable {users : UserTable} {tenantId : Uuid}

theorem active_admin_count_pos :
    1 ≤ activeAdminCount users tenantId ↔ ∃ row ∈ users, isActiveAdmin tenantId row = true := by
  constructor
  · intro counted
    obtain ⟨row, member⟩ := List.exists_mem_of_length_pos counted
    exact ⟨row, List.mem_filter.mp member⟩
  · rintro ⟨row, member, active⟩
    exact List.length_pos_of_mem (List.mem_filter.mpr ⟨member, active⟩)

/-- Of two active admins one is not the given user. -/
theorem other_active_admin (counted : 2 ≤ activeAdminCount users tenantId) (id : Uuid) :
    ∃ row ∈ users, isActiveAdmin tenantId row = true ∧ row.id ≠ id := by
  have distinct : ((users.rows.filter (isActiveAdmin tenantId)).map (·.id)).Nodup :=
    (List.Sublist.map _ List.filter_sublist).nodup users.distinct
  have selected : ∀ row ∈ users.rows.filter (isActiveAdmin tenantId),
      row ∈ users ∧ isActiveAdmin tenantId row = true := fun row => List.mem_filter.mp
  have long : 2 ≤ (users.rows.filter (isActiveAdmin tenantId)).length := counted
  match rows : users.rows.filter (isActiveAdmin tenantId), long with
  | first :: second :: rest, _ =>
      rw [rows] at distinct selected
      by_cases same : first.id = id
      · obtain ⟨member, active⟩ := selected second (by simp)
        refine ⟨second, member, active, fun other => ?_⟩
        simp [same, other] at distinct
      · obtain ⟨member, active⟩ := selected first (by simp)
        exact ⟨first, member, active, same⟩

theorem insert_keeps_admin (row : User) (counted : 1 ≤ activeAdminCount users tenantId) :
    1 ≤ activeAdminCount (users.insert row) tenantId := by
  obtain ⟨other, member, active⟩ := active_admin_count_pos.mp counted
  exact active_admin_count_pos.mpr ⟨other, KeyedTable.mem_insert_of_mem member, active⟩

variable {input : UserPatchInput} {now : Instant} {before after : SessionsDb} {current user : User}

theorem overwrites_row (overwrites : Overwrites input now before current user after) :
    current ∈ before.users ∧ current.id = input.userId ∧ current.tenantId = input.tenantId :=
  ⟨KeyedTable.mem_of_find (find_user_some overwrites.found).1, (find_user_some overwrites.found).2⟩

/-- An active admin that the patch takes away is not the last one. -/
theorem overwrites_removal (overwrites : Overwrites input now before current user after)
    (active : isActiveAdmin tenantId current = true)
    (removed : isActiveAdmin tenantId user = false) :
    2 ≤ activeAdminCount before.users tenantId := by
  obtain ⟨_, _, currentTenant⟩ := overwrites_row overwrites
  simp only [isActiveAdmin, Bool.and_eq_true, decide_eq_true_eq] at active
  obtain ⟨⟨sameTenant, admin⟩, enabled⟩ := active
  rw [← sameTenant, currentTenant]
  refine overwrites.admins ?_
  rw [overwrites.written] at removed
  simp only [isActiveAdmin, UserPatchChanges.apply, sameTenant, decide_true, Bool.true_and] at removed
  simp only [isAdminRemoval, admin, enabled, not_true, ne_eq, or_self, if_false]
  rw [admin, enabled] at removed
  cases changed : decide (input.changes.role.getD .tenantAdmin = .tenantAdmin) with
  | false => simp [of_decide_eq_false changed]
  | true => simpa [changed] using removed

theorem overwrites_keep_admin (overwrites : Overwrites input now before current user after)
    (counted : 1 ≤ activeAdminCount before.users tenantId) :
    1 ≤ activeAdminCount after.users tenantId := by
  obtain ⟨stored, _, _⟩ := overwrites_row overwrites
  have sameId : user.id = current.id := by rw [overwrites.written]; rfl
  have others : ∀ row ∈ before.users, isActiveAdmin tenantId row = true → row.id ≠ current.id →
      1 ≤ activeAdminCount after.users tenantId := by
    intro row member active different
    rw [overwrites.users]
    exact active_admin_count_pos.mpr
      ⟨row, KeyedTable.mem_put.mpr (Or.inr ⟨member, by rwa [sameId]⟩), active⟩
  obtain ⟨row, member, active⟩ := active_admin_count_pos.mp counted
  by_cases same : row.id = current.id
  · obtain rfl : row = current := KeyedTable.eq_of_key member stored same
    cases remains : isActiveAdmin tenantId user with
    | true =>
        rw [overwrites.users]
        exact active_admin_count_pos.mpr
          ⟨user, KeyedTable.mem_put.mpr (Or.inl ⟨rfl, row, member, sameId.symm⟩), remains⟩
    | false =>
        obtain ⟨other, otherMember, otherActive, different⟩ :=
          other_active_admin (overwrites_removal overwrites active remains) row.id
        exact others other otherMember otherActive different
  · exact others row member active same

end Admins

section Steps

variable {runtime : SessionRuntime} {system next : SessionsSystem} {action : SessionsAction}
  {rest : List SessionsAction}

theorem sound_from_start {db : SessionsDb} (consistent : Consistent db) :
    (System.initial db : SessionsSystem).Sound usersContract :=
  initial_sound consistent

/-- How a step may change the users. -/
inductive UsersStep (system next : SessionsSystem) : SessionsAction → Prop
  | kept {action : SessionsAction} (same : next.db.users = system.db.users) :
      UsersStep system next action
  | created (id : Nat) (session : Session SessionsDb SessionsKey SessionsAbort SessionsValue
        SessionsRequest) (present : system.session id = some session) (row : User)
      (mutates : mutatesUsers session.request = true) (ended : next.session id = none)
      (dated : row.updatedAt = session.begun.clock)
      (stored : next.db.users = system.db.users.insert row) : UsersStep system next (.advance id)
  | patched (id : Nat) (session : Session SessionsDb SessionsKey SessionsAbort SessionsValue
        SessionsRequest) (present : system.session id = some session) (input : UserPatchInput)
      (current user : User) (mutates : mutatesUsers session.request = true)
      (ended : next.session id = none)
      (overwrites : Overwrites input session.begun.clock system.db current user next.db) :
      UsersStep system next (.advance id)

theorem users_step (sound : system.Sound usersContract)
    (taken : sessionsStep runtime system action = some next) : UsersStep system next action := by
  rcases step_database taken with same | ⟨event, rfl, moved⟩ |
    ⟨id, session, value, rfl, present, standing, moved⟩
  · exact .kept (by rw [same])
  · refine .kept ?_
    rw [moved]
    cases event <;> rfl
  · obtain ⟨_, _, _, promised⟩ := commit_sound sound present standing
    have ended : next.session id = none := by
      simp only [sessionsStep, step, present, advanceSession, standing] at taken
      cases taken
      simp [System.finish]
    rw [← moved] at promised
    change UserPromised session.request session.begun value system.db next.db at promised
    cases requested : session.request with
    | login request =>
        rw [requested] at promised
        exact .kept promised
    | refresh input =>
        rw [requested] at promised
        exact .kept promised
    | logout input =>
        rw [requested] at promised
        exact .kept promised
    | setPassword input =>
        rw [requested] at promised
        exact .kept promised
    | createUser newId tenantId input =>
        rw [requested] at promised
        obtain ⟨row, dated, stored⟩ := promised
        exact .created id session present row (by rw [requested]; rfl) ended dated stored
    | patchUser input =>
        rw [requested] at promised
        rcases patch_promised_cases promised with ⟨user, current, _, overwrites⟩ | ⟨_, unchanged⟩
        · exact .patched id session present input current user (by rw [requested]; rfl) ended
            overwrites
        · exact .kept (by rw [unchanged])

theorem step_keeps_admin (sound : system.Sound usersContract)
    (taken : sessionsStep runtime system action = some next) {tenantId : Uuid}
    (counted : 1 ≤ activeAdminCount system.db.users tenantId) :
    1 ≤ activeAdminCount next.db.users tenantId := by
  cases users_step sound taken with
  | kept same => rwa [same]
  | created id session present row mutates ended dated stored =>
      rw [stored]
      exact insert_keeps_admin row counted
  | patched id session present input current user mutates ended overwrites =>
      exact overwrites_keep_admin overwrites counted

/-- A row that a step stores carries the timestamp of a session that ends. -/
theorem step_rows (sound : system.Sound usersContract)
    (taken : sessionsStep runtime system action = some next) {row : User}
    (member : row ∈ next.db.users) :
    row ∈ system.db.users ∨ ∃ id session, system.session id = some session ∧
      mutatesUsers session.request = true ∧ next.session id = none ∧
      row.updatedAt = session.begun.clock := by
  cases users_step sound taken with
  | kept same =>
      rw [same] at member
      exact Or.inl member
  | created id session present new mutates ended dated stored =>
      rw [stored] at member
      rcases KeyedTable.mem_of_mem_insert member with old | rfl
      · exact Or.inl old
      · exact Or.inr ⟨id, session, present, mutates, ended, dated⟩
  | patched id session present input current user mutates ended overwrites =>
      rw [overwrites.users] at member
      rcases KeyedTable.mem_put.mp member with ⟨rfl, _⟩ | ⟨old, _⟩
      · exact Or.inr ⟨id, session, present, mutates, ended, by rw [overwrites.written]⟩
      · exact Or.inl old

/-- A user mutation in progress has begun earlier, or begins with its stamp. -/
theorem step_running (taken : sessionsStep runtime system action = some next) {id : Nat}
    {session : Session SessionsDb SessionsKey SessionsAbort SessionsValue SessionsRequest}
    (present : next.session id = some session) (mutates : mutatesUsers session.request = true) :
    (∃ request, action = .start id request ∧ next.db = system.db ∧
        stamp system action = some session.begun.clock) ∨
      ∃ earlier, system.session id = some earlier ∧ mutatesUsers earlier.request = true ∧
        earlier.begun.clock = session.begun.clock := by
  rcases step_session taken present with rfl | ⟨earlier, found, sameRequest, sameBegun⟩
  · left
    refine ⟨session.request, rfl, ?_⟩
    cases idle : system.session id with
    | some other => simp [sessionsStep, step, idle] at taken
    | none =>
        simp only [sessionsStep, step, idle] at taken
        cases taken
        simp only [System.resume, Function.update_self, Option.some.injEq] at present
        refine ⟨rfl, ?_⟩
        rw [stamp, if_pos mutates, ← present]
  · exact Or.inr ⟨earlier, found, by rw [← sameRequest, mutates], by rw [sameBegun]⟩

theorem timestamps_cons (taken : sessionsStep runtime system action = some next) :
    timestamps runtime system (action :: rest) =
      (stamp system action).toList ++ timestamps runtime next rest := by
  rw [timestamps, taken]

/-- The user mutations in progress and those to come have timestamps of their own. -/
structure Apart (runtime : SessionRuntime) (system : SessionsSystem)
    (rest : List SessionsAction) : Prop where
  sound : system.Sound usersContract
  distinct : (timestamps runtime system rest).Nodup
  stored : ∀ row ∈ system.db.users, row.updatedAt ∉ timestamps runtime system rest
  running : ∀ id session, system.session id = some session →
    mutatesUsers session.request = true →
    session.begun.clock ∉ timestamps runtime system rest ∧
      ∀ row ∈ system.db.users, row.updatedAt ≠ session.begun.clock
  others : ∀ id session other otherSession, system.session id = some session →
    system.session other = some otherSession → mutatesUsers session.request = true →
    mutatesUsers otherSession.request = true →
    session.begun.clock = otherSession.begun.clock → id = other

theorem apart_step (apart : Apart runtime system (action :: rest))
    (taken : sessionsStep runtime system action = some next) : Apart runtime next rest := by
  obtain ⟨sound, distinct, stored, running, others⟩ := apart
  rw [timestamps_cons taken, List.nodup_append] at distinct
  obtain ⟨_, restDistinct, separate⟩ := distinct
  have later : ∀ {instant}, instant ∉ timestamps runtime system (action :: rest) →
      instant ∉ timestamps runtime next rest := by
    intro instant absent member
    exact absent (timestamps_cons taken ▸ List.mem_append_right _ member)
  have stamped : ∀ {instant}, stamp system action = some instant →
      instant ∈ timestamps runtime system (action :: rest) ∧
        instant ∉ timestamps runtime next rest := by
    intro instant began
    rw [timestamps_cons taken, began]
    refine ⟨List.mem_append_left _ (by simp), fun member => ?_⟩
    exact separate instant (by simp [began]) instant member rfl
  refine ⟨step_sound (users_verified runtime) sound taken, restDistinct, ?_, ?_, ?_⟩
  · intro row member
    rcases step_rows sound taken member with old | ⟨id, session, present, mutates, _, dated⟩
    · exact later (stored row old)
    · rw [dated]
      exact later (running id session present mutates).1
  · intro id session present mutates
    rcases step_running taken present mutates with ⟨_, _, same, began⟩ |
      ⟨earlier, found, earlierMutates, sameClock⟩
    · refine ⟨(stamped began).2, fun row member dated => ?_⟩
      rw [same] at member
      exact stored row member (dated ▸ (stamped began).1)
    · rw [← sameClock]
      obtain ⟨absent, rows⟩ := running id earlier found earlierMutates
      refine ⟨later absent, fun row member dated => ?_⟩
      rcases step_rows sound taken member with old | ⟨other, writer, writing, writes, ended, written⟩
      · exact rows row old dated
      · obtain rfl := others id earlier other writer found writing earlierMutates writes
          (dated.symm.trans written)
        rw [ended] at present
        cases present
  · intro id session other otherSession present otherPresent mutates otherMutates same
    rcases step_running taken present mutates with ⟨request, rfl, _, began⟩ |
      ⟨earlier, found, earlierMutates, sameClock⟩
    · rcases step_running taken otherPresent otherMutates with ⟨otherRequest, started, _, _⟩ |
        ⟨otherEarlier, otherFound, otherEarlierMutates, otherClock⟩
      · cases started
        rfl
      · refine absurd (stamped began).1 ?_
        rw [same, ← otherClock]
        exact (running other otherEarlier otherFound otherEarlierMutates).1
    · rcases step_running taken otherPresent otherMutates with ⟨_, _, _, began⟩ |
        ⟨otherEarlier, otherFound, otherEarlierMutates, otherClock⟩
      · refine absurd (stamped began).1 ?_
        rw [← same, ← sameClock]
        exact (running id earlier found earlierMutates).1
      · exact others id earlier other otherEarlier found otherFound earlierMutates
          otherEarlierMutates (sameClock.trans (same.trans otherClock.symm))

/-- A version that was once committed with `seen` belongs to no other row of the user. -/
structure Remembers (runtime : SessionRuntime) (seen : User) (system : SessionsSystem)
    (rest : List SessionsAction) : Prop where
  sound : system.Sound usersContract
  stored : ∀ row ∈ system.db.users, row.id = seen.id → row.updatedAt = seen.updatedAt → row = seen
  running : ∀ id session, system.session id = some session →
    mutatesUsers session.request = true → session.begun.clock ≠ seen.updatedAt
  future : seen.updatedAt ∉ timestamps runtime system rest

theorem remembers_step {seen : User} (remembers : Remembers runtime seen system (action :: rest))
    (taken : sessionsStep runtime system action = some next) : Remembers runtime seen next rest := by
  obtain ⟨sound, stored, running, future⟩ := remembers
  rw [timestamps_cons taken, List.mem_append, not_or] at future
  refine ⟨step_sound (users_verified runtime) sound taken, ?_, ?_, future.2⟩
  · intro row member sameId sameVersion
    rcases step_rows sound taken member with old | ⟨id, session, present, mutates, _, dated⟩
    · exact stored row old sameId sameVersion
    · exact absurd (dated.symm.trans sameVersion) (running id session present mutates)
  · intro id session present mutates same
    rcases step_running taken present mutates with ⟨_, _, _, began⟩ |
      ⟨earlier, found, earlierMutates, sameClock⟩
    · rw [began, ← same] at future
      exact future.1 (by simp)
    · exact running id earlier found earlierMutates (sameClock.trans same)

theorem apart_remembers (apart : Apart runtime system rest) {seen : User}
    (member : seen ∈ system.db.users) : Remembers runtime seen system rest where
  sound := apart.sound
  stored _ stored sameId _ := KeyedTable.eq_of_key stored member sameId
  running id session present mutates same :=
    (apart.running id session present mutates).2 seen member same.symm
  future := apart.stored seen member

theorem initial_apart {db : SessionsDb} {schedule : List SessionsAction}
    (consistent : Consistent db) (distinct : DistinctTimestamps runtime db schedule) :
    Apart runtime (System.initial db) schedule where
  sound := sound_from_start consistent
  distinct := distinct.distinct
  stored := distinct.stored
  running _ _ present := nomatch present
  others _ _ _ _ present := nomatch present

end Steps

section Patches

variable {runtime : SessionRuntime} {system : SessionsSystem} {input : UserPatchInput}
  {now : Instant} {before after : SessionsDb} {current user : User}

/-- A patch that takes rights away has a reason to revoke. -/
theorem overwrites_reason (overwrites : Overwrites input now before current user after)
    (fewer : (current.isActive = true ∧ user.isActive = false) ∨ user.role ≠ current.role) :
    familyRevocationReason current input.changes ≠ none := by
  rw [overwrites.written] at fewer
  simp only [UserPatchChanges.apply] at fewer
  unfold familyRevocationReason
  rcases fewer with ⟨active, inactive⟩ | changed
  · rw [active] at inactive
    simp [active, inactive]
  · dsimp only
    split_ifs <;> simp

theorem sound_patch_commits (sound : system.Sound usersContract)
    (consistent : system.Sound sessionsContract) : PatchCommits runtime system := by
  intro id session input user next present requested standing taken
  have committed : next.db = session.pending system.db := by
    simp only [sessionsStep, step, present, advanceSession, standing] at taken
    cases taken
    rfl
  obtain ⟨_, evolved, _, revokes⟩ := commit_sound consistent present standing
  obtain ⟨_, _, _, promised⟩ := commit_sound sound present standing
  rw [← committed] at evolved revokes promised
  rw [requested] at revokes promised
  rcases patch_promised_cases promised with ⟨_, current, same, overwrites⟩ | ⟨other, _⟩
  · cases same
    refine ⟨current, overwrites, fun fewer => ⟨?_, ?_⟩⟩
    · obtain ⟨member, sameId, _⟩ := overwrites_row overwrites
      exact (revokes.2 user rfl current member sameId (overwrites_reason overwrites fewer)).revoked
    · intro family member
      obtain ⟨later, laterMember, sameFamily, _⟩ := evolved.families family member
      exact ⟨later, laterMember, sameFamily⟩
  · exact absurd rfl (other user)

theorem sound_rejected_patch_keeps (sound : system.Sound usersContract) :
    RejectedPatchKeeps runtime system := by
  intro id session input next present requested ends
  rcases ends with ⟨taken, rejected⟩ | taken
  · rcases step_database taken with same | ⟨_, impossible, _⟩ |
      ⟨other, committer, value, same, found, standing, moved⟩
    · exact same
    · cases impossible
    · cases same
      rw [present] at found
      cases found
      obtain ⟨_, _, _, promised⟩ := commit_sound sound present standing
      rw [← moved, requested] at promised
      rcases patch_promised_cases promised with ⟨user, _, same, _⟩ | ⟨_, unchanged⟩
      · rw [same] at standing
        exact absurd standing (rejected user)
      · exact unchanged
  · simp only [sessionsStep, step, present] at taken
    cases taken
    rfl

theorem remembers_no_lost_update {earlier later : SessionsSystem}
    (remembers : ∀ row ∈ earlier.db.users, Remembers runtime row later [])
    (sound : later.Sound usersContract) : NoLostUpdate earlier later := by
  intro id session input user present requested standing row member sameId sameVersion
  obtain ⟨_, _, _, promised⟩ := commit_sound sound present standing
  rw [requested] at promised
  rcases patch_promised_cases promised with ⟨_, current, _, overwrites⟩ | ⟨other, _⟩
  · obtain ⟨stored, currentId, _⟩ := overwrites_row overwrites
    have same := (remembers row member).stored current stored (currentId.trans sameId.symm)
      (overwrites.version.trans sameVersion.symm)
    rw [← currentId, KeyedTable.find_key stored, same]
  · exact absurd rfl (other user)

end Patches

section Example

def exampleAdmin (number : Nat) (email : String) : User where
  id := exampleId number
  tenantId := exampleId 7
  email := email
  name := "Admin"
  role := .tenantAdmin
  isActive := true
  createdAt := 0
  updatedAt := 0

/-- A tenant with two active admins. -/
def adminsDb : SessionsDb :=
  { exampleDb with
    users := (KeyedTable.empty.insert (exampleAdmin 1 "ana@acme.test")).insert
      (exampleAdmin 2 "bo@acme.test") }

theorem admins_db_fresh : Fresh adminsDb where
  families := KeyedTable.not_mem_empty
  tokens := KeyedTable.not_mem_empty

/-- The admin of that number deactivates the account. -/
def deactivation (number : Nat) : UserPatchInput where
  tenantId := exampleId 7
  userId := exampleId number
  expectedUpdatedAt := 0
  changes :=
    { email := none
      name := none
      role := none
      isActive := some false }

/-- Both admins begin to deactivate each other's accounts. -/
def bothBegin : List SessionsAction :=
  [.start 0 (.patchUser (deactivation 1)), .drift (.tick 1), .start 1 (.patchUser (deactivation 2))]

/-- The first patch commits before the second gets the lock of the tenant. -/
def bothEnd : List SessionsAction :=
  List.replicate 14 (.advance 0) ++ List.replicate 8 (.advance 1)

end Example

/-- The user mutations, between any two states of any run. -/
theorem user_mutations_safe {runtime : SessionRuntime} {db : SessionsDb}
    {before after : List SessionsAction} {earlier later : SessionsSystem}
    (consistent : Consistent db) (distinct : DistinctTimestamps runtime db (before ++ after))
    (arrived : execute (sessionsStep runtime) (System.initial db) before = some earlier)
    (onward : execute (sessionsStep runtime) earlier after = some later) :
    (∀ tenantId, 1 ≤ activeAdminCount earlier.db.users tenantId →
      1 ≤ activeAdminCount later.db.users tenantId) ∧
    NoLostUpdate earlier later ∧ PatchCommits runtime later ∧ RejectedPatchKeeps runtime later := by
  have apart : Apart runtime earlier after :=
    execute_remaining (fun _ _ _ _ => apart_step) (initial_apart consistent distinct) arrived
  have sound : later.Sound usersContract :=
    reachable_sound (users_verified runtime) apart.sound ⟨after, onward⟩
  have sessions : later.Sound sessionsContract :=
    reachable_sound (sessions_verified runtime) (initial_sound consistent)
      ⟨before ++ after, execute_append_some.mpr ⟨earlier, arrived, onward⟩⟩
  refine ⟨?_, ?_, sound_patch_commits sound sessions, sound_rejected_patch_keeps sound⟩
  · intro tenantId counted
    have kept : later.Sound usersContract ∧ 1 ≤ activeAdminCount later.db.users tenantId :=
      @reachable_preserves _ _ (sessionsStep runtime)
        (fun system => system.Sound usersContract ∧
          1 ≤ activeAdminCount system.db.users tenantId)
        (fun _ _ _ holds taken => ⟨step_sound (users_verified runtime) holds.1 taken,
          step_keeps_admin holds.1 taken holds.2⟩)
        _ _ ⟨apart.sound, counted⟩ ⟨after, onward⟩
    exact kept.2
  · have remembered : ∀ row ∈ earlier.db.users, Remembers runtime row later [] := by
      intro row member
      have initially : Remembers runtime row earlier (after ++ []) := by
        rw [List.append_nil]
        exact apart_remembers apart member
      exact execute_remaining (fun _ _ _ _ => remembers_step) initially onward
    exact remembers_no_lost_update remembered sound

/-- Of two admins that are deactivated at the same time one stays. -/
theorem user_mutations_safe_two_deactivations :
    ∃ earlier later,
      execute (sessionsStep exampleRuntime) (System.initial adminsDb) bothBegin = some earlier ∧
      execute (sessionsStep exampleRuntime) earlier bothEnd = some later ∧
      (later.db.users.rows.map fun row => row.isActive) = [false, true] ∧
      1 ≤ activeAdminCount later.db.users (exampleId 7) ∧ NoLostUpdate earlier later := by
  have ends : (execute (sessionsStep exampleRuntime) (System.initial adminsDb)
      (bothBegin ++ bothEnd)).map (fun system => system.db.users.rows.map fun row => row.isActive) =
      some [false, true] := by decide
  have stamps : timestamps exampleRuntime (System.initial adminsDb) (bothBegin ++ bothEnd) =
      [5000000, 5000001] := by decide
  have rows : ∀ row ∈ adminsDb.users, row.updatedAt = 0 := by decide
  have distinct : DistinctTimestamps exampleRuntime adminsDb (bothBegin ++ bothEnd) := by
    refine ⟨?_, fun row member => ?_⟩
    · rw [stamps]
      decide
    · rw [stamps, rows row member]
      decide
  obtain ⟨later, run, active⟩ := Option.map_eq_some_iff.mp ends
  obtain ⟨earlier, arrived, onward⟩ := execute_append_some.mp run
  have safe := user_mutations_safe (fresh_consistent admins_db_fresh) distinct arrived onward
  have admins : ∀ system, execute (sessionsStep exampleRuntime) (System.initial adminsDb) bothBegin =
      some system → 1 ≤ activeAdminCount system.db.users (exampleId 7) := by decide
  exact ⟨earlier, later, arrived, onward, active, safe.1 _ (admins earlier arrived), safe.2.1⟩

end CommitmentOptimizer.Sessions.UserMutationSafety
