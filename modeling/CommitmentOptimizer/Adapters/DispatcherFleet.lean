import Mathlib.Data.List.Perm.Subperm
import CommitmentOptimizer.Adapters.DeliveryOnce
import CommitmentOptimizer.Foundations.FaultyWorkers

/-!
# Any number of dispatchers

`processNext` run by dispatchers that may crash, outlive their five-minute
claim, or see a call fail after it took effect. Attempt numbers are handed out
once, but `claimNext` never looks at them: the cap of five is only tested after
a delivery, by a dispatcher that is still there to test it.
-/

namespace CommitmentOptimizer.Adapters.DispatcherFleet

open Foundations
open Foundations.Schedules
open Foundations.SqlConstraints
open Foundations.FaultyWorkers
open EcosystemEvents
open EventHistory
open EcosystemDispatcher
open DeliveryOnce
open Approvals.ApprovalLifecycle

set_option autoImplicit false

section Program

/-- One request that left for the adapter, with the number of its attempt. -/
structure Attempt where
  event : Uuid
  number : Nat
  deriving DecidableEq, Repr

def attemptOf (event : EcosystemEvent) : Attempt := ⟨event.id, event.attemptCount⟩

/-- `delivered` is the history of requests that left. -/
structure FleetState where
  db : EventsDb
  approvals : ApprovalTable
  delivered : List Attempt

/-- What one `processNext` does next. A delivery that was not accepted is
`rejecting`, inside the `try`; `catching` is the `catch` block. -/
inductive FleetPhase where
  | claiming
  | sending (event : EcosystemEvent)
  | recording (event : EcosystemEvent) (approvalId executionId : List Char)
  | marking (event : EcosystemEvent)
  | rejecting (event : EcosystemEvent) (error : String)
  | catching (event : EcosystemEvent)

/-- The application clock, the rows other transactions have locked, and what
`fetch` answers. -/
structure FleetInput where
  now : Instant
  locked : List Uuid
  reply : Reply

inductive FleetEvent where
  | enqueue (input : EnqueueInput)
  | approvals (current : ApprovalTable)
  | tick (elapsed : Nat)
  | tenants (current : Uuid → Bool)

/-- The row `FOR UPDATE SKIP LOCKED` of `claimNext` locks. -/
def dueEvent (input : FleetInput) (db : EventsDb) : Option EcosystemEvent :=
  firstClaim (db.events.rows.filter fun row =>
    claimable input.now row && !input.locked.contains row.id)

def claimDue (payloadOctets : Json → Nat) (input : FleetInput) (db : EventsDb) :
    Except DbError (Option EcosystemEvent × EventsDb) :=
  match dueEvent input db with
  | none => .ok (none, db)
  | some row => updateEvent payloadOctets row.id (fun _ => true) (fun old => { old with
      status := .retrying
      attemptCount := old.attemptCount + 1
      nextAttemptAt := some (db.clock + claimInterval) }) db

/-- The cap, where the source tests it. -/
def giveUp (payloadOctets : Json → Nat) (now : Instant) (event : EcosystemEvent) (error : String)
    (db : EventsDb) : Except DbError (Option EcosystemEvent × EventsDb) :=
  if event.attemptCount ≥ 5 then markFailed payloadOctets event.id error db
  else markRetry payloadOctets event.id (now + 1000 * backoffMs event.attemptCount) error db

/-- The branch after `fetch`. -/
def followUp (platform : Platform) (event : EcosystemEvent) : Reply → FleetPhase
  | .threw => .catching event
  | .response status json =>
      match afterFetch platform event (.response status json) with
      | .recording event approvalId executionId => .recording event approvalId executionId
      | .giving event error => .rejecting event error
      | _ => .marking event

/-- A statement that raises is refused. -/
def FleetState.update (state : FleetState)
    (outcome : Except DbError (Option EcosystemEvent × EventsDb))
    (onward : Option EcosystemEvent → Option FleetPhase) :
    Option (FleetState × Option FleetPhase) :=
  match outcome with
  | .ok (returned, db) => some ({ state with db := db }, onward returned)
  | .error _ => none

def fleetOperate (platform : Platform) (input : FleetInput) (state : FleetState) :
    FleetPhase → Option (FleetState × Option FleetPhase)
  | .claiming =>
      state.update (claimDue platform.payloadOctets input state.db) fun found =>
        found.map .sending
  | .sending event =>
      (requestFor platform event).map fun _ =>
        ({ state with delivered := state.delivered ++ [attemptOf event] },
          some (followUp platform event input.reply))
  | .recording event approvalId executionId =>
      match recordExecution platform.snapshotOctets state.db.clock event.tenantId approvalId
          executionId state.approvals with
      | .ok approvals => some ({ state with approvals := approvals }, some (.marking event))
      | .error _ => none
  | .marking event =>
      state.update (markSent platform.payloadOctets event.id state.db) fun _ => none
  | .rejecting event error =>
      state.update (giveUp platform.payloadOctets input.now event error state.db) fun _ => none
  | .catching event =>
      state.update (giveUp platform.payloadOctets input.now event requestFailed state.db)
        fun _ => none

/-- The `try` block ends in the `catch` block; the claim is outside of it. -/
def fleetRescue : FleetPhase → Option FleetPhase
  | .sending event | .recording event _ _ | .marking event | .rejecting event _ =>
      some (.catching event)
  | .claiming | .catching _ => none

def fleetEnvironment (platform : Platform) (state : FleetState) : FleetEvent → Option FleetState
  | .enqueue input =>
      some { state with db := settled state.db (enqueue platform.payloadOctets input state.db) }
  | .approvals current =>
      if approvalsMove state.approvals current then some { state with approvals := current }
      else none
  | .tick elapsed => some { state with db := { state.db with clock := state.db.clock + elapsed } }
  | .tenants current => some { state with db := { state.db with tenant := current } }

def dispatchers (platform : Platform) : Program FleetState FleetPhase FleetInput FleetEvent where
  entry phase := match phase with
    | .claiming => true
    | _ => false
  operate _ input phase state := fleetOperate platform input state phase
  rescue := fleetRescue
  environment event state := fleetEnvironment platform state event

abbrev FleetRun := State FleetState FleetPhase

abbrev FleetAction := Action FleetPhase FleetInput FleetEvent

/-- No dispatcher has claimed anything of an empty table. -/
def fleetStart (tenant : Uuid → Bool) (clock : Instant) (approvals : ApprovalTable) : FleetRun :=
  ⟨⟨emptyEvents tenant clock, approvals, []⟩, fun _ => none⟩

/-- The row a step claims. -/
def claimedRow (state : FleetRun) : FleetAction → Option EcosystemEvent
  | .advance worker input _ =>
      match state.workers worker with
      | some .claiming => dueEvent input state.shared.db
      | _ => none
  | _ => none

/-- A step that claims a row finds less than five attempts counted on it. -/
def claimsWithinCap (state : FleetRun) (action : FleetAction) : Bool :=
  (claimedRow state action).all fun row => row.attemptCount < 5

def AtMostFive (delivered : List Attempt) : Prop :=
  ∀ id, (delivered.countP fun attempt => attempt.event = id) ≤ 5

/-- Sent, failed or disabled. -/
def hasEnded (row : EcosystemEvent) : Prop :=
  row.status = .sent ∨ row.status = .failed ∨ row.status = .disabled

/-- No step of the schedule claims the event. -/
def NeverClaimed (platform : Platform) (id : Uuid) (state : FleetRun)
    (schedule : List FleetAction) : Prop :=
  Along (step (dispatchers platform))
    (fun state action => ∀ row, claimedRow state action = some row → row.id ≠ id) state schedule

end Program

section Events

variable {payloadOctets : Json → Nat} {db next : EventsDb}

theorem claim_due_unlocked {now : Instant} {reply : Reply} :
    claimDue payloadOctets ⟨now, [], reply⟩ db = claimNext payloadOctets now db := by
  have due : dueEvent ⟨now, [], reply⟩ db =
      firstClaim (db.events.rows.filter (claimable now)) := by
    simp only [dueEvent, List.contains_nil, Bool.not_false, Bool.and_true]
  unfold claimDue claimNext
  cases found : firstClaim (db.events.rows.filter (claimable now)) with
  | none => simp only [due, found]
  | some row => simp only [due, found]

theorem first_claim_mem {rows : List EcosystemEvent} {row : EcosystemEvent}
    (first : firstClaim rows = some row) : row ∈ rows := by
  induction rows with
  | nil => cases first
  | cons head rest induction =>
      simp only [firstClaim] at first
      cases later : firstClaim rest with
      | none =>
          rw [later] at first
          obtain rfl := Option.some.inj first
          exact List.mem_cons_self
      | some other =>
          rw [later] at first
          dsimp only at first
          split_ifs at first with before
          · obtain rfl := Option.some.inj first
            exact List.mem_cons_self
          · obtain rfl := Option.some.inj first
            exact List.mem_cons_of_mem _ (induction later)

theorem due_event_active {input : FleetInput} {row : EcosystemEvent}
    (due : dueEvent input db = some row) :
    row ∈ db.events ∧ row.status.isActive = true := by
  obtain ⟨member, chosen⟩ := List.mem_filter.mp (first_claim_mem due)
  simp only [claimable, Bool.and_eq_true] at chosen
  exact ⟨member, chosen.1.1⟩

/-- No attempt is taken back, and a row that has ended stays as it is. -/
def Advances (before after : EventsDb) : Prop :=
  ∀ row ∈ before.events, ∃ later ∈ after.events, later.id = row.id ∧
    row.attemptCount ≤ later.attemptCount ∧ (row.status.isActive = false → later = row)

theorem advances_refl (db : EventsDb) : Advances db db :=
  fun row member => ⟨row, member, rfl, le_refl _, fun _ => rfl⟩

theorem advances_trans {first second third : EventsDb} (left : Advances first second)
    (right : Advances second third) : Advances first third := by
  intro row member
  obtain ⟨middle, middleMember, middleId, middleCount, middleEnded⟩ := left row member
  obtain ⟨later, laterMember, laterId, laterCount, laterEnded⟩ := right middle middleMember
  refine ⟨later, laterMember, laterId.trans middleId, middleCount.trans laterCount, ?_⟩
  intro ended
  obtain rfl := middleEnded ended
  exact laterEnded ended

theorem put_advances {old new row : EcosystemEvent} (member : old ∈ db.events)
    (accepted : updateEventRow payloadOctets db.clock old new = .ok row)
    (counted : old.attemptCount ≤ new.attemptCount) :
    Advances db { db with events := db.events.put row } := by
  have rowId : row.id = old.id := congrArg EcosystemEventIdentity.id (updated_identity accepted)
  obtain ⟨_, active, _, rfl, _⟩ := update_event_row_ok.mp accepted
  intro other otherMember
  by_cases isOld : other.id = old.id
  · obtain rfl := KeyedTable.eq_of_key otherMember member isOld
    refine ⟨_, KeyedTable.mem_put.mpr (Or.inl ⟨rfl, other, otherMember, rowId.symm⟩), rowId,
      counted, ?_⟩
    intro ended
    rw [active] at ended
    cases ended
  · exact ⟨other, KeyedTable.mem_put.mpr (Or.inr ⟨otherMember, fun same => isOld
      (same.trans rowId)⟩), rfl, le_refl _, fun _ => rfl⟩

/-- No row counts more attempts than the bound. -/
def Within (bound : Nat) (db : EventsDb) : Prop := ∀ row ∈ db.events, row.attemptCount ≤ bound

theorem put_within {bound : Nat} {old new row : EcosystemEvent}
    (accepted : updateEventRow payloadOctets db.clock old new = .ok row)
    (counted : new.attemptCount ≤ bound) (within : Within bound db) :
    Within bound { db with events := db.events.put row } := by
  obtain ⟨_, _, _, rfl, _⟩ := update_event_row_ok.mp accepted
  intro other member
  rcases KeyedTable.mem_put.mp member with ⟨rfl, _⟩ | ⟨kept, _⟩
  · exact counted
  · exact within other kept

/-- A statement that is accepted and counts no attempt. -/
structure Writes (payloadOctets : Json → Nat) (db next : EventsDb) : Prop where
  changes : Changes payloadOctets db next
  advances : Advances db next
  within : ∀ bound, Within bound db → Within bound next

theorem writes_refl (db : EventsDb) : Writes payloadOctets db db :=
  ⟨.unchanged, advances_refl db, fun _ within => within⟩

theorem put_writes {old new row : EcosystemEvent} (member : old ∈ db.events)
    (accepted : updateEventRow payloadOctets db.clock old new = .ok row)
    (counted : new.attemptCount = old.attemptCount) :
    Writes payloadOctets db { db with events := db.events.put row } where
  changes := .updated old new row member accepted
  advances := put_advances member accepted counted.ge
  within _ within := put_within accepted (counted.trans_le (within old member)) within

theorem update_event_writes {id : Uuid} {matching : EcosystemEvent → Bool}
    {change : EcosystemEvent → EcosystemEvent} {returned : Option EcosystemEvent}
    (accepted : updateEvent payloadOctets id matching change db = .ok (returned, next))
    (counted : ∀ old, (change old).attemptCount = old.attemptCount) :
    Writes payloadOctets db next := by
  unfold updateEvent at accepted
  split at accepted
  case h_1 =>
    cases accepted
    exact writes_refl db
  case h_2 old found =>
    obtain ⟨row, stored, done⟩ := bind_ok.mp accepted
    cases done
    obtain ⟨isOld, _⟩ := Option.filter_eq_some_iff.mp found
    exact put_writes (KeyedTable.mem_of_find isOld) stored (counted old)

theorem give_up_writes {now : Instant} {event : EcosystemEvent} {error : String}
    {returned : Option EcosystemEvent}
    (accepted : giveUp payloadOctets now event error db = .ok (returned, next)) :
    Writes payloadOctets db next := by
  unfold giveUp at accepted
  split_ifs at accepted
  · exact update_event_writes accepted fun _ => rfl
  · exact update_event_writes accepted fun _ => rfl

theorem enqueue_writes {input : EnqueueInput} {row : EcosystemEvent}
    (accepted : enqueue payloadOctets input db = .ok (row, next)) :
    Writes payloadOctets db next := by
  have changes := enqueue_changes accepted
  obtain ⟨proposed, proposal, accepted⟩ := bind_ok.mp accepted
  split at accepted
  case h_1 old found =>
    obtain ⟨stored, update, done⟩ := bind_ok.mp accepted
    cases done
    exact put_writes (conflicting_some found).1 update rfl
  case h_2 =>
    obtain ⟨_, _, accepted⟩ := bind_ok.mp accepted
    obtain ⟨_, _, done⟩ := bind_ok.mp accepted
    cases done
    obtain ⟨rfl, _⟩ := insert_event_row_ok.mp proposal
    refine ⟨changes, fun other member =>
      ⟨other, KeyedTable.mem_insert_of_mem member, rfl, le_refl _, fun _ => rfl⟩, ?_⟩
    intro bound within other member
    rcases KeyedTable.mem_of_mem_insert member with kept | rfl
    · exact within other kept
    · exact Nat.zero_le bound

theorem settled_writes {outcome : Except DbError (EcosystemEvent × EventsDb)}
    (writes : ∀ row next, outcome = .ok (row, next) → Writes payloadOctets db next) :
    Writes payloadOctets db (settled db outcome) := by
  cases outcome with
  | error error => exact writes_refl db
  | ok result => exact writes result.1 result.2 rfl

/-- A claim hands out the next attempt number of the row that is due. -/
structure Claims (payloadOctets : Json → Nat) (db next : EventsDb) (old event : EcosystemEvent) :
    Prop where
  member : old ∈ db.events
  sameId : event.id = old.id
  numbered : event.attemptCount = old.attemptCount + 1
  stored : event ∈ next.events
  changes : Changes payloadOctets db next
  advances : Advances db next
  within : ∀ bound, old.attemptCount < bound → Within bound db → Within bound next

theorem claim_due_some {input : FleetInput} {event : EcosystemEvent}
    (accepted : claimDue payloadOctets input db = .ok (some event, next)) :
    ∃ old, dueEvent input db = some old ∧ Claims payloadOctets db next old event := by
  unfold claimDue at accepted
  split at accepted
  case h_1 => cases accepted
  case h_2 old due =>
    have member := (due_event_active due).1
    have changes := update_event_changes accepted
    unfold updateEvent at accepted
    rw [KeyedTable.find_key member] at accepted
    obtain ⟨row, update, done⟩ := bind_ok.mp accepted
    cases done
    have eventId : event.id = old.id :=
      congrArg EcosystemEventIdentity.id (updated_identity update)
    obtain ⟨_, _, _, eventIs, _⟩ := update_event_row_ok.mp update
    exact ⟨old, due,
      { member := member
        sameId := eventId
        numbered := congrArg EcosystemEvent.attemptCount eventIs
        stored := KeyedTable.mem_put.mpr (Or.inl ⟨rfl, old, member, eventId.symm⟩)
        changes := changes
        advances := put_advances member update (Nat.le_succ _)
        within := fun _ below within => put_within update below within }⟩

theorem claim_due_none {input : FleetInput}
    (accepted : claimDue payloadOctets input db = .ok (none, next)) : next = db := by
  unfold claimDue at accepted
  split at accepted
  case h_1 =>
    cases accepted
    rfl
  case h_2 =>
    unfold updateEvent at accepted
    split at accepted
    case h_1 =>
      cases accepted
      rfl
    case h_2 =>
      obtain ⟨_, _, done⟩ := bind_ok.mp accepted
      cases done

end Events

section Steps

variable {platform : Platform} {input : FleetInput} {phase : FleetPhase}
  {state effect : FleetState} {after : Option FleetPhase}

/-- The attempt a dispatcher has yet to deliver. -/
def inHand : FleetPhase → Option Attempt
  | .sending event => some (attemptOf event)
  | _ => none

/-- The attempt has been counted on its row. -/
def Counted (db : EventsDb) (attempt : Attempt) : Prop :=
  ∃ row ∈ db.events, row.id = attempt.event ∧ 1 ≤ attempt.number ∧
    attempt.number ≤ row.attemptCount

theorem counted_advances {before after : EventsDb} (advances : Advances before after)
    {attempt : Attempt} (counted : Counted before attempt) : Counted after attempt := by
  obtain ⟨row, member, sameId, positive, bound⟩ := counted
  obtain ⟨later, laterMember, laterId, count, _⟩ := advances row member
  exact ⟨later, laterMember, laterId.trans sameId, positive, bound.trans count⟩

theorem in_hand_follow_up (event : EcosystemEvent) (reply : Reply) :
    inHand (followUp platform event reply) = none := by
  unfold followUp
  split
  · rfl
  · split <;> rfl

theorem in_hand_rescue (phase : FleetPhase) {onward : FleetPhase}
    (rescued : fleetRescue phase = some onward) : inHand onward = none := by
  cases phase <;> cases rescued <;> rfl

theorem update_some {outcome : Except DbError (Option EcosystemEvent × EventsDb)}
    {onward : Option EcosystemEvent → Option FleetPhase}
    (taken : state.update outcome onward = some (effect, after)) :
    ∃ returned db, outcome = .ok (returned, db) ∧ effect = { state with db := db } ∧
      after = onward returned := by
  unfold FleetState.update at taken
  split at taken
  case h_1 returned db =>
    obtain ⟨rfl, rfl⟩ := Prod.mk.inj (Option.some.inj taken)
    exact ⟨returned, db, rfl, rfl, rfl⟩
  case h_2 => cases taken

/-- Everything an operation of a dispatcher can do. -/
inductive Operated (platform : Platform) (input : FleetInput) (state : FleetState) :
    FleetPhase → FleetState → Option FleetPhase → Prop
  | claimed (event old : EcosystemEvent) (db : EventsDb) (due : dueEvent input state.db = some old)
      (claims : Claims platform.payloadOctets state.db db old event) :
      Operated platform input state .claiming { state with db := db } (some (.sending event))
  | delivered (event : EcosystemEvent) (onward : FleetPhase) (empty : inHand onward = none) :
      Operated platform input state (.sending event)
        { state with delivered := state.delivered ++ [attemptOf event] } (some onward)
  | wrote (phase : FleetPhase) (db : EventsDb) (approvals : ApprovalTable)
      (onward : Option FleetPhase) (writes : Writes platform.payloadOctets state.db db)
      (empty : ∀ later, onward = some later → inHand later = none) :
      Operated platform input state phase { state with db := db, approvals := approvals } onward

theorem operated_of_operate
    (taken : fleetOperate platform input state phase = some (effect, after)) :
    Operated platform input state phase effect after := by
  cases phase with
  | claiming =>
      obtain ⟨returned, db, claimed, rfl, rfl⟩ := update_some taken
      cases returned with
      | none =>
          obtain rfl := claim_due_none claimed
          exact .wrote _ state.db state.approvals _ (writes_refl _) nofun
      | some event =>
          obtain ⟨old, due, claims⟩ := claim_due_some claimed
          exact .claimed event old db due claims
  | sending event =>
      obtain ⟨_, _, done⟩ := Option.map_eq_some_iff.mp taken
      obtain ⟨rfl, rfl⟩ := Prod.mk.inj done
      exact .delivered event _ (in_hand_follow_up event input.reply)
  | recording event approvalId executionId =>
      simp only [fleetOperate] at taken
      split at taken
      case h_1 approvals _ =>
        obtain ⟨rfl, rfl⟩ := Prod.mk.inj (Option.some.inj taken)
        exact .wrote _ state.db approvals _ (writes_refl _) (by rintro _ ⟨⟩; rfl)
      case h_2 => cases taken
  | marking event =>
      obtain ⟨_, db, marked, rfl, rfl⟩ := update_some taken
      exact .wrote _ db state.approvals _ (update_event_writes marked fun _ => rfl) nofun
  | rejecting event error =>
      obtain ⟨_, db, given, rfl, rfl⟩ := update_some taken
      exact .wrote _ db state.approvals _ (give_up_writes given) nofun
  | catching event =>
      obtain ⟨_, db, given, rfl, rfl⟩ := update_some taken
      exact .wrote _ db state.approvals _ (give_up_writes given) nofun

theorem operated_db (operated : Operated platform input state phase effect after) :
    Changes platform.payloadOctets state.db effect.db ∧ Advances state.db effect.db := by
  cases operated with
  | claimed _ _ _ _ claims => exact ⟨claims.changes, claims.advances⟩
  | delivered => exact ⟨.unchanged, advances_refl _⟩
  | wrote _ _ _ _ writes => exact ⟨writes.changes, writes.advances⟩

/-- Counts stay within a bound that the claimed row is still below. -/
theorem operated_within (operated : Operated platform input state phase effect after) {bound : Nat}
    (below : ∀ old, phase = .claiming → dueEvent input state.db = some old →
      old.attemptCount < bound)
    (within : Within bound state.db) : Within bound effect.db := by
  cases operated with
  | claimed event old db due claims => exact claims.within bound (below old rfl due) within
  | delivered => exact within
  | wrote _ _ _ _ writes => exact writes.within bound within

/-- The environment's statements count no attempt and deliver nothing. -/
theorem environment_keeps {event : FleetEvent}
    (taken : fleetEnvironment platform state event = some effect) :
    effect.delivered = state.delivered ∧ Advances state.db effect.db ∧
      (∀ bound, Within bound state.db → Within bound effect.db) ∧
      (Stored platform.payloadOctets state.db → Stored platform.payloadOctets effect.db) := by
  cases event with
  | enqueue input =>
      obtain rfl := Option.some.inj taken
      have writes : Writes platform.payloadOctets state.db
          (settled state.db (enqueue platform.payloadOctets input state.db)) :=
        settled_writes fun _ _ => enqueue_writes
      exact ⟨rfl, writes.advances, writes.within, fun stored =>
        changes_stored stored writes.changes⟩
  | approvals current =>
      simp only [fleetEnvironment] at taken
      split_ifs at taken
      obtain rfl := Option.some.inj taken
      exact ⟨rfl, advances_refl _, fun _ within => within, fun stored => stored⟩
  | tick elapsed =>
      obtain rfl := Option.some.inj taken
      exact ⟨rfl, advances_refl _, fun _ within => within, fun stored =>
        ⟨stored.checked, fun row member => (stored.past row member).trans
          (Nat.le_add_right _ _), stored.unique⟩⟩
  | tenants current =>
      obtain rfl := Option.some.inj taken
      exact ⟨rfl, advances_refl _, fun _ within => within, fun stored =>
        ⟨stored.checked, stored.past, stored.unique⟩⟩

end Steps

section Invariant

variable {platform : Platform}

/-- No attempt is delivered twice, and each was counted. -/
structure CountedOnce (platform : Platform) (state : FleetState) : Prop where
  stored : Stored platform.payloadOctets state.db
  once : state.delivered.Nodup
  counted : ∀ attempt ∈ state.delivered, Counted state.db attempt

def Undelivered (phase : FleetPhase) (state : FleetState) : Prop :=
  ∀ attempt, inHand phase = some attempt →
    attempt ∉ state.delivered ∧ Counted state.db attempt

/-- Two dispatchers never hold one attempt. -/
def OtherAttempt (first second : FleetPhase) : Prop :=
  ∀ attempt, inHand first = some attempt → inHand second ≠ some attempt

theorem undelivered_of_empty {phase : FleetPhase} {state : FleetState}
    (empty : inHand phase = none) : Undelivered phase state := by
  intro attempt held
  rw [empty] at held
  cases held

theorem other_attempt_of_empty {phase other : FleetPhase} (empty : inHand phase = none) :
    OtherAttempt phase other := by
  intro attempt held
  rw [empty] at held
  cases held

/-- A claim's attempt exceeds every attempt counted before it. -/
theorem claims_fresh {payloadOctets : Json → Nat} {db next : EventsDb} {attempt : Attempt}
    {old event : EcosystemEvent} (claims : Claims payloadOctets db next old event)
    (counted : Counted db attempt) : attempt ≠ attemptOf event := by
  rintro rfl
  obtain ⟨row, rowMember, rowId, _, bound⟩ := counted
  obtain rfl := KeyedTable.eq_of_key rowMember claims.member (rowId.trans claims.sameId)
  have numbered := claims.numbered
  simp only [attemptOf] at bound
  omega

theorem dispatchers_discipline (platform : Platform) :
    Discipline (dispatchers platform) (CountedOnce platform)
      (fun _ phase state => Undelivered phase state) OtherAttempt where
  symmetric apart attempt held same := apart attempt same held
  entered := by
    intro worker phase state entered _
    have empty : inHand phase = none := by
      cases phase with
      | claiming => rfl
      | _ => cases entered
    exact ⟨undelivered_of_empty empty, fun other => other_attempt_of_empty empty⟩
  operated := by
    intro worker input phase state effect after invariant own taken
    have operated := operated_of_operate taken
    obtain ⟨changes, advances⟩ := operated_db operated
    have stored := changes_stored invariant.stored changes
    have rescued : ∀ onward, fleetRescue phase = some onward → Undelivered onward effect :=
      fun onward rescued => undelivered_of_empty (in_hand_rescue phase rescued)
    cases operated with
    | claimed event old db due claims =>
        refine ⟨⟨stored, invariant.once, fun attempt member =>
          counted_advances advances (invariant.counted attempt member)⟩, ?_⟩
        rintro onward (⟨⟨⟩⟩ | other)
        · intro attempt held
          obtain rfl := Option.some.inj held
          refine ⟨fun member => claims_fresh claims (invariant.counted _ member) rfl,
            event, claims.stored, rfl, ?_, le_refl _⟩
          simp [attemptOf, claims.numbered]
        · exact rescued onward other
    | delivered event onward empty =>
        obtain ⟨undelivered, counted⟩ := own _ rfl
        refine ⟨⟨stored, ?_, ?_⟩, ?_⟩
        · exact List.nodup_append.mpr ⟨invariant.once, List.nodup_singleton _, fun attempt member
            last lastMember same => undelivered (by
              rw [← List.mem_singleton.mp lastMember, ← same]
              exact member)⟩
        · intro attempt member
          rcases List.mem_append.mp member with earlier | latest
          · exact invariant.counted attempt earlier
          · rw [List.mem_singleton.mp latest]
            exact counted
        · rintro later (⟨⟨⟩⟩ | other)
          · exact undelivered_of_empty empty
          · exact rescued later other
    | wrote _ db approvals onward _ empty =>
        refine ⟨⟨stored, invariant.once, fun attempt member =>
          counted_advances advances (invariant.counted attempt member)⟩, ?_⟩
        rintro later (goes | other)
        · exact undelivered_of_empty (empty later goes)
        · exact rescued later other
  failed := by
    intro worker phase state onward _ _ rescued
    exact undelivered_of_empty (in_hand_rescue phase rescued)
  undisturbed := by
    intro worker input phase state effect after other otherPhase _ _ _ others apart taken
    have operated := operated_of_operate taken
    obtain ⟨_, advances⟩ := operated_db operated
    cases operated with
    | claimed event old db due claims =>
        refine ⟨fun attempt held => ⟨(others attempt held).1,
          counted_advances advances (others attempt held).2⟩, ?_⟩
        rintro onward ⟨⟩ attempt mine theirs
        obtain rfl := Option.some.inj mine
        exact claims_fresh claims (others _ theirs).2 rfl
    | delivered event onward empty =>
        refine ⟨fun attempt held => ⟨fun member => ?_, (others attempt held).2⟩, ?_⟩
        · rcases List.mem_append.mp member with earlier | latest
          · exact (others attempt held).1 earlier
          · rw [List.mem_singleton.mp latest] at held
            exact apart _ rfl held
        · rintro later ⟨⟩
          exact other_attempt_of_empty empty
    | wrote _ db approvals onward _ empty =>
        refine ⟨fun attempt held => ⟨(others attempt held).1,
          counted_advances advances (others attempt held).2⟩, ?_⟩
        exact fun later goes => other_attempt_of_empty (empty later goes)
  still_apart := by
    intro phase onward other _ rescued
    exact other_attempt_of_empty (in_hand_rescue phase rescued)
  external := by
    intro event state effect invariant taken
    obtain ⟨same, advances, _, stored⟩ := environment_keeps taken
    refine ⟨⟨stored invariant.stored, ?_, ?_⟩, ?_⟩
    · rw [same]
      exact invariant.once
    · rw [same]
      exact fun attempt member => counted_advances advances (invariant.counted attempt member)
    · intro worker phase own attempt held
      rw [same]
      exact ⟨(own attempt held).1, counted_advances advances (own attempt held).2⟩

end Invariant

section Runs

variable {platform : Platform} {state next : FleetRun} {action : FleetAction}

theorem step_advances (taken : step (dispatchers platform) state action = some next) :
    Advances state.shared.db next.shared.db := by
  cases step_stepped taken with
  | called => exact advances_refl _
  | operated _ _ _ _ _ _ _ operation => exact (operated_db (operated_of_operate operation)).2
  | failed => exact advances_refl _
  | stopped => exact advances_refl _
  | happened _ _ change => exact (environment_keeps change).2.1

theorem run_advances (reached : Reachable (step (dispatchers platform)) state next) :
    Advances state.shared.db next.shared.db :=
  @reachable_relates _ _ _ (fun _ => True)
    (fun first second => Advances first.shared.db second.shared.db)
    (fun _ => advances_refl _) (fun _ _ _ => advances_trans)
    (fun _ _ _ _ taken => ⟨trivial, step_advances taken⟩) _ _ trivial reached

/-- A step that claims within the cap counts at most five attempts on any row. -/
theorem step_within (capped : claimsWithinCap state action = true)
    (within : Within 5 state.shared.db)
    (taken : step (dispatchers platform) state action = some next) :
    Within 5 next.shared.db := by
  cases action with
  | advance worker input fault =>
      obtain ⟨phase, busy, rfl⟩ := Option.map_eq_some_iff.mp taken
      have below : ∀ old, phase = .claiming → dueEvent input state.shared.db = some old →
          old.attemptCount < 5 := by
        rintro old rfl due
        simpa [claimsWithinCap, claimedRow, busy, due] using capped
      rcases advance_cases (dispatchers platform) worker input fault phase state.shared with
        ⟨effect, after, operation, result | result⟩ | result
      · rw [result]
        exact operated_within (operated_of_operate operation) below within
      · rw [result]
        exact operated_within (operated_of_operate operation) below within
      · rw [result]
        exact within
  | external event =>
      obtain ⟨shared, change, rfl⟩ := Option.map_eq_some_iff.mp taken
      exact (environment_keeps change).2.2.1 5 within
  | call worker phase =>
      simp only [step] at taken
      split_ifs at taken
      obtain rfl := Option.some.inj taken
      exact within
  | stop worker =>
      obtain rfl := Option.some.inj taken
      exact within

/-- A row that has ended is not due. -/
theorem ended_not_claimed {row : EcosystemEvent} (member : row ∈ state.shared.db.events)
    (ended : row.status.isActive = false) :
    ∀ claimed, claimedRow state action = some claimed → claimed.id ≠ row.id := by
  intro claimed claims same
  unfold claimedRow at claims
  split at claims
  case h_1 worker input fault =>
    split at claims
    case h_1 =>
      obtain ⟨isStored, active⟩ := due_event_active claims
      obtain rfl := KeyedTable.eq_of_key isStored member same
      rw [ended] at active
      cases active
    case h_2 => cases claims
  case h_2 => cases claims

theorem ended_never_claimed {row : EcosystemEvent} (member : row ∈ state.shared.db.events)
    (ended : row.status.isActive = false) (schedule : List FleetAction) :
    NeverClaimed platform row.id state schedule := by
  refine @along_implies _ _ _ (fun _ _ => True) _ (fun state => row ∈ state.shared.db.events)
    ?_ (fun _ _ member _ => ended_not_claimed member ended) _ _ member
    (along_of_actions (fun _ _ _ => trivial) state)
  intro state action next member _ taken
  obtain ⟨later, laterMember, _, _, stays⟩ := step_advances taken row member
  exact stays ended ▸ laterMember

theorem start_consistent (platform : Platform) (tenant : Uuid → Bool) (clock : Instant)
    (approvals : ApprovalTable) :
    Consistent (CountedOnce platform) (fun _ phase state => Undelivered phase state)
      OtherAttempt (fleetStart tenant clock approvals) :=
  consistent_idle ⟨empty_events_stored tenant clock, List.nodup_nil, nofun⟩

/-- Attempts that are numbered from one to five, each delivered once. -/
theorem at_most_five {platform : Platform} {shared : FleetState}
    (invariant : CountedOnce platform shared) (within : Within 5 shared.db) :
    AtMostFive shared.delivered := by
  intro id
  rw [List.countP_eq_length_filter]
  have numbers : ((shared.delivered.filter fun attempt => attempt.event = id).map
      Attempt.number).Nodup := by
    refine (invariant.once.filter _).map_on ?_
    intro first firstMember second secondMember same
    have firstEvent := of_decide_eq_true (List.mem_filter.mp firstMember).2
    have secondEvent := of_decide_eq_true (List.mem_filter.mp secondMember).2
    cases first
    cases second
    simp_all
  have bounded : ((shared.delivered.filter fun attempt => attempt.event = id).map
      Attempt.number) ⊆ List.range' 1 5 := by
    intro number member
    obtain ⟨attempt, attemptMember, rfl⟩ := List.mem_map.mp member
    obtain ⟨row, rowMember, _, positive, counted⟩ :=
      invariant.counted attempt (List.mem_filter.mp attemptMember).1
    have cap := within row rowMember
    exact List.mem_range'_1.mpr ⟨positive, by omega⟩
  have count := (List.subperm_of_subset numbers bounded).length_le
  rwa [List.length_map, List.length_range'] at count

/-- In every run, an event that has ended stays as it is and is never claimed
again, and every row satisfies its constraints; where each claim finds less than
five attempts counted, no event is delivered more than five times. -/
theorem attempts_capped_of_claims {tenant : Uuid → Bool} {clock : Instant}
    {approvals : ApprovalTable} {first second : List FleetAction} {finish : FleetRun}
    (reached : execute (step (dispatchers platform)) (fleetStart tenant clock approvals) first =
      some state)
    (onward : execute (step (dispatchers platform)) state second = some finish) :
    (Along (step (dispatchers platform)) (fun state action => claimsWithinCap state action = true)
        (fleetStart tenant clock approvals) first → AtMostFive state.shared.delivered) ∧
      (∀ row ∈ state.shared.db.events, hasEnded row →
        row ∈ finish.shared.db.events ∧ NeverClaimed platform row.id state second) ∧
      ∀ row ∈ state.shared.db.events, ∀ constraint ∈ row.checks platform.payloadOctets,
        constraint.2 = true := by
  have consistent := reachable_consistent (dispatchers_discipline platform)
    (start_consistent platform tenant clock approvals) ⟨first, reached⟩
  refine ⟨fun capped => ?_, fun row member ended => ?_, consistent.invariant.stored.checked⟩
  · refine at_most_five consistent.invariant ?_
    refine execute_preserves (fun _ _ _ within capped taken => step_within capped within taken)
      ?_ capped reached
    exact fun row member => absurd member (KeyedTable.not_mem_empty row)
  · have inactive : row.status.isActive = false := by
      rcases ended with status | status | status <;> rw [status] <;> rfl
    obtain ⟨later, laterMember, _, _, stays⟩ := run_advances ⟨second, onward⟩ row member
    exact ⟨stays inactive ▸ laterMember, ended_never_claimed member inactive second⟩

end Runs

section Example

/-- One dispatcher claims at the given second and is gone once the request has
left; five minutes and a second go by. -/
def lostAttempt (second : Nat) : List FleetAction :=
  [.call 0 .claiming, .advance 0 ⟨1000 + 1000000 * second, [], acknowledgement⟩ .absent,
    .advance 0 ⟨0, [], acknowledgement⟩ .absent, .stop 0, .external (.tick 301000000)]

/-- Six of them, one after the other. -/
def lostAttempts : List FleetAction :=
  .external (.enqueue (DeliveryOnce.exampleInput .notificationHub)) ::
    (List.range 6).flatMap fun round => lostAttempt (301 * round)

/-- Two dispatchers claim the event in turn: the first one's call outlives its
claim, the second one marks the event as sent. -/
def overtaken : List FleetAction :=
  [.external (.enqueue (DeliveryOnce.exampleInput .notificationHub)),
    .call 0 .claiming, .advance 0 ⟨1000, [], acknowledgement⟩ .absent,
    .external (.tick 301000000),
    .call 1 .claiming, .advance 1 ⟨301001000, [], acknowledgement⟩ .absent,
    .advance 1 ⟨0, [], acknowledgement⟩ .absent, .advance 1 ⟨0, [], acknowledgement⟩ .absent,
    .advance 0 ⟨0, [], .threw⟩ .absent]

def exampleFleet : FleetRun :=
  fleetStart (fun id => id == 7) 1000 (KeyedTable.empty.insert waitingApproval)

end Example

/-- The event is delivered to both, and ends up sent. -/
theorem attempts_capped_overtaken :
    ∃ state, execute (step (dispatchers examplePlatform)) exampleFleet overtaken = some state ∧
      state.shared.delivered = [⟨3, 2⟩, ⟨3, 1⟩] ∧ AtMostFive state.shared.delivered := by
  have ends : (execute (step (dispatchers examplePlatform)) exampleFleet overtaken).any
      (fun state => decide (state.shared.delivered = [⟨3, 2⟩, ⟨3, 1⟩])) = true := by
    decide
  obtain ⟨state, arrived, delivered⟩ := (Option.any_eq_true _ _).mp ends
  have capped : Along (step (dispatchers examplePlatform))
      (fun state action => claimsWithinCap state action = true) exampleFleet overtaken := by
    decide
  exact ⟨state, arrived, of_decide_eq_true delivered,
    (attempts_capped_of_claims arrived (execute_nil state)).1 capped⟩

/-- Six deliveries of one event. -/
theorem sixth_attempt_delivered :
    ¬ ∀ (tenant : Uuid → Bool) (clock : Instant) (approvals : ApprovalTable)
        (first second : List FleetAction) (state finish : FleetRun),
      execute (step (dispatchers examplePlatform)) (fleetStart tenant clock approvals) first =
        some state →
      execute (step (dispatchers examplePlatform)) state second = some finish →
      AtMostFive state.shared.delivered ∧
        (∀ row ∈ state.shared.db.events, hasEnded row → row ∈ finish.shared.db.events ∧
          NeverClaimed examplePlatform row.id state second) ∧
        ∀ row ∈ state.shared.db.events, ∀ constraint ∈ row.checks examplePlatform.payloadOctets,
          constraint.2 = true := by
  intro always
  have ends : (execute (step (dispatchers examplePlatform)) exampleFleet lostAttempts).any
      (fun state => decide ((state.shared.delivered.countP fun attempt => attempt.event = 3) = 6))
      = true := by decide
  obtain ⟨state, arrived, delivered⟩ := (Option.any_eq_true _ _).mp ends
  have capped := (always _ _ _ _ [] _ _ arrived rfl).1 3
  rw [of_decide_eq_true delivered] at capped
  omega

end CommitmentOptimizer.Adapters.DispatcherFleet
