import CommitmentOptimizer.Adapters.EcosystemEvents

/-!
# Histories of the ecosystem events table

The statements of the repository in any order, what every stored row satisfies,
and when enqueueing a stored event again changes nothing.
-/

namespace CommitmentOptimizer.Adapters.EventHistory

open Foundations
open Foundations.Schedules
open Foundations.SqlConstraints
open EcosystemEvents

set_option autoImplicit false

/-- What one accepted statement does to the table. -/
inductive Changes (payloadOctets : Json → Nat) (db : EventsDb) : EventsDb → Prop where
  | unchanged : Changes payloadOctets db db
  | updated (old new row : EcosystemEvent) (member : old ∈ db.events)
      (accepted : updateEventRow payloadOctets db.clock old new = .ok row) :
      Changes payloadOctets db { db with events := db.events.put row }
  | inserted (input : EnqueueInput)
      (accepted : insertEventRow payloadOctets (input.row db.clock) = .ok (input.row db.clock))
      (fresh : db.events.find input.id = none) (first : db.conflicting input = none) :
      Changes payloadOctets db { db with events := db.events.insert (input.row db.clock) }

/-- Every row satisfies the constraints, was written in the past, and is the
only one with its tenant, target and event id. -/
structure Stored (payloadOctets : Json → Nat) (db : EventsDb) : Prop where
  checked : ∀ row ∈ db.events, ∀ constraint ∈ row.checks payloadOctets, constraint.2 = true
  past : ∀ row ∈ db.events, row.updatedAt ≤ db.clock
  unique : ∀ left ∈ db.events, ∀ right ∈ db.events, left.tenantId = right.tenantId →
    left.targetSystem = right.targetSystem → left.eventId = right.eventId → left = right

inductive EventsAction where
  | enqueue (input : EnqueueInput)
  | claimNext (now : Instant)
  | markSent (id : Uuid)
  | markRetry (id : Uuid) (nextAttemptAt : Instant) (error : String)
  | markFailed (id : Uuid) (error : String)
  | tick (elapsed : Nat)
  | tenants (current : Uuid → Bool)

/-- A statement that raises leaves the table alone. -/
def settled {Value : Type} (db : EventsDb) (outcome : Except DbError (Value × EventsDb)) :
    EventsDb :=
  match outcome with
  | .ok (_, next) => next
  | .error _ => db

variable (payloadOctets : Json → Nat)

def eventsStep (db : EventsDb) : EventsAction → Option EventsDb
  | .enqueue input => some (settled db (enqueue payloadOctets input db))
  | .claimNext now => some (settled db (claimNext payloadOctets now db))
  | .markSent id => some (settled db (markSent payloadOctets id db))
  | .markRetry id nextAttemptAt error =>
      some (settled db (markRetry payloadOctets id nextAttemptAt error db))
  | .markFailed id error => some (settled db (markFailed payloadOctets id error db))
  | .tick elapsed => some { db with clock := db.clock + elapsed }
  | .tenants current => some { db with tenant := current }

variable {payloadOctets}

theorem conflicting_some {db : EventsDb} {input : EnqueueInput} {row : EcosystemEvent}
    (found : db.conflicting input = some row) : row ∈ db.events ∧
      row.tenantId = input.tenantId ∧ row.targetSystem = input.targetSystem ∧
      row.eventId = input.eventId := by
  have matched := List.find?_some found
  simp only [Bool.and_eq_true, decide_eq_true_eq] at matched
  exact ⟨List.mem_of_find?_eq_some found, matched.1.1, matched.1.2, matched.2⟩

theorem conflicting_none {db : EventsDb} {input : EnqueueInput} {row : EcosystemEvent}
    (absent : db.conflicting input = none) (member : row ∈ db.events)
    (tenant : row.tenantId = input.tenantId) (target : row.targetSystem = input.targetSystem) :
    row.eventId ≠ input.eventId := by
  have unmatched := List.find?_eq_none.mp absent row member
  simp only [Bool.and_eq_true, decide_eq_true_eq, not_and] at unmatched
  exact unmatched ⟨tenant, target⟩

theorem update_event_changes {id : Uuid} {matching : EcosystemEvent → Bool}
    {change : EcosystemEvent → EcosystemEvent} {db next : EventsDb}
    {returned : Option EcosystemEvent}
    (accepted : updateEvent payloadOctets id matching change db = .ok (returned, next)) :
    Changes payloadOctets db next := by
  unfold updateEvent at accepted
  split at accepted
  case h_1 =>
    cases accepted
    exact .unchanged
  case h_2 old found =>
    obtain ⟨row, stored, done⟩ := bind_ok.mp accepted
    cases done
    obtain ⟨member, _⟩ := Option.filter_eq_some_iff.mp found
    exact .updated old (change old) row (KeyedTable.mem_of_find member) stored

theorem enqueue_changes {input : EnqueueInput} {db next : EventsDb} {row : EcosystemEvent}
    (accepted : enqueue payloadOctets input db = .ok (row, next)) :
    Changes payloadOctets db next := by
  obtain ⟨proposed, proposal, accepted⟩ := bind_ok.mp accepted
  obtain ⟨rfl, _⟩ := insert_event_row_ok.mp proposal
  split at accepted
  case h_1 old found =>
    obtain ⟨stored, update, done⟩ := bind_ok.mp accepted
    cases done
    exact .updated old old row (conflicting_some found).1 update
  case h_2 absent =>
    obtain ⟨_, fresh, accepted⟩ := bind_ok.mp accepted
    obtain ⟨_, _, done⟩ := bind_ok.mp accepted
    cases done
    exact .inserted input proposal (Option.isNone_iff_eq_none.mp (require_ok.mp fresh)) absent

theorem claim_next_changes {now : Instant} {db next : EventsDb} {returned : Option EcosystemEvent}
    (accepted : claimNext payloadOctets now db = .ok (returned, next)) :
    Changes payloadOctets db next := by
  unfold claimNext at accepted
  split at accepted
  case h_1 =>
    cases accepted
    exact .unchanged
  case h_2 => exact update_event_changes accepted

theorem settled_changes {Value : Type} {db : EventsDb}
    {outcome : Except DbError (Value × EventsDb)}
    (changes : ∀ value next, outcome = .ok (value, next) → Changes payloadOctets db next) :
    Changes payloadOctets db (settled db outcome) := by
  cases outcome with
  | error error => exact .unchanged
  | ok result => exact changes result.1 result.2 rfl

/-- The row an accepted UPDATE stores keeps the frozen columns. -/
theorem updated_identity {clock : Instant} {old new row : EcosystemEvent}
    (accepted : updateEventRow payloadOctets clock old new = .ok row) :
    row.toEcosystemEventIdentity = old.toEcosystemEventIdentity := by
  obtain ⟨same, _, _, rfl, _⟩ := update_event_row_ok.mp accepted
  exact same

theorem changes_stored {db next : EventsDb} (stored : Stored payloadOctets db)
    (changes : Changes payloadOctets db next) : Stored payloadOctets next := by
  cases changes with
  | unchanged => exact stored
  | updated old new row member accepted =>
      have same := updated_identity accepted
      obtain ⟨_, _, _, rowIs, checked⟩ := update_event_row_ok.mp accepted
      have origin : ∀ other ∈ db.events.put row, other = row ∨ other ∈ db.events ∧
          other.id ≠ row.id := by
        intro other otherMember
        rcases KeyedTable.mem_put.mp otherMember with ⟨isRow, _⟩ | kept
        · exact Or.inl isRow
        · exact Or.inr kept
      refine ⟨?_, ?_, ?_⟩
      · intro other otherMember
        rcases origin other otherMember with rfl | ⟨kept, _⟩
        · exact checked
        · exact stored.checked other kept
      · intro other otherMember
        rcases origin other otherMember with rfl | ⟨kept, _⟩
        · rw [rowIs]
        · exact stored.past other kept
      · intro left leftMember right rightMember tenant target event
        have identified : ∀ other ∈ db.events.put row, ∃ before ∈ db.events,
            before.toEcosystemEventIdentity = other.toEcosystemEventIdentity := by
          intro other otherMember
          rcases origin other otherMember with rfl | ⟨kept, _⟩
          · exact ⟨old, member, same.symm⟩
          · exact ⟨other, kept, rfl⟩
        obtain ⟨leftOld, leftOldMember, leftSame⟩ := identified left leftMember
        obtain ⟨rightOld, rightOldMember, rightSame⟩ := identified right rightMember
        have sameOld : leftOld = rightOld := by
          apply stored.unique leftOld leftOldMember rightOld rightOldMember
          · rw [leftSame, rightSame, tenant]
          · rw [leftSame, rightSame, target]
          · rw [leftSame, rightSame, event]
        refine KeyedTable.eq_of_key leftMember rightMember ?_
        rw [← leftSame, sameOld, rightSame]
  | inserted input accepted fresh first =>
      obtain ⟨_, _, checked⟩ := insert_event_row_ok.mp accepted
      refine ⟨?_, ?_, ?_⟩
      · intro other otherMember
        rcases KeyedTable.mem_of_mem_insert otherMember with kept | rfl
        · exact stored.checked other kept
        · exact checked
      · intro other otherMember
        rcases KeyedTable.mem_of_mem_insert otherMember with kept | rfl
        · exact stored.past other kept
        · exact le_refl _
      · intro left leftMember right rightMember tenant target event
        rcases KeyedTable.mem_of_mem_insert leftMember with oldLeft | rfl
        · rcases KeyedTable.mem_of_mem_insert rightMember with oldRight | rfl
          · exact stored.unique left oldLeft right oldRight tenant target event
          · exact absurd event (conflicting_none first oldLeft tenant target)
        · rcases KeyedTable.mem_of_mem_insert rightMember with oldRight | rfl
          · exact absurd event.symm (conflicting_none first oldRight tenant.symm target.symm)
          · rfl

theorem events_step_stored {db next : EventsDb} {action : EventsAction}
    (stored : Stored payloadOctets db) (taken : eventsStep payloadOctets db action = some next) :
    Stored payloadOctets next := by
  cases action with
  | enqueue input =>
      cases taken
      exact changes_stored stored (settled_changes fun _ _ => enqueue_changes)
  | claimNext now =>
      cases taken
      exact changes_stored stored (settled_changes fun _ _ => claim_next_changes)
  | markSent id =>
      cases taken
      exact changes_stored stored (settled_changes fun _ _ => update_event_changes)
  | markRetry id nextAttemptAt error =>
      cases taken
      exact changes_stored stored (settled_changes fun _ _ => update_event_changes)
  | markFailed id error =>
      cases taken
      exact changes_stored stored (settled_changes fun _ _ => update_event_changes)
  | tick elapsed =>
      cases taken
      exact ⟨stored.checked, fun row member => (stored.past row member).trans
        (Nat.le_add_right _ _), stored.unique⟩
  | tenants current =>
      cases taken
      exact ⟨stored.checked, stored.past, stored.unique⟩

def emptyEvents (tenant : Uuid → Bool) (clock : Instant) : EventsDb where
  events := KeyedTable.empty
  tenant := tenant
  clock := clock

theorem empty_events_stored (tenant : Uuid → Bool) (clock : Instant) :
    Stored payloadOctets (emptyEvents tenant clock) where
  checked row member := absurd member (KeyedTable.not_mem_empty row)
  past row member := absurd member (KeyedTable.not_mem_empty row)
  unique left member := absurd member (KeyedTable.not_mem_empty left)

section Example

/-- An event for the workflow engine. -/
def exampleInput : EnqueueInput where
  id := 2
  now := 1000
  tenantId := 7
  eventType := "integration.test"
  eventId := "test-workflow_engine"
  payload := .object [("message", .string "test")]
  targetSystem := .workflowEngine
  enabled := true

/-- The length of `exampleInput.payload` as text. -/
def exampleOctets : Json → Nat := fun _ => 19

def exampleEvents : EventsDb := emptyEvents (fun id => id == 7) 1000

end Example

end CommitmentOptimizer.Adapters.EventHistory
