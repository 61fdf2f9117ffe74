import CommitmentOptimizer.Adapters.EcosystemDispatcher

/-!
# Acknowledged events are delivered once

With one dispatcher that does not stop, an acknowledged event ends up sent and
is not delivered again, as long as `setWorkflowExecutionId` has nothing to
write: the approvals trigger admits no UPDATE that leaves the status alone, so
every row that statement matches turns the acknowledgement into a retry.
-/

namespace CommitmentOptimizer.Adapters.DeliveryOnce

open Foundations
open Foundations.Schedules
open Foundations.SqlConstraints
open EcosystemEvents
open EventHistory
open EcosystemDispatcher
open Approvals.ApprovalLifecycle

set_option autoImplicit false

/-- No delivery of an event follows an acknowledged one. -/
def SentOnce (delivered : List Delivery) : Prop :=
  delivered.Pairwise fun first later => first.acknowledged = true → later.event ≠ first.event

/-- The dispatcher is between the acknowledgement of the event and its row. -/
def Phase.finishing (id : Uuid) : Phase → Bool
  | .recording event _ _ | .marking event => event.id == id
  | .idle | .sending _ | .giving _ _ => false

/-- An acknowledged event is sent, but for the steps that are about to mark it. -/
def AcknowledgedSent (state : DispatchState) : Prop :=
  ∀ delivery ∈ state.delivered, delivery.acknowledged = true →
    Phase.finishing delivery.event state.phase = true ∨
      ∃ row ∈ state.db.events, row.id = delivery.event ∧ row.status = .sent

/-- The step that records an execution identifier for a pending approval leaves
that approval with it. -/
def Recorded (before after : DispatchState) : Prop :=
  match before.phase with
  | .recording event approvalId executionId =>
      ∀ row ∈ before.approvals, uuidOfText approvalId = some row.id →
        row.tenantId = event.tenantId → row.status = .pending →
        ∃ later ∈ after.approvals, later.id = row.id ∧
          later.workflowExecutionId = some (String.ofList executionId)
  | _ => True

/-- Every acknowledged event is, and stays, sent and recorded. -/
def DeliversOnce (platform : Platform) (state : DispatchState) (action : DispatchAction) : Prop :=
  ∀ next, dispatchStep platform state action = some next →
    SentOnce next.delivered ∧ AcknowledgedSent next ∧
      match action with
      | .record => Recorded state next
      | _ => True

/-- `setWorkflowExecutionId` converts its parameters and matches no row. -/
def NothingToRecord (approvals : ApprovalTable) (tenantId : Uuid)
    (approvalId executionId : List Char) : Prop :=
  ∃ id, uuidOfText approvalId = some id ∧ '\x00' ∉ executionId ∧
    ∀ row ∈ approvals, row.id = id → row.tenantId = tenantId → row.workflowExecutionId ≠ none

def RecordsNothing (state : DispatchState) (action : DispatchAction) : Prop :=
  match action, state.phase with
  | .record, .recording event approvalId executionId =>
      NothingToRecord state.approvals event.tenantId approvalId executionId
  | _, _ => True

/-- The statement is accepted exactly when it has nothing to write. -/
theorem record_execution_ok {snapshotOctets : ApprovalSnapshot → Nat} {clock : Instant}
    {tenantId : Uuid} {approvalId executionId : List Char} {approvals after : ApprovalTable} :
    recordExecution snapshotOctets clock tenantId approvalId executionId approvals = .ok after ↔
      NothingToRecord approvals tenantId approvalId executionId ∧ after = approvals := by
  unfold recordExecution NothingToRecord
  cases parsed : uuidOfText approvalId with
  | none => simp
  | some id =>
      dsimp only
      split_ifs with encoded
      · simp [encoded]
      · cases matched : (approvals.find id).filter fun row =>
            row.tenantId = tenantId && row.workflowExecutionId.isNone with
        | none =>
            have unmatched : ∀ row ∈ approvals, row.id = id → row.tenantId = tenantId →
                row.workflowExecutionId ≠ none := by
              rintro row member rfl rfl blank
              simp [KeyedTable.find_key member, blank] at matched
            constructor
            · intro accepted
              cases accepted
              exact ⟨⟨id, rfl, encoded, unmatched⟩, rfl⟩
            · rintro ⟨_, rfl⟩
              rfl
        | some old =>
            obtain ⟨found, matching⟩ := Option.filter_eq_some_iff.mp matched
            have oldId := KeyedTable.key_of_find found
            simp only [Bool.and_eq_true, decide_eq_true_eq, Option.isNone_iff_eq_none] at matching
            have refusal : ∃ error, updateApprovalRow snapshotOctets clock old
                { old with workflowExecutionId := some (String.ofList executionId) } =
                .error error ∧ error.code = "55000" := update_same_status_refused rfl
            obtain ⟨error, refused, _⟩ := refusal
            constructor
            · intro accepted
              obtain ⟨row, stored, _⟩ := bind_ok.mp accepted
              rw [refused] at stored
              cases stored
            · rintro ⟨⟨other, isOther, _, unmatched⟩, _⟩
              cases isOther
              exact absurd matching.2
                (unmatched old (KeyedTable.mem_of_find found) oldId matching.1)

section Events

variable {payloadOctets : Json → Nat} {db next : EventsDb}

/-- A sent row is terminal. -/
theorem changes_keep_sent (changes : Changes payloadOctets db next) {row : EcosystemEvent}
    (member : row ∈ db.events) (sent : row.status = .sent) : row ∈ next.events := by
  cases changes with
  | unchanged => exact member
  | updated old new stored oldMember accepted =>
      obtain ⟨_, active, _⟩ := update_event_row_ok.mp accepted
      refine KeyedTable.mem_put.mpr (Or.inr ⟨member, fun same => ?_⟩)
      have storedId : stored.id = old.id :=
        congrArg EcosystemEventIdentity.id (updated_identity accepted)
      have sameRow : row = old := KeyedTable.eq_of_key member oldMember (same.trans storedId)
      rw [← sameRow, sent] at active
      cases active
  | inserted input _ _ _ => exact KeyedTable.mem_insert_of_mem member

theorem enqueue_keeps_status {input : EnqueueInput} {returned : EcosystemEvent}
    (accepted : enqueue payloadOctets input db = .ok (returned, next)) {row : EcosystemEvent}
    (member : row ∈ db.events) :
    ∃ later ∈ next.events, later.id = row.id ∧ later.status = row.status := by
  obtain ⟨proposed, proposal, accepted⟩ := bind_ok.mp accepted
  split at accepted
  case h_1 old found =>
    obtain ⟨stored, update, done⟩ := bind_ok.mp accepted
    obtain ⟨rfl, rfl⟩ := Prod.mk.inj (Except.ok.inj done)
    have same := updated_identity update
    have storedId : stored.id = old.id := congrArg EcosystemEventIdentity.id same
    by_cases isOld : row.id = old.id
    · have sameRow := KeyedTable.eq_of_key member (conflicting_some found).1 isOld
      obtain ⟨_, _, _, storedIs, _⟩ := update_event_row_ok.mp update
      refine ⟨stored, KeyedTable.mem_put.mpr (Or.inl ⟨rfl, old, (conflicting_some found).1,
        storedId.symm⟩), storedId.trans isOld.symm, ?_⟩
      rw [storedIs, sameRow]
    · refine ⟨row, KeyedTable.mem_put.mpr (Or.inr ⟨member, fun taken => ?_⟩), rfl, rfl⟩
      exact isOld (taken.trans storedId)
  case h_2 =>
    obtain ⟨_, _, accepted⟩ := bind_ok.mp accepted
    obtain ⟨_, _, done⟩ := bind_ok.mp accepted
    cases done
    exact ⟨row, KeyedTable.mem_insert_of_mem member, rfl, rfl⟩

theorem update_event_returned {id : Uuid} {matching : EcosystemEvent → Bool}
    {change : EcosystemEvent → EcosystemEvent} {row : EcosystemEvent}
    (accepted : updateEvent payloadOctets id matching change db = .ok (some row, next)) :
    row ∈ next.events ∧ ∃ old ∈ db.events, row.id = old.id ∧ row.status = (change old).status := by
  unfold updateEvent at accepted
  split at accepted
  case h_1 => cases accepted
  case h_2 old found =>
    obtain ⟨stored, update, done⟩ := bind_ok.mp accepted
    cases done
    obtain ⟨isOld, _⟩ := Option.filter_eq_some_iff.mp found
    have storedId : row.id = old.id :=
      congrArg EcosystemEventIdentity.id (updated_identity update)
    obtain ⟨_, _, _, storedIs, _⟩ := update_event_row_ok.mp update
    have oldMember := KeyedTable.mem_of_find isOld
    refine ⟨KeyedTable.mem_put.mpr (Or.inl ⟨rfl, old, oldMember, storedId.symm⟩), old, oldMember,
      storedId, ?_⟩
    rw [storedIs]

theorem claim_next_returned {now : Instant} {event : EcosystemEvent}
    (accepted : claimNext payloadOctets now db = .ok (some event, next)) :
    event ∈ next.events ∧ event.status = .retrying := by
  unfold claimNext at accepted
  split at accepted
  case h_1 => cases accepted
  case h_2 =>
    obtain ⟨member, old, _, _, status⟩ := update_event_returned accepted
    exact ⟨member, status⟩

/-- The row `markSent` stores. -/
def sentEvent (row : EcosystemEvent) (clock : Instant) : EcosystemEvent :=
  { row with status := .sent, nextAttemptAt := none, lastError := none, updatedAt := clock }

/-- `markSent` of a claimed event is accepted. -/
theorem mark_sent_accepted (stored : Stored payloadOctets db) {row : EcosystemEvent}
    (member : row ∈ db.events) (retrying : row.status = .retrying) :
    markSent payloadOctets row.id db = .ok (some (sentEvent row db.clock),
      { db with events := db.events.put (sentEvent row db.clock) }) := by
  have checked := stored.checked row member
  have past := stored.past row member
  have update : updateEventRow payloadOctets db.clock row
      { row with status := .sent, nextAttemptAt := none, lastError := none } =
      .ok (sentEvent row db.clock) := by
    refine update_event_row_ok.mpr ⟨rfl, ?_, ?_, rfl, ?_⟩
    · rw [retrying]
      rfl
    · rw [retrying]
      rfl
    · simp only [EcosystemEvent.checks, List.forall_mem_cons, decide_eq_true_eq] at checked ⊢
      obtain ⟨type, event, payload, attempts, _, _, ordered, _⟩ := checked
      exact ⟨type, event, payload, attempts, rfl, rfl, ordered.trans past, by simp⟩
  have found : (db.events.find row.id).filter isRetrying = some row := by
    simp [KeyedTable.find_key member, isRetrying, retrying]
  rw [markSent, updateEvent, found]
  exact bind_ok.mpr ⟨_, update, rfl⟩

end Events

section Runs

variable {platform : Platform} {state next : DispatchState}

/-- The event the dispatcher is handling. -/
def phaseEvent : Phase → Option EcosystemEvent
  | .idle => none
  | .sending event | .recording event _ _ | .marking event | .giving event _ => some event

/-- The event in hand is stored as retrying, and the promises hold. -/
structure Handling (platform : Platform) (state : DispatchState) : Prop where
  stored : Stored platform.payloadOctets state.db
  blank : ∀ row ∈ state.approvals, row.workflowExecutionId = none
  active : ∀ event, phaseEvent state.phase = some event →
    ∃ row ∈ state.db.events, row.id = event.id ∧ row.status = .retrying
  acknowledged : AcknowledgedSent state
  once : SentOnce state.delivered

/-- Outside the steps that finish an event, every acknowledged event is sent. -/
theorem sent_of_not_finishing (handling : Handling platform state) {delivery : Delivery}
    (member : delivery ∈ state.delivered) (acknowledged : delivery.acknowledged = true)
    (other : Phase.finishing delivery.event state.phase = false) :
    ∃ row ∈ state.db.events, row.id = delivery.event ∧ row.status = .sent := by
  rcases handling.acknowledged delivery member acknowledged with finishing | sent
  · rw [other] at finishing
    cases finishing
  · exact sent

/-- Steps of the database keep the sent rows. -/
theorem acknowledged_changes {db : EventsDb} (changes : Changes platform.payloadOctets state.db db)
    {id : Uuid} (sent : ∃ row ∈ state.db.events, row.id = id ∧ row.status = .sent) :
    ∃ row ∈ db.events, row.id = id ∧ row.status = .sent := by
  obtain ⟨row, member, sameId, isSent⟩ := sent
  exact ⟨row, changes_keep_sent changes member isSent, sameId, isSent⟩

theorem claim_handling (handling : Handling platform state) {now : Instant}
    (taken : dispatchStep platform state (.claim now) = some next) : Handling platform next := by
  cases phase : state.phase with
  | idle =>
      have sent : ∀ delivery ∈ state.delivered, delivery.acknowledged = true →
          ∃ row ∈ state.db.events, row.id = delivery.event ∧ row.status = .sent :=
        fun delivery member acknowledged => sent_of_not_finishing handling member acknowledged
          (by rw [phase]; rfl)
      simp only [dispatchStep, phase] at taken
      split at taken
      case h_1 event db claimed =>
        cases taken
        have changes := claim_next_changes claimed
        obtain ⟨member, retrying⟩ := claim_next_returned claimed
        exact
          { stored := changes_stored handling.stored changes
            blank := handling.blank
            active := by
              rintro _ ⟨⟩
              exact ⟨event, member, rfl, retrying⟩
            acknowledged := fun delivery delivered acknowledged =>
              Or.inr (acknowledged_changes changes (sent delivery delivered acknowledged))
            once := handling.once }
      case h_2 db claimed =>
        cases taken
        have changes := claim_next_changes claimed
        exact
          { stored := changes_stored handling.stored changes
            blank := handling.blank
            active := by rintro _ ⟨⟩
            acknowledged := fun delivery delivered acknowledged =>
              Or.inr (acknowledged_changes changes (sent delivery delivered acknowledged))
            once := handling.once }
      case h_3 =>
        cases taken
        exact handling
  | _ =>
      simp only [dispatchStep, phase] at taken
      cases taken

theorem after_fetch_event (event : EcosystemEvent) (reply : Reply) :
    phaseEvent (afterFetch platform event reply) = some event := by
  cases reply with
  | threw => rfl
  | response status json =>
      simp only [afterFetch]
      by_cases accepted : 200 ≤ status ∧ status < 300
      · rw [if_pos accepted]
        split
        · split <;> rfl
        · rfl
      · rw [if_neg accepted]
        rfl

theorem after_fetch_finishing {event : EcosystemEvent} {reply : Reply}
    (acknowledged : reply.acknowledges = true) :
    Phase.finishing event.id (afterFetch platform event reply) = true := by
  cases reply with
  | threw => cases acknowledged
  | response status json =>
      simp only [Reply.acknowledges, Bool.and_eq_true, decide_eq_true_eq] at acknowledged
      simp only [afterFetch, acknowledged, and_self, if_true]
      split
      · split_ifs <;> simp [Phase.finishing]
      · simp [Phase.finishing]

theorem send_handling (handling : Handling platform state) {reply : Reply}
    (taken : dispatchStep platform state (.send reply) = some next) : Handling platform next := by
  cases phase : state.phase with
  | sending event =>
      have sent : ∀ delivery ∈ state.delivered, delivery.acknowledged = true →
          ∃ row ∈ state.db.events, row.id = delivery.event ∧ row.status = .sent :=
        fun delivery member acknowledged => sent_of_not_finishing handling member acknowledged
          (by rw [phase]; rfl)
      obtain ⟨current, currentMember, currentId, retrying⟩ :=
        handling.active event (by rw [phase]; rfl)
      simp only [dispatchStep, phase] at taken
      split at taken
      case h_1 =>
        cases taken
        exact
          { stored := handling.stored
            blank := handling.blank
            active := by
              rintro _ ⟨⟩
              exact ⟨current, currentMember, currentId, retrying⟩
            acknowledged := fun delivery delivered acknowledged =>
              Or.inr (sent delivery delivered acknowledged)
            once := handling.once }
      case h_2 =>
        cases taken
        refine
          { stored := handling.stored
            blank := handling.blank
            active := ?_
            acknowledged := ?_
            once := ?_ }
        · intro inHand same
          have isEvent := (after_fetch_event event reply).symm.trans same
          cases isEvent
          exact ⟨current, currentMember, currentId, retrying⟩
        · intro delivery delivered acknowledged
          rcases List.mem_append.mp delivered with earlier | latest
          · exact Or.inr (sent delivery earlier acknowledged)
          · rw [List.mem_singleton.mp latest] at acknowledged ⊢
            exact Or.inl (after_fetch_finishing acknowledged)
        · refine List.pairwise_append.mpr ⟨handling.once, List.pairwise_singleton _ _, ?_⟩
          intro earlier earlierMember latest latestMember acknowledged
          rw [List.mem_singleton.mp latestMember]
          intro same
          obtain ⟨row, rowMember, rowId, isSent⟩ := sent earlier earlierMember acknowledged
          have sameRow : row = current := KeyedTable.eq_of_key rowMember currentMember
            (rowId.trans (same.symm.trans currentId.symm))
          rw [sameRow, retrying] at isSent
          cases isSent
  | _ =>
      simp only [dispatchStep, phase] at taken
      cases taken

/-- A record step with nothing to write leads on to `markSent`. -/
theorem record_handling (handling : Handling platform state)
    (nothing : RecordsNothing state .record)
    (taken : dispatchStep platform state .record = some next) :
    Handling platform next ∧ Recorded state next := by
  cases phase : state.phase with
  | recording event approvalId executionId =>
      simp only [RecordsNothing, phase] at nothing
      have accepted : recordExecution platform.snapshotOctets state.db.clock event.tenantId
          approvalId executionId state.approvals = .ok state.approvals :=
        record_execution_ok.mpr ⟨nothing, rfl⟩
      simp only [dispatchStep, phase, accepted] at taken
      cases taken
      constructor
      · exact
          { stored := handling.stored
            blank := handling.blank
            active := by
              rintro _ ⟨⟩
              exact handling.active event (by rw [phase]; rfl)
            acknowledged := fun delivery delivered acknowledged => by
              have promised := handling.acknowledged delivery delivered acknowledged
              rwa [phase] at promised
            once := handling.once }
      · simp only [Recorded, phase]
        intro row member isRow tenant _
        obtain ⟨id, parsed, _, unmatched⟩ := nothing
        have sameId : row.id = id := Option.some.inj (isRow.symm.trans parsed)
        exact absurd (handling.blank row member) (unmatched row member sameId tenant)
  | _ =>
      simp only [dispatchStep, phase] at taken
      cases taken

theorem mark_sent_handling (handling : Handling platform state)
    (taken : dispatchStep platform state .markSent = some next) : Handling platform next := by
  cases phase : state.phase with
  | marking event =>
      obtain ⟨current, currentMember, currentId, retrying⟩ :=
        handling.active event (by rw [phase]; rfl)
      have marked := mark_sent_accepted handling.stored currentMember retrying
      have changes := update_event_changes marked
      rw [currentId] at marked
      simp only [dispatchStep, phase, marked] at taken
      cases taken
      refine
        { stored := changes_stored handling.stored changes
          blank := handling.blank
          active := by rintro _ ⟨⟩
          acknowledged := ?_
          once := handling.once }
      intro delivery delivered acknowledged
      rcases handling.acknowledged delivery delivered acknowledged with finishing | sent
      · rw [phase] at finishing
        have isEvent : event.id = delivery.event := by simpa [Phase.finishing] using finishing
        refine Or.inr ⟨sentEvent current state.db.clock, ?_, currentId.trans isEvent, rfl⟩
        exact KeyedTable.mem_put.mpr (Or.inl ⟨rfl, current, currentMember, rfl⟩)
      · exact Or.inr (acknowledged_changes changes sent)
  | _ =>
      simp only [dispatchStep, phase] at taken
      cases taken

theorem give_up_handling (handling : Handling platform state) {now : Instant}
    (taken : dispatchStep platform state (.giveUp now) = some next) : Handling platform next := by
  cases phase : state.phase with
  | giving event error =>
      simp only [dispatchStep, phase] at taken
      cases taken
      have changes : Changes platform.payloadOctets state.db (settled state.db
          (if event.attemptCount ≥ 5 then markFailed platform.payloadOctets event.id error state.db
          else markRetry platform.payloadOctets event.id
            (now + 1000 * backoffMs event.attemptCount) error state.db)) := by
        apply settled_changes
        intro row db accepted
        split_ifs at accepted
        · exact update_event_changes accepted
        · exact update_event_changes accepted
      exact
        { stored := changes_stored handling.stored changes
          blank := handling.blank
          active := by rintro _ ⟨⟩
          acknowledged := fun delivery delivered acknowledged =>
            Or.inr (acknowledged_changes changes (sent_of_not_finishing handling delivered
              acknowledged (by rw [phase]; rfl)))
          once := handling.once }
  | _ =>
      simp only [dispatchStep, phase] at taken
      cases taken

/-- The environment keeps the row in hand and the sent rows. -/
theorem environment_handling (handling : Handling platform state) {db : EventsDb}
    {approvals : ApprovalTable} (stored : Stored platform.payloadOctets db)
    (blank : ∀ row ∈ approvals, row.workflowExecutionId = none)
    (kept : ∀ row ∈ state.db.events, ∃ later ∈ db.events,
      later.id = row.id ∧ later.status = row.status) :
    Handling platform { state with db := db, approvals := approvals } where
  stored := stored
  blank := blank
  active event inHand := by
    obtain ⟨row, member, sameId, retrying⟩ := handling.active event inHand
    obtain ⟨later, laterMember, laterId, status⟩ := kept row member
    exact ⟨later, laterMember, laterId.trans sameId, status.trans retrying⟩
  acknowledged delivery delivered acknowledged := by
    rcases handling.acknowledged delivery delivered acknowledged with finishing | sent
    · exact Or.inl finishing
    · obtain ⟨row, member, sameId, isSent⟩ := sent
      obtain ⟨later, laterMember, laterId, status⟩ := kept row member
      exact Or.inr ⟨later, laterMember, laterId.trans sameId, status.trans isSent⟩
  once := handling.once

theorem approvals_move_blank {before after : ApprovalTable} (moves : approvalsMove before after)
    (blank : ∀ row ∈ before, row.workflowExecutionId = none) :
    ∀ row ∈ after, row.workflowExecutionId = none := by
  intro row member
  have moved := List.all_eq_true.mp moves row member
  cases found : before.find row.id with
  | none =>
      rw [found] at moved
      exact Option.isNone_iff_eq_none.mp moved
  | some old =>
      rw [found] at moved
      exact (of_decide_eq_true moved).trans (blank old (KeyedTable.mem_of_find found))

theorem dispatch_step_handling {action : DispatchAction} (handling : Handling platform state)
    (nothing : RecordsNothing state action)
    (taken : dispatchStep platform state action = some next) : Handling platform next := by
  have unmoved : ∀ row ∈ state.db.events, ∃ later ∈ state.db.events,
      later.id = row.id ∧ later.status = row.status := fun row member => ⟨row, member, rfl, rfl⟩
  cases action with
  | claim now => exact claim_handling handling taken
  | send reply => exact send_handling handling taken
  | record => exact (record_handling handling nothing taken).1
  | markSent => exact mark_sent_handling handling taken
  | giveUp now => exact give_up_handling handling taken
  | enqueue input =>
      cases taken
      refine environment_handling handling (changes_stored handling.stored
        (settled_changes fun _ _ => enqueue_changes)) handling.blank ?_
      intro row member
      cases outcome : enqueue platform.payloadOctets input state.db with
      | error error => exact unmoved row member
      | ok result => exact enqueue_keeps_status outcome member
  | approvals current =>
      simp only [dispatchStep] at taken
      split_ifs at taken with moves
      cases taken
      exact environment_handling handling handling.stored
        (approvals_move_blank moves handling.blank) unmoved
  | tick elapsed =>
      cases taken
      refine environment_handling handling ⟨handling.stored.checked, fun row member =>
        (handling.stored.past row member).trans (Nat.le_add_right _ _), handling.stored.unique⟩
        handling.blank unmoved
  | tenants current =>
      cases taken
      exact environment_handling handling
        ⟨handling.stored.checked, handling.stored.past, handling.stored.unique⟩ handling.blank
        unmoved

/-- An empty events table, next to approvals without execution identifiers. -/
def dispatchStart (tenant : Uuid → Bool) (clock : Instant) (approvals : ApprovalTable) :
    DispatchState where
  db := emptyEvents tenant clock
  approvals := approvals
  phase := .idle
  delivered := []

theorem start_handling {tenant : Uuid → Bool} {clock : Instant} {approvals : ApprovalTable}
    (blank : ∀ row ∈ approvals, row.workflowExecutionId = none) :
    Handling platform (dispatchStart tenant clock approvals) where
  stored := empty_events_stored tenant clock
  blank := blank
  active := by rintro _ ⟨⟩
  acknowledged := by rintro _ ⟨⟩
  once := List.Pairwise.nil

/-- In every run whose record steps have nothing to write, every acknowledged
event is sent and never delivered again. -/
theorem delivers_once_of_records_nothing {tenant : Uuid → Bool} {clock : Instant}
    {approvals : ApprovalTable} {schedule : List DispatchAction}
    (blank : ∀ row ∈ approvals, row.workflowExecutionId = none)
    (nothing : Along (dispatchStep platform) RecordsNothing
      (dispatchStart tenant clock approvals) schedule) :
    Along (dispatchStep platform) (DeliversOnce platform)
      (dispatchStart tenant clock approvals) schedule := by
  refine along_implies (fun _ _ _ handling => dispatch_step_handling handling) ?_
    (start_handling blank) nothing
  intro state action handling nothing next taken
  have kept := dispatch_step_handling handling nothing taken
  refine ⟨kept.once, kept.acknowledged, ?_⟩
  cases action with
  | record => exact (record_handling handling nothing taken).2
  | _ => trivial

end Runs

section Example

def exampleConfig : AdapterConfig where
  notificationHubUrl := "https://hub.example"
  notificationHubApiKey := "hub-key"
  workflowEngineUrl := "https://workflows.example"
  workflowEngineApiKey := "workflow-key"
  approvalWorkflowId := "approve"

/-- On these base addresses a path is appended; the lengths are those of the
only payload and packet below. -/
def examplePlatform : Platform where
  config := exampleConfig
  resolve := fun path base => some (base ++ path)
  payloadOctets := fun _ => 55
  snapshotOctets := fun _ => 1023
  recorder := true

def waitingApproval : Approval where
  id := 2
  tenantId := 7
  recommendationId := 1
  requestedByUserId := none
  assignedToUserId := none
  approvalSnapshot :=
    { contractVersion := "approval_packet:v1"
      tenant := ⟨"acme", "Acme", "Acme", none, none, none, none, none⟩
      recommendation :=
        { id := 1
          type := .buy
          provider := .aws
          instrument := .awsReservedInstance
          serviceCode := "AmazonEC2"
          region := "eu-west-1"
          termMonths := 12
          commitmentAmountCents := 1000
          expectedSavingsCents := 100
          p95DownsideLossCents := 0
          utilizationP50Bps := 10000
          utilizationP95Bps := 10000
          confidenceScore := 9000
          riskBand := .low
          explanation := ⟨"on_demand", ["risk_budget"], [5], "optimizer-runs/3/frontier.json"⟩ }
      approval := ⟨"pending", none, 9000000000, none, none⟩ }
  requestedAt := 1000
  expiresAt := 9000000000
  createdAt := 1000
  status := .pending
  workflowExecutionId := none
  decisionReason := none
  decidedAt := none
  updatedAt := 1000

def exampleStart : DispatchState :=
  dispatchStart (fun id => id == 7) 1000 (KeyedTable.empty.insert waitingApproval)

theorem example_start_blank :
    ∀ row ∈ exampleStart.approvals, row.workflowExecutionId = none := by decide

/-- An event for one target, whose payload names the waiting approval. -/
def exampleInput (target : EcosystemTarget) : EnqueueInput where
  id := 3
  now := 1000
  tenantId := 7
  eventType := "approval.pending"
  eventId := "approval-2"
  payload := .object [("approval_id", .string (uuidText 2))]
  targetSystem := target
  enabled := true

def acknowledgement : Reply := .response 200 (some (.object [("execution_id", .string "wf-1")]))

/-- The workflow engine acknowledges, the execution identifier is refused, and
the event is delivered again one second later. -/
def redelivery : List DispatchAction :=
  [.enqueue (exampleInput .workflowEngine), .claim 1000, .send acknowledgement, .record,
    .giveUp 1000, .tick 1000000, .claim 1001000, .send acknowledgement]

/-- The notification hub acknowledges; nothing is recorded. -/
def delivery : List DispatchAction :=
  [.enqueue (exampleInput .notificationHub), .claim 1000, .send acknowledgement, .markSent]

instance (delivered : List Delivery) : Decidable (SentOnce delivered) :=
  inferInstanceAs (Decidable (List.Pairwise _ _))

end Example

theorem delivers_once_notification :
    ∃ state, execute (dispatchStep examplePlatform) exampleStart delivery = some state ∧
      state.delivered = [⟨3, true⟩] ∧
      Along (dispatchStep examplePlatform) (DeliversOnce examplePlatform) exampleStart delivery := by
  have ends : (execute (dispatchStep examplePlatform) exampleStart delivery).map
      (fun state => state.delivered) = some [⟨3, true⟩] := by decide
  obtain ⟨state, arrived, delivered⟩ := Option.map_eq_some_iff.mp ends
  refine ⟨state, arrived, delivered, ?_⟩
  refine delivers_once_of_records_nothing example_start_blank (along_of_actions ?_ _)
  intro action member state
  simp only [delivery, List.mem_cons, List.not_mem_nil, or_false] at member
  rcases member with rfl | rfl | rfl | rfl <;> trivial

/-- One event, acknowledged twice. -/
theorem acknowledged_event_redelivered :
    ¬ ∀ (tenant : Uuid → Bool) (clock : Instant) (approvals : ApprovalTable)
        (schedule : List DispatchAction),
      (∀ row ∈ approvals, row.workflowExecutionId = none) →
      Along (dispatchStep examplePlatform) (DeliversOnce examplePlatform)
        (dispatchStart tenant clock approvals) schedule := by
  intro always
  have delivers : Along (dispatchStep examplePlatform) (DeliversOnce examplePlatform) exampleStart
      redelivery := always _ _ _ redelivery example_start_blank
  have once := along_mono (fun _ _ delivers => fun next taken => (delivers next taken).1) delivers
  revert once
  decide

end CommitmentOptimizer.Adapters.DeliveryOnce
