import Mathlib.Data.List.Nodup
import CommitmentOptimizer.Notifications.PreferenceLocks

/-!
# One notification for each recipient and event

The INSERT compares the columns of a row, not the event's identifier, and no index
backs it. Rows are seen through what identifies them: the compared columns and the
event that their payload names.
-/

namespace CommitmentOptimizer.Notifications.NotificationOnce

open Foundations
open Foundations.Schedules
open Foundations.SqlConstraints
open Foundations.FaultyWorkers
open NotificationTables
open NotificationPreferences
open NotificationEmission

set_option autoImplicit false

section Statement

/-- `payload.event_id`. -/
def payloadEventId (payload : Json) : Option String :=
  match payload.field "event_id" with
  | some (.string text) => some text
  | _ => none

/-- What the INSERT compares and what it should compare. -/
structure Notice where
  key : NotificationKey
  eventId : Option String
  deriving DecidableEq

def noticeOf (row : Notification) : Notice := ⟨rowKey row, payloadEventId row.payload⟩

def notices (db : NotificationsDb) : List Notice := db.notifications.rows.map noticeOf

def Notice.concerns (tenantId recipientUserId : Uuid) (eventId : String) (notice : Notice) : Bool :=
  notice.key.tenantId = tenantId && notice.key.recipientUserId = recipientUserId &&
    notice.eventId = some eventId

/-- How many notifications a recipient has for an event. -/
def notificationCount (db : NotificationsDb) (tenantId recipientUserId : Uuid)
    (eventId : String) : Nat :=
  (notices db).countP (Notice.concerns tenantId recipientUserId eventId)

/-- The recipient's preferences kept the event back. -/
def IsWithheld (state : EmissionState) (event : NotificationEvent) (recipientUserId : Uuid) :
    Prop :=
  ∃ entry ∈ state.withheld, entry.event = event ∧ entry.recipientUserId = recipientUserId

def NoDuplicate (state : EmissionState) : Prop :=
  ∀ tenantId recipientUserId eventId,
    notificationCount state.db tenantId recipientUserId eventId ≤ 1

/-- Every recipient of a finished emission whose preferences did not keep the event back
has a notification of it. -/
def NoneLost (state : EmissionState) : Prop :=
  ∀ entry ∈ state.finished, ∀ recipient ∈ entry.2, IsWithheld state entry.1 recipient.id ∨
    1 ≤ notificationCount state.db entry.1.tenantId recipient.id entry.1.eventId

/-- The compared columns, without the recipient. -/
structure EventKey where
  tenantId : Uuid
  eventType : String
  sourceType : NotificationSourceType
  sourceId : Option Uuid
  templateId : String
  deriving DecidableEq

def eventPart (key : NotificationKey) : EventKey :=
  ⟨key.tenantId, key.eventType, key.sourceType, key.sourceId, key.templateId⟩

/-- `none` for an event that no row can be made of. -/
def eventKey (normalize : List Char → List Char) (event : NotificationEvent) :
    Option EventKey := do
  let sourceId ← sourceUuid event.sourceId
  let templateId ← notificationTemplateId normalize event.templateName
  return ⟨event.tenantId, event.eventType, event.sourceType, sourceId, templateId⟩

/-- Two events of a tenant are the same event exactly when the compared columns agree. -/
structure Distinguished (normalize : List Char → List Char) (first second : NotificationEvent) :
    Prop where
  sameKey : first.tenantId = second.tenantId → first.eventId = second.eventId →
    eventKey normalize first = eventKey normalize second
  sameId : ∀ key, eventKey normalize first = some key → eventKey normalize second = some key →
    first.eventId = second.eventId

/-- The condition on a step. An emission that begins can be told from the earlier ones by
the compared columns; an INSERT that starts finds none under way for the same columns. -/
def ComparesWell (platform : EmissionPlatform) (run : EmissionRun) : EmissionAction → Prop
  | .advance worker _ _ =>
      match run.workers worker with
      | some (.resolving event) =>
          ∀ earlier ∈ run.shared.emitted, Distinguished platform.normalize earlier event
      | some (.creating emission recipient _) =>
          ∀ other otherEmission otherRecipient rest row, run.workers other =
              some (.inserting otherEmission otherRecipient rest row) →
            row.recipientUserId = recipient.id →
              eventKey platform.normalize emission.event ≠ some (eventPart (rowKey row))
      | _ => True
  | _ => True

end Statement

section Invariant

variable {platform : EmissionPlatform} {normalize : List Char → List Char}
  {state next : EmissionState} {event : NotificationEvent} {recipientUserId : Uuid}

theorem stored_event_id (event : NotificationEvent) :
    payloadEventId (storedPayload event) = some event.eventId := by
  have absent : (event.payload.filter (·.1 ≠ "event_id")).lookup "event_id" = none := by
    rw [List.lookup_eq_none_iff]
    intro field member
    have apart := (List.mem_filter.mp member).2
    exact bne_iff_ne.mpr fun same => of_decide_eq_true apart same.symm
  have found : (storedPayload event).field "event_id" = some (.string event.eventId) := by
    rw [storedPayload, Json.field, List.lookup_append, absent]
    rfl
  rw [payloadEventId, found]

/-- A row's notice is about an event and a recipient. -/
structure IsNotice (normalize : List Char → List Char) (event : NotificationEvent)
    (recipientUserId : Uuid) (notice : Notice) : Prop where
  eventId : notice.eventId = some event.eventId
  key : eventKey normalize event = some (eventPart notice.key)
  recipient : notice.key.recipientUserId = recipientUserId

/-- Nothing is taken back. -/
structure Progress (state next : EmissionState) : Prop where
  emitted : state.emitted ⊆ next.emitted
  withheld : state.withheld ⊆ next.withheld
  settled : state.settled ⊆ next.settled
  notices : notices state.db ⊆ notices next.db

def Handled (state : EmissionState) (event : NotificationEvent)
    (recipient : NotificationRecipient) : Prop :=
  IsWithheld state event recipient.id ∨ (event, recipient.id) ∈ state.settled

/-- An emission with the recipients it has still to handle. -/
structure Underway (normalize : List Char → List Char) (state : EmissionState)
    (emission : Emission) (rest : List NotificationRecipient) : Prop where
  emitted : emission.event ∈ state.emitted
  named : notificationTemplateId normalize emission.event.templateName = some emission.templateId
  handled : ∀ recipient ∈ emission.recipients,
    Handled state emission.event recipient ∨ recipient ∈ rest

def Holds (normalize : List Char → List Char) (_ : Nat) :
    EmissionPhase → EmissionState → Prop
  | .resolving _, _ => True
  | .listing event templateId _, state => event ∈ state.emitted ∧
      notificationTemplateId normalize event.templateName = some templateId
  | .asking emission recipient rest, state | .creating emission recipient rest, state =>
      Underway normalize state emission (recipient :: rest)
  | .inserting emission recipient rest row, state =>
      Underway normalize state emission (recipient :: rest) ∧
      IsNotice normalize emission.event recipient.id (noticeOf row) ∧
      ∀ notice ∈ notices state.db, notice.key ≠ rowKey row

/-- No two INSERTs under way are for the same columns. -/
def Apart : EmissionPhase → EmissionPhase → Prop
  | .inserting _ _ _ row, .inserting _ _ _ other => rowKey row ≠ rowKey other
  | _, _ => True

structure Invariant (normalize : List Char → List Char) (state : EmissionState) : Prop where
  distinguished : ∀ first ∈ state.emitted, ∀ second ∈ state.emitted,
    Distinguished normalize first second
  known : ∀ notice ∈ notices state.db, ∃ event ∈ state.emitted, ∃ recipientUserId,
    IsNotice normalize event recipientUserId notice
  keys : ((notices state.db).map Notice.key).Nodup
  settled : ∀ entry ∈ state.settled, ∃ notice ∈ notices state.db,
    IsNotice normalize entry.1 entry.2 notice
  finished : ∀ entry ∈ state.finished, ∀ recipient ∈ entry.2, Handled state entry.1 recipient

theorem progress_refl (state : EmissionState) : Progress state state :=
  ⟨fun _ => id, fun _ => id, fun _ => id, fun _ => id⟩

theorem handled_mono (progress : Progress state next) {recipient : NotificationRecipient}
    (handled : Handled state event recipient) : Handled next event recipient := by
  refine handled.imp ?_ fun member => progress.settled member
  rintro ⟨entry, member, same⟩
  exact ⟨entry, progress.withheld member, same⟩

theorem underway_mono (progress : Progress state next) {emission : Emission}
    {rest : List NotificationRecipient} (underway : Underway normalize state emission rest) :
    Underway normalize next emission rest :=
  ⟨progress.emitted underway.emitted, underway.named, fun recipient member =>
    (underway.handled recipient member).imp_left (handled_mono progress)⟩

/-- What holds of a phase still holds after progress that adds no row for its columns. -/
theorem holds_mono {worker : Nat} {phase : EmissionPhase} (progress : Progress state next)
    (apart : ∀ emission recipient rest row, phase = .inserting emission recipient rest row →
      ∀ notice ∈ notices next.db, notice ∈ notices state.db ∨ notice.key ≠ rowKey row)
    (holds : Holds normalize worker phase state) : Holds normalize worker phase next := by
  cases phase with
  | resolving => trivial
  | listing => exact ⟨progress.emitted holds.1, holds.2⟩
  | asking | creating => exact underway_mono progress holds
  | inserting emission recipient rest row =>
      obtain ⟨underway, isNotice, fresh⟩ := holds
      refine ⟨underway_mono progress underway, isNotice, fun notice member => ?_⟩
      rcases apart emission recipient rest row rfl notice member with old | different
      · exact fresh notice old
      · exact different

theorem notice_of_same_key (invariant : Invariant normalize state) {notice : Notice}
    (member : notice ∈ notices state.db) (emitted : event ∈ state.emitted)
    (key : eventKey normalize event = some (eventPart notice.key))
    (recipient : notice.key.recipientUserId = recipientUserId) :
    IsNotice normalize event recipientUserId notice := by
  obtain ⟨other, otherEmitted, _, isNotice⟩ := invariant.known notice member
  have sameId := (invariant.distinguished other otherEmitted event emitted).sameId _
    isNotice.key key
  exact ⟨sameId ▸ isNotice.eventId, key, recipient⟩

end Invariant

section Steps

variable {platform : EmissionPlatform} {normalize : List Char → List Char}
  {state next : EmissionState} {newId : Uuid} {phase : EmissionPhase} {worker : Nat}

theorem notices_continue (emission : Emission) (rest : List NotificationRecipient) :
    notices (continueWith state emission rest).1.db = notices state.db := by
  rw [continue_with_db]

theorem progress_continue (emission : Emission) (rest : List NotificationRecipient)
    (progress : Progress state next) :
    Progress state (continueWith next emission rest).1 := by
  obtain ⟨emitted, withheld, settled, more⟩ := progress
  constructor
  · rwa [continue_with_emitted]
  · rwa [continue_with_withheld]
  · rwa [continue_with_settled]
  · rwa [notices_continue]

/-- The loop goes on with an emission that has handled all but the rest. -/
theorem continue_invariant {emission : Emission} {rest : List NotificationRecipient}
    (invariant : Invariant normalize state) (underway : Underway normalize state emission rest) :
    Invariant normalize (continueWith state emission rest).1 ∧
      ∀ onward, (continueWith state emission rest).2 = some onward →
        Holds normalize worker onward (continueWith state emission rest).1 := by
  have progress := progress_continue emission rest (progress_refl state)
  constructor
  · refine ⟨?_, ?_, ?_, ?_, fun entry member recipient listed => ?_⟩
    · rw [continue_with_emitted]
      exact invariant.distinguished
    · rw [continue_with_emitted, notices_continue]
      exact invariant.known
    · rw [notices_continue]
      exact invariant.keys
    · rw [continue_with_settled, notices_continue]
      exact invariant.settled
    · refine handled_mono progress ?_
      rcases mem_continue_with_finished state emission rest member with old | ⟨rfl, rfl⟩
      · exact invariant.finished entry old recipient listed
      · exact (underway.handled recipient listed).resolve_right List.not_mem_nil
  · intro onward goesOn
    obtain ⟨recipient, others, rfl, rfl⟩ := continue_with_onward state emission rest goesOn
    exact underway_mono progress underway

/-- The first recipient has been handled. -/
theorem underway_tail {emission : Emission} {recipient : NotificationRecipient}
    {rest : List NotificationRecipient}
    (underway : Underway normalize state emission (recipient :: rest))
    (handled : Handled state emission.event recipient) :
    Underway normalize state emission rest := by
  refine ⟨underway.emitted, underway.named, fun other member => ?_⟩
  rcases underway.handled other member with done | waiting
  · exact Or.inl done
  · rcases List.mem_cons.mp waiting with rfl | later
    · exact Or.inl handled
    · exact Or.inr later

theorem progress_emit (state : EmissionState) (event : NotificationEvent) :
    Progress state { state with emitted := state.emitted ++ [event] } :=
  ⟨List.subset_append_left _ _, fun _ => id, fun _ => id, fun _ => id⟩

theorem progress_withhold (state : EmissionState) (event : NotificationEvent)
    (recipientUserId : Uuid) : Progress state (state.withhold event recipientUserId) :=
  ⟨fun _ => id, List.subset_append_left _ _, fun _ => id, fun _ => id⟩

theorem progress_settle (state : EmissionState) (event : NotificationEvent)
    (recipientUserId : Uuid) : Progress state (state.settle event recipientUserId) :=
  ⟨fun _ => id, fun _ => id, List.subset_append_left _ _, fun _ => id⟩

/-- An event joins those that were emitted. -/
theorem emit_invariant {event : NotificationEvent} (invariant : Invariant normalize state)
    (compared : ∀ earlier ∈ state.emitted, Distinguished normalize earlier event) :
    Invariant normalize { state with emitted := state.emitted ++ [event] } := by
  have reversed : ∀ {first second : NotificationEvent}, Distinguished normalize first second →
      Distinguished normalize second first := fun distinguished =>
    ⟨fun tenant id => (distinguished.sameKey tenant.symm id.symm).symm,
      fun key first second => (distinguished.sameId key second first).symm⟩
  refine ⟨fun first firstMember second secondMember => ?_, fun notice member => ?_,
    invariant.keys, invariant.settled, invariant.finished⟩
  · rcases List.mem_append.mp firstMember with firstOld | firstNew
    · rcases List.mem_append.mp secondMember with secondOld | secondNew
      · exact invariant.distinguished first firstOld second secondOld
      · obtain rfl := List.mem_singleton.mp secondNew
        exact compared first firstOld
    · obtain rfl := List.mem_singleton.mp firstNew
      rcases List.mem_append.mp secondMember with secondOld | secondNew
      · exact reversed (compared second secondOld)
      · obtain rfl := List.mem_singleton.mp secondNew
        exact ⟨fun _ _ => rfl, fun _ _ _ => rfl⟩
  · obtain ⟨known, emitted, found⟩ := invariant.known notice member
    exact ⟨known, List.mem_append_left _ emitted, found⟩

theorem withhold_invariant (invariant : Invariant normalize state) (event : NotificationEvent)
    (recipientUserId : Uuid) : Invariant normalize (state.withhold event recipientUserId) :=
  ⟨invariant.distinguished, invariant.known, invariant.keys, invariant.settled,
    fun entry member recipient listed => handled_mono (progress_withhold state event _)
      (invariant.finished entry member recipient listed)⟩

/-- A recipient whose notice is in the table is settled. -/
theorem settle_invariant {event : NotificationEvent} {recipientUserId : Uuid}
    (invariant : Invariant normalize state)
    (noticed : ∃ notice ∈ notices state.db, IsNotice normalize event recipientUserId notice) :
    Invariant normalize (state.settle event recipientUserId) := by
  refine ⟨invariant.distinguished, invariant.known, invariant.keys, fun entry member => ?_,
    fun entry member recipient listed => handled_mono (progress_settle state event _)
      (invariant.finished entry member recipient listed)⟩
  rcases List.mem_append.mp member with old | new
  · exact invariant.settled entry old
  · obtain rfl := List.mem_singleton.mp new
    exact noticed

def withRow (state : EmissionState) (row : Notification) : EmissionState :=
  { state with db := { state.db with notifications := state.db.notifications.insert row } }

theorem notices_with_row {row : Notification}
    (fresh : state.db.notifications.find row.id = none) :
    notices (withRow state row).db = notices state.db ++ [noticeOf row] := by
  change (state.db.notifications.insert row).rows.map noticeOf = _
  rw [KeyedTable.rows_insert fresh, List.map_append]
  rfl

theorem progress_with_row {row : Notification}
    (fresh : state.db.notifications.find row.id = none) : Progress state (withRow state row) := by
  refine ⟨fun _ => id, fun _ => id, fun _ => id, ?_⟩
  rw [notices_with_row fresh]
  exact List.subset_append_left _ _

/-- A row for columns that no row has yet. -/
theorem insert_invariant {row : Notification} {event : NotificationEvent} {recipientUserId : Uuid}
    (invariant : Invariant normalize state)
    (fresh : state.db.notifications.find row.id = none) (emitted : event ∈ state.emitted)
    (isNotice : IsNotice normalize event recipientUserId (noticeOf row))
    (absent : ∀ notice ∈ notices state.db, notice.key ≠ rowKey row) :
    Invariant normalize (withRow state row) := by
  refine ⟨invariant.distinguished, ?_, ?_, ?_, fun entry member recipient listed =>
    handled_mono (progress_with_row fresh) (invariant.finished entry member recipient listed)⟩
  · rw [notices_with_row fresh]
    intro notice member
    rcases List.mem_append.mp member with old | new
    · exact invariant.known notice old
    · obtain rfl := List.mem_singleton.mp new
      exact ⟨event, emitted, recipientUserId, isNotice⟩
  · rw [notices_with_row fresh, List.map_append, List.nodup_append]
    refine ⟨invariant.keys, List.nodup_singleton _, fun key old other new same => ?_⟩
    obtain ⟨notice, member, rfl⟩ := List.mem_map.mp old
    obtain rfl := List.mem_singleton.mp new
    exact absent notice member same
  · rw [notices_with_row fresh]
    intro entry member
    obtain ⟨notice, found, known⟩ := invariant.settled entry member
    exact ⟨notice, List.mem_append_left _ found, known⟩

/-- What a statement of an emission keeps. -/
structure Kept (normalize : List Char → List Char) (worker : Nat) (state : EmissionState)
    (phase : EmissionPhase) (result : EmissionState × Option EmissionPhase) : Prop where
  invariant : Invariant normalize result.1
  progress : Progress state result.1
  onward : ∀ onward, result.2 = some onward → Holds normalize worker onward result.1
  added : ∀ notice ∈ notices result.1.db, notice ∈ notices state.db ∨
    ∃ emission recipient rest row, phase = .inserting emission recipient rest row ∧
      notice.key = rowKey row

theorem kept_continue {emission : Emission} {rest : List NotificationRecipient}
    (invariant : Invariant normalize next) (progress : Progress state next)
    (underway : Underway normalize next emission rest)
    (added : ∀ notice ∈ notices next.db, notice ∈ notices state.db ∨
      ∃ emission recipient rest row, phase = .inserting emission recipient rest row ∧
        notice.key = rowKey row) :
    Kept normalize worker state phase (continueWith next emission rest) := by
  obtain ⟨kept, onward⟩ := continue_invariant invariant underway
  refine ⟨kept, progress_continue emission rest progress, onward, ?_⟩
  rwa [notices_continue]

theorem operated_kept {result : EmissionState × Option EmissionPhase}
    (invariant : Invariant platform.normalize state)
    (holds : Holds platform.normalize worker phase state)
    (compared : ∀ event, phase = .resolving event →
      ∀ earlier ∈ state.emitted, Distinguished platform.normalize earlier event)
    (operated : Operated platform newId state phase result) :
    Kept platform.normalize worker state phase result := by
  cases operated with
  | resolved event templateId template named =>
      refine ⟨emit_invariant invariant (compared event rfl), progress_emit state event, ?_,
        fun _ => Or.inl⟩
      intro _ same
      obtain rfl := Option.some.inj same
      exact ⟨List.mem_append_right _ List.mem_cons_self, named⟩
  | listed event templateId template recipients =>
      exact kept_continue invariant (progress_refl state)
        ⟨holds.1, holds.2, fun recipient member => Or.inr member⟩ fun _ => Or.inl
  | allowed emission recipient rest =>
      refine ⟨invariant, progress_refl state, ?_, fun _ => Or.inl⟩
      intro _ same
      obtain rfl := Option.some.inj same
      exact holds
  | withheld emission recipient rest disabled =>
      have progress := progress_withhold state emission.event recipient.id
      have withheld : IsWithheld (state.withhold emission.event recipient.id) emission.event
          recipient.id :=
        ⟨_, List.mem_append_right _ List.mem_cons_self, rfl, rfl⟩
      exact kept_continue (withhold_invariant invariant _ _) progress
        (underway_tail (underway_mono progress holds) (Or.inl withheld)) fun _ => Or.inl
  | existing emission recipient rest title body sourceId source other member same =>
      have underway : Underway platform.normalize state emission (recipient :: rest) := holds
      have progress := progress_settle state emission.event recipient.id
      have key : eventKey platform.normalize emission.event = some (eventPart (rowKey other)) := by
        rw [eventKey, source, underway.named, same]
        rfl
      have noticed : noticeOf other ∈ notices state.db := List.mem_map_of_mem member
      have isNotice := notice_of_same_key invariant noticed underway.emitted key
        (congrArg NotificationKey.recipientUserId same)
      exact kept_continue (settle_invariant invariant ⟨_, noticed, isNotice⟩) progress
        (underway_tail (underway_mono progress underway)
          (Or.inr (List.mem_append_right _ List.mem_cons_self))) fun _ => Or.inl
  | missing emission recipient rest title body sourceId source absent =>
      have underway : Underway platform.normalize state emission (recipient :: rest) := holds
      refine ⟨invariant, progress_refl state, ?_, fun _ => Or.inl⟩
      intro _ same
      obtain rfl := Option.some.inj same
      refine ⟨underway, ⟨stored_event_id emission.event, ?_, rfl⟩, fun notice member => ?_⟩
      · rw [eventKey, source, underway.named]
        rfl
      · obtain ⟨other, stored, rfl⟩ := List.mem_map.mp member
        exact absent other stored
  | inserted emission recipient rest row fresh =>
      obtain ⟨underway, isNotice, absent⟩ := holds
      have inserted := insert_invariant invariant fresh underway.emitted isNotice absent
      have present : noticeOf row ∈ notices (withRow state row).db := by
        rw [notices_with_row fresh]
        exact List.mem_append_right _ List.mem_cons_self
      have rowProgress := progress_with_row fresh
      have settled := progress_settle (withRow state row) emission.event recipient.id
      have progress : Progress state ((withRow state row).settle emission.event recipient.id) :=
        ⟨rowProgress.emitted, rowProgress.withheld, settled.settled, rowProgress.notices⟩
      have tail := underway_tail (underway_mono progress underway)
        (Or.inr (List.mem_append_right _ List.mem_cons_self))
      refine kept_continue (settle_invariant inserted ⟨_, present, isNotice⟩) progress
        ⟨tail.emitted, tail.named, tail.handled⟩ fun notice member => ?_
      change notice ∈ notices (withRow state row).db at member
      rw [notices_with_row fresh] at member
      refine (List.mem_append.mp member).imp_right fun new => ?_
      obtain rfl := List.mem_singleton.mp new
      exact ⟨emission, recipient, rest, row, rfl, rfl⟩

end Steps

section Runs

variable {platform : EmissionPlatform} {normalize : List Char → List Char}
  {state : EmissionState} {run later : EmissionRun}

theorem notices_read (tenantId userId id : Uuid) (db : NotificationsDb) :
    notices (markRead tenantId userId id db) = notices db := by
  have same : ∀ row, noticeOf (readNotification db.clock row) = noticeOf row := by
    intro row
    unfold readNotification
    split_ifs <;> rfl
  unfold markRead
  cases found : db.notifications.find id with
  | none => rfl
  | some row =>
      dsimp only
      split_ifs
      · refine List.map_map.trans (List.map_congr_left fun old member => ?_)
        dsimp only [Function.comp_apply]
        split_ifs with own
        · have sameId : (readNotification db.clock row).id = row.id := by
            unfold readNotification
            split_ifs <;> rfl
          have sameRow : old = row :=
            KeyedTable.eq_of_key member (KeyedTable.mem_of_find found) (own.trans sameId)
          rw [sameRow]
          exact same row
        · rfl
      · rfl

theorem invariant_of_same {next : EmissionState} (invariant : Invariant normalize state)
    (emitted : next.emitted = state.emitted) (withheld : next.withheld = state.withheld)
    (settled : next.settled = state.settled) (finished : next.finished = state.finished)
    (same : notices next.db = notices state.db) :
    Invariant normalize next ∧ Progress state next := by
  refine ⟨⟨?_, ?_, ?_, ?_, ?_⟩, ⟨?_, ?_, ?_, ?_⟩⟩
  · rw [emitted]
    exact invariant.distinguished
  · rw [emitted, same]
    exact invariant.known
  · rw [same]
    exact invariant.keys
  · rw [settled, same]
    exact invariant.settled
  · unfold Handled IsWithheld
    rw [finished, settled, withheld]
    exact invariant.finished
  · rw [emitted]
    exact fun _ => id
  · rw [withheld]
    exact fun _ => id
  · rw [settled]
    exact fun _ => id
  · rw [same]
    exact fun _ => id

theorem replaced_notifications {platform : Platform} {circumstances : Circumstances}
    {context : Sessions.Authentication.RequestContext} {body : Json} {db : NotificationsDb} :
    notices (updateNotificationPreferences platform circumstances context body db).2 =
      notices db := by
  obtain ⟨outcome, next, updated⟩ : ∃ outcome next, updateNotificationPreferences platform
    circumstances context body db = (outcome, next) := ⟨_, _, rfl⟩
  rw [updated]
  rcases PreferenceLocks.update_cases updated with
    ⟨_, _, rfl⟩ | ⟨_, _, _, _, _, _, _, _, table, rfl, _⟩ <;> rfl

theorem environment_invariant (platform : EmissionPlatform) (event : EmissionEvent)
    (invariant : Invariant normalize state) :
    Invariant normalize (emissionEnvironment platform state event) ∧
      Progress state (emissionEnvironment platform state event) ∧
      notices (emissionEnvironment platform state event).db = notices state.db := by
  have same : notices (emissionEnvironment platform state event).db = notices state.db := by
    cases event with
    | update circumstances context body =>
        have replaced := @replaced_notifications platform.toPlatform circumstances context body
          state.db
        simp only [emissionEnvironment]
        split
        · next updated =>
          rw [updated] at replaced
          exact replaced
        · next updated =>
          rw [updated] at replaced
          exact replaced
    | read tenantId userId id => exact notices_read tenantId userId id state.db
    | accounts | tick => rfl
  have rest : (emissionEnvironment platform state event).emitted = state.emitted ∧
      (emissionEnvironment platform state event).withheld = state.withheld ∧
      (emissionEnvironment platform state event).settled = state.settled ∧
      (emissionEnvironment platform state event).finished = state.finished := by
    cases event with
    | update circumstances context body =>
        simp only [emissionEnvironment]
        split <;> exact ⟨rfl, rfl, rfl, rfl⟩
    | read | accounts | tick => exact ⟨rfl, rfl, rfl, rfl⟩
  obtain ⟨emitted, withheld, settled, finished⟩ := rest
  obtain ⟨kept, progress⟩ := invariant_of_same invariant emitted withheld settled finished same
  exact ⟨kept, progress, same⟩

theorem continue_with_asking {effect : EmissionState} {onward : EmissionPhase}
    {emission : Emission} {rest : List NotificationRecipient}
    (pair : (effect, some onward) = continueWith state emission rest) :
    ∃ recipient others, onward = .asking emission recipient others := by
  have goesOn : (continueWith state emission rest).2 = some onward :=
    (congrArg Prod.snd pair).symm
  obtain ⟨recipient, others, _, same⟩ := continue_with_onward state emission rest goesOn
  exact ⟨recipient, others, same⟩

theorem apart_symm {first second : EmissionPhase} (apart : Apart first second) :
    Apart second first := by
  cases first <;> cases second <;> first | trivial | exact Ne.symm apart

/-- A step that compares well keeps the phases of all emissions consistent. -/
theorem step_consistent_once {action : EmissionAction}
    (before : Consistent (Invariant platform.normalize) (Holds platform.normalize) Apart run)
    (good : ComparesWell platform run action)
    (taken : step (emissions platform) run action = some later) :
    Consistent (Invariant platform.normalize) (Holds platform.normalize) Apart later := by
  have stopped (worker : Nat) : Consistent (Invariant platform.normalize)
      (Holds platform.normalize) Apart { run.setWorker worker none with shared := run.shared } :=
    consistent_setWorker apart_symm before.invariant (fun _ same => by cases same)
      (fun _ _ _ busy => before.holds busy) (fun _ _ _ same => by cases same) before.apart
  cases action with
  | call worker phase =>
      simp only [step] at taken
      split_ifs at taken with enabled
      obtain rfl := Option.some.inj taken
      obtain ⟨event, rfl⟩ : ∃ event, phase = .resolving event := by
        cases phase with
        | resolving event => exact ⟨event, rfl⟩
        | _ => cases enabled.2
      refine consistent_setWorker apart_symm before.invariant ?_
        (fun _ _ _ busy => before.holds busy) ?_ before.apart
      · intro phase same
        obtain rfl := Option.some.inj same
        trivial
      · intro phase other otherPhase same _ _
        obtain rfl := Option.some.inj same
        trivial
  | advance worker newId fault =>
      obtain ⟨phase, busy, rfl⟩ := Option.map_eq_some_iff.mp taken
      simp only [ComparesWell, busy] at good
      rcases advance_cases (emissions platform) worker newId fault phase run.shared with
        ⟨effect, after, operation, result⟩ | result
      · have compared : ∀ event, phase = .resolving event → ∀ earlier ∈ run.shared.emitted,
            Distinguished platform.normalize earlier event := by
          rintro event rfl
          exact good
        have operated := operate_operated operation
        have kept := operated_kept before.invariant (before.holds busy) compared operated
        have others : ∀ other otherPhase, other ≠ worker → run.workers other = some otherPhase →
            Holds platform.normalize other otherPhase effect := by
          intro other otherPhase different otherBusy
          refine holds_mono kept.progress ?_ (before.holds otherBusy)
          rintro emission recipient rest row rfl notice member
          refine (kept.added notice member).imp_right ?_
          rintro ⟨_, _, _, added, rfl, key⟩
          exact key ▸ before.apart different.symm busy otherBusy
        have apart : ∀ onward other otherPhase, after = some onward → other ≠ worker →
            run.workers other = some otherPhase → Apart onward otherPhase := by
          rintro onward other otherPhase rfl different otherBusy
          generalize pair : (effect, some onward) = result at operated
          cases operated with
          | resolved | allowed =>
              cases pair
              trivial
          | listed | withheld | existing | inserted =>
              obtain ⟨_, _, rfl⟩ := continue_with_asking pair
              trivial
          | missing emission recipient rest title body sourceId source absent =>
              cases pair
              cases otherPhase with
              | inserting otherEmission otherRecipient otherRest row =>
                  intro sameKey
                  have underway : Underway platform.normalize run.shared emission
                    (recipient :: rest) := before.holds busy
                  refine good other otherEmission otherRecipient otherRest row otherBusy
                    (congrArg NotificationKey.recipientUserId sameKey).symm ?_
                  rw [← sameKey, eventKey, source, underway.named]
                  rfl
              | _ => trivial
        rcases result with result | result
        · rw [result]
          exact consistent_setWorker apart_symm kept.invariant kept.onward others apart
            before.apart
        · rw [result]
          exact consistent_setWorker apart_symm kept.invariant (fun _ same => by cases same) others
            (fun _ _ _ same => by cases same) before.apart
      · rw [result]
        exact stopped worker
  | stop worker =>
      obtain rfl := Option.some.inj taken
      exact stopped worker
  | external event =>
      obtain rfl := Option.some.inj taken
      obtain ⟨invariant, progress, same⟩ :=
        environment_invariant platform event before.invariant
      refine ⟨invariant, fun busy => holds_mono progress ?_ (before.holds busy), before.apart⟩
      rintro emission recipient rest row _ notice member
      exact Or.inl (same ▸ member)

theorem concerns_iff {tenantId recipientUserId : Uuid} {eventId : String} {notice : Notice} :
    notice.concerns tenantId recipientUserId eventId = true ↔ notice.key.tenantId = tenantId ∧
      notice.key.recipientUserId = recipientUserId ∧ notice.eventId = some eventId := by
  simp [Notice.concerns, and_assoc]

/-- Two notices of a recipient for an event have the same compared columns. -/
theorem no_duplicate (invariant : Invariant normalize state) : NoDuplicate state := by
  intro tenantId recipientUserId eventId
  have keys : ((notices state.db).map Notice.key).Nodup := invariant.keys
  rw [notificationCount, List.countP_eq_length_filter]
  by_contra several
  obtain ⟨first, second, rest, selected⟩ : ∃ first second rest,
      (notices state.db).filter (Notice.concerns tenantId recipientUserId eventId) =
        first :: second :: rest := by
    match found : (notices state.db).filter
        (Notice.concerns tenantId recipientUserId eventId) with
    | [] | [_] =>
        rw [found] at several
        simp at several
    | first :: second :: rest => exact ⟨first, second, rest, rfl⟩
  have distinct : (first :: second :: rest).Nodup :=
    selected ▸ (List.Nodup.of_map Notice.key keys).filter _
  have facts : ∀ notice ∈ first :: second :: rest, notice ∈ notices state.db ∧
      notice.key.tenantId = tenantId ∧ notice.key.recipientUserId = recipientUserId ∧
      notice.eventId = some eventId := by
    intro notice member
    obtain ⟨stored, concerned⟩ := List.mem_filter.mp (selected ▸ member)
    exact ⟨stored, concerns_iff.mp concerned⟩
  obtain ⟨firstStored, firstTenant, firstRecipient, firstId⟩ := facts first List.mem_cons_self
  obtain ⟨secondStored, secondTenant, secondRecipient, secondId⟩ :=
    facts second (List.mem_cons_of_mem _ List.mem_cons_self)
  obtain ⟨left, leftEmitted, _, leftNotice⟩ := invariant.known first firstStored
  obtain ⟨right, rightEmitted, _, rightNotice⟩ := invariant.known second secondStored
  have tenants : ∀ {event : NotificationEvent} {key : EventKey},
      eventKey normalize event = some key → event.tenantId = key.tenantId := by
    intro event key found
    obtain ⟨_, _, found⟩ := Option.bind_eq_some_iff.mp found
    obtain ⟨_, _, found⟩ := Option.bind_eq_some_iff.mp found
    obtain rfl := Option.some.inj found
    rfl
  have sameTenant : left.tenantId = right.tenantId := by
    rw [tenants leftNotice.key, tenants rightNotice.key]
    exact firstTenant.trans secondTenant.symm
  have sameId : left.eventId = right.eventId :=
    Option.some.inj (leftNotice.eventId.symm.trans (firstId.trans (secondId.symm.trans
      rightNotice.eventId)))
  have sameEvent := (invariant.distinguished left leftEmitted right rightEmitted).sameKey
    sameTenant sameId
  rw [leftNotice.key, rightNotice.key, Option.some.injEq] at sameEvent
  have sameKey : first.key = second.key := by
    generalize first.key = firstKey at firstRecipient sameEvent
    generalize second.key = secondKey at secondRecipient sameEvent
    cases firstKey
    cases secondKey
    simp only [eventPart, EventKey.mk.injEq] at sameEvent
    simp only [NotificationKey.mk.injEq]
    exact ⟨sameEvent.1, firstRecipient.trans secondRecipient.symm, sameEvent.2⟩
  have same := List.inj_on_of_nodup_map keys firstStored secondStored sameKey
  exact (List.nodup_cons.mp distinct).1 (same ▸ List.mem_cons_self)

theorem none_lost (invariant : Invariant normalize state) : NoneLost state := by
  intro entry member recipient listed
  refine (invariant.finished entry member recipient listed).imp_right fun settled => ?_
  obtain ⟨notice, stored, isNotice⟩ := invariant.settled _ settled
  have tenant : entry.1.tenantId = notice.key.tenantId := by
    have key := isNotice.key
    obtain ⟨_, _, key⟩ := Option.bind_eq_some_iff.mp key
    obtain ⟨_, _, key⟩ := Option.bind_eq_some_iff.mp key
    exact congrArg EventKey.tenantId (Option.some.inj key)
  exact List.countP_pos_iff.mpr
    ⟨notice, stored, concerns_iff.mpr ⟨tenant.symm, isNotice.recipient, isNotice.eventId⟩⟩

/-- In a run whose steps compare well nobody has two notifications of an event, and
everybody has one whose preferences allow it. -/
theorem once_when_compared (platform : EmissionPlatform) (tenant : Uuid → Bool)
    (users : Tenants.Users.UserTable) (clock : Instant) (schedule : List EmissionAction)
    (compared : Along (step (emissions platform)) (ComparesWell platform)
      (emissionStart tenant users clock) schedule)
    (arrived : execute (step (emissions platform)) (emissionStart tenant users clock) schedule =
      some run) :
    NoDuplicate run.shared ∧ NoneLost run.shared := by
  have initially : Consistent (Invariant platform.normalize) (Holds platform.normalize) Apart
      (emissionStart tenant users clock) :=
    consistent_idle ⟨nofun, nofun, List.nodup_nil, nofun, nofun⟩
  have consistent := execute_preserves
    (fun _ _ _ before good taken => step_consistent_once before good taken)
    initially compared arrived
  exact ⟨no_duplicate consistent.invariant, none_lost consistent.invariant⟩

end Runs

section Examples

variable {platform : EmissionPlatform} {event : NotificationEvent}

def phaseEvent : EmissionPhase → NotificationEvent
  | .resolving event | .listing event _ _ => event
  | .asking emission _ _ | .creating emission _ _ | .inserting emission _ _ _ => emission.event

/-- Emissions of one event by one worker. -/
structure Alone (event : NotificationEvent) (run : EmissionRun) : Prop where
  others : ∀ other, other ≠ 0 → run.workers other = none
  own : ∀ phase, run.workers 0 = some phase → phaseEvent phase = event
  emitted : ∀ earlier ∈ run.shared.emitted, earlier = event

def actsAlone (event : NotificationEvent) (action : EmissionAction) : Prop :=
  action = .call 0 (.resolving event) ∨ ∃ newId, action = .advance 0 newId .absent

theorem operated_event {newId : Uuid} {state : EmissionState} {phase : EmissionPhase}
    {result : EmissionState × Option EmissionPhase}
    (operated : Operated platform newId state phase result) :
    (∀ earlier ∈ result.1.emitted, earlier ∈ state.emitted ∨ earlier = phaseEvent phase) ∧
      ∀ onward, result.2 = some onward → phaseEvent onward = phaseEvent phase := by
  cases operated with
  | resolved event templateId template named =>
      refine ⟨fun earlier member => ?_, fun onward same => Option.some.inj same ▸ rfl⟩
      exact (List.mem_append.mp member).imp_right List.mem_singleton.mp
  | allowed | missing => exact ⟨fun _ => Or.inl, fun onward same => Option.some.inj same ▸ rfl⟩
  | listed | withheld | existing | inserted =>
      refine ⟨fun earlier member => Or.inl ?_, fun onward goesOn => ?_⟩
      · rw [continue_with_emitted] at member
        exact member
      · obtain ⟨_, _, _, rfl⟩ := continue_with_onward _ _ _ goesOn
        rfl

theorem step_alone {run later : EmissionRun} {action : EmissionAction} (alone : Alone event run)
    (acts : actsAlone event action) (taken : step (emissions platform) run action = some later) :
    Alone event later := by
  have moved : ∀ (shared : EmissionState) (onward : Option EmissionPhase),
      (∀ phase, onward = some phase → phaseEvent phase = event) →
      (∀ earlier ∈ shared.emitted, earlier = event) →
      Alone event { run.setWorker 0 onward with shared := shared } := by
    intro shared onward own emitted
    refine ⟨fun other different => ?_, fun phase busy => ?_, emitted⟩
    · exact (State.workers_setWorker_of_ne run onward different).trans
        (alone.others other different)
    · exact own phase ((State.workers_setWorker_self run 0 onward).symm.trans busy)
  rcases acts with rfl | ⟨newId, rfl⟩
  · simp only [step] at taken
    split_ifs at taken
    obtain rfl := Option.some.inj taken
    refine moved run.shared (some (.resolving event)) (fun phase same => ?_) alone.emitted
    obtain rfl := Option.some.inj same
    rfl
  · obtain ⟨phase, busy, rfl⟩ := Option.map_eq_some_iff.mp taken
    have own := alone.own phase busy
    unfold advance
    cases operation : (emissions platform).operate 0 newId phase run.shared with
    | none => exact moved run.shared none (fun _ same => by cases same) alone.emitted
    | some result =>
        obtain ⟨emitted, onward⟩ := operated_event (operate_operated operation)
        refine moved result.1 result.2 (fun phase same => (onward phase same).trans own) ?_
        intro earlier member
        rcases emitted earlier member with old | new
        · exact alone.emitted earlier old
        · exact new.trans own

theorem alone_compares {run : EmissionRun} {action : EmissionAction} (alone : Alone event run)
    (acts : actsAlone event action) : ComparesWell platform run action := by
  rcases acts with rfl | ⟨newId, rfl⟩
  · trivial
  · cases busy : run.workers 0 with
    | none => simp only [ComparesWell, busy]
    | some phase =>
        have own := alone.own phase busy
        simp only [ComparesWell, busy]
        cases phase with
        | resolving emitted =>
            intro earlier member
            rw [alone.emitted earlier member, show emitted = event from own]
            exact ⟨fun _ _ => rfl, fun _ _ _ => rfl⟩
        | creating emission recipient rest =>
            intro other _ _ _ _ inserting
            by_cases same : other = 0
            · subst same
              rw [busy] at inserting
              cases inserting
            · rw [alone.others other same] at inserting
              cases inserting
        | listing | asking | inserting => trivial

/-- An emission to one recipient, up to a statement. -/
def emitAlone (event : NotificationEvent) (newId : Uuid) (statements : Nat) :
    List EmissionAction :=
  .call 0 (.resolving event) :: List.replicate statements (.advance 0 newId .absent)

def repeatedSchedule : List EmissionAction :=
  emitAlone (exampleEvent "import-1" .low) 100 5 ++ emitAlone (exampleEvent "import-1" .low) 101 4

theorem once_when_emitted_again :
    ∃ run, execute (step (emissions examplePlatform)) exampleStart repeatedSchedule = some run ∧
      run.shared.finished.length = 2 ∧ NoDuplicate run.shared ∧ NoneLost run.shared := by
  have finished : (execute (step (emissions examplePlatform)) exampleStart repeatedSchedule).map
      (fun run => run.shared.finished.length) = some 2 := by
    decide
  obtain ⟨run, arrived, count⟩ := Option.map_eq_some_iff.mp finished
  have acts : ∀ action ∈ repeatedSchedule, actsAlone (exampleEvent "import-1" .low) action := by
    intro action member
    simp only [repeatedSchedule, emitAlone, List.mem_append, List.mem_cons,
      List.mem_replicate] at member
    rcases member with (rfl | ⟨_, rfl⟩) | (rfl | ⟨_, rfl⟩)
    · exact Or.inl rfl
    · exact Or.inr ⟨100, rfl⟩
    · exact Or.inl rfl
    · exact Or.inr ⟨101, rfl⟩
  have compared : Along (step (emissions examplePlatform)) (ComparesWell examplePlatform)
      exampleStart repeatedSchedule :=
    along_implies (fun _ _ _ alone acts taken => step_alone alone acts taken)
      (fun _ _ alone acts => alone_compares alone acts)
      ⟨fun _ _ => rfl, (fun _ same => by cases same), fun _ member => by cases member⟩
      (along_of_actions (fun action member _ => acts action member) exampleStart)
  exact ⟨run, arrived, count, once_when_compared examplePlatform _ _ 0 repeatedSchedule compared
    arrived⟩

/-- Both emissions of an event look for its row before either inserts one. -/
def racingSchedule : List EmissionAction :=
  let event := exampleEvent "import-1" .low
  [.call 0 (.resolving event), .call 1 (.resolving event)] ++
    List.replicate 4 (.advance 0 100 .absent) ++ List.replicate 4 (.advance 1 101 .absent) ++
    [.advance 0 100 .absent, .advance 1 101 .absent]

/-- A second event of the same type, both without a source. -/
def suppressedSchedule : List EmissionAction :=
  emitAlone (exampleEvent "import-1" .low) 100 5 ++ emitAlone (exampleEvent "import-2" .low) 101 4

/-- One event that is emitted twice at once gives a recipient two notifications, and one
that follows another of its type, source and template gives none. -/
theorem not_once :
    ¬ (∀ (platform : EmissionPlatform) (tenant : Uuid → Bool) (users : Tenants.Users.UserTable)
        (clock : Instant) (run : EmissionRun),
        Reachable (step (emissions platform)) (emissionStart tenant users clock) run →
        NoDuplicate run.shared) ∧
    ¬ (∀ (platform : EmissionPlatform) (tenant : Uuid → Bool) (users : Tenants.Users.UserTable)
        (clock : Instant) (run : EmissionRun),
        Reachable (step (emissions platform)) (emissionStart tenant users clock) run →
        NoneLost run.shared) := by
  constructor
  · intro unique
    have doubled : (execute (step (emissions examplePlatform)) exampleStart racingSchedule).map
        (fun run => notificationCount run.shared.db 1 7 "import-1") = some 2 := by
      decide
    obtain ⟨run, arrived, count⟩ := Option.map_eq_some_iff.mp doubled
    have atMostOne := unique examplePlatform _ _ 0 run ⟨_, arrived⟩ 1 7 "import-1"
    omega
  · intro noneLost
    have missing : (execute (step (emissions examplePlatform)) exampleStart
        suppressedSchedule).any (fun run => run.shared.withheld.isEmpty &&
          run.shared.finished.any (fun entry => entry.1.tenantId = 1 &&
            entry.1.eventId = "import-2" && entry.2.any (·.id = 7)) &&
          notificationCount run.shared.db 1 7 "import-2" = 0) = true := by
      decide
    obtain ⟨run, arrived, facts⟩ := (Option.any_eq_true _ _).mp missing
    simp only [Bool.and_eq_true, List.any_eq_true, decide_eq_true_eq, List.isEmpty_iff] at facts
    obtain ⟨⟨withheld, entry, member, ⟨tenant, eventId⟩, recipient, listed, id⟩, count⟩ := facts
    rcases noneLost examplePlatform _ _ 0 run ⟨_, arrived⟩ entry member recipient listed with
      ⟨kept, keptMember, _⟩ | present
    · rw [withheld] at keptMember
      cases keptMember
    · rw [tenant, eventId, id, count] at present
      exact absurd present (by decide)

end Examples

end CommitmentOptimizer.Notifications.NotificationOnce
