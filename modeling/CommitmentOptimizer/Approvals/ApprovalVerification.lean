import CommitmentOptimizer.Approvals.ApprovalInvariants

/-!
# Every approval transaction meets the contract

The contract of the approvals database, one rule for each statement that
writes, and from them the obligation of each transaction.
-/

namespace CommitmentOptimizer.Approvals.ApprovalVerification

open Foundations
open Foundations.SqlConstraints
open Foundations.RowLocking
open Recommendations.RecommendationLifecycle
open ApprovalLifecycle
open ApprovalTransactions
open ApprovalInvariants

set_option autoImplicit false

/-- Every approved or rejected row was already so, or was a pending row that
`allowed` names. -/
def DecidesOnly (allowed : Uuid → Prop) (before after : ApprovalsDb) : Prop :=
  ∀ later ∈ after.approvals, later.status = .approved ∨ later.status = .rejected →
    ∃ row ∈ before.approvals, row.toApprovalIdentity = later.toApprovalIdentity ∧
      (row.status = later.status ∨ (allowed row.id ∧ row.status = .pending))

/-- What a committed request has done: `decide` stored the row it returns and
decided no other, and the other requests decide nothing. -/
def Promised : ApprovalsRequest → ApprovalsValue → ApprovalsDb → ApprovalsDb → Prop
  | .decide tenantId input status, value, before, after =>
      DecidesOnly (fun id => id = input.approvalId) before after ∧
      ∀ row, value = .approval (some row) → row ∈ after.approvals ∧ row.id = input.approvalId ∧
        row.tenantId = tenantId ∧ row.status = status.approval ∧
        row.decisionReason = some input.decisionReason
  | _, _, before, after => DecidesOnly (fun _ => False) before after

def approvalsContract :
    Contract ApprovalsDb ApprovalsKey ApprovalsAbort ApprovalsValue ApprovalsRequest where
  invariant := Consistent
  evolves := Evolves
  same := Same
  onCommit request _ := Promised request
  onAbort _ _ _ _ := True
  evolves_refl := evolves_refl
  evolves_trans := evolves_trans
  same_refl := same_refl
  same_trans := same_trans

variable {snapshotOctets : ApprovalSnapshot → Nat}
variable {request : ApprovalsRequest} {held : List ApprovalsKey}
variable {begun seen : ApprovalsDb} {pending : ApprovalsDb → ApprovalsDb}

theorem abortable (reason : ApprovalsAbort) :
    approvalsContract.Abortable request begun reason held seen :=
  fun _ _ => trivial

theorem decidesOnly_refl (allowed : Uuid → Prop) (db : ApprovalsDb) :
    DecidesOnly allowed db db :=
  fun row member _ => ⟨row, member, rfl, Or.inl rfl⟩

theorem settle_decidesOnly {allowed : Uuid → Prop} {db : ApprovalsDb}
    {recommendations : List Recommendation} {approvals : List Approval}
    (settles : Settles db recommendations approvals)
    (named : ∀ new ∈ approvals, new.status = .approved ∨ new.status = .rejected →
      allowed new.id) :
    DecidesOnly allowed db (settle recommendations approvals db) := by
  intro later member decided
  rcases settled_approval settles member with ⟨old, _⟩ | ⟨new, old, oldMember, same, waiting⟩
  · exact ⟨later, old, rfl, Or.inl rfl⟩
  · have sameId : later.id = old.id := congrArg ApprovalIdentity.id same
    exact ⟨old, oldMember, same.symm, Or.inr ⟨sameId ▸ named later new decided, waiting⟩⟩

theorem settle_committable {value : ApprovalsValue} {recommendations : List Recommendation}
    {approvals : List Approval} (holds : Holds held recommendations approvals)
    (settles : ∀ now, approvalsContract.rely held seen now →
      Settles now recommendations approvals)
    (promised : ∀ now, approvalsContract.rely held seen now →
      Promised request value now (settle recommendations approvals now)) :
    approvalsContract.Committable request begun value held (settle recommendations approvals) seen := by
  intro now moved
  exact ⟨settle_consistent moved.1 (settles now moved), settle_evolves (settles now moved),
    fun key free => settle_untouched (settles now moved) holds free, promised now moved⟩

/-- A transaction that wrote nothing may end. -/
theorem unchanged_committable {value : ApprovalsValue}
    (promised : ∀ now, Promised request value now now) :
    approvalsContract.Committable request begun value held (fun db => db) seen :=
  fun now moved => ⟨moved.1, evolves_refl now, fun key _ => same_refl key now, promised now⟩

/-- Rule for the UPDATE of one recommendation. -/
theorem meets_settleRecommendation {onError : DbError → ApprovalsAbort} {tenantId id : Uuid}
    {status : RecommendationStatus}
    {after : Option Recommendation → List ApprovalsKey → (ApprovalsDb → ApprovalsDb) →
      ApprovalsDb → Prop}
    (unmatched : ∀ now keys, approvalsContract.rely held seen now → held ⊆ keys →
      (∀ row, (pending now).findRecommendation tenantId id = some row →
        row.status ≠ .pendingApproval) → after none keys pending now)
    (stored : ∀ now later old row, approvalsContract.rely held seen now →
      (pending now).findRecommendation tenantId id = some old → old.status = .pendingApproval →
      approvalsContract.rely (.recommendation id :: held) now later →
      row.toRecommendationIdentity = old.toRecommendationIdentity → row.status = status →
      after (some row) (.recommendation id :: held)
        (fun db => (pending db).putRecommendation row) later) :
    (settleRecommendation onError tenantId id status).Meets approvalsContract.rely after
      (approvalsContract.Abortable request begun) held pending seen := by
  unfold settleRecommendation
  rw [Txn.meets_then]
  apply Contract.meets_select
  · intro now moved none_
    refine unmatched now held moved (List.Subset.refl held) ?_
    intro row found waiting
    simp [found, waiting] at none_
  · intro now moved
    cases selected : ((pending now).findRecommendation tenantId id).filter
        fun row => row.status = .pendingApproval with
    | none =>
        refine unmatched now _ moved (List.subset_cons_self _ _) ?_
        intro row found waiting
        simp [found, waiting] at selected
    | some old =>
        obtain ⟨found, waiting⟩ := Option.filter_eq_some_iff.mp selected
        simp only [Txn.meets_then, Txn.meets_view, Txn.meets_attempt, Txn.meets_save,
          Txn.meets_pure]
        intro later resumed
        refine ⟨fun row accepted => ?_, fun reason _ => abortable reason⟩
        obtain ⟨sameIdentity, sameStatus, _⟩ :=
          update_recommendation_row_ok (map_error_ok.mp accepted)
        exact stored now later old row moved found (of_decide_eq_true waiting) resumed
          sameIdentity sameStatus

/-- Rule for the UPDATE of one approval. -/
theorem meets_settleApproval {onError : DbError → ApprovalsAbort} {id : Uuid}
    {select : ApprovalsDb → Option Approval} {change : Approval → Approval}
    {after : Option Approval → List ApprovalsKey → (ApprovalsDb → ApprovalsDb) →
      ApprovalsDb → Prop}
    (unmatched : ∀ now keys, approvalsContract.rely held seen now → held ⊆ keys →
      select (pending now) = none → after none keys pending now)
    (stored : ∀ now later old row clock, approvalsContract.rely held seen now →
      select (pending now) = some old →
      approvalsContract.rely (.approval id :: held) now later →
      updateApprovalRow snapshotOctets clock old (change old) = .ok row →
      after (some row)
        (.openApproval old.tenantId old.recommendationId :: .approval id :: held)
        (fun db => (pending db).putApproval row) later) :
    (settleApproval snapshotOctets onError id select change).Meets approvalsContract.rely after
      (approvalsContract.Abortable request begun) held pending seen := by
  unfold settleApproval
  rw [Txn.meets_then]
  apply Contract.meets_select
  · intro now moved absent
    exact unmatched now held moved (List.Subset.refl held) absent
  · intro now moved
    cases selected : select (pending now) with
    | none => exact unmatched now _ moved (List.subset_cons_self _ _) selected
    | some old =>
        simp only [Txn.meets_then, Txn.meets_lockRow, Txn.meets_view, Txn.meets_attempt,
          Txn.meets_save, Txn.meets_pure]
        intro entered entering later resumed
        refine ⟨fun row accepted => ?_, fun reason _ => abortable reason⟩
        exact stored now later old row _ moved selected
          (Contract.rely_trans entering
            (Contract.rely_subset (List.subset_cons_self _ _) resumed))
          (map_error_ok.mp accepted)

theorem rely_recommendation {now : ApprovalsDb} {id : Uuid}
    (moved : approvalsContract.rely held seen now) (member : .recommendation id ∈ held) :
    now.recommendations.find id = seen.recommendations.find id :=
  Eq.symm (moved.2.2 _ member)

theorem rely_approval {now : ApprovalsDb} {id : Uuid}
    (moved : approvalsContract.rely held seen now) (member : .approval id ∈ held) :
    now.approvals.find id = seen.approvals.find id :=
  Eq.symm (moved.2.2 _ member)

/-- Under its lock, a pending approval's recommendation is waiting for it. -/
theorem pending_recommendation {db : ApprovalsDb} {row : Approval} (consistent : Consistent db)
    (member : row ∈ db.approvals) (waiting : row.status = .pending) :
    ∃ recommendation, db.findRecommendation row.tenantId row.recommendationId =
      some recommendation ∧ recommendation.status = .pendingApproval := by
  obtain ⟨recommendation, parent, sameId, sameTenant, status⟩ := consistent.decided row member
  rw [waiting] at status
  refine ⟨recommendation, find_recommendation_some.mpr ⟨?_, sameTenant⟩,
    (Option.some.inj status).symm⟩
  rw [← sameId]
  exact KeyedTable.find_key parent

section Insert

/-- Rule for the INSERT of a pending approval under the recommendation's lock. -/
theorem meets_insertApproval {recommendation : Recommendation} {new : Approval}
    {ended : Approval → List ApprovalsKey → (ApprovalsDb → ApprovalsDb) → ApprovalsDb → Prop}
    (owned : .recommendation new.recommendationId ∈ held)
    (found : seen.findRecommendation new.tenantId new.recommendationId = some recommendation)
    (waiting : recommendation.status = .pendingApproval) (status : new.status = .pending)
    (stored : ∀ later keys, held ⊆ keys → .approval new.id ∈ keys →
      .openApproval new.tenantId new.recommendationId ∈ keys →
      Insertable later recommendation new →
      ended new keys (fun db => db.insertApproval new) later) :
    (insertApproval snapshotOctets new).Meets approvalsContract.rely ended
      (approvalsContract.Abortable request begun) held (fun db => db) seen := by
  have stable : ∀ now, approvalsContract.rely held seen now →
      now.findRecommendation new.tenantId new.recommendationId = some recommendation := by
    intro now moved
    rw [ApprovalsDb.findRecommendation, rely_recommendation moved owned]
    exact found
  unfold insertApproval
  rw [Txn.meets_then]
  apply Contract.meets_select
  · intro now moved absent
    rw [stable now moved] at absent
    cases absent
  · intro now moved
    rw [stable now moved]
    simp only [Txn.meets_then, Txn.meets_attempt, Txn.meets_lockRow, Txn.meets_view,
      Txn.meets_save, Txn.meets_pure]
    refine ⟨fun row accepted => ?_, fun reason _ => abortable reason⟩
    obtain ⟨rfl, _⟩ := insert_approval_row_ok (map_error_ok.mp accepted)
    intro first firstMoved second secondMoved later laterMoved
    refine ⟨fun _ freshId => ?_, fun reason _ => abortable reason⟩
    refine ⟨fun _ freshEntry => ?_, fun reason _ => abortable reason⟩
    refine ⟨fun _ _ => ?_, fun reason _ => abortable reason⟩
    have movedOn : approvalsContract.rely held seen later :=
      Contract.rely_trans moved (Contract.rely_trans
        (Contract.rely_subset (List.subset_cons_self _ _) firstMoved)
        (Contract.rely_trans
          (Contract.rely_subset (fun key member => by simp [member]) secondMoved)
          (Contract.rely_subset (fun key member => by simp [member]) laterMoved)))
    refine stored later _ (fun key member => by simp [member]) (by simp) (by simp) ?_
    exact
      { found := stable later movedOn
        waiting := waiting
        status := status
        freshId := Option.isNone_iff_eq_none.mp (require_ok.mp (map_error_ok.mp freshId))
        freshEntry := Option.isNone_iff_eq_none.mp (require_ok.mp (map_error_ok.mp freshEntry)) }

theorem insert_decidesOnly {db : ApprovalsDb} {row : Approval} (status : row.status = .pending) :
    DecidesOnly (fun _ => False) db (db.insertApproval row) := by
  intro later member decided
  rcases KeyedTable.mem_of_mem_insert member with kept | rfl
  · exact ⟨later, kept, rfl, Or.inl rfl⟩
  · rw [status] at decided
    rcases decided with approved | rejected
    · cases approved
    · cases rejected

theorem createPending_meets (tenantId : Uuid) (input : ApprovalInsertInput) (db : ApprovalsDb) :
    (approvalsProgram snapshotOctets (.createPending tenantId input) db).Meets
      approvalsContract.rely (approvalsContract.Committable (.createPending tenantId input) db)
      (approvalsContract.Abortable (.createPending tenantId input) db) [] (fun db => db) db := by
  simp only [approvalsProgram, createPending, Txn.meets_then]
  apply Contract.meets_select
  · intro now _ _
    exact abortable _
  · intro now moved
    cases selected : now.findRecommendation tenantId input.recommendationId with
    | none => exact abortable _
    | some recommendation =>
        dsimp only
        split_ifs with unready
        · exact abortable _
        · obtain ⟨waiting, _⟩ := not_or.mp unready
          rw [Txn.meets_then, Txn.meets_view]
          intro current currentMoved
          cases readSnapshotContext current tenantId input.assignedToUserId with
          | none => exact abortable _
          | some context =>
              have found : current.findRecommendation tenantId input.recommendationId =
                  some recommendation := by
                rw [ApprovalsDb.findRecommendation,
                  rely_recommendation currentMoved List.mem_cons_self]
                exact selected
              refine meets_insertApproval List.mem_cons_self found (not_not.mp waiting) rfl ?_
              intro later keys owned approval entry insertable
              rw [Txn.meets_pure]
              intro last lastMoved
              have kept : Insertable last recommendation _ :=
                { found := by
                    rw [ApprovalsDb.findRecommendation,
                      rely_recommendation lastMoved (owned List.mem_cons_self)]
                    exact insertable.found
                  waiting := insertable.waiting
                  status := insertable.status
                  freshId := (rely_approval lastMoved approval).trans insertable.freshId
                  freshEntry := (lastMoved.2.2 _ entry).mp insertable.freshEntry }
              exact ⟨insert_consistent lastMoved.1 kept, insert_evolves,
                fun key free => insert_untouched approval entry free,
                insert_decidesOnly insertable.status⟩

end Insert

section Decide

theorem settles_one {db : ApprovalsDb} {parent new : Recommendation} {approval row : Approval}
    (parentFound : db.recommendations.find new.id = some parent)
    (parentWaiting : parent.status = .pendingApproval)
    (sameParent : new.toRecommendationIdentity = parent.toRecommendationIdentity)
    (found : db.approvals.find row.id = some approval) (waiting : approval.status = .pending)
    (same : row.toApprovalIdentity = approval.toApprovalIdentity)
    (answers : row.recommendationId = new.id) (closed : row.status.isOpen = false)
    (status : outcome row.status = some new.status) : Settles db [new] [row] where
  recommendation := by
    simp only [List.mem_singleton, forall_eq]
    exact ⟨parent, KeyedTable.mem_of_find parentFound, sameParent, parentWaiting⟩
  approval := by
    simp only [List.mem_singleton, forall_eq]
    exact ⟨approval, KeyedTable.mem_of_find found, same, waiting⟩
  answered := by simp [answers]
  matched := by simp [answers]
  outcome := by
    simp only [List.mem_singleton, forall_eq]
    exact fun _ => ⟨closed, status⟩

theorem decision_outcome (status : Decision) :
    status.approval.isOpen = false ∧ outcome status.approval = some status.recommendation := by
  cases status <;> exact ⟨rfl, rfl⟩

/-- The end of `decide`, from what its locks have kept. -/
theorem decision_committable {tenantId : Uuid} {input : ApprovalDecisionInput} {status : Decision}
    {parent new : Recommendation} {old row : Approval} (holds : Holds held [new] [row])
    (parentFound : seen.recommendations.find new.id = some parent)
    (parentWaiting : parent.status = .pendingApproval)
    (sameParent : new.toRecommendationIdentity = parent.toRecommendationIdentity)
    (newStatus : new.status = status.recommendation)
    (found : seen.approvals.find row.id = some old) (waiting : old.status = .pending)
    (same : row.toApprovalIdentity = old.toApprovalIdentity)
    (answers : row.recommendationId = new.id) (rowId : row.id = input.approvalId)
    (rowTenant : row.tenantId = tenantId) (rowStatus : row.status = status.approval)
    (reason : row.decisionReason = some input.decisionReason) :
    approvalsContract.Committable (.decide tenantId input status) begun (.approval (some row)) held
      (settle [new] [row]) seen := by
  obtain ⟨closes, matching⟩ := decision_outcome status
  have settles : ∀ now, approvalsContract.rely held seen now → Settles now [new] [row] := by
    intro now moved
    have parentKey := holds.recommendation new (List.mem_singleton_self new)
    have rowKey := holds.approval row (List.mem_singleton_self row)
    exact settles_one ((rely_recommendation moved parentKey).trans parentFound) parentWaiting
      sameParent ((rely_approval moved rowKey).trans found) waiting same answers
      (rowStatus ▸ closes) (by rw [rowStatus, newStatus]; exact matching)
  apply settle_committable holds settles
  intro now moved
  refine ⟨settle_decidesOnly (settles now moved) (by simp [rowId]), ?_⟩
  intro returned isRow
  cases isRow
  refine ⟨?_, rowId, rowTenant, rowStatus, reason⟩
  obtain ⟨before, beforeMember, sameBefore, _⟩ :=
    (settles now moved).approval row (List.mem_singleton_self row)
  rcases KeyedTable.putAll_mem [row] beforeMember with ⟨_, untouched⟩ |
    ⟨changed, changedMember, _, changedStored⟩
  · exact absurd (congrArg ApprovalIdentity.id sameBefore)
      (untouched row (List.mem_singleton_self row))
  · rw [List.mem_singleton.mp changedMember] at changedStored
    exact changedStored

theorem decide_meets (tenantId : Uuid) (input : ApprovalDecisionInput) (status : Decision)
    (db : ApprovalsDb) :
    (approvalsProgram snapshotOctets (.decide tenantId input status) db).Meets
      approvalsContract.rely (approvalsContract.Committable (.decide tenantId input status) db)
      (approvalsContract.Abortable (.decide tenantId input status) db) [] (fun db => db) db := by
  simp only [approvalsProgram, ApprovalTransactions.decide, Txn.meets_then]
  apply Contract.meets_select
  · intro now _ _
    exact unchanged_committable fun now => ⟨decidesOnly_refl _ now, fun row returned => by
      cases returned⟩
  · intro now moved
    cases selected : now.findApproval tenantId input.approvalId with
    | none =>
        exact unchanged_committable fun now => ⟨decidesOnly_refl _ now, fun row returned => by
          cases returned⟩
    | some approval =>
        dsimp only
        split_ifs with closed
        · exact abortable _
        · have waiting := not_not.mp closed
          obtain ⟨stored, tenant⟩ := find_approval_some.mp selected
          have sameId := KeyedTable.key_of_find stored
          have stable : ∀ later, approvalsContract.rely [.approval input.approvalId] now later →
              later.approvals.find input.approvalId = some approval := fun later laterMoved =>
            (rely_approval laterMoved List.mem_cons_self).trans stored
          rw [Txn.meets_then]
          apply meets_settleRecommendation
          · intro later keys laterMoved _ unmatched
            obtain ⟨parent, found, parentWaiting⟩ := pending_recommendation laterMoved.1
              (KeyedTable.mem_of_find (stable later laterMoved)) waiting
            rw [tenant] at found
            exact absurd parentWaiting (unmatched parent found)
          · intro middle later parent new middleMoved parentFound parentWaiting laterMoved
              sameParent newStatus
            obtain ⟨parentStored, _⟩ := find_recommendation_some.mp parentFound
            have parentId := KeyedTable.key_of_find parentStored
            have newId : new.id = approval.recommendationId :=
              (congrArg RecommendationIdentity.id sameParent).trans parentId
            have onward : ∀ {last}, approvalsContract.rely [.recommendation
                approval.recommendationId, .approval input.approvalId] later last →
                approvalsContract.rely [.approval input.approvalId] now last := fun lastMoved =>
              Contract.rely_trans middleMoved (Contract.rely_subset (List.subset_cons_self _ _)
                (Contract.rely_trans laterMoved lastMoved))
            apply meets_settleApproval
            · intro last keys lastMoved _ unmatched
              have found : last.findApproval tenantId input.approvalId = some approval :=
                find_approval_some.mpr ⟨stable last (onward lastMoved), tenant⟩
              exact absurd (found.symm.trans unmatched) (by simp)
            · intro last final old row clock lastMoved found finalMoved accepted
              obtain ⟨sameRow, rowStatus, reason, _⟩ := update_approval_row_ok accepted
              have sameOld : some approval = some old :=
                (stable last (onward lastMoved)).symm.trans (find_approval_some.mp found).1
              cases sameOld
              have finally_ := Contract.rely_trans lastMoved
                (Contract.rely_subset (List.subset_cons_self _ _) finalMoved)
              have rowId : row.id = input.approvalId :=
                (congrArg ApprovalIdentity.id sameRow).trans sameId
              have parentNow := (rely_recommendation (Contract.rely_trans laterMoved finally_)
                List.mem_cons_self).trans parentStored
              have rowNow := stable final (onward finally_)
              change approvalsContract.Committable _ _ _ _ (settle [new] [row]) _
              refine decision_committable ?_ (newId ▸ parentNow) parentWaiting sameParent newStatus
                (rowId ▸ rowNow) waiting sameRow ?_ rowId ?_ rowStatus reason
              · exact
                  { recommendation := by simp [newId]
                    approval := by simp [rowId]
                    openApproval := by simp [sameRow] }
              · exact (congrArg ApprovalIdentity.recommendationId sameRow).trans newId.symm
              · exact (congrArg ApprovalIdentity.tenantId sameRow).trans tenant

end Decide

section ExpireDue

variable {now : Instant} {snapshot : ApprovalsDb} {dueRows : List Approval}
variable {found : List Recommendation} {settled : List Approval}

/-- What the locks of `expireDue` keep true between its row updates: the due
approvals are still pending, and the recommendations in `found` were waiting. -/
structure Expiring (snapshot : ApprovalsDb) (dueRows : List Approval)
    (found : List Recommendation) (held : List ApprovalsKey) (seen : ApprovalsDb) : Prop where
  evolved : Evolves snapshot seen
  due : ∀ row ∈ dueRows, ApprovalsKey.approval row.id ∈ held ∧ row ∈ snapshot.approvals ∧
    row.status = .pending ∧
    ∃ current, seen.approvals.find row.id = some current ∧ current.status = .pending
  moved : ∀ new ∈ found, ApprovalsKey.recommendation new.id ∈ held ∧ new.status = .expired ∧
    (∃ old, seen.recommendations.find new.id = some old ∧ old.status = .pendingApproval ∧
      new.toRecommendationIdentity = old.toRecommendationIdentity) ∧
    ∃ row ∈ dueRows, row.recommendationId = new.id ∧ row.tenantId = new.tenantId

/-- The same for the approvals that have been expired. -/
def Expired (found : List Recommendation) (settled : List Approval) (held : List ApprovalsKey)
    (seen : ApprovalsDb) : Prop :=
  ∀ row ∈ settled, ApprovalsKey.approval row.id ∈ held ∧
    ApprovalsKey.openApproval row.tenantId row.recommendationId ∈ held ∧ row.status = .expired ∧
    (∃ old, seen.approvals.find row.id = some old ∧ old.status = .pending ∧
      row.toApprovalIdentity = old.toApprovalIdentity) ∧
    ∃ new ∈ found, new.id = row.recommendationId

theorem expiring_moves {more : List ApprovalsKey} {later : ApprovalsDb}
    (expiring : Expiring snapshot dueRows found held seen) (subset : held ⊆ more)
    (moved : approvalsContract.rely held seen later) :
    Expiring snapshot dueRows found more later where
  evolved := evolves_trans _ _ _ expiring.evolved moved.2.1
  due row member := by
    obtain ⟨owned, origin, waiting, current, stored, currentWaiting⟩ := expiring.due row member
    exact ⟨subset owned, origin, waiting, current, (rely_approval moved owned).trans stored,
      currentWaiting⟩
  moved new member := by
    obtain ⟨owned, status, ⟨old, stored, facts⟩, matched⟩ := expiring.moved new member
    exact ⟨subset owned, status, ⟨old, (rely_recommendation moved owned).trans stored, facts⟩,
      matched⟩

theorem expired_moves {more : List ApprovalsKey} {later : ApprovalsDb}
    (expired : Expired found settled held seen) (subset : held ⊆ more)
    (moved : approvalsContract.rely held seen later) : Expired found settled more later := by
  intro row member
  obtain ⟨owned, entry, status, ⟨old, stored, facts⟩, matched⟩ := expired row member
  exact ⟨subset owned, subset entry, status, ⟨old, (rely_approval moved owned).trans stored,
    facts⟩, matched⟩

/-- The current row of a snapshot row has its frozen columns. -/
theorem evolved_identity {row current : Approval} (evolved : Evolves snapshot seen)
    (member : row ∈ snapshot.approvals) (found : seen.approvals.find row.id = some current) :
    current.toApprovalIdentity = row.toApprovalIdentity := by
  obtain ⟨later, stored, same, _⟩ := evolved.approvals row member
  have present := KeyedTable.find_key stored
  have laterId : later.id = row.id := congrArg ApprovalIdentity.id same
  rw [laterId, found] at present
  rw [Option.some.inj present]
  exact same

theorem mem_pendingRows {row : Approval} :
    row ∈ pendingRows snapshot found ↔ row ∈ snapshot.approvals ∧ row.status = .pending ∧
      ∃ new ∈ found, new.tenantId = row.tenantId ∧ new.id = row.recommendationId := by
  simp [pendingRows, KeyedTable.mem_rows]

theorem expire_settles (expiring : Expiring snapshot dueRows found held seen)
    (expired : Expired found settled held seen)
    (complete : ∀ row ∈ pendingRows snapshot found, row ∈ dueRows → ∃ new ∈ settled,
      new.id = row.id) : Settles seen found settled where
  recommendation new member := by
    obtain ⟨_, _, ⟨old, stored, waiting, same⟩, _⟩ := expiring.moved new member
    exact ⟨old, KeyedTable.mem_of_find stored, same, waiting⟩
  approval row member := by
    obtain ⟨_, _, _, ⟨old, stored, waiting, same⟩, _⟩ := expired row member
    exact ⟨old, KeyedTable.mem_of_find stored, same, waiting⟩
  answered new member := by
    obtain ⟨_, _, _, row, dueRow, sameRecommendation, sameTenant⟩ := expiring.moved new member
    obtain ⟨_, origin, waiting, _⟩ := expiring.due row dueRow
    obtain ⟨answer, answerMember, sameId⟩ := complete row
      (mem_pendingRows.mpr ⟨origin, waiting, new, member, sameTenant.symm,
        sameRecommendation.symm⟩) dueRow
    obtain ⟨_, _, _, ⟨old, stored, _, same⟩, _⟩ := expired answer answerMember
    rw [sameId] at stored
    have sameRow := evolved_identity expiring.evolved origin stored
    refine ⟨answer, answerMember, ?_⟩
    rw [congrArg ApprovalIdentity.recommendationId (same.trans sameRow), sameRecommendation]
  matched row member := by
    obtain ⟨_, _, _, _, new, newMember, sameId⟩ := expired row member
    exact ⟨new, newMember, sameId⟩
  outcome new member row rowMember _ := by
    obtain ⟨_, status, _⟩ := expiring.moved new member
    obtain ⟨_, _, rowStatus, _⟩ := expired row rowMember
    rw [status, rowStatus]
    exact ⟨rfl, rfl⟩

/-- The locked due rows are pending in the database they were locked in. -/
theorem expiring_initial {granted : List ApprovalsKey} (evolved : Evolves snapshot seen)
    (locked : granted.Sublist (dueKeys now snapshot seen)) :
    Expiring snapshot (expirable now snapshot granted) [] (granted ++ []) seen where
  evolved := evolved
  due row member := by
    obtain ⟨dueRow, selected⟩ := List.mem_filter.mp member
    have owned : ApprovalsKey.approval row.id ∈ granted :=
      of_decide_eq_true (Bool.and_eq_true_iff.mp selected).1
    have origin : row ∈ snapshot.approvals.rows ∧ due now row = true := by
      simpa [dueApprovals] using dueRow
    obtain ⟨other, otherMember, sameKey⟩ := List.mem_map.mp (locked.subset owned)
    obtain ⟨_, stillDue⟩ := List.mem_filter.mp otherMember
    have sameId : other.id = row.id := ApprovalsKey.approval.inj sameKey
    rw [sameId] at stillDue
    obtain ⟨current, stored, isDue⟩ := (Option.any_eq_true _ _).mp stillDue
    simp only [due, Bool.and_eq_true, decide_eq_true_eq] at isDue
    have waiting := origin.2
    simp only [due, Bool.and_eq_true, decide_eq_true_eq] at waiting
    exact ⟨by simpa using owned, origin.1, waiting.1, current, stored, isDue.1⟩
  moved new member := by cases member

theorem settle_recommendation_more (found : List Recommendation) (new : Recommendation)
    (db : ApprovalsDb) :
    (settle found [] db).putRecommendation new = settle (found ++ [new]) [] db := by
  simp only [settle, ApprovalsDb.putRecommendation, KeyedTable.putAll_append]

theorem settle_approval_more (found : List Recommendation) (settled : List Approval)
    (row : Approval) (db : ApprovalsDb) :
    (settle found settled db).putApproval row = settle found (settled ++ [row]) db := by
  simp only [settle, ApprovalsDb.putApproval, KeyedTable.putAll_append]

/-- The second part: each due row's recommendation, in turn. -/
theorem expire_recommendations_meets
    {after : List Recommendation → List ApprovalsKey → (ApprovalsDb → ApprovalsDb) →
      ApprovalsDb → Prop}
    (initially : Expiring snapshot dueRows [] held seen)
    (concluded : ∀ found keys later, Expiring snapshot dueRows found keys later →
      after found keys (settle found []) later) :
    (Txn.forEach (fun row : Approval =>
      settleRecommendation .database row.tenantId row.recommendationId .expired) [] dueRows).Meets
      approvalsContract.rely after (approvalsContract.Abortable request begun) held (fun db => db)
      seen := by
  apply Txn.meets_forEach (fun found rest keys changes later =>
    changes = settle found [] ∧ rest ⊆ dueRows ∧ Expiring snapshot dueRows found keys later)
  · rintro found row rest keys _ current ⟨rfl, remaining, expiring⟩
    obtain ⟨dueRow, restDue⟩ := List.cons_subset.mp remaining
    apply meets_settleRecommendation
    · intro later more moved subset _
      rw [Option.toList_none, List.append_nil]
      exact ⟨rfl, restDue, expiring_moves expiring subset moved⟩
    · intro middle later old new moved selected waiting onward same status
      obtain ⟨stored, tenant⟩ := find_recommendation_some.mp selected
      have oldId := KeyedTable.key_of_find stored
      have newId : new.id = row.recommendationId :=
        (congrArg RecommendationIdentity.id same).trans oldId
      have kept := expiring_moves (expiring_moves expiring (List.subset_cons_self _ _) moved)
        (List.Subset.refl _) onward
      refine ⟨funext fun db => settle_recommendation_more found new db, restDue, kept.evolved,
        kept.due, ?_⟩
      intro other member
      rcases List.mem_append.mp member with earlier | isNew
      · exact kept.moved other earlier
      · rw [List.mem_singleton.mp isNew]
        have oldStored : middle.recommendations.find row.recommendationId = some old := by
          rcases KeyedTable.find_putAll middle.recommendations found row.recommendationId with
            ⟨_, unchanged⟩ | ⟨done, doneMember, _, changed⟩
          · exact unchanged.symm.trans stored
          · obtain ⟨_, _, isOld⟩ := Option.map_eq_some_iff.mp (changed.symm.trans stored)
            obtain ⟨_, expired, _⟩ := expiring.moved done doneMember
            rw [← isOld, expired] at waiting
            cases waiting
        have oldNow := (rely_recommendation onward List.mem_cons_self).trans oldStored
        exact ⟨by simp [newId], status, ⟨old, newId ▸ oldNow, waiting, same⟩, row, dueRow,
          newId.symm, (congrArg RecommendationIdentity.tenantId same ▸ tenant).symm⟩
  · rintro found keys _ later ⟨rfl, _, expiring⟩
    exact concluded found keys later expiring
  · exact ⟨rfl, List.Subset.refl _, initially⟩

/-- The third part: each snapshot approval of a recommendation that moved. -/
theorem expire_approvals_meets
    {after : List Approval → List ApprovalsKey → (ApprovalsDb → ApprovalsDb) →
      ApprovalsDb → Prop}
    (initially : Expiring snapshot dueRows found held seen)
    (concluded : ∀ settled keys later, Expiring snapshot dueRows found keys later →
      Expired found settled keys later →
      (∀ row ∈ pendingRows snapshot found, row ∈ dueRows → ∃ new ∈ settled, new.id = row.id) →
      after settled keys (settle found settled) later) :
    (Txn.forEach (fun row : Approval => settleApproval snapshotOctets .database row.id
      (fun db => (db.approvals.find row.id).filter fun current => current.status = .pending)
      fun current => { current with status := .expired, decidedAt := some now })
      [] (pendingRows snapshot found)).Meets
      approvalsContract.rely after (approvalsContract.Abortable request begun) held (settle found [])
      seen := by
  apply Txn.meets_forEach (fun settled rest keys changes later =>
    changes = settle found settled ∧ rest ⊆ pendingRows snapshot found ∧
      Expiring snapshot dueRows found keys later ∧ Expired found settled keys later ∧
      ∀ row ∈ pendingRows snapshot found, row ∈ dueRows →
        row ∈ rest ∨ ∃ new ∈ settled, new.id = row.id)
  · rintro settled row rest keys _ current ⟨rfl, remaining, expiring, expired, progress⟩
    obtain ⟨pendingRow, restPending⟩ := List.cons_subset.mp remaining
    obtain ⟨origin, _, parent, parentMember, _, parentId⟩ := mem_pendingRows.mp pendingRow
    apply meets_settleApproval
    · intro later more moved subset absent
      have kept := expiring_moves expiring subset moved
      refine ⟨by simp, restPending, kept, by simpa using expired_moves expired subset moved, ?_⟩
      intro other member dueRow
      rw [Option.toList_none, List.append_nil]
      rcases progress other member dueRow with waiting | done
      · rcases List.mem_cons.mp waiting with rfl | later_
        · obtain ⟨_, _, _, now', stored, isPending⟩ := kept.due other dueRow
          rcases KeyedTable.find_putAll later.approvals settled other.id with ⟨_, unchanged⟩ |
            ⟨new, newMember, sameId, _⟩
          · change ((later.approvals.putAll settled).find other.id).filter _ = none at absent
            rw [unchanged, stored] at absent
            simp [isPending] at absent
          · exact Or.inr ⟨new, newMember, sameId⟩
        · exact Or.inl later_
      · exact Or.inr done
    · intro middle later old new clock moved selected onward accepted
      obtain ⟨sameNew, status, _⟩ := update_approval_row_ok accepted
      obtain ⟨stored, isPending⟩ := Option.filter_eq_some_iff.mp selected
      have waiting : old.status = .pending := of_decide_eq_true isPending
      have oldStored : middle.approvals.find row.id = some old := by
        rcases KeyedTable.find_putAll middle.approvals settled row.id with ⟨_, unchanged⟩ |
          ⟨done, doneMember, _, changed⟩
        · exact unchanged.symm.trans stored
        · obtain ⟨_, _, isOld⟩ := Option.map_eq_some_iff.mp (changed.symm.trans stored)
          obtain ⟨_, _, expiredStatus, _⟩ := expired done doneMember
          rw [← isOld, expiredStatus] at waiting
          cases waiting
      have sameRow := evolved_identity (expiring_moves expiring (List.Subset.refl _) moved).evolved
        origin oldStored
      have same := sameNew.trans sameRow
      have newId : new.id = row.id := congrArg ApprovalIdentity.id same
      have oldNow := (rely_approval onward List.mem_cons_self).trans oldStored
      have more : keys ⊆ .openApproval old.tenantId old.recommendationId :: .approval row.id ::
          keys := fun key member => by simp [member]
      have movedOn := Contract.rely_trans moved
        (Contract.rely_subset (List.subset_cons_self _ _) onward)
      refine ⟨funext fun db => settle_approval_more found settled new db, restPending,
        expiring_moves expiring more movedOn, ?_, ?_⟩
      · intro other member
        rcases List.mem_append.mp member with earlier | isNew
        · exact expired_moves expired more movedOn other earlier
        · rw [Option.toList_some, List.mem_singleton] at isNew
          rw [isNew]
          refine ⟨by simp [newId], by simp [sameNew], status, ⟨old, newId ▸ oldNow, waiting,
            sameNew⟩, parent, parentMember, ?_⟩
          exact parentId.trans (congrArg ApprovalIdentity.recommendationId same).symm
      · intro other member dueRow
        rcases progress other member dueRow with remains | ⟨done, doneMember, sameId⟩
        · rcases List.mem_cons.mp remains with rfl | later_
          · exact Or.inr ⟨new, by simp, newId⟩
          · exact Or.inl later_
        · exact Or.inr ⟨done, List.mem_append_left _ doneMember, sameId⟩
  · rintro settled keys _ later ⟨rfl, _, expiring, expired, progress⟩
    refine concluded settled keys later expiring expired fun row member dueRow => ?_
    rcases progress row member dueRow with none_ | settledRow
    · cases none_
    · exact settledRow
  · refine ⟨rfl, List.Subset.refl _, initially, ?_, fun row member _ => Or.inl member⟩
    intro row member
    cases member

theorem expireDue_meets (instant : Instant) (limit : Nat) (db : ApprovalsDb) :
    (approvalsProgram snapshotOctets (.expireDue instant limit) db).Meets
      approvalsContract.rely (approvalsContract.Committable (.expireDue instant limit) db)
      (approvalsContract.Abortable (.expireDue instant limit) db) [] (fun db => db) db := by
  simp only [approvalsProgram, expireDue, Txn.meets_then, Txn.meets_lockRows]
  intro current snapshotMoved granted locked
  apply expire_recommendations_meets (expiring_initial snapshotMoved.2.1 locked)
  intro found keys later expiring
  apply expire_approvals_meets expiring
  intro settled more last lastExpiring expired complete
  simp only [Txn.meets_pure]
  have settles : ∀ now, approvalsContract.rely more last now → Settles now found settled :=
    fun now moved => expire_settles (expiring_moves lastExpiring (List.Subset.refl _) moved)
      (expired_moves expired (List.Subset.refl _) moved) complete
  apply settle_committable _ settles
  · intro now moved
    change DecidesOnly (fun _ => False) now (settle found settled now)
    refine settle_decidesOnly (settles now moved) fun row member decided => ?_
    rw [(expired row member).2.2.1] at decided
    rcases decided with approved | rejected
    · cases approved
    · cases rejected
  · exact
      { recommendation := fun new member => (lastExpiring.moved new member).1
        approval := fun row member => (expired row member).1
        openApproval := fun row member => (expired row member).2.1 }

end ExpireDue

/-- The trigger refuses every row that `setWorkflowExecutionId` would write. -/
theorem setWorkflowExecutionId_meets (tenantId approvalId : Uuid) (executionId : String)
    (db : ApprovalsDb) :
    (approvalsProgram snapshotOctets
      (.setWorkflowExecutionId tenantId approvalId executionId) db).Meets approvalsContract.rely
      (approvalsContract.Committable (.setWorkflowExecutionId tenantId approvalId executionId) db)
      (approvalsContract.Abortable (.setWorkflowExecutionId tenantId approvalId executionId) db)
      [] (fun db => db) db := by
  simp only [approvalsProgram, setWorkflowExecutionId, Txn.meets_then]
  apply meets_settleApproval
  · intro now keys moved _ _
    exact unchanged_committable (decidesOnly_refl fun _ => False)
  · intro now later old row clock _ _ _ accepted
    have refusal : ∃ error, updateApprovalRow snapshotOctets clock old
        { old with workflowExecutionId := some executionId } = .error error ∧
        error.code = "55000" := update_same_status_refused rfl
    obtain ⟨error, refused, _⟩ := refusal
    rw [refused] at accepted
    cases accepted

theorem insert_recommendation_consistent {db : ApprovalsDb} {new : Recommendation}
    (consistent : Consistent db)
    (undecided : ¬ (new.status = .approved ∨ new.status = .rejected)) :
    Consistent { db with recommendations := db.recommendations.insert new } where
  decided row member := by
    obtain ⟨parent, parentMember, facts⟩ := consistent.decided row member
    exact ⟨parent, KeyedTable.mem_insert_of_mem parentMember, facts⟩
  single := consistent.single
  answered parent member decided := by
    rcases KeyedTable.mem_of_mem_insert member with old | rfl
    · exact consistent.answered parent old decided
    · exact absurd decided undecided

theorem insertRecommendation_meets (identity : RecommendationIdentity) (db : ApprovalsDb) :
    (approvalsProgram snapshotOctets (.insertRecommendation identity) db).Meets
      approvalsContract.rely (approvalsContract.Committable (.insertRecommendation identity) db)
      (approvalsContract.Abortable (.insertRecommendation identity) db) [] (fun db => db) db := by
  simp only [approvalsProgram, insertRecommendation, Txn.meets_then, Txn.meets_view,
    Txn.meets_lockRow, Txn.meets_attempt, Txn.meets_save, Txn.meets_pure]
  intro locked _ current _
  refine ⟨fun _ _ now moved => ?_, fun reason _ => abortable reason⟩
  refine ⟨insert_recommendation_consistent moved.1 (by dsimp only; split_ifs <;> simp),
    ⟨fun row member => ⟨row, member, rfl, fun _ => rfl⟩,
      fun row member => ⟨row, KeyedTable.mem_insert_of_mem member, rfl⟩, le_refl _⟩, ?_,
    fun row member _ => ⟨row, member, rfl, Or.inl rfl⟩⟩
  intro key free
  cases key with
  | recommendation id =>
      have different : identity.id ≠ id := fun same => free (by simp [same])
      simp [approvalsContract, Same, different]
  | approval id => rfl
  | openApproval tenantId recommendationId => exact Iff.rfl

theorem drift_keeps (event : ApprovalsDrift) (db : ApprovalsDb) (consistent : Consistent db) :
    Consistent (approvalsDrift event db) ∧ Evolves db (approvalsDrift event db) ∧
      ∀ key, Same key db (approvalsDrift event db) := by
  cases event with
  | tick elapsed =>
      refine ⟨⟨consistent.decided, consistent.single, consistent.answered⟩,
        ⟨(evolves_refl db).approvals, (evolves_refl db).recommendations, Nat.le_add_right _ _⟩,
        fun key => ?_⟩
      cases key with
      | recommendation id => rfl
      | approval id => rfl
      | openApproval tenantId recommendationId => exact Iff.rfl
  | directory current =>
      refine ⟨⟨consistent.decided, consistent.single, consistent.answered⟩,
        ⟨(evolves_refl db).approvals, (evolves_refl db).recommendations, le_refl _⟩,
        fun key => ?_⟩
      cases key with
      | recommendation id => rfl
      | approval id => rfl
      | openApproval tenantId recommendationId => exact Iff.rfl

/-- The approvals repository meets its contract. -/
theorem approvals_verified (snapshotOctets : ApprovalSnapshot → Nat) :
    approvalsContract.Verified (approvalsProgram snapshotOctets) approvalsDrift where
  requests request db _ := by
    cases request with
    | createPending tenantId input => exact createPending_meets tenantId input db
    | decide tenantId input status => exact decide_meets tenantId input status db
    | expireDue now limit => exact expireDue_meets now limit db
    | setWorkflowExecutionId tenantId approvalId executionId =>
        exact setWorkflowExecutionId_meets tenantId approvalId executionId db
    | insertRecommendation identity => exact insertRecommendation_meets identity db
  drifts event db consistent := drift_keeps event db consistent

end CommitmentOptimizer.Approvals.ApprovalVerification
