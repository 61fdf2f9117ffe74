import CommitmentOptimizer.Approvals.ApprovalTransactions

/-!
# What ties approvals and recommendations together

The invariant of the two tables, how a committed database may evolve, what each
lock protects, and the two writes that the transactions compose: settling a set
of approvals with their recommendations, and inserting a pending approval.
-/

namespace CommitmentOptimizer.Approvals.ApprovalInvariants

open Foundations
open Foundations.SqlConstraints
open Recommendations.RecommendationLifecycle
open ApprovalLifecycle
open ApprovalTransactions

set_option autoImplicit false

/-- The recommendation status that belongs to an approval status. No
transaction writes `queued` or `failed`. -/
def outcome : ApprovalStatus → Option RecommendationStatus
  | .pending => some .pendingApproval
  | .approved => some .approved
  | .rejected => some .rejected
  | .expired => some .expired
  | .queued | .failed => none

structure Consistent (db : ApprovalsDb) : Prop where
  decided : ∀ row ∈ db.approvals, ∃ recommendation ∈ db.recommendations,
    recommendation.id = row.recommendationId ∧ recommendation.tenantId = row.tenantId ∧
      outcome row.status = some recommendation.status
  single : ∀ left ∈ db.approvals, ∀ right ∈ db.approvals,
    left.recommendationId = right.recommendationId → left = right
  answered : ∀ recommendation ∈ db.recommendations,
    recommendation.status = .approved ∨ recommendation.status = .rejected →
    ∃ row ∈ db.approvals, row.recommendationId = recommendation.id ∧
      outcome row.status = some recommendation.status

/-- Frozen columns stay, and an approval that left `pending` keeps its status. -/
structure Evolves (before after : ApprovalsDb) : Prop where
  approvals : ∀ row ∈ before.approvals, ∃ later ∈ after.approvals,
    later.toApprovalIdentity = row.toApprovalIdentity ∧
      (row.status ≠ .pending → later.status = row.status)
  recommendations : ∀ row ∈ before.recommendations, ∃ later ∈ after.recommendations,
    later.toRecommendationIdentity = row.toRecommendationIdentity
  clock : before.clock ≤ after.clock

/-- What a key shows: its row, or whether its index entry is there. -/
def Same : ApprovalsKey → ApprovalsDb → ApprovalsDb → Prop
  | .recommendation id, before, after =>
      before.recommendations.find id = after.recommendations.find id
  | .approval id, before, after => before.approvals.find id = after.approvals.find id
  | .openApproval tenantId recommendationId, before, after =>
      before.openApproval tenantId recommendationId = none ↔
        after.openApproval tenantId recommendationId = none

/-- Before a recommendation is first sent for approval. -/
structure Fresh (db : ApprovalsDb) : Prop where
  approvals : ∀ row, row ∉ db.approvals
  recommendations : ∀ row ∈ db.recommendations, ¬ (row.status = .approved ∨ row.status = .rejected)

theorem fresh_consistent {db : ApprovalsDb} (fresh : Fresh db) : Consistent db where
  decided row member := absurd member (fresh.approvals row)
  single left member := absurd member (fresh.approvals left)
  answered row member answered := absurd answered (fresh.recommendations row member)

theorem evolves_refl (db : ApprovalsDb) : Evolves db db where
  approvals row member := ⟨row, member, rfl, fun _ => rfl⟩
  recommendations row member := ⟨row, member, rfl⟩
  clock := le_refl _

theorem evolves_trans (first second third : ApprovalsDb)
    (left : Evolves first second) (right : Evolves second third) : Evolves first third where
  approvals row member := by
    obtain ⟨middle, middleMember, sameMiddle, keptMiddle⟩ := left.approvals row member
    obtain ⟨later, laterMember, sameLater, keptLater⟩ := right.approvals middle middleMember
    refine ⟨later, laterMember, sameLater.trans sameMiddle, fun closed => ?_⟩
    have middleStatus := keptMiddle closed
    rw [keptLater (middleStatus ▸ closed), middleStatus]
  recommendations row member := by
    obtain ⟨middle, middleMember, sameMiddle⟩ := left.recommendations row member
    obtain ⟨later, laterMember, sameLater⟩ := right.recommendations middle middleMember
    exact ⟨later, laterMember, sameLater.trans sameMiddle⟩
  clock := le_trans left.clock right.clock

theorem same_refl (key : ApprovalsKey) (db : ApprovalsDb) : Same key db db := by
  cases key <;> simp [Same]

theorem same_trans (key : ApprovalsKey) (first second third : ApprovalsDb)
    (left : Same key first second) (right : Same key second third) : Same key first third := by
  cases key with
  | recommendation id => exact Eq.trans left right
  | approval id => exact Eq.trans left right
  | openApproval tenantId recommendationId => exact Iff.trans left right

theorem open_approval_none {db : ApprovalsDb} {tenantId recommendationId : Uuid} :
    db.openApproval tenantId recommendationId = none ↔
      ∀ row ∈ db.approvals, row.status.isOpen = true → row.tenantId = tenantId →
        row.recommendationId ≠ recommendationId := by
  rw [ApprovalsDb.openApproval, List.find?_eq_none]
  refine forall₂_congr fun row _ => ?_
  simp

theorem find_recommendation_some {db : ApprovalsDb} {tenantId id : Uuid} {row : Recommendation} :
    db.findRecommendation tenantId id = some row ↔
      db.recommendations.find id = some row ∧ row.tenantId = tenantId := by
  simp [ApprovalsDb.findRecommendation, Option.filter_eq_some_iff]

theorem find_approval_some {db : ApprovalsDb} {tenantId id : Uuid} {row : Approval} :
    db.findApproval tenantId id = some row ↔
      db.approvals.find id = some row ∧ row.tenantId = tenantId := by
  simp [ApprovalsDb.findApproval, Option.filter_eq_some_iff]

/-- The writes of `decide` and `expireDue`: new rows for some recommendations
and some approvals. -/
def settle (recommendations : List Recommendation) (approvals : List Approval)
    (db : ApprovalsDb) : ApprovalsDb :=
  { db with
    recommendations := db.recommendations.putAll recommendations
    approvals := db.approvals.putAll approvals }

/-- The new rows answer each other, and the old ones were waiting. -/
structure Settles (db : ApprovalsDb) (recommendations : List Recommendation)
    (approvals : List Approval) : Prop where
  recommendation : ∀ new ∈ recommendations, ∃ old ∈ db.recommendations,
    new.toRecommendationIdentity = old.toRecommendationIdentity ∧ old.status = .pendingApproval
  approval : ∀ new ∈ approvals, ∃ old ∈ db.approvals,
    new.toApprovalIdentity = old.toApprovalIdentity ∧ old.status = .pending
  answered : ∀ new ∈ recommendations, ∃ row ∈ approvals, row.recommendationId = new.id
  matched : ∀ row ∈ approvals, ∃ new ∈ recommendations, new.id = row.recommendationId
  outcome : ∀ new ∈ recommendations, ∀ row ∈ approvals, row.recommendationId = new.id →
    row.status.isOpen = false ∧ outcome row.status = some new.status

section Settle

variable {db : ApprovalsDb} {recommendations : List Recommendation} {approvals : List Approval}

/-- Every settled approval has the identity of an old one. -/
theorem settled_approval (settles : Settles db recommendations approvals) {row : Approval}
    (member : row ∈ (settle recommendations approvals db).approvals) :
    (row ∈ db.approvals ∧ ∀ new ∈ approvals, new.id ≠ row.id) ∨
      (row ∈ approvals ∧ ∃ old ∈ db.approvals,
        row.toApprovalIdentity = old.toApprovalIdentity ∧ old.status = .pending) := by
  rcases KeyedTable.mem_putAll member with kept | ⟨new, _⟩
  · exact Or.inl kept
  · exact Or.inr ⟨new, settles.approval row new⟩

theorem settle_decided (consistent : Consistent db)
    (settles : Settles db recommendations approvals) :
    ∀ row ∈ (settle recommendations approvals db).approvals,
      ∃ recommendation ∈ (settle recommendations approvals db).recommendations,
        recommendation.id = row.recommendationId ∧ recommendation.tenantId = row.tenantId ∧
          outcome row.status = some recommendation.status := by
  intro row member
  rcases settled_approval settles member with ⟨old, kept⟩ | ⟨new, old, oldMember, same, _⟩
  · obtain ⟨parent, parentMember, sameId, sameTenant, status⟩ := consistent.decided row old
    rcases KeyedTable.putAll_mem recommendations parentMember with ⟨stays, _⟩ |
      ⟨changed, changedMember, sameKey, _⟩
    · exact ⟨parent, stays, sameId, sameTenant, status⟩
    · obtain ⟨answer, answerMember, answers⟩ := settles.answered changed changedMember
      obtain ⟨before, beforeMember, sameAnswer, _⟩ := settles.approval answer answerMember
      have sameRecommendation : before.recommendationId = row.recommendationId := by
        rw [← congrArg ApprovalIdentity.recommendationId sameAnswer, answers, sameKey, sameId]
      have sameRow := consistent.single before beforeMember row old sameRecommendation
      have sameRowId : answer.id = row.id := by
        rw [congrArg ApprovalIdentity.id sameAnswer, sameRow]
      exact absurd sameRowId (kept answer answerMember)
  · obtain ⟨parent, parentMember, sameId, sameTenant, _⟩ := consistent.decided old oldMember
    obtain ⟨matching, matchingMember, answersIt⟩ := settles.matched row new
    have oldRecommendation : old.recommendationId = row.recommendationId :=
      (congrArg ApprovalIdentity.recommendationId same).symm
    rcases KeyedTable.putAll_mem recommendations parentMember with ⟨_, untouched⟩ |
      ⟨changed, changedMember, sameKey, stored⟩
    · exact absurd (by rw [answersIt, sameId, oldRecommendation])
        (untouched matching matchingMember)
    · obtain ⟨before, beforeMember, sameChanged, _⟩ := settles.recommendation changed changedMember
      have sameParent : before = parent := KeyedTable.eq_of_key beforeMember parentMember (by
        rw [← congrArg RecommendationIdentity.id sameChanged, sameKey])
      have answers : row.recommendationId = changed.id := by
        rw [sameKey, sameId, oldRecommendation]
      refine ⟨changed, stored, answers.symm, ?_, (settles.outcome changed changedMember row new
        answers).2⟩
      calc
        changed.tenantId = before.tenantId := congrArg RecommendationIdentity.tenantId sameChanged
        _ = parent.tenantId := by rw [sameParent]
        _ = old.tenantId := sameTenant
        _ = row.tenantId := (congrArg ApprovalIdentity.tenantId same).symm

theorem settle_single (consistent : Consistent db)
    (settles : Settles db recommendations approvals) :
    ∀ left ∈ (settle recommendations approvals db).approvals,
      ∀ right ∈ (settle recommendations approvals db).approvals,
        left.recommendationId = right.recommendationId → left = right := by
  have origin : ∀ row ∈ (settle recommendations approvals db).approvals,
      ∃ old ∈ db.approvals, row.toApprovalIdentity = old.toApprovalIdentity := by
    intro row member
    rcases settled_approval settles member with ⟨old, _⟩ | ⟨_, old, oldMember, same, _⟩
    · exact ⟨row, old, rfl⟩
    · exact ⟨old, oldMember, same⟩
  intro left leftMember right rightMember sameRecommendation
  obtain ⟨oldLeft, oldLeftMember, sameLeft⟩ := origin left leftMember
  obtain ⟨oldRight, oldRightMember, sameRight⟩ := origin right rightMember
  have sameOld : oldLeft = oldRight := by
    apply consistent.single oldLeft oldLeftMember oldRight oldRightMember
    rw [← congrArg ApprovalIdentity.recommendationId sameLeft,
      ← congrArg ApprovalIdentity.recommendationId sameRight, sameRecommendation]
  refine KeyedTable.eq_of_key leftMember rightMember ?_
  rw [congrArg ApprovalIdentity.id sameLeft, sameOld, ← congrArg ApprovalIdentity.id sameRight]

theorem settle_answered (consistent : Consistent db)
    (settles : Settles db recommendations approvals) :
    ∀ recommendation ∈ (settle recommendations approvals db).recommendations,
      recommendation.status = .approved ∨ recommendation.status = .rejected →
      ∃ row ∈ (settle recommendations approvals db).approvals,
        row.recommendationId = recommendation.id ∧
          outcome row.status = some recommendation.status := by
  intro recommendation member decided
  rcases KeyedTable.mem_putAll member with ⟨old, _⟩ | ⟨new, _⟩
  · obtain ⟨row, rowMember, sameId, status⟩ := consistent.answered recommendation old decided
    rcases KeyedTable.putAll_mem approvals rowMember with ⟨stays, _⟩ |
      ⟨changed, changedMember, sameKey, _⟩
    · exact ⟨row, stays, sameId, status⟩
    · obtain ⟨before, beforeMember, same, waiting⟩ := settles.approval changed changedMember
      have sameRow : before = row := KeyedTable.eq_of_key beforeMember rowMember (by
        rw [← congrArg ApprovalIdentity.id same, sameKey])
      rw [← sameRow, waiting] at status
      rw [← Option.some.inj status] at decided
      rcases decided with approved | rejected
      · cases approved
      · cases rejected
  · obtain ⟨answer, answerMember, answers⟩ := settles.answered recommendation new
    obtain ⟨before, beforeMember, same, _⟩ := settles.approval answer answerMember
    rcases KeyedTable.putAll_mem approvals beforeMember with ⟨_, untouched⟩ |
      ⟨changed, changedMember, sameKey, stored⟩
    · exact absurd (congrArg ApprovalIdentity.id same) (untouched answer answerMember)
    · obtain ⟨origin, originMember, sameChanged, _⟩ := settles.approval changed changedMember
      have sameOrigin : origin = before := KeyedTable.eq_of_key originMember beforeMember (by
        rw [← congrArg ApprovalIdentity.id sameChanged, sameKey])
      have changedAnswers : changed.recommendationId = recommendation.id := by
        rw [congrArg ApprovalIdentity.recommendationId sameChanged, sameOrigin,
          ← congrArg ApprovalIdentity.recommendationId same, answers]
      exact ⟨changed, stored, changedAnswers,
        (settles.outcome recommendation new changed changedMember changedAnswers).2⟩

theorem settle_consistent (consistent : Consistent db)
    (settles : Settles db recommendations approvals) :
    Consistent (settle recommendations approvals db) where
  decided := settle_decided consistent settles
  single := settle_single consistent settles
  answered := settle_answered consistent settles

theorem settle_evolves (settles : Settles db recommendations approvals) :
    Evolves db (settle recommendations approvals db) where
  approvals row member := by
    rcases KeyedTable.putAll_mem approvals member with ⟨stays, _⟩ |
      ⟨changed, changedMember, sameKey, stored⟩
    · exact ⟨row, stays, rfl, fun _ => rfl⟩
    · obtain ⟨old, oldMember, same, waiting⟩ := settles.approval changed changedMember
      have sameRow : old = row := KeyedTable.eq_of_key oldMember member (by
        rw [← congrArg ApprovalIdentity.id same, sameKey])
      rw [sameRow] at same waiting
      exact ⟨changed, stored, same, fun closed => absurd waiting closed⟩
  recommendations row member := by
    rcases KeyedTable.putAll_mem recommendations member with ⟨stays, _⟩ |
      ⟨changed, changedMember, sameKey, stored⟩
    · exact ⟨row, stays, rfl⟩
    · obtain ⟨old, oldMember, same, _⟩ := settles.recommendation changed changedMember
      have sameRow : old = row := KeyedTable.eq_of_key oldMember member (by
        rw [← congrArg RecommendationIdentity.id same, sameKey])
      rw [sameRow] at same
      exact ⟨changed, stored, same⟩
  clock := le_refl _

/-- The keys that the new rows need. -/
structure Holds (held : List ApprovalsKey) (recommendations : List Recommendation)
    (approvals : List Approval) : Prop where
  recommendation : ∀ new ∈ recommendations, ApprovalsKey.recommendation new.id ∈ held
  approval : ∀ new ∈ approvals, ApprovalsKey.approval new.id ∈ held
  openApproval : ∀ new ∈ approvals,
    ApprovalsKey.openApproval new.tenantId new.recommendationId ∈ held

theorem settle_untouched (settles : Settles db recommendations approvals)
    {held : List ApprovalsKey} (holds : Holds held recommendations approvals) {key : ApprovalsKey}
    (free : key ∉ held) : Same key db (settle recommendations approvals db) := by
  cases key with
  | recommendation id =>
      rcases KeyedTable.find_putAll db.recommendations recommendations id with ⟨_, found⟩ |
        ⟨row, member, same, _⟩
      · exact found.symm
      · exact absurd (same ▸ holds.recommendation row member) free
  | approval id =>
      rcases KeyedTable.find_putAll db.approvals approvals id with ⟨_, found⟩ |
        ⟨row, member, same, _⟩
      · exact found.symm
      · exact absurd (same ▸ holds.approval row member) free
  | openApproval tenantId recommendationId =>
      simp only [Same, open_approval_none]
      constructor
      · intro absent row member opened sameTenant sameRecommendation
        rcases settled_approval settles member with ⟨old, _⟩ | ⟨new, _⟩
        · exact absent row old opened sameTenant sameRecommendation
        · subst sameTenant sameRecommendation
          exact free (holds.openApproval row new)
      · intro absent row member opened sameTenant sameRecommendation
        rcases KeyedTable.putAll_mem approvals member with ⟨stays, _⟩ |
          ⟨changed, changedMember, sameKey, _⟩
        · exact absent row stays opened sameTenant sameRecommendation
        · obtain ⟨old, oldMember, same, _⟩ := settles.approval changed changedMember
          have sameRow : old = row := KeyedTable.eq_of_key oldMember member (by
            rw [← congrArg ApprovalIdentity.id same, sameKey])
          have slot := holds.openApproval changed changedMember
          rw [congrArg ApprovalIdentity.tenantId same,
            congrArg ApprovalIdentity.recommendationId same, sameRow, sameTenant,
            sameRecommendation] at slot
          exact free slot

end Settle

section Insert

variable {db : ApprovalsDb} {row : Approval} {recommendation : Recommendation}

/-- When a pending approval may be inserted. -/
structure Insertable (db : ApprovalsDb) (recommendation : Recommendation) (row : Approval) :
    Prop where
  found : db.findRecommendation row.tenantId row.recommendationId = some recommendation
  waiting : recommendation.status = .pendingApproval
  status : row.status = .pending
  freshId : db.approvals.find row.id = none
  freshEntry : db.openApproval row.tenantId row.recommendationId = none

/-- A waiting recommendation without an open approval has no approval at all. -/
theorem insertable_first (consistent : Consistent db) (insertable : Insertable db recommendation row)
    {other : Approval} (member : other ∈ db.approvals) :
    other.recommendationId ≠ row.recommendationId := by
  intro sameRecommendation
  obtain ⟨parent, parentMember, sameId, sameTenant, status⟩ := consistent.decided other member
  obtain ⟨stored, tenant⟩ := find_recommendation_some.mp insertable.found
  have sameParent : parent = recommendation :=
    KeyedTable.eq_of_key parentMember (KeyedTable.mem_of_find stored) (by
      rw [sameId, sameRecommendation, KeyedTable.key_of_find stored])
  subst sameParent
  rw [insertable.waiting] at status
  have opened : other.status.isOpen = true := by
    cases current : other.status <;> simp [current, outcome, ApprovalStatus.isOpen] at status ⊢
  exact open_approval_none.mp insertable.freshEntry other member opened
    (sameTenant.symm.trans tenant) sameRecommendation

theorem insert_consistent (consistent : Consistent db)
    (insertable : Insertable db recommendation row) : Consistent (db.insertApproval row) where
  decided other member := by
    rcases KeyedTable.mem_of_mem_insert member with old | rfl
    · exact consistent.decided other old
    · obtain ⟨stored, tenant⟩ := find_recommendation_some.mp insertable.found
      have sameKey := KeyedTable.key_of_find stored
      refine ⟨recommendation, KeyedTable.mem_of_find stored, sameKey, tenant, ?_⟩
      rw [insertable.status, insertable.waiting]
      rfl
  single left leftMember right rightMember sameRecommendation := by
    rcases KeyedTable.mem_of_mem_insert leftMember with oldLeft | rfl
    · rcases KeyedTable.mem_of_mem_insert rightMember with oldRight | rfl
      · exact consistent.single left oldLeft right oldRight sameRecommendation
      · exact absurd sameRecommendation (insertable_first consistent insertable oldLeft)
    · rcases KeyedTable.mem_of_mem_insert rightMember with oldRight | rfl
      · exact absurd sameRecommendation.symm (insertable_first consistent insertable oldRight)
      · rfl
  answered parent member decided := by
    obtain ⟨other, otherMember, holds⟩ := consistent.answered parent member decided
    exact ⟨other, KeyedTable.mem_insert_of_mem otherMember, holds⟩

theorem insert_evolves : Evolves db (db.insertApproval row) where
  approvals other member := ⟨other, KeyedTable.mem_insert_of_mem member, rfl, fun _ => rfl⟩
  recommendations other member := ⟨other, member, rfl⟩
  clock := le_refl _

theorem insert_untouched {held : List ApprovalsKey}
    (approval : ApprovalsKey.approval row.id ∈ held)
    (entry : ApprovalsKey.openApproval row.tenantId row.recommendationId ∈ held)
    {key : ApprovalsKey} (free : key ∉ held) : Same key db (db.insertApproval row) := by
  cases key with
  | recommendation id => rfl
  | approval id =>
      have different : row.id ≠ id := fun same => free (same ▸ approval)
      simp [Same, ApprovalsDb.insertApproval, different]
  | openApproval tenantId recommendationId =>
      simp only [Same, open_approval_none]
      constructor
      · intro absent other member opened sameTenant sameRecommendation
        rcases KeyedTable.mem_of_mem_insert member with old | rfl
        · exact absent other old opened sameTenant sameRecommendation
        · subst sameTenant sameRecommendation
          exact free entry
      · intro absent other member
        exact absent other (KeyedTable.mem_insert_of_mem member)

end Insert

end CommitmentOptimizer.Approvals.ApprovalInvariants
