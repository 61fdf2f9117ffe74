import CommitmentOptimizer.Approvals.ApprovalVerification

/-!
# Safety of the approval lifecycle

What every interleaving of the approval transactions keeps, and when a decision
respects the approval's expiry: `decide` compares no timestamp with
`expires_at`, so a decision is late exactly when its transaction still holds a
pending approval after the window has ended.
-/

namespace CommitmentOptimizer.Approvals.ApprovalSafety

open Foundations
open Foundations.Schedules
open Foundations.SqlConstraints
open Foundations.RowLocking
open Recommendations.RecommendationLifecycle
open ApprovalLifecycle
open ApprovalTransactions
open ApprovalInvariants
open ApprovalVerification

set_option autoImplicit false

/-- At most one approval of a recommendation is pending. -/
def OnePending (db : ApprovalsDb) : Prop :=
  ∀ left ∈ db.approvals, ∀ right ∈ db.approvals, left.status = .pending →
    right.status = .pending → left.recommendationId = right.recommendationId → left = right

/-- The recommendation of a pending approval waits for it. -/
def PendingWaits (db : ApprovalsDb) : Prop :=
  ∀ row ∈ db.approvals, row.status = .pending → ∃ recommendation ∈ db.recommendations,
    recommendation.id = row.recommendationId ∧ recommendation.tenantId = row.tenantId ∧
      recommendation.status = .pendingApproval

/-- An approved recommendation has exactly one approved approval. -/
def ApprovedOnce (db : ApprovalsDb) : Prop :=
  ∀ recommendation ∈ db.recommendations, recommendation.status = .approved →
    ∃! row, row ∈ db.approvals ∧ row.recommendationId = recommendation.id ∧
      row.status = .approved

/-- An approval that is not pending in `before` is the same in `after`. -/
def LeftPendingOnce (before after : ApprovalsDb) : Prop :=
  ∀ row ∈ before.approvals, row.status ≠ .pending →
    ∃ later ∈ after.approvals, later.id = row.id ∧ later.status = row.status

/-- An approval that leaves `pending` takes its recommendation from
`pending_approval` to the same outcome. -/
def SameOutcome (before after : ApprovalsDb) : Prop :=
  ∀ row ∈ before.approvals, row.status = .pending → ∀ later ∈ after.approvals,
    later.id = row.id → later.status ≠ .pending →
    ∃ waiting ∈ before.recommendations, ∃ settled ∈ after.recommendations,
      waiting.id = row.recommendationId ∧ settled.id = row.recommendationId ∧
      waiting.status = .pendingApproval ∧ outcome later.status = some settled.status

theorem consistent_one_pending {db : ApprovalsDb} (consistent : Consistent db) : OnePending db :=
  fun left leftMember right rightMember _ _ same =>
    consistent.single left leftMember right rightMember same

theorem consistent_pending_waits {db : ApprovalsDb} (consistent : Consistent db) :
    PendingWaits db := by
  intro row member waiting
  obtain ⟨recommendation, parent, sameId, sameTenant, status⟩ := consistent.decided row member
  rw [waiting] at status
  exact ⟨recommendation, parent, sameId, sameTenant, (Option.some.inj status).symm⟩

theorem outcome_approved {status : ApprovalStatus} (approved : outcome status = some .approved) :
    status = .approved := by
  cases status <;> simp [outcome] at approved ⊢

theorem consistent_approved_once {db : ApprovalsDb} (consistent : Consistent db) :
    ApprovedOnce db := by
  intro recommendation member approved
  obtain ⟨row, rowMember, answers, status⟩ :=
    consistent.answered recommendation member (Or.inl approved)
  rw [approved] at status
  refine ⟨row, ⟨rowMember, answers, outcome_approved status⟩, ?_⟩
  rintro other ⟨otherMember, otherAnswers, _⟩
  exact consistent.single other otherMember row rowMember (otherAnswers.trans answers.symm)

theorem evolves_left_pending_once {before after : ApprovalsDb} (evolves : Evolves before after) :
    LeftPendingOnce before after := by
  intro row member left
  obtain ⟨later, laterMember, same, kept⟩ := evolves.approvals row member
  exact ⟨later, laterMember, congrArg ApprovalIdentity.id same, kept left⟩

theorem consistent_same_outcome {before after : ApprovalsDb} (first : Consistent before)
    (second : Consistent after) (evolves : Evolves before after) : SameOutcome before after := by
  intro row member waiting later laterMember sameId _
  obtain ⟨parent, parentMember, parentId, _, parentStatus⟩ :=
    consistent_pending_waits first row member waiting
  obtain ⟨settled, settledMember, settledId, _, status⟩ := second.decided later laterMember
  obtain ⟨image, imageMember, same, _⟩ := evolves.approvals row member
  have sameRow : image = later := KeyedTable.eq_of_key imageMember laterMember
    ((congrArg ApprovalIdentity.id same).trans sameId.symm)
  rw [sameRow] at same
  exact ⟨parent, parentMember, settled, settledMember, parentId,
    settledId.trans (congrArg ApprovalIdentity.recommendationId same), parentStatus, status⟩

variable {snapshotOctets : ApprovalSnapshot → Nat}

theorem reachable_system_sound {db : ApprovalsDb} {system : ApprovalsSystem} (fresh : Fresh db)
    (reached : Reachable (approvalsStep snapshotOctets) (System.initial db) system) :
    system.Sound approvalsContract :=
  reachable_sound (approvals_verified snapshotOctets) (initial_sound (fresh_consistent fresh))
    reached

/-- The approval lifecycle, over every interleaving of its transactions. -/
theorem approval_lifecycle_safe {db : ApprovalsDb} {system : ApprovalsSystem} (fresh : Fresh db)
    (reached : Reachable (approvalsStep snapshotOctets) (System.initial db) system) :
    OnePending system.db ∧ PendingWaits system.db ∧ ApprovedOnce system.db ∧
      (∀ later, Reachable (approvalsStep snapshotOctets) system later →
        LeftPendingOnce system.db later.db) ∧
      ∀ action next, approvalsStep snapshotOctets system action = some next →
        SameOutcome system.db next.db := by
  have sound := reachable_system_sound fresh reached
  have verified := approvals_verified snapshotOctets
  refine ⟨consistent_one_pending sound.invariant, consistent_pending_waits sound.invariant,
    consistent_approved_once sound.invariant, ?_, ?_⟩
  · intro later onward
    exact evolves_left_pending_once (reachable_evolves verified sound onward)
  · intro action next taken
    exact consistent_same_outcome sound.invariant (step_sound verified sound taken).invariant
      (step_evolves verified sound taken)

section Example

/-- A recommendation that waits for its first approval. -/
def waitingRecommendation : Recommendation where
  id := 1
  tenantId := 7
  optimizerRunId := 3
  recommendationType := .buy
  provider := .aws
  instrument := .awsReservedInstance
  serviceCode := "AmazonEC2"
  region := "eu-west-1"
  termMonths := 12
  commitmentAmountCents := 1000
  expectedSavingsCents := 100
  p95DownsideLossCents := 0
  utilizationP50Bps := 10000
  utilizationP95Bps := 10000
  confidenceScore := 9000
  riskBand := .low
  explanation := ⟨"on_demand", ["risk_budget"], [5], "optimizer-runs/3/frontier.json"⟩
  approvalRequired := true
  createdAt := 0
  status := .pendingApproval
  updatedAt := 0

def waitingDb : ApprovalsDb where
  recommendations := KeyedTable.empty.insert waitingRecommendation
  approvals := KeyedTable.empty
  directory :=
    { tenant := fun _ => some ⟨"acme", "Acme", "Acme", none, none, none, none, true⟩
      user := fun _ _ => none
      optimizerRun := fun _ _ => none }
  clock := 100000

theorem waiting_db_fresh : Fresh waitingDb where
  approvals := KeyedTable.not_mem_empty
  recommendations := by decide

/-- Session 0 requests an approval that expires 100 ms later, `elapsed` passes,
and session 1 approves it. -/
def approvedAfter (elapsed : Nat) : List ApprovalsAction :=
  .start 0 (.createPending 7 ⟨2, 1, none, none, none, 200000⟩) :: List.replicate 12 (.advance 0) ++
    .drift (.tick elapsed) :: .start 1 (.decide 7 ⟨2, "within budget"⟩ .approved) ::
    List.replicate 15 (.advance 1)

/-- The length of the only packet the example stores. -/
def exampleOctets : ApprovalSnapshot → Nat := fun _ => 1023

end Example

/-- A run that ends with one approved approval. -/
theorem approval_lifecycle_safe_approved :
    ∃ system, execute (approvalsStep exampleOctets) (System.initial waitingDb)
        (approvedAfter 0) = some system ∧
      (system.db.approvals.rows.map fun row => row.status) = [.approved] ∧
      OnePending system.db ∧ PendingWaits system.db ∧ ApprovedOnce system.db := by
  have ends : ((execute (approvalsStep exampleOctets) (System.initial waitingDb)
      (approvedAfter 0)).map fun system => system.db.approvals.rows.map fun row => row.status) =
      some [.approved] := by decide +kernel
  obtain ⟨system, arrived, statuses⟩ := Option.map_eq_some_iff.mp ends
  have safe := approval_lifecycle_safe waiting_db_fresh ⟨_, arrived⟩
  exact ⟨system, arrived, statuses, safe.1, safe.2.1, safe.2.2.1⟩

section Expiry

/-- What moves to approved or rejected moves before the approval expires. -/
def MovesInTime (before after : ApprovalsDb) : Prop :=
  (∀ row ∈ before.approvals, ∀ later ∈ after.approvals, later.id = row.id →
    later.status = .approved ∨ later.status = .rejected → row.status ≠ later.status →
    before.clock < row.expiresAt) ∧
  ∀ recommendation ∈ before.recommendations, ∀ later ∈ after.recommendations,
    later.id = recommendation.id → later.status = .approved ∨ later.status = .rejected →
    recommendation.status ≠ later.status →
    ∃ row ∈ before.approvals, row.recommendationId = recommendation.id ∧
      before.clock < row.expiresAt

def DecidesInTime (snapshotOctets : ApprovalSnapshot → Nat) (system : ApprovalsSystem)
    (action : ApprovalsAction) : Prop :=
  ∀ next, approvalsStep snapshotOctets system action = some next → MovesInTime system.db next.db

/-- No decide transaction holds a pending approval whose window has ended. -/
def NoLateDecision (system : ApprovalsSystem) : Prop :=
  ∀ id session tenantId input status, system.session id = some session →
    session.request = .decide tenantId input status →
    ∀ row ∈ system.db.approvals, row.id = input.approvalId → row.status = .pending →
      system.owner (.approval row.id) = some id → system.db.clock < row.expiresAt

/-- A step that decides an approval is the commit of a decide transaction that
holds it pending. -/
theorem deciding_step {system next : ApprovalsSystem} {action : ApprovalsAction}
    (sound : system.Sound approvalsContract)
    (taken : approvalsStep snapshotOctets system action = some next) {later : Approval}
    (member : later ∈ next.db.approvals)
    (decided : later.status = .approved ∨ later.status = .rejected) :
    ∃ row ∈ system.db.approvals, row.toApprovalIdentity = later.toApprovalIdentity ∧
      (row.status = later.status ∨
        row.status = .pending ∧ ∃ id session tenantId input status,
          system.session id = some session ∧ session.request = .decide tenantId input status ∧
          row.id = input.approvalId ∧ system.owner (.approval row.id) = some id) := by
  rcases step_database taken with unchanged | ⟨event, _, drifted⟩ |
    ⟨id, session, value, _, present, standing, committed⟩
  · exact ⟨later, unchanged ▸ member, rfl, Or.inl rfl⟩
  · have kept : later ∈ system.db.approvals := by
      rw [drifted] at member
      cases event <;> exact member
    exact ⟨later, kept, rfl, Or.inl rfl⟩
  · obtain ⟨_, _, untouched, promised⟩ := commit_sound sound present standing
    rw [committed] at member
    have rowOwned : ∀ row ∈ system.db.approvals,
        row.toApprovalIdentity = later.toApprovalIdentity → row.status = .pending →
        system.owner (.approval row.id) = some id := by
      intro row rowMember same waiting
      by_contra notOwned
      have sameFind : system.db.approvals.find row.id =
          (session.pending system.db).approvals.find row.id := untouched (.approval row.id) notOwned
      have laterId : later.id = row.id := (congrArg ApprovalIdentity.id same).symm
      have present := KeyedTable.find_key member
      rw [laterId, ← sameFind, KeyedTable.find_key rowMember] at present
      rw [← Option.some.inj present, waiting] at decided
      rcases decided with approved | rejected
      · cases approved
      · cases rejected
    cases requested : session.request with
    | decide tenantId input status =>
        rw [requested] at promised
        obtain ⟨row, rowMember, same, kept | ⟨named, waiting⟩⟩ := promised.1 later member decided
        · exact ⟨row, rowMember, same, Or.inl kept⟩
        · exact ⟨row, rowMember, same, Or.inr ⟨waiting, id, session, tenantId, input, status,
            present, requested, named, rowOwned row rowMember same waiting⟩⟩
    | _ =>
        rw [requested] at promised
        obtain ⟨row, rowMember, same, kept | ⟨never, _⟩⟩ := promised later member decided
        · exact ⟨row, rowMember, same, Or.inl kept⟩
        · exact never.elim

theorem in_time_of_no_late_decision {system : ApprovalsSystem} {action : ApprovalsAction}
    (sound : system.Sound approvalsContract) (early : NoLateDecision system) :
    DecidesInTime snapshotOctets system action := by
  intro next taken
  have consistent := (step_sound (approvals_verified snapshotOctets) sound taken).invariant
  have origin : ∀ later ∈ next.db.approvals,
      later.status = .approved ∨ later.status = .rejected →
      ∃ row ∈ system.db.approvals, row.toApprovalIdentity = later.toApprovalIdentity ∧
        (row.status = later.status ∨ system.db.clock < row.expiresAt) := by
    intro later member decided
    obtain ⟨row, rowMember, same, kept | ⟨waiting, id, session, tenantId, input, status, present,
      requested, named, owned⟩⟩ := deciding_step sound taken member decided
    · exact ⟨row, rowMember, same, Or.inl kept⟩
    · exact ⟨row, rowMember, same, Or.inr (early id session tenantId input status present requested
        row rowMember named waiting owned)⟩
  constructor
  · intro row member later laterMember sameId decided moved
    obtain ⟨before, beforeMember, same, kept | inTime⟩ := origin later laterMember decided
    · have sameRow : before = row := KeyedTable.eq_of_key beforeMember member
        ((congrArg ApprovalIdentity.id same).trans sameId)
      exact absurd (sameRow ▸ kept) moved
    · have sameRow : before = row := KeyedTable.eq_of_key beforeMember member
        ((congrArg ApprovalIdentity.id same).trans sameId)
      exact sameRow ▸ inTime
  · intro recommendation member later laterMember sameId decided moved
    obtain ⟨answer, answerMember, answers, status⟩ := consistent.answered later laterMember decided
    have answerDecided : answer.status = .approved ∨ answer.status = .rejected := by
      cases current : answer.status <;> simp [current, outcome] at status ⊢ <;>
        simp [← status] at decided
    obtain ⟨before, beforeMember, same, kept | inTime⟩ := origin answer answerMember answerDecided
    · obtain ⟨parent, parentMember, parentId, _, parentStatus⟩ :=
        sound.invariant.decided before beforeMember
      have sameParent : parent = recommendation := KeyedTable.eq_of_key parentMember member (by
        rw [parentId, congrArg ApprovalIdentity.recommendationId same, answers, sameId])
      rw [kept, status, sameParent] at parentStatus
      exact absurd (Option.some.inj parentStatus).symm moved
    · exact ⟨before, beforeMember, (congrArg ApprovalIdentity.recommendationId same).trans
        (answers.trans sameId), inTime⟩

/-- In every run without a late decide transaction, every decision is in time. -/
theorem decides_in_time_of_no_late_decision {db : ApprovalsDb} {schedule : List ApprovalsAction}
    (fresh : Fresh db)
    (early : Along (approvalsStep snapshotOctets) (fun system _ => NoLateDecision system)
      (System.initial db) schedule) :
    Along (approvalsStep snapshotOctets) (DecidesInTime snapshotOctets) (System.initial db)
      schedule :=
  along_implies
    (fun _ _ _ sound _ taken => step_sound (approvals_verified snapshotOctets) sound taken)
    (fun _ _ sound early => in_time_of_no_late_decision sound early)
    (initial_sound (fresh_consistent fresh)) early

instance (before after : ApprovalsDb) : Decidable (MovesInTime before after) :=
  inferInstanceAs (Decidable (_ ∧ _))

instance (system : ApprovalsSystem) (action : ApprovalsAction) :
    Decidable (DecidesInTime snapshotOctets system action) :=
  inferInstanceAs (Decidable (∀ next, approvalsStep snapshotOctets system action = some next →
    MovesInTime system.db next.db))

theorem no_late_decision_of_open {system : ApprovalsSystem}
    (open_ : ∀ row ∈ system.db.approvals, system.db.clock < row.expiresAt) :
    NoLateDecision system := by
  intro id session tenantId input status _ _ row member _ _ _
  exact open_ row member

/-- A decision before the expiry. -/
theorem decides_in_time_approved :
    Along (approvalsStep exampleOctets) (DecidesInTime exampleOctets) (System.initial waitingDb)
      (approvedAfter 0) := by
  have open_ : Along (approvalsStep exampleOctets)
      (fun system _ => ∀ row ∈ system.db.approvals, system.db.clock < row.expiresAt)
      (System.initial waitingDb) (approvedAfter 0) := by decide +kernel
  exact decides_in_time_of_no_late_decision waiting_db_fresh
    (along_mono (fun system _ => no_late_decision_of_open) open_)

/-- An approval is approved 50 ms after it expired. -/
theorem late_decision_commits :
    ¬ ∀ (db : ApprovalsDb) (schedule : List ApprovalsAction), Fresh db →
      Along (approvalsStep exampleOctets) (DecidesInTime exampleOctets) (System.initial db)
        schedule := by
  intro always
  have inTime := always waitingDb (approvedAfter 150000) waiting_db_fresh
  revert inTime
  decide +kernel

end Expiry

end CommitmentOptimizer.Approvals.ApprovalSafety
