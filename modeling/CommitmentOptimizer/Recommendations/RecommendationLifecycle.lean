import CommitmentOptimizer.Foundations.KeyedTable
import CommitmentOptimizer.Foundations.SqlConstraints

/-!
# The recommendations table

Rows, CHECK constraints and the lifecycle trigger of `recommendations`
(migration 0019). Money columns travel through the program as decimal strings
of `bigint` values; the model keeps the integers. `NUMERIC(5,2)` percentages
are basis points and `NUMERIC(5,4)` scores are ten-thousandths.
-/

namespace CommitmentOptimizer.Recommendations.RecommendationLifecycle

open Foundations
open Foundations.SqlConstraints

set_option autoImplicit false

inductive Provider where
  | aws | azure | gcp
  deriving DecidableEq, Repr

inductive Instrument where
  | awsComputeSavingsPlan | awsReservedInstance | azureSavingsPlan | azureReservation
  | gcpCommittedUseDiscount
  deriving DecidableEq, Repr

/-- The pairs that `recommendations_provider_instrument_check` admits. -/
def Instrument.provider : Instrument → Provider
  | awsComputeSavingsPlan | awsReservedInstance => .aws
  | azureSavingsPlan | azureReservation => .azure
  | gcpCommittedUseDiscount => .gcp

inductive RecommendationType where
  | buy | renew | resize | sellOrExchange | noAction | manualReview
  deriving DecidableEq, Repr

inductive RiskBand where
  | low | medium | high | blocked
  deriving DecidableEq, Repr

inductive RecommendationStatus where
  | draft | ready | pendingApproval | approved | rejected | superseded | executed | expired
  deriving DecidableEq, Repr

/-- The explanation object the optimizer worker writes. -/
structure Explanation where
  baselineName : String
  bindingConstraints : List String
  priceTableVersionIds : List Uuid
  frontierUri : String
  deriving DecidableEq, Repr

/-- The columns the trigger freezes, in the order of its `ROW(...)`. -/
structure RecommendationIdentity where
  id : Uuid
  tenantId : Uuid
  optimizerRunId : Uuid
  recommendationType : RecommendationType
  provider : Provider
  instrument : Instrument
  serviceCode : String
  region : String
  termMonths : Int
  commitmentAmountCents : Int
  expectedSavingsCents : Int
  p95DownsideLossCents : Int
  utilizationP50Bps : Int
  utilizationP95Bps : Int
  confidenceScore : Int
  riskBand : RiskBand
  explanation : Explanation
  approvalRequired : Bool
  createdAt : Instant
  deriving DecidableEq, Repr

structure Recommendation extends RecommendationIdentity where
  status : RecommendationStatus
  updatedAt : Instant
  deriving DecidableEq, Repr

abbrev RecommendationTable := KeyedTable fun row : Recommendation => row.id

/-- `explanation::text` in the `jsonb` rendering: shorter keys first, a blank
after each colon and comma. No string in it needs an escape. -/
def Explanation.text (explanation : Explanation) : String :=
  let quoted (text : String) := "\"" ++ text ++ "\""
  let array (items : List String) := "[" ++ ", ".intercalate (items.map quoted) ++ "]"
  "\x7b" ++ ", ".intercalate
    ["\"frontier_uri\": " ++ quoted explanation.frontierUri,
     "\"baseline_name\": " ++ quoted explanation.baselineName,
     "\"binding_constraints\": " ++ array explanation.bindingConstraints,
     "\"price_table_version_ids\": " ++
       array (explanation.priceTableVersionIds.map uuidText)] ++ "\x7d"

def Recommendation.checks (row : Recommendation) : List (String × Bool) :=
  [("recommendations_provider_instrument_check", row.instrument.provider == row.provider),
   ("recommendations_text_fields_check",
     isCanonicalText 128 row.serviceCode && isCanonicalText 128 row.region),
   ("recommendations_economics_check",
     0 < row.termMonths && 0 ≤ row.commitmentAmountCents && 0 ≤ row.expectedSavingsCents &&
     0 ≤ row.p95DownsideLossCents &&
     0 ≤ row.utilizationP50Bps && row.utilizationP50Bps ≤ 10000 &&
     0 ≤ row.utilizationP95Bps && row.utilizationP95Bps ≤ 10000 &&
     0 ≤ row.confidenceScore && row.confidenceScore ≤ 10000),
   ("recommendations_approval_state_check",
     (!row.approvalRequired && (row.status == .draft || row.status == .ready ||
       row.status == .superseded)) || row.approvalRequired),
   ("recommendations_explanation_object_check", row.explanation.text.utf8ByteSize ≤ 65536),
   ("recommendations_timestamps_ordered_check", row.createdAt ≤ row.updatedAt)]

def terminal : RecommendationStatus → Bool
  | .rejected | .superseded | .executed | .expired => true
  | _ => false

def admitted : RecommendationStatus → RecommendationStatus → Bool
  | .draft, .ready | .draft, .pendingApproval | .draft, .superseded => true
  | .ready, .pendingApproval | .ready, .superseded => true
  | .pendingApproval, .approved | .pendingApproval, .rejected => true
  | .pendingApproval, .expired | .pendingApproval, .superseded => true
  | .approved, .executed | .approved, .superseded => true
  | _, _ => false

/-- `enforce_recommendation_lifecycle` for INSERT. `parent` is the provider and
instrument of the optimizer run, when the tenant has that run. -/
def enforceRecommendationInsert (parent : Option (Provider × Instrument))
    (new : Recommendation) : Except DbError Recommendation :=
  match parent with
  | some (provider, instrument) =>
      if provider ≠ new.provider ∨ instrument ≠ new.instrument then
        .error (raised "recommendation instrument must match optimizer run" "55000")
      else .ok new
  | none => .ok new

/-- `enforce_recommendation_lifecycle` for UPDATE. -/
def enforceRecommendationUpdate (clock : Instant) (old new : Recommendation) :
    Except DbError Recommendation :=
  if new.toRecommendationIdentity ≠ old.toRecommendationIdentity then
    .error (raised "recommendation economic identity is immutable" "55000")
  else if terminal old.status then
    .error (raised "recommendation is terminal" "55000")
  else if ¬ admitted old.status new.status then
    .error (raised "invalid recommendation status transition" "55000")
  else .ok { new with updatedAt := clock }

/-- INSERT of one row: trigger, CHECK constraints, primary key, foreign key. -/
def insertRecommendationRow (parent : Option (Provider × Instrument)) (new : Recommendation)
    (table : RecommendationTable) : Except DbError RecommendationTable := do
  let row ← enforceRecommendationInsert parent new
  checkAll row.checks
  require (table.find row.id).isNone (uniqueViolation "recommendations_pkey")
  require parent.isSome (foreignKeyViolation "recommendations_tenant_run_fkey")
  return table.insert row

/-- The row an UPDATE of `old` to `new` stores: trigger, then CHECK constraints. -/
def updateRecommendationRow (clock : Instant) (old new : Recommendation) :
    Except DbError Recommendation := do
  let row ← enforceRecommendationUpdate clock old new
  checkAll row.checks
  return row

/-- What an accepted UPDATE stores: the frozen columns of the old row, the new
status, and the statement's clock. -/
theorem update_recommendation_row_ok {clock : Instant} {old new row : Recommendation}
    (accepted : updateRecommendationRow clock old new = .ok row) :
    row.toRecommendationIdentity = old.toRecommendationIdentity ∧ row.status = new.status ∧
      row.updatedAt = clock ∧ admitted old.status new.status ∧ ¬ terminal old.status := by
  obtain ⟨enforced, triggered, accepted⟩ := bind_ok.mp accepted
  obtain ⟨_, _, stored⟩ := bind_ok.mp accepted
  cases stored
  unfold enforceRecommendationUpdate at triggered
  split_ifs at triggered with changed ended moved
  cases triggered
  exact ⟨not_not.mp changed, rfl, rfl, moved, ended⟩

theorem insert_recommendation_row_ok {parent : Option (Provider × Instrument)}
    {new : Recommendation} {table next : RecommendationTable}
    (accepted : insertRecommendationRow parent new table = .ok next) :
    next = table.insert new ∧ table.find new.id = none ∧
      parent = some (new.provider, new.instrument) ∧
      ∀ constraint ∈ new.checks, constraint.2 = true := by
  obtain ⟨enforced, triggered, accepted⟩ := bind_ok.mp accepted
  obtain ⟨_, checked, accepted⟩ := bind_ok.mp accepted
  obtain ⟨_, fresh, accepted⟩ := bind_ok.mp accepted
  obtain ⟨_, referenced, stored⟩ := bind_ok.mp accepted
  cases stored
  have present := require_ok.mp referenced
  cases parent with
  | none => cases present
  | some columns =>
      obtain ⟨provider, instrument⟩ := columns
      simp only [enforceRecommendationInsert] at triggered
      split_ifs at triggered with mismatch
      cases triggered
      obtain ⟨sameProvider, sameInstrument⟩ := not_or.mp mismatch
      refine ⟨rfl, Option.isNone_iff_eq_none.mp (require_ok.mp fresh), ?_, check_all_ok.mp checked⟩
      rw [not_not.mp sameProvider, not_not.mp sameInstrument]

end CommitmentOptimizer.Recommendations.RecommendationLifecycle
