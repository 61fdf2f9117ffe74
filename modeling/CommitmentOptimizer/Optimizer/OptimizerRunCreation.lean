import CommitmentOptimizer.Forecasting.ForecastRuns
import CommitmentOptimizer.Foundations.CalendarDates
import CommitmentOptimizer.PriceTables.PriceTableStatements

/-!
# Creation of an optimizer run

What `createRun` of `optimizer-runs-service.ts` reads, the snapshot it stores and
the INSERT branch of the lifecycle trigger of `optimizer_runs` (migration 0018).
-/

namespace CommitmentOptimizer.Optimizer.OptimizerRunCreation

open Foundations
open Foundations.CalendarDates
open Foundations.SqlConstraints
open Recommendations.RecommendationLifecycle
open Forecasting.ForecastRuns
open PriceTables.PriceTableVersions
open PriceTables.PriceTableItems
open PriceTables.PriceTableStatements
open OptimizerRuns

set_option autoImplicit false

inductive OptimizerPolicyStatus where
  | draft | active | archived
  deriving DecidableEq, Repr

/-- What a run reads of its policy (migration 0017). -/
structure OptimizerPolicy where
  id : Uuid
  tenantId : Uuid
  status : OptimizerPolicyStatus
  objective : String
  maxDownsideLossCents : Int
  minExpectedSavingsCents : Int
  maxUtilizationGapBps : Nat
  approvalThresholdCents : Int
  allowedInstruments : List Instrument
  config : Json
  deriving DecidableEq

abbrev OptimizerPolicyTable := KeyedTable fun row : OptimizerPolicy => row.id

inductive ScenarioStatus where
  | draft | ready | archived
  deriving DecidableEq, Repr

/-- What a run reads of its scenario (migration 0016). -/
structure Scenario where
  id : Uuid
  tenantId : Uuid
  status : ScenarioStatus
  shockConfig : Json
  deriving DecidableEq

abbrev ScenarioTable := KeyedTable fun row : Scenario => row.id

/-- The item that a recommendation was computed from, for the statements about it. -/
structure RecommendationSource where
  recommendationId : Uuid
  runId : Uuid
  item : PriceTableItem

/-- The database and the object store. An object is `none` when it is missing or no
JSON text; `drawn` are the identifiers that `randomUUID` has returned. -/
structure Shared extends PriceTableRows where
  clock : Instant
  tenants : Uuid → Bool
  users : Uuid → Uuid → Bool
  forecasts : ForecastRunTable
  policies : OptimizerPolicyTable
  scenarios : ScenarioTable
  runs : OptimizerRunTable
  recommendations : RecommendationTable
  objects : String → Option Json
  drawn : List Uuid
  sources : List RecommendationSource

def Shared.putObject (shared : Shared) (key : String) (value : Json) : Shared :=
  { shared with objects := Function.update shared.objects key (some value) }

def Shared.withPrices (shared : Shared) (tables : PriceTableRows) : Shared :=
  { shared with toPriceTableRows := tables }

structure OptimizerRunCreateInput where
  forecastRunId : Uuid
  scenarioId : Option Uuid
  optimizerPolicyId : Uuid
  provider : Provider
  instrument : Instrument
  priceTableVersionIds : Option (List Uuid)

section ResolveInputs

variable (tenantId : Uuid) (input : OptimizerRunCreateInput) (shared : Shared)

def forecastRun : Option ForecastRun :=
  (shared.forecasts.find input.forecastRunId).filter fun row => row.tenantId = tenantId

def policySnapshot : Option OptimizerPolicy :=
  (shared.policies.find input.optimizerPolicyId).filter fun row => row.tenantId = tenantId

def scenarioSnapshot : Option Scenario :=
  input.scenarioId.bind fun id =>
    (shared.scenarios.find id).filter fun row => row.tenantId = tenantId

/-- `ORDER BY effective_from DESC, id DESC`. -/
def laterFirst (left right : PriceTableVersion) : Prop :=
  right.effectiveFrom < left.effectiveFrom ∨
    right.effectiveFrom = left.effectiveFrom ∧ right.id ≤ left.id

instance (left right : PriceTableVersion) : Decidable (laterFirst left right) :=
  inferInstanceAs (Decidable (_ ∨ _))

def priceSnapshots : Option (List PriceTableVersion) :=
  let rows := (shared.versions.rows.filter fun row =>
    row.scope = ⟨tenantId, input.provider, input.instrument⟩ && row.status = .active &&
      input.priceTableVersionIds.all fun ids => ids.contains row.id).insertionSort laterFirst
  if input.priceTableVersionIds.any fun ids => rows.length ≠ ids.length then none else some rows

/-- The four queries run at the same time; an answer is `none` until it is there. -/
structure InputAnswers where
  forecast : Option (Option ForecastRun)
  policy : Option (Option OptimizerPolicy)
  scenario : Option (Option Scenario)
  prices : Option (Option (List PriceTableVersion))

def InputAnswers.pending : InputAnswers := ⟨none, none, none, none⟩

inductive InputQuery where
  | forecast | policy | scenario | prices
  deriving DecidableEq, Repr

def InputAnswers.ask (answers : InputAnswers) : InputQuery → InputAnswers
  | .forecast => { answers with forecast := answers.forecast <|> some (forecastRun tenantId input shared) }
  | .policy => { answers with policy := answers.policy <|> some (policySnapshot tenantId input shared) }
  | .scenario =>
      { answers with scenario := answers.scenario <|> some (scenarioSnapshot tenantId input shared) }
  | .prices => { answers with prices := answers.prices <|> some (priceSnapshots tenantId input shared) }

structure ResolvedInputs where
  forecast : ForecastRun
  policy : OptimizerPolicy
  scenario : Option Scenario
  prices : List PriceTableVersion

inductive CreateRefusal where
  | notFound | inputInvalid
  deriving DecidableEq, Repr

/-- `resolveInputs` once all four queries have answered. -/
def resolveInputs (input : OptimizerRunCreateInput) (forecast : Option ForecastRun)
    (policy : Option OptimizerPolicy) (scenario : Option Scenario)
    (prices : Option (List PriceTableVersion)) : Except CreateRefusal ResolvedInputs :=
  match forecast, policy, prices with
  | some forecast, some policy, some prices =>
      if input.scenarioId.isSome ∧ scenario.isNone then .error .notFound
      else if forecast.status ≠ .completed then .error .inputInvalid
      else if policy.status ≠ .active then .error .inputInvalid
      else if input.instrument ∉ policy.allowedInstruments then .error .inputInvalid
      else if scenario.any fun row => row.status ≠ .ready then .error .inputInvalid
      else if prices = [] then .error .inputInvalid
      else .ok ⟨forecast, policy, scenario, prices⟩
  | _, _, _ => .error .notFound

end ResolveInputs

section Texts

def providerText : Provider → String
  | .aws => "aws"
  | .azure => "azure"
  | .gcp => "gcp"

def instrumentText : Instrument → String
  | .awsComputeSavingsPlan => "aws_compute_savings_plan"
  | .awsReservedInstance => "aws_reserved_instance"
  | .azureSavingsPlan => "azure_savings_plan"
  | .azureReservation => "azure_reservation"
  | .gcpCommittedUseDiscount => "gcp_committed_use_discount"

def centsText (cents : Int) : Json := .string (toString cents)

/-- `to_char(max_utilization_gap_pct, 'FM990.00')`. -/
def percentText (bps : Nat) : Json :=
  .string (toString (bps / 100) ++ "." ++ padZeros 2 (toString (bps % 100)))

def optionJson {Value : Type} (json : Value → Json) : Option Value → Json
  | none => .null
  | some value => json value

end Texts

section Snapshot

def forecastJson (row : ForecastRun) : Json := .object
  [("id", .string (uuidText row.id)), ("status", .string "completed"),
   ("outputUri", optionJson .string row.outputUri), ("qualityMetrics", row.qualityMetrics)]

def policyJson (row : OptimizerPolicy) : Json := .object
  [("id", .string (uuidText row.id)), ("status", .string "active"),
   ("objective", .string row.objective),
   ("maxDownsideLossCents", centsText row.maxDownsideLossCents),
   ("minExpectedSavingsCents", centsText row.minExpectedSavingsCents),
   ("maxUtilizationGapPct", percentText row.maxUtilizationGapBps),
   ("approvalThresholdCents", centsText row.approvalThresholdCents),
   ("allowedInstruments",
     .array (row.allowedInstruments.map fun instrument => .string (instrumentText instrument))),
   ("config", row.config)]

def scenarioJson (row : Scenario) : Json := .object
  [("id", .string (uuidText row.id)), ("status", .string "ready"), ("shockConfig", row.shockConfig)]

def priceJson (row : PriceTableVersion) : Json := .object
  [("id", .string (uuidText row.id)), ("status", .string "active"),
   ("provider", .string (providerText row.provider)),
   ("instrument", .string (instrumentText row.instrument)), ("checksum", .string row.checksum),
   ("effectiveFrom", .string (dateText row.effectiveFrom)),
   ("effectiveTo", optionJson (fun day => .string (dateText day)) row.effectiveTo)]

def inputSnapshotUri (runId : Uuid) : String := "optimizer-runs/" ++ uuidText runId ++ "/input.json"

/-- The object that `writeSnapshot` stores. -/
def inputSnapshot (runId : Uuid) (input : OptimizerRunCreateInput) (resolved : ResolvedInputs)
    (randomSeed : Int) : Json := .object
  [("contract_version", .string "optimizer-run-input-snapshot/v1"),
   ("run_id", .string (uuidText runId)), ("forecast_run", forecastJson resolved.forecast),
   ("policy", policyJson resolved.policy), ("scenario", optionJson scenarioJson resolved.scenario),
   ("provider", .string (providerText input.provider)),
   ("instrument", .string (instrumentText input.instrument)),
   ("price_table_versions", .array (resolved.prices.map priceJson)),
   ("random_seed", centsText randomSeed)]

end Snapshot

section Insert

/-- The row that `create` inserts. -/
def newOptimizerRun (runId tenantId createdByUserId : Uuid) (input : OptimizerRunCreateInput)
    (priceTableVersionIds : List Uuid) (randomSeed : Int) (now : Instant) : OptimizerRun where
  id := runId
  tenantId := tenantId
  forecastRunId := input.forecastRunId
  scenarioId := input.scenarioId
  optimizerPolicyId := input.optimizerPolicyId
  provider := input.provider
  instrument := input.instrument
  priceTableVersionIds := priceTableVersionIds
  randomSeed := randomSeed
  inputSnapshotUri := inputSnapshotUri runId
  createdByUserId := some createdByUserId
  createdAt := now
  status := .queued
  outputUri := none
  frontierUri := none
  infeasibilityDetails := .object []
  errorDetails := .object []
  updatedAt := now

/-- The versions that the trigger counts. -/
def eligibleVersions (versions : PriceTableVersionTable) (new : OptimizerRun) :
    List PriceTableVersion :=
  versions.rows.filter fun row => new.priceTableVersionIds.contains row.id &&
    row.scope = ⟨new.tenantId, new.provider, new.instrument⟩ && row.status = .active

/-- `enforce_optimizer_run_lifecycle` for INSERT. -/
def enforceOptimizerRunInsert (shared : Shared) (new : OptimizerRun) : Except DbError Unit := do
  require (new.status == .queued) (raised "optimizer runs must be created as queued" "23514")
  require (((shared.forecasts.find new.forecastRunId).filter
      fun row => row.tenantId = new.tenantId).all fun row => row.status = .completed)
    (raised "optimizer runs require a completed forecast" "55000")
  require (((shared.policies.find new.optimizerPolicyId).filter
      fun row => row.tenantId = new.tenantId).all fun row => row.status = .active)
    (raised "optimizer runs require an active policy" "55000")
  require ((new.scenarioId.bind fun id => (shared.scenarios.find id).filter
      fun row => row.tenantId = new.tenantId).all fun row => row.status = .ready)
    (raised "optimizer runs require a ready scenario" "55000")
  require ((eligibleVersions shared.versions new).length == new.priceTableVersionIds.length)
    (raised "optimizer run price versions are invalid" "55000")

def optimizerRunForeignKeys (shared : Shared) (new : OptimizerRun) : Except DbError Unit := do
  require (shared.tenants new.tenantId) (foreignKeyViolation "optimizer_runs_tenant_id_fkey")
  require ((shared.forecasts.find new.forecastRunId).any fun row => row.tenantId = new.tenantId)
    (foreignKeyViolation "optimizer_runs_tenant_forecast_fkey")
  require (new.scenarioId.all fun id =>
      (shared.scenarios.find id).any fun row => row.tenantId = new.tenantId)
    (foreignKeyViolation "optimizer_runs_tenant_scenario_fkey")
  require ((shared.policies.find new.optimizerPolicyId).any
      fun row => row.tenantId = new.tenantId)
    (foreignKeyViolation "optimizer_runs_tenant_policy_fkey")
  require (new.createdByUserId.all fun id => shared.users new.tenantId id)
    (foreignKeyViolation "optimizer_runs_created_by_tenant_fkey")

/-- INSERT of one row: trigger, CHECK constraints, primary key, foreign keys. -/
def insertOptimizerRunRow (octets : Json → Nat) (shared : Shared) (new : OptimizerRun) :
    Except DbError OptimizerRunTable := do
  require (isBigint new.randomSeed) (outOfRange "bigint")
  enforceOptimizerRunInsert shared new
  checkAll (new.checks octets)
  require (shared.runs.find new.id).isNone (uniqueViolation "optimizer_runs_pkey")
  optimizerRunForeignKeys shared new
  return shared.runs.insert new

theorem insert_optimizer_run_row_queued {octets : Json → Nat} {shared : Shared}
    {new : OptimizerRun} {runs : OptimizerRunTable}
    (accepted : insertOptimizerRunRow octets shared new = .ok runs) : new.status = .queued := by
  obtain ⟨_, _, accepted⟩ := bind_ok.mp accepted
  obtain ⟨_, triggered, _⟩ := bind_ok.mp accepted
  obtain ⟨_, queued, _⟩ := bind_ok.mp triggered
  exact beq_iff_eq.mp (require_ok.mp queued)

/-- An accepted run is new, has as many active versions as it names. -/
theorem insert_optimizer_run_row_ok {octets : Json → Nat} {shared : Shared} {new : OptimizerRun}
    {runs : OptimizerRunTable} (accepted : insertOptimizerRunRow octets shared new = .ok runs) :
    runs = shared.runs.insert new ∧ shared.runs.find new.id = none ∧
      (eligibleVersions shared.versions new).length = new.priceTableVersionIds.length ∧
      new.priceTableVersionIds.Nodup := by
  obtain ⟨_, _, accepted⟩ := bind_ok.mp accepted
  obtain ⟨_, triggered, accepted⟩ := bind_ok.mp accepted
  obtain ⟨_, checked, accepted⟩ := bind_ok.mp accepted
  obtain ⟨_, fresh, accepted⟩ := bind_ok.mp accepted
  obtain ⟨_, _, stored⟩ := bind_ok.mp accepted
  obtain ⟨_, _, triggered⟩ := bind_ok.mp triggered
  obtain ⟨_, _, triggered⟩ := bind_ok.mp triggered
  obtain ⟨_, _, triggered⟩ := bind_ok.mp triggered
  obtain ⟨_, _, counted⟩ := bind_ok.mp triggered
  have canonical := check_all_ok.mp checked ("optimizer_runs_price_versions_check", _) (by
    rw [OptimizerRun.checks]
    exact List.mem_cons_of_mem _ List.mem_cons_self)
  simp only [Bool.and_eq_true, decide_eq_true_eq] at canonical
  exact ⟨(Except.ok.inj stored).symm, Option.isNone_iff_eq_none.mp (require_ok.mp fresh),
    beq_iff_eq.mp (require_ok.mp counted), canonical.2⟩

end Insert

end CommitmentOptimizer.Optimizer.OptimizerRunCreation
