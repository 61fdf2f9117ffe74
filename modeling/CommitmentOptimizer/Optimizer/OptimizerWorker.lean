import CommitmentOptimizer.Foundations.FaultyWorkers
import CommitmentOptimizer.Optimizer.OptimizerRunCreation

/-!
# The optimizer worker and the requests beside it

`processNext` of `optimizer-worker.ts`, `createRun` of `optimizer-runs-service.ts`
and `activatePriceTable` of `price-tables-service.ts` over the database and the
object store, one step for each call they await.
-/

namespace CommitmentOptimizer.Optimizer.OptimizerWorker

open Foundations
open Foundations.CalendarDates
open Foundations.FaultyWorkers
open Foundations.JobQueue
open Foundations.SqlConstraints
open Recommendations.RecommendationLifecycle
open Forecasting.ForecastRuns
open PriceTables.PriceTableVersions
open PriceTables.PriceTableItems
open PriceTables.PriceTableTransactions
open PriceTables.PriceTableStatements
open OptimizerRuns
open Candidates
open OptimizerRunCreation

set_option autoImplicit false

/-- `octets` is the length of a `jsonb` value's text; `order` is what
`ORDER BY region, sku, term_months, payment_option` makes of the rows it finds: the
collation and the order of equal rows are the database's. -/
structure OptimizerRuntime where
  octets : Json → Nat
  defaultSeed : Int
  staleDays : Nat
  order : List PriceTableItem → List PriceTableItem
  permutes : ∀ rows, (order rows).Perm rows

section PriceItems

/-- The condition of `listFrozenPriceItems`. -/
def isFrozenItem (run : OptimizerRun) (item : PriceTableItem) : Bool :=
  item.tenantId = run.tenantId && run.priceTableVersionIds.contains item.priceTableVersionId &&
    item.provider = run.provider && item.instrument = run.instrument

def listFrozenPriceItems (runtime : OptimizerRuntime) (run : OptimizerRun)
    (items : PriceTableItemTable) : List PriceTableItem :=
  runtime.order (items.rows.filter (isFrozenItem run))

def optimizerPriceItem (row : PriceTableItem) : OptimizerPriceItem where
  sku := row.sku
  region := row.region
  termMonths := row.termMonths
  paymentOption := row.paymentOption
  hourlyRateCents := row.hourlyRateCents
  upfrontCents := row.upfrontCents
  coverageRules := row.coverageRules

/-- The candidates of the rows with the row that each was evaluated from. -/
def evaluatedRows (run : OptimizerRun) (snapshot forecast : Json) (rows : List PriceTableItem) :
    List (PriceTableItem × CommitmentInstrumentCandidate) :=
  rows.flatMap fun row =>
    ((evaluateItems run snapshot forecast [optimizerPriceItem row]).getD []).map
      fun candidate => (row, candidate)

/-- The row that the selected candidate was evaluated from. -/
def selectedRow (run : OptimizerRun) (snapshot forecast : Json) (rows : List PriceTableItem) :
    Option PriceTableItem :=
  (((evaluatedRows run snapshot forecast rows).insertionSort fun left right =>
    compareCandidates left.2 right.2 ≤ 0).find? fun pair => pair.2.feasible).map Prod.fst

end PriceItems

section Outputs

def paymentOptionText : PaymentOption → String
  | .noUpfront => "no_upfront"
  | .partialUpfront => "partial_upfront"
  | .allUpfront => "all_upfront"
  | .monthly => "monthly"

def riskBandText : RiskBand → String
  | .low => "low"
  | .medium => "medium"
  | .high => "high"
  | .blocked => "blocked"

/-- Both parts of a negative value carry the sign. -/
def formatBps (value : Int) : String :=
  let fraction := toString (value.tmod 100)
  toString (value.tdiv 100) ++ "." ++ padZeros 2 fraction

def candidateJson (candidate : CommitmentInstrumentCandidate) : Json := .object
  [("provider", .string (providerText candidate.provider)),
   ("instrument", .string (instrumentText candidate.instrument)),
   ("service_code", .string candidate.serviceCode), ("region", .string candidate.region),
   ("term_months", .number (some candidate.termMonths)),
   ("payment_option", .string (paymentOptionText candidate.paymentOption)),
   ("commitment_amount_cents", centsText candidate.commitmentAmountCents),
   ("expected_savings_cents", centsText candidate.expectedSavingsCents),
   ("p95_downside_loss_cents", centsText candidate.p95DownsideLossCents),
   ("utilization_p50_pct", .string (formatBps candidate.utilizationP50Bps)),
   ("utilization_p95_pct", .string (formatBps candidate.utilizationP95Bps)),
   ("confidence_score", .string "0.9000"),
   ("risk_band", .string (riskBandText candidate.riskBand)),
   ("feasible", .bool candidate.feasible),
   ("binding_constraints", .array (candidate.bindingConstraints.map .string))]

def maxBigInt (values : List Int) : Int := values.tail.foldl max (values.headD 0)
def minBigInt (values : List Int) : Int := values.tail.foldl min (values.headD 0)

def buildFrontier (run : OptimizerRun) (candidates : List CommitmentInstrumentCandidate) : Json :=
  let selected := selectCandidate candidates
  .object
    [("schema_version", .string "optimizer-frontier:v1"),
     ("optimizer_run_id", .string (uuidText run.id)),
     ("summary", .object
       [("candidate_count", .number (some candidates.length)),
        ("feasible_count", .number (some (candidates.filter (·.feasible)).length)),
        ("best_expected_savings_cents",
          centsText (maxBigInt (candidates.map (·.expectedSavingsCents)))),
        ("lowest_p95_downside_loss_cents",
          centsText (minBigInt (candidates.map (·.p95DownsideLossCents)))),
        ("selected_expected_savings_cents",
          optionJson (fun candidate => centsText candidate.expectedSavingsCents) selected),
        ("selected_p95_downside_loss_cents",
          optionJson (fun candidate => centsText candidate.p95DownsideLossCents) selected)]),
     ("points", .array (candidates.map candidateJson))]

def buildOutput (run : OptimizerRun) (selected : CommitmentInstrumentCandidate) : Json := .object
  [("schema_version", .string "optimizer-run-output:v1"),
   ("optimizer_run_id", .string (uuidText run.id)), ("selected_candidate", candidateJson selected)]

def infeasibilityDetails (candidates : List CommitmentInstrumentCandidate) : Json := .object
  [("reason", .string "NO_FEASIBLE_CANDIDATES"),
   ("ranked_relaxations", .array
     [.object [("field", .string "min_expected_savings_cents"), ("suggested_value", .string "0")],
      .object [("field", .string "max_downside_loss_cents"),
        ("suggested_value", centsText (minBigInt (candidates.map (·.p95DownsideLossCents))))]])]

def frontierUri (run : OptimizerRun) : String :=
  "optimizer-runs/" ++ uuidText run.id ++ "/frontier.json"

def outputUri (run : OptimizerRun) : String :=
  "optimizer-runs/" ++ uuidText run.id ++ "/output.json"

/-- `recommendationInput`, and the columns that the INSERT fills itself. -/
def newRecommendation (id : Uuid) (run : OptimizerRun) (policy : PolicySnapshot)
    (selected : CommitmentInstrumentCandidate) (now : Instant) : Recommendation :=
  let approvalRequired := policy.approvalThresholdCents ≤ selected.commitmentAmountCents
  { id := id
    tenantId := run.tenantId
    optimizerRunId := run.id
    recommendationType := .buy
    provider := selected.provider
    instrument := selected.instrument
    serviceCode := selected.serviceCode
    region := selected.region
    termMonths := selected.termMonths
    commitmentAmountCents := selected.commitmentAmountCents
    expectedSavingsCents := selected.expectedSavingsCents
    p95DownsideLossCents := selected.p95DownsideLossCents
    utilizationP50Bps := selected.utilizationP50Bps
    utilizationP95Bps := selected.utilizationP95Bps
    confidenceScore := selected.confidenceScore
    riskBand := selected.riskBand
    explanation :=
      { baselineName := "on_demand"
        bindingConstraints := ["risk_budget"]
        priceTableVersionIds := run.priceTableVersionIds
        frontierUri := frontierUri run }
    approvalRequired := approvalRequired
    createdAt := now
    status := if approvalRequired then .pendingApproval else .ready
    updatedAt := now }

end Outputs

section Statements

variable (octets : Json → Nat) (clock : Instant)

/-- `locked` are the rows that concurrent claims hold. -/
def claimNextQueuedOptimizerRun (locked : List Uuid) (runs : OptimizerRunTable) :
    Except DbError (Option OptimizerRun × OptimizerRunTable) :=
  claimNext (fun row => row.status == .queued) (fun row => row.createdAt)
    (fun row => updateOptimizerRunRow octets clock row { row with status := .running }) locked runs

/-- `UPDATE … WHERE id = $1 AND status = 'running'`. -/
def updateRunning (id : Uuid) (change : OptimizerRun → OptimizerRun) (runs : OptimizerRunTable) :
    Except DbError OptimizerRunTable :=
  updateWhere id (fun row => row.status == .running)
    (fun row => updateOptimizerRunRow octets clock row (change row)) runs

def completeOptimizerRun (runId : Uuid) (outputUri frontierUri : String)
    (runs : OptimizerRunTable) : Except DbError OptimizerRunTable :=
  updateRunning octets clock runId (fun row =>
    { row with
      status := .completed
      outputUri := some outputUri
      frontierUri := some frontierUri
      infeasibilityDetails := .object []
      errorDetails := .object [] }) runs

def markOptimizerRunInfeasible (runId : Uuid) (frontierUri : String) (details : Json)
    (runs : OptimizerRunTable) : Except DbError OptimizerRunTable :=
  updateRunning octets clock runId (fun row =>
    { row with
      status := .infeasible
      outputUri := none
      frontierUri := some frontierUri
      infeasibilityDetails := details
      errorDetails := .object [] }) runs

def failOptimizerRun (runId : Uuid) (code : String) (runs : OptimizerRunTable) :
    Except DbError OptimizerRunTable :=
  updateRunning octets clock runId (fun row =>
    { row with
      status := .failed
      outputUri := none
      frontierUri := none
      infeasibilityDetails := .object []
      errorDetails := .object [("code", .string code)] }) runs

/-- The parent columns that the trigger of `recommendations` reads. -/
def recommendationParent (runs : OptimizerRunTable) (new : Recommendation) :
    Option (Provider × Instrument) :=
  ((runs.find new.optimizerRunId).filter fun run => run.tenantId = new.tenantId).map
    fun run => (run.provider, run.instrument)

/-- `insertRecommendation`: the column types, then the row. A percentage with a
negative part has no `numeric` text or fails its check. -/
def insertRecommendation (new : Recommendation) (runs : OptimizerRunTable)
    (recommendations : RecommendationTable) : Except DbError RecommendationTable := do
  require (isBigint new.commitmentAmountCents && isBigint new.expectedSavingsCents &&
    isBigint new.p95DownsideLossCents) (outOfRange "bigint")
  insertRecommendationRow (recommendationParent runs new) new recommendations

end Statements

/-- Where a request or a `processNext` stands: what it does next. `item` is the row
that the selected candidate was evaluated from. -/
inductive Phase where
  | resolving (tenantId actorUserId : Uuid) (input : OptimizerRunCreateInput)
      (answers : InputAnswers)
  | storingSnapshot (run : OptimizerRun) (snapshot : Json)
  | creating (run : OptimizerRun)
  | claiming
  | readingSnapshot (run : OptimizerRun)
  | readingForecast (run : OptimizerRun) (snapshot : Json)
  | listing (run : OptimizerRun) (snapshot forecast : Json)
  | storingFrontier (run : OptimizerRun) (snapshot : Json)
      (candidates : List CommitmentInstrumentCandidate) (item : Option PriceTableItem)
  | markingInfeasible (run : OptimizerRun) (candidates : List CommitmentInstrumentCandidate)
  | storingOutput (run : OptimizerRun) (snapshot : Json) (selected : CommitmentInstrumentCandidate)
      (item : Option PriceTableItem)
  | inserting (run : OptimizerRun) (snapshot : Json) (selected : CommitmentInstrumentCandidate)
      (item : Option PriceTableItem)
  | completing (run : OptimizerRun)
  | failing (run : OptimizerRun)
  | readingVersion (tenantId id : Uuid)
  | transitioning (tenantId id : Uuid) (status : PriceTableStatus)

/-- `locked` are the rows that concurrent claims hold, `drawnId` is the identifier
that `randomUUID` or the INSERT draws, `query` the query that answers next. -/
structure Input where
  locked : List Uuid
  drawnId : Uuid
  query : InputQuery

/-- A price table is created or retired, an item statement is attempted, a forecast
run is stored with the object of a completed one, or other tables change. -/
inductive Event where
  | tick (elapsed : Nat)
  | createPriceTable (tenantId : Uuid) (input : PriceTableCreateInput)
  | retirePriceTable (tenantId id : Uuid) (status : PriceTableStatus)
  | insertPriceItem (item : PriceTableItem)
  | changePriceItems (selects : PriceTableItem → Bool)
  | forecast (run : ForecastRun) (output : Json)
  | policies (policies : OptimizerPolicyTable)
  | scenarios (scenarios : ScenarioTable)
  | accounts (tenants : Uuid → Bool) (users : Uuid → Uuid → Bool)

section Activation

def day (instant : Instant) : Int := (instant / 86400000000 : Nat)

/-- `effectiveFrom` lies more than `staleDays` days before the UTC date of `now`. -/
def isStale (effectiveFrom : Int) (staleDays : Nat) (now : Instant) : Bool :=
  effectiveFrom < day now - staleDays

end Activation

section Steps

variable (runtime : OptimizerRuntime)

/-- `readJson`: a JSON value that is no object reads as an empty one. -/
def recordOf (value : Json) : Json := if value.isObject then value else .object []

def readJson (shared : Shared) (key : String) : Option Json := (shared.objects key).map recordOf

def forecastOutputUri (snapshot : Json) : String :=
  stringAt (objectAt snapshot "forecast_run") "outputUri"

/-- The phase of `createRun` after its last query. -/
def resolved (tenantId actorUserId : Uuid) (input : OptimizerRunCreateInput)
    (answers : InputAnswers) (runId : Uuid) (now : Instant) : Option (Option Phase) :=
  match answers with
  | ⟨some forecast, some policy, some scenario, some prices⟩ =>
      match resolveInputs input forecast policy scenario prices with
      | .error _ => some none
      | .ok inputs =>
          let ids := input.priceTableVersionIds.getD (inputs.prices.map (·.id))
          some (some (.storingSnapshot
            (newOptimizerRun runId tenantId actorUserId input ids runtime.defaultSeed now)
            (inputSnapshot runId input inputs runtime.defaultSeed)))
  | _ => none

/-- A request goes on with the run and the snapshot of its inputs. -/
theorem resolved_ok {tenantId actorUserId : Uuid} {input : OptimizerRunCreateInput}
    {answers : InputAnswers} {runId : Uuid} {now : Instant} {onward : Phase}
    (ready : resolved runtime tenantId actorUserId input answers runId now = some (some onward)) :
    ∃ forecast policy scenario prices inputs,
      answers = ⟨some forecast, some policy, some scenario, some prices⟩ ∧
      resolveInputs input forecast policy scenario prices = .ok inputs ∧
      onward = .storingSnapshot
        (newOptimizerRun runId tenantId actorUserId input
          (input.priceTableVersionIds.getD (inputs.prices.map (·.id))) runtime.defaultSeed now)
        (inputSnapshot runId input inputs runtime.defaultSeed) := by
  unfold resolved at ready
  split at ready
  case h_1 forecast policy scenario prices =>
      split at ready
      case h_1 => cases ready
      case h_2 inputs accepted =>
          obtain rfl := Option.some.inj (Option.some.inj ready)
          exact ⟨forecast, policy, scenario, prices, inputs, rfl, accepted, rfl⟩
  case h_2 => cases ready

def operate (_worker : Nat) (input : Input) (phase : Phase) (shared : Shared) :
    Option (Shared × Option Phase) :=
  match phase with
  | .resolving tenantId actorUserId request answers =>
      let answers := answers.ask tenantId request shared input.query
      match resolved runtime tenantId actorUserId request answers input.drawnId shared.clock with
      | none => some (shared, some (.resolving tenantId actorUserId request answers))
      | some none => some (shared, none)
      | some (some onward) =>
          if input.drawnId ∈ shared.drawn then none
          else some ({ shared with drawn := input.drawnId :: shared.drawn }, some onward)
  | .storingSnapshot run snapshot =>
      some (shared.putObject run.inputSnapshotUri snapshot, some (.creating run))
  | .creating run =>
      match insertOptimizerRunRow runtime.octets shared
          { run with createdAt := shared.clock, updatedAt := shared.clock } with
      | .ok runs => some ({ shared with runs := runs }, none)
      | .error _ => none
  | .claiming =>
      match claimNextQueuedOptimizerRun runtime.octets shared.clock input.locked shared.runs with
      | .ok (some run, runs) => some ({ shared with runs := runs }, some (.readingSnapshot run))
      | .ok (none, runs) => some ({ shared with runs := runs }, none)
      | .error _ => none
  | .readingSnapshot run =>
      (readJson shared run.inputSnapshotUri).map fun snapshot =>
        (shared, some (.readingForecast run snapshot))
  | .readingForecast run snapshot =>
      (readJson shared (forecastOutputUri snapshot)).map fun forecast =>
        (shared, some (.listing run snapshot forecast))
  | .listing run snapshot forecast =>
      let rows := listFrozenPriceItems runtime run shared.items
      (optimizeCommitmentRun run snapshot forecast (rows.map optimizerPriceItem)).map
        fun candidates => (shared, some (.storingFrontier run snapshot candidates
          (selectedRow run snapshot forecast rows)))
  | .storingFrontier run snapshot candidates item =>
      some (shared.putObject (frontierUri run) (buildFrontier run candidates),
        match selectCandidate candidates with
        | none => some (.markingInfeasible run candidates)
        | some selected => some (.storingOutput run snapshot selected item))
  | .markingInfeasible run candidates =>
      match markOptimizerRunInfeasible runtime.octets shared.clock run.id (frontierUri run)
          (infeasibilityDetails candidates) shared.runs with
      | .ok runs => some ({ shared with runs := runs }, none)
      | .error _ => none
  | .storingOutput run snapshot selected item =>
      some (shared.putObject (outputUri run) (buildOutput run selected),
        some (.inserting run snapshot selected item))
  | .inserting run snapshot selected item =>
      match Candidates.policySnapshot snapshot with
      | none => none
      | some policy =>
          let new := newRecommendation input.drawnId run policy selected shared.clock
          match insertRecommendation new shared.runs shared.recommendations with
          | .ok recommendations => some
              ({ shared with
                 recommendations := recommendations
                 sources := shared.sources ++
                   item.toList.map fun row => ⟨input.drawnId, run.id, row⟩ },
               some (.completing run))
          | .error _ => none
  | .completing run =>
      match completeOptimizerRun runtime.octets shared.clock run.id (outputUri run)
          (frontierUri run) shared.runs with
      | .ok runs => some ({ shared with runs := runs }, none)
      | .error _ => none
  | .failing run =>
      match failOptimizerRun runtime.octets shared.clock run.id "OPTIMIZER_WORKER_FAILED"
          shared.runs with
      | .ok runs => some ({ shared with runs := runs }, none)
      | .error _ => none
  | .readingVersion tenantId id =>
      match (shared.versions.find id).filter fun row => row.tenantId = tenantId with
      | none => some (shared, none)
      | some existing =>
          some (shared, some (.transitioning tenantId id
            (if isStale existing.effectiveFrom runtime.staleDays shared.clock then .blocked
              else .active)))
  | .transitioning tenantId id status =>
      match transitionPriceTable shared.clock tenantId id status shared.toPriceTableRows with
      | .ok tables => some (shared.withPrices tables, none)
      | .error _ => none

/-- The `catch` of `processNext`; a claim or the catch itself that fails ends it, and
so does a failure of a request. -/
def rescue : Phase → Option Phase
  | .readingSnapshot run | .readingForecast run _ | .listing run _ _ | .storingFrontier run _ _ _
  | .markingInfeasible run _ | .storingOutput run _ _ _ | .inserting run _ _ _
  | .completing run => some (.failing run)
  | .resolving _ _ _ _ | .storingSnapshot _ _ | .creating _ | .claiming | .failing _
  | .readingVersion _ _ | .transitioning _ _ _ => none

def entry : Phase → Bool
  | .claiming | .readingVersion _ _ => true
  | .resolving _ _ _ ⟨none, none, none, none⟩ => true
  | _ => false

/-- The key that the forecast worker stores its output under. -/
def forecastKey (runId : Uuid) : String :=
  "forecasts/" ++ uuidText runId ++ "/seasonal-naive-v1.json"

/-- A forecast run that is new, or was not completed before. -/
def storeForecast (run : ForecastRun) (output : Json) (shared : Shared) : Option Shared :=
  let stored : ForecastRun := { run with outputUri := some (forecastKey run.id) }
  match shared.forecasts.find run.id with
  | none =>
      let shared := { shared with forecasts := shared.forecasts.insert stored }
      some (if run.status = .completed then shared.putObject (forecastKey run.id) output else shared)
  | some old =>
      if old.status = .completed then none
      else
        let shared := { shared with forecasts := shared.forecasts.put stored }
        some (if run.status = .completed then shared.putObject (forecastKey run.id) output
          else shared)

def environment : Event → Shared → Option Shared
  | .tick elapsed, shared => some { shared with clock := shared.clock + elapsed }
  | .createPriceTable tenantId input, shared =>
      if shared.tenants tenantId then
        (createPriceTable runtime.octets shared.clock tenantId input
          shared.toPriceTableRows).toOption.map shared.withPrices
      else none
  | .retirePriceTable tenantId id status, shared =>
      if status = .active then none
      else (transitionPriceTable shared.clock tenantId id status
        shared.toPriceTableRows).toOption.map shared.withPrices
  | .insertPriceItem item, shared =>
      (insertPriceTableItem runtime.octets item shared.toPriceTableRows).toOption.map
        shared.withPrices
  | .changePriceItems selects, shared =>
      (changePriceTables selects shared.toPriceTableRows).toOption.map shared.withPrices
  | .forecast run output, shared => storeForecast run output shared
  | .policies policies, shared => some { shared with policies := policies }
  | .scenarios scenarios, shared => some { shared with scenarios := scenarios }
  | .accounts tenants users, shared => some { shared with tenants := tenants, users := users }

def program : Program Shared Phase Input Event where
  entry := entry
  operate := operate runtime
  rescue := rescue
  environment := environment runtime

end Steps

abbrev OptimizerState := State Shared Phase

abbrev OptimizerAction := Action Phase Input Event

abbrev optimizerStep (runtime : OptimizerRuntime) :
    OptimizerState → OptimizerAction → Option OptimizerState :=
  step (program runtime)

end CommitmentOptimizer.Optimizer.OptimizerWorker
