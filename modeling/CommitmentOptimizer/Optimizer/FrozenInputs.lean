import CommitmentOptimizer.Foundations.UuidText
import CommitmentOptimizer.Optimizer.RecommendationCompletion

/-!
# The inputs of an optimizer run

A run is created after its snapshot is stored, and its worker reads the snapshot, the
output of the completed forecast and the items of released price versions. Nothing
that happens after the creation changes what it reads.
-/

namespace CommitmentOptimizer.Optimizer.FrozenInputs

open Foundations
open Foundations.FaultyWorkers
open Foundations.JobQueue
open Foundations.Schedules
open Foundations.SqlConstraints
open Foundations.UuidText
open Forecasting.ForecastRuns
open PriceTables.PriceTableItems
open PriceTables.PriceTableStatements
open OptimizerRuns
open Candidates
open OptimizerRunCreation
open OptimizerWorker
open RecommendationCompletion (idle opening insertionOrder activation creation processing)

set_option autoImplicit false

section Keys

theorem key_injective {before after : String} {left right : Uuid}
    (same : before ++ uuidText left ++ after = before ++ uuidText right ++ after) : left = right := by
  have texts := congrArg String.toList same
  simp only [String.toList_append, List.append_assoc] at texts
  have middle := List.append_cancel_right (List.append_cancel_left texts)
  exact uuid_text_injective (String.toList_inj.mp middle)

theorem endings_differ {left right : List Char} {ending other : List Char}
    (first : ¬ ending <:+ other) (second : ¬ other <:+ ending) : left ++ ending ≠ right ++ other := by
  intro same
  have suffix : other <:+ left ++ ending := same ▸ List.suffix_append right other
  rcases List.suffix_or_suffix_of_suffix (List.suffix_append left ending) suffix with inside | inside
  · exact first inside
  · exact second inside

theorem input_snapshot_uri_eq (id : Uuid) :
    inputSnapshotUri id = "optimizer-runs/" ++ uuidText id ++ "/input.json" := rfl

theorem frontier_uri_eq (run : OptimizerRun) :
    frontierUri run = "optimizer-runs/" ++ uuidText run.id ++ "/frontier.json" := rfl

theorem output_uri_eq (run : OptimizerRun) :
    outputUri run = "optimizer-runs/" ++ uuidText run.id ++ "/output.json" := rfl

theorem forecast_key_eq (id : Uuid) :
    forecastKey id = "forecasts/" ++ uuidText id ++ "/seasonal-naive-v1.json" := rfl

theorem input_snapshot_uri_injective {left right : Uuid}
    (same : inputSnapshotUri left = inputSnapshotUri right) : left = right := by
  rw [input_snapshot_uri_eq, input_snapshot_uri_eq] at same
  exact key_injective same

theorem forecast_key_injective {left right : Uuid} (same : forecastKey left = forecastKey right) :
    left = right := by
  rw [forecast_key_eq, forecast_key_eq] at same
  exact key_injective same

theorem snapshot_ne_frontier (id : Uuid) (run : OptimizerRun) :
    inputSnapshotUri id ≠ frontierUri run := by
  intro same
  rw [input_snapshot_uri_eq, frontier_uri_eq] at same
  have texts := congrArg String.toList same
  simp only [String.toList_append] at texts
  exact endings_differ (by decide) (by decide) texts

theorem snapshot_ne_output (id : Uuid) (run : OptimizerRun) :
    inputSnapshotUri id ≠ outputUri run := by
  intro same
  rw [input_snapshot_uri_eq, output_uri_eq] at same
  have texts := congrArg String.toList same
  simp only [String.toList_append] at texts
  exact endings_differ (by decide) (by decide) texts

/-- The keys of forecasts and of optimizer runs begin differently. -/
theorem forecast_ne_run (id : Uuid) (middle ending : String) :
    forecastKey id ≠ "optimizer-runs/" ++ middle ++ ending := by
  intro same
  rw [forecast_key_eq] at same
  have initials := congrArg (fun text : String => text.toList.head?) same
  simp [String.toList_append] at initials

theorem forecast_ne_snapshot (id run : Uuid) : forecastKey id ≠ inputSnapshotUri run := by
  rw [input_snapshot_uri_eq]
  exact forecast_ne_run id _ _

theorem forecast_ne_frontier (id : Uuid) (run : OptimizerRun) : forecastKey id ≠ frontierUri run := by
  rw [frontier_uri_eq]
  exact forecast_ne_run id _ _

theorem forecast_ne_output (id : Uuid) (run : OptimizerRun) : forecastKey id ≠ outputUri run := by
  rw [output_uri_eq]
  exact forecast_ne_run id _ _

end Keys

section WorkerInputs

variable (runtime : OptimizerRuntime) (run : OptimizerRun) (shared : Shared)

/-- The snapshot and the forecast that a worker reads. -/
def workerInputs : Option (Json × Json) := do
  let snapshot ← readJson shared run.inputSnapshotUri
  let forecast ← readJson shared (forecastOutputUri snapshot)
  return (snapshot, forecast)

/-- The candidates that a worker computes. -/
def workerCandidates : Option (List CommitmentInstrumentCandidate) := do
  let (snapshot, forecast) ← workerInputs run shared
  optimizeCommitmentRun run snapshot forecast
    ((listFrozenPriceItems runtime run shared.items).map optimizerPriceItem)

/-- The price item that it selects. -/
def workerItem : Option PriceTableItem := do
  let (snapshot, forecast) ← workerInputs run shared
  selectedRow run snapshot forecast (listFrozenPriceItems runtime run shared.items)

variable {runtime run shared}

/-- A worker looks at the frozen columns of its run only. -/
theorem worker_inputs_congr {left right : OptimizerRun}
    (same : left.toOptimizerRunIdentity = right.toOptimizerRunIdentity) :
    workerInputs left shared = workerInputs right shared ∧
      workerCandidates runtime left shared = workerCandidates runtime right shared ∧
      workerItem runtime left shared = workerItem runtime right shared := by
  cases left
  cases right
  cases same
  exact ⟨rfl, rfl, rfl⟩

end WorkerInputs

section Frozen

/-- The snapshot names the output of a completed forecast. -/
def Sourced (shared : Shared) (snapshot : Json) : Prop :=
  ∃ id forecast, shared.forecasts.find id = some forecast ∧ forecast.status = .completed ∧
    forecastOutputUri snapshot = forecastKey id

/-- The snapshot of the run is stored. -/
structure Ready (shared : Shared) (run : OptimizerRun) : Prop where
  uri : run.inputSnapshotUri = inputSnapshotUri run.id
  drawn : run.id ∈ shared.drawn
  stored : ∃ snapshot, readJson shared run.inputSnapshotUri = some snapshot ∧ Sourced shared snapshot

def PricesReleased (shared : Shared) (run : OptimizerRun) : Prop :=
  ∀ id ∈ run.priceTableVersionIds, Released shared.versions id

structure Sound (runtime : OptimizerRuntime) (shared : Shared) : Prop where
  runs : ∀ id run, shared.runs.find id = some run → Ready shared run ∧ PricesReleased shared run
  forecasts : ∀ id run, shared.forecasts.find id = some run → run.status = .completed →
    run.outputUri = some (forecastKey id)
  sources : ∀ source ∈ shared.sources, ∃ run, shared.runs.find source.runId = some run ∧
    workerItem runtime run shared = some source.item

/-- What a step does to the inputs of runs; `creates` is the run that it creates, or
whose snapshot it stores. -/
structure Grows (runtime : OptimizerRuntime) (creates : Option Uuid) (before after : Shared) :
    Prop where
  prices : Evolves before.toPriceTableRows after.toPriceTableRows
  runs : ∀ id run, before.runs.find id = some run → ∃ later, after.runs.find id = some later ∧
    later.toOptimizerRunIdentity = run.toOptimizerRunIdentity
  created : ∀ id later, before.runs.find id = none → after.runs.find id = some later →
    creates = some id ∧ Ready before later ∧ PricesReleased before later
  snapshots : ∀ id, creates ≠ some id →
    after.objects (inputSnapshotUri id) = before.objects (inputSnapshotUri id)
  outputs : ∀ id run, before.forecasts.find id = some run → run.status = .completed →
    after.forecasts.find id = some run ∧
      after.objects (forecastKey id) = before.objects (forecastKey id)
  forecasts : ∀ id run, after.forecasts.find id = some run → run.status = .completed →
    before.forecasts.find id = some run ∨ run.outputUri = some (forecastKey id)
  drawn : ∀ id ∈ before.drawn, id ∈ after.drawn
  sources : ∀ source ∈ after.sources, source ∈ before.sources ∨
    ∃ run, before.runs.find source.runId = some run ∧ workerItem runtime run before = some source.item

variable {runtime : OptimizerRuntime} {creates : Option Uuid} {before after : Shared}
  {run later : OptimizerRun} {id : Uuid}

theorem grows_sourced (grows : Grows runtime creates before after) {snapshot : Json}
    (sourced : Sourced before snapshot) : Sourced after snapshot := by
  obtain ⟨id, forecast, found, completed, uri⟩ := sourced
  exact ⟨id, forecast, (grows.outputs id forecast found completed).1, completed, uri⟩

/-- The objects that a run is computed from stay as they are. -/
theorem grows_inputs (grows : Grows runtime creates before after) (ready : Ready before run)
    (apart : creates ≠ some run.id) :
    workerInputs run after = workerInputs run before ∧
      readJson after run.inputSnapshotUri = readJson before run.inputSnapshotUri := by
  have snapshots : readJson after run.inputSnapshotUri = readJson before run.inputSnapshotUri := by
    rw [ready.uri, readJson, grows.snapshots run.id apart, readJson]
  refine ⟨?_, snapshots⟩
  obtain ⟨snapshot, stored, id, forecast, found, completed, uri⟩ := ready.stored
  have outputs : readJson after (forecastKey id) = readJson before (forecastKey id) := by
    rw [readJson, (grows.outputs id forecast found completed).2, readJson]
  simp only [workerInputs, snapshots, stored, Option.bind_eq_bind, Option.bind_some, uri, outputs]

theorem grows_ready (grows : Grows runtime creates before after) (ready : Ready before run)
    (apart : creates ≠ some run.id) : Ready after run := by
  obtain ⟨snapshot, stored, sourced⟩ := ready.stored
  refine ⟨ready.uri, grows.drawn _ ready.drawn, snapshot, ?_, grows_sourced grows sourced⟩
  rw [(grows_inputs grows ready apart).2, stored]

theorem grows_released (grows : Grows runtime creates before after)
    (released : PricesReleased before run) : PricesReleased after run :=
  fun id member => evolves_released grows.prices (released id member)

/-- The items of released versions stay as they are. -/
theorem grows_items (grows : Grows runtime creates before after)
    (released : PricesReleased before run) :
    listFrozenPriceItems runtime run after.items = listFrozenPriceItems runtime run before.items := by
  rw [listFrozenPriceItems, listFrozenPriceItems]
  refine congrArg runtime.order (grows.prices.items (isFrozenItem run) fun item frozen => ?_)
  simp only [isFrozenItem, Bool.and_eq_true, List.contains_iff_mem] at frozen
  exact released _ frozen.1.1.2

/-- So does everything that a worker computes from them. -/
theorem grows_computed (grows : Grows runtime creates before after) (ready : Ready before run)
    (released : PricesReleased before run) (apart : creates ≠ some run.id) :
    workerInputs run after = workerInputs run before ∧
      workerCandidates runtime run after = workerCandidates runtime run before ∧
      workerItem runtime run after = workerItem runtime run before := by
  have inputs := (grows_inputs grows ready apart).1
  have items := grows_items grows released
  exact ⟨inputs, by rw [workerCandidates, workerCandidates, inputs, items],
    by rw [workerItem, workerItem, inputs, items]⟩

/-- A step that creates none of the runs that are there. -/
def Separate (creates : Option Uuid) (before : Shared) : Prop :=
  ∀ id run, before.runs.find id = some run → creates ≠ some id

theorem ready_congr {row : OptimizerRun} {shared : Shared}
    (same : row.toOptimizerRunIdentity = run.toOptimizerRunIdentity) (ready : Ready shared run)
    (released : PricesReleased shared run) : Ready shared row ∧ PricesReleased shared row := by
  cases row
  cases run
  cases same
  exact ⟨⟨ready.uri, ready.drawn, ready.stored⟩, released⟩

/-- A run that is there stays, with all that its worker computes. -/
theorem grows_run (sound : Sound runtime before) (grows : Grows runtime creates before after)
    (separate : Separate creates before) (found : before.runs.find id = some run) :
    ∃ later, after.runs.find id = some later ∧
      later.toOptimizerRunIdentity = run.toOptimizerRunIdentity ∧ Ready after later ∧
      PricesReleased after later ∧ workerInputs later after = workerInputs run before ∧
      workerCandidates runtime later after = workerCandidates runtime run before ∧
      workerItem runtime later after = workerItem runtime run before := by
  obtain ⟨later, laterFound, same⟩ := grows.runs id run found
  obtain ⟨ready, released⟩ := sound.runs id run found
  have key := KeyedTable.key_of_find found
  have apart : creates ≠ some run.id := fun mine => separate id run found (key ▸ mine)
  obtain ⟨laterReady, laterReleased⟩ :=
    ready_congr same (grows_ready grows ready apart) (grows_released grows released)
  obtain ⟨inputs, candidates, item⟩ := grows_computed grows ready released apart
  obtain ⟨sameInputs, sameCandidates, sameItem⟩ :=
    @worker_inputs_congr runtime after later run same
  exact ⟨later, laterFound, same, laterReady, laterReleased, sameInputs.trans inputs,
    sameCandidates.trans candidates, sameItem.trans item⟩

theorem grows_sound (sound : Sound runtime before) (grows : Grows runtime creates before after)
    (separate : Separate creates before)
    (stores : ∀ id later, before.runs.find id = none → after.runs.find id = some later →
      Ready after later) : Sound runtime after where
  runs := by
    intro id later laterFound
    cases found : before.runs.find id with
    | none =>
        have released := (grows.created id later found laterFound).2.2
        exact ⟨stores id later found laterFound, grows_released grows released⟩
    | some run =>
        obtain ⟨other, otherFound, _, ready, released, _⟩ := grows_run sound grows separate found
        obtain rfl := Option.some.inj (laterFound.symm.trans otherFound)
        exact ⟨ready, released⟩
  forecasts := by
    intro id run found completed
    rcases grows.forecasts id run found completed with earlier | stored
    · exact sound.forecasts id run earlier completed
    · exact stored
  sources := by
    intro source member
    have earlier : ∃ run, before.runs.find source.runId = some run ∧
        workerItem runtime run before = some source.item := by
      rcases grows.sources source member with old | new
      · exact sound.sources source old
      · exact new
    obtain ⟨run, found, item⟩ := earlier
    obtain ⟨later, laterFound, _, _, _, _, _, same⟩ := grows_run sound grows separate found
    exact ⟨later, laterFound, same.trans item⟩

end Frozen

section Workers

/-- The run of a worker is in the table. -/
def Row (shared : Shared) (run : OptimizerRun) : Prop :=
  ∃ row, shared.runs.find run.id = some row ∧
    row.toOptimizerRunIdentity = run.toOptimizerRunIdentity

/-- The run that a request is about to store. -/
def creates : Phase → Option Uuid
  | .storingSnapshot run _ | .creating run => some run.id
  | _ => none

/-- What a request or a worker has read. -/
def Holds (runtime : OptimizerRuntime) (_worker : Nat) (phase : Phase) (shared : Shared) : Prop :=
  match phase with
  | .resolving _ _ _ answers => ∀ forecast, answers.forecast = some (some forecast) →
      forecast.status = .completed → shared.forecasts.find forecast.id = some forecast
  | .storingSnapshot run snapshot =>
      shared.runs.find run.id = none ∧ run.inputSnapshotUri = inputSnapshotUri run.id ∧
        run.id ∈ shared.drawn ∧ Sourced shared (recordOf snapshot)
  | .creating run => shared.runs.find run.id = none ∧ Ready shared run
  | .readingSnapshot run => Row shared run
  | .readingForecast run snapshot =>
      Row shared run ∧ readJson shared run.inputSnapshotUri = some snapshot
  | .listing run snapshot forecast =>
      Row shared run ∧ workerInputs run shared = some (snapshot, forecast)
  | .storingFrontier run _ candidates item =>
      Row shared run ∧ workerCandidates runtime run shared = some candidates ∧
        workerItem runtime run shared = item
  | .storingOutput run _ _ item | .inserting run _ _ item =>
      Row shared run ∧ workerItem runtime run shared = item
  | _ => True

/-- No two requests store one run. -/
def Apart (first second : Phase) : Prop :=
  ∀ id, creates first = some id → creates second ≠ some id

variable {runtime : OptimizerRuntime} {worker : Nat} {phase : Phase} {creating : Option Uuid}
  {before after : Shared} {run : OptimizerRun}

theorem grows_row (sound : Sound runtime before) (grows : Grows runtime creating before after)
    (separate : Separate creating before) (row : Row before run) :
    Row after run ∧ readJson after run.inputSnapshotUri = readJson before run.inputSnapshotUri ∧
      workerInputs run after = workerInputs run before ∧
      workerCandidates runtime run after = workerCandidates runtime run before ∧
      workerItem runtime run after = workerItem runtime run before := by
  obtain ⟨stored, found, same⟩ := row
  obtain ⟨ready, released⟩ := sound.runs run.id stored found
  obtain ⟨ready, released⟩ := ready_congr same.symm ready released
  have apart := separate run.id stored found
  obtain ⟨later, laterFound, laterSame⟩ := grows.runs run.id stored found
  exact ⟨⟨later, laterFound, laterSame.trans same⟩, (grows_inputs grows ready apart).2,
    grows_computed grows ready released apart⟩

/-- What a party has read stays so. -/
theorem grows_holds (sound : Sound runtime before) (grows : Grows runtime creating before after)
    (separate : Separate creating before) (apart : ∀ id, creates phase = some id → creating ≠ some id)
    (holds : Holds runtime worker phase before) : Holds runtime worker phase after := by
  have missing : ∀ id, creates phase = some id → before.runs.find id = none →
      after.runs.find id = none := by
    intro id mine absent
    by_contra present
    obtain ⟨later, found⟩ := Option.ne_none_iff_exists'.mp present
    exact apart id mine (grows.created id later absent found).1
  cases phase with
  | resolving tenantId actorUserId request answers =>
      intro forecast answered completed
      exact (grows.outputs _ forecast (holds forecast answered completed) completed).1
  | storingSnapshot run snapshot =>
      obtain ⟨absent, uri, drawn, sourced⟩ := holds
      exact ⟨missing run.id rfl absent, uri, grows.drawn _ drawn, grows_sourced grows sourced⟩
  | creating run =>
      obtain ⟨absent, ready⟩ := holds
      exact ⟨missing run.id rfl absent, grows_ready grows ready (apart run.id rfl)⟩
  | readingSnapshot run => exact (grows_row sound grows separate holds).1
  | readingForecast run snapshot =>
      obtain ⟨row, snapshots, _⟩ := grows_row sound grows separate holds.1
      exact ⟨row, snapshots.trans holds.2⟩
  | listing run snapshot forecast =>
      obtain ⟨row, _, inputs, _⟩ := grows_row sound grows separate holds.1
      exact ⟨row, inputs.trans holds.2⟩
  | storingFrontier run snapshot candidates item =>
      obtain ⟨row, _, _, computed, items⟩ := grows_row sound grows separate holds.1
      exact ⟨row, computed.trans holds.2.1, items.trans holds.2.2⟩
  | storingOutput run snapshot selected item =>
      obtain ⟨row, _, _, _, items⟩ := grows_row sound grows separate holds.1
      exact ⟨row, items.trans holds.2⟩
  | inserting run snapshot selected item =>
      obtain ⟨row, _, _, _, items⟩ := grows_row sound grows separate holds.1
      exact ⟨row, items.trans holds.2⟩
  | claiming => trivial
  | markingInfeasible => trivial
  | completing => trivial
  | failing => trivial
  | readingVersion => trivial
  | transitioning => trivial

end Workers

section Operations

variable {runtime : OptimizerRuntime} {worker : Nat} {input : Input} {shared effect : Shared}
  {after : Option Phase} {run : OptimizerRun}

/-- A step that changes no run, forecast or source, and no object that a run reads. -/
theorem grows_of {creating : Option Uuid}
    (prices : Evolves shared.toPriceTableRows effect.toPriceTableRows)
    (runs : effect.runs = shared.runs) (forecasts : effect.forecasts = shared.forecasts)
    (sources : effect.sources = shared.sources) (drawn : ∀ id ∈ shared.drawn, id ∈ effect.drawn)
    (snapshots : ∀ id, creating ≠ some id →
      effect.objects (inputSnapshotUri id) = shared.objects (inputSnapshotUri id))
    (outputs : ∀ id, effect.objects (forecastKey id) = shared.objects (forecastKey id)) :
    Grows runtime creating shared effect where
  prices := prices
  runs := fun id run found => ⟨run, by rw [runs]; exact found, rfl⟩
  created := by
    intro id later absent found
    rw [runs, absent] at found
    cases found
  snapshots := snapshots
  outputs := fun id run found _ => ⟨by rw [forecasts]; exact found, outputs id⟩
  forecasts := fun id run found _ => Or.inl (by rw [← forecasts]; exact found)
  drawn := drawn
  sources := fun source member => Or.inl (by rw [← sources]; exact member)

theorem grows_refl (creating : Option Uuid) : Grows runtime creating shared shared :=
  grows_of (evolves_refl _) rfl rfl rfl (fun _ member => member) (fun _ _ => rfl) fun _ => rfl

/-- An object that no worker reads. -/
theorem grows_put_object {key : String} {value : Json} {creating : Option Uuid}
    (snapshots : ∀ id, creating ≠ some id → inputSnapshotUri id ≠ key)
    (outputs : ∀ id, forecastKey id ≠ key) :
    Grows runtime creating shared (shared.putObject key value) :=
  grows_of (evolves_refl _) rfl rfl rfl (fun _ member => member)
    (fun id apart => Function.update_of_ne (snapshots id apart) ..)
    fun id => Function.update_of_ne (outputs id) ..

/-- Every update of a row keeps its frozen columns. -/
def KeepsRows (before after : OptimizerRunTable) : Prop :=
  after = before ∨ ∃ old row, before.find row.id = some old ∧
    row.toOptimizerRunIdentity = old.toOptimizerRunIdentity ∧ after = before.put row

theorem grows_runs {runs : OptimizerRunTable} (kept : KeepsRows shared.runs runs) :
    Grows runtime none shared { shared with runs := runs } := by
  rcases kept with rfl | ⟨old, row, found, same, rfl⟩
  · exact grows_refl none
  · refine ⟨evolves_refl _, fun id run present => ?_, fun id later absent present => ?_,
      fun _ _ => rfl, fun _ _ found _ => ⟨found, rfl⟩, fun _ _ found _ => Or.inl found,
      fun _ member => member, fun _ member => Or.inl member⟩
    · by_cases mine : row.id = id
      · subst mine
        obtain rfl := Option.some.inj (found.symm.trans present)
        exact ⟨row, by rw [KeyedTable.find_put, if_pos rfl, present, Option.map_some], same⟩
      · exact ⟨run, by rw [KeyedTable.find_put, if_neg mine, present], rfl⟩
    · rw [KeyedTable.find_put, absent] at present
      split_ifs at present
      cases present

theorem stored_identity {octets : Json → Nat} {clock : Instant} {old new row : OptimizerRun}
    (stored : updateOptimizerRunRow octets clock old new = .ok row) :
    row.toOptimizerRunIdentity = old.toOptimizerRunIdentity := by
  obtain ⟨rfl, identity, _⟩ := update_optimizer_run_row_ok stored
  exact identity

theorem stored_key {before : OptimizerRunTable} {old row : OptimizerRun} {id : Uuid}
    (found : before.find id = some old)
    (same : row.toOptimizerRunIdentity = old.toOptimizerRunIdentity) :
    before.find row.id = some old := by
  have key := KeyedTable.key_of_find found
  have rowKey : row.id = id := (congrArg OptimizerRunIdentity.id same).trans key
  rw [rowKey, found]

theorem update_running_keeps {octets : Json → Nat} {clock : Instant} {id : Uuid}
    {change : OptimizerRun → OptimizerRun} {before runs : OptimizerRunTable}
    (done : updateRunning octets clock id change before = .ok runs) : KeepsRows before runs := by
  rcases update_where_ok done with ⟨_, rfl⟩ | ⟨old, row, found, _, stored, rfl⟩
  · exact Or.inl rfl
  · have same := stored_identity stored
    exact Or.inr ⟨old, row, stored_key found same, same, rfl⟩

theorem claim_keeps {octets : Json → Nat} {clock : Instant} {locked : List Uuid}
    {before runs : OptimizerRunTable} {claimed : Option OptimizerRun}
    (done : claimNextQueuedOptimizerRun octets clock locked before = .ok (claimed, runs)) :
    KeepsRows before runs ∧ ∀ run, claimed = some run → runs.find run.id = some run := by
  rcases claim_next_ok done with ⟨rfl, rfl⟩ | ⟨old, row, found, _, stored, rfl, rfl⟩
  · exact ⟨Or.inl rfl, fun _ same => nomatch same⟩
  · have same := stored_identity stored
    have present := stored_key found same
    refine ⟨Or.inr ⟨old, row, present, same, rfl⟩, fun run claimed => ?_⟩
    obtain rfl := Option.some.inj claimed
    rw [KeyedTable.find_put, if_pos rfl, present, Option.map_some]

/-- An accepted run names active versions only. -/
theorem eligible_released {new : OptimizerRun}
    (counted : (eligibleVersions shared.versions new).length = new.priceTableVersionIds.length) :
    PricesReleased shared new := by
  let eligible := (eligibleVersions shared.versions new).map (·.id)
  have eligibleDistinct : eligible.Nodup :=
    List.Nodup.sublist (List.Sublist.map _ List.filter_sublist) shared.versions.distinct
  have inside : eligible ⊆ new.priceTableVersionIds := by
    intro id member
    obtain ⟨version, selected, rfl⟩ := List.mem_map.mp member
    have holds := (List.mem_filter.mp selected).2
    simp only [Bool.and_eq_true, List.contains_iff_mem] at holds
    exact holds.1.1
  have all : eligible.Perm new.priceTableVersionIds :=
    (List.subperm_of_subset eligibleDistinct inside).perm_of_length_le (by
      rw [List.length_map, counted])
  intro id member
  obtain ⟨version, selected, rfl⟩ := List.mem_map.mp (all.mem_iff.mpr member)
  obtain ⟨stored, holds⟩ := List.mem_filter.mp selected
  simp only [Bool.and_eq_true, decide_eq_true_eq] at holds
  exact ⟨version, KeyedTable.find_key stored, by rw [holds.2]; nofun⟩

/-- What the operation of a request or a worker does to the inputs of runs. -/
theorem operate_grows {phase : Phase} (holds : Holds runtime worker phase shared)
    (done : operate runtime worker input phase shared = some (effect, after)) :
    Grows runtime (creates phase) shared effect := by
  cases phase with
  | resolving tenantId actorUserId request answers =>
      delta operate at done
      dsimp only at done
      split at done
      · obtain ⟨rfl, rfl⟩ := Prod.mk.inj (Option.some.inj done)
        exact grows_refl none
      · obtain ⟨rfl, rfl⟩ := Prod.mk.inj (Option.some.inj done)
        exact grows_refl none
      · split_ifs at done
        obtain ⟨rfl, rfl⟩ := Prod.mk.inj (Option.some.inj done)
        exact grows_of (evolves_refl _) rfl rfl rfl
          (fun _ member => List.mem_cons_of_mem _ member) (fun _ _ => rfl) fun _ => rfl
  | storingSnapshot run snapshot =>
      obtain ⟨rfl, rfl⟩ := Prod.mk.inj (Option.some.inj done)
      obtain ⟨_, uri, _⟩ := holds
      rw [uri]
      refine grows_put_object (fun id apart same => apart ?_) fun id => forecast_ne_snapshot id run.id
      rw [creates, input_snapshot_uri_injective same]
  | creating run =>
      delta operate at done
      dsimp only at done
      split at done
      case h_1 runs inserted =>
          obtain ⟨rfl, rfl⟩ := Prod.mk.inj (Option.some.inj done)
          obtain ⟨stored, fresh, counted, _⟩ := insert_optimizer_run_row_ok inserted
          obtain ⟨absent, ready⟩ := holds
          refine ⟨evolves_refl _, fun id other found => ⟨other, ?_, rfl⟩,
            fun id later missing found => ?_, fun _ _ => rfl, fun _ _ found _ => ⟨found, rfl⟩,
            fun _ _ found _ => Or.inl found, fun _ member => member, fun _ member => Or.inl member⟩
          · rw [stored, KeyedTable.find_insert, found, Option.some_or]
          · rw [stored, KeyedTable.find_insert, missing, Option.none_or] at found
            split_ifs at found with same
            obtain rfl := Option.some.inj found
            exact ⟨congrArg some same, ⟨ready.uri, ready.drawn, ready.stored⟩,
              eligible_released counted⟩
      case h_2 => cases done
  | claiming =>
      delta operate at done
      dsimp only at done
      split at done
      case h_1 run runs claimed =>
          obtain ⟨rfl, rfl⟩ := Prod.mk.inj (Option.some.inj done)
          exact grows_runs (claim_keeps claimed).1
      case h_2 runs claimed =>
          obtain ⟨rfl, rfl⟩ := Prod.mk.inj (Option.some.inj done)
          exact grows_runs (claim_keeps claimed).1
      case h_3 => cases done
  | readingSnapshot run =>
      obtain ⟨_, _, same⟩ := Option.map_eq_some_iff.mp done
      obtain ⟨rfl, rfl⟩ := Prod.mk.inj same
      exact grows_refl none
  | readingForecast run snapshot =>
      obtain ⟨_, _, same⟩ := Option.map_eq_some_iff.mp done
      obtain ⟨rfl, rfl⟩ := Prod.mk.inj same
      exact grows_refl none
  | listing run snapshot forecast =>
      obtain ⟨_, _, same⟩ := Option.map_eq_some_iff.mp done
      obtain ⟨rfl, rfl⟩ := Prod.mk.inj same
      exact grows_refl none
  | storingFrontier run snapshot candidates item =>
      obtain ⟨rfl, rfl⟩ := Prod.mk.inj (Option.some.inj done)
      exact grows_put_object (fun id _ => snapshot_ne_frontier id run) fun id =>
        forecast_ne_frontier id run
  | markingInfeasible run candidates =>
      delta operate at done
      dsimp only at done
      split at done
      case h_1 runs marked =>
          obtain ⟨rfl, rfl⟩ := Prod.mk.inj (Option.some.inj done)
          exact grows_runs (update_running_keeps marked)
      case h_2 => cases done
  | storingOutput run snapshot selected item =>
      obtain ⟨rfl, rfl⟩ := Prod.mk.inj (Option.some.inj done)
      exact grows_put_object (fun id _ => snapshot_ne_output id run) fun id =>
        forecast_ne_output id run
  | inserting run snapshot selected item =>
      obtain ⟨⟨row, found, identity⟩, computed⟩ := holds
      delta operate at done
      dsimp only at done
      split at done
      case h_1 => cases done
      case h_2 =>
          split at done
          case h_1 =>
              obtain ⟨rfl, rfl⟩ := Prod.mk.inj (Option.some.inj done)
              refine ⟨evolves_refl _, fun _ other present => ⟨other, present, rfl⟩,
                fun _ _ absent present => (nomatch absent.symm.trans present), fun _ _ => rfl,
                fun _ _ present _ => ⟨present, rfl⟩, fun _ _ present _ => Or.inl present,
                fun _ member => member, fun source member => ?_⟩
              rcases List.mem_append.mp member with old | new
              · exact Or.inl old
              · obtain ⟨price, chosen, rfl⟩ := List.mem_map.mp new
                refine Or.inr ⟨row, found, ?_⟩
                rw [(@worker_inputs_congr runtime shared row run identity).2.2, computed]
                exact Option.mem_toList.mp chosen
          case h_2 => cases done
  | completing run =>
      delta operate at done
      dsimp only at done
      split at done
      case h_1 runs completed =>
          obtain ⟨rfl, rfl⟩ := Prod.mk.inj (Option.some.inj done)
          exact grows_runs (update_running_keeps completed)
      case h_2 => cases done
  | failing run =>
      delta operate at done
      dsimp only at done
      split at done
      case h_1 runs failed =>
          obtain ⟨rfl, rfl⟩ := Prod.mk.inj (Option.some.inj done)
          exact grows_runs (update_running_keeps failed)
      case h_2 => cases done
  | readingVersion tenantId id =>
      delta operate at done
      dsimp only at done
      split at done
      · obtain ⟨rfl, rfl⟩ := Prod.mk.inj (Option.some.inj done)
        exact grows_refl none
      · obtain ⟨rfl, rfl⟩ := Prod.mk.inj (Option.some.inj done)
        exact grows_refl none
  | transitioning tenantId id status =>
      delta operate at done
      dsimp only at done
      split at done
      case h_1 tables changed =>
          obtain ⟨rfl, rfl⟩ := Prod.mk.inj (Option.some.inj done)
          exact grows_of (transition_price_table_evolves changed) rfl rfl rfl
            (fun _ member => member) (fun _ _ => rfl) fun _ => rfl
      case h_2 => cases done

/-- A table of forecasts with one row that is new or was not completed. -/
theorem grows_forecasts {table : ForecastRunTable} {forecast : ForecastRun} {output : Json}
    (uri : forecast.outputUri = some (forecastKey forecast.id))
    (other : ∀ run, shared.forecasts.find forecast.id = some run → run.status ≠ .completed)
    (found : ∀ id, table.find id =
      if forecast.id = id then some forecast else shared.forecasts.find id)
    (objects : effect = { shared with forecasts := table } ∨
      effect = Shared.putObject { shared with forecasts := table } (forecastKey forecast.id) output) :
    Grows runtime none shared effect := by
  have same : effect.toPriceTableRows = shared.toPriceTableRows ∧ effect.runs = shared.runs ∧
      effect.forecasts = table ∧ effect.drawn = shared.drawn ∧ effect.sources = shared.sources ∧
      ∀ key, key ≠ forecastKey forecast.id → effect.objects key = shared.objects key := by
    rcases objects with rfl | rfl
    · exact ⟨rfl, rfl, rfl, rfl, rfl, fun _ _ => rfl⟩
    · exact ⟨rfl, rfl, rfl, rfl, rfl, fun key different => Function.update_of_ne different ..⟩
  obtain ⟨prices, runs, forecasts, drawn, sources, objects⟩ := same
  refine ⟨prices ▸ evolves_refl _, fun id run present => ⟨run, by rw [runs]; exact present, rfl⟩,
    fun id later absent present => ?_,
    fun id _ => objects _ (forecast_ne_snapshot forecast.id id).symm,
    fun id run present completed => ?_, fun id run present _ => ?_,
    fun id member => by rw [drawn]; exact member,
    fun source member => Or.inl (by rw [← sources]; exact member)⟩
  · rw [runs, absent] at present
    cases present
  · have different : forecast.id ≠ id := by
      rintro rfl
      exact other run present completed
    refine ⟨by rw [forecasts, found, if_neg different, present], objects _ fun equal => ?_⟩
    exact different (forecast_key_injective equal).symm
  · rw [forecasts, found] at present
    split_ifs at present with mine
    · obtain rfl := Option.some.inj present
      exact Or.inr (mine ▸ uri)
    · exact Or.inl present

/-- A forecast run that is stored leaves the completed ones and their outputs alone. -/
theorem store_forecast_grows {forecast : ForecastRun} {output : Json}
    (done : storeForecast forecast output shared = some effect) :
    Grows runtime none shared effect := by
  let stored : ForecastRun := { forecast with outputUri := some (forecastKey forecast.id) }
  simp only [storeForecast] at done
  split at done
  case h_1 absent =>
      have found : ∀ id, (shared.forecasts.insert stored).find id =
          if stored.id = id then some stored else shared.forecasts.find id := by
        intro id
        rw [KeyedTable.find_insert]
        by_cases mine : stored.id = id
        · have missing : shared.forecasts.find id = none := mine ▸ absent
          rw [missing, Option.none_or]
        · rw [if_neg mine, if_neg mine, Option.or_none]
      refine @grows_forecasts runtime shared effect _ stored output rfl
        (fun run present => by cases absent.symm.trans present) found ?_
      obtain rfl := Option.some.inj done
      split_ifs
      · exact Or.inr rfl
      · exact Or.inl rfl
  case h_2 old present =>
      by_cases ended : old.status = .completed
      · rw [if_pos ended] at done
        cases done
      · rw [if_neg ended] at done
        have found : ∀ id, (shared.forecasts.put stored).find id =
            if stored.id = id then some stored else shared.forecasts.find id := by
          intro id
          rw [KeyedTable.find_put]
          by_cases mine : stored.id = id
          · have here : shared.forecasts.find id = some old := mine ▸ present
            rw [if_pos mine, if_pos mine, here, Option.map_some]
          · rw [if_neg mine, if_neg mine]
        have other : ∀ run, shared.forecasts.find stored.id = some run → run.status ≠ .completed :=
          fun run again => Option.some.inj (present.symm.trans again) ▸ ended
        refine @grows_forecasts runtime shared effect _ stored output rfl other found ?_
        obtain rfl := Option.some.inj done
        split_ifs
        · exact Or.inr rfl
        · exact Or.inl rfl

/-- So do the requests beside the workers. -/
theorem environment_grows {event : Event}
    (change : environment runtime event shared = some effect) :
    Grows runtime none shared effect := by
  have prices {tables : PriceTableRows} (evolves : Evolves shared.toPriceTableRows tables) :
      Grows runtime none shared (shared.withPrices tables) :=
    grows_of evolves rfl rfl rfl (fun _ member => member) (fun _ _ => rfl) fun _ => rfl
  cases event with
  | tick elapsed =>
      obtain rfl := Option.some.inj change
      exact grows_of (evolves_refl _) rfl rfl rfl (fun _ member => member) (fun _ _ => rfl)
        fun _ => rfl
  | createPriceTable tenantId request =>
      simp only [environment] at change
      split_ifs at change
      obtain ⟨tables, accepted, rfl⟩ := Option.map_eq_some_iff.mp change
      exact prices (create_price_table_evolves (to_option_some.mp accepted))
  | retirePriceTable tenantId id status =>
      simp only [environment] at change
      split_ifs at change
      obtain ⟨tables, accepted, rfl⟩ := Option.map_eq_some_iff.mp change
      exact prices (transition_price_table_evolves (to_option_some.mp accepted))
  | insertPriceItem item =>
      obtain ⟨tables, accepted, rfl⟩ := Option.map_eq_some_iff.mp change
      exact prices (insert_price_table_item_evolves (to_option_some.mp accepted))
  | changePriceItems selects =>
      obtain ⟨tables, accepted, rfl⟩ := Option.map_eq_some_iff.mp change
      exact prices (change_price_tables_evolves (to_option_some.mp accepted))
  | forecast run output => exact store_forecast_grows change
  | policies policies =>
      obtain rfl := Option.some.inj change
      exact grows_of (evolves_refl _) rfl rfl rfl (fun _ member => member) (fun _ _ => rfl)
        fun _ => rfl
  | scenarios scenarios =>
      obtain rfl := Option.some.inj change
      exact grows_of (evolves_refl _) rfl rfl rfl (fun _ member => member) (fun _ _ => rfl)
        fun _ => rfl
  | accounts tenants users =>
      obtain rfl := Option.some.inj change
      exact grows_of (evolves_refl _) rfl rfl rfl (fun _ member => member) (fun _ _ => rfl)
        fun _ => rfl

end Operations

section Discipline

variable {runtime : OptimizerRuntime} {worker : Nat} {input : Input} {shared effect : Shared}
  {after : Option Phase} {phase next : Phase}

theorem resolve_inputs_forecast {request : OptimizerRunCreateInput} {forecast : Option ForecastRun}
    {policy : Option OptimizerPolicy} {scenario : Option Scenario}
    {prices : Option (List PriceTables.PriceTableVersions.PriceTableVersion)}
    {inputs : ResolvedInputs}
    (accepted : resolveInputs request forecast policy scenario prices = .ok inputs) :
    forecast = some inputs.forecast ∧ inputs.forecast.status = .completed := by
  unfold resolveInputs at accepted
  split at accepted
  · split_ifs at accepted with missing unfinished
    obtain rfl := Except.ok.inj accepted
    exact ⟨rfl, not_not.mp unfinished⟩
  · cases accepted

theorem ask_forecast {tenantId : Uuid} {request : OptimizerRunCreateInput} {answers : InputAnswers}
    {query : InputQuery} {forecast : ForecastRun}
    (answered : (answers.ask tenantId request shared query).forecast = some (some forecast)) :
    answers.forecast = some (some forecast) ∨ shared.forecasts.find forecast.id = some forecast := by
  cases query with
  | forecast =>
      cases earlier : answers.forecast with
      | none =>
          simp only [InputAnswers.ask, earlier, Option.orElse_eq_orElse, Option.orElse_none,
            Option.some.injEq, forecastRun] at answered
          obtain ⟨found, _⟩ := Option.filter_eq_some_iff.mp answered
          have key := KeyedTable.key_of_find found
          exact Or.inr (key ▸ found)
      | some value =>
          simp only [InputAnswers.ask, earlier] at answered
          exact Or.inl answered
  | policy => exact Or.inl answered
  | scenario => exact Or.inl answered
  | prices => exact Or.inl answered

/-- A snapshot names the output of its forecast. -/
theorem forecast_output_uri_snapshot {runId : Uuid} {request : OptimizerRunCreateInput}
    {inputs : ResolvedInputs} {randomSeed : Int} {key : String}
    (uri : inputs.forecast.outputUri = some key) :
    forecastOutputUri (recordOf (inputSnapshot runId request inputs randomSeed)) = key := by
  have named : forecastOutputUri (recordOf (inputSnapshot runId request inputs randomSeed)) =
      stringAt (.object [("outputUri", optionJson .string inputs.forecast.outputUri)]) "outputUri" :=
    rfl
  rw [named, uri]
  rfl

/-- The run and the snapshot that a request goes on with. -/
theorem resolved_holds {tenantId actorUserId : Uuid} {request : OptimizerRunCreateInput}
    {answers : InputAnswers} (sound : Sound runtime shared)
    (read : ∀ forecast, answers.forecast = some (some forecast) → forecast.status = .completed →
      shared.forecasts.find forecast.id = some forecast)
    (ready : resolved runtime tenantId actorUserId request answers input.drawnId shared.clock =
      some (some next)) (fresh : input.drawnId ∉ shared.drawn) :
    creates next = some input.drawnId ∧
      Holds runtime worker next { shared with drawn := input.drawnId :: shared.drawn } := by
  obtain ⟨forecast, policy, scenario, prices, inputs, same, accepted, rfl⟩ :=
    resolved_ok runtime ready
  obtain ⟨rfl, completed⟩ := resolve_inputs_forecast accepted
  have found := read inputs.forecast (by rw [same]) completed
  have uri := sound.forecasts _ _ found completed
  have absent : shared.runs.find input.drawnId = none := by
    by_contra present
    obtain ⟨run, stored⟩ := Option.ne_none_iff_exists'.mp present
    have key := KeyedTable.key_of_find stored
    exact fresh (key ▸ (sound.runs _ run stored).1.drawn)
  exact ⟨rfl, absent, rfl, List.mem_cons_self, inputs.forecast.id, inputs.forecast, found, completed,
    forecast_output_uri_snapshot uri⟩

theorem holds_separate (holds : Holds runtime worker phase shared) :
    Separate (creates phase) shared := by
  intro id run found mine
  have absent : shared.runs.find id = none := by
    cases phase with
    | storingSnapshot => exact Option.some.inj mine ▸ holds.1
    | creating => exact Option.some.inj mine ▸ holds.1
    | _ => cases mine
  exact nomatch absent.symm.trans found

theorem storing_snapshot_holds {run : OptimizerRun} {snapshot : Json}
    (holds : Holds runtime worker (.storingSnapshot run snapshot) shared) :
    Holds runtime worker (.creating run) (shared.putObject run.inputSnapshotUri snapshot) := by
  obtain ⟨absent, uri, drawn, id, forecast, found, sourced⟩ := holds
  refine ⟨absent, uri, drawn, recordOf snapshot, ?_, id, forecast, found, sourced⟩
  simp only [readJson, Shared.putObject, Function.update_self, Option.map_some]

/-- A worker that has claimed its run, or the activation of a price table. -/
def reads : Phase → Bool
  | .resolving _ _ _ _ | .storingSnapshot _ _ | .creating _ | .claiming => false
  | _ => true

/-- What a party knows at the phase it goes on with, before the effect of its
operation on the tables and objects it does not own. -/
theorem onward_holds (holds : Holds runtime worker phase shared)
    (done : operate runtime worker input phase shared = some (effect, after))
    (same : after = some next) (plain : reads phase = true) :
    creates next = none ∧ Holds runtime worker next shared := by
  subst same
  cases phase with
  | resolving => cases plain
  | storingSnapshot => cases plain
  | creating => cases plain
  | claiming => cases plain
  | readingSnapshot run =>
      obtain ⟨snapshot, stored, pair⟩ := Option.map_eq_some_iff.mp done
      obtain ⟨_, goes⟩ := Prod.mk.inj pair
      obtain rfl := Option.some.inj goes
      exact ⟨rfl, holds, stored⟩
  | readingForecast run snapshot =>
      obtain ⟨forecast, stored, pair⟩ := Option.map_eq_some_iff.mp done
      obtain ⟨_, goes⟩ := Prod.mk.inj pair
      obtain rfl := Option.some.inj goes
      refine ⟨rfl, holds.1, ?_⟩
      simp only [workerInputs, holds.2, stored, Option.bind_eq_bind, Option.bind_some, Option.pure_def]
  | listing run snapshot forecast =>
      obtain ⟨candidates, computed, pair⟩ := Option.map_eq_some_iff.mp done
      obtain ⟨_, goes⟩ := Prod.mk.inj pair
      obtain rfl := Option.some.inj goes
      refine ⟨rfl, holds.1, ?_, ?_⟩
      · simp only [workerCandidates, holds.2, Option.bind_eq_bind, Option.bind_some, computed]
      · simp only [workerItem, holds.2, Option.bind_eq_bind, Option.bind_some]
  | storingFrontier run snapshot candidates item =>
      obtain ⟨_, goes⟩ := Prod.mk.inj (Option.some.inj done)
      cases chosen : selectCandidate candidates with
      | none =>
          rw [chosen] at goes
          obtain rfl := Option.some.inj goes
          exact ⟨rfl, trivial⟩
      | some selected =>
          rw [chosen] at goes
          obtain rfl := Option.some.inj goes
          exact ⟨rfl, holds.1, holds.2.2⟩
  | markingInfeasible run candidates =>
      delta operate at done
      dsimp only at done
      split at done <;> cases done
  | storingOutput run snapshot selected item =>
      obtain ⟨_, goes⟩ := Prod.mk.inj (Option.some.inj done)
      obtain rfl := Option.some.inj goes
      exact ⟨rfl, holds⟩
  | inserting run snapshot selected item =>
      delta operate at done
      dsimp only at done
      split at done
      · cases done
      · split at done
        · obtain ⟨_, goes⟩ := Prod.mk.inj (Option.some.inj done)
          obtain rfl := Option.some.inj goes
          exact ⟨rfl, trivial⟩
        · cases done
  | completing run =>
      delta operate at done
      dsimp only at done
      split at done <;> cases done
  | failing run =>
      delta operate at done
      dsimp only at done
      split at done <;> cases done
  | readingVersion tenantId id =>
      delta operate at done
      dsimp only at done
      split at done
      · cases done
      · obtain ⟨_, goes⟩ := Prod.mk.inj (Option.some.inj done)
        obtain rfl := Option.some.inj goes
        exact ⟨rfl, trivial⟩
  | transitioning tenantId id status =>
      delta operate at done
      dsimp only at done
      split at done <;> cases done

/-- What a party knows at the phase it goes on with, and the run it is to store. -/
theorem operate_holds (sound : Sound runtime shared) (holds : Holds runtime worker phase shared)
    (done : operate runtime worker input phase shared = some (effect, after))
    (same : after = some next) :
    Holds runtime worker next effect ∧
      ∀ id, creates next = some id → creates phase = some id ∨ id ∉ shared.drawn := by
  have grows := operate_grows holds done
  have separate := holds_separate holds
  have lifted (plain : reads phase = true) :
      Holds runtime worker next effect ∧
        ∀ id, creates next = some id → creates phase = some id ∨ id ∉ shared.drawn := by
    obtain ⟨none, known⟩ := onward_holds holds done same plain
    exact ⟨grows_holds sound grows separate (fun id mine => nomatch none.symm.trans mine) known,
      fun id mine => nomatch none.symm.trans mine⟩
  cases phase with
  | resolving tenantId actorUserId request answers =>
      have read : ∀ forecast, (answers.ask tenantId request shared input.query).forecast =
          some (some forecast) → forecast.status = .completed →
          shared.forecasts.find forecast.id = some forecast := by
        intro forecast answered completed
        rcases ask_forecast answered with earlier | found
        · exact holds forecast earlier completed
        · exact found
      delta operate at done
      dsimp only at done
      split at done
      · obtain ⟨rfl, rfl⟩ := Prod.mk.inj (Option.some.inj done)
        obtain rfl := Option.some.inj same
        exact ⟨read, fun _ mine => nomatch mine⟩
      · obtain ⟨_, rfl⟩ := Prod.mk.inj (Option.some.inj done)
        cases same
      · next onward ready =>
          split_ifs at done with taken
          obtain ⟨rfl, rfl⟩ := Prod.mk.inj (Option.some.inj done)
          obtain rfl := Option.some.inj same
          obtain ⟨mine, known⟩ := resolved_holds sound read ready taken
          refine ⟨known, fun id other => Or.inr ?_⟩
          obtain rfl := Option.some.inj (mine.symm.trans other)
          exact taken
  | storingSnapshot run snapshot =>
      obtain ⟨rfl, rfl⟩ := Prod.mk.inj (Option.some.inj done)
      obtain rfl := Option.some.inj same
      exact ⟨storing_snapshot_holds holds, fun _ mine => Or.inl mine⟩
  | creating run =>
      delta operate at done
      dsimp only at done
      split at done
      · obtain ⟨_, rfl⟩ := Prod.mk.inj (Option.some.inj done)
        cases same
      · cases done
  | claiming =>
      delta operate at done
      dsimp only at done
      split at done
      case h_1 run runs claimed =>
          obtain ⟨rfl, rfl⟩ := Prod.mk.inj (Option.some.inj done)
          obtain rfl := Option.some.inj same
          exact ⟨⟨run, (claim_keeps claimed).2 run rfl, rfl⟩, fun _ mine => nomatch mine⟩
      case h_2 =>
          obtain ⟨_, rfl⟩ := Prod.mk.inj (Option.some.inj done)
          cases same
      case h_3 => cases done
  | _ => exact lifted rfl

theorem rescue_creates (same : rescue phase = some next) : creates next = none := by
  obtain ⟨run, _, rfl, _⟩ := RecommendationCompletion.rescue_cases same
  rfl

/-- A `catch` relies on nothing that was read. -/
theorem rescue_holds (same : rescue phase = some next) : Holds runtime worker next shared := by
  obtain ⟨run, _, rfl, _⟩ := RecommendationCompletion.rescue_cases same
  trivial

theorem entry_holds (entered : entry phase = true) :
    Holds runtime worker phase shared ∧ creates phase = none := by
  cases phase with
  | resolving tenantId actorUserId request answers =>
      refine ⟨fun forecast answered _ => ?_, rfl⟩
      unfold entry at entered
      split at entered
      · next same => cases same
      · next same => cases same
      · next same =>
          cases same
          cases answered
      · cases entered
  | claiming => exact ⟨trivial, rfl⟩
  | readingVersion => exact ⟨trivial, rfl⟩
  | _ => cases entered

theorem creates_drawn {id : Uuid} (holds : Holds runtime worker phase shared)
    (mine : creates phase = some id) : id ∈ shared.drawn := by
  cases phase with
  | storingSnapshot => exact Option.some.inj mine ▸ holds.2.2.1
  | creating => exact Option.some.inj mine ▸ holds.2.drawn
  | _ => cases mine

/-- The stored run of a creation has its snapshot. -/
theorem created_ready {id : Uuid} {later : OptimizerRun}
    (holds : Holds runtime worker phase shared)
    (done : operate runtime worker input phase shared = some (effect, after))
    (absent : shared.runs.find id = none) (found : effect.runs.find id = some later) :
    Ready effect later := by
  obtain ⟨mine, ready, _⟩ := (operate_grows holds done).created id later absent found
  cases phase with
  | storingSnapshot run snapshot =>
      obtain ⟨rfl, rfl⟩ := Prod.mk.inj (Option.some.inj done)
      exact nomatch absent.symm.trans found
  | creating run =>
      delta operate at done
      dsimp only at done
      split at done
      · obtain ⟨rfl, rfl⟩ := Prod.mk.inj (Option.some.inj done)
        exact ⟨ready.uri, ready.drawn, ready.stored⟩
      · cases done
  | _ => cases mine

theorem input_discipline (runtime : OptimizerRuntime) :
    Discipline (program runtime) (Sound runtime) (Holds runtime) Apart where
  symmetric := fun apart id mine same => apart id same mine
  entered := by
    intro worker phase shared entered _
    obtain ⟨holds, none⟩ := @entry_holds runtime worker shared phase entered
    exact ⟨holds, fun other id mine => nomatch none.symm.trans mine⟩
  operated := by
    intro worker input phase shared effect after sound holds done
    have grows := operate_grows holds done
    refine ⟨grows_sound sound grows (holds_separate holds) fun id later absent found =>
      created_ready holds done absent found, fun next same => ?_⟩
    rcases same with same | same
    · exact (operate_holds sound holds done same).1
    · exact rescue_holds same
  failed := fun _ _ same => rescue_holds same
  undisturbed := by
    intro worker input phase shared effect after other otherPhase sound holds different others apart
      done
    refine ⟨grows_holds sound (operate_grows holds done) (holds_separate holds)
      (fun id theirs mine => apart id mine theirs) others, fun next same id mine theirs => ?_⟩
    rcases (operate_holds sound holds done same).2 id mine with old | fresh
    · exact apart id old theirs
    · exact fresh (creates_drawn others theirs)
  still_apart := fun _ same _ mine => nomatch (rescue_creates same).symm.trans mine
  external := by
    intro event shared effect sound change
    have grows := @environment_grows runtime shared effect event change
    refine ⟨grows_sound sound grows (fun _ _ _ => nofun) fun id later absent found => ?_,
      fun worker phase holds => grows_holds sound grows (fun _ _ _ => nofun) (fun _ _ => nofun) holds⟩
    exact nomatch (grows.created id later absent found).1

end Discipline

section Runs

variable {runtime : OptimizerRuntime} {shared : Shared} {created finish : OptimizerState}

/-- No run has been created, and the forecast worker has stored what is completed. -/
structure NoRuns (shared : Shared) : Prop where
  runs : ∀ id, shared.runs.find id = none
  sources : shared.sources = []
  forecasts : ∀ id run, shared.forecasts.find id = some run → run.status = .completed →
    run.outputUri = some (forecastKey id)

theorem reachable_sound (fresh : NoRuns shared)
    (reached : Reachable (optimizerStep runtime) (idle shared) finish) :
    Consistent (Sound runtime) (Holds runtime) Apart finish := by
  have sound : Sound runtime shared := by
    refine ⟨fun id run found => (nomatch (fresh.runs id).symm.trans found), fresh.forecasts, ?_⟩
    rw [fresh.sources]
    exact fun _ => nofun
  exact reachable_consistent (input_discipline runtime) (consistent_idle sound) reached

/-- What every later state keeps of the runs and of what their workers compute. -/
def KeepsInputs (runtime : OptimizerRuntime) (before after : Shared) : Prop :=
  ∀ id run, before.runs.find id = some run → ∃ later, after.runs.find id = some later ∧
    later.toOptimizerRunIdentity = run.toOptimizerRunIdentity ∧
    workerCandidates runtime later after = workerCandidates runtime run before ∧
    workerItem runtime later after = workerItem runtime run before

theorem keeps_inputs_refl (shared : Shared) : KeepsInputs runtime shared shared :=
  fun _ run found => ⟨run, found, rfl, rfl, rfl⟩

theorem keeps_inputs_trans {first second third : Shared} (left : KeepsInputs runtime first second)
    (right : KeepsInputs runtime second third) : KeepsInputs runtime first third := by
  intro id run found
  obtain ⟨middle, middleFound, identity, candidates, item⟩ := left id run found
  obtain ⟨later, laterFound, identity', candidates', item'⟩ := right id middle middleFound
  exact ⟨later, laterFound, identity'.trans identity, candidates'.trans candidates,
    item'.trans item⟩

theorem grows_keeps {creating : Option Uuid} {before after : Shared} (sound : Sound runtime before)
    (grows : Grows runtime creating before after) (separate : Separate creating before) :
    KeepsInputs runtime before after := by
  intro id run found
  obtain ⟨later, laterFound, identity, _, _, _, computed⟩ := grows_run sound grows separate found
  exact ⟨later, laterFound, identity, computed⟩

theorem step_grows {state next : OptimizerState} {action : OptimizerAction}
    (consistent : Consistent (Sound runtime) (Holds runtime) Apart state)
    (taken : optimizerStep runtime state action = some next) :
    ∃ creating, Grows runtime creating state.shared next.shared ∧ Separate creating state.shared := by
  have unmoved : ∃ creating, Grows runtime creating state.shared state.shared ∧
      Separate creating state.shared := ⟨none, grows_refl none, fun _ _ _ => nofun⟩
  cases step_stepped taken with
  | called => exact unmoved
  | operated worker input phase effect after onward busy operation _ =>
      have holds := consistent.holds busy
      exact ⟨creates phase, operate_grows holds operation, holds_separate holds⟩
  | failed => exact unmoved
  | stopped => exact unmoved
  | happened event effect change => exact ⟨none, environment_grows change, fun _ _ _ => nofun⟩

theorem reachable_keeps_inputs
    (consistent : Consistent (Sound runtime) (Holds runtime) Apart created)
    (reached : Reachable (optimizerStep runtime) created finish) :
    KeepsInputs runtime created.shared finish.shared :=
  @reachable_relates _ _ (optimizerStep runtime) _
    (fun before after => KeepsInputs runtime before.shared after.shared)
    (fun state => keeps_inputs_refl state.shared)
    (fun _ _ _ first second => keeps_inputs_trans first second)
    (fun _ _ _ before taken => by
      obtain ⟨_, grows, separate⟩ := step_grows before taken
      exact ⟨step_consistent (input_discipline runtime) before taken,
        grows_keeps before.invariant grows separate⟩)
    _ _ consistent reached

/-- Whatever is attempted after a run is created, the candidates that its inputs yield
stay the same, and they are the ones that its worker computes. -/
theorem candidates_frozen {id : Uuid} {run : OptimizerRun} (fresh : NoRuns shared)
    (reached : Reachable (optimizerStep runtime) (idle shared) created)
    (stored : created.shared.runs.find id = some run)
    (later : Reachable (optimizerStep runtime) created finish) :
    ∃ row, finish.shared.runs.find id = some row ∧
      row.toOptimizerRunIdentity = run.toOptimizerRunIdentity ∧
      workerCandidates runtime row finish.shared = workerCandidates runtime run created.shared ∧
      ∀ worker claimed snapshot candidates item,
        finish.workers worker = some (.storingFrontier claimed snapshot candidates item) →
        claimed.id = id → workerCandidates runtime run created.shared = some candidates := by
  have consistent := reachable_sound fresh reached
  obtain ⟨row, found, identity, candidates, _⟩ := reachable_keeps_inputs consistent later id run stored
  refine ⟨row, found, identity, candidates, fun worker claimed snapshot computed item busy mine => ?_⟩
  have onward := reachable_consistent (input_discipline runtime) consistent later
  obtain ⟨⟨other, otherFound, same⟩, yields, _⟩ := onward.holds busy
  subst mine
  obtain rfl := Option.some.inj (found.symm.trans otherFound)
  rw [← candidates, (@worker_inputs_congr runtime finish.shared row claimed same).2.1, yields]

theorem opening_no_runs : NoRuns opening where
  runs := fun _ => rfl
  sources := rfl
  forecasts := by
    intro id run found _
    obtain ⟨member, rfl⟩ := KeyedTable.find_eq_some.mp found
    rcases KeyedTable.mem_of_mem_insert member with none | rfl
    · exact absurd none (KeyedTable.not_mem_empty run)
    · rfl

/-- Before the run is processed, its price table is blocked, an UPDATE of items matches
none, and the policies and the scenarios disappear. -/
def upheaval : List OptimizerAction :=
  [.external (.retirePriceTable 1 4 .blocked), .external (.changePriceItems fun _ => false),
   .external (.policies KeyedTable.empty), .external (.scenarios KeyedTable.empty)]

theorem candidates_frozen_upheaval :
    ∃ (created finish : OptimizerState) (run row : OptimizerRun),
      created.shared.runs.find 7 = some run ∧ finish.shared.runs.find 7 = some row ∧
      (workerCandidates insertionOrder run created.shared).isSome ∧
      workerCandidates insertionOrder row finish.shared =
        workerCandidates insertionOrder run created.shared := by
  have checked : (execute (optimizerStep insertionOrder) (idle opening)
      (activation ++ creation)).any (fun created =>
        (created.shared.runs.find 7).any (fun run =>
          (workerCandidates insertionOrder run created.shared).isSome) &&
        (execute (optimizerStep insertionOrder) created (upheaval ++ processing)).isSome) = true := by
    decide +kernel
  obtain ⟨created, ran, checked⟩ := (Option.any_eq_true _ _).mp checked
  obtain ⟨present, onward⟩ := Bool.and_eq_true_iff.mp checked
  obtain ⟨run, stored, computed⟩ := (Option.any_eq_true _ _).mp present
  obtain ⟨finish, later⟩ := Option.isSome_iff_exists.mp onward
  obtain ⟨row, found, _, same, _⟩ :=
    candidates_frozen opening_no_runs ⟨_, ran⟩ stored ⟨_, later⟩
  exact ⟨created, finish, run, row, stored, found, computed, same⟩

end Runs

end CommitmentOptimizer.Optimizer.FrozenInputs
