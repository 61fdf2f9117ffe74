import CommitmentOptimizer.Optimizer.FrozenInputs

/-!
# Stale prices and recommendations

Activation refuses a stale version, and nothing looks at the dates of a version again:
a run takes every active version, and its worker every item of it.
-/

namespace CommitmentOptimizer.Optimizer.StalePrices

open Foundations
open Foundations.FaultyWorkers
open Foundations.Schedules
open Foundations.SqlConstraints
open PriceTables.PriceTableVersions
open PriceTables.PriceTableItems
open PriceTables.PriceTableStatements
open OptimizerRuns
open Candidates
open OptimizerRunCreation
open OptimizerWorker
open RecommendationCompletion (idle opening insertionOrder activation creation processing)
open FrozenInputs

set_option autoImplicit false

section Selection

variable {run : OptimizerRun} {snapshot forecast : Json} {rows : List PriceTableItem}

/-- The rows with their candidates are the candidates. -/
theorem evaluated_rows_candidates {candidates : List CommitmentInstrumentCandidate}
    (evaluated : evaluateItems run snapshot forecast (rows.map optimizerPriceItem) = some candidates) :
    (evaluatedRows run snapshot forecast rows).map Prod.snd = candidates := by
  obtain ⟨policy, known, listed⟩ := Option.bind_eq_some_iff.mp evaluated
  obtain ⟨lists, each, same⟩ := Option.bind_eq_some_iff.mp listed
  obtain rfl := Option.some.inj same
  clear evaluated listed same
  induction rows generalizing lists with
  | nil =>
      obtain rfl := Option.some.inj each
      rfl
  | cons row rest induction =>
      rw [List.map_cons, List.mapM_cons] at each
      obtain ⟨first, own, each⟩ := Option.bind_eq_some_iff.mp each
      obtain ⟨others, remaining, same⟩ := Option.bind_eq_some_iff.mp each
      obtain rfl := Option.some.inj same
      have single : evaluateItems run snapshot forecast [optimizerPriceItem row] = some first := by
        simp only [evaluateItems, known, Option.bind_eq_bind, Option.bind_some, List.mapM_cons,
          List.mapM_nil, own]
        simp
      rw [evaluatedRows, List.flatMap_cons, List.map_append, single, List.flatten_cons,
        ← induction others remaining, evaluatedRows]
      simp

/-- A selected row is among the rows and has a candidate. -/
theorem selected_row_mem {row : PriceTableItem}
    (chosen : selectedRow run snapshot forecast rows = some row) : row ∈ rows := by
  obtain ⟨⟨_, candidate⟩, found, rfl⟩ := Option.map_eq_some_iff.mp chosen
  have member := (List.mem_insertionSort _).mp (List.mem_of_find?_eq_some found)
  obtain ⟨source, stored, pairs⟩ := List.mem_flatMap.mp member
  obtain ⟨_, _, same⟩ := List.mem_map.mp pairs
  obtain ⟨rfl, _⟩ := Prod.mk.inj same
  exact stored

/-- The selected candidate is the one of the selected row. -/
theorem selected_pair {candidates : List CommitmentInstrumentCandidate}
    (computed : optimizeCommitmentRun run snapshot forecast (rows.map optimizerPriceItem) =
      some candidates) :
    selectCandidate candidates =
      (((evaluatedRows run snapshot forecast rows).insertionSort fun left right =>
        compareCandidates left.2 right.2 ≤ 0).find? fun pair => pair.2.feasible).map Prod.snd := by
  unfold optimizeCommitmentRun at computed
  split_ifs at computed
  obtain ⟨unsorted, evaluated, same⟩ := Option.bind_eq_some_iff.mp computed
  obtain rfl := Option.some.inj same
  have sorted : ((evaluatedRows run snapshot forecast rows).insertionSort fun left right =>
      compareCandidates left.2 right.2 ≤ 0).map Prod.snd =
        unsorted.insertionSort fun left right => compareCandidates left right ≤ 0 := by
    rw [← evaluated_rows_candidates evaluated]
    exact List.map_insertionSort _ _ _ _ fun _ _ _ _ => Iff.rfl
  rw [selectCandidate, List.head?_filter, ← sorted, List.find?_map]
  rfl

/-- A pair of an evaluated row. -/
theorem mem_evaluated_rows {row : PriceTableItem} {candidate : CommitmentInstrumentCandidate}
    (member : (row, candidate) ∈ evaluatedRows run snapshot forecast rows) :
    ∃ evaluated, evaluateItems run snapshot forecast [optimizerPriceItem row] = some evaluated ∧
      candidate ∈ evaluated := by
  obtain ⟨source, _, pairs⟩ := List.mem_flatMap.mp member
  obtain ⟨own, inside, same⟩ := List.mem_map.mp pairs
  obtain ⟨rfl, rfl⟩ := Prod.mk.inj same
  cases single : evaluateItems run snapshot forecast [optimizerPriceItem source] with
  | none =>
      rw [single] at inside
      cases inside
  | some lists =>
      rw [single] at inside
      exact ⟨lists, rfl, inside⟩

/-- The row that the worker selects is the one that its selected candidate was
evaluated from. -/
theorem selected_row_candidate {candidates : List CommitmentInstrumentCandidate}
    (computed : optimizeCommitmentRun run snapshot forecast (rows.map optimizerPriceItem) =
      some candidates) {row : PriceTableItem}
    (chosen : selectedRow run snapshot forecast rows = some row) :
    ∃ selected evaluated, selectCandidate candidates = some selected ∧
      evaluateItems run snapshot forecast [optimizerPriceItem row] = some evaluated ∧
      selected ∈ evaluated := by
  obtain ⟨⟨_, candidate⟩, found, rfl⟩ := Option.map_eq_some_iff.mp chosen
  have member := (List.mem_insertionSort _).mp (List.mem_of_find?_eq_some found)
  obtain ⟨evaluated, single, inside⟩ := mem_evaluated_rows member
  refine ⟨candidate, evaluated, ?_, single, inside⟩
  rw [selected_pair computed, found]
  rfl

/-- A selected candidate has a selected row. -/
theorem select_candidate_row {candidates : List CommitmentInstrumentCandidate}
    (computed : optimizeCommitmentRun run snapshot forecast (rows.map optimizerPriceItem) =
      some candidates) {selected : CommitmentInstrumentCandidate}
    (chosen : selectCandidate candidates = some selected) :
    ∃ row evaluated, selectedRow run snapshot forecast rows = some row ∧
      evaluateItems run snapshot forecast [optimizerPriceItem row] = some evaluated ∧
      selected ∈ evaluated := by
  rw [selected_pair computed] at chosen
  obtain ⟨⟨row, _⟩, found, rfl⟩ := Option.map_eq_some_iff.mp chosen
  have member := (List.mem_insertionSort _).mp (List.mem_of_find?_eq_some found)
  obtain ⟨evaluated, single, inside⟩ := mem_evaluated_rows member
  refine ⟨row, evaluated, ?_, single, inside⟩
  rw [selectedRow, found]
  rfl

end Selection

section Expiry

/-- Stale by the rule of the activation, or outside its effective period. -/
def expired (staleDays : Nat) (version : PriceTableVersionIdentity) (instant : Instant) : Bool :=
  isStale version.effectiveFrom staleDays instant || !decide (version.effectiveFrom ≤ day instant) ||
    !notAfter (day instant) version.effectiveTo

/-- No recommendation of a run was created from an item of a version that had expired
when the run was created. -/
def NoExpiredSource (runtime : OptimizerRuntime) (shared : Shared) : Prop :=
  ∀ source ∈ shared.sources, ∀ run version, shared.runs.find source.runId = some run →
    shared.versions.find source.item.priceTableVersionId = some version →
    expired runtime.staleDays version.toPriceTableVersionIdentity run.createdAt = false

/-- The best feasible candidate of a run's inputs comes from a version that had expired
when the run was created. -/
def ChoosesExpired (runtime : OptimizerRuntime) (shared : Shared) (run : OptimizerRun) : Prop :=
  ∃ item version, workerItem runtime run shared = some item ∧
    shared.versions.find item.priceTableVersionId = some version ∧
    expired runtime.staleDays version.toPriceTableVersionIdentity run.createdAt = true

/-- The run that an action creates. -/
def created (runtime : OptimizerRuntime) (state : OptimizerState) :
    OptimizerAction → Option OptimizerRun
  | .advance worker input fault =>
      match state.workers worker with
      | some (.creating run) =>
          if fault ≠ .beforeEffect ∧
              (operate runtime worker input (.creating run) state.shared).isSome then
            some { run with createdAt := state.shared.clock, updatedAt := state.shared.clock }
          else none
      | _ => none
  | _ => none

variable {runtime : OptimizerRuntime} {before after : Shared} {run later : OptimizerRun}

theorem worker_item_version {item : PriceTableItem}
    (chosen : workerItem runtime run before = some item) :
    item.priceTableVersionId ∈ run.priceTableVersionIds := by
  obtain ⟨⟨snapshot, forecast⟩, _, chosen⟩ := Option.bind_eq_some_iff.mp chosen
  have member := (runtime.permutes _).mem_iff.mp (selected_row_mem chosen)
  have frozen := (List.mem_filter.mp member).2
  simp only [isFrozenItem, Bool.and_eq_true, List.contains_iff_mem] at frozen
  exact frozen.1.1.2

/-- The choice of a run stays, and so do the dates of its versions. -/
theorem chooses_expired_iff (evolves : Evolves before.toPriceTableRows after.toPriceTableRows)
    (released : PricesReleased before run)
    (identity : later.toOptimizerRunIdentity = run.toOptimizerRunIdentity)
    (item : workerItem runtime later after = workerItem runtime run before) :
    ChoosesExpired runtime after later ↔ ChoosesExpired runtime before run := by
  have moment : later.createdAt = run.createdAt := congrArg OptimizerRunIdentity.createdAt identity
  have versions : ∀ row, workerItem runtime run before = some row → ∃ old new,
      before.versions.find row.priceTableVersionId = some old ∧
      after.versions.find row.priceTableVersionId = some new ∧
      new.toPriceTableVersionIdentity = old.toPriceTableVersionIdentity := by
    intro row chosen
    obtain ⟨old, found, _⟩ := released _ (worker_item_version chosen)
    obtain ⟨new, newFound, same, _⟩ := evolves.versions _ old found
    exact ⟨old, new, found, newFound, same⟩
  constructor
  · rintro ⟨row, version, chosen, found, past⟩
    rw [item] at chosen
    obtain ⟨old, new, oldFound, newFound, same⟩ := versions row chosen
    obtain rfl := Option.some.inj (found.symm.trans newFound)
    exact ⟨row, old, chosen, oldFound, by rw [← same, ← moment]; exact past⟩
  · rintro ⟨row, version, chosen, found, past⟩
    obtain ⟨old, new, oldFound, newFound, same⟩ := versions row chosen
    obtain rfl := Option.some.inj (found.symm.trans oldFound)
    exact ⟨row, new, item.trans chosen, newFound, by rw [same, moment]; exact past⟩

end Expiry

section Steps

variable {runtime : OptimizerRuntime} {state next finish : OptimizerState}
  {action : OptimizerAction} {run later : OptimizerRun} {id : Uuid}

/-- A run that is there keeps its choice. -/
theorem step_keeps_choice (consistent : Consistent (Sound runtime) (Holds runtime) Apart state)
    (taken : optimizerStep runtime state action = some next)
    (found : state.shared.runs.find id = some run) :
    ∃ later, next.shared.runs.find id = some later ∧
      (ChoosesExpired runtime next.shared later ↔ ChoosesExpired runtime state.shared run) := by
  obtain ⟨creating, grows, separate⟩ := step_grows consistent taken
  obtain ⟨later, laterFound, identity, _, _, _, _, item⟩ :=
    grows_run consistent.invariant grows separate found
  have released := (consistent.invariant.runs id run found).2
  exact ⟨later, laterFound, chooses_expired_iff grows.prices released identity item⟩

theorem reachable_keeps_choice (consistent : Consistent (Sound runtime) (Holds runtime) Apart state)
    (reached : Reachable (optimizerStep runtime) state finish)
    (found : state.shared.runs.find id = some run) :
    ∃ later, finish.shared.runs.find id = some later ∧
      (ChoosesExpired runtime finish.shared later ↔ ChoosesExpired runtime state.shared run) := by
  have related := @reachable_relates _ _ (optimizerStep runtime) _
    (fun before after : OptimizerState => ∀ run, before.shared.runs.find id = some run →
      ∃ later, after.shared.runs.find id = some later ∧
        (ChoosesExpired runtime after.shared later ↔ ChoosesExpired runtime before.shared run))
    (fun _ run found => ⟨run, found, Iff.rfl⟩)
    (fun _ _ _ left right run found => by
      obtain ⟨middle, middleFound, first⟩ := left run found
      obtain ⟨later, laterFound, second⟩ := right middle middleFound
      exact ⟨later, laterFound, second.trans first⟩)
    (fun _ _ _ before taken => ⟨step_consistent (input_discipline runtime) before taken,
      fun _ found => step_keeps_choice before taken found⟩)
    _ _ consistent reached
  exact related run found

theorem step_advance {worker : Nat} {input : Input} {fault : Fault} {phase : Phase}
    (taken : optimizerStep runtime state (.advance worker input fault) = some next)
    (busy : state.workers worker = some phase) :
    next.shared = if fault = .beforeEffect then state.shared
      else ((operate runtime worker input phase state.shared).map Prod.fst).getD state.shared := by
  obtain ⟨other, same, rfl⟩ := Option.map_eq_some_iff.mp taken
  obtain rfl := Option.some.inj (busy.symm.trans same)
  exact advance_shared (program runtime) worker input fault phase state.shared

/-- The row that a creation inserts. -/
theorem creating_ok {worker : Nat} {input : Input} {row : OptimizerRun} {shared effect : Shared}
    {after : Option Phase}
    (done : operate runtime worker input (.creating row) shared = some (effect, after)) :
    shared.runs.find row.id = none ∧ effect = { shared with
      runs := shared.runs.insert
        { row with createdAt := shared.clock, updatedAt := shared.clock } } := by
  delta operate at done
  dsimp only at done
  split at done
  case h_1 runs inserted =>
      obtain ⟨rfl, _⟩ := Prod.mk.inj (Option.some.inj done)
      obtain ⟨rfl, fresh, _⟩ := insert_optimizer_run_row_ok inserted
      exact ⟨fresh, rfl⟩
  case h_2 => cases done

/-- What the creation of a run stores. -/
theorem step_created (taken : optimizerStep runtime state action = some next)
    (new : created runtime state action = some run) :
    next.shared.runs.find run.id = some run ∧
      (ChoosesExpired runtime next.shared run ↔ ChoosesExpired runtime state.shared run) := by
  unfold created at new
  split at new
  case h_2 => cases new
  case h_1 worker input fault =>
      split at new
      case h_2 => cases new
      case h_1 row busy =>
          split_ifs at new with effective
          obtain rfl := Option.some.inj new
          obtain ⟨⟨effect, after⟩, operation⟩ := Option.isSome_iff_exists.mp effective.2
          obtain ⟨fresh, stored⟩ := creating_ok operation
          have moved := step_advance taken busy
          rw [if_neg effective.1, operation, Option.map_some, Option.getD_some, stored] at moved
          rw [moved]
          refine ⟨?_, Iff.rfl⟩
          rw [KeyedTable.find_insert, if_pos rfl]
          exact congrArg (Option.or · _) fresh

/-- A new run is the one that the action creates. -/
theorem step_new_run (consistent : Consistent (Sound runtime) (Holds runtime) Apart state)
    (taken : optimizerStep runtime state action = some next)
    (absent : state.shared.runs.find id = none) (found : next.shared.runs.find id = some later) :
    created runtime state action = some later := by
  cases action with
  | call worker phase =>
      simp only [optimizerStep, step] at taken
      split_ifs at taken
      obtain rfl := Option.some.inj taken
      cases absent.symm.trans found
  | stop worker =>
      obtain rfl := Option.some.inj taken
      cases absent.symm.trans found
  | external event =>
      obtain ⟨effect, change, rfl⟩ := Option.map_eq_some_iff.mp taken
      cases ((@environment_grows runtime _ _ _ change).created id later absent found).1
  | advance worker input fault =>
      obtain ⟨phase, busy, _⟩ := Option.map_eq_some_iff.mp taken
      have moved := step_advance taken busy
      by_cases unmoved : fault = .beforeEffect
      · rw [if_pos unmoved] at moved
        rw [moved, absent] at found
        cases found
      · rw [if_neg unmoved] at moved
        cases operation : operate runtime worker input phase state.shared with
        | none =>
            rw [operation, Option.map_none, Option.getD_none] at moved
            rw [moved, absent] at found
            cases found
        | some result =>
            obtain ⟨effect, after⟩ := result
            rw [operation, Option.map_some, Option.getD_some] at moved
            rw [moved] at found
            have mine := ((operate_grows (consistent.holds busy) operation).created id later absent
              found).1
            cases phase with
            | storingSnapshot row snapshot =>
                obtain ⟨rfl, rfl⟩ := Prod.mk.inj (Option.some.inj operation)
                cases absent.symm.trans found
            | creating row =>
                obtain ⟨fresh, rfl⟩ := creating_ok operation
                rw [KeyedTable.find_insert, absent, Option.none_or] at found
                split_ifs at found
                simp only [created, busy, operation, Option.isSome_some, unmoved, ne_eq,
                  not_false_eq_true, and_self, if_true]
                exact found
            | _ => cases mine

end Steps

section Runs

variable {runtime : OptimizerRuntime} {shared : Shared} {state finish : OptimizerState}
  {schedule : List OptimizerAction}

/-- No run whose choice has expired when it is created has a recommendation at the end. -/
def CreatesUnexpired (runtime : OptimizerRuntime) (finish : Shared) (state : OptimizerState)
    (action : OptimizerAction) : Prop :=
  ∀ run, created runtime state action = some run → ChoosesExpired runtime state.shared run →
    ∀ source ∈ finish.sources, source.runId ≠ run.id

/-- A source of a run is the choice of the run. -/
theorem source_expired (sound : Sound runtime shared) (clean : NoExpiredSource runtime shared)
    {run : OptimizerRun} {source : RecommendationSource} (member : source ∈ shared.sources)
    (found : shared.runs.find source.runId = some run) : ¬ ChoosesExpired runtime shared run := by
  rintro ⟨item, version, chosen, versionFound, past⟩
  obtain ⟨other, otherFound, item'⟩ := sound.sources source member
  obtain rfl := Option.some.inj (found.symm.trans otherFound)
  obtain rfl := Option.some.inj (chosen.symm.trans item')
  rw [clean source member run version found versionFound] at past
  cases past

theorem creates_unexpired_of_clean
    (consistent : Consistent (Sound runtime) (Holds runtime) Apart state)
    (ran : execute (optimizerStep runtime) state schedule = some finish)
    (clean : NoExpiredSource runtime finish.shared) :
    Along (optimizerStep runtime) (CreatesUnexpired runtime finish.shared) state schedule := by
  induction schedule generalizing state with
  | nil => trivial
  | cons action rest induction =>
      obtain ⟨next, taken, onward⟩ := execute_cons_some.mp ran
      have kept := step_consistent (input_discipline runtime) consistent taken
      refine ⟨fun run new past source member mine => ?_, fun other same => ?_⟩
      · obtain ⟨stored, choice⟩ := step_created taken new
        obtain ⟨later, found, still⟩ := reachable_keeps_choice kept ⟨rest, onward⟩ stored
        have sound := (reachable_consistent (input_discipline runtime) kept ⟨rest, onward⟩).invariant
        exact source_expired sound clean member (mine ▸ found) (still.mpr (choice.mpr past))
      · obtain rfl := Option.some.inj (taken.symm.trans same)
        exact induction kept onward

theorem clean_of_creates_unexpired
    (consistent : Consistent (Sound runtime) (Holds runtime) Apart state)
    (ran : execute (optimizerStep runtime) state schedule = some finish)
    (clean : ∀ id run, state.shared.runs.find id = some run →
      ChoosesExpired runtime state.shared run → ∀ source ∈ finish.shared.sources, source.runId ≠ id)
    (all : Along (optimizerStep runtime) (CreatesUnexpired runtime finish.shared) state schedule) :
    ∀ id run, finish.shared.runs.find id = some run → ChoosesExpired runtime finish.shared run →
      ∀ source ∈ finish.shared.sources, source.runId ≠ id := by
  induction schedule generalizing state with
  | nil =>
      cases ran
      exact clean
  | cons action rest induction =>
      obtain ⟨next, taken, onward⟩ := execute_cons_some.mp ran
      refine induction (step_consistent (input_discipline runtime) consistent taken) onward ?_
        (all.2 next taken)
      intro id later found past
      cases earlier : state.shared.runs.find id with
      | some run =>
          obtain ⟨other, otherFound, still⟩ := step_keeps_choice consistent taken earlier
          obtain rfl := Option.some.inj (found.symm.trans otherFound)
          exact clean id run earlier (still.mp past)
      | none =>
          have new := step_new_run consistent taken earlier found
          have key := KeyedTable.key_of_find found
          rw [← key]
          exact all.1 later new ((step_created taken new).2.mp past)

/-- Fifty days pass between the activation and the creation of the run. -/
def lateCreation : List OptimizerAction :=
  activation ++ .external (.tick 4320000000000) :: creation ++ processing

end Runs

end CommitmentOptimizer.Optimizer.StalePrices
