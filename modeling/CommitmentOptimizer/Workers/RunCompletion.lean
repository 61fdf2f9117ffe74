import CommitmentOptimizer.Workers.RunWorkers

/-!
# Completion of backtest and forecast runs

Both tables of runs are seen as one map from runs to their stage and output. An
operation of a worker changes the entry of its own run or that of a queued one, and
the order of its operations is kept in the history.
-/

namespace CommitmentOptimizer.Workers.RunCompletion

open Foundations
open Foundations.FaultyWorkers
open Foundations.Schedules
open Foundations.SqlConstraints
open Backtests.BacktestRuns
open Forecasting.ForecastRuns
open Reports.ReportSnapshots
open RunWorkers

set_option autoImplicit false

inductive Stage where
  | queued | running | completed | failed | cancelled
  deriving DecidableEq, Repr

def Stage.terminal : Stage → Bool
  | .completed | .failed | .cancelled => true
  | .queued | .running => false

structure RunView where
  stage : Stage
  outputUri : Option String
  deriving DecidableEq, Repr

def backtestView (run : BacktestRun) : RunView where
  stage := match run.status with
    | .queued => .queued
    | .running => .running
    | .completed => .completed
    | .failed => .failed
    | .cancelled => .cancelled
  outputUri := run.outputUri

def forecastView (run : ForecastRun) : RunView where
  stage := match run.status with
    | .queued => .queued
    | .running => .running
    | .completed => .completed
    | .failed => .failed
    | .cancelled => .cancelled
  outputUri := run.outputUri

def runView (shared : Shared) : RunKind × Uuid → Option RunView
  | (.backtest, id) => (shared.backtests.find id).map backtestView
  | (.forecast, id) => (shared.forecasts.find id).map forecastView

def names (id : Uuid) (report : ReportSnapshot) : Bool :=
  report.sourceType == .backtestRun && report.sourceId == id

def reportsNaming (shared : Shared) (id : Uuid) : Nat :=
  (shared.reports.rows.filter (names id)).length

def outputUri : RunKind → Uuid → String
  | .backtest, id => "backtests/" ++ uuidText id ++ "/output.json"
  | .forecast, id => "forecasts/" ++ uuidText id ++ "/seasonal-naive-v1.json"

theorem backtest_output_uri (run : BacktestRun) :
    backtestOutputUri run = outputUri .backtest run.id := rfl

theorem forecast_output_uri (run : ForecastRun) :
    forecastOutputUri run = outputUri .forecast run.id := rfl

/-- The run that an event claims. -/
def claim : HistoryEvent → Option (RunKind × Uuid)
  | .claimed kind run _ => some (kind, run)
  | .stored _ _ | .completed _ _ _ => none

/-- What is left to do with the run of a phase. -/
inductive Duty where
  | claiming | working | completing | failing
  deriving DecidableEq, Repr

def duty : Phase → Duty
  | .claimingBacktest | .claimingForecast => .claiming
  | .readingSnapshot _ | .replaying _ _ | .storingBacktest _ _
  | .forecasting _ _ | .storingForecast _ _ => .working
  | .completingBacktest _ _ | .completingForecast _ _ => .completing
  | .failingBacktest _ | .failingForecast _ => .failing

/-- What a worker knows of its run. -/
def Holds (worker : Nat) (phase : Phase) (shared : Shared) : Prop :=
  ∀ kind id, phase.run = some (kind, id) →
    .claimed kind id worker ∈ shared.history ∧
    (duty phase ≠ .failing → ∃ uri, runView shared (kind, id) = some ⟨.running, uri⟩) ∧
    (duty phase = .completing → .stored (outputUri kind id) worker ∈ shared.history ∧
      (shared.objects (outputUri kind id)).isSome)

/-- No two workers are at phases of one run. -/
def Apart (first second : Phase) : Prop :=
  ∀ run, first.run = some run → second.run ≠ some run

/-- A completion that follows the claim and the object of the same worker. -/
def CompletedAfterStoring (history : List HistoryEvent) (kind : RunKind) (id : Uuid)
    (worker : Nat) : Prop :=
  ∃ earlier later, history = earlier ++ .completed kind id worker :: later ∧
    .claimed kind id worker ∈ earlier ∧ .stored (outputUri kind id) worker ∈ earlier

structure Sound (shared : Shared) : Prop where
  reported : ∀ id row, runView shared (.backtest, id) = some row →
    reportsNaming shared id = if row.stage = .completed then 1 else 0
  outputs : ∀ kind id row, runView shared (kind, id) = some row → row.stage = .completed →
    row.outputUri = some (outputUri kind id) ∧ (shared.objects (outputUri kind id)).isSome ∧
      ∃ worker, CompletedAfterStoring shared.history kind id worker
  claims : (shared.history.filterMap claim).Nodup
  begun : ∀ kind id worker, .claimed kind id worker ∈ shared.history →
    ∃ row, runView shared (kind, id) = some row ∧ row.stage ≠ .queued
  ended : ∀ kind id worker, .completed kind id worker ∈ shared.history →
    ∃ row, runView shared (kind, id) = some row ∧ row.stage = .completed

section Effects

/-- What an operation of a worker does to the runs, the reports, the objects and the
history, and where it goes on. -/
inductive Effect (worker : Nat) (phase : Phase) (before effect : Shared) (after : Option Phase) :
    Prop
  | quiet (view : runView effect = runView before)
      (reports : effect.reports = before.reports) (objects : effect.objects = before.objects)
      (history : effect.history = before.history)
      (onward : ∀ next, after = some next →
        next.run = phase.run ∧ duty phase = .working ∧
          duty next = .working)
  | claimed (kind : RunKind) (id : Uuid) (old : RunView) (uri : Option String)
      (waiting : runView before (kind, id) = some old) (queued : old.stage = .queued)
      (view : runView effect =
        Function.update (runView before) (kind, id) (some ⟨.running, uri⟩))
      (reports : effect.reports = before.reports) (objects : effect.objects = before.objects)
      (history : effect.history = before.history ++ [.claimed kind id worker])
      (claiming : phase.run = none)
      (onward : ∀ next, after = some next →
        next.run = some (kind, id) ∧ duty next = .working)
  | dropped (kind : RunKind) (id : Uuid) (old : RunView) (uri : Option String)
      (waiting : runView before (kind, id) = some old) (queued : old.stage = .queued)
      (view : runView effect =
        Function.update (runView before) (kind, id) (some ⟨.running, uri⟩))
      (reports : effect.reports = before.reports) (objects : effect.objects = before.objects)
      (history : effect.history = before.history) (onward : after = none)
  | stored (kind : RunKind) (id : Uuid) (value : Json)
      (own : phase.run = some (kind, id)) (working : duty phase = .working)
      (view : runView effect = runView before)
      (reports : effect.reports = before.reports)
      (objects : effect.objects =
        Function.update before.objects (outputUri kind id) (some value))
      (history : effect.history = before.history ++ [.stored (outputUri kind id) worker])
      (onward : ∀ next, after = some next →
        next.run = some (kind, id) ∧ duty next = .completing)
  | completed (kind : RunKind) (id : Uuid) (own : phase.run = some (kind, id))
      (completing : duty phase = .completing)
      (view : runView effect = Function.update (runView before) (kind, id)
        (some ⟨.completed, some (outputUri kind id)⟩))
      (reports : ∀ other, reportsNaming effect other =
        reportsNaming before other + if kind = .backtest ∧ other = id then 1 else 0)
      (objects : effect.objects = before.objects)
      (history : effect.history = before.history ++ [.completed kind id worker])
      (onward : after = none)
  | failed (kind : RunKind) (id : Uuid) (uri : Option String)
      (own : phase.run = some (kind, id))
      (running : runView before (kind, id) = some ⟨.running, uri⟩)
      (view : runView effect =
        Function.update (runView before) (kind, id) (some ⟨.failed, none⟩))
      (reports : effect.reports = before.reports) (objects : effect.objects = before.objects)
      (history : effect.history = before.history) (onward : after = none)

theorem view_put_backtest {shared effect : Shared} {old row : BacktestRun} {id : Uuid}
    {view : RunView} (backtests : effect.backtests = shared.backtests.put row)
    (forecasts : effect.forecasts = shared.forecasts) (found : shared.backtests.find id = some old)
    (key : row.id = id) (same : backtestView row = view) :
    runView effect = Function.update (runView shared) (.backtest, id) (some view) := by
  subst key same
  funext ⟨kind, wanted⟩
  cases kind with
  | backtest =>
      simp only [runView, backtests, KeyedTable.find_put]
      by_cases same : row.id = wanted
      · obtain rfl := same
        rw [if_pos rfl, found, Function.update_self]
        rfl
      · rw [if_neg same, Function.update_of_ne fun equal => same (Prod.mk.inj equal).2.symm]
        rfl
  | forecast =>
      rw [Function.update_of_ne (by simp)]
      simp only [runView, forecasts]

theorem view_put_forecast {shared effect : Shared} {old row : ForecastRun} {id : Uuid}
    {view : RunView} (forecasts : effect.forecasts = shared.forecasts.put row)
    (backtests : effect.backtests = shared.backtests) (found : shared.forecasts.find id = some old)
    (key : row.id = id) (same : forecastView row = view) :
    runView effect = Function.update (runView shared) (.forecast, id) (some view) := by
  subst key same
  funext ⟨kind, wanted⟩
  cases kind with
  | forecast =>
      simp only [runView, forecasts, KeyedTable.find_put]
      by_cases same : row.id = wanted
      · obtain rfl := same
        rw [if_pos rfl, found, Function.update_self]
        rfl
      · rw [if_neg same, Function.update_of_ne fun equal => same (Prod.mk.inj equal).2.symm]
        rfl
  | backtest =>
      rw [Function.update_of_ne (by simp)]
      simp only [runView, backtests]

section Operations

variable {Usage : Type} {computation : RunComputation Usage} {worker : Nat} {input : Input Usage}
  {shared effect : Shared} {after : Option Phase}

/-- The row of a run that is seen running. -/
theorem backtest_of_view {id : Uuid} {uri : Option String}
    (view : runView shared (.backtest, id) = some ⟨.running, uri⟩) :
    ∃ row, shared.backtests.find id = some row ∧ row.status = .running ∧ row.outputUri = uri := by
  obtain ⟨row, found, same⟩ := Option.map_eq_some_iff.mp view
  refine ⟨row, found, ?_, congrArg RunView.outputUri same⟩
  have stage := congrArg RunView.stage same
  cases status : row.status <;> simp [backtestView, status] at stage ⊢

theorem forecast_of_view {id : Uuid} {uri : Option String}
    (view : runView shared (.forecast, id) = some ⟨.running, uri⟩) :
    ∃ row, shared.forecasts.find id = some row ∧ row.status = .running ∧ row.outputUri = uri := by
  obtain ⟨row, found, same⟩ := Option.map_eq_some_iff.mp view
  refine ⟨row, found, ?_, congrArg RunView.outputUri same⟩
  have stage := congrArg RunView.stage same
  cases status : row.status <;> simp [forecastView, status] at stage ⊢

theorem claiming_backtest_effect
    (done : operate computation worker input .claimingBacktest shared = some (effect, after)) :
    Effect worker .claimingBacktest shared effect after := by
  delta operate at done
  dsimp only at done
  split at done
  case h_1 run runs claimed =>
      obtain ⟨rfl, rfl⟩ := Prod.mk.inj (Option.some.inj done)
      rcases claim_next_queued_backtest_ok claimed with ⟨absent, _⟩ |
        ⟨old, row, found, queued, same, identity, running, rfl⟩
      · cases absent
      · obtain rfl := Option.some.inj same
        have key : run.id = old.id := congrArg BacktestRunIdentity.id identity
        rw [← key] at found
        refine .claimed .backtest run.id (backtestView old) run.outputUri ?_ ?_ ?_ rfl rfl rfl rfl ?_
        · simp only [runView, found, Option.map_some]
        · simp [backtestView, queued]
        · exact view_put_backtest rfl rfl found rfl (by simp [backtestView, running])
        · rintro next same
          obtain rfl := Option.some.inj same
          exact ⟨rfl, rfl⟩
  case h_2 runs claimed =>
      obtain ⟨rfl, rfl⟩ := Prod.mk.inj (Option.some.inj done)
      rcases claim_next_queued_backtest_ok claimed with ⟨_, rfl⟩ | ⟨_, _, _, _, same, _⟩
      · exact .quiet rfl rfl rfl rfl fun _ next => by cases next
      · cases same
  case h_3 => cases done

theorem claiming_forecast_effect
    (done : operate computation worker input .claimingForecast shared = some (effect, after)) :
    Effect worker .claimingForecast shared effect after := by
  delta operate at done
  dsimp only at done
  split at done
  case h_1 run model runs claimed =>
      obtain ⟨rfl, rfl⟩ := Prod.mk.inj (Option.some.inj done)
      rcases claim_next_queued_run_ok claimed with ⟨absent, _⟩ |
        ⟨old, row, found, queued, same, identity, running, rfl⟩
      · cases absent
      · obtain rfl := same run model rfl
        have key : run.id = old.id := congrArg ForecastRunIdentity.id identity
        rw [← key] at found
        refine .claimed .forecast run.id (forecastView old) run.outputUri ?_ ?_ ?_ rfl rfl rfl rfl ?_
        · simp only [runView, found, Option.map_some]
        · simp [forecastView, queued]
        · exact view_put_forecast rfl rfl found rfl (by simp [forecastView, running])
        · rintro next same
          obtain rfl := Option.some.inj same
          exact ⟨rfl, rfl⟩
  case h_2 runs claimed =>
      obtain ⟨rfl, rfl⟩ := Prod.mk.inj (Option.some.inj done)
      rcases claim_next_queued_run_ok claimed with ⟨_, rfl⟩ |
        ⟨old, row, found, queued, _, identity, running, rfl⟩
      · exact .quiet rfl rfl rfl rfl fun _ next => by cases next
      · have key : row.id = old.id := congrArg ForecastRunIdentity.id identity
        rw [← key] at found
        refine .dropped .forecast row.id (forecastView old) row.outputUri ?_ ?_ ?_ rfl rfl rfl rfl
        · simp only [runView, found, Option.map_some]
        · simp [forecastView, queued]
        · exact view_put_forecast rfl rfl found rfl (by simp [forecastView, running])
  case h_3 => cases done

theorem completing_backtest_effect {run : BacktestRun} {artifact : BacktestArtifact}
    {uri : Option String} (view : runView shared (.backtest, run.id) = some ⟨.running, uri⟩)
    (done : operate computation worker input (.completingBacktest run artifact) shared =
      some (effect, after)) :
    Effect worker (.completingBacktest run artifact) shared effect after := by
  obtain ⟨row, found, running, _⟩ := backtest_of_view view
  delta operate at done
  dsimp only at done
  split at done
  case h_1 runs reports completed =>
      obtain ⟨rfl, rfl⟩ := Prod.mk.inj (Option.some.inj done)
      obtain ⟨changed, updated, completed⟩ := bind_ok.mp completed
      obtain ⟨inserted, insertion, completed⟩ := bind_ok.mp completed
      obtain ⟨rfl, rfl⟩ := Prod.mk.inj (Except.ok.inj completed)
      obtain ⟨rfl, fresh⟩ := insert_report_snapshot_row_ok insertion
      rcases Backtests.BacktestRuns.update_running_ok updated with ⟨idle, _⟩ | ⟨old, same, _, _, rfl⟩
      · exact absurd running (idle row found)
      · obtain rfl := Option.some.inj (found.symm.trans same)
        have key := KeyedTable.key_of_find found
        refine .completed .backtest run.id rfl rfl ?_ ?_ rfl rfl rfl
        · exact view_put_backtest rfl rfl found key
            (congrArg (RunView.mk .completed ∘ some) (backtest_output_uri run))
        · intro other
          simp only [reportsNaming, KeyedTable.filter_insert fresh, List.length_append]
          by_cases same : run.id = other
          · subst same
            simp [names]
          · simp [names, same, Ne.symm same]
  case h_2 => cases done

theorem completing_forecast_effect {run : ForecastRun} {artifact : ForecastArtifact}
    {uri : Option String} (view : runView shared (.forecast, run.id) = some ⟨.running, uri⟩)
    (done : operate computation worker input (.completingForecast run artifact) shared =
      some (effect, after)) :
    Effect worker (.completingForecast run artifact) shared effect after := by
  obtain ⟨row, found, running, _⟩ := forecast_of_view view
  delta operate at done
  dsimp only at done
  split at done
  case h_1 runs completed =>
      obtain ⟨rfl, rfl⟩ := Prod.mk.inj (Option.some.inj done)
      rcases Forecasting.ForecastRuns.update_running_ok completed with
        ⟨idle, _⟩ | ⟨old, same, _, _, rfl⟩
      · exact absurd running (idle row found)
      · obtain rfl := Option.some.inj (found.symm.trans same)
        have key := KeyedTable.key_of_find found
        refine .completed .forecast run.id rfl rfl ?_ ?_ rfl rfl rfl
        · exact view_put_forecast rfl rfl found key
            (congrArg (RunView.mk .completed ∘ some) (forecast_output_uri run))
        · simp [reportsNaming]
  case h_2 => cases done

theorem failing_backtest_effect {run : BacktestRun}
    (done : operate computation worker input (.failingBacktest run) shared =
      some (effect, after)) :
    Effect worker (.failingBacktest run) shared effect after := by
  delta operate at done
  dsimp only at done
  split at done
  case h_1 runs failed =>
      obtain ⟨rfl, rfl⟩ := Prod.mk.inj (Option.some.inj done)
      rcases Backtests.BacktestRuns.update_running_ok failed with ⟨_, rfl⟩ |
        ⟨old, found, running, _, rfl⟩
      · exact .quiet rfl rfl rfl rfl fun _ next => nomatch next
      · have key := KeyedTable.key_of_find found
        refine .failed .backtest run.id old.outputUri rfl ?_ ?_ rfl rfl rfl rfl
        · simp [runView, found, backtestView, running]
        · exact view_put_backtest rfl rfl found key rfl
  case h_2 => cases done

theorem failing_forecast_effect {run : ForecastRun}
    (done : operate computation worker input (.failingForecast run) shared =
      some (effect, after)) :
    Effect worker (.failingForecast run) shared effect after := by
  delta operate at done
  dsimp only at done
  split at done
  case h_1 runs failed =>
      obtain ⟨rfl, rfl⟩ := Prod.mk.inj (Option.some.inj done)
      rcases Forecasting.ForecastRuns.update_running_ok failed with ⟨_, rfl⟩ |
        ⟨old, found, running, _, rfl⟩
      · exact .quiet rfl rfl rfl rfl fun _ next => nomatch next
      · have key := KeyedTable.key_of_find found
        refine .failed .forecast run.id old.outputUri rfl ?_ ?_ rfl rfl rfl rfl
        · simp [runView, found, forecastView, running]
        · exact view_put_forecast rfl rfl found key rfl
  case h_2 => cases done

/-- Every operation of a worker that knows its run has one of the effects. -/
theorem operate_effect {phase : Phase} (holds : Holds worker phase shared)
    (done : operate computation worker input phase shared = some (effect, after)) :
    Effect worker phase shared effect after := by
  cases phase with
  | claimingBacktest => exact claiming_backtest_effect done
  | readingSnapshot run =>
      obtain ⟨value, _, same⟩ := Option.map_eq_some_iff.mp done
      obtain ⟨rfl, rfl⟩ := Prod.mk.inj same
      refine .quiet rfl rfl rfl rfl fun next same => ?_
      obtain rfl := Option.some.inj same
      exact ⟨rfl, rfl, rfl⟩
  | replaying run snapshot =>
      obtain ⟨artifact, _, same⟩ := Option.map_eq_some_iff.mp done
      obtain ⟨rfl, rfl⟩ := Prod.mk.inj same
      refine .quiet rfl rfl rfl rfl fun next same => ?_
      obtain rfl := Option.some.inj same
      exact ⟨rfl, rfl, rfl⟩
  | storingBacktest run artifact =>
      obtain ⟨rfl, rfl⟩ := Prod.mk.inj (Option.some.inj done)
      refine .stored .backtest run.id artifact.content rfl rfl rfl rfl rfl rfl fun next same => ?_
      obtain rfl := Option.some.inj same
      exact ⟨rfl, rfl⟩
  | completingBacktest run artifact =>
      obtain ⟨_, running, _⟩ := holds .backtest run.id rfl
      obtain ⟨uri, view⟩ := running nofun
      exact completing_backtest_effect view done
  | failingBacktest run => exact failing_backtest_effect done
  | claimingForecast => exact claiming_forecast_effect done
  | forecasting run model =>
      obtain ⟨artifact, _, same⟩ := Option.map_eq_some_iff.mp done
      obtain ⟨rfl, rfl⟩ := Prod.mk.inj same
      refine .quiet rfl rfl rfl rfl fun next same => ?_
      obtain rfl := Option.some.inj same
      exact ⟨rfl, rfl, rfl⟩
  | storingForecast run artifact =>
      obtain ⟨rfl, rfl⟩ := Prod.mk.inj (Option.some.inj done)
      refine .stored .forecast run.id artifact.content rfl rfl rfl rfl rfl rfl fun next same => ?_
      obtain rfl := Option.some.inj same
      exact ⟨rfl, rfl⟩
  | completingForecast run artifact =>
      obtain ⟨_, running, _⟩ := holds .forecast run.id rfl
      obtain ⟨uri, view⟩ := running nofun
      exact completing_forecast_effect view done
  | failingForecast run => exact failing_forecast_effect done

end Operations

end Effects

section Soundness

/-- What every operation but a completion does: no run becomes completed or queued,
no report and no object is lost, and only a queued run is claimed. -/
structure Gentle (before effect : Shared) (events : List HistoryEvent) : Prop where
  view : ∀ run, runView effect run = runView before run ∨
    ∃ old new, runView before run = some old ∧ runView effect run = some new ∧
      old.stage.terminal = false ∧ new.stage ≠ .completed ∧ new.stage ≠ .queued
  reports : effect.reports = before.reports
  objects : ∀ key, (before.objects key).isSome → (effect.objects key).isSome
  history : effect.history = before.history ++ events
  uncompleted : ∀ kind id worker, .completed kind id worker ∉ events
  claims : events.filterMap claim = [] ∨ ∃ run old new, events.filterMap claim = [run] ∧
    runView before run = some old ∧ old.stage = .queued ∧
    runView effect run = some new ∧ new.stage ≠ .queued

structure Completion (worker : Nat) (phase : Phase) (before effect : Shared) (kind : RunKind)
    (id : Uuid) : Prop where
  own : phase.run = some (kind, id)
  completing : duty phase = .completing
  view : runView effect = Function.update (runView before) (kind, id)
    (some ⟨.completed, some (outputUri kind id)⟩)
  reports : ∀ other, reportsNaming effect other =
    reportsNaming before other + if kind = .backtest ∧ other = id then 1 else 0
  objects : effect.objects = before.objects
  history : effect.history = before.history ++ [.completed kind id worker]

variable {worker : Nat} {phase : Phase} {before effect : Shared} {after : Option Phase}

/-- An entry that moves from a stage that is not terminal. -/
theorem view_update {run : RunKind × Uuid} {old new : RunView}
    (present : runView before run = some old) (unended : old.stage.terminal = false)
    (view : runView effect = Function.update (runView before) run (some new))
    (uncompleted : new.stage ≠ .completed) (begun : new.stage ≠ .queued) (other : RunKind × Uuid) :
    runView effect other = runView before other ∨
      ∃ old new, runView before other = some old ∧ runView effect other = some new ∧
        old.stage.terminal = false ∧ new.stage ≠ .completed ∧ new.stage ≠ .queued := by
  by_cases same : other = run
  · subst same
    refine Or.inr ⟨old, new, present, ?_, unended, uncompleted, begun⟩
    rw [view, Function.update_self]
  · exact Or.inl (by rw [view, Function.update_of_ne same])

theorem effect_cases (happened : Effect worker phase before effect after) :
    (∃ events, Gentle before effect events) ∨
      ∃ kind id, Completion worker phase before effect kind id ∧ after = none := by
  cases happened with
  | quiet view reports objects history _ =>
      exact Or.inl ⟨[], fun _ => Or.inl (by rw [view]), reports, fun _ => by rw [objects]; exact id,
        by rw [history, List.append_nil], nofun, Or.inl rfl⟩
  | claimed kind id old uri waiting queued view reports objects history _ _ =>
      refine Or.inl ⟨[.claimed kind id worker], view_update waiting (by rw [queued]; rfl) view nofun
        nofun, reports, fun _ => by rw [objects]; exact (·), history, by simp,
        Or.inr ⟨(kind, id), old, ⟨.running, uri⟩, rfl, waiting, queued, ?_, nofun⟩⟩
      rw [view, Function.update_self]
  | dropped kind id old uri waiting queued view reports objects history _ =>
      exact Or.inl ⟨[], view_update waiting (by rw [queued]; rfl) view nofun nofun, reports,
        fun _ => by rw [objects]; exact (·), by rw [history, List.append_nil], nofun, Or.inl rfl⟩
  | stored kind id value _ _ view reports objects history _ =>
      refine Or.inl ⟨[.stored (outputUri kind id) worker], fun _ => Or.inl (by rw [view]), reports,
        fun key present => ?_, history, by simp, Or.inl rfl⟩
      rw [objects, Function.update_apply]
      split_ifs
      · rfl
      · exact present
  | completed kind id own completing view reports objects history onward =>
      exact Or.inr ⟨kind, id, ⟨own, completing, view, reports, objects, history⟩, onward⟩
  | failed kind id uri _ running view reports objects history _ =>
      exact Or.inl ⟨[], view_update running rfl view nofun nofun, reports,
        fun _ => by rw [objects]; exact (·), by rw [history, List.append_nil], nofun, Or.inl rfl⟩

theorem CompletedAfterStoring.append {history : List HistoryEvent} {kind : RunKind} {id : Uuid}
    (events : List HistoryEvent) (ordered : CompletedAfterStoring history kind id worker) :
    CompletedAfterStoring (history ++ events) kind id worker := by
  obtain ⟨earlier, later, rfl, claimed, stored⟩ := ordered
  exact ⟨earlier, later ++ events, by simp, claimed, stored⟩

/-- A completed run was completed before, unless it is the one being completed. -/
theorem gentle_completed {events : List HistoryEvent} (gentle : Gentle before effect events)
    {run : RunKind × Uuid} {row : RunView} (present : runView effect run = some row)
    (completed : row.stage = .completed) : runView before run = some row := by
  rcases gentle.view run with same | ⟨_, new, _, stored, _, uncompleted, _⟩
  · exact same ▸ present
  · obtain rfl := Option.some.inj (stored.symm.trans present)
    exact absurd completed uncompleted

theorem gentle_sound {events : List HistoryEvent} (sound : Sound before)
    (gentle : Gentle before effect events) : Sound effect where
  reported := by
    intro id row present
    rw [reportsNaming, gentle.reports]
    rcases gentle.view (.backtest, id) with same | ⟨old, new, existed, stored, running, moved, _⟩
    · exact sound.reported id row (same ▸ present)
    · obtain rfl := Option.some.inj (stored.symm.trans present)
      have unfinished : old.stage ≠ .completed := fun same => by
        rw [same] at running
        cases running
      have counted := sound.reported id old existed
      rw [if_neg unfinished] at counted
      rw [if_neg moved]
      exact counted
  outputs := by
    intro kind id row present completed
    obtain ⟨uri, object, worker, ordered⟩ :=
      sound.outputs kind id row (gentle_completed gentle present completed) completed
    refine ⟨uri, gentle.objects _ object, worker, ?_⟩
    rw [gentle.history]
    exact ordered.append events
  claims := by
    rw [gentle.history, List.filterMap_append]
    rcases gentle.claims with none | ⟨run, old, new, one, existed, queued, _⟩
    · rw [none, List.append_nil]
      exact sound.claims
    · rw [one, ← List.concat_eq_append]
      refine List.Nodup.concat (fun member => ?_) sound.claims
      obtain ⟨event, happened, same⟩ := List.mem_filterMap.mp member
      cases event with
      | claimed kind id owner =>
          obtain rfl := Option.some.inj same
          obtain ⟨row, stored, begun⟩ := sound.begun kind id owner happened
          obtain rfl := Option.some.inj (existed.symm.trans stored)
          exact begun queued
      | stored => cases same
      | completed => cases same
  begun := by
    intro kind id worker claimed
    rw [gentle.history, List.mem_append] at claimed
    rcases claimed with earlier | now
    · obtain ⟨row, stored, begun⟩ := sound.begun kind id worker earlier
      rcases gentle.view (kind, id) with same | ⟨_, new, _, present, _, _, moved⟩
      · exact ⟨row, same.trans stored, begun⟩
      · exact ⟨new, present, moved⟩
    · have member : (kind, id) ∈ events.filterMap claim :=
        List.mem_filterMap.mpr ⟨_, now, rfl⟩
      rcases gentle.claims with none | ⟨run, old, new, one, _, _, present, moved⟩
      · rw [none] at member
        cases member
      · rw [one, List.mem_singleton] at member
        exact ⟨new, member ▸ present, moved⟩
  ended := by
    intro kind id worker completed
    rw [gentle.history, List.mem_append] at completed
    rcases completed with earlier | now
    · obtain ⟨row, stored, completed⟩ := sound.ended kind id worker earlier
      rcases gentle.view (kind, id) with same | ⟨old, _, existed, _, running, _⟩
      · exact ⟨row, same.trans stored, completed⟩
      · obtain rfl := Option.some.inj (existed.symm.trans stored)
        rw [completed] at running
        cases running
    · exact absurd now (gentle.uncompleted kind id worker)

theorem completion_sound {kind : RunKind} {id : Uuid} (sound : Sound before)
    (holds : Holds worker phase before)
    (completion : Completion worker phase before effect kind id) : Sound effect := by
  obtain ⟨claimed, running, object⟩ := holds kind id completion.own
  obtain ⟨uri, view⟩ := running (by rw [completion.completing]; nofun)
  obtain ⟨stored, present⟩ := object completion.completing
  have viewed (run : RunKind × Uuid) : runView effect run =
      if run = (kind, id) then some ⟨.completed, some (outputUri kind id)⟩ else runView before run := by
    rw [completion.view, Function.update_apply]
  refine ⟨?_, ?_, ?_, ?_, ?_⟩
  · intro other row stored
    rw [completion.reports]
    rw [viewed] at stored
    split_ifs at stored with same
    · obtain ⟨rfl, rfl⟩ := Prod.mk.inj same
      obtain rfl := Option.some.inj stored
      rw [sound.reported other _ view]
      simp
    · rw [sound.reported other row stored]
      have apart : ¬ (kind = .backtest ∧ other = id) := fun ⟨kindSame, idSame⟩ =>
        same (by rw [kindSame, idSame])
      rw [if_neg apart, Nat.add_zero]
  · intro otherKind other row stored' completed
    rw [completion.objects, completion.history]
    rw [viewed] at stored'
    split_ifs at stored' with same
    · obtain ⟨rfl, rfl⟩ := Prod.mk.inj same
      obtain rfl := Option.some.inj stored'
      exact ⟨rfl, present, worker, before.history, [], rfl, claimed, stored⟩
    · obtain ⟨uri, object, owner, ordered⟩ := sound.outputs otherKind other row stored' completed
      exact ⟨uri, object, owner, ordered.append _⟩
  · rw [completion.history, List.filterMap_append]
    exact (List.append_nil _).symm ▸ sound.claims
  · intro otherKind other owner happened
    rw [completion.history, List.mem_append] at happened
    rcases happened with earlier | now
    · rw [viewed]
      split_ifs with same
      · exact ⟨_, rfl, nofun⟩
      · exact sound.begun otherKind other owner earlier
    · cases List.mem_singleton.mp now
  · intro otherKind other owner happened
    rw [completion.history, List.mem_append] at happened
    rw [viewed]
    split_ifs with same
    · exact ⟨_, rfl, rfl⟩
    · rcases happened with earlier | now
      · exact sound.ended otherKind other owner earlier
      · obtain ⟨rfl, rfl, rfl⟩ := HistoryEvent.completed.inj (List.mem_singleton.mp now)
        exact absurd rfl same

theorem effect_sound (sound : Sound before) (holds : Holds worker phase before)
    (happened : Effect worker phase before effect after) : Sound effect := by
  rcases effect_cases happened with ⟨_, gentle⟩ | ⟨_, _, completion, _⟩
  · exact gentle_sound sound gentle
  · exact completion_sound sound holds completion

end Soundness

section Workers

variable {worker : Nat} {phase : Phase} {before effect : Shared} {after : Option Phase}

theorem rescue_failing {next : Phase} (rescued : rescue phase = some next) :
    next.run = phase.run ∧ duty next = .failing := by
  cases phase <;> first | (cases rescued; exact ⟨rfl, rfl⟩) | cases rescued

theorem history_grows (happened : Effect worker phase before effect after) {event : HistoryEvent}
    (earlier : event ∈ before.history) : event ∈ effect.history := by
  rcases effect_cases happened with ⟨_, gentle⟩ | ⟨_, _, completion, _⟩
  · rw [gentle.history]
    exact List.mem_append_left _ earlier
  · rw [completion.history]
    exact List.mem_append_left _ earlier

/-- A failing phase asks only that its worker has claimed the run. -/
theorem holds_failing {next : Phase} (failing : duty next = .failing)
    (claimed : ∀ kind id, next.run = some (kind, id) → .claimed kind id worker ∈ before.history) :
    Holds worker next before := fun kind id run =>
  ⟨claimed kind id run, fun other => absurd failing other, fun other => by
    rw [failing] at other
    cases other⟩

theorem effect_holds_own (holds : Holds worker phase before)
    (happened : Effect worker phase before effect after) {next : Phase}
    (follows : after = some next ∨ rescue phase = some next) : Holds worker next effect := by
  rcases follows with acknowledged | rescued
  case inr =>
      obtain ⟨run, failing⟩ := rescue_failing rescued
      exact holds_failing failing fun kind id own =>
        history_grows happened (holds kind id (run ▸ own)).1
  case inl =>
      intro kind id own
      cases happened with
      | quiet view _ objects history onward =>
          obtain ⟨run, working, goes⟩ := onward next acknowledged
          obtain ⟨claimed, running, _⟩ := holds kind id (run ▸ own)
          rw [view, history]
          exact ⟨claimed, fun _ => running (by rw [working]; nofun), fun other => by
            rw [goes] at other
            cases other⟩
      | claimed claimedKind claimedId _ uri _ _ view _ _ history _ onward =>
          obtain ⟨run, goes⟩ := onward next acknowledged
          obtain ⟨rfl, rfl⟩ := Prod.mk.inj (Option.some.inj (run.symm.trans own))
          rw [view, history]
          refine ⟨by simp, fun _ => ⟨uri, Function.update_self ..⟩, fun other => ?_⟩
          rw [goes] at other
          cases other
      | dropped _ _ _ _ _ _ _ _ _ _ onward => cases onward.symm.trans acknowledged
      | stored storedKind storedId value run working view _ objects history onward =>
          obtain ⟨same, _⟩ := onward next acknowledged
          obtain ⟨rfl, rfl⟩ := Prod.mk.inj (Option.some.inj (same.symm.trans own))
          obtain ⟨claimed, running, _⟩ := holds storedKind storedId run
          rw [view, history, objects]
          refine ⟨List.mem_append_left _ claimed, fun _ => running (by rw [working]; nofun),
            fun _ => ⟨by simp, ?_⟩⟩
          rw [Function.update_self]
          rfl
      | completed _ _ _ _ _ _ _ _ onward => cases onward.symm.trans acknowledged
      | failed _ _ _ _ _ _ _ _ _ onward => cases onward.symm.trans acknowledged

/-- Nobody but its worker changes a run that is being worked on. -/
theorem view_undisturbed {run : RunKind × Uuid} {uri : Option String}
    (happened : Effect worker phase before effect after) (other : phase.run ≠ some run)
    (running : runView before run = some ⟨.running, uri⟩) :
    runView effect run = some ⟨.running, uri⟩ := by
  cases happened with
  | quiet view => rw [view, running]
  | claimed kind id old _ waiting queued view =>
      have different : run ≠ (kind, id) := by
        rintro rfl
        obtain rfl := Option.some.inj (waiting.symm.trans running)
        cases queued
      rw [view, Function.update_of_ne different, running]
  | dropped kind id old _ waiting queued view =>
      have different : run ≠ (kind, id) := by
        rintro rfl
        obtain rfl := Option.some.inj (waiting.symm.trans running)
        cases queued
      rw [view, Function.update_of_ne different, running]
  | stored _ _ _ _ _ view => rw [view, running]
  | completed kind id own _ view =>
      rw [view, Function.update_of_ne (fun same => other (own.trans (congrArg some same.symm))), running]
  | failed kind id _ own _ view =>
      rw [view, Function.update_of_ne (fun same => other (own.trans (congrArg some same.symm))), running]

theorem objects_grow (happened : Effect worker phase before effect after) {key : String}
    (present : (before.objects key).isSome) : (effect.objects key).isSome := by
  rcases effect_cases happened with ⟨_, gentle⟩ | ⟨_, _, completion, _⟩
  · exact gentle.objects key present
  · exact completion.objects ▸ present

theorem effect_holds_other {other : Nat} {otherPhase : Phase}
    (happened : Effect worker phase before effect after) (apart : Apart phase otherPhase)
    (holds : Holds other otherPhase before) : Holds other otherPhase effect := by
  intro kind id run
  obtain ⟨claimed, running, object⟩ := holds kind id run
  refine ⟨history_grows happened claimed, fun working => ?_, fun completing => ?_⟩
  · obtain ⟨uri, view⟩ := running working
    exact ⟨uri, view_undisturbed happened (fun own => apart _ own run) view⟩
  · obtain ⟨stored, present⟩ := object completing
    exact ⟨history_grows happened stored, objects_grow happened present⟩

/-- A claimed run is one that no other worker has claimed. -/
theorem effect_apart {other : Nat} {otherPhase : Phase} (sound : Sound before)
    (happened : Effect worker phase before effect after) (apart : Apart phase otherPhase)
    (holds : Holds other otherPhase before) {next : Phase} (goes : after = some next) :
    Apart next otherPhase := by
  intro run own otherOwn
  cases happened with
  | quiet _ _ _ _ onward => exact apart run ((onward next goes).1 ▸ own) otherOwn
  | claimed kind id old _ waiting queued _ _ _ _ _ onward =>
      obtain rfl := Option.some.inj ((onward next goes).1.symm.trans own)
      obtain ⟨row, stored, begun⟩ := sound.begun kind id other (holds kind id otherOwn).1
      obtain rfl := Option.some.inj (waiting.symm.trans stored)
      exact begun queued
  | dropped _ _ _ _ _ _ _ _ _ _ onward => cases onward.symm.trans goes
  | stored kind id _ same _ _ _ _ _ onward =>
      exact apart run (same.trans ((onward next goes).1.symm.trans own)) otherOwn
  | completed _ _ _ _ _ _ _ _ onward => cases onward.symm.trans goes
  | failed _ _ _ _ _ _ _ _ _ onward => cases onward.symm.trans goes

/-- A run that has ended stays as it is. -/
theorem effect_keeps_ended {run : RunKind × Uuid} {row : RunView}
    (holds : Holds worker phase before) (happened : Effect worker phase before effect after)
    (present : runView before run = some row) (ended : row.stage.terminal = true) :
    runView effect run = some row := by
  rcases effect_cases happened with ⟨_, gentle⟩ | ⟨kind, id, completion, _⟩
  · rcases gentle.view run with same | ⟨old, _, existed, _, unended, _⟩
    · exact same.trans present
    · obtain rfl := Option.some.inj (existed.symm.trans present)
      rw [ended] at unended
      cases unended
  · have different : run ≠ (kind, id) := by
      rintro rfl
      obtain ⟨_, view⟩ := (holds kind id completion.own).2.1 (by rw [completion.completing]; nofun)
      obtain rfl := Option.some.inj (view.symm.trans present)
      cases ended
    rw [completion.view, Function.update_of_ne different, present]

variable {Usage : Type} (computation : RunComputation Usage)

theorem run_discipline : Discipline (program computation) Sound Holds Apart where
  symmetric := fun apart run own other => apart run other own
  entered := by
    intro worker phase shared entered _
    have none : phase.run = none := by
      cases phase <;> first | rfl | cases entered
    constructor
    · intro kind id own
      cases none.symm.trans own
    · intro other run own
      cases none.symm.trans own
  operated := fun sound holds done =>
    have happened := operate_effect holds done
    ⟨effect_sound sound holds happened, fun _ follows => effect_holds_own holds happened follows⟩
  failed := by
    intro worker phase shared next _ holds rescued
    obtain ⟨run, failing⟩ := rescue_failing rescued
    exact holds_failing failing fun kind id own => (holds kind id (run ▸ own)).1
  undisturbed := fun sound holds _ others apart done =>
    have happened := operate_effect holds done
    ⟨effect_holds_other happened apart others, fun _ goes =>
      effect_apart sound happened apart others goes⟩
  still_apart := fun apart rescued run own => apart run ((rescue_failing rescued).1 ▸ own)
  external := by
    intro event shared effect sound change
    cases event with
    | tick elapsed =>
        obtain rfl := Option.some.inj change
        exact ⟨⟨sound.reported, sound.outputs, sound.claims, sound.begun, sound.ended⟩,
          fun _ _ holds => holds⟩

end Workers

section Runs

variable {Usage : Type} {computation : RunComputation Usage} {shared : Shared}
  {state later : State Shared Phase}

/-- Queued runs that no report names, before any worker has started. -/
structure AllQueued (shared : Shared) : Prop where
  backtests : ∀ run ∈ shared.backtests, run.status = .queued
  forecasts : ∀ run ∈ shared.forecasts, run.status = .queued
  reports : ∀ run ∈ shared.backtests, ∀ report ∈ shared.reports, names run.id report = false
  history : shared.history = []

def idle (shared : Shared) : State Shared Phase := ⟨shared, fun _ => none⟩

theorem queued_view (queued : AllQueued shared) {run : RunKind × Uuid} {row : RunView}
    (present : runView shared run = some row) : row.stage = .queued := by
  obtain ⟨kind, id⟩ := run
  cases kind with
  | backtest =>
      obtain ⟨stored, found, rfl⟩ := Option.map_eq_some_iff.mp present
      simp [backtestView, queued.backtests stored (KeyedTable.mem_of_find found)]
  | forecast =>
      obtain ⟨stored, found, rfl⟩ := Option.map_eq_some_iff.mp present
      simp [forecastView, queued.forecasts stored (KeyedTable.mem_of_find found)]

theorem queued_sound (queued : AllQueued shared) : Sound shared where
  reported := by
    intro id row present
    rw [queued_view queued present, if_neg nofun, reportsNaming, List.length_eq_zero_iff,
      List.filter_eq_nil_iff]
    intro report stored named
    obtain ⟨run, found, _⟩ := Option.map_eq_some_iff.mp present
    have key := KeyedTable.key_of_find found
    rw [← key, queued.reports run (KeyedTable.mem_of_find found) report stored] at named
    cases named
  outputs := by
    intro kind id row present completed
    cases (queued_view queued present).symm.trans completed
  claims := by
    rw [queued.history]
    exact List.nodup_nil
  begun := by
    intro kind id worker claimed
    rw [queued.history] at claimed
    cases claimed
  ended := by
    intro kind id worker completed
    rw [queued.history] at completed
    cases completed

theorem reachable_sound (queued : AllQueued shared)
    (reached : Reachable (step (program computation)) (idle shared) state) :
    Consistent Sound Holds Apart state :=
  reachable_consistent (run_discipline computation) (consistent_idle (queued_sound queued)) reached

/-- Runs that have ended in `state` are the same in `later`. -/
def EndedKept (state later : State Shared Phase) : Prop :=
  ∀ run row, runView state.shared run = some row → row.stage.terminal = true →
    runView later.shared run = some row

theorem step_keeps_ended {action : Action Phase (Input Usage) Event}
    (consistent : Consistent Sound Holds Apart state)
    (taken : step (program computation) state action = some later) : EndedKept state later := by
  intro run row present ended
  cases step_stepped taken with
  | called => exact present
  | operated worker input phase effect after onward busy operation _ =>
      have holds := consistent.holds busy
      exact effect_keeps_ended holds (operate_effect holds operation) present ended
  | failed => exact present
  | stopped => exact present
  | happened event effect change =>
      cases event with
      | tick elapsed =>
          obtain rfl := Option.some.inj change
          exact present

theorem reachable_keeps_ended (consistent : Consistent Sound Holds Apart state)
    (reached : Reachable (step (program computation)) state later) : EndedKept state later :=
  reachable_relates (fun _ _ _ present _ => present)
    (fun _ _ _ first second run row present ended =>
      second run row (first run row present ended) ended)
    (fun _ _ _ before taken => ⟨step_consistent (run_discipline computation) before taken,
      step_keeps_ended before taken⟩)
    consistent reached

theorem backtest_completed_iff {run : BacktestRun} :
    (backtestView run).stage = .completed ↔ run.status = .completed := by
  cases status : run.status <;> simp [backtestView, status]

theorem claims_unique {history : List HistoryEvent} {kind : RunKind} {id : Uuid}
    {first second : Nat} (claims : (history.filterMap claim).Nodup)
    (one : .claimed kind id first ∈ history) (other : .claimed kind id second ∈ history) :
    first = second := by
  induction history with
  | nil => cases one
  | cons event rest induction =>
      have unclaimed (worker : Nat) (head : .claimed kind id worker = event)
          (owner : Nat) : .claimed kind id owner ∉ rest := by
        intro member
        subst head
        exact (List.nodup_cons.mp claims).1 (List.mem_filterMap.mpr ⟨_, member, rfl⟩)
      have restClaims : (rest.filterMap claim).Nodup := by
        cases event with
        | claimed => exact (List.nodup_cons.mp claims).2
        | stored => exact claims
        | completed => exact claims
      rcases List.mem_cons.mp one with here | there <;>
        rcases List.mem_cons.mp other with here' | there'
      · injection here.trans here'.symm
      · exact absurd there' (unclaimed first here second)
      · exact absurd there (unclaimed second here' first)
      · exact induction restClaims there there'

/-- However the workers interleave, fail and stop: a backtest run is completed exactly
when one report names it, a completed run names the object its worker stored before,
a run that has ended stays so, and a run has one worker at most. -/
theorem runs_complete_once (queued : AllQueued shared)
    (reached : Reachable (step (program computation)) (idle shared) state) :
    (∀ run ∈ state.shared.backtests,
      run.status = .completed ↔ reportsNaming state.shared run.id = 1) ∧
    (∀ kind id uri, runView state.shared (kind, id) = some ⟨.completed, uri⟩ →
      uri = some (outputUri kind id) ∧ (state.shared.objects (outputUri kind id)).isSome ∧
        ∃ worker, CompletedAfterStoring state.shared.history kind id worker) ∧
    (∀ kind id worker, .completed kind id worker ∈ state.shared.history →
      ∃ uri, runView state.shared (kind, id) = some ⟨.completed, uri⟩) ∧
    (∀ later, Reachable (step (program computation)) state later → EndedKept state later) ∧
    (state.shared.history.filterMap claim).Nodup ∧
    (∀ worker phase kind id, state.workers worker = some phase → phase.run = some (kind, id) →
      ∀ other, .claimed kind id other ∈ state.shared.history ↔ other = worker) := by
  have consistent := reachable_sound queued reached
  have sound := consistent.invariant
  refine ⟨?_, ?_, ?_, fun later => reachable_keeps_ended consistent, sound.claims, ?_⟩
  · intro run member
    have view : runView state.shared (.backtest, run.id) = some (backtestView run) := by
      simp only [runView, KeyedTable.find_key member, Option.map_some]
    rw [sound.reported run.id _ view, ← backtest_completed_iff]
    split_ifs with completed <;> simp [completed]
  · intro kind id uri view
    exact sound.outputs kind id _ view rfl
  · intro kind id worker happened
    obtain ⟨row, view, completed⟩ := sound.ended kind id worker happened
    exact ⟨row.outputUri, view.trans (by rw [← completed])⟩
  · intro worker phase kind id busy own other
    have claimed := (consistent.holds busy kind id own).1
    constructor
    · exact fun claimedToo => claims_unique sound.claims claimedToo claimed
    · rintro rfl
      exact claimed

/-- One queued backtest run and its snapshot. -/
def oneBacktest : Shared where
  clock := 50
  backtests := KeyedTable.empty.insert
    { id := 7, tenantId := 1, name := "replay", policyId := 3, baseline := .noCommitment
      windowStart := 20089, windowEnd := 20119, inputSnapshotUri := "backtests/7/input.json"
      createdByUserId := none, createdAt := 40, status := .queued, outputUri := none
      metrics := .object [], errorDetails := .object [], updatedAt := 40 }
  reports := KeyedTable.empty
  forecasts := KeyedTable.empty
  models := KeyedTable.empty
  objects := fun key => if key = "backtests/7/input.json" then some (.object []) else none
  history := []

def monthCount : RunComputation Nat where
  octets
    | .object [] => 2
    | .object [("replay_months", _)] => 20
    | _ => 43
  backtestArtifact _ snapshot months := some
    { content := snapshot
      metrics := .object [("replay_months", .number (some months))]
      report := .object [("contract_version", .string "backtest_summary:v1")] }
  forecastArtifact _ _ _ := none

/-- The completion takes effect, its acknowledgement is lost and the worker then
reports the run as failed. -/
def lostAcknowledgement : List (Action Phase (Input Nat) Event) :=
  .call 0 .claimingBacktest ::
    [.absent, .absent, .absent, .absent, .afterEffect, .absent].map
      (.advance 0 { locked := [], reportId := 90, usage := 1 })

theorem runs_complete_once_lost_acknowledgement :
    ∃ state, execute (step (program monthCount)) (idle oneBacktest) lostAcknowledgement =
        some state ∧
      ∃ run ∈ state.shared.backtests, run.status = .completed ∧
        reportsNaming state.shared run.id = 1 := by
  have runs : (execute (step (program monthCount)) (idle oneBacktest)
      lostAcknowledgement).isSome := by decide
  have completed : ∀ state, execute (step (program monthCount)) (idle oneBacktest)
      lostAcknowledgement = some state → ∃ run ∈ state.shared.backtests,
        run.status = .completed := by decide
  have queued : AllQueued oneBacktest :=
    ⟨by decide, by decide +kernel, by decide +kernel, rfl⟩
  obtain ⟨state, ran⟩ := Option.isSome_iff_exists.mp runs
  obtain ⟨run, member, status⟩ := completed state ran
  exact ⟨state, ran, run, member, status,
    ((runs_complete_once queued ⟨_, ran⟩).1 run member).mp status⟩

end Runs

end CommitmentOptimizer.Workers.RunCompletion
