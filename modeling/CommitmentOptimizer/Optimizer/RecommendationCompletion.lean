import CommitmentOptimizer.Optimizer.OptimizerWorker

/-!
# Recommendations and the completion of their runs

A worker inserts the recommendation of a run in one statement and completes the run
in the next, and its `catch` fails a run whose recommendation may be there already.
The runs and recommendations are seen as a status and a count for each run.
-/

namespace CommitmentOptimizer.Optimizer.RecommendationCompletion

open Foundations
open Foundations.FaultyWorkers
open Foundations.JobQueue
open Foundations.Schedules
open Foundations.SqlConstraints
open Recommendations.RecommendationLifecycle
open Forecasting.ForecastRuns
open PriceTables.PriceTableItems
open PriceTables.PriceTableTransactions
open OptimizerRuns
open Candidates
open OptimizerRunCreation
open OptimizerWorker

set_option autoImplicit false

def runStatus (shared : Shared) (id : Uuid) : Option OptimizerRunStatus :=
  (shared.runs.find id).map (·.status)

def recommendationsOf (shared : Shared) (id : Uuid) : Nat :=
  (shared.recommendations.rows.filter fun row => row.optimizerRunId = id).length

structure Settled (shared : Shared) : Prop where
  parents : ∀ row ∈ shared.recommendations, runStatus shared row.optimizerRunId = some .completed
  completed : ∀ run ∈ shared.runs, run.status = .completed → recommendationsOf shared run.id = 1
  unsuccessful : ∀ run ∈ shared.runs, run.status = .failed ∨ run.status = .infeasible →
    recommendationsOf shared run.id = 0

/-- What is left to do with the run of a phase. -/
inductive Duty where
  | preparing | completing | failing
  deriving DecidableEq, Repr

def duty : Phase → Option (Uuid × Duty)
  | .readingSnapshot run | .readingForecast run _ | .listing run _ _ | .storingFrontier run _ _ _
  | .markingInfeasible run _ | .storingOutput run _ _ _ | .inserting run _ _ _ =>
      some (run.id, .preparing)
  | .completing run => some (run.id, .completing)
  | .failing run => some (run.id, .failing)
  | _ => none

def Meets (shared : Shared) (id : Uuid) : Duty → Prop
  | .preparing => runStatus shared id = some .running ∧ recommendationsOf shared id = 0
  | .completing => runStatus shared id = some .running ∧ recommendationsOf shared id = 1
  | .failing => ∃ status, runStatus shared id = some status ∧ status ≠ .queued

/-- What a worker knows of its run. -/
def Holds (_worker : Nat) (phase : Phase) (shared : Shared) : Prop :=
  ∀ id own, duty phase = some (id, own) → Meets shared id own

/-- No two workers are at phases of one run. -/
def Apart (first second : Phase) : Prop :=
  ∀ id own other, duty first = some (id, own) → duty second ≠ some (id, other)

structure Sound (shared : Shared) : Prop where
  parents : ∀ id, recommendationsOf shared id ≠ 0 →
    ∃ status, runStatus shared id = some status ∧ status ≠ .queued ∧ status ≠ .infeasible
  single : ∀ id, recommendationsOf shared id ≤ 1
  completed : ∀ id, runStatus shared id = some .completed → recommendationsOf shared id = 1

section Effects

/-- The two phases between which a recommendation has no completed run. -/
def critical : Phase → Bool
  | .inserting _ _ _ _ | .completing _ => true
  | _ => false

/-- What an operation does to the statuses and the counts, and where it goes on. -/
inductive Effect (phase : Phase) (before effect : Shared) (after : Option Phase) : Prop
  | quiet (calm : critical phase = false) (statuses : runStatus effect = runStatus before)
      (counts : recommendationsOf effect = recommendationsOf before)
      (onward : ∀ next, after = some next → duty next = duty phase)
  | created (id : Uuid) (calm : critical phase = false) (unowned : duty phase = none)
      (absent : runStatus before id = none)
      (statuses : runStatus effect = Function.update (runStatus before) id (some .queued))
      (counts : recommendationsOf effect = recommendationsOf before) (onward : after = none)
  | claimed (id : Uuid) (calm : critical phase = false) (unowned : duty phase = none)
      (waiting : runStatus before id = some .queued)
      (statuses : runStatus effect = Function.update (runStatus before) id (some .running))
      (counts : recommendationsOf effect = recommendationsOf before)
      (onward : ∀ next, after = some next → duty next = some (id, .preparing))
  | inserted (run : OptimizerRun) (snapshot : Json)
      (selected : CommitmentInstrumentCandidate)
      (item : Option PriceTableItem)
      (same : phase = .inserting run snapshot selected item)
      (statuses : runStatus effect = runStatus before)
      (counts : recommendationsOf effect = Function.update (recommendationsOf before) run.id
        (recommendationsOf before run.id + 1))
      (onward : after = some (.completing run))
  | completed (run : OptimizerRun) (same : phase = .completing run)
      (statuses : runStatus effect = Function.update (runStatus before) run.id (some .completed))
      (counts : recommendationsOf effect = recommendationsOf before) (onward : after = none)
  | ended (id : Uuid) (own : Duty) (status : OptimizerRunStatus) (calm : critical phase = false)
      (owned : duty phase = some (id, own)) (running : runStatus before id = some .running)
      (unsuccessful : status = .failed ∨ own = .preparing ∧ status = .infeasible)
      (statuses : runStatus effect = Function.update (runStatus before) id (some status))
      (counts : recommendationsOf effect = recommendationsOf before) (onward : after = none)

theorem status_put {shared effect : Shared} {old row : OptimizerRun} {id : Uuid}
    {status : OptimizerRunStatus} (runs : effect.runs = shared.runs.put row)
    (found : shared.runs.find id = some old) (key : row.id = id) (same : row.status = status) :
    runStatus effect = Function.update (runStatus shared) id (some status) := by
  subst key same
  funext wanted
  simp only [runStatus, runs, KeyedTable.find_put]
  by_cases same : row.id = wanted
  · subst same
    rw [if_pos rfl, found, Function.update_self]
    rfl
  · rw [if_neg same, Function.update_of_ne (Ne.symm same)]
    rfl

theorem status_insert {shared effect : Shared} {row : OptimizerRun} {id : Uuid}
    {status : OptimizerRunStatus} (runs : effect.runs = shared.runs.insert row)
    (fresh : shared.runs.find row.id = none) (key : row.id = id) (same : row.status = status) :
    runStatus effect = Function.update (runStatus shared) id (some status) := by
  subst key same
  funext wanted
  simp only [runStatus, runs, KeyedTable.find_insert]
  by_cases same : row.id = wanted
  · subst same
    rw [if_pos rfl, fresh, Function.update_self]
    rfl
  · rw [if_neg same, Option.or_none, Function.update_of_ne (Ne.symm same)]
    rfl

theorem count_insert {shared effect : Shared} {row : Recommendation}
    (recommendations : effect.recommendations = shared.recommendations.insert row)
    (fresh : shared.recommendations.find row.id = none) :
    recommendationsOf effect = Function.update (recommendationsOf shared) row.optimizerRunId
      (recommendationsOf shared row.optimizerRunId + 1) := by
  funext wanted
  simp only [recommendationsOf, recommendations, KeyedTable.filter_insert fresh, List.length_append]
  by_cases same : row.optimizerRunId = wanted
  · subst same
    simp
  · rw [Function.update_of_ne (Ne.symm same)]
    simp [recommendationsOf, same]

variable {runtime : OptimizerRuntime} {worker : Nat} {input : Input} {shared effect : Shared}
  {after : Option Phase}

/-- An update of a running row: nothing when it is not running, its new status else. -/
theorem update_running_status {octets : Json → Nat} {clock : Instant} {id : Uuid}
    {change : OptimizerRun → OptimizerRun} {status : OptimizerRunStatus} {runs : OptimizerRunTable}
    (done : updateRunning octets clock id change shared.runs = .ok runs)
    (moves : ∀ row, (change row).status = status) :
    (runStatus shared id ≠ some .running ∧
        runStatus { shared with runs := runs } = runStatus shared) ∨
      (runStatus shared id = some .running ∧
        runStatus { shared with runs := runs } =
          Function.update (runStatus shared) id (some status)) := by
  rcases update_where_ok done with ⟨idle, rfl⟩ | ⟨old, row, found, running, stored, rfl⟩
  · refine Or.inl ⟨fun running => ?_, rfl⟩
    obtain ⟨row, found, status⟩ := Option.map_eq_some_iff.mp running
    have waits := idle row found
    rw [status] at waits
    cases waits
  · obtain ⟨rfl, identity, _⟩ := update_optimizer_run_row_ok stored
    refine Or.inr ⟨by rw [runStatus, found, Option.map_some, beq_iff_eq.mp running], ?_⟩
    have key := KeyedTable.key_of_find found
    exact status_put rfl found ((congrArg OptimizerRunIdentity.id identity).trans key) (moves old)

theorem creating_effect {run : OptimizerRun}
    (done : operate runtime worker input (.creating run) shared = some (effect, after)) :
    Effect (.creating run) shared effect after := by
  delta operate at done
  dsimp only at done
  split at done
  case h_1 runs inserted =>
      obtain ⟨rfl, rfl⟩ := Prod.mk.inj (Option.some.inj done)
      have queued := insert_optimizer_run_row_queued inserted
      obtain ⟨stored, fresh, _⟩ := insert_optimizer_run_row_ok inserted
      have absent : shared.runs.find run.id = none := fresh
      refine .created run.id rfl rfl ?_ ?_ rfl rfl
      · rw [runStatus, absent, Option.map_none]
      · exact status_insert stored fresh rfl queued
  case h_2 => cases done

theorem claiming_effect
    (done : operate runtime worker input .claiming shared = some (effect, after)) :
    Effect .claiming shared effect after := by
  delta operate at done
  dsimp only at done
  split at done
  case h_1 run runs claimed =>
      obtain ⟨rfl, rfl⟩ := Prod.mk.inj (Option.some.inj done)
      rcases claim_next_ok claimed with ⟨absent, _⟩ | ⟨old, row, found, queued, stored, same, rfl⟩
      · cases absent
      · obtain rfl := Option.some.inj same
        obtain ⟨rfl, identity, _⟩ := update_optimizer_run_row_ok stored
        refine .claimed old.id rfl rfl ?_ ?_ rfl fun next same => ?_
        · rw [runStatus, found, Option.map_some, beq_iff_eq.mp queued]
        · exact status_put rfl found rfl rfl
        · obtain rfl := Option.some.inj same
          rfl
  case h_2 runs claimed =>
      obtain ⟨rfl, rfl⟩ := Prod.mk.inj (Option.some.inj done)
      rcases claim_next_ok claimed with ⟨_, rfl⟩ | ⟨_, _, _, _, _, same, _⟩
      · exact .quiet rfl rfl rfl fun _ next => nomatch next
      · cases same
  case h_3 => cases done

theorem marking_effect {run : OptimizerRun}
    {candidates : List CommitmentInstrumentCandidate}
    (done : operate runtime worker input (.markingInfeasible run candidates) shared =
      some (effect, after)) : Effect (.markingInfeasible run candidates) shared effect after := by
  delta operate at done
  dsimp only at done
  split at done
  case h_1 runs marked =>
      obtain ⟨rfl, rfl⟩ := Prod.mk.inj (Option.some.inj done)
      rcases update_running_status marked (fun _ => rfl) with ⟨_, same⟩ | ⟨running, moved⟩
      · exact .quiet rfl same rfl fun _ next => nomatch next
      · exact .ended run.id .preparing .infeasible rfl rfl running (Or.inr ⟨rfl, rfl⟩) moved rfl rfl
  case h_2 => cases done

theorem failing_effect {run : OptimizerRun}
    (done : operate runtime worker input (.failing run) shared = some (effect, after)) :
    Effect (.failing run) shared effect after := by
  delta operate at done
  dsimp only at done
  split at done
  case h_1 runs failed =>
      obtain ⟨rfl, rfl⟩ := Prod.mk.inj (Option.some.inj done)
      rcases update_running_status failed (fun _ => rfl) with ⟨_, same⟩ | ⟨running, moved⟩
      · exact .quiet rfl same rfl fun _ next => nomatch next
      · exact .ended run.id .failing .failed rfl rfl running (Or.inl rfl) moved rfl rfl
  case h_2 => cases done

theorem completing_effect {run : OptimizerRun} (running : runStatus shared run.id = some .running)
    (done : operate runtime worker input (.completing run) shared = some (effect, after)) :
    Effect (.completing run) shared effect after := by
  delta operate at done
  dsimp only at done
  split at done
  case h_1 runs completed =>
      obtain ⟨rfl, rfl⟩ := Prod.mk.inj (Option.some.inj done)
      rcases update_running_status completed (fun _ => rfl) with ⟨idle, _⟩ | ⟨_, moved⟩
      · exact absurd running idle
      · exact .completed run rfl moved rfl rfl
  case h_2 => cases done

theorem inserting_effect {run : OptimizerRun} {snapshot : Json}
    {selected : CommitmentInstrumentCandidate} {item : Option PriceTableItem}
    (done : operate runtime worker input (.inserting run snapshot selected item) shared =
      some (effect, after)) : Effect (.inserting run snapshot selected item) shared effect after := by
  delta operate at done
  dsimp only at done
  split at done
  case h_1 => cases done
  case h_2 policy _ =>
      split at done
      case h_1 recommendations inserted =>
          obtain ⟨rfl, rfl⟩ := Prod.mk.inj (Option.some.inj done)
          obtain ⟨_, _, inserted⟩ := bind_ok.mp inserted
          obtain ⟨rfl, fresh, _⟩ := insert_recommendation_row_ok inserted
          exact .inserted run snapshot selected item rfl rfl (count_insert rfl fresh) rfl
      case h_2 => cases done

/-- A step that leaves both tables alone and goes on with the same run. -/
theorem reading_effect {phase : Phase} (calm : critical phase = false)
    (runs : effect.runs = shared.runs) (recommendations : effect.recommendations = shared.recommendations)
    (onward : ∀ next, after = some next → duty next = duty phase) :
    Effect phase shared effect after :=
  .quiet calm (by funext id; rw [runStatus, runs, runStatus])
    (by funext id; rw [recommendationsOf, recommendations, recommendationsOf]) onward

theorem resolving_effect {tenantId actorUserId : Uuid} {request : OptimizerRunCreateInput}
    {answers : InputAnswers}
    (done : operate runtime worker input (.resolving tenantId actorUserId request answers) shared =
      some (effect, after)) :
    Effect (.resolving tenantId actorUserId request answers) shared effect after := by
  delta operate at done
  dsimp only at done
  split at done
  case h_1 =>
      obtain ⟨rfl, rfl⟩ := Prod.mk.inj (Option.some.inj done)
      refine reading_effect rfl rfl rfl fun next same => ?_
      obtain rfl := Option.some.inj same
      rfl
  case h_2 =>
      obtain ⟨rfl, rfl⟩ := Prod.mk.inj (Option.some.inj done)
      exact reading_effect rfl rfl rfl fun _ next => nomatch next
  case h_3 onward answered =>
      split_ifs at done
      obtain ⟨rfl, rfl⟩ := Prod.mk.inj (Option.some.inj done)
      refine reading_effect rfl rfl rfl fun next same => ?_
      obtain rfl := Option.some.inj same
      obtain ⟨_, _, _, _, _, _, _, rfl⟩ := resolved_ok runtime answered
      rfl

/-- Every operation of a worker that knows its run has one of the effects. -/
theorem operate_effect {phase : Phase} (holds : Holds worker phase shared)
    (done : operate runtime worker input phase shared = some (effect, after)) :
    Effect phase shared effect after := by
  cases phase with
  | resolving => exact resolving_effect done
  | creating => exact creating_effect done
  | claiming => exact claiming_effect done
  | markingInfeasible => exact marking_effect done
  | inserting => exact inserting_effect done
  | completing run => exact completing_effect (holds run.id .completing rfl).1 done
  | failing => exact failing_effect done
  | storingSnapshot run snapshot =>
      obtain ⟨rfl, rfl⟩ := Prod.mk.inj (Option.some.inj done)
      refine reading_effect rfl rfl rfl fun next same => ?_
      obtain rfl := Option.some.inj same
      rfl
  | readingSnapshot run =>
      obtain ⟨snapshot, _, same⟩ := Option.map_eq_some_iff.mp done
      obtain ⟨rfl, rfl⟩ := Prod.mk.inj same
      refine reading_effect rfl rfl rfl fun next same => ?_
      obtain rfl := Option.some.inj same
      rfl
  | readingForecast run snapshot =>
      obtain ⟨forecast, _, same⟩ := Option.map_eq_some_iff.mp done
      obtain ⟨rfl, rfl⟩ := Prod.mk.inj same
      refine reading_effect rfl rfl rfl fun next same => ?_
      obtain rfl := Option.some.inj same
      rfl
  | listing run snapshot forecast =>
      obtain ⟨candidates, _, same⟩ := Option.map_eq_some_iff.mp done
      obtain ⟨rfl, rfl⟩ := Prod.mk.inj same
      refine reading_effect rfl rfl rfl fun next same => ?_
      obtain rfl := Option.some.inj same
      rfl
  | storingFrontier run snapshot candidates item =>
      obtain ⟨rfl, rfl⟩ := Prod.mk.inj (Option.some.inj done)
      refine reading_effect rfl rfl rfl fun next same => ?_
      cases chosen : selectCandidate candidates with
      | none =>
          rw [chosen] at same
          obtain rfl := Option.some.inj same
          rfl
      | some selected =>
          rw [chosen] at same
          obtain rfl := Option.some.inj same
          rfl
  | storingOutput run snapshot selected item =>
      obtain ⟨rfl, rfl⟩ := Prod.mk.inj (Option.some.inj done)
      refine reading_effect rfl rfl rfl fun next same => ?_
      obtain rfl := Option.some.inj same
      rfl
  | readingVersion tenantId id =>
      delta operate at done
      dsimp only at done
      split at done
      case h_1 =>
          obtain ⟨rfl, rfl⟩ := Prod.mk.inj (Option.some.inj done)
          exact reading_effect rfl rfl rfl fun _ next => nomatch next
      case h_2 =>
          obtain ⟨rfl, rfl⟩ := Prod.mk.inj (Option.some.inj done)
          refine reading_effect rfl rfl rfl fun next same => ?_
          obtain rfl := Option.some.inj same
          rfl
  | transitioning tenantId id status =>
      delta operate at done
      dsimp only at done
      split at done
      case h_1 =>
          obtain ⟨rfl, rfl⟩ := Prod.mk.inj (Option.some.inj done)
          exact reading_effect rfl rfl rfl fun _ next => nomatch next
      case h_2 => cases done

end Effects

section Soundness

variable {worker : Nat} {phase : Phase} {before effect : Shared} {after : Option Phase}

theorem count_zero {id : Uuid} {status : OptimizerRunStatus} (sound : Sound before)
    (view : runStatus before id = some status) (early : status = .queued ∨ status = .infeasible) :
    recommendationsOf before id = 0 := by
  by_contra present
  obtain ⟨stored, same, begun, feasible⟩ := sound.parents id present
  obtain rfl := Option.some.inj (view.symm.trans same)
  exact early.elim begun feasible

/-- A run gets a new status, and its count fits that. -/
theorem moved_sound {id : Uuid} {new : OptimizerRunStatus} (sound : Sound before)
    (statuses : runStatus effect = Function.update (runStatus before) id (some new))
    (counts : recommendationsOf effect = recommendationsOf before)
    (fits : recommendationsOf before id = 0 ∧ new ≠ .completed ∨
      recommendationsOf before id = 1 ∧ new = .completed ∨ new = .failed) : Sound effect where
  parents := by
    intro other present
    rw [counts] at present
    rw [statuses, Function.update_apply]
    split_ifs with same
    · subst same
      rcases fits with ⟨none, _⟩ | ⟨_, rfl⟩ | rfl
      · exact absurd none present
      · exact ⟨_, rfl, nofun, nofun⟩
      · exact ⟨_, rfl, nofun, nofun⟩
    · exact sound.parents other present
  single := by
    rw [counts]
    exact sound.single
  completed := by
    intro other completed
    rw [statuses, Function.update_apply] at completed
    rw [counts]
    split_ifs at completed with same
    · subst same
      have ended := Option.some.inj completed
      rcases fits with ⟨_, unfinished⟩ | ⟨one, _⟩ | failed
      · exact absurd ended unfinished
      · exact one
      · rw [failed] at ended
        cases ended
    · exact sound.completed other completed

theorem effect_sound (sound : Sound before) (holds : Holds worker phase before)
    (happened : Effect phase before effect after) : Sound effect := by
  cases happened with
  | quiet _ statuses counts _ =>
      exact ⟨by rw [statuses, counts]; exact sound.parents, by rw [counts]; exact sound.single,
        by rw [statuses, counts]; exact sound.completed⟩
  | created id _ _ absent statuses counts _ =>
      refine moved_sound sound statuses counts (Or.inl ⟨?_, nofun⟩)
      by_contra present
      obtain ⟨_, same, _⟩ := sound.parents id present
      rw [absent] at same
      cases same
  | claimed id _ _ waiting statuses counts _ =>
      exact moved_sound sound statuses counts
        (Or.inl ⟨count_zero sound waiting (Or.inl rfl), nofun⟩)
  | inserted run snapshot selected item same statuses counts _ =>
      subst same
      obtain ⟨running, none⟩ := holds run.id .preparing rfl
      rw [none] at counts
      have counted (id : Uuid) : recommendationsOf effect id =
          if id = run.id then 1 else recommendationsOf before id := by
        rw [counts, Function.update_apply]
      refine ⟨fun id present => ?_, fun id => ?_, fun id completed => ?_⟩
      · rw [statuses]
        rw [counted] at present
        split_ifs at present with own
        · subst own
          exact ⟨.running, running, nofun, nofun⟩
        · exact sound.parents id present
      · rw [counted]
        split_ifs
        · exact Nat.le_refl 1
        · exact sound.single id
      · rw [statuses] at completed
        rw [counted]
        split_ifs
        · rfl
        · exact sound.completed id completed
  | completed run same statuses counts _ =>
      subst same
      obtain ⟨running, one⟩ := holds run.id .completing rfl
      exact moved_sound sound statuses counts (Or.inr (Or.inl ⟨one, rfl⟩))
  | ended id own status _ owned running unsuccessful statuses counts _ =>
      refine moved_sound sound statuses counts ?_
      rcases unsuccessful with failed | ⟨rfl, rfl⟩
      · exact Or.inr (Or.inr failed)
      · exact Or.inl ⟨(holds id .preparing owned).2, nofun⟩

/-- What a worker knows of its run at the phase it goes on with. -/
theorem effect_holds {next : Phase} (sound : Sound before) (holds : Holds worker phase before)
    (happened : Effect phase before effect after) (same : after = some next) :
    Holds worker next effect := by
  intro id own owned
  cases happened with
  | quiet _ statuses counts onward =>
      have kept := holds id own (onward next same ▸ owned)
      cases own <;> simpa only [Meets, statuses, counts] using kept
  | created _ _ _ _ _ _ onward => exact nomatch onward.symm.trans same
  | claimed claimed _ _ waiting statuses counts onward =>
      obtain ⟨rfl, rfl⟩ := Prod.mk.inj (Option.some.inj ((onward next same).symm.trans owned))
      exact ⟨by rw [statuses, Function.update_self],
        by rw [counts]; exact count_zero sound waiting (Or.inl rfl)⟩
  | inserted run snapshot selected item here statuses counts onward =>
      subst here
      obtain ⟨running, none⟩ := holds run.id .preparing rfl
      obtain rfl := Option.some.inj (onward.symm.trans same)
      obtain ⟨rfl, rfl⟩ := Prod.mk.inj (Option.some.inj owned)
      exact ⟨by rw [statuses]; exact running, by rw [counts, Function.update_self, none]⟩
  | completed _ _ _ _ onward => exact nomatch onward.symm.trans same
  | ended _ _ _ _ _ _ _ _ _ onward => exact nomatch onward.symm.trans same

/-- The `catch` of a worker goes on with the same run. -/
theorem rescue_cases {next : Phase} (same : rescue phase = some next) :
    ∃ run own, next = .failing run ∧ duty phase = some (run.id, own) ∧ own ≠ .failing := by
  cases phase <;> first
    | contradiction
    | exact ⟨_, _, (Option.some.inj same).symm, rfl, nofun⟩

theorem rescue_holds {next : Phase} (holds : Holds worker phase before)
    (same : rescue phase = some next) : Holds worker next before := by
  obtain ⟨run, earlier, rfl, mine, active⟩ := rescue_cases same
  intro id own owned
  obtain ⟨rfl, rfl⟩ := Prod.mk.inj (Option.some.inj owned)
  have known := holds run.id earlier mine
  cases earlier with
  | preparing => exact ⟨_, known.1, nofun⟩
  | completing => exact ⟨_, known.1, nofun⟩
  | failing => exact absurd rfl active

end Soundness

section Workers

variable {worker other : Nat} {phase otherPhase : Phase} {before effect : Shared}
  {after : Option Phase}

theorem meets_congr {id : Uuid} {own : Duty} (status : runStatus effect id = runStatus before id)
    (count : recommendationsOf effect id = recommendationsOf before id)
    (meets : Meets before id own) : Meets effect id own := by
  cases own <;> simpa only [Meets, status, count] using meets

theorem meets_begun {id : Uuid} {own : Duty} (meets : Meets before id own) :
    ∃ status, runStatus before id = some status ∧ status ≠ .queued := by
  cases own with
  | preparing => exact ⟨_, meets.1, nofun⟩
  | completing => exact ⟨_, meets.1, nofun⟩
  | failing => exact meets

/-- A worker's own run does not become queued again. -/
theorem effect_begun {id : Uuid} {own : Duty} (happened : Effect phase before effect after)
    (owned : duty phase = some (id, own)) (meets : Meets before id own) :
    Meets effect id .failing := by
  obtain ⟨status, view, begun⟩ := meets_begun meets
  cases happened with
  | quiet _ statuses _ _ => exact ⟨status, by rw [statuses]; exact view, begun⟩
  | created _ _ unowned => exact nomatch unowned.symm.trans owned
  | claimed _ _ unowned => exact nomatch unowned.symm.trans owned
  | inserted _ _ _ _ _ statuses => exact ⟨status, by rw [statuses]; exact view, begun⟩
  | completed run same statuses _ _ =>
      subst same
      obtain ⟨rfl, rfl⟩ := Prod.mk.inj (Option.some.inj owned)
      exact ⟨.completed, by rw [statuses, Function.update_self], nofun⟩
  | ended ended mine final _ held _ unsuccessful statuses _ _ =>
      obtain ⟨rfl, rfl⟩ := Prod.mk.inj (Option.some.inj (held.symm.trans owned))
      refine ⟨final, by rw [statuses, Function.update_self], ?_⟩
      rcases unsuccessful with rfl | ⟨_, rfl⟩
      · exact nofun
      · exact nofun

/-- An operation changes nothing about a run that another worker has begun. -/
theorem effect_elsewhere {id : Uuid} {own : Duty} (happened : Effect phase before effect after)
    (meets : Meets before id own) (apart : ∀ mine, duty phase ≠ some (id, mine)) :
    runStatus effect id = runStatus before id ∧
      recommendationsOf effect id = recommendationsOf before id := by
  obtain ⟨_, view, begun⟩ := meets_begun meets
  cases happened with
  | quiet _ statuses counts _ => exact ⟨by rw [statuses], by rw [counts]⟩
  | created created _ _ absent statuses counts _ =>
      have different : id ≠ created := by
        rintro rfl
        rw [absent] at view
        cases view
      exact ⟨by rw [statuses, Function.update_of_ne different], by rw [counts]⟩
  | claimed claimed _ _ waiting statuses counts _ =>
      have different : id ≠ claimed := by
        rintro rfl
        exact begun (Option.some.inj (view.symm.trans waiting))
      exact ⟨by rw [statuses, Function.update_of_ne different], by rw [counts]⟩
  | inserted run _ _ _ same statuses counts _ =>
      have different : id ≠ run.id := by
        rintro rfl
        exact apart .preparing (by rw [same]; rfl)
      exact ⟨by rw [statuses], by rw [counts, Function.update_of_ne different]⟩
  | completed run same statuses counts _ =>
      have different : id ≠ run.id := by
        rintro rfl
        exact apart .completing (by rw [same]; rfl)
      exact ⟨by rw [statuses, Function.update_of_ne different], by rw [counts]⟩
  | ended ended mine _ _ owned _ _ statuses counts _ =>
      have different : id ≠ ended := by
        rintro rfl
        exact apart mine owned
      exact ⟨by rw [statuses, Function.update_of_ne different], by rw [counts]⟩

theorem apart_symmetric {first second : Phase} (apart : Apart first second) : Apart second first :=
  fun id own other owned same => apart id other own same owned

/-- The run that a worker goes on with is its own, or one that was queued. -/
theorem effect_apart {next : Phase} (happened : Effect phase before effect after)
    (others : Holds other otherPhase before) (apart : Apart phase otherPhase)
    (same : after = some next) : Apart next otherPhase := by
  intro id own foreign owned theirs
  cases happened with
  | quiet _ _ _ onward => exact apart id own foreign (onward next same ▸ owned) theirs
  | created _ _ _ _ _ _ onward => exact nomatch onward.symm.trans same
  | claimed claimed _ _ waiting _ _ onward =>
      obtain ⟨rfl, rfl⟩ := Prod.mk.inj (Option.some.inj ((onward next same).symm.trans owned))
      obtain ⟨status, view, begun⟩ := meets_begun (others _ foreign theirs)
      exact begun (Option.some.inj (view.symm.trans waiting))
  | inserted run _ _ _ here _ _ onward =>
      obtain rfl := Option.some.inj (onward.symm.trans same)
      obtain ⟨rfl, rfl⟩ := Prod.mk.inj (Option.some.inj owned)
      exact apart run.id .preparing foreign (by rw [here]; rfl) theirs
  | completed _ _ _ _ onward => exact nomatch onward.symm.trans same
  | ended _ _ _ _ _ _ _ _ _ onward => exact nomatch onward.symm.trans same

theorem entry_unowned (entered : entry phase = true) : duty phase = none := by
  cases phase <;> first
    | rfl
    | exact nomatch entered

variable {runtime : OptimizerRuntime}

/-- Requests and the clock change neither table. -/
theorem environment_keeps {event : Event} (change : environment runtime event before = some effect) :
    effect.runs = before.runs ∧ effect.recommendations = before.recommendations := by
  cases event with
  | tick => exact Option.some.inj change ▸ ⟨rfl, rfl⟩
  | createPriceTable =>
      simp only [environment] at change
      split_ifs at change
      obtain ⟨_, _, rfl⟩ := Option.map_eq_some_iff.mp change
      exact ⟨rfl, rfl⟩
  | retirePriceTable =>
      simp only [environment] at change
      split_ifs at change
      obtain ⟨_, _, rfl⟩ := Option.map_eq_some_iff.mp change
      exact ⟨rfl, rfl⟩
  | insertPriceItem =>
      obtain ⟨_, _, rfl⟩ := Option.map_eq_some_iff.mp change
      exact ⟨rfl, rfl⟩
  | changePriceItems =>
      obtain ⟨_, _, rfl⟩ := Option.map_eq_some_iff.mp change
      exact ⟨rfl, rfl⟩
  | forecast run output =>
      simp only [environment, storeForecast] at change
      split at change
      · obtain rfl := Option.some.inj change
        split_ifs <;> exact ⟨rfl, rfl⟩
      · split_ifs at change <;> obtain rfl := Option.some.inj change <;> exact ⟨rfl, rfl⟩
  | policies => exact Option.some.inj change ▸ ⟨rfl, rfl⟩
  | scenarios => exact Option.some.inj change ▸ ⟨rfl, rfl⟩
  | accounts => exact Option.some.inj change ▸ ⟨rfl, rfl⟩

theorem run_discipline (runtime : OptimizerRuntime) :
    Discipline (program runtime) Sound Holds Apart where
  symmetric := apart_symmetric
  entered := by
    intro worker phase shared entered _
    have unowned := entry_unowned entered
    refine ⟨fun id own owned => ?_, fun other id own foreign owned => ?_⟩
    · exact nomatch unowned.symm.trans owned
    · exact nomatch unowned.symm.trans owned
  operated := by
    intro worker input phase shared effect after sound holds done
    have happened := operate_effect holds done
    refine ⟨effect_sound sound holds happened, fun next same => ?_⟩
    rcases same with same | same
    · exact effect_holds sound holds happened same
    · obtain ⟨run, earlier, rfl, mine, _⟩ := rescue_cases same
      intro id own owned
      obtain ⟨rfl, rfl⟩ := Prod.mk.inj (Option.some.inj owned)
      exact effect_begun happened mine (holds run.id earlier mine)
  failed := fun _ holds same => rescue_holds holds same
  undisturbed := by
    intro worker input phase shared effect after other otherPhase sound holds different others apart
      done
    have happened := operate_effect holds done
    refine ⟨fun id own owned => ?_, fun next same => effect_apart happened others apart same⟩
    have meets := others id own owned
    obtain ⟨status, count⟩ :=
      effect_elsewhere happened meets fun mine same => apart id mine own same owned
    exact meets_congr status count meets
  still_apart := by
    intro phase next other apart same id own foreign owned
    obtain ⟨run, earlier, rfl, mine, _⟩ := rescue_cases same
    obtain ⟨rfl, rfl⟩ := Prod.mk.inj (Option.some.inj owned)
    exact apart run.id earlier foreign mine
  external := by
    intro event shared effect sound change
    obtain ⟨runs, recommendations⟩ := environment_keeps change
    have statuses : runStatus effect = runStatus shared := by
      funext id
      rw [runStatus, runs, runStatus]
    have counts : recommendationsOf effect = recommendationsOf shared := by
      funext id
      rw [recommendationsOf, recommendations, recommendationsOf]
    refine ⟨⟨by rw [statuses, counts]; exact sound.parents, by rw [counts]; exact sound.single,
      by rw [statuses, counts]; exact sound.completed⟩, fun worker phase holds id own owned => ?_⟩
    exact meets_congr (by rw [statuses]) (by rw [counts]) (holds id own owned)

end Workers

section Interruptions

variable (runtime : OptimizerRuntime)

def idle (shared : Shared) : OptimizerState := ⟨shared, fun _ => none⟩

/-- The run whose recommendation is there and whose completion comes next. -/
def completes : Option Phase → Option Uuid
  | some (.completing run) => some run.id
  | _ => none

/-- The run whose recommendation a step leaves without a completion: its worker stops
before it completes the run, its completion has no effect, or it is told that the
INSERT failed although the row is there. -/
def interruption (state : OptimizerState) : OptimizerAction → Option Uuid
  | .stop worker => completes (state.workers worker)
  | .advance worker input fault =>
      match state.workers worker with
      | some (.inserting run snapshot selected item) =>
          if fault = .afterEffect ∧
              (operate runtime worker input (.inserting run snapshot selected item)
                state.shared).isSome then some run.id
          else none
      | some (.completing run) =>
          if fault = .beforeEffect ∨
              (operate runtime worker input (.completing run) state.shared).isNone then some run.id
          else none
      | _ => none
  | .call _ _ | .external _ => none

def Unfinished (shared : Shared) (id : Uuid) : Prop :=
  recommendationsOf shared id ≠ 0 ∧ runStatus shared id ≠ some .completed

def Attended (state : OptimizerState) (id : Uuid) : Prop :=
  ∃ worker, completes (state.workers worker) = some id

/-- A recommendation whose run nobody will complete. -/
def Orphan (state : OptimizerState) (id : Uuid) : Prop :=
  Unfinished state.shared id ∧ ¬ Attended state id

variable {runtime} {state next : OptimizerState} {worker : Nat} {onward : Option Phase}
  {shared : Shared}

/-- A worker and the others that attend to a run. -/
theorem attended_iff {id : Uuid} : Attended state id ↔
    completes (state.workers worker) = some id ∨
      ∃ other, other ≠ worker ∧ completes (state.workers other) = some id := by
  constructor
  · rintro ⟨other, attends⟩
    by_cases same : other = worker
    · exact Or.inl (same ▸ attends)
    · exact Or.inr ⟨other, same, attends⟩
  · rintro (attends | ⟨other, _, attends⟩)
    · exact ⟨worker, attends⟩
    · exact ⟨other, attends⟩

theorem attended_setWorker {id : Uuid} :
    Attended { state.setWorker worker onward with shared := shared } id ↔
      completes onward = some id ∨
        ∃ other, other ≠ worker ∧ completes (state.workers other) = some id := by
  rw [@attended_iff _ worker]
  have own : (state.setWorker worker onward).workers worker = onward :=
    State.workers_setWorker_self ..
  have others : ∀ other, other ≠ worker →
      (state.setWorker worker onward).workers other = state.workers other :=
    fun other different => State.workers_setWorker_of_ne _ _ different
  simp only [own]
  refine or_congr_right (exists_congr fun other => and_congr_right fun different => ?_)
  rw [others other different]

theorem completes_some {phase : Option Phase} {id : Uuid} (attends : completes phase = some id) :
    ∃ run : OptimizerRun, phase = some (.completing run) ∧ run.id = id := by
  unfold completes at attends
  split at attends
  · exact ⟨_, rfl, Option.some.inj attends⟩
  · cases attends

/-- What an attended run looks like. -/
theorem attended_unfinished (consistent : Consistent Sound Holds Apart state) {id : Uuid}
    (attended : Attended state id) : Unfinished state.shared id := by
  obtain ⟨worker, attends⟩ := attended
  obtain ⟨run, busy, rfl⟩ := completes_some attends
  obtain ⟨running, one⟩ := consistent.holds busy run.id .completing rfl
  exact ⟨by rw [one]; nofun, by rw [running]; nofun⟩

/-- No other worker completes the run of a worker. -/
theorem attended_alone (consistent : Consistent Sound Holds Apart state) {phase : Phase} {id : Uuid}
    {own : Duty} {other : Nat} (busy : state.workers worker = some phase)
    (owned : duty phase = some (id, own)) (different : other ≠ worker) :
    completes (state.workers other) ≠ some id := by
  intro attends
  obtain ⟨twin, otherBusy, rfl⟩ := completes_some attends
  exact consistent.apart different.symm busy otherBusy twin.id own .completing owned rfl

theorem completes_duty {phase : Phase} {id : Uuid} (attends : completes (some phase) = some id) :
    duty phase = some (id, .completing) := by
  obtain ⟨run, same, rfl⟩ := completes_some attends
  obtain rfl := Option.some.inj same
  rfl

theorem rescue_completes (phase : Phase) : completes (rescue phase) = none := by
  cases same : rescue phase with
  | none => rfl
  | some next =>
      obtain ⟨run, _, rfl, _⟩ := rescue_cases same
      rfl

/-- A worker that does not go on to complete a run leaves the one it was to complete. -/
theorem orphan_released (consistent : Consistent Sound Holds Apart state)
    (released : completes onward = none) {id : Uuid}
    (same : Unfinished shared id ↔ Unfinished state.shared id) :
    Orphan { state.setWorker worker onward with shared := shared } id ↔
      Orphan state id ∨ completes (state.workers worker) = some id := by
  rw [Orphan, Orphan, attended_setWorker, @attended_iff _ worker, released]
  simp only [same, reduceCtorEq, false_or]
  by_cases attends : completes (state.workers worker) = some id
  · obtain ⟨run, busy, rfl⟩ := completes_some attends
    have alone : ¬ ∃ other, other ≠ worker ∧ completes (state.workers other) = some run.id :=
      fun ⟨other, different, both⟩ => attended_alone consistent busy rfl different both
    have unfinished := attended_unfinished consistent ⟨worker, attends⟩
    simp only [attends, alone, unfinished, not_false_eq_true, and_self, or_true]
  · simp only [attends, false_or, or_false]

/-- A worker that has inserted the recommendation of its run. -/
theorem orphan_inserted (consistent : Consistent Sound Holds Apart state) {phase : Phase} {mine : Uuid}
    (busy : state.workers worker = some phase) (owned : duty phase = some (mine, .preparing))
    (grown : ∀ id, Unfinished shared id ↔ Unfinished state.shared id ∨ id = mine)
    (goes : completes onward = none ∨ completes onward = some mine) (id : Uuid) :
    Orphan { state.setWorker worker onward with shared := shared } id ↔
      Orphan state id ∨ completes onward = none ∧ mine = id := by
  have idle : completes (state.workers worker) ≠ some id := by
    intro attends
    rw [busy] at attends
    have completing := completes_duty attends
    rw [owned] at completing
    cases completing
  have fresh : ¬ Unfinished state.shared mine := fun unfinished =>
    unfinished.1 (consistent.holds busy mine .preparing owned).2
  have alone : ¬ ∃ other, other ≠ worker ∧ completes (state.workers other) = some mine :=
    fun ⟨other, different, both⟩ => attended_alone consistent busy owned different both
  rw [Orphan, Orphan, attended_setWorker, @attended_iff _ worker, grown]
  by_cases same : id = mine
  · subst same
    rcases goes with goes | goes <;> simp [goes, fresh, alone]
  · have different : mine ≠ id := fun equal => same equal.symm
    rcases goes with goes | goes <;> simp [goes, same, different, idle]

/-- A worker that has completed its run. -/
theorem orphan_completed {run : OptimizerRun} (busy : state.workers worker = some (.completing run))
    (released : completes onward = none)
    (shrunk : ∀ id, Unfinished shared id ↔ Unfinished state.shared id ∧ id ≠ run.id) (id : Uuid) :
    Orphan { state.setWorker worker onward with shared := shared } id ↔ Orphan state id := by
  have attends : completes (state.workers worker) = some run.id := by
    rw [busy]
    rfl
  rw [Orphan, Orphan, attended_setWorker, @attended_iff _ worker, shrunk, released, attends]
  by_cases same : id = run.id
  · subst same
    simp
  · have different : run.id ≠ id := fun equal => same equal.symm
    simp [same, different]

theorem unfinished_moved {before effect : Shared} {moved : Uuid} {new : OptimizerRunStatus}
    (statuses : runStatus effect = Function.update (runStatus before) moved (some new))
    (counts : recommendationsOf effect = recommendationsOf before)
    (started : runStatus before moved ≠ some .completed) (unfinished : new ≠ .completed) (id : Uuid) :
    Unfinished effect id ↔ Unfinished before id := by
  rw [Unfinished, Unfinished, statuses, counts, Function.update_apply]
  refine and_congr_right fun _ => ?_
  split_ifs with same
  · subst same
    simp [started, unfinished]
  · rfl

/-- Away from the two critical phases no run becomes unfinished or completed. -/
theorem unfinished_calm {phase : Phase} {before effect : Shared} {after : Option Phase}
    (happened : Effect phase before effect after) (calm : critical phase = false) (id : Uuid) :
    Unfinished effect id ↔ Unfinished before id := by
  cases happened with
  | quiet _ statuses counts _ => rw [Unfinished, Unfinished, statuses, counts]
  | created _ _ _ absent statuses counts _ =>
      exact unfinished_moved statuses counts (by rw [absent]; nofun) nofun id
  | claimed _ _ _ waiting statuses counts _ =>
      exact unfinished_moved statuses counts (by rw [waiting]; nofun) nofun id
  | inserted _ _ _ _ same =>
      subst same
      cases calm
  | completed _ same =>
      subst same
      cases calm
  | ended _ _ _ _ _ running unsuccessful statuses counts _ =>
      refine unfinished_moved statuses counts (by rw [running]; nofun) ?_ id
      rcases unsuccessful with rfl | ⟨_, rfl⟩
      · exact nofun
      · exact nofun

theorem completes_calm {phase : Phase} {before effect : Shared} {after : Option Phase}
    (happened : Effect phase before effect after) (calm : critical phase = false) :
    completes after = none := by
  cases after with
  | none => rfl
  | some next =>
      by_contra attends
      obtain ⟨id, attends⟩ := Option.ne_none_iff_exists'.mp attends
      have completing := completes_duty attends
      cases happened with
      | quiet _ _ _ onward =>
          rw [onward next rfl] at completing
          cases phase <;> first
            | contradiction
            | cases completing
      | created _ _ _ _ _ _ onward => cases onward
      | claimed _ _ _ _ _ _ onward =>
          rw [onward next rfl] at completing
          cases completing
      | inserted _ _ _ _ same =>
          subst same
          cases calm
      | completed _ same =>
          subst same
          cases calm
      | ended _ _ _ _ _ _ _ _ _ onward => cases onward

theorem interruption_calm {phase : Phase} {input : Input} {fault : Fault}
    (busy : state.workers worker = some phase) (calm : critical phase = false) :
    interruption runtime state (.advance worker input fault) = none := by
  cases phase <;> first
    | contradiction
    | simp only [interruption, busy]

theorem completes_critical {phase : Phase} {id : Uuid} (attends : completes (some phase) = some id) :
    critical phase = true := by
  obtain ⟨run, same, _⟩ := completes_some attends
  obtain rfl := Option.some.inj same
  rfl

theorem completes_calm_phase {phase : Phase} (calm : critical phase = false) :
    completes (some phase) = none := by
  by_contra attends
  obtain ⟨id, attends⟩ := Option.ne_none_iff_exists'.mp attends
  rw [completes_critical attends] at calm
  cases calm

variable {input : Input} {fault : Fault}

section Critical

variable {before effect : Shared} {after : Option Phase} {run : OptimizerRun}

theorem unfinished_inserted {snapshot : Json} {selected : CommitmentInstrumentCandidate}
    {item : Option PriceTableItem}
    (holds : Holds worker (.inserting run snapshot selected item) before)
    (done : operate runtime worker input (.inserting run snapshot selected item) before =
      some (effect, after)) :
    after = some (.completing run) ∧
      ∀ id, Unfinished effect id ↔ Unfinished before id ∨ id = run.id := by
  obtain ⟨running, none⟩ := holds run.id .preparing rfl
  cases inserting_effect done with
  | quiet calm => cases calm
  | created _ calm => cases calm
  | claimed _ calm => cases calm
  | completed _ same => cases same
  | ended _ _ _ calm => cases calm
  | inserted other _ _ _ same statuses counts onward =>
      obtain ⟨rfl, _⟩ := Phase.inserting.inj same
      refine ⟨onward, fun id => ?_⟩
      rw [Unfinished, Unfinished, statuses, counts, Function.update_apply]
      by_cases own : id = run.id
      · subst own
        simp [none, running]
      · simp [own]

theorem unfinished_completed (holds : Holds worker (.completing run) before)
    (done : operate runtime worker input (.completing run) before = some (effect, after)) :
    after = none ∧ ∀ id, Unfinished effect id ↔ Unfinished before id ∧ id ≠ run.id := by
  cases completing_effect (holds run.id .completing rfl).1 done with
  | quiet calm => cases calm
  | created _ calm => cases calm
  | claimed _ calm => cases calm
  | inserted _ _ _ _ same => cases same
  | ended _ _ _ calm => cases calm
  | completed other same statuses counts onward =>
      obtain rfl := Phase.completing.inj same
      refine ⟨onward, fun id => ?_⟩
      rw [Unfinished, Unfinished, statuses, counts, Function.update_apply]
      by_cases own : id = run.id <;> simp [own]

end Critical

/-- The operation of a worker outside the two critical phases. -/
theorem orphan_calm (consistent : Consistent Sound Holds Apart state) {phase : Phase}
    (busy : state.workers worker = some phase) (calm : critical phase = false) (id : Uuid) :
    Orphan { state.setWorker worker
        (FaultyWorkers.advance (program runtime) worker input fault phase state.shared).2 with
      shared := (FaultyWorkers.advance (program runtime) worker input fault phase state.shared).1 } id ↔
      Orphan state id := by
  have quiet : Orphan state id ∨ completes (state.workers worker) = some id ↔ Orphan state id := by
    rw [busy, completes_calm_phase calm]
    simp
  rcases advance_cases (program runtime) worker input fault phase state.shared with
    ⟨effect, after, operation, result | result⟩ | result
  · have happened := operate_effect (consistent.holds busy) operation
    rw [result]
    exact (orphan_released consistent (completes_calm happened calm)
      (unfinished_calm happened calm id)).trans quiet
  · have happened := operate_effect (consistent.holds busy) operation
    rw [result]
    exact (orphan_released consistent (rescue_completes phase)
      (unfinished_calm happened calm id)).trans quiet
  · rw [result]
    exact (orphan_released consistent (rescue_completes phase) Iff.rfl).trans quiet

/-- The INSERT of a recommendation. -/
theorem orphan_inserting (consistent : Consistent Sound Holds Apart state) {run : OptimizerRun}
    {snapshot : Json} {selected : CommitmentInstrumentCandidate} {item : Option PriceTableItem}
    (busy : state.workers worker = some (.inserting run snapshot selected item)) (id : Uuid) :
    Orphan { state.setWorker worker (FaultyWorkers.advance (program runtime) worker input fault
          (.inserting run snapshot selected item) state.shared).2 with
      shared := (FaultyWorkers.advance (program runtime) worker input fault
        (.inserting run snapshot selected item) state.shared).1 } id ↔
      Orphan state id ∨ interruption runtime state (.advance worker input fault) = some id := by
  have failed : Orphan { state.setWorker worker (some (.failing run)) with shared := state.shared } id ↔
      Orphan state id := by
    refine (orphan_released consistent rfl Iff.rfl).trans ?_
    rw [busy]
    simp [completes]
  simp only [interruption, busy]
  cases operation : operate runtime worker input (.inserting run snapshot selected item)
      state.shared with
  | none =>
      simp only [FaultyWorkers.advance, program, operation, rescue, Option.isSome_none,
        Bool.false_eq_true, and_false, if_false, reduceCtorEq, or_false]
      cases fault <;> exact failed
  | some result =>
      obtain ⟨effect, after⟩ := result
      obtain ⟨goes, grown⟩ := unfinished_inserted (consistent.holds busy) operation
      have inserted {onward : Option Phase} (goes) := @orphan_inserted state worker onward effect
        consistent _ _ busy rfl grown goes id
      cases fault with
      | absent =>
          simp only [FaultyWorkers.advance, program, operation, goes]
          rw [inserted (Or.inr rfl)]
          simp [completes]
      | beforeEffect =>
          simp only [FaultyWorkers.advance, program]
          exact failed.trans (by simp)
      | afterEffect =>
          simp only [FaultyWorkers.advance, program, operation]
          exact (inserted (Or.inl rfl)).trans (by simp [rescue, completes])

/-- The completion of a run. -/
theorem orphan_completing (consistent : Consistent Sound Holds Apart state) {run : OptimizerRun}
    (busy : state.workers worker = some (.completing run)) (id : Uuid) :
    Orphan { state.setWorker worker (FaultyWorkers.advance (program runtime) worker input fault
          (.completing run) state.shared).2 with
      shared := (FaultyWorkers.advance (program runtime) worker input fault
        (.completing run) state.shared).1 } id ↔
      Orphan state id ∨ interruption runtime state (.advance worker input fault) = some id := by
  have failed : Orphan { state.setWorker worker (some (.failing run)) with shared := state.shared } id ↔
      Orphan state id ∨ some run.id = some id := by
    refine (orphan_released consistent rfl Iff.rfl).trans ?_
    rw [busy]
    rfl
  simp only [interruption, busy]
  cases operation : operate runtime worker input (.completing run) state.shared with
  | none =>
      simp only [FaultyWorkers.advance, program, operation, rescue, Option.isNone_none, or_true,
        if_true]
      cases fault <;> exact failed
  | some result =>
      obtain ⟨effect, after⟩ := result
      obtain ⟨goes, shrunk⟩ := unfinished_completed (consistent.holds busy) operation
      have completed {onward : Option Phase} (released : completes onward = none) :
          Orphan { state.setWorker worker onward with shared := effect } id ↔ Orphan state id :=
        orphan_completed busy released shrunk id
      cases fault with
      | absent =>
          simp only [FaultyWorkers.advance, program, operation, goes]
          exact (completed rfl).trans (by simp)
      | beforeEffect =>
          simp only [FaultyWorkers.advance, program]
          exact failed.trans (by simp)
      | afterEffect =>
          simp only [FaultyWorkers.advance, program, operation]
          exact (completed rfl).trans (by simp)

/-- A step leaves exactly the recommendation of the run that it interrupts. -/
theorem orphan_step {action : OptimizerAction} (consistent : Consistent Sound Holds Apart state)
    (taken : optimizerStep runtime state action = some next) (id : Uuid) :
    Orphan next id ↔ Orphan state id ∨ interruption runtime state action = some id := by
  cases action with
  | call worker phase =>
      simp only [optimizerStep, step] at taken
      split_ifs at taken with enabled
      obtain rfl := Option.some.inj taken
      have calm : critical phase = false := by
        cases phase <;> first
          | rfl
          | cases enabled.2
      refine (orphan_released consistent (completes_calm_phase calm) Iff.rfl).trans ?_
      rw [enabled.1]
      rfl
  | advance worker input fault =>
      obtain ⟨phase, busy, rfl⟩ := Option.map_eq_some_iff.mp taken
      cases crucial : critical phase with
      | false =>
          rw [interruption_calm busy crucial]
          exact (orphan_calm consistent busy crucial id).trans (by simp)
      | true =>
          cases phase with
          | inserting => exact orphan_inserting consistent busy id
          | completing => exact orphan_completing consistent busy id
          | _ => cases crucial
  | stop worker =>
      obtain rfl := Option.some.inj taken
      exact orphan_released consistent rfl Iff.rfl
  | external event =>
      obtain ⟨effect, change, rfl⟩ := Option.map_eq_some_iff.mp taken
      obtain ⟨runs, recommendations⟩ := environment_keeps change
      rw [Orphan, Orphan, Unfinished, Unfinished, recommendationsOf, recommendationsOf, runStatus,
        runStatus, runs, recommendations]
      simp [interruption, Attended]

/-- Nothing is left without a completion after a run exactly when nothing was before
and no step of it interrupts a worker. -/
theorem orphans_of_run {schedule : List OptimizerAction}
    (consistent : Consistent Sound Holds Apart state)
    (ran : execute (optimizerStep runtime) state schedule = some next) :
    (∀ id, ¬ Orphan next id) ↔ (∀ id, ¬ Orphan state id) ∧
      Along (optimizerStep runtime) (fun state action => interruption runtime state action = none)
        state schedule := by
  induction schedule generalizing state with
  | nil =>
      cases ran
      simp [Along]
  | cons action rest induction =>
      obtain ⟨middle, taken, onward⟩ := execute_cons_some.mp ran
      have kept := step_consistent (run_discipline runtime) consistent taken
      rw [induction kept onward, Along]
      have first : (∀ id, ¬ Orphan middle id) ↔ (∀ id, ¬ Orphan state id) ∧
          interruption runtime state action = none := by
        simp only [orphan_step consistent taken, not_or, forall_and, Option.eq_none_iff_forall_ne_some,
          ne_eq]
      rw [first, and_assoc]
      simp only [taken, Option.some.injEq, forall_eq']

end Interruptions

section Runs

variable {runtime : OptimizerRuntime} {shared : Shared} {finish : OptimizerState}
  {schedule : List OptimizerAction}

theorem count_ne_zero {id : Uuid} :
    recommendationsOf shared id ≠ 0 ↔ ∃ row ∈ shared.recommendations, row.optimizerRunId = id := by
  rw [recommendationsOf, ne_eq, List.length_eq_zero_iff, List.filter_eq_nil_iff]
  simp only [decide_eq_true_eq, not_forall, not_not, exists_prop]
  exact Iff.rfl

theorem settled_sound (settled : Settled shared) : Sound shared := by
  have parents : ∀ id, recommendationsOf shared id ≠ 0 → runStatus shared id = some .completed := by
    intro id present
    obtain ⟨row, stored, rfl⟩ := count_ne_zero.mp present
    exact settled.parents row stored
  have completed : ∀ id, runStatus shared id = some .completed → recommendationsOf shared id = 1 := by
    intro id status
    obtain ⟨run, found, ended⟩ := Option.map_eq_some_iff.mp status
    have key := KeyedTable.key_of_find found
    exact key ▸ settled.completed run (KeyedTable.mem_of_find found) ended
  refine ⟨fun id present => ⟨.completed, parents id present, nofun, nofun⟩, fun id => ?_, completed⟩
  by_cases none : recommendationsOf shared id = 0
  · omega
  · exact (completed id (parents id none)).le

/-- In a sound state the tables are settled when no run is unfinished. -/
theorem settled_iff (sound : Sound shared) : Settled shared ↔ ∀ id, ¬ Unfinished shared id := by
  constructor
  · rintro settled id ⟨present, unfinished⟩
    obtain ⟨row, stored, rfl⟩ := count_ne_zero.mp present
    exact unfinished (settled.parents row stored)
  · intro finished
    have status : ∀ run ∈ shared.runs, runStatus shared run.id = some run.status := by
      intro run member
      rw [runStatus, KeyedTable.find_key member, Option.map_some]
    refine ⟨fun row stored => ?_, fun run member completed => ?_, fun run member ended => ?_⟩
    · by_contra unfinished
      exact finished _ ⟨count_ne_zero.mpr ⟨row, stored, rfl⟩, unfinished⟩
    · exact sound.completed run.id (by rw [status run member, completed])
    · by_contra present
      refine finished run.id ⟨present, ?_⟩
      rw [status run member]
      rcases ended with failed | infeasible
      · rw [failed]
        exact nofun
      · rw [infeasible]
        exact nofun

/-- However the workers interleave, fail and stop: a run of settled tables leaves them
settled exactly when no step of it interrupts a worker between the recommendation and
the completion of its run, and no worker stands between the two at its end. -/
theorem settled_iff_uninterrupted (settled : Settled shared)
    (ran : execute (optimizerStep runtime) (idle shared) schedule = some finish) :
    Settled finish.shared ↔
      Along (optimizerStep runtime) (fun state action => interruption runtime state action = none)
        (idle shared) schedule ∧ ∀ worker, completes (finish.workers worker) = none := by
  have start : Consistent Sound Holds Apart (idle shared) := consistent_idle (settled_sound settled)
  have consistent := reachable_consistent (run_discipline runtime) start ⟨schedule, ran⟩
  have clear : ∀ id, ¬ Orphan (idle shared) id := fun id orphan =>
    (settled_iff (settled_sound settled)).mp settled id orphan.1
  have orphans := orphans_of_run start ran
  rw [settled_iff consistent.invariant]
  constructor
  · intro finished
    refine ⟨(orphans.mp fun id orphan => finished id orphan.1).2, fun worker => ?_⟩
    by_contra attends
    obtain ⟨id, attends⟩ := Option.ne_none_iff_exists'.mp attends
    exact finished id (attended_unfinished consistent ⟨worker, attends⟩)
  · rintro ⟨uninterrupted, unattended⟩ id unfinished
    refine orphans.mpr ⟨clear, uninterrupted⟩ id ⟨unfinished, ?_⟩
    rintro ⟨worker, attends⟩
    rw [unattended worker] at attends
    cases attends

/-- The database reads the rows back in the order they were inserted in. -/
def insertionOrder : OptimizerRuntime where
  octets
    | .object [] => 2
    | _ => 60
  defaultSeed := 17
  staleDays := 45
  order := fun rows => rows
  permutes := fun _ => List.Perm.refl _

def decemberForecast : ForecastRun where
  id := 2
  tenantId := 1
  forecastModelId := 5
  inputWindowStart := 19997
  inputWindowEnd := 20088
  horizonMonths := 1
  randomSeed := 17
  createdAt := 1
  status := .completed
  outputUri := some (forecastKey 2)
  qualityMetrics := .object [("mape", .string "0.1")]
  errorDetails := .object []
  updatedAt := 1

def decemberOutput : Json := .object
  [("forecast_points", .array
    [.object [("month", .string "2025-01"), ("provider", .string "aws"),
      ("service_code", .string "ec2"), ("region", .string "eu-west-1"),
      ("forecast_on_demand_cost_cents", .string "100000")]])]

/-- A tenant with an active policy and a completed forecast, on 2025-01-01. -/
def opening : Shared where
  versions := KeyedTable.empty
  items := KeyedTable.empty
  clock := 1735689600000000
  tenants := fun tenant => tenant = 1
  users := fun tenant user => tenant = 1 && user = 9
  forecasts := KeyedTable.empty.insert decemberForecast
  policies := KeyedTable.empty.insert
    { id := 3, tenantId := 1, status := .active, objective := "max_savings"
      maxDownsideLossCents := 50000, minExpectedSavingsCents := 100, maxUtilizationGapBps := 2000
      approvalThresholdCents := 1000000, allowedInstruments := [.awsComputeSavingsPlan]
      config := .object [] }
  scenarios := KeyedTable.empty
  runs := KeyedTable.empty
  recommendations := KeyedTable.empty
  objects := fun key => if key = forecastKey 2 then some decemberOutput else none
  drawn := []
  sources := []

def priceTable : PriceTableCreateInput where
  versionId := 4
  provider := .aws
  instrument := .awsComputeSavingsPlan
  versionLabel := "2025-01"
  effectiveFrom := 20089
  effectiveTo := none
  sourceUri := "prices/2025-01.json"
  checksum := "0123456789abcdef0123456789abcdef0123456789abcdef0123456789abcdef"
  items := [{ itemId := 40, sku := "compute", region := "eu-west-1", termMonths := 12
              paymentOption := .noUpfront, hourlyRateCents := 100, upfrontCents := 0
              coverageRules := .object [] }]

def request : OptimizerRunCreateInput where
  forecastRunId := 2
  scenarioId := none
  optimizerPolicyId := 3
  provider := .aws
  instrument := .awsComputeSavingsPlan
  priceTableVersionIds := none

def drawing (drawnId : Uuid) : Input := ⟨[], drawnId, .prices⟩

/-- Creates and activates a price table. -/
def activation : List OptimizerAction :=
  [.external (.createPriceTable 1 priceTable), .call 0 (.readingVersion 1 4),
   .advance 0 (drawing 0) .absent, .advance 0 (drawing 0) .absent]

/-- Creates an optimizer run. -/
def creation : List OptimizerAction :=
  .call 0 (.resolving 1 9 request .pending) ::
    [InputQuery.forecast, .policy, .scenario, .prices].map
      (fun query => .advance 0 ⟨[], 7, query⟩ .absent) ++
    [.advance 0 (drawing 7) .absent, .advance 0 (drawing 7) .absent]

/-- Processes it up to its recommendation. -/
def processing : List OptimizerAction :=
  .call 1 .claiming :: List.replicate 7 (.advance 1 (drawing 50) .absent)

theorem opening_settled : Settled opening := ⟨by decide +kernel, by decide +kernel, by decide +kernel⟩

/-- The run is completed after its recommendation is there. -/
theorem settled_iff_uninterrupted_completed :
    ∃ finish, execute (optimizerStep insertionOrder) (idle opening)
        (activation ++ creation ++ processing ++ [.advance 1 (drawing 0) .absent]) = some finish ∧
      (∃ run ∈ finish.shared.runs,
        run.status = .completed ∧ recommendationsOf finish.shared run.id = 1) ∧
      (Settled finish.shared ↔ Along (optimizerStep insertionOrder)
        (fun state action => interruption insertionOrder state action = none) (idle opening)
        (activation ++ creation ++ processing ++ [.advance 1 (drawing 0) .absent]) ∧
        ∀ worker, completes (finish.workers worker) = none) := by
  have completed : (execute (optimizerStep insertionOrder) (idle opening)
      (activation ++ creation ++ processing ++ [.advance 1 (drawing 0) .absent])).any
      (fun finish => decide (∃ run ∈ finish.shared.runs,
        run.status = .completed ∧ recommendationsOf finish.shared run.id = 1)) = true := by
    decide +kernel
  obtain ⟨finish, ran, one⟩ := (Option.any_eq_true _ _).mp completed
  exact ⟨finish, ran, of_decide_eq_true one, settled_iff_uninterrupted opening_settled ran⟩

/-- The completion fails after the recommendation was inserted, and the `catch` marks
the run as failed: the recommendation stays. -/
theorem failed_run_keeps_recommendation :
    ∃ finish, execute (optimizerStep insertionOrder) (idle opening)
        (activation ++ creation ++ processing ++
          [.advance 1 (drawing 0) .beforeEffect, .advance 1 (drawing 0) .absent]) = some finish ∧
      (∃ run ∈ finish.shared.runs,
        run.status = .failed ∧ recommendationsOf finish.shared run.id = 1) ∧
      ¬ Settled finish.shared := by
  have failed : (execute (optimizerStep insertionOrder) (idle opening)
      (activation ++ creation ++ processing ++
        [.advance 1 (drawing 0) .beforeEffect, .advance 1 (drawing 0) .absent])).any
      (fun finish => decide (∃ run ∈ finish.shared.runs,
        run.status = .failed ∧ recommendationsOf finish.shared run.id = 1)) = true := by
    decide +kernel
  obtain ⟨finish, ran, kept⟩ := (Option.any_eq_true _ _).mp failed
  obtain ⟨run, member, status, one⟩ := of_decide_eq_true kept
  refine ⟨finish, ran, ⟨run, member, status, one⟩, fun settled => ?_⟩
  rw [settled.unsuccessful run member (Or.inl status)] at one
  cases one

end Runs

end CommitmentOptimizer.Optimizer.RecommendationCompletion
