import CommitmentOptimizer.Tenants.ArgonExecutor

/-!
# Runs of the executor

What stays settled over later steps, and from it what every schedule of calls,
completions and closes does.
-/

namespace CommitmentOptimizer.Tenants.ArgonExecutorRuns

open Foundations.Schedules
open ArgonExecutor

set_option autoImplicit false

section Runs

variable {Value : Type} {options : ArgonExecutorOptions}

/-- What later steps leave of a stage. -/
def Follows (earlier later : Stage Value) : Prop :=
  match earlier with
  | .refused => later = .refused
  | .completed outcome =>
      later = .completed outcome ∨ later = .answered outcome ∨ later = .released outcome
  | .answered outcome => later = .answered outcome ∨ later = .released outcome
  | .released outcome => later = .released outcome
  | _ => True

theorem follows_refl (stage : Stage Value) : Follows stage stage := by
  cases stage <;> simp [Follows]

theorem follows_trans {first second third : Stage Value} (earlier : Follows first second)
    (later : Follows second third) : Follows first third := by
  cases first with
  | completed outcome =>
      rcases earlier with rfl | rfl | rfl
      · exact later
      · rcases later with rfl | rfl <;> simp [Follows]
      · cases later
        simp [Follows]
  | answered outcome =>
      rcases earlier with rfl | rfl
      · exact later
      · cases later
        simp [Follows]
  | refused =>
      cases earlier
      exact later
  | released outcome =>
      cases earlier
      exact later
  | absent => trivial
  | queued => trivial
  | scheduled => trivial
  | running => trivial

/-- Settlements stay, and a closed executor starts nothing. -/
structure Onward (before after : Executor Value) : Prop where
  follows : ∀ item, Follows (before.stage item) (after.stage item)
  closed : before.closed = true → after.closed = true ∧ after.starts = before.starts

theorem drain_keeps (options : ArgonExecutorOptions) (queue : List Nat) (executor : Executor Value) :
    (drainQueue options queue executor).closed = executor.closed ∧
      (executor.closed = true →
        (drainQueue options queue executor).starts = executor.starts) ∧
      ∀ item, item ∉ queue →
        (drainQueue options queue executor).stage item = executor.stage item := by
  induction queue generalizing executor with
  | nil => exact ⟨rfl, fun _ => rfl, fun _ _ => rfl⟩
  | cons first rest induction =>
      rw [drainQueue]
      split_ifs with free
      · obtain ⟨closed, _, stage⟩ :=
          induction (start { executor with left := executor.left ++ [first] } first)
        refine ⟨closed, fun isClosed => ?_, ?_⟩
        · rw [free.1] at isClosed
          cases isClosed
        · intro item outside
          rw [List.mem_cons, not_or] at outside
          rw [stage item outside.2]
          exact Function.update_of_ne outside.1 _ _
      · exact ⟨rfl, fun _ => rfl, fun _ _ => rfl⟩

theorem reject_stage (queue : List Nat) (executor : Executor Value) {item : Nat}
    (outside : item ∉ queue) : (rejectQueue queue executor).stage item = executor.stage item := by
  induction queue generalizing executor with
  | nil => rfl
  | cons first rest induction =>
      rw [List.mem_cons, not_or] at outside
      rw [rejectQueue, induction _ outside.2]
      exact Function.update_of_ne outside.1 _ _

/-- A step on one item, which may start others out of the queue. -/
theorem follows_of_update {before : Executor Value} {stages : Nat → Stage Value} (item : Nat)
    {stage : Stage Value} (moves : Follows (before.stage item) stage)
    (stays : ∀ other, before.stage other ≠ .queued → other ≠ item →
      stages other = before.stage other) (here : stages item = stage) (other : Nat) :
    Follows (before.stage other) (stages other) := by
  by_cases same : other = item
  · rw [same, here]
    exact moves
  · by_cases queued : before.stage other = .queued
    · rw [queued]
      trivial
    · rw [stays other queued same]
      exact follows_refl _

theorem schedule_onward {executor : Executor Value} (holds : Invariant options executor) :
    Onward executor
      (schedule options { executor with arrived := executor.arrived + 1 } executor.arrived) := by
  have fresh := stage_of_fresh holds.core
  constructor
  · intro item
    by_cases same : item = executor.arrived
    · rw [same, fresh]
      trivial
    · have stays : (schedule options { executor with arrived := executor.arrived + 1 }
          executor.arrived).stage item = executor.stage item := by
        unfold schedule
        split_ifs <;> exact Function.update_of_ne same _ _
      rw [stays]
      exact follows_refl _
  · intro isClosed
    unfold schedule
    rw [if_pos isClosed]
    exact ⟨isClosed, rfl⟩

theorem release_onward {executor : Executor Value} {item : Nat} {outcome : Outcome Value}
    (holds : Invariant options executor) (answered : executor.stage item = .answered outcome) :
    Onward executor (drain options { executor.setStage item (.released outcome) with
      active := executor.active - 1 }) := by
  obtain ⟨closed, starts, stage⟩ := drain_keeps options executor.queue
    { executor.setStage item (.released outcome) with active := executor.active - 1 }
  have outside : ∀ other, executor.stage other ≠ .queued → other ∉ executor.queue :=
    fun other notQueued waits => notQueued ((holds.core.items other).queued.mp waits)
  refine ⟨@follows_of_update _ _ _ item (.released outcome) ?_ ?_ ?_, ?_⟩
  · rw [answered]
    exact Or.inr rfl
  · intro other notQueued apart
    exact (stage other (outside other notQueued)).trans (Function.update_of_ne apart _ _)
  · refine (stage item (outside item ?_)).trans (Function.update_self _ _ _)
    rw [answered]
    nofun
  · intro isClosed
    exact ⟨closed.trans isClosed, starts isClosed⟩

theorem close_onward {executor : Executor Value} (holds : Invariant options executor) :
    Onward executor (closeExecutor executor) := by
  unfold closeExecutor
  split_ifs with isClosed
  · exact ⟨fun item => follows_refl _, fun closed => ⟨closed, rfl⟩⟩
  · refine ⟨fun item => ?_, fun closed => absurd closed isClosed⟩
    by_cases waits : item ∈ executor.queue
    · rw [(holds.core.items item).queued.mp waits]
      trivial
    · rw [reject_stage _ _ waits]
      exact follows_refl _

theorem step_onward {executor next : Executor Value} {action : Action Value}
    (holds : Invariant options executor) (taken : step options executor action = some next) :
    Onward executor next := by
  cases action with
  | run =>
      cases taken
      exact schedule_onward holds
  | call item =>
      simp only [step] at taken
      split at taken
      next scheduled =>
        cases taken
        refine ⟨follows_of_update item ?_
          (fun other _ apart => Function.update_of_ne apart _ _) (Function.update_self _ _ _),
          fun closed => ⟨closed, rfl⟩⟩
        rw [scheduled]
        trivial
      next => cases taken
  | complete item outcome =>
      simp only [step] at taken
      split at taken
      next running =>
        cases taken
        refine ⟨follows_of_update item ?_
          (fun other _ apart => Function.update_of_ne apart _ _) (Function.update_self _ _ _),
          fun closed => ⟨closed, rfl⟩⟩
        rw [running]
        trivial
      next => cases taken
  | answer item =>
      simp only [step] at taken
      split at taken
      next outcome completed =>
        cases taken
        refine ⟨follows_of_update item ?_
          (fun other _ apart => Function.update_of_ne apart _ _) (Function.update_self _ _ _),
          fun closed => ⟨closed, rfl⟩⟩
        rw [completed]
        exact Or.inr (Or.inl rfl)
      next => cases taken
  | release item =>
      simp only [step] at taken
      split at taken
      next outcome answered =>
        cases taken
        exact release_onward holds answered
      next => cases taken
  | close =>
      cases taken
      exact close_onward holds

theorem onward_trans {first second third : Executor Value} (earlier : Onward first second)
    (later : Onward second third) : Onward first third := by
  refine ⟨fun item => follows_trans (earlier.follows item) (later.follows item), ?_⟩
  intro isClosed
  obtain ⟨closed, starts⟩ := earlier.closed isClosed
  exact ⟨(later.closed closed).1, (later.closed closed).2.trans starts⟩

theorem run_invariant {first : List (Action Value)} {executor : Executor Value}
    (ran : execute (step options) (createArgonExecutor Value) first = some executor) :
    Invariant options executor :=
  reachable_preserves (fun _ _ _ holds taken => step_invariant holds taken)
    (invariant_create options) ⟨first, ran⟩

theorem run_onward {second : List (Action Value)} {executor last : Executor Value}
    (holds : Invariant options executor)
    (ran : execute (step options) executor second = some last) : Onward executor last :=
  @reachable_relates _ _ (step options) (Invariant options) Onward
    (fun _ => ⟨fun _ => follows_refl _, fun closed => ⟨closed, rfl⟩⟩)
    (fun _ _ _ => onward_trans)
    (fun _ _ _ holds taken => ⟨step_invariant holds taken, step_onward holds taken⟩)
    _ _ holds ⟨second, ran⟩

/-- `run` refuses at once. -/
def Refuses (options : ArgonExecutorOptions) (executor : Executor Value) : Prop :=
  executor.closed = true ∨
    (options.concurrency ≤ executor.active ∧ options.queueLimit ≤ executor.queue.length)

theorem refused_settled {executor last : Executor Value} {item : Nat}
    (holds : Invariant options last) (onward : Onward executor last)
    (refused : executor.stage item = .refused) :
    last.settlements item = [.unavailable] ∧ item ∉ last.calls := by
  have follows := onward.follows item
  rw [refused] at follows
  obtain ⟨_, _, _, called, settled⟩ := holds.core.items item
  rw [settled, called, follows]
  exact ⟨rfl, by simp [Stage.called]⟩

theorem schedule_refuses {executor : Executor Value} (refuses : Refuses options executor) :
    (schedule options { executor with arrived := executor.arrived + 1 }
      executor.arrived).stage executor.arrived = .refused := by
  unfold schedule
  dsimp only
  rcases refuses with isClosed | ⟨busy, full⟩
  · rw [if_pos isClosed]
    exact Function.update_self _ _ _
  · rw [if_neg (Nat.not_lt.mpr busy), if_pos full, ite_self]
    exact Function.update_self _ _ _

/-- What waits when the executor is closed is rejected. -/
theorem close_refuses {executor : Executor Value} {item : Nat}
    (holds : Invariant options executor) (waits : item ∈ executor.queue) :
    (closeExecutor executor).stage item = .refused := by
  have core := (close_invariant holds).core
  have queued := (holds.core.items item).queued.mp waits
  have isOpen : executor.closed ≠ true := by
    intro closed
    rw [holds.drained closed] at waits
    cases waits
  have same : (closeExecutor executor).starts = executor.starts ∧
      (closeExecutor executor).queue = [] ∧
      (closeExecutor executor).arrived = executor.arrived := by
    unfold closeExecutor
    rw [if_neg isOpen]
    obtain ⟨queue, _, starts, arrived⟩ := reject_keeps executor.queue
      { executor with closed := true, queue := [] }
    exact ⟨starts, queue, arrived⟩
  obtain ⟨starts, queue, arrived⟩ := same
  have notStarted : item ∉ executor.starts := by
    rw [(holds.core.items item).started, queued]
    simp [Stage.started]
  have before := arrived_of_waits holds.core waits
  obtain ⟨absent, stillQueued, started, _, _⟩ := core.items item
  rw [starts] at started
  rw [queue] at stillQueued
  rw [arrived] at absent
  cases stage : (closeExecutor executor).stage item <;> simp_all [Stage.started]
  omega

/-- The promise of an item whose operation has ended. -/
theorem outcome_settled {executor : Executor Value} {item : Nat} {outcome : Outcome Value}
    (holds : Invariant options executor)
    (follows : Follows (Stage.completed outcome) (executor.stage item)) :
    executor.settlements item = [settlementOf outcome] ∨
      (executor.settlements item = [] ∧ ∃ next, step options executor (.answer item) = some next ∧
        next.settlements item = [settlementOf outcome]) := by
  have settled := (holds.core.items item).settled
  rcases follows with completed | answered | released
  · rw [completed] at settled
    have taken : step options executor (.answer item) =
        some ((executor.setStage item (.answered outcome)).settle item (settlementOf outcome)) := by
      simp only [step, completed]
    refine Or.inr ⟨settled, _, taken, ?_⟩
    have none : executor.settlements item = [] := settled
    simp [Executor.settle, Executor.setStage, none]
  · rw [answered] at settled
    exact Or.inl settled
  · rw [released] at settled
    exact Or.inl settled

/-- When nothing is in flight every promise is settled. -/
theorem idle_settled {executor : Executor Value} (holds : Invariant options executor)
    (idle : ∀ item, (executor.stage item).inFlight = false) {item : Nat}
    (arrived : item < executor.arrived) : (executor.settlements item).length = 1 := by
  obtain ⟨flying, _, members, size⟩ := holds.core.counted
  have noneFlying : flying = [] := by
    refine List.eq_nil_iff_forall_not_mem.mpr fun other member => ?_
    rw [members, idle] at member
    cases member
  have noneQueued : executor.queue = [] := by
    cases closed : executor.closed with
    | true => exact holds.drained closed
    | false =>
        by_contra nonempty
        have busy := holds.conserving closed nonempty
        rw [size, noneFlying, List.length_nil] at busy
        have positive := options.positive
        omega
  obtain ⟨absent, queued, _, _, settled⟩ := holds.core.items item
  have notFlying := idle item
  rw [settled]
  cases stage : executor.stage item <;> simp_all [Stage.settledBy, Stage.inFlight]
  omega

/-- What a schedule leaves: the bounds, the order, and each promise settled as its
item ended. -/
structure RunsRight (options : ArgonExecutorOptions) (actions : List (Action Value))
    (executor : Executor Value) : Prop where
  activeBounded : executor.active ≤ options.concurrency
  queueBounded : executor.queue.length ≤ options.queueLimit
  conserving : executor.closed = false → executor.queue ≠ [] →
    executor.active = options.concurrency
  startedOnce : executor.starts.Nodup ∧ executor.calls.Nodup
  arrivalOrder : (executor.left ++ executor.queue).Pairwise (· < ·)
  settledOnce : ∀ item, (executor.settlements item).length ≤ 1
  refusedAtOnce : ∀ first second before, actions = first ++ .run :: second →
    execute (step options) (createArgonExecutor Value) first = some before →
    Refuses options before →
      (∃ after, step options before .run = some after ∧
        after.settlements before.arrived = [.unavailable]) ∧
      executor.settlements before.arrived = [.unavailable] ∧
      before.arrived ∉ executor.calls
  closedAtOnce : ∀ first second before, actions = first ++ .close :: second →
    execute (step options) (createArgonExecutor Value) first = some before →
      executor.starts = before.starts ∧
      ∀ item ∈ before.queue,
        (∃ after, step options before .close = some after ∧
          after.settlements item = [.unavailable]) ∧
        executor.settlements item = [.unavailable] ∧ item ∉ executor.calls
  ownOutcome : ∀ item outcome, .complete item outcome ∈ actions →
    executor.settlements item = [settlementOf outcome] ∨
      (executor.settlements item = [] ∧ ∃ next, step options executor (.answer item) = some next ∧
        next.settlements item = [settlementOf outcome])
  allSettled : (∀ item, (executor.stage item).inFlight = false) →
    ∀ item, item < executor.arrived → (executor.settlements item).length = 1

/-- Every order of calls, completions and closes. -/
theorem every_run_right (options : ArgonExecutorOptions) (actions : List (Action Value))
    (executor : Executor Value)
    (ran : execute (step options) (createArgonExecutor Value) actions = some executor) :
    RunsRight options actions executor := by
  have holds := run_invariant ran
  have afterStep : ∀ first action second, actions = first ++ action :: second → ∀ before,
      execute (step options) (createArgonExecutor Value) first = some before →
      Invariant options before ∧ ∃ after, step options before action = some after ∧
        Invariant options after ∧ Onward after executor := by
    rintro first action second rfl before ranFirst
    obtain ⟨middle, isMiddle, onward⟩ := execute_append_some.mp ran
    rw [ranFirst] at isMiddle
    cases isMiddle
    obtain ⟨after, taken, rest⟩ := execute_cons_some.mp onward
    have holdsBefore := run_invariant ranFirst
    have holdsAfter := step_invariant holdsBefore taken
    exact ⟨holdsBefore, after, taken, holdsAfter, run_onward holdsAfter rest⟩
  have startsDistinct : executor.starts.Nodup :=
    ((List.pairwise_append.mp holds.core.startOrder).1).imp Nat.ne_of_lt
  refine ⟨holds.core.activeBounded, holds.core.queueBounded, holds.conserving,
    ⟨startsDistinct, holds.core.calledOnce⟩, holds.core.leftOrder, ?_, ?_, ?_, ?_, ?_⟩
  · intro item
    rw [(holds.core.items item).settled]
    cases executor.stage item <;> simp [Stage.settledBy]
  · intro first second before split ranFirst refuses
    obtain ⟨_, after, taken, holdsAfter, onward⟩ := afterStep _ _ _ split _ ranFirst
    have refused : after.stage before.arrived = .refused := by
      cases taken
      exact schedule_refuses refuses
    obtain ⟨settled, uncalled⟩ := refused_settled holds onward refused
    refine ⟨⟨after, taken, ?_⟩, settled, uncalled⟩
    rw [(holdsAfter.core.items _).settled, refused]
    rfl
  · intro first second before split ranFirst
    obtain ⟨holdsBefore, after, taken, holdsAfter, onward⟩ := afterStep _ _ _ split _ ranFirst
    cases taken
    refine ⟨?_, ?_⟩
    · obtain ⟨closed, starts⟩ := close_closes before
      rw [(onward.closed closed).2, starts]
    · intro item waits
      have refused := close_refuses holdsBefore waits
      obtain ⟨settled, uncalled⟩ := refused_settled holds onward refused
      refine ⟨⟨_, rfl, ?_⟩, settled, uncalled⟩
      rw [(holdsAfter.core.items _).settled, refused]
      rfl
  · intro item outcome member
    obtain ⟨first, second, split⟩ := List.append_of_mem member
    obtain ⟨middle, ranFirst, _⟩ := execute_append_some.mp (split ▸ ran)
    obtain ⟨_, after, taken, _, onward⟩ := afterStep _ _ _ split _ ranFirst
    have completed : after.stage item = .completed outcome := by
      simp only [step] at taken
      split at taken
      · cases taken
        exact Function.update_self _ _ _
      · cases taken
    have follows := onward.follows item
    rw [completed] at follows
    exact outcome_settled holds follows
  · exact fun idle item arrived => idle_settled holds idle arrived

end Runs

/-- Two calls, the first of which ends before the executor is closed. -/
theorem two_calls_right : ∃ executor : Executor Nat,
    RunsRight ⟨1, 1, by decide, by decide, by decide⟩
      [.run, .run, .call 0, .complete 0 (.fulfilled 7), .answer 0, .close] executor :=
  ⟨_, every_run_right _ _ _ rfl⟩

end CommitmentOptimizer.Tenants.ArgonExecutorRuns
