import Mathlib.Data.List.Basic

/-!
# Schedules of a partial step function

A system is a partial step function: an action that is not enabled has no
successor. A schedule is an arbitrary finite list of actions, so a statement
over every schedule is a statement over every interleaving of the parties
whose steps the actions are.
-/

namespace CommitmentOptimizer.Foundations.Schedules

set_option autoImplicit false

variable {State Action : Type}

/-- Runs a schedule from a state; a disabled action has no successor. -/
def execute (step : State → Action → Option State) : State → List Action → Option State
  | state, [] => some state
  | state, action :: rest => (step state action).bind fun next => execute step next rest

/-- `good` holds of every action of the schedule in the state it is taken in. -/
def Along (step : State → Action → Option State) (good : State → Action → Prop) :
    State → List Action → Prop
  | _, [] => True
  | state, action :: rest =>
      good state action ∧ ∀ next, step state action = some next → Along step good next rest

instance decidableAfter {outcome : Option State} {holds : State → Prop} [DecidablePred holds] :
    Decidable (∀ next, outcome = some next → holds next) :=
  match outcome with
  | none => isTrue (by simp)
  | some next => decidable_of_iff (holds next) (by simp)

instance decidableAlong {step : State → Action → Option State} {good : State → Action → Prop}
    [∀ state action, Decidable (good state action)] :
    ∀ state schedule, Decidable (Along step good state schedule)
  | _, [] => isTrue trivial
  | state, action :: rest =>
      match taken : step state action with
      | none => decidable_of_iff (good state action) (by simp [Along, taken])
      | some next =>
          have : Decidable (Along step good next rest) := decidableAlong next rest
          decidable_of_iff (good state action ∧ Along step good next rest)
            (by simp [Along, taken])

def Reachable (step : State → Action → Option State) (start finish : State) : Prop :=
  ∃ schedule, execute step start schedule = some finish

variable {step : State → Action → Option State}

@[simp] theorem execute_nil (state : State) : execute step state [] = some state := rfl

theorem execute_cons (state : State) (action : Action) (rest : List Action) :
    execute step state (action :: rest) =
      (step state action).bind fun next => execute step next rest := rfl

theorem execute_cons_some {state finish : State} {action : Action} {rest : List Action} :
    execute step state (action :: rest) = some finish ↔
      ∃ next, step state action = some next ∧ execute step next rest = some finish := by
  rw [execute_cons, Option.bind_eq_some_iff]

theorem execute_append (state : State) (first second : List Action) :
    execute step state (first ++ second) =
      (execute step state first).bind fun middle => execute step middle second := by
  induction first generalizing state with
  | nil => rfl
  | cons action first induction =>
      simp only [List.cons_append, execute_cons, induction, Option.bind_assoc]

theorem execute_append_some {state finish : State} {first second : List Action} :
    execute step state (first ++ second) = some finish ↔
      ∃ middle, execute step state first = some middle ∧
        execute step middle second = some finish := by
  rw [execute_append, Option.bind_eq_some_iff]

theorem reachable_refl (state : State) : Reachable step state state := ⟨[], rfl⟩

theorem reachable_trans {first second third : State}
    (left : Reachable step first second) (right : Reachable step second third) :
    Reachable step first third := by
  obtain ⟨before, toSecond⟩ := left
  obtain ⟨after, toThird⟩ := right
  exact ⟨before ++ after, execute_append_some.mpr ⟨second, toSecond, toThird⟩⟩

/-- What holds of every action of the schedule in every state holds along it. -/
theorem along_of_actions {good : State → Action → Prop} {schedule : List Action}
    (everywhere : ∀ action ∈ schedule, ∀ state, good state action) (state : State) :
    Along step good state schedule := by
  induction schedule generalizing state with
  | nil => trivial
  | cons action rest induction =>
      exact ⟨everywhere action List.mem_cons_self state, fun next _ =>
        induction (fun later member => everywhere later (List.mem_cons_of_mem _ member)) next⟩

theorem along_append {good : State → Action → Prop} {state : State}
    {first second : List Action} (all : Along step good state (first ++ second)) :
    Along step good state first ∧
      ∀ middle, execute step state first = some middle → Along step good middle second := by
  induction first generalizing state with
  | nil =>
      refine ⟨trivial, fun middle arrived => ?_⟩
      cases arrived
      exact all
  | cons action first induction =>
      refine ⟨⟨all.1, fun next taken => (induction (all.2 next taken)).1⟩, ?_⟩
      intro middle arrived
      obtain ⟨next, taken, onward⟩ := execute_cons_some.mp arrived
      exact (induction (all.2 next taken)).2 middle onward

/-- A condition on steps may be replaced by one it implies in invariant states,
when the steps that meet it keep the invariant. -/
theorem along_implies {good better : State → Action → Prop} {invariant : State → Prop}
    (preserved : ∀ state action next, invariant state → good state action →
      step state action = some next → invariant next)
    (implied : ∀ state action, invariant state → good state action → better state action)
    {state : State} {schedule : List Action} (initially : invariant state)
    (all : Along step good state schedule) : Along step better state schedule := by
  induction schedule generalizing state with
  | nil => trivial
  | cons action rest induction =>
      exact ⟨implied state action initially all.1, fun next taken =>
        induction (preserved state action next initially all.1 taken) (all.2 next taken)⟩

theorem along_mono {good better : State → Action → Prop}
    (implied : ∀ state action, good state action → better state action)
    {state : State} {schedule : List Action} (all : Along step good state schedule) :
    Along step better state schedule :=
  @along_implies _ _ _ _ _ (fun _ => True) (fun _ _ _ _ _ _ => trivial)
    (fun state action _ => implied state action) _ _ trivial all

/-- Invariant rule: what each good step preserves holds after a good schedule. -/
theorem execute_preserves {good : State → Action → Prop} {invariant : State → Prop}
    (preserved : ∀ state action next, invariant state → good state action →
      step state action = some next → invariant next)
    {start finish : State} {schedule : List Action}
    (initially : invariant start) (all : Along step good start schedule)
    (arrived : execute step start schedule = some finish) : invariant finish := by
  induction schedule generalizing start with
  | nil =>
      cases arrived
      exact initially
  | cons action rest induction =>
      obtain ⟨next, taken, onward⟩ := execute_cons_some.mp arrived
      exact induction (preserved start action next initially all.1 taken)
        (all.2 next taken) onward

/-- Invariant rule for a property that looks ahead at the actions still to come. -/
theorem execute_remaining {invariant : State → List Action → Prop}
    (preserved : ∀ state action rest next, invariant state (action :: rest) →
      step state action = some next → invariant next rest)
    {start finish : State} {first second : List Action}
    (initially : invariant start (first ++ second))
    (arrived : execute step start first = some finish) : invariant finish second := by
  induction first generalizing start with
  | nil =>
      cases arrived
      exact initially
  | cons action first induction =>
      obtain ⟨next, taken, onward⟩ := execute_cons_some.mp arrived
      exact induction (preserved start action (first ++ second) next initially taken) onward

theorem reachable_preserves {invariant : State → Prop}
    (preserved : ∀ state action next, invariant state → step state action = some next →
      invariant next)
    {start finish : State} (initially : invariant start)
    (reached : Reachable step start finish) : invariant finish := by
  obtain ⟨schedule, arrived⟩ := reached
  exact execute_preserves
    (fun state action next holds _ taken => preserved state action next holds taken)
    initially (along_of_actions (fun _ _ _ => trivial) start) arrived

/-- Relation rule: a preorder that every step from an invariant state respects
relates the two ends of every run. -/
theorem reachable_relates {invariant : State → Prop} {related : State → State → Prop}
    (reflexive : ∀ state, related state state)
    (transitive : ∀ first second third,
      related first second → related second third → related first third)
    (preserved : ∀ state action next, invariant state → step state action = some next →
      invariant next ∧ related state next)
    {start finish : State} (initially : invariant start)
    (reached : Reachable step start finish) : related start finish := by
  obtain ⟨schedule, arrived⟩ := reached
  induction schedule generalizing start with
  | nil =>
      cases arrived
      exact reflexive _
  | cons action rest induction =>
      obtain ⟨next, taken, onward⟩ := execute_cons_some.mp arrived
      obtain ⟨kept, first⟩ := preserved start action next initially taken
      exact transitive _ _ _ first (induction kept onward)

end CommitmentOptimizer.Foundations.Schedules
