import Mathlib.Logic.Function.Basic
import CommitmentOptimizer.Foundations.Schedules

/-!
# Workers whose operations may fail

Any number of workers run one program over a shared state, one atomic operation
after the other. An operation may be refused, may fail before it takes effect, or
may take effect although its caller is told that it failed; the worker then takes
its error path. A worker may also stop between two operations.
-/

namespace CommitmentOptimizer.Foundations.FaultyWorkers

open Schedules

set_option autoImplicit false

inductive Fault where
  | absent | beforeEffect | afterEffect
  deriving DecidableEq, Repr

/-- What a worker does next is its phase. `operate` is `none` when the operation
is refused, and it says where the worker goes on when it is acknowledged; `rescue`
says where it goes on otherwise. A worker without a phase is idle. -/
structure Program (Shared Phase Input Event : Type) where
  entry : Phase → Bool
  operate : Nat → Input → Phase → Shared → Option (Shared × Option Phase)
  rescue : Phase → Option Phase
  environment : Event → Shared → Option Shared

structure State (Shared Phase : Type) where
  shared : Shared
  workers : Nat → Option Phase

inductive Action (Phase Input Event : Type) where
  | call (worker : Nat) (phase : Phase)
  | advance (worker : Nat) (input : Input) (fault : Fault)
  | stop (worker : Nat)
  | external (event : Event)

variable {Shared Phase Input Event : Type}

namespace State

def setWorker (state : State Shared Phase) (worker : Nat) (phase : Option Phase) :
    State Shared Phase :=
  { state with workers := Function.update state.workers worker phase }

@[simp] theorem shared_setWorker (state : State Shared Phase) (worker : Nat)
    (phase : Option Phase) : (state.setWorker worker phase).shared = state.shared := rfl

@[simp] theorem workers_setWorker_self (state : State Shared Phase) (worker : Nat)
    (phase : Option Phase) : (state.setWorker worker phase).workers worker = phase :=
  Function.update_self ..

theorem workers_setWorker_of_ne (state : State Shared Phase) {worker other : Nat}
    (phase : Option Phase) (different : other ≠ worker) :
    (state.setWorker worker phase).workers other = state.workers other :=
  Function.update_of_ne different ..

end State

/-- One operation of a worker: the shared state it leaves and where it goes on. -/
def advance (program : Program Shared Phase Input Event) (worker : Nat) (input : Input)
    (fault : Fault) (phase : Phase) (shared : Shared) : Shared × Option Phase :=
  match fault, program.operate worker input phase shared with
  | .absent, some (next, after) => (next, after)
  | .afterEffect, some (next, _) => (next, program.rescue phase)
  | .beforeEffect, _ | _, none => (shared, program.rescue phase)

def step (program : Program Shared Phase Input Event) (state : State Shared Phase) :
    Action Phase Input Event → Option (State Shared Phase)
  | .call worker phase =>
      if state.workers worker = none ∧ program.entry phase then
        some (state.setWorker worker (some phase))
      else none
  | .advance worker input fault =>
      (state.workers worker).map fun phase =>
        let (shared, after) := advance program worker input fault phase state.shared
        { state.setWorker worker after with shared := shared }
  | .stop worker => some (state.setWorker worker none)
  | .external event =>
      (program.environment event state.shared).map fun shared => { state with shared := shared }

instance (state : State Shared Phase) (worker : Nat) : Decidable (state.workers worker = none) :=
  match state.workers worker with
  | none => isTrue rfl
  | some _ => isFalse nofun

section Steps

variable {program : Program Shared Phase Input Event} {state next : State Shared Phase}

/-- An operation takes effect and is acknowledged, takes effect without that, or
leaves the shared state alone. -/
theorem advance_cases (program : Program Shared Phase Input Event) (worker : Nat) (input : Input)
    (fault : Fault) (phase : Phase) (shared : Shared) :
    (∃ effect after, program.operate worker input phase shared = some (effect, after) ∧
      (advance program worker input fault phase shared = (effect, after) ∨
        advance program worker input fault phase shared = (effect, program.rescue phase))) ∨
      advance program worker input fault phase shared = (shared, program.rescue phase) := by
  unfold advance
  cases operated : program.operate worker input phase shared with
  | none => cases fault <;> exact Or.inr rfl
  | some result =>
      obtain ⟨effect, after⟩ := result
      cases fault with
      | absent => exact Or.inl ⟨effect, after, rfl, Or.inl rfl⟩
      | beforeEffect => exact Or.inr rfl
      | afterEffect => exact Or.inl ⟨effect, after, rfl, Or.inr rfl⟩

theorem advance_shared (program : Program Shared Phase Input Event) (worker : Nat) (input : Input)
    (fault : Fault) (phase : Phase) (shared : Shared) :
    (advance program worker input fault phase shared).1 =
      if fault = .beforeEffect then shared
      else ((program.operate worker input phase shared).map Prod.fst).getD shared := by
  unfold advance
  cases program.operate worker input phase shared <;> cases fault <;> rfl

/-- Everything a step can do. -/
inductive Stepped (program : Program Shared Phase Input Event) (state : State Shared Phase) :
    State Shared Phase → Prop
  | called (worker : Nat) (phase : Phase) (idle : state.workers worker = none)
      (entered : program.entry phase = true) :
      Stepped program state (state.setWorker worker (some phase))
  | operated (worker : Nat) (input : Input) (phase : Phase) (effect : Shared)
      (after onward : Option Phase) (busy : state.workers worker = some phase)
      (operation : program.operate worker input phase state.shared = some (effect, after))
      (follows : onward = after ∨ onward = program.rescue phase) :
      Stepped program state { state.setWorker worker onward with shared := effect }
  | failed (worker : Nat) (phase : Phase) (busy : state.workers worker = some phase) :
      Stepped program state (state.setWorker worker (program.rescue phase))
  | stopped (worker : Nat) : Stepped program state (state.setWorker worker none)
  | happened (event : Event) (shared : Shared)
      (change : program.environment event state.shared = some shared) :
      Stepped program state { state with shared := shared }

theorem step_stepped {action : Action Phase Input Event}
    (taken : step program state action = some next) : Stepped program state next := by
  cases action with
  | call worker phase =>
      simp only [step] at taken
      split_ifs at taken with enabled
      obtain rfl := Option.some.inj taken
      exact .called worker phase enabled.1 enabled.2
  | advance worker input fault =>
      obtain ⟨phase, busy, rfl⟩ := Option.map_eq_some_iff.mp taken
      rcases advance_cases program worker input fault phase state.shared with
        ⟨effect, after, operation, result | result⟩ | result
      · rw [result]
        exact .operated worker input phase effect after after busy operation (Or.inl rfl)
      · rw [result]
        exact .operated worker input phase effect after _ busy operation (Or.inr rfl)
      · rw [result]
        exact .failed worker phase busy
  | stop worker =>
      obtain rfl := Option.some.inj taken
      exact .stopped worker
  | external event =>
      obtain ⟨shared, change, rfl⟩ := Option.map_eq_some_iff.mp taken
      exact .happened event shared change

end Steps

section Invariants

/-- What has to be shown of single operations so that `Invariant` holds of the
shared state, `Holds` of each worker at its phase, and `Apart` of the phases of any
two workers. -/
structure Discipline (program : Program Shared Phase Input Event) (Invariant : Shared → Prop)
    (Holds : Nat → Phase → Shared → Prop) (Apart : Phase → Phase → Prop) : Prop where
  symmetric : ∀ {first second}, Apart first second → Apart second first
  entered : ∀ {worker phase shared}, program.entry phase = true → Invariant shared →
    Holds worker phase shared ∧ ∀ other, Apart phase other
  operated : ∀ {worker input phase shared effect after}, Invariant shared →
    Holds worker phase shared →
    program.operate worker input phase shared = some (effect, after) →
    Invariant effect ∧ ∀ onward, after = some onward ∨ program.rescue phase = some onward →
      Holds worker onward effect
  failed : ∀ {worker phase shared onward}, Invariant shared → Holds worker phase shared →
    program.rescue phase = some onward → Holds worker onward shared
  undisturbed : ∀ {worker input phase shared effect after other otherPhase}, Invariant shared →
    Holds worker phase shared → other ≠ worker → Holds other otherPhase shared →
    Apart phase otherPhase →
    program.operate worker input phase shared = some (effect, after) →
    Holds other otherPhase effect ∧
      ∀ onward, after = some onward → Apart onward otherPhase
  still_apart : ∀ {phase onward other}, Apart phase other → program.rescue phase = some onward →
    Apart onward other
  external : ∀ {event shared effect}, Invariant shared →
    program.environment event shared = some effect →
    Invariant effect ∧ ∀ worker phase, Holds worker phase shared → Holds worker phase effect

structure Consistent (Invariant : Shared → Prop) (Holds : Nat → Phase → Shared → Prop)
    (Apart : Phase → Phase → Prop) (state : State Shared Phase) : Prop where
  invariant : Invariant state.shared
  holds : ∀ {worker phase}, state.workers worker = some phase → Holds worker phase state.shared
  apart : ∀ {first second phase other}, first ≠ second → state.workers first = some phase →
    state.workers second = some other → Apart phase other

variable {program : Program Shared Phase Input Event} {Invariant : Shared → Prop}
  {Holds : Nat → Phase → Shared → Prop} {Apart : Phase → Phase → Prop}
  {state next : State Shared Phase}

/-- A worker goes on with a phase that holds and is apart from all others. -/
theorem consistent_setWorker {worker : Nat} {onward : Option Phase} {shared : Shared}
    (symmetric : ∀ {first second}, Apart first second → Apart second first)
    (invariant : Invariant shared)
    (own : ∀ phase, onward = some phase → Holds worker phase shared)
    (others : ∀ other phase, other ≠ worker → state.workers other = some phase →
      Holds other phase shared)
    (ownApart : ∀ phase other otherPhase, onward = some phase → other ≠ worker →
      state.workers other = some otherPhase → Apart phase otherPhase)
    (apart : ∀ {first second phase other}, first ≠ second → state.workers first = some phase →
      state.workers second = some other → Apart phase other) :
    Consistent Invariant Holds Apart { state.setWorker worker onward with shared := shared } where
  invariant := invariant
  holds := by
    intro other phase busy
    by_cases same : other = worker
    · subst same
      exact own phase ((State.workers_setWorker_self ..).symm.trans busy)
    · exact others other phase same
        ((State.workers_setWorker_of_ne _ _ same).symm.trans busy)
  apart := by
    intro first second phase other different firstBusy secondBusy
    by_cases firstSame : first = worker
    · subst firstSame
      exact ownApart phase second other ((State.workers_setWorker_self ..).symm.trans firstBusy)
        different.symm
        ((State.workers_setWorker_of_ne _ _ different.symm).symm.trans secondBusy)
    · have firstOld := (State.workers_setWorker_of_ne _ _ firstSame).symm.trans firstBusy
      by_cases secondSame : second = worker
      · subst secondSame
        exact symmetric (ownApart other first phase
          ((State.workers_setWorker_self ..).symm.trans secondBusy) different firstOld)
      · exact apart different firstOld
          ((State.workers_setWorker_of_ne _ _ secondSame).symm.trans secondBusy)

theorem stepped_consistent (discipline : Discipline program Invariant Holds Apart)
    (before : Consistent Invariant Holds Apart state) (stepped : Stepped program state next) :
    Consistent Invariant Holds Apart next := by
  cases stepped with
  | called worker phase idle entered =>
      obtain ⟨holds, apart⟩ : Holds worker phase state.shared ∧ ∀ other, Apart phase other :=
        discipline.entered entered before.invariant
      exact consistent_setWorker discipline.symmetric before.invariant
        (fun _ same => Option.some.inj same ▸ holds) (fun _ _ _ busy => before.holds busy)
        (fun _ _ _ same _ _ => Option.some.inj same ▸ apart _) before.apart
  | operated worker input phase effect after onward busy operation follows =>
      have own := before.holds busy
      obtain ⟨invariant, kept⟩ := discipline.operated before.invariant own operation
      refine consistent_setWorker discipline.symmetric invariant ?_ ?_ ?_ before.apart
      · rintro later rfl
        rcases follows with same | same
        · exact kept later (Or.inl same.symm)
        · exact kept later (Or.inr same.symm)
      · intro other otherPhase different otherBusy
        exact (discipline.undisturbed before.invariant own different (before.holds otherBusy)
          (before.apart different.symm busy otherBusy) operation).1
      · rintro later other otherPhase rfl different otherBusy
        have apart := before.apart different.symm busy otherBusy
        rcases follows with same | same
        · exact (discipline.undisturbed before.invariant own different (before.holds otherBusy)
            apart operation).2 later same.symm
        · exact discipline.still_apart apart same.symm
  | failed worker phase busy =>
      exact consistent_setWorker discipline.symmetric before.invariant
        (fun _ same => discipline.failed before.invariant (before.holds busy) same)
        (fun _ _ _ otherBusy => before.holds otherBusy)
        (fun _ _ _ same different otherBusy =>
          discipline.still_apart (before.apart different.symm busy otherBusy) same)
        before.apart
  | stopped worker =>
      exact consistent_setWorker discipline.symmetric before.invariant nofun
        (fun _ _ _ busy => before.holds busy) nofun before.apart
  | happened event shared change =>
      obtain ⟨invariant, kept⟩ := discipline.external before.invariant change
      exact ⟨invariant, fun busy => kept _ _ (before.holds busy), before.apart⟩

theorem step_consistent (discipline : Discipline program Invariant Holds Apart)
    {action : Action Phase Input Event} (before : Consistent Invariant Holds Apart state)
    (taken : step program state action = some next) : Consistent Invariant Holds Apart next :=
  stepped_consistent discipline before (step_stepped taken)

theorem reachable_consistent (discipline : Discipline program Invariant Holds Apart)
    (initially : Consistent Invariant Holds Apart state)
    (reached : Reachable (step program) state next) : Consistent Invariant Holds Apart next :=
  reachable_preserves (fun _ _ _ before taken => step_consistent discipline before taken)
    initially reached

/-- Idle workers are consistent with any discipline. -/
theorem consistent_idle {shared : Shared} (invariant : Invariant shared) :
    Consistent Invariant Holds Apart ⟨shared, fun _ => none⟩ :=
  ⟨invariant, nofun, nofun⟩

end Invariants

end CommitmentOptimizer.Foundations.FaultyWorkers
