import Mathlib.Tactic.Ring
import Mathlib.Data.List.Nodup
import Mathlib.Data.Rat.Defs
import Mathlib.Logic.Function.Basic
import CommitmentOptimizer.Foundations.Schedules

/-!
# The bounded executor of password hashes

`argon-executor.ts`. A call of `run` is one synchronous step, and so is each
callback of the promise chain that `start` builds: the call of the operation, its
completion, the settling of the caller's promise and the `finally`. A schedule
takes these steps in any order.
-/

namespace CommitmentOptimizer.Tenants.ArgonExecutor

open Foundations.Schedules

set_option autoImplicit false

def maxArgonConcurrency : Nat := 2

def maxArgonQueueLimit : Nat := 32

/-- The options that `validateBounds` lets through. -/
structure ArgonExecutorOptions where
  concurrency : Nat
  queueLimit : Nat
  positive : 1 ≤ concurrency
  bounded : concurrency ≤ maxArgonConcurrency
  queueBounded : queueLimit ≤ maxArgonQueueLimit

def isSafeInteger (number : Rat) : Bool :=
  number.den = 1 && number.num.natAbs ≤ 2 ^ 53 - 1

/-- `none` where it throws. A number that is not finite is no argument here, and no
safe integer. -/
def validateBounds (concurrency queueLimit : Rat) : Option ArgonExecutorOptions :=
  if safe : isSafeInteger concurrency = true ∧ 1 ≤ concurrency.num ∧
      concurrency.num ≤ maxArgonConcurrency ∧ isSafeInteger queueLimit = true ∧
      0 ≤ queueLimit.num ∧ queueLimit.num ≤ maxArgonQueueLimit then
    some ⟨concurrency.num.toNat, queueLimit.num.toNat, by omega, by omega, by omega⟩
  else none

/-- How an operation ends. -/
inductive Outcome (Value : Type) where
  | fulfilled (value : Value)
  | rejected
  deriving DecidableEq

/-- What a caller's promise is settled with. -/
inductive Settlement (Value : Type) where
  | value (value : Value)
  | unavailable
  deriving DecidableEq

/-- `.then(item.resolve, () => item.reject(unavailable()))` -/
def settlementOf {Value : Type} : Outcome Value → Settlement Value
  | .fulfilled value => .value value
  | .rejected => .unavailable

/-- Where an item stands. From `scheduled` to `answered` it counts as active. -/
inductive Stage (Value : Type) where
  | absent | queued | refused | scheduled | running
  | completed (outcome : Outcome Value)
  | answered (outcome : Outcome Value)
  | released (outcome : Outcome Value)
  deriving DecidableEq

/-- The state of the executor, and of the promises it has made. Items are numbered
in the order of the calls of `run`. -/
structure Executor (Value : Type) where
  active : Nat
  closed : Bool
  queue : List Nat
  arrived : Nat
  stage : Nat → Stage Value
  /-- The settlements of each promise: calls of its `resolve` or `reject`. -/
  settlements : Nat → List (Settlement Value)
  /-- The calls of `start`, in order. -/
  starts : List Nat
  /-- The calls of operations, in order. -/
  calls : List Nat
  /-- The items that left the queue, in order. -/
  left : List Nat

def createArgonExecutor (Value : Type) : Executor Value where
  active := 0
  closed := false
  queue := []
  arrived := 0
  stage _ := .absent
  settlements _ := []
  starts := []
  calls := []
  left := []

section Operations

variable {Value : Type}

def Executor.setStage (executor : Executor Value) (item : Nat) (stage : Stage Value) :
    Executor Value :=
  { executor with stage := Function.update executor.stage item stage }

def Executor.settle (executor : Executor Value) (item : Nat) (settlement : Settlement Value) :
    Executor Value :=
  { executor with
    settlements := Function.update executor.settlements item
      (executor.settlements item ++ [settlement]) }

def start (executor : Executor Value) (item : Nat) : Executor Value :=
  { executor.setStage item .scheduled with
    active := executor.active + 1
    starts := executor.starts ++ [item] }

def refuse (executor : Executor Value) (item : Nat) : Executor Value :=
  (executor.setStage item .refused).settle item .unavailable

/-- The call of `run` numbered `item`. -/
def schedule (options : ArgonExecutorOptions) (executor : Executor Value) (item : Nat) :
    Executor Value :=
  if executor.closed then refuse executor item
  else if executor.active < options.concurrency then start executor item
  else if options.queueLimit ≤ executor.queue.length then refuse executor item
  else { executor.setStage item .queued with queue := executor.queue ++ [item] }

/-- The loop of `drain`, over the queue. -/
def drainQueue (options : ArgonExecutorOptions) : List Nat → Executor Value → Executor Value
  | [], executor => { executor with queue := [] }
  | item :: rest, executor =>
      if executor.closed = false ∧ executor.active < options.concurrency then
        drainQueue options rest (start { executor with left := executor.left ++ [item] } item)
      else { executor with queue := item :: rest }

def drain (options : ArgonExecutorOptions) (executor : Executor Value) : Executor Value :=
  drainQueue options executor.queue executor

/-- The loop of `closeExecutor`, over the queue it has emptied. -/
def rejectQueue : List Nat → Executor Value → Executor Value
  | [], executor => executor
  | item :: rest, executor =>
      rejectQueue rest (refuse { executor with left := executor.left ++ [item] } item)

def closeExecutor (executor : Executor Value) : Executor Value :=
  if executor.closed then executor
  else rejectQueue executor.queue { executor with closed := true, queue := [] }

end Operations

section Steps

variable {Value : Type}

inductive Action (Value : Type) where
  | run
  | call (item : Nat)
  | complete (item : Nat) (outcome : Outcome Value)
  | answer (item : Nat)
  | release (item : Nat)
  | close
  deriving DecidableEq

def step (options : ArgonExecutorOptions) (executor : Executor Value) :
    Action Value → Option (Executor Value)
  | .run =>
      some (schedule options { executor with arrived := executor.arrived + 1 } executor.arrived)
  | .call item =>
      match executor.stage item with
      | .scheduled =>
          some { executor.setStage item .running with calls := executor.calls ++ [item] }
      | _ => none
  | .complete item outcome =>
      match executor.stage item with
      | .running => some (executor.setStage item (.completed outcome))
      | _ => none
  | .answer item =>
      match executor.stage item with
      | .completed outcome =>
          some ((executor.setStage item (.answered outcome)).settle item (settlementOf outcome))
      | _ => none
  | .release item =>
      match executor.stage item with
      | .answered outcome =>
          let settled := executor.setStage item (.released outcome)
          some (drain options { settled with active := settled.active - 1 })
      | _ => none
  | .close => some (closeExecutor executor)

end Steps

section Invariants

variable {Value : Type}

def Stage.inFlight : Stage Value → Bool
  | .scheduled | .running | .completed _ | .answered _ => true
  | _ => false

def Stage.started : Stage Value → Bool
  | .absent | .queued | .refused => false
  | _ => true

def Stage.called : Stage Value → Bool
  | .absent | .queued | .refused | .scheduled => false
  | _ => true

/-- The settlements of the promise of an item at this stage. -/
def Stage.settledBy : Stage Value → List (Settlement Value)
  | .refused => [.unavailable]
  | .answered outcome | .released outcome => [settlementOf outcome]
  | _ => []

/-- What the lists say of one item, given the items that still wait. -/
structure ItemAgrees (executor : Executor Value) (queue : List Nat) (item : Nat) : Prop where
  absent : executor.stage item = .absent ↔ executor.arrived ≤ item
  queued : item ∈ queue ↔ executor.stage item = .queued
  started : item ∈ executor.starts ↔ (executor.stage item).started = true
  called : item ∈ executor.calls ↔ (executor.stage item).called = true
  settled : executor.settlements item = (executor.stage item).settledBy

/-- What holds inside the loops too, given the items that still wait. -/
structure Core (options : ArgonExecutorOptions) (executor : Executor Value) (queue : List Nat) :
    Prop where
  items : ∀ item, ItemAgrees executor queue item
  startOrder : (executor.starts ++ queue).Pairwise (· < ·)
  leftOrder : (executor.left ++ queue).Pairwise (· < ·)
  calledOnce : executor.calls.Nodup
  counted : ∃ flying : List Nat, flying.Nodup ∧
    (∀ item, item ∈ flying ↔ (executor.stage item).inFlight = true) ∧
    executor.active = flying.length
  activeBounded : executor.active ≤ options.concurrency
  queueBounded : queue.length ≤ options.queueLimit
  leftArrived : ∀ item ∈ executor.left, item < executor.arrived

structure Invariant (options : ArgonExecutorOptions) (executor : Executor Value) : Prop where
  core : Core options executor executor.queue
  conserving : executor.closed = false → executor.queue ≠ [] →
    executor.active = options.concurrency
  drained : executor.closed = true → executor.queue = []

variable {options : ArgonExecutorOptions} {executor : Executor Value}

theorem invariant_create (options : ArgonExecutorOptions) :
    Invariant options (createArgonExecutor Value) := by
  refine ⟨⟨?_, by simp [createArgonExecutor], by simp [createArgonExecutor],
    by simp [createArgonExecutor], ⟨[], by simp [createArgonExecutor, Stage.inFlight]⟩,
    Nat.zero_le _, Nat.zero_le _, by simp [createArgonExecutor]⟩, fun _ nonempty => absurd rfl nonempty, fun _ => rfl⟩
  intro item
  constructor <;> simp [createArgonExecutor, Stage.started, Stage.called, Stage.settledBy]

/-- The head of the queue is started. -/
theorem core_start {item : Nat} {rest : List Nat} (core : Core options executor (item :: rest))
    (free : executor.active < options.concurrency) :
    Core options (start { executor with left := executor.left ++ [item] } item) rest := by
  obtain ⟨flying, distinct, members, size⟩ := core.counted
  have queued : executor.stage item = .queued := (core.items item).queued.mp List.mem_cons_self
  have arrived : item < executor.arrived := by
    have notAbsent := (core.items item).absent
    rw [queued] at notAbsent
    by_contra late
    cases notAbsent.mpr (by omega)
  have notWaiting : item ∉ rest := by
    intro waiting
    have order := (List.pairwise_append.mp core.startOrder).2.1
    exact Nat.lt_irrefl item ((List.pairwise_cons.mp order).1 item waiting)
  constructor
  case items =>
    intro other
    obtain ⟨absent, waits, started, called, settled⟩ := core.items other
    by_cases same : other = item
    · subst same
      constructor <;> simp_all [start, Executor.setStage, Stage.started, Stage.called,
        Stage.settledBy]
    · constructor <;> simp_all [start, Executor.setStage]
  case startOrder => simpa [start, Executor.setStage] using core.startOrder
  case leftOrder => simpa [start, Executor.setStage] using core.leftOrder
  case calledOnce => exact core.calledOnce
  case counted =>
    refine ⟨item :: flying, ?_, ?_, by simp [start, Executor.setStage, size]⟩
    · refine List.nodup_cons.mpr ⟨?_, distinct⟩
      rw [members, queued]
      simp [Stage.inFlight]
    · intro other
      by_cases same : other = item
      · simp [same, start, Executor.setStage, Stage.inFlight]
      · simp [same, start, Executor.setStage, members]
  case activeBounded => exact free
  case queueBounded =>
    have bounded := core.queueBounded
    rw [List.length_cons] at bounded
    omega
  case leftArrived =>
    intro other member
    rcases List.mem_append.mp member with earlier | same
    · exact core.leftArrived other earlier
    · rw [List.mem_singleton.mp same]
      exact arrived

/-- The queue that `Core` speaks of need not be stored yet. -/
theorem core_store {queue : List Nat} (core : Core options executor queue)
    (stored : List Nat) (closed : Bool) :
    Core options { executor with queue := stored, closed := closed } queue := by
  refine ⟨fun item => ?_, core.startOrder, core.leftOrder, core.calledOnce, core.counted,
    core.activeBounded, core.queueBounded, core.leftArrived⟩
  obtain ⟨absent, waits, started, called, settled⟩ := core.items item
  exact ⟨absent, waits, started, called, settled⟩

theorem drain_invariant {queue : List Nat} (core : Core options executor queue)
    (isOpen : executor.closed = false) :
    Invariant options (drainQueue options queue executor) := by
  induction queue generalizing executor with
  | nil =>
      exact ⟨core_store core [] executor.closed, fun _ nonempty => absurd rfl nonempty,
        fun _ => rfl⟩
  | cons item rest induction =>
      rw [drainQueue]
      split_ifs with free
      · exact induction (core_start core free.2) isOpen
      · refine ⟨core_store core (item :: rest) executor.closed, fun _ _ => ?_, ?_⟩
        · have full : ¬ executor.active < options.concurrency := fun less => free ⟨isOpen, less⟩
          exact Nat.le_antisymm core.activeBounded (Nat.le_of_not_lt full)
        · intro isClosed
          rw [isOpen] at isClosed
          cases isClosed

/-- A step that only moves one item, and none in or out of the queue. -/
theorem core_move {moved : Executor Value} {queue : List Nat}
    (core : Core options executor queue)
    (same : moved.arrived = executor.arrived ∧ moved.starts = executor.starts ∧
      moved.left = executor.left ∧ moved.active = executor.active)
    (items : ∀ other, ItemAgrees moved queue other) (calledOnce : moved.calls.Nodup)
    (flies : ∀ other, (moved.stage other).inFlight = (executor.stage other).inFlight) :
    Core options moved queue := by
  obtain ⟨arrived, starts, left, active⟩ := same
  obtain ⟨flying, distinct, members, size⟩ := core.counted
  exact ⟨items, starts ▸ core.startOrder, left ▸ core.leftOrder, calledOnce,
    ⟨flying, distinct, fun other => by rw [members, flies], by rw [active, size]⟩,
    active ▸ core.activeBounded, core.queueBounded, by rw [left, arrived]; exact core.leftArrived⟩

theorem core_call {queue : List Nat} {item : Nat} (core : Core options executor queue)
    (scheduled : executor.stage item = .scheduled) :
    Core options { executor.setStage item .running with calls := executor.calls ++ [item] }
      queue := by
  have uncalled : item ∉ executor.calls := by
    rw [(core.items item).called, scheduled]
    simp [Stage.called]
  refine core_move core ⟨rfl, rfl, rfl, rfl⟩ ?_ ?_ ?_
  · intro other
    obtain ⟨absent, waits, started, called, settled⟩ := core.items other
    by_cases same : other = item
    · subst same
      constructor <;> simp_all [Executor.setStage, Stage.started, Stage.called, Stage.settledBy]
    · constructor <;> simp_all [Executor.setStage]
  · exact List.nodup_append.mpr ⟨core.calledOnce, List.nodup_singleton item, by
      intro other member last lastMember
      rw [List.mem_singleton.mp lastMember]
      rintro rfl
      exact uncalled member⟩
  · intro other
    by_cases same : other = item
    · simp [same, Executor.setStage, scheduled, Stage.inFlight]
    · simp [same, Executor.setStage]

theorem core_complete {queue : List Nat} {item : Nat} (outcome : Outcome Value)
    (core : Core options executor queue) (running : executor.stage item = .running) :
    Core options (executor.setStage item (.completed outcome)) queue := by
  refine core_move core ⟨rfl, rfl, rfl, rfl⟩ ?_ core.calledOnce ?_
  · intro other
    obtain ⟨absent, waits, started, called, settled⟩ := core.items other
    by_cases same : other = item
    · subst same
      constructor <;> simp_all [Executor.setStage, Stage.started, Stage.called, Stage.settledBy]
    · constructor <;> simp_all [Executor.setStage]
  · intro other
    by_cases same : other = item
    · simp [same, Executor.setStage, running, Stage.inFlight]
    · simp [same, Executor.setStage]

theorem core_answer {queue : List Nat} {item : Nat} {outcome : Outcome Value}
    (core : Core options executor queue) (completed : executor.stage item = .completed outcome) :
    Core options
      ((executor.setStage item (.answered outcome)).settle item (settlementOf outcome)) queue := by
  refine core_move core ⟨rfl, rfl, rfl, rfl⟩ ?_ core.calledOnce ?_
  · intro other
    obtain ⟨absent, waits, started, called, settled⟩ := core.items other
    by_cases same : other = item
    · subst same
      constructor <;> simp_all [Executor.setStage, Executor.settle, Stage.started, Stage.called,
        Stage.settledBy]
    · constructor <;> simp_all [Executor.setStage, Executor.settle]
  · intro other
    by_cases same : other = item
    · simp [same, Executor.setStage, Executor.settle, completed, Stage.inFlight]
    · simp [same, Executor.setStage, Executor.settle]

/-- The `finally` before it drains. -/
theorem core_release {queue : List Nat} {item : Nat} {outcome : Outcome Value}
    (core : Core options executor queue) (answered : executor.stage item = .answered outcome) :
    Core options { executor.setStage item (.released outcome) with
      active := executor.active - 1 } queue := by
  obtain ⟨flying, distinct, members, size⟩ := core.counted
  have flies : item ∈ flying := by
    rw [members, answered]
    rfl
  constructor
  case items =>
    intro other
    obtain ⟨absent, waits, started, called, settled⟩ := core.items other
    by_cases same : other = item
    · subst same
      constructor <;> simp_all [Executor.setStage, Stage.started, Stage.called, Stage.settledBy]
    · constructor <;> simp_all [Executor.setStage]
  case startOrder => exact core.startOrder
  case leftOrder => exact core.leftOrder
  case calledOnce => exact core.calledOnce
  case counted =>
    refine ⟨flying.erase item, distinct.erase item, ?_, by simp [size, flies]⟩
    intro other
    rw [distinct.mem_erase_iff, members]
    by_cases same : other = item
    · simp [same, Executor.setStage, Stage.inFlight]
    · simp [same, Executor.setStage]
  case activeBounded => exact (Nat.sub_le _ _).trans core.activeBounded
  case queueBounded => exact core.queueBounded
  case leftArrived => exact core.leftArrived

/-- The head of the emptied queue is rejected. -/
theorem core_reject {item : Nat} {rest : List Nat}
    (core : Core options executor (item :: rest)) :
    Core options (refuse { executor with left := executor.left ++ [item] } item) rest := by
  have queued : executor.stage item = .queued := (core.items item).queued.mp List.mem_cons_self
  have order := (List.pairwise_append.mp core.startOrder).2.1
  have notWaiting : item ∉ rest := fun waiting =>
    Nat.lt_irrefl item ((List.pairwise_cons.mp order).1 item waiting)
  obtain ⟨flying, distinct, members, size⟩ := core.counted
  constructor
  case items =>
    intro other
    obtain ⟨absent, waits, started, called, settled⟩ := core.items other
    by_cases same : other = item
    · subst same
      constructor <;> simp_all [refuse, Executor.setStage, Executor.settle, Stage.started,
        Stage.called, Stage.settledBy]
    · constructor <;> simp_all [refuse, Executor.setStage, Executor.settle]
  case startOrder =>
    exact core.startOrder.sublist
      (List.Sublist.append_left (List.sublist_cons_self item rest) executor.starts)
  case leftOrder =>
    simpa [refuse, Executor.setStage, Executor.settle] using core.leftOrder
  case calledOnce => exact core.calledOnce
  case counted =>
    refine ⟨flying, distinct, ?_, size⟩
    intro other
    rw [members]
    by_cases same : other = item
    · simp [same, refuse, Executor.setStage, Executor.settle, queued, Stage.inFlight]
    · simp [same, refuse, Executor.setStage, Executor.settle]
  case activeBounded => exact core.activeBounded
  case queueBounded => exact (Nat.le_succ _).trans core.queueBounded
  case leftArrived =>
    intro other member
    rcases List.mem_append.mp member with earlier | same
    · exact core.leftArrived other earlier
    · rw [List.mem_singleton.mp same]
      by_contra late
      have absent := (core.items item).absent.mpr (Nat.le_of_not_lt late)
      rw [queued] at absent
      cases absent

theorem arrived_of_stage {queue : List Nat} {item : Nat} (core : Core options executor queue)
    (present : executor.stage item ≠ .absent) : item < executor.arrived := by
  by_contra late
  exact present ((core.items item).absent.mpr (Nat.le_of_not_lt late))

theorem arrived_of_waits {queue : List Nat} {item : Nat} (core : Core options executor queue)
    (waits : item ∈ queue) : item < executor.arrived := by
  refine arrived_of_stage core ?_
  rw [(core.items item).queued.mp waits]
  nofun

theorem arrived_of_started {queue : List Nat} {item : Nat} (core : Core options executor queue)
    (started : item ∈ executor.starts) : item < executor.arrived := by
  refine arrived_of_stage core fun absent => ?_
  have isStarted := (core.items item).started.mp started
  rw [absent] at isStarted
  cases isStarted

theorem stage_of_fresh {queue : List Nat} (core : Core options executor queue) :
    executor.stage executor.arrived = .absent :=
  (core.items executor.arrived).absent.mpr (Nat.le_refl _)

theorem core_refuse_new {queue : List Nat} (core : Core options executor queue) :
    Core options (refuse { executor with arrived := executor.arrived + 1 } executor.arrived)
      queue := by
  have fresh := stage_of_fresh core
  obtain ⟨flying, distinct, members, size⟩ := core.counted
  constructor
  case items =>
    intro other
    obtain ⟨absent, waits, started, called, settled⟩ := core.items other
    by_cases same : other = executor.arrived
    · subst same
      constructor <;> simp_all [refuse, Executor.setStage, Executor.settle, Stage.started,
        Stage.called, Stage.settledBy]
    · constructor <;> simp_all [refuse, Executor.setStage, Executor.settle]
      omega
  case startOrder => exact core.startOrder
  case leftOrder => exact core.leftOrder
  case calledOnce => exact core.calledOnce
  case counted =>
    refine ⟨flying, distinct, ?_, size⟩
    intro other
    rw [members]
    by_cases same : other = executor.arrived
    · simp [same, refuse, Executor.setStage, Executor.settle, fresh, Stage.inFlight]
    · simp [same, refuse, Executor.setStage, Executor.settle]
  case activeBounded => exact core.activeBounded
  case queueBounded => exact core.queueBounded
  case leftArrived => exact fun item member => Nat.lt_succ_of_lt (core.leftArrived item member)

/-- Nothing waits where an item is started on arrival. -/
theorem core_start_new (core : Core options executor [])
    (free : executor.active < options.concurrency) :
    Core options (start { executor with arrived := executor.arrived + 1 } executor.arrived) [] := by
  have fresh := stage_of_fresh core
  obtain ⟨flying, distinct, members, size⟩ := core.counted
  constructor
  case items =>
    intro other
    obtain ⟨absent, waits, started, called, settled⟩ := core.items other
    by_cases same : other = executor.arrived
    · subst same
      constructor <;> simp_all [start, Executor.setStage, Stage.started, Stage.called,
        Stage.settledBy]
    · constructor <;> simp_all [start, Executor.setStage]
      omega
  case startOrder =>
    have order := core.startOrder
    rw [List.append_nil] at order
    rw [List.append_nil]
    refine List.pairwise_append.mpr ⟨order, List.pairwise_singleton _ _, ?_⟩
    intro earlier member last lastMember
    rw [List.mem_singleton.mp lastMember]
    exact arrived_of_started core member
  case leftOrder => exact core.leftOrder
  case calledOnce => exact core.calledOnce
  case counted =>
    refine ⟨executor.arrived :: flying, ?_, ?_, by simp [start, Executor.setStage, size]⟩
    · refine List.nodup_cons.mpr ⟨?_, distinct⟩
      rw [members, fresh]
      simp [Stage.inFlight]
    · intro other
      by_cases same : other = executor.arrived
      · simp [same, start, Executor.setStage, Stage.inFlight]
      · simp [same, start, Executor.setStage, members]
  case activeBounded => exact free
  case queueBounded => exact core.queueBounded
  case leftArrived => exact fun item member => Nat.lt_succ_of_lt (core.leftArrived item member)

theorem core_enqueue {queue : List Nat} (core : Core options executor queue)
    (room : queue.length < options.queueLimit) :
    Core options (({ executor with arrived := executor.arrived + 1 } : Executor Value).setStage
      executor.arrived .queued) (queue ++ [executor.arrived]) := by
  have fresh := stage_of_fresh core
  obtain ⟨flying, distinct, members, size⟩ := core.counted
  have last : ∀ list : List Nat, (list ++ queue).Pairwise (· < ·) →
      (∀ item ∈ list, item < executor.arrived) →
      (list ++ (queue ++ [executor.arrived])).Pairwise (· < ·) := by
    intro list order before
    rw [← List.append_assoc]
    refine List.pairwise_append.mpr ⟨order, List.pairwise_singleton _ _, ?_⟩
    intro earlier member final finalMember
    rw [List.mem_singleton.mp finalMember]
    rcases List.mem_append.mp member with inList | waits
    · exact before earlier inList
    · exact arrived_of_waits core waits
  constructor
  case items =>
    intro other
    obtain ⟨absent, waits, started, called, settled⟩ := core.items other
    by_cases same : other = executor.arrived
    · subst same
      constructor <;> simp_all [Executor.setStage, Stage.started, Stage.called, Stage.settledBy]
    · constructor <;> simp_all [Executor.setStage]
      omega
  case startOrder => exact last _ core.startOrder fun item => arrived_of_started core
  case leftOrder => exact last _ core.leftOrder core.leftArrived
  case calledOnce => exact core.calledOnce
  case counted =>
    refine ⟨flying, distinct, ?_, size⟩
    intro other
    rw [members]
    by_cases same : other = executor.arrived
    · simp [same, Executor.setStage, fresh, Stage.inFlight]
    · simp [same, Executor.setStage]
  case activeBounded => exact core.activeBounded
  case queueBounded =>
    rw [List.length_append, List.length_singleton]
    omega
  case leftArrived => exact fun item member => Nat.lt_succ_of_lt (core.leftArrived item member)

/-- A call of `run`, whatever becomes of it. -/
theorem schedule_invariant (holds : Invariant options executor) :
    Invariant options
      (schedule options { executor with arrived := executor.arrived + 1 } executor.arrived) := by
  have core := holds.core
  unfold schedule
  dsimp only
  split_ifs with isClosed free full
  · exact ⟨core_refuse_new core, holds.conserving, holds.drained⟩
  · have empty : executor.queue = [] := by
      by_contra nonempty
      have busy := holds.conserving (Bool.eq_false_iff.mpr isClosed) nonempty
      omega
    rw [empty] at core
    refine ⟨?_, fun _ nonempty => absurd empty nonempty, fun _ => empty⟩
    rw [show (start { executor with arrived := executor.arrived + 1 } executor.arrived).queue
      = [] from empty]
    exact core_start_new core free
  · exact ⟨core_refuse_new core, holds.conserving, holds.drained⟩
  · refine ⟨core_store (core_enqueue core (Nat.lt_of_not_le full)) _ executor.closed, ?_, ?_⟩
    · intro _ _
      exact Nat.le_antisymm core.activeBounded (Nat.le_of_not_lt free)
    · intro closed
      exact absurd closed isClosed

theorem reject_core {queue : List Nat} (core : Core options executor queue) :
    Core options (rejectQueue queue executor) [] := by
  induction queue generalizing executor with
  | nil => exact core
  | cons item rest induction => exact induction (core_reject core)

theorem reject_keeps (queue : List Nat) (executor : Executor Value) :
    (rejectQueue queue executor).queue = executor.queue ∧
      (rejectQueue queue executor).closed = executor.closed ∧
      (rejectQueue queue executor).starts = executor.starts ∧
      (rejectQueue queue executor).arrived = executor.arrived := by
  induction queue generalizing executor with
  | nil => exact ⟨rfl, rfl, rfl, rfl⟩
  | cons item rest induction => exact induction _

theorem close_closes (executor : Executor Value) :
    (closeExecutor executor).closed = true ∧
      (closeExecutor executor).starts = executor.starts := by
  unfold closeExecutor
  split_ifs with isClosed
  · exact ⟨isClosed, rfl⟩
  · obtain ⟨_, closed, starts, _⟩ := reject_keeps executor.queue
      { executor with closed := true, queue := [] }
    exact ⟨closed, starts⟩

theorem close_invariant (holds : Invariant options executor) :
    Invariant options (closeExecutor executor) := by
  unfold closeExecutor
  split_ifs with isClosed
  · exact holds
  · obtain ⟨queue, closed, _⟩ := reject_keeps executor.queue
      { executor with closed := true, queue := [] }
    refine ⟨?_, ?_, fun _ => queue⟩
    · rw [queue]
      exact reject_core (core_store holds.core [] true)
    · intro isOpen
      rw [closed] at isOpen
      cases isOpen

theorem release_invariant {item : Nat} {outcome : Outcome Value}
    (holds : Invariant options executor) (answered : executor.stage item = .answered outcome) :
    Invariant options (drain options { executor.setStage item (.released outcome) with
      active := executor.active - 1 }) := by
  have core := core_release holds.core answered
  cases closed : executor.closed with
  | false => exact drain_invariant core closed
  | true =>
      have empty := holds.drained closed
      rw [empty] at core
      unfold drain
      rw [show ({ executor.setStage item (.released outcome) with
        active := executor.active - 1 } : Executor Value).queue = [] from empty]
      exact ⟨core_store core [] executor.closed, fun _ nonempty => absurd rfl nonempty,
        fun _ => rfl⟩

theorem step_invariant {action : Action Value} {next : Executor Value}
    (holds : Invariant options executor) (taken : step options executor action = some next) :
    Invariant options next := by
  cases action with
  | run =>
      cases taken
      exact schedule_invariant holds
  | call item =>
      simp only [step] at taken
      split at taken
      next scheduled =>
        cases taken
        exact ⟨core_call holds.core scheduled, holds.conserving, holds.drained⟩
      next => cases taken
  | complete item outcome =>
      simp only [step] at taken
      split at taken
      next running =>
        cases taken
        exact ⟨core_complete outcome holds.core running, holds.conserving, holds.drained⟩
      next => cases taken
  | answer item =>
      simp only [step] at taken
      split at taken
      next outcome completed =>
        cases taken
        exact ⟨core_answer holds.core completed, holds.conserving, holds.drained⟩
      next => cases taken
  | release item =>
      simp only [step] at taken
      split at taken
      next outcome answered =>
        cases taken
        exact release_invariant holds answered
      next => cases taken
  | close =>
      cases taken
      exact close_invariant holds

end Invariants

end CommitmentOptimizer.Tenants.ArgonExecutor
