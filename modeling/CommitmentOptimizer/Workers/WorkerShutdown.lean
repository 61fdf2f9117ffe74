import CommitmentOptimizer.Foundations.Schedules

/-!
# Start, poll and shutdown of the worker process

`buildWorker`, `startWorker` and `runCycle` of `apps/worker/app.ts`. Every step is
what runs between two awaits; what an await waits for may succeed or fail.
-/

namespace CommitmentOptimizer.Workers.WorkerShutdown

open Foundations.Schedules

set_option autoImplicit false

section Model

/-- The awaits of `runCycle`. -/
inductive Operation where
  | forecast | optimizer | approval | backtest | adapter
  deriving DecidableEq, Repr

def Operation.next : Operation → Option Operation
  | .forecast => some .optimizer
  | .optimizer => some .approval
  | .approval => some .backtest
  | .backtest => some .adapter
  | .adapter => none

/-- `startOperation`; `idle` is `undefined`. -/
inductive StartPhase where
  | idle | checkingHealth
  | cycling (operation : Operation)
  | logging | installing | resolved | rejected
  deriving DecidableEq, Repr

/-- `cycleOperation`: the cycle, what is logged about it, and the `finally` callback. -/
inductive CyclePhase where
  | running (operation : Operation)
  | loggingCompleted | probingLag | loggingLag | warning | finishing
  deriving DecidableEq, Repr

/-- A promise of `close`, with the number of the cycle that it waits for. -/
inductive CloseState where
  | awaiting (cycle : Option Nat)
  | resolved
  deriving DecidableEq, Repr

structure WorkerOptions where
  pollIntervalMs : Nat
  queueLagProbe : Bool

/-- `cycles` counts the polled cycles; `cycle` is the last of them, while it lasts. -/
structure WorkerState where
  start : StartPhase
  cycles : Nat
  cycle : Option CyclePhase
  poller : Bool
  closed : Bool
  closes : List CloseState
  deriving DecidableEq, Repr

def workerStart : WorkerState := ⟨.idle, 0, none, false, false, []⟩

inductive WorkerAction where
  | callStart
  | startContinues (succeeds : Bool)
  | tick
  | cycleContinues (succeeds : Bool)
  | callClose
  | closeResolves (number : Nat)
  deriving DecidableEq, Repr

/-- Where the start goes on. -/
def startAfter (succeeds : Bool) : StartPhase → Option StartPhase
  | .checkingHealth => some (if succeeds then .cycling .forecast else .rejected)
  | .cycling operation =>
      if succeeds then
        match operation.next with
        | some next => some (.cycling next)
        | none => some .logging
      else some .rejected
  | .logging => some (if succeeds then .installing else .rejected)
  | .installing => some .resolved
  | .idle | .resolved | .rejected => none

/-- The continuation of `startWorker`, and the callback that installs the poller. -/
def continueStart (options : WorkerOptions) (succeeds : Bool) (state : WorkerState) :
    Option WorkerState :=
  (startAfter succeeds state.start).map fun phase => { state with
    start := phase
    poller := if phase = .resolved then decide (0 < options.pollIntervalMs) else state.poller }

/-- The callback of `setInterval`. -/
def pollTick (state : WorkerState) : Option WorkerState :=
  if state.poller then
    if state.closed ∨ state.cycle.isSome then some state
    else some { state with cycles := state.cycles + 1, cycle := some (.running .forecast) }
  else none

/-- The continuation of a polled cycle and of its handlers. -/
def continueCycle (options : WorkerOptions) (succeeds : Bool) (state : WorkerState) :
    Option WorkerState :=
  state.cycle.map fun phase => { state with cycle :=
    match phase, succeeds with
    | .running operation, true =>
        match operation.next with
        | some next => some (.running next)
        | none => some .loggingCompleted
    | .loggingCompleted, true => some (if options.queueLagProbe then .probingLag else .finishing)
    | .probingLag, true => some .loggingLag
    | .running _, false | .loggingCompleted, false | .probingLag, false | .loggingLag, false =>
        some .warning
    | .loggingLag, true | .warning, _ => some .finishing
    | .finishing, _ => none }

/-- `await cycleOperation` reads the variable once. A cleared interval ticks no more. -/
def callClose (state : WorkerState) : WorkerState :=
  { state with
    closed := true
    poller := false
    closes := state.closes ++ [.awaiting (state.cycle.map fun _ => state.cycles)] }

/-- The awaited cycle has come to its end. -/
def isOver (state : WorkerState) : Option Nat → Bool
  | none => true
  | some number => state.cycle.isNone || decide (number < state.cycles)

def resolveClose (number : Nat) (state : WorkerState) : Option WorkerState :=
  match state.closes[number]? with
  | some (.awaiting cycle) =>
      if isOver state cycle then some { state with closes := state.closes.set number .resolved }
      else none
  | _ => none

def workerStep (options : WorkerOptions) (state : WorkerState) : WorkerAction → Option WorkerState
  | .callStart =>
      if state.start = .idle then some { state with start := .checkingHealth } else some state
  | .startContinues succeeds => continueStart options succeeds state
  | .tick => pollTick state
  | .cycleContinues succeeds => continueCycle options succeeds state
  | .callClose => some (callClose state)
  | .closeResolves number => resolveClose number state

end Model

section Statement

def startCycles (state : WorkerState) : Bool :=
  match state.start with
  | .cycling _ => true
  | _ => false

/-- Some step of some cycle is under way. -/
def runsStep (state : WorkerState) : Bool :=
  startCycles state || match state.cycle with
    | some (.running _) => true
    | _ => false

/-- The initial cycle and a polled one are never in progress together. -/
def OneCycle (state : WorkerState) : Prop := startCycles state = true → state.cycle = none

def QuietAfterClose (state : WorkerState) : Prop :=
  .resolved ∈ state.closes → runsStep state = false

/-- Whether a first cycle is still to come of a start that has begun. -/
def startsUp : StartPhase → Bool
  | .checkingHealth | .cycling _ => true
  | .idle | .logging | .installing | .resolved | .rejected => false

/-- The condition on a step: `close` is not called while the worker starts up, and no
first `start` follows a `close`. -/
def ClosesSettled (state : WorkerState) : WorkerAction → Prop
  | .callClose => startsUp state.start = false
  | .callStart => state.start = .idle → state.closed = false
  | _ => True

instance (state : WorkerState) : (action : WorkerAction) → Decidable (ClosesSettled state action)
  | .callClose => inferInstanceAs (Decidable (startsUp state.start = false))
  | .callStart => inferInstanceAs (Decidable (state.start = .idle → state.closed = false))
  | .startContinues _ | .tick | .cycleContinues _ | .closeResolves _ => isTrue trivial

end Statement

section Cycles

variable {options : WorkerOptions} {state next : WorkerState}

/-- The poller, and with it a polled cycle, exists only after the start. -/
structure PolledAfterStart (state : WorkerState) : Prop where
  poller : state.poller = true → state.start = .resolved
  cycle : state.cycle.isSome = true → state.start = .resolved

theorem start_after_cases {succeeds : Bool} {phase later : StartPhase}
    (goesOn : startAfter succeeds phase = some later) :
    phase ≠ .resolved ∧ (startsUp later = true → startsUp phase = true) := by
  cases phase with
  | cycling => exact ⟨nofun, fun _ => rfl⟩
  | checkingHealth => exact ⟨nofun, fun _ => rfl⟩
  | logging =>
      obtain rfl := Option.some.inj goesOn
      cases succeeds <;> exact ⟨nofun, nofun⟩
  | installing =>
      obtain rfl := Option.some.inj goesOn
      exact ⟨nofun, nofun⟩
  | idle | resolved | rejected => cases goesOn

/-- A cycle that goes on was there before. -/
theorem continue_cycle_cases {succeeds : Bool}
    (taken : continueCycle options succeeds state = some next) :
    state.cycle.isSome = true ∧ ∃ phase, next = { state with cycle := phase } := by
  obtain ⟨phase, found, rfl⟩ := Option.map_eq_some_iff.mp taken
  exact ⟨by rw [found]; rfl, _, rfl⟩

theorem resolve_close_cases {number : Nat} (taken : resolveClose number state = some next) :
    ∃ cycle, state.closes[number]? = some (.awaiting cycle) ∧ isOver state cycle = true ∧
      next = { state with closes := state.closes.set number .resolved } := by
  unfold resolveClose at taken
  split at taken
  · split_ifs at taken with over'
    exact ⟨_, ‹_›, over', (Option.some.inj taken).symm⟩
  · cases taken

theorem step_polled {action : WorkerAction} (before : PolledAfterStart state)
    (taken : workerStep options state action = some next) : PolledAfterStart next := by
  obtain ⟨poller, cycle⟩ := before
  cases action with
  | callStart =>
      simp only [workerStep] at taken
      split_ifs at taken with idle
      · obtain rfl := Option.some.inj taken
        rw [idle] at poller cycle
        exact ⟨fun polls => absurd (poller polls) nofun, fun some => absurd (cycle some) nofun⟩
      · obtain rfl := Option.some.inj taken
        exact ⟨poller, cycle⟩
  | startContinues succeeds =>
      obtain ⟨phase, goesOn, rfl⟩ := Option.map_eq_some_iff.mp taken
      have unresolved := (start_after_cases goesOn).1
      refine ⟨fun polls => ?_, fun some => absurd (cycle some) unresolved⟩
      by_contra unfinished
      rw [if_neg unfinished] at polls
      exact unresolved (poller polls)
  | tick =>
      simp only [workerStep, pollTick] at taken
      split_ifs at taken with polls skipped
      · obtain rfl := Option.some.inj taken
        exact ⟨poller, cycle⟩
      · obtain rfl := Option.some.inj taken
        exact ⟨poller, fun _ => poller polls⟩
  | cycleContinues succeeds =>
      obtain ⟨some, phase, rfl⟩ := continue_cycle_cases taken
      exact ⟨poller, fun _ => cycle some⟩
  | callClose =>
      obtain rfl := Option.some.inj taken
      exact ⟨nofun, cycle⟩
  | closeResolves number =>
      obtain ⟨_, _, _, rfl⟩ := resolve_close_cases taken
      exact ⟨poller, cycle⟩

theorem one_cycle (polled : PolledAfterStart state) : OneCycle state := by
  intro cycling
  by_contra some
  have resolved := polled.cycle (Option.isSome_iff_ne_none.mpr some)
  rw [startCycles, resolved] at cycling
  cases cycling

end Cycles

section Shutdown

variable {options : WorkerOptions} {state next : WorkerState}

/-- What a promise of `close` knows of the polled cycles. -/
def Awaits (state : WorkerState) : CloseState → Prop
  | .awaiting (some number) => state.cycle.isSome = true → number = state.cycles
  | .awaiting none | .resolved => state.cycle = none

/-- After a `close` nothing starts up, and the last cycle is awaited. -/
structure ShutsDown (state : WorkerState) : Prop where
  closed : state.closes ≠ [] → state.closed = true
  settled : state.closed = true → startsUp state.start = false
  awaits : ∀ close ∈ state.closes, Awaits state close

/-- A cycle that may only have ended. -/
theorem awaits_mono (state next : WorkerState) {close : CloseState} (cycles : next.cycles = state.cycles)
    (ended : next.cycle.isSome = true → state.cycle.isSome = true)
    (awaits : Awaits state close) : Awaits next close := by
  have none : state.cycle = none → next.cycle = none := by
    intro empty
    by_contra some
    rw [empty] at ended
    exact absurd (ended (Option.isSome_iff_ne_none.mpr some)) nofun
  cases close with
  | resolved => exact none awaits
  | awaiting cycle =>
      cases cycle with
      | none => exact none awaits
      | some number =>
          intro some
          rw [cycles]
          exact awaits (ended some)

theorem over_none {cycle : Option Nat} (ended : isOver state cycle = true)
    (awaits : Awaits state (.awaiting cycle)) : state.cycle = none := by
  cases cycle with
  | none => exact awaits
  | some number =>
      by_contra some
      have present := Option.isSome_iff_ne_none.mpr some
      have same := awaits present
      rw [isOver, Option.isNone_eq_false_iff.mpr present, Bool.false_or, decide_eq_true_eq] at ended
      omega

theorem step_shuts_down {action : WorkerAction} (before : ShutsDown state)
    (good : ClosesSettled state action) (taken : workerStep options state action = some next) :
    ShutsDown next := by
  obtain ⟨closed, settled, awaits⟩ := before
  cases action with
  | callStart =>
      simp only [workerStep] at taken
      split_ifs at taken with idle
      · obtain rfl := Option.some.inj taken
        exact ⟨closed, fun isClosed => absurd ((good idle).symm.trans isClosed) nofun, awaits⟩
      · obtain rfl := Option.some.inj taken
        exact ⟨closed, settled, awaits⟩
  | startContinues succeeds =>
      obtain ⟨phase, goesOn, rfl⟩ := Option.map_eq_some_iff.mp taken
      have starting := (start_after_cases goesOn).2
      refine ⟨closed, fun isClosed => Bool.eq_false_iff.mpr fun startsNext => ?_, awaits⟩
      exact absurd ((settled isClosed).symm.trans (starting startsNext)) nofun
  | tick =>
      simp only [workerStep, pollTick] at taken
      split_ifs at taken with polls skipped
      · obtain rfl := Option.some.inj taken
        exact ⟨closed, settled, awaits⟩
      · obtain rfl := Option.some.inj taken
        refine ⟨closed, settled, fun close member => ?_⟩
        exact absurd (Or.inl (closed (List.ne_nil_of_mem member))) skipped
  | cycleContinues succeeds =>
      obtain ⟨present, phase, rfl⟩ := continue_cycle_cases taken
      exact ⟨closed, settled, fun close member =>
        awaits_mono state _ rfl (fun _ => present) (awaits close member)⟩
  | callClose =>
      obtain rfl := Option.some.inj taken
      refine ⟨fun _ => rfl, fun _ => good, fun close member => ?_⟩
      rcases List.mem_append.mp member with old | new
      · exact awaits_mono state _ rfl id (awaits close old)
      · obtain rfl := List.mem_singleton.mp new
        cases cycle : state.cycle with
        | none => exact cycle
        | some phase => exact fun _ => rfl
  | closeResolves number =>
      obtain ⟨cycle, found, ended, rfl⟩ := resolve_close_cases taken
      have member := List.mem_of_getElem? found
      have none := over_none ended (awaits _ member)
      refine ⟨fun _ => closed (List.ne_nil_of_mem member), settled, fun close inside => ?_⟩
      rcases List.mem_or_eq_of_mem_set inside with old | rfl
      · exact awaits_mono state _ rfl id (awaits close old)
      · exact none

theorem quiet_after_close (shuts : ShutsDown state) : QuietAfterClose state := by
  intro resolved
  have none : state.cycle = none := shuts.awaits .resolved resolved
  have settled := shuts.settled (shuts.closed (List.ne_nil_of_mem resolved))
  have idle : startCycles state = false := by
    unfold startCycles
    cases start : state.start <;> first | rfl | (rw [start] at settled; cases settled)
  rw [runsStep, idle, none]
  rfl

/-- A start, one tick, and a `close` during the polled cycle. -/
def orderlySchedule : List WorkerAction :=
  .callStart :: List.replicate 8 (.startContinues true) ++
    [.tick, .cycleContinues true, .callClose, .cycleContinues false, .cycleContinues true,
      .cycleContinues true, .closeResolves 0]

end Shutdown

end CommitmentOptimizer.Workers.WorkerShutdown
