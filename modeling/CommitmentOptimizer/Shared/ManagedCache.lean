import Mathlib.Logic.Function.Basic
import CommitmentOptimizer.Foundations.Schedules

/-!
# The managed cache

`createManagedCache` of `lifecycle.ts`. Calls are synchronous up to their first
`await`; each callback of a promise is a step of its own, taken in any order but
that the reactions of one promise run in the order they were registered: the
`catch` of a creation and `clearClosing` come before the waiting callers.
-/

namespace CommitmentOptimizer.Shared.ManagedCache

open Foundations.Schedules

set_option autoImplicit false

/-- A call of the factory and what became of its resource. -/
inductive Generation (Resource : Type) where
  | absent
  /-- The job that calls the factory is queued. -/
  | scheduled
  | creating
  | live (resource : Resource)
  /-- The creation has failed; `caught` after the `catch` callback of `get`. -/
  | failed (caught : Bool)
  | disposing (resource : Resource)
  | disposed (resource : Resource)
  deriving DecidableEq

/-- A call of `closeGeneration`. -/
inductive Operation where
  | absent
  | awaiting (generation : Nat)
  | disposing (generation : Nat)
  | settled (took : Option Nat) (succeeded : Bool)
  /-- `clearClosing` has run. -/
  | cleared (took : Option Nat) (succeeded : Bool)
  deriving DecidableEq

/-- A call of `get`; its promise follows the generation that answered it. -/
inductive Getter (Resource : Type) where
  | absent
  | waiting (operation : Nat)
  | answered (generation : Nat)
  | rejected
  | settled (generation : Nat) (resource : Option Resource)
  deriving DecidableEq

structure Cache (Resource : Type) where
  current : Option Nat
  closing : Option Nat
  generations : Nat
  generation : Nat → Generation Resource
  operations : Nat
  operation : Nat → Operation
  getters : Nat
  getter : Nat → Getter Resource
  factoryCalls : Nat → Nat
  disposeCalls : Nat → Nat

def createManagedCache (Resource : Type) : Cache Resource where
  current := none
  closing := none
  generations := 0
  generation _ := .absent
  operations := 0
  operation _ := .absent
  getters := 0
  getter _ := .absent
  factoryCalls _ := 0
  disposeCalls _ := 0

section Steps

variable {Resource : Type}

def Cache.setGeneration (cache : Cache Resource) (generation : Nat)
    (status : Generation Resource) : Cache Resource :=
  { cache with generation := Function.update cache.generation generation status }

def Cache.setOperation (cache : Cache Resource) (operation : Nat) (status : Operation) :
    Cache Resource :=
  { cache with operation := Function.update cache.operation operation status }

def Cache.setGetter (cache : Cache Resource) (getter : Nat) (status : Getter Resource) :
    Cache Resource :=
  { cache with getter := Function.update cache.getter getter status }

/-- `get` from the test of its loop. -/
def acquire (cache : Cache Resource) (getter : Nat) : Cache Resource :=
  match cache.closing with
  | some operation => cache.setGetter getter (.waiting operation)
  | none =>
      match cache.current with
      | some generation => cache.setGetter getter (.answered generation)
      | none =>
          { (cache.setGeneration cache.generations .scheduled).setGetter getter
              (.answered cache.generations) with
            generations := cache.generations + 1
            current := some cache.generations }

/-- `close` and `reset`. Without a resource `closeGeneration` returns at once. -/
def close (cache : Cache Resource) : Cache Resource :=
  match cache.closing with
  | some _ => cache
  | none =>
      let status := match cache.current with
        | some generation => Operation.awaiting generation
        | none => .settled none true
      { cache.setOperation cache.operations status with
        operations := cache.operations + 1
        current := none
        closing := some cache.operations }

inductive Action (Resource : Type) where
  | get
  | close
  | callFactory (generation : Nat)
  | create (generation : Nat) (resource : Resource)
  | failCreation (generation : Nat)
  | runCatch (generation : Nat)
  | resumeClose (operation : Nat)
  | settleDispose (operation : Nat) (succeeded : Bool)
  | clearClosing (operation : Nat)
  | resumeGet (getter : Nat)
  | deliver (getter : Nat)
  deriving DecidableEq

/-- `closeGeneration` after `await acquired`. -/
def resumeClose (cache : Cache Resource) (operation generation : Nat) : Option (Cache Resource) :=
  match cache.generation generation with
  | .live resource =>
      some { (cache.setGeneration generation (.disposing resource)).setOperation operation
          (.disposing generation) with
        disposeCalls := Function.update cache.disposeCalls generation
          (cache.disposeCalls generation + 1) }
  | .failed true => some (cache.setOperation operation (.settled (some generation) false))
  | _ => none

def deliver (cache : Cache Resource) (getter generation : Nat) : Option (Cache Resource) :=
  match cache.generation generation with
  | .live resource | .disposing resource | .disposed resource =>
      some (cache.setGetter getter (.settled generation (some resource)))
  | .failed true => some (cache.setGetter getter (.settled generation none))
  | _ => none

def step (cache : Cache Resource) : Action Resource → Option (Cache Resource)
  | .get => some (acquire { cache with getters := cache.getters + 1 } cache.getters)
  | .close => some (close cache)
  | .callFactory generation =>
      match cache.generation generation with
      | .scheduled =>
          some { cache.setGeneration generation .creating with
            factoryCalls := Function.update cache.factoryCalls generation
              (cache.factoryCalls generation + 1) }
      | _ => none
  | .create generation resource =>
      match cache.generation generation with
      | .creating => some (cache.setGeneration generation (.live resource))
      | _ => none
  | .failCreation generation =>
      match cache.generation generation with
      | .creating => some (cache.setGeneration generation (.failed false))
      | _ => none
  | .runCatch generation =>
      match cache.generation generation with
      | .failed false =>
          some { cache.setGeneration generation (.failed true) with
            current := if cache.current = some generation then none else cache.current }
      | _ => none
  | .resumeClose operation =>
      match cache.operation operation with
      | .awaiting generation => resumeClose cache operation generation
      | _ => none
  | .settleDispose operation succeeded =>
      match cache.operation operation with
      | .disposing generation =>
          match cache.generation generation with
          | .disposing resource =>
              some ((cache.setGeneration generation (.disposed resource)).setOperation operation
                (.settled (some generation) succeeded))
          | _ => none
      | _ => none
  | .clearClosing operation =>
      match cache.operation operation with
      | .settled took succeeded =>
          some { cache.setOperation operation (.cleared took succeeded) with
            closing := if cache.closing = some operation then none else cache.closing }
      | _ => none
  | .resumeGet getter =>
      match cache.getter getter with
      | .waiting operation =>
          match cache.operation operation with
          | .cleared _ true => some (acquire cache getter)
          | .cleared _ false => some (cache.setGetter getter .rejected)
          | _ => none
      | _ => none
  | .deliver getter =>
      match cache.getter getter with
      | .answered generation => deliver cache getter generation
      | _ => none

end Steps

section Invariants

variable {Resource : Type}

/-- A resource that may exist or come to exist, and is not known to be disposed. -/
def Generation.alive : Generation Resource → Bool
  | .scheduled | .creating | .live _ | .disposing _ => true
  | _ => false

/-- The creation has failed or the disposal has settled. -/
def Generation.over : Generation Resource → Bool
  | .failed _ | .disposed _ => true
  | _ => false

/-- What the generation in `current` may be. -/
def Generation.usable : Generation Resource → Bool
  | .scheduled | .creating | .live _ | .failed false => true
  | _ => false

/-- What a generation is before a close has disposed of it. -/
def Generation.undisposed : Generation Resource → Bool
  | .scheduled | .creating | .live _ | .failed _ => true
  | _ => false

def Generation.resource : Generation Resource → Option Resource
  | .live resource | .disposing resource | .disposed resource => some resource
  | _ => none

def Generation.factoryCalls : Generation Resource → Nat
  | .absent | .scheduled => 0
  | _ => 1

def Generation.disposeCalls : Generation Resource → Nat
  | .disposing _ | .disposed _ => 1
  | _ => 0

def Operation.took : Operation → Option Nat
  | .awaiting generation | .disposing generation => some generation
  | .settled took _ | .cleared took _ => took
  | .absent => none

def Operation.pending : Operation → Bool
  | .awaiting _ | .disposing _ | .settled .. => true
  | _ => false

def Getter.answeredBy : Getter Resource → Option Nat
  | .answered generation | .settled generation _ => some generation
  | _ => none

/-- What a settled `get` says of the generation that answered it. -/
def Getter.agrees (generation : Nat → Generation Resource) : Getter Resource → Prop
  | .settled index (some resource) => (generation index).resource = some resource
  | .settled index none => generation index = .failed true
  | _ => True

/-- What no call of `get` by itself can break. -/
structure Core (cache : Cache Resource) : Prop where
  born : ∀ index, cache.generation index = .absent ↔ cache.generations ≤ index
  factoryCalls : ∀ index, cache.factoryCalls index = (cache.generation index).factoryCalls
  disposeCalls : ∀ index, cache.disposeCalls index = (cache.generation index).disposeCalls
  operationBorn : ∀ index, cache.operation index = .absent ↔ cache.operations ≤ index
  closing : ∀ index, cache.closing = some index ↔ (cache.operation index).pending = true
  exclusive : cache.current ≠ none → cache.closing = none
  currentUsable : ∀ index, cache.current = some index → (cache.generation index).usable = true
  currentFresh : ∀ index, cache.current = some index → ∀ operation,
    (cache.operation operation).took ≠ some index
  awaiting : ∀ operation index, cache.operation operation = .awaiting index →
    (cache.generation index).undisposed = true
  tookBorn : ∀ operation index, (cache.operation operation).took = some index →
    index < cache.generations
  /-- What is alive is in use or being closed. -/
  placed : ∀ index, (cache.generation index).alive = true →
    cache.current = some index ∨ ∃ operation, cache.closing = some operation ∧
      (cache.operation operation = .awaiting index ∨ cache.operation operation = .disposing index)
  /-- Only the newest generation may be alive. -/
  newest : ∀ index, (cache.generation index).alive = true → index + 1 = cache.generations
  answeredBorn : ∀ getter index, (cache.getter getter).answeredBy = some index →
    index < cache.generations
  getterAgrees : ∀ getter, (cache.getter getter).agrees cache.generation

theorem core_create : Core (createManagedCache Resource) := by
  constructor <;> simp [createManagedCache, Generation.factoryCalls, Generation.disposeCalls,
    Operation.pending, Operation.took, Generation.alive, Getter.answeredBy, Getter.agrees]

variable {cache : Cache Resource}

/-- A change of status that leaves the generation in its place. -/
structure Moves (cache : Cache Resource) (index : Nat) (later : Generation Resource) : Prop where
  present : cache.generation index ≠ .absent ∧ later ≠ .absent
  usable : cache.current = some index → later.usable = true
  undisposed : ∀ operation, cache.operation operation = .awaiting index → later.undisposed = true
  alive : later.alive = true → (cache.generation index).alive = true
  resource : ∀ resource, (cache.generation index).resource = some resource →
    later.resource = some resource
  failed : cache.generation index = .failed true → later = .failed true

theorem agrees_update {index : Nat} {later : Generation Resource} {status : Getter Resource}
    {generation : Nat → Generation Resource}
    (resource : ∀ resource, (generation index).resource = some resource →
      later.resource = some resource)
    (failed : generation index = .failed true → later = .failed true)
    (agrees : status.agrees generation) :
    status.agrees (Function.update generation index later) := by
  cases status with
  | settled other result =>
      by_cases same : other = index
      · subst same
        cases result with
        | none => simpa [Getter.agrees] using failed agrees
        | some value => simpa [Getter.agrees] using resource value agrees
      · cases result <;> simpa [Getter.agrees, Function.update_of_ne same] using agrees
  | absent => trivial
  | waiting => trivial
  | answered => trivial
  | rejected => trivial

/-- A property of each generation survives where it survives at the changed one. -/
theorem update_everywhere {index : Nat} {later : Generation Resource}
    {generation : Nat → Generation Resource} {p : Nat → Generation Resource → Prop}
    (everywhere : ∀ other, p other (generation other)) (here : p index later)
    (other : Nat) : p other (Function.update generation index later other) := by
  by_cases same : other = index
  · subst same
    rw [Function.update_self]
    exact here
  · rw [Function.update_of_ne same]
    exact everywhere other

theorem core_generation {index : Nat} {later : Generation Resource} {calls disposals : Nat → Nat}
    (core : Core cache) (moves : Moves cache index later)
    (called : ∀ other, calls other =
      (Function.update cache.generation index later other).factoryCalls)
    (disposed : ∀ other, disposals other =
      (Function.update cache.generation index later other).disposeCalls) :
    Core { cache.setGeneration index later with
      factoryCalls := calls, disposeCalls := disposals } := by
  constructor
  case born =>
    refine update_everywhere (p := fun other status =>
      status = .absent ↔ cache.generations ≤ other) core.born ?_
    exact ⟨fun absent => absurd absent moves.present.2, fun late =>
      absurd ((core.born index).mpr late) moves.present.1⟩
  case factoryCalls => exact called
  case disposeCalls => exact disposed
  case operationBorn => exact core.operationBorn
  case closing => exact core.closing
  case exclusive => exact core.exclusive
  case currentUsable =>
    exact update_everywhere (p := fun other status =>
      cache.current = some other → status.usable = true) core.currentUsable moves.usable
  case currentFresh => exact core.currentFresh
  case awaiting =>
    intro operation
    exact update_everywhere (p := fun other status =>
      cache.operation operation = .awaiting other → status.undisposed = true)
      (core.awaiting operation) (moves.undisposed operation)
  case tookBorn => exact core.tookBorn
  case placed =>
    exact update_everywhere (p := fun other status => status.alive = true →
      cache.current = some other ∨ ∃ operation, cache.closing = some operation ∧
        (cache.operation operation = .awaiting other ∨
          cache.operation operation = .disposing other)) core.placed
      fun alive => core.placed index (moves.alive alive)
  case newest =>
    exact update_everywhere (p := fun other status => status.alive = true →
      other + 1 = cache.generations) core.newest fun alive => core.newest index (moves.alive alive)
  case answeredBorn => exact core.answeredBorn
  case getterAgrees =>
    exact fun getter => agrees_update moves.resource moves.failed (core.getterAgrees getter)

/-- `get` makes a generation where there is none and nothing is being closed. -/
theorem core_new (core : Core cache) (noCurrent : cache.current = none)
    (noClosing : cache.closing = none) :
    Core { cache.setGeneration cache.generations .scheduled with
      generations := cache.generations + 1, current := some cache.generations } := by
  have absent : cache.generation cache.generations = .absent :=
    (core.born _).mpr (Nat.le_refl _)
  have onlyNew : ∀ index, ((cache.setGeneration cache.generations .scheduled).generation
      index).alive = true → index = cache.generations := by
    intro index alive
    by_contra apart
    have before : (cache.generation index).alive = true := by
      simpa [Cache.setGeneration, Function.update_of_ne apart] using alive
    rcases core.placed index before with isCurrent | ⟨operation, isClosing, _⟩
    · rw [noCurrent] at isCurrent
      cases isCurrent
    · rw [noClosing] at isClosing
      cases isClosing
  constructor
  case born =>
    intro other
    by_cases same : other = cache.generations
    · subst same
      simp [Cache.setGeneration]
    · have before := core.born other
      simp only [Cache.setGeneration, Function.update_of_ne same, before]
      omega
  case factoryCalls =>
    refine update_everywhere (p := fun other status =>
      cache.factoryCalls other = status.factoryCalls) core.factoryCalls ?_
    rw [core.factoryCalls, absent]
    rfl
  case disposeCalls =>
    refine update_everywhere (p := fun other status =>
      cache.disposeCalls other = status.disposeCalls) core.disposeCalls ?_
    rw [core.disposeCalls, absent]
    rfl
  case operationBorn => exact core.operationBorn
  case closing => exact core.closing
  case exclusive => exact fun _ => noClosing
  case currentUsable =>
    intro index isCurrent
    cases isCurrent
    simp [Cache.setGeneration, Generation.usable]
  case currentFresh =>
    intro index isCurrent operation took
    cases isCurrent
    exact Nat.lt_irrefl _ (core.tookBorn operation _ took)
  case awaiting =>
    intro operation
    exact update_everywhere (p := fun other status =>
      cache.operation operation = .awaiting other → status.undisposed = true)
      (core.awaiting operation) fun _ => rfl
  case tookBorn =>
    exact fun operation index took => Nat.lt_succ_of_lt (core.tookBorn operation index took)
  case placed => exact fun index alive => Or.inl (congrArg some (onlyNew index alive).symm)
  case newest => exact fun index alive => congrArg (· + 1) (onlyNew index alive)
  case answeredBorn =>
    exact fun getter index answered => Nat.lt_succ_of_lt (core.answeredBorn getter index answered)
  case getterAgrees =>
    refine fun getter => agrees_update ?_ ?_ (core.getterAgrees getter)
    · rw [absent]
      nofun
    · rw [absent]
      nofun

theorem core_operation {index : Nat} {later : Operation} (core : Core cache)
    (present : cache.operation index ≠ .absent ∧ later ≠ .absent)
    (pending : later.pending = (cache.operation index).pending)
    (took : later.took = (cache.operation index).took)
    (awaiting : ∀ generation, later = .awaiting generation →
      (cache.generation generation).undisposed = true)
    (placed : ∀ generation, (cache.generation generation).alive = true →
      cache.operation index = .awaiting generation ∨ cache.operation index = .disposing generation →
      later = .awaiting generation ∨ later = .disposing generation) :
    Core (cache.setOperation index later) := by
  have sameTook : ∀ other, ((cache.setOperation index later).operation other).took =
      (cache.operation other).took := by
    intro other
    by_cases same : other = index
    · simp [same, Cache.setOperation, took]
    · simp [same, Cache.setOperation]
  constructor
  case born => exact core.born
  case factoryCalls => exact core.factoryCalls
  case disposeCalls => exact core.disposeCalls
  case operationBorn =>
    intro other
    by_cases same : other = index
    · have before := core.operationBorn other
      subst same
      simp only [Cache.setOperation, Function.update_self]
      exact ⟨fun absent => absurd absent present.2, fun late =>
        absurd (before.mpr late) present.1⟩
    · simpa [Cache.setOperation, Function.update_of_ne same] using core.operationBorn other
  case closing =>
    intro other
    by_cases same : other = index
    · simpa [same, Cache.setOperation, pending] using core.closing index
    · simpa [same, Cache.setOperation] using core.closing other
  case exclusive => exact core.exclusive
  case currentUsable => exact core.currentUsable
  case currentFresh =>
    intro generation isCurrent other
    rw [sameTook]
    exact core.currentFresh generation isCurrent other
  case awaiting =>
    intro other generation awaits
    by_cases same : other = index
    · exact awaiting generation (by simpa [same, Cache.setOperation] using awaits)
    · exact core.awaiting other generation (by simpa [same, Cache.setOperation] using awaits)
  case tookBorn =>
    intro other generation
    rw [sameTook]
    exact core.tookBorn other generation
  case placed =>
    intro generation alive
    rcases core.placed generation alive with isCurrent | ⟨operation, isClosing, doing⟩
    · exact Or.inl isCurrent
    · refine Or.inr ⟨operation, isClosing, ?_⟩
      by_cases same : operation = index
      · subst same
        simpa [Cache.setOperation] using placed generation alive doing
      · simpa [Cache.setOperation, Function.update_of_ne same] using doing
  case newest => exact core.newest
  case answeredBorn => exact core.answeredBorn
  case getterAgrees => exact core.getterAgrees

theorem pending_unique {left right : Nat} (core : Core cache)
    (leftPending : (cache.operation left).pending = true)
    (rightPending : (cache.operation right).pending = true) : left = right := by
  have leftClosing := (core.closing left).mpr leftPending
  rw [(core.closing right).mpr rightPending] at leftClosing
  exact (Option.some.inj leftClosing).symm

theorem core_getter {getter : Nat} {status : Getter Resource} (core : Core cache)
    (born : ∀ index, status.answeredBy = some index → index < cache.generations)
    (agrees : status.agrees cache.generation) : Core (cache.setGetter getter status) := by
  refine ⟨core.born, core.factoryCalls, core.disposeCalls, core.operationBorn, core.closing,
    core.exclusive, core.currentUsable, core.currentFresh, core.awaiting, core.tookBorn,
    core.placed, core.newest, ?_, ?_⟩
  · intro other index answered
    by_cases same : other = getter
    · refine born index ?_
      simpa [same, Cache.setGetter] using answered
    · refine core.answeredBorn other index ?_
      simpa [same, Cache.setGetter] using answered
  · intro other
    by_cases same : other = getter
    · simpa [same, Cache.setGetter] using agrees
    · simpa [same, Cache.setGetter] using core.getterAgrees other

theorem core_close (core : Core cache) : Core (close cache) := by
  unfold close
  cases isClosing : cache.closing with
  | some _ => exact core
  | none =>
      have nonePending : ∀ index, (cache.operation index).pending ≠ true := by
        intro index pending
        rw [← core.closing, isClosing] at pending
        cases pending
      have fresh : cache.operation cache.operations = .absent :=
        (core.operationBorn _).mpr (Nat.le_refl _)
      dsimp only
      obtain ⟨status, isStatus⟩ : ∃ status, (match cache.current with
        | some generation => Operation.awaiting generation
        | none => .settled none true) = status := ⟨_, rfl⟩
      rw [isStatus]
      have took : status.took = cache.current ∧ status.pending = true ∧ status ≠ .absent ∧
          ∀ index, cache.current = some index → status = .awaiting index := by
        cases current : cache.current with
        | none =>
            rw [current] at isStatus
            subst isStatus
            exact ⟨rfl, rfl, nofun, nofun⟩
        | some generation =>
            rw [current] at isStatus
            subst isStatus
            exact ⟨rfl, rfl, nofun, fun index same => congrArg _ (Option.some.inj same)⟩
      obtain ⟨took, pending, present, awaits⟩ := took
      constructor
      case born => exact core.born
      case factoryCalls => exact core.factoryCalls
      case disposeCalls => exact core.disposeCalls
      case operationBorn =>
        intro other
        by_cases same : other = cache.operations
        · simp [same, Cache.setOperation, present]
        · have before := core.operationBorn other
          simp only [Cache.setOperation, Function.update_of_ne same, before]
          omega
      case closing =>
        intro other
        by_cases same : other = cache.operations
        · simp [same, Cache.setOperation, pending]
        · have idle := nonePending other
          simp [Cache.setOperation, Function.update_of_ne same, idle, Ne.symm same]
      case exclusive => exact fun current => absurd rfl current
      case currentUsable => exact nofun
      case currentFresh => exact nofun
      case awaiting =>
        intro other generation isAwaiting
        by_cases same : other = cache.operations
        · have awaited : status = .awaiting generation := by
            simpa [same, Cache.setOperation] using isAwaiting
          have isCurrent : cache.current = some generation := by
            rw [← took, awaited]
            rfl
          have usable := core.currentUsable generation isCurrent
          show (cache.generation generation).undisposed = true
          cases kind : cache.generation generation with
          | disposing resource =>
              rw [kind] at usable
              cases usable
          | disposed resource =>
              rw [kind] at usable
              cases usable
          | absent =>
              rw [kind] at usable
              cases usable
          | _ => rfl
        · exact core.awaiting other generation
            (by simpa [same, Cache.setOperation] using isAwaiting)
      case tookBorn =>
        intro other generation isTook
        by_cases same : other = cache.operations
        · have isCurrent : cache.current = some generation := by
            rw [← took]
            simpa [same, Cache.setOperation] using isTook
          by_contra late
          have usable := core.currentUsable generation isCurrent
          rw [(core.born generation).mpr (Nat.le_of_not_lt late)] at usable
          cases usable
        · exact core.tookBorn other generation (by simpa [same, Cache.setOperation] using isTook)
      case placed =>
        intro generation alive
        rcases core.placed generation alive with isCurrent | ⟨operation, busy, _⟩
        · refine Or.inr ⟨cache.operations, rfl, Or.inl ?_⟩
          simp [Cache.setOperation, awaits generation isCurrent]
        · rw [isClosing] at busy
          cases busy
      case newest => exact core.newest
      case answeredBorn => exact core.answeredBorn
      case getterAgrees => exact core.getterAgrees

/-- `clearClosing` of the operation that `closing` holds. -/
theorem core_clear {index : Nat} {took : Option Nat} {succeeded : Bool} (core : Core cache)
    (settled : cache.operation index = .settled took succeeded) :
    Core { cache.setOperation index (.cleared took succeeded) with
      closing := if cache.closing = some index then none else cache.closing } := by
  have pending : (cache.operation index).pending = true := by
    rw [settled]
    rfl
  have isClosing := (core.closing index).mpr pending
  have sameTook : ∀ other, ((cache.setOperation index
      (.cleared took succeeded)).operation other).took = (cache.operation other).took := by
    intro other
    by_cases same : other = index
    · simp [same, Cache.setOperation, settled, Operation.took]
    · simp [same, Cache.setOperation]
  rw [if_pos isClosing]
  constructor
  case born => exact core.born
  case factoryCalls => exact core.factoryCalls
  case disposeCalls => exact core.disposeCalls
  case operationBorn =>
    intro other
    by_cases same : other = index
    · have before := core.operationBorn other
      rw [same, settled] at before
      simpa [same, Cache.setOperation] using before
    · simpa [Cache.setOperation, Function.update_of_ne same] using core.operationBorn other
  case closing =>
    intro other
    by_cases same : other = index
    · simp [same, Cache.setOperation, Operation.pending]
    · have idle : (cache.operation other).pending ≠ true := fun busy =>
        same (pending_unique core busy pending)
      simp [Cache.setOperation, Function.update_of_ne same, idle]
  case exclusive => exact fun _ => rfl
  case currentUsable => exact core.currentUsable
  case currentFresh =>
    intro generation isCurrent other
    rw [sameTook]
    exact core.currentFresh generation isCurrent other
  case awaiting =>
    intro other generation awaits
    by_cases same : other = index
    · simp [same, Cache.setOperation] at awaits
    · exact core.awaiting other generation (by simpa [same, Cache.setOperation] using awaits)
  case tookBorn =>
    intro other generation
    rw [sameTook]
    exact core.tookBorn other generation
  case placed =>
    intro generation alive
    rcases core.placed generation alive with isCurrent | ⟨operation, busy, doing⟩
    · exact Or.inl isCurrent
    · rw [isClosing] at busy
      cases busy
      rw [settled] at doing
      rcases doing with impossible | impossible <;> cases impossible
  case newest => exact core.newest
  case answeredBorn => exact core.answeredBorn
  case getterAgrees => exact core.getterAgrees

/-- A generation that is not alive may leave `current`. -/
theorem core_drop {index : Nat} (core : Core cache) (isCurrent : cache.current = some index)
    (dead : (cache.generation index).alive = false) : Core { cache with current := none } := by
  refine ⟨core.born, core.factoryCalls, core.disposeCalls, core.operationBorn, core.closing,
    fun current => absurd rfl current, nofun, nofun, core.awaiting, core.tookBorn, ?_,
    core.newest, core.answeredBorn, core.getterAgrees⟩
  intro generation alive
  rcases core.placed generation alive with same | closing
  · rw [isCurrent] at same
    cases same
    rw [dead] at alive
    cases alive
  · exact Or.inr closing

theorem acquire_core (getter : Nat) (core : Core cache) : Core (acquire cache getter) := by
  unfold acquire
  split
  · exact core_getter core nofun trivial
  next noClosing =>
    split
    next generation isCurrent =>
      refine core_getter core ?_ trivial
      rintro _ ⟨⟩
      by_contra late
      have usable := core.currentUsable generation isCurrent
      rw [(core.born generation).mpr (Nat.le_of_not_lt late)] at usable
      cases usable
    next noCurrent =>
      refine core_getter (core_new core noCurrent noClosing) ?_ trivial
      rintro _ ⟨⟩
      exact Nat.lt_succ_self _

/-- The generation a close disposes of is not in use, and no close waits for it. -/
theorem disposing_place {operation generation : Nat} (core : Core cache)
    (disposing : cache.operation operation = .disposing generation) :
    cache.current ≠ some generation ∧
      ∀ other, cache.operation other ≠ .awaiting generation := by
  constructor
  · intro isCurrent
    refine core.currentFresh generation isCurrent operation ?_
    rw [disposing]
    rfl
  · intro other awaits
    have same : other = operation := by
      refine pending_unique core ?_ ?_
      · rw [awaits]
        rfl
      · rw [disposing]
        rfl
    rw [same, disposing] at awaits
    cases awaits

theorem resume_close_core {operation generation : Nat} {next : Cache Resource} (core : Core cache)
    (awaiting : cache.operation operation = .awaiting generation)
    (taken : resumeClose cache operation generation = some next) : Core next := by
  have pending : (cache.operation operation).pending = true := by
    rw [awaiting]
    rfl
  have took : (cache.operation operation).took = some generation := by
    rw [awaiting]
    rfl
  have present : cache.operation operation ≠ .absent := by
    rw [awaiting]
    nofun
  unfold resumeClose at taken
  split at taken
  next resource live =>
    cases taken
    have disposing : Core (cache.setOperation operation (.disposing generation)) := by
      refine core_operation core ⟨present, nofun⟩ pending.symm took.symm nofun ?_
      rw [awaiting]
      rintro _ _ (⟨⟨⟩⟩ | impossible)
      · exact Or.inr rfl
      · cases impossible
    have isDisposing : (cache.setOperation operation (.disposing generation)).operation operation =
        .disposing generation := Function.update_self _ _ _
    obtain ⟨notCurrent, notAwaited⟩ := disposing_place disposing isDisposing
    refine @core_generation _ _ _ (.disposing resource) _ _ disposing
      ⟨⟨?_, nofun⟩, fun isCurrent => absurd isCurrent notCurrent,
        fun other awaits => absurd awaits (notAwaited other), fun _ => ?_, ?_, ?_⟩ ?_ ?_
    · exact fun absent => nomatch live.symm.trans absent
    · exact congrArg Generation.alive live
    · intro held same
      rw [← same]
      exact (congrArg Generation.resource live).symm
    · exact fun failed => nomatch live.symm.trans failed
    · refine update_everywhere (p := fun other status =>
        cache.factoryCalls other = status.factoryCalls) core.factoryCalls ?_
      rw [core.factoryCalls, live]
      rfl
    · intro other
      by_cases same : other = generation
      · have before := core.disposeCalls generation
        rw [live] at before
        simp [same, before, Generation.disposeCalls, Cache.setOperation]
      · simp only [Function.update_of_ne same]
        exact core.disposeCalls other
  next failed =>
    cases taken
    refine core_operation core ⟨present, nofun⟩ pending.symm took.symm nofun ?_
    rw [awaiting]
    rintro _ alive (⟨⟨⟩⟩ | impossible)
    · rw [failed] at alive
      cases alive
    · cases impossible
  next => cases taken

/-- The disposal settles, well or not. -/
theorem core_disposed {operation generation : Nat} {resource : Resource} (succeeded : Bool)
    (core : Core cache) (disposing : cache.operation operation = .disposing generation)
    (isDisposing : cache.generation generation = .disposing resource) :
    Core ((cache.setGeneration generation (.disposed resource)).setOperation operation
      (.settled (some generation) succeeded)) := by
  obtain ⟨notCurrent, notAwaited⟩ := disposing_place core disposing
  have disposed : Core (cache.setGeneration generation (.disposed resource)) := by
    refine core_generation core ⟨⟨?_, nofun⟩, fun isCurrent => absurd isCurrent notCurrent,
      fun other awaits => absurd awaits (notAwaited other), nofun, ?_, ?_⟩ ?_ ?_
    · rw [isDisposing]
      nofun
    · rw [isDisposing]
      exact fun _ same => same
    · rw [isDisposing]
      nofun
    · refine update_everywhere (p := fun other status =>
        cache.factoryCalls other = status.factoryCalls) core.factoryCalls ?_
      rw [core.factoryCalls, isDisposing]
      rfl
    · refine update_everywhere (p := fun other status =>
        cache.disposeCalls other = status.disposeCalls) core.disposeCalls ?_
      rw [core.disposeCalls, isDisposing]
      rfl
  have same : (cache.setGeneration generation (.disposed resource)).operation operation =
      .disposing generation := disposing
  refine core_operation disposed ⟨?_, nofun⟩ ?_ ?_ nofun ?_
  · rw [same]
    nofun
  · rw [same]
    rfl
  · rw [same]
    rfl
  · rw [same]
    rintro _ alive (impossible | ⟨⟨⟩⟩)
    · cases impossible
    · simp [Cache.setGeneration, Generation.alive] at alive

theorem core_catch {generation : Nat} (core : Core cache)
    (failed : cache.generation generation = .failed false) :
    Core { cache.setGeneration generation (.failed true) with
      current := if cache.current = some generation then none else cache.current } := by
  have dropped : Core { cache with
      current := if cache.current = some generation then none else cache.current } := by
    split_ifs with isCurrent
    · refine core_drop core isCurrent ?_
      rw [failed]
      rfl
    · exact core
  refine core_generation dropped ⟨⟨?_, nofun⟩, ?_, fun _ _ => rfl, nofun, ?_, fun _ => rfl⟩ ?_ ?_
  · exact fun absent => nomatch failed.symm.trans absent
  · intro isCurrent
    dsimp only at isCurrent
    split_ifs at isCurrent with same
    exact absurd isCurrent same
  · intro resource held
    exact nomatch (congrArg Generation.resource failed).symm.trans held
  · refine update_everywhere (p := fun other status =>
      cache.factoryCalls other = status.factoryCalls) core.factoryCalls ?_
    rw [core.factoryCalls, failed]
    rfl
  · refine update_everywhere (p := fun other status =>
      cache.disposeCalls other = status.disposeCalls) core.disposeCalls ?_
    rw [core.disposeCalls, failed]
    rfl

theorem core_call {generation : Nat} (core : Core cache)
    (scheduled : cache.generation generation = .scheduled) :
    Core { cache.setGeneration generation .creating with
      factoryCalls := Function.update cache.factoryCalls generation
        (cache.factoryCalls generation + 1) } := by
  refine core_generation core ⟨⟨?_, nofun⟩, fun _ => rfl, fun _ _ => rfl, ?_, ?_, ?_⟩ ?_ ?_
  · rw [scheduled]
    nofun
  · rw [scheduled]
    exact fun _ => rfl
  · rw [scheduled]
    nofun
  · rw [scheduled]
    nofun
  · intro other
    by_cases same : other = generation
    · simp [same, core.factoryCalls, scheduled, Generation.factoryCalls]
    · simp [Function.update_of_ne same, core.factoryCalls]
  · refine update_everywhere (p := fun other status =>
      cache.disposeCalls other = status.disposeCalls) core.disposeCalls ?_
    rw [core.disposeCalls, scheduled]
    rfl

/-- The factory's promise settles. -/
theorem core_created {generation : Nat} {later : Generation Resource} (core : Core cache)
    (creating : cache.generation generation = .creating)
    (settles : later = .failed false ∨ ∃ resource, later = .live resource) :
    Core (cache.setGeneration generation later) := by
  have facts : later ≠ .absent ∧ later.usable = true ∧ later.undisposed = true ∧
      later.factoryCalls = 1 ∧ later.disposeCalls = 0 := by
    rcases settles with rfl | ⟨resource, rfl⟩
    · exact ⟨nofun, rfl, rfl, rfl, rfl⟩
    · exact ⟨nofun, rfl, rfl, rfl, rfl⟩
  obtain ⟨present, usable, undisposed, called, disposed⟩ := facts
  refine core_generation core ⟨⟨?_, present⟩, fun _ => usable, fun _ _ => undisposed, ?_, ?_, ?_⟩
    ?_ ?_
  · rw [creating]
    nofun
  · rw [creating]
    exact fun _ => rfl
  · rw [creating]
    nofun
  · rw [creating]
    nofun
  · refine update_everywhere (p := fun other status =>
      cache.factoryCalls other = status.factoryCalls) core.factoryCalls ?_
    rw [core.factoryCalls, creating, called]
    rfl
  · refine update_everywhere (p := fun other status =>
      cache.disposeCalls other = status.disposeCalls) core.disposeCalls ?_
    rw [core.disposeCalls, creating, disposed]
    rfl

theorem deliver_core {getter generation : Nat} {next : Cache Resource} (core : Core cache)
    (answered : cache.getter getter = .answered generation)
    (taken : deliver cache getter generation = some next) : Core next := by
  have born : ∀ index, (some generation : Option Nat) = some index → index < cache.generations := by
    rintro _ ⟨⟩
    refine core.answeredBorn getter generation ?_
    rw [answered]
    rfl
  unfold deliver at taken
  split at taken
  case h_5 => cases taken
  case h_4 failed =>
    cases taken
    exact core_getter core born failed
  all_goals
    next held =>
      cases taken
      refine core_getter core born ?_
      simp [Getter.agrees, held, Generation.resource]

/-- The number of a call says nothing of the generations. -/
theorem core_getters (core : Core cache) (getters : Nat) :
    Core { cache with getters := getters } :=
  ⟨core.born, core.factoryCalls, core.disposeCalls, core.operationBorn, core.closing,
    core.exclusive, core.currentUsable, core.currentFresh, core.awaiting, core.tookBorn,
    core.placed, core.newest, core.answeredBorn, core.getterAgrees⟩

/-- Every callback and every call keeps the invariant. -/
theorem step_core {action : Action Resource} {next : Cache Resource} (core : Core cache)
    (taken : step cache action = some next) : Core next := by
  cases action with
  | get =>
      cases taken
      exact acquire_core _ (core_getters core _)
  | close =>
      cases taken
      exact core_close core
  | callFactory generation =>
      simp only [step] at taken
      split at taken
      next scheduled =>
        cases taken
        exact core_call core scheduled
      next => cases taken
  | create generation resource =>
      simp only [step] at taken
      split at taken
      next creating =>
        cases taken
        exact core_created core creating (Or.inr ⟨resource, rfl⟩)
      next => cases taken
  | failCreation generation =>
      simp only [step] at taken
      split at taken
      next creating =>
        cases taken
        exact core_created core creating (Or.inl rfl)
      next => cases taken
  | runCatch generation =>
      simp only [step] at taken
      split at taken
      next failed =>
        cases taken
        exact core_catch core failed
      next => cases taken
  | resumeClose operation =>
      simp only [step] at taken
      split at taken
      next generation awaiting => exact resume_close_core core awaiting taken
      next => cases taken
  | settleDispose operation succeeded =>
      simp only [step] at taken
      split at taken
      next generation disposing =>
        split at taken
        next resource isDisposing =>
          cases taken
          exact core_disposed succeeded core disposing isDisposing
        next => cases taken
      next => cases taken
  | clearClosing operation =>
      simp only [step] at taken
      split at taken
      next took succeeded settled =>
        cases taken
        exact core_clear core settled
      next => cases taken
  | resumeGet getter =>
      simp only [step] at taken
      split at taken
      next operation waiting =>
        split at taken
        next =>
          cases taken
          exact acquire_core getter core
        next =>
          cases taken
          exact core_getter core nofun trivial
        next => cases taken
      next => cases taken
  | deliver getter =>
      simp only [step] at taken
      split at taken
      next generation answered => exact deliver_core core answered taken
      next => cases taken

end Invariants

end CommitmentOptimizer.Shared.ManagedCache
