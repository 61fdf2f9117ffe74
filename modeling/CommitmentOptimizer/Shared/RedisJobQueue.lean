import Mathlib.Data.List.Nodup
import CommitmentOptimizer.Foundations.FaultyWorkers
import CommitmentOptimizer.Foundations.Json
import CommitmentOptimizer.Foundations.SqlConstraints

/-!
# The job queue on Redis

`enqueue` of `createRedisJobQueue` in `jobQueue.ts`, one command after the other, by
any number of producers within the lifetime of their reservations. Consumers take
entries from the lists.
-/

namespace CommitmentOptimizer.Shared.RedisJobQueue

open Foundations
open Foundations.Schedules
open Foundations.SqlConstraints
open Foundations.FaultyWorkers

set_option autoImplicit false

section Model

structure EnqueueRequest where
  name : String
  payload : Json
  idempotencyKey : String
  deriving DecidableEq

/-- An element of a list, as the JSON text that is pushed. -/
structure JobEntry where
  jobId : Uuid
  name : String
  payload : Json
  enqueuedAt : Int
  deriving DecidableEq

/-- The keys and lists of the server, and what has happened: the requests that were taken
up, the identifiers drawn, the reservations whose entry has not been pushed, the entries
pushed, those that consumers removed, and the accepted results. -/
structure QueueState where
  reservations : String → Option Uuid
  lists : String → List JobEntry
  requests : List EnqueueRequest
  drawn : List Uuid
  unpushed : List Uuid
  pushed : List (String × Uuid)
  removed : List (String × Uuid)
  accepted : List (String × Uuid)

/-- What one `enqueue` does next. -/
inductive EnqueuePhase where
  | connecting (request : EnqueueRequest)
  | reading (request : EnqueueRequest) (jobId : Uuid)
  | reserving (request : EnqueueRequest) (jobId : Uuid)
  | rereading (request : EnqueueRequest) (jobId : Uuid)
  | pushing (request : EnqueueRequest) (jobId : Uuid)
  | trimming (request : EnqueueRequest) (jobId : Uuid)
  | returning (name : String) (jobId : Uuid)

/-- What `randomUUID` and the clock give. -/
structure EnqueueInput where
  jobId : Uuid
  now : Int

inductive ConsumerEvent where
  | remove (name : String) (index : Nat)

/-- `idempotencyKey`, with the digest as a parameter. -/
def reservationKey (sha256 : String → String) (request : EnqueueRequest) : String :=
  "ccpo:job:idempotency:" ++ sha256 (request.name ++ "\x00" ++ request.idempotencyKey)

def maxEntries : Nat := 10000

/-- One command of `enqueue`; `none` where it throws. -/
def enqueueOperate (sha256 : String → String) (input : EnqueueInput) (state : QueueState) :
    EnqueuePhase → Option (QueueState × Option EnqueuePhase)
  | .connecting request =>
      if jsTrim request.idempotencyKey.toList = [] then none
      else some ({ state with
          requests := state.requests ++ [request]
          drawn := state.drawn ++ [input.jobId] },
        some (.reading request input.jobId))
  | .reading request jobId =>
      match state.reservations (reservationKey sha256 request) with
      | some existing => some (state, some (.returning request.name existing))
      | none => some (state, some (.reserving request jobId))
  | .reserving request jobId =>
      match state.reservations (reservationKey sha256 request) with
      | some _ => some (state, some (.rereading request jobId))
      | none => some ({ state with
          reservations := Function.update state.reservations (reservationKey sha256 request)
            (some jobId)
          unpushed := state.unpushed ++ [jobId] },
        some (.pushing request jobId))
  | .rereading request _ =>
      (state.reservations (reservationKey sha256 request)).map fun concurrent =>
        (state, some (.returning request.name concurrent))
  | .pushing request jobId =>
      let entry : JobEntry := ⟨jobId, request.name, request.payload, input.now⟩
      some ({ state with
          lists := Function.update state.lists request.name (entry :: state.lists request.name)
          unpushed := state.unpushed.filter (· ≠ jobId)
          pushed := state.pushed ++ [(request.name, jobId)] },
        some (.trimming request jobId))
  | .trimming request jobId =>
      some ({ state with
          lists := Function.update state.lists request.name
            ((state.lists request.name).take maxEntries) },
        some (.returning request.name jobId))
  | .returning name jobId =>
      some ({ state with accepted := state.accepted ++ [(name, jobId)] }, none)

def consume (state : QueueState) : ConsumerEvent → Option QueueState
  | .remove name index =>
      ((state.lists name)[index]?).map fun entry => { state with
        lists := Function.update state.lists name ((state.lists name).eraseIdx index)
        removed := state.removed ++ [(name, entry.jobId)] }

def producers (sha256 : String → String) :
    Program QueueState EnqueuePhase EnqueueInput ConsumerEvent where
  entry phase := match phase with
    | .connecting _ => true
    | _ => false
  operate _ input phase state := enqueueOperate sha256 input state phase
  rescue _ := none
  environment event state := consume state event

abbrev QueueRun := State QueueState EnqueuePhase

abbrev QueueAction := Action EnqueuePhase EnqueueInput ConsumerEvent

def queueStart : QueueRun :=
  ⟨⟨fun _ => none, fun _ => [], [], [], [], [], [], []⟩, fun _ => none⟩

end Model

section Statement

/-- Every accepted job has been pushed once, to the list of its name, and is there until a
consumer removes it. -/
def NothingLost (state : QueueState) : Prop :=
  ∀ accepted ∈ state.accepted,
    state.pushed.countP (·.2 = accepted.2) = 1 ∧ accepted ∈ state.pushed ∧
      (accepted.2 ∈ (state.lists accepted.1).map JobEntry.jobId ∨ accepted ∈ state.removed)

/-- `randomUUID` does not repeat itself. -/
def DrawsNew (run : QueueRun) : QueueAction → Prop
  | .advance worker input _ =>
      match run.workers worker with
      | some (.connecting _) => input.jobId ∉ run.shared.drawn
      | _ => True
  | _ => True

/-- The condition on a command. A request's reservation key is not that of a request for
another queue; the reservation that a GET answers with belongs to an entry that has been
pushed; an LTRIM finds no more entries than it keeps. -/
def CommandSound (sha256 : String → String) (state : QueueState) (fault : Fault) :
    EnqueuePhase → Prop
  | .connecting request => ∀ earlier ∈ state.requests,
      reservationKey sha256 earlier = reservationKey sha256 request → earlier.name = request.name
  | .reading request _ | .rereading request _ => fault = .absent →
      ∀ jobId ∈ state.unpushed,
        state.reservations (reservationKey sha256 request) ≠ some jobId
  | .trimming request _ => fault ≠ .beforeEffect →
      (state.lists request.name).length ≤ maxEntries
  | .reserving _ _ | .pushing _ _ | .returning _ _ => True

def FindsPushed (sha256 : String → String) (run : QueueRun) : QueueAction → Prop
  | .advance worker _ fault =>
      match run.workers worker with
      | some phase => CommandSound sha256 run.shared fault phase
      | none => True
  | _ => True

instance (run : QueueRun) (action : QueueAction) : Decidable (DrawsNew run action) := by
  unfold DrawsNew
  split
  · split <;> infer_instance
  · infer_instance

instance (sha256 : String → String) (state : QueueState) (fault : Fault) :
    (phase : EnqueuePhase) → Decidable (CommandSound sha256 state fault phase)
  | .connecting request => inferInstanceAs (Decidable (∀ earlier ∈ state.requests,
      reservationKey sha256 earlier = reservationKey sha256 request →
        earlier.name = request.name))
  | .reading request _ | .rereading request _ => inferInstanceAs (Decidable (fault = .absent →
      ∀ jobId ∈ state.unpushed,
        state.reservations (reservationKey sha256 request) ≠ some jobId))
  | .trimming request _ => inferInstanceAs (Decidable (fault ≠ .beforeEffect →
      (state.lists request.name).length ≤ maxEntries))
  | .reserving _ _ | .pushing _ _ | .returning _ _ => isTrue trivial

instance (sha256 : String → String) (run : QueueRun) (action : QueueAction) :
    Decidable (FindsPushed sha256 run action) := by
  unfold FindsPushed
  split
  · split <;> infer_instance
  · infer_instance

end Statement

section Invariant

variable {sha256 : String → String} {state next : QueueState} {phase : EnqueuePhase}

/-- The identifier of a job that has not been pushed. -/
def ownId : EnqueuePhase → Option Uuid
  | .reading _ jobId | .reserving _ jobId | .rereading _ jobId | .pushing _ jobId => some jobId
  | .connecting _ | .trimming _ _ | .returning _ _ => none

def Present (state : QueueState) (entry : String × Uuid) : Prop :=
  entry.2 ∈ (state.lists entry.1).map JobEntry.jobId ∨ entry ∈ state.removed

structure Invariant (sha256 : String → String) (state : QueueState) : Prop where
  names : ∀ first ∈ state.requests, ∀ second ∈ state.requests,
    reservationKey sha256 first = reservationKey sha256 second → first.name = second.name
  reserved : ∀ key jobId, state.reservations key = some jobId → ∃ request ∈ state.requests,
    reservationKey sha256 request = key ∧
      ((request.name, jobId) ∈ state.pushed ∨ jobId ∈ state.unpushed)
  once : ∀ first second jobId, state.reservations first = some jobId →
    state.reservations second = some jobId → first = second
  distinct : (state.pushed.map Prod.snd).Nodup
  pushedDrawn : ∀ entry ∈ state.pushed, entry.2 ∈ state.drawn
  unpushedDrawn : ∀ jobId ∈ state.unpushed, jobId ∈ state.drawn
  present : ∀ entry ∈ state.pushed, Present state entry
  accepted : ∀ entry ∈ state.accepted, entry ∈ state.pushed

/-- A job on its way to the list: nobody else has its identifier. -/
structure OnItsWay (state : QueueState) (request : EnqueueRequest) (jobId : Uuid) : Prop where
  request : request ∈ state.requests
  drawn : jobId ∈ state.drawn
  unused : ∀ entry ∈ state.pushed, entry.2 ≠ jobId

def Unreserved (state : QueueState) (jobId : Uuid) : Prop :=
  ∀ key, state.reservations key ≠ some jobId

def Holds (sha256 : String → String) (_ : Nat) : EnqueuePhase → QueueState → Prop
  | .connecting _, _ => True
  | .reading request jobId, state | .reserving request jobId, state
  | .rereading request jobId, state => OnItsWay state request jobId ∧ Unreserved state jobId
  | .pushing request jobId, state => OnItsWay state request jobId ∧
      state.reservations (reservationKey sha256 request) = some jobId
  | .trimming request jobId, state => (request.name, jobId) ∈ state.pushed
  | .returning name jobId, state => (name, jobId) ∈ state.pushed

def Apart (first second : EnqueuePhase) : Prop :=
  ∀ jobId, ownId first = some jobId → ownId second ≠ some jobId

theorem apart_symm {first second : EnqueuePhase} (apart : Apart first second) :
    Apart second first :=
  fun jobId right left => apart jobId left right

/-- Nothing is taken back, and only the worker's own job is reserved and pushed. -/
structure Progress (own : Option Uuid) (state next : QueueState) : Prop where
  requests : state.requests ⊆ next.requests
  drawn : state.drawn ⊆ next.drawn
  pushed : state.pushed ⊆ next.pushed
  added : ∀ entry ∈ next.pushed, entry ∈ state.pushed ∨ own = some entry.2
  reserved : ∀ key jobId, state.reservations key = some jobId → next.reservations key = some jobId
  claimed : ∀ key jobId, next.reservations key = some jobId →
    state.reservations key = some jobId ∨ own = some jobId

theorem progress_refl (own : Option Uuid) (state : QueueState) : Progress own state state :=
  ⟨fun _ => id, fun _ => id, fun _ => id, fun _ => Or.inl, fun _ _ => id, fun _ _ => Or.inl⟩

theorem on_its_way_mono {own : Option Uuid} (progress : Progress own state next)
    {request : EnqueueRequest} {jobId : Uuid} (apart : own ≠ some jobId)
    (before : OnItsWay state request jobId) : OnItsWay next request jobId := by
  refine ⟨progress.requests before.request, progress.drawn before.drawn, fun entry member => ?_⟩
  rcases progress.added entry member with old | own
  · exact before.unused entry old
  · rintro rfl
    exact apart own

/-- Progress with one job disturbs no worker at another. -/
theorem holds_mono {own : Option Uuid} {worker : Nat} {other : EnqueuePhase}
    (progress : Progress own state next)
    (apart : ∀ jobId, ownId other = some jobId → own ≠ some jobId)
    (holds : Holds sha256 worker other state) : Holds sha256 worker other next := by
  cases other with
  | connecting => trivial
  | reading request jobId | reserving request jobId | rereading request jobId =>
      refine ⟨on_its_way_mono progress (apart jobId rfl) holds.1, fun key found => ?_⟩
      exact (progress.claimed key jobId found).elim (holds.2 key) (apart jobId rfl)
  | pushing request jobId =>
      exact ⟨on_its_way_mono progress (apart jobId rfl) holds.1,
        progress.reserved _ jobId holds.2⟩
  | trimming | returning => exact progress.pushed holds

end Invariant

section Commands

variable {sha256 : String → String} {state next : QueueState} {request : EnqueueRequest}
  {jobId : Uuid}

/-- A request is taken up under a new identifier. -/
theorem connect_invariant (invariant : Invariant sha256 state)
    (names : ∀ earlier ∈ state.requests,
      reservationKey sha256 earlier = reservationKey sha256 request → earlier.name = request.name) :
    Invariant sha256 { state with
      requests := state.requests ++ [request], drawn := state.drawn ++ [jobId] } := by
  refine ⟨fun first firstMember second secondMember same => ?_, fun key other found => ?_,
    invariant.once, invariant.distinct,
    fun entry member => List.mem_append_left _ (invariant.pushedDrawn entry member),
    fun other member => List.mem_append_left _ (invariant.unpushedDrawn other member),
    invariant.present, invariant.accepted⟩
  · rcases List.mem_append.mp firstMember with firstOld | firstNew
    · rcases List.mem_append.mp secondMember with secondOld | secondNew
      · exact invariant.names first firstOld second secondOld same
      · obtain rfl := List.mem_singleton.mp secondNew
        exact names first firstOld same
    · obtain rfl := List.mem_singleton.mp firstNew
      rcases List.mem_append.mp secondMember with secondOld | secondNew
      · exact (names second secondOld same.symm).symm
      · obtain rfl := List.mem_singleton.mp secondNew
        rfl
  · obtain ⟨owner, known, found⟩ := invariant.reserved key other found
    exact ⟨owner, List.mem_append_left _ known, found⟩

theorem reserve_invariant (invariant : Invariant sha256 state)
    (onItsWay : OnItsWay state request jobId) (unreserved : Unreserved state jobId) :
    Invariant sha256 { state with
      reservations := Function.update state.reservations (reservationKey sha256 request)
        (some jobId)
      unpushed := state.unpushed ++ [jobId] } := by
  refine ⟨invariant.names, fun key other found => ?_, fun first second other left right => ?_,
    invariant.distinct, invariant.pushedDrawn, fun other member => ?_, invariant.present,
    invariant.accepted⟩
  · dsimp only at found
    by_cases own : key = reservationKey sha256 request
    · subst own
      rw [Function.update_self, Option.some.injEq] at found
      subst found
      exact ⟨request, onItsWay.request, rfl,
        Or.inr (List.mem_append_right _ List.mem_cons_self)⟩
    · rw [Function.update_of_ne own] at found
      obtain ⟨owner, known, same, where'⟩ := invariant.reserved key other found
      exact ⟨owner, known, same, where'.imp_right fun old => List.mem_append_left _ old⟩
  · dsimp only at left right
    by_cases firstOwn : first = reservationKey sha256 request
    · by_cases secondOwn : second = reservationKey sha256 request
      · exact firstOwn.trans secondOwn.symm
      · subst firstOwn
        rw [Function.update_self, Option.some.injEq] at left
        rw [Function.update_of_ne secondOwn, ← left] at right
        exact absurd right (unreserved second)
    · rw [Function.update_of_ne firstOwn] at left
      by_cases secondOwn : second = reservationKey sha256 request
      · subst secondOwn
        rw [Function.update_self, Option.some.injEq] at right
        exact absurd (right ▸ left) (unreserved first)
      · rw [Function.update_of_ne secondOwn] at right
        exact invariant.once first second other left right
  · rcases List.mem_append.mp member with old | new
    · exact invariant.unpushedDrawn other old
    · obtain rfl := List.mem_singleton.mp new
      exact onItsWay.drawn

theorem push_invariant (invariant : Invariant sha256 state)
    (onItsWay : OnItsWay state request jobId)
    (own : state.reservations (reservationKey sha256 request) = some jobId) (now : Int) :
    Invariant sha256 { state with
      lists := Function.update state.lists request.name
        (⟨jobId, request.name, request.payload, now⟩ :: state.lists request.name)
      unpushed := state.unpushed.filter (· ≠ jobId)
      pushed := state.pushed ++ [(request.name, jobId)] } := by
  refine ⟨invariant.names, fun key other found => ?_, invariant.once, ?_, fun entry member => ?_,
    fun other member => invariant.unpushedDrawn other (List.mem_of_mem_filter member),
    fun entry member => ?_, fun entry member => List.mem_append_left _
      (invariant.accepted entry member)⟩
  · obtain ⟨owner, known, sameKey, where'⟩ := invariant.reserved key other found
    refine ⟨owner, known, sameKey, ?_⟩
    by_cases same : other = jobId
    · subst same
      have keys := invariant.once key _ other found own
      have names := invariant.names owner known request onItsWay.request (sameKey.trans keys)
      rw [names]
      exact Or.inl (List.mem_append_right _ List.mem_cons_self)
    · exact where'.imp (fun old => List.mem_append_left _ old)
        fun old => List.mem_filter.mpr ⟨old, decide_eq_true same⟩
  · rw [List.map_append, List.nodup_append]
    refine ⟨invariant.distinct, List.nodup_singleton _, fun first old second new same => ?_⟩
    obtain ⟨entry, member, rfl⟩ := List.mem_map.mp old
    obtain rfl := List.mem_singleton.mp new
    exact onItsWay.unused entry member same
  · rcases List.mem_append.mp member with old | new
    · exact invariant.pushedDrawn entry old
    · obtain rfl := List.mem_singleton.mp new
      exact onItsWay.drawn
  · unfold Present
    dsimp only
    by_cases same : entry.1 = request.name
    · rw [same, Function.update_self, List.map_cons, List.mem_cons]
      rcases List.mem_append.mp member with old | new
      · have before := invariant.present entry old
        unfold Present at before
        rw [same] at before
        exact before.imp_left Or.inr
      · obtain rfl := List.mem_singleton.mp new
        exact Or.inl (Or.inl rfl)
    · rw [Function.update_of_ne same]
      rcases List.mem_append.mp member with old | new
      · exact invariant.present entry old
      · obtain rfl := List.mem_singleton.mp new
        exact absurd rfl same

/-- A change of the lists that keeps every pushed entry in sight. -/
theorem lists_invariant (invariant : Invariant sha256 state) (lists : String → List JobEntry)
    (removed : List (String × Uuid))
    (present : ∀ entry, Present state entry →
      Present { state with lists := lists, removed := removed } entry) :
    Invariant sha256 { state with lists := lists, removed := removed } :=
  ⟨invariant.names, invariant.reserved, invariant.once, invariant.distinct, invariant.pushedDrawn,
    invariant.unpushedDrawn, fun entry member => present entry (invariant.present entry member),
    invariant.accepted⟩

theorem trim_invariant (invariant : Invariant sha256 state)
    (short : (state.lists request.name).length ≤ maxEntries) :
    Invariant sha256 { state with
      lists := Function.update state.lists request.name
        ((state.lists request.name).take maxEntries) } := by
  refine lists_invariant invariant _ state.removed fun entry => ?_
  rw [List.take_of_length_le short, Function.update_eq_self]
  exact id

theorem consume_progress {event : ConsumerEvent} (consumed : consume state event = some next) :
    Progress none state next := by
  obtain ⟨entry, -, rfl⟩ := Option.map_eq_some_iff.mp consumed
  exact ⟨fun _ => id, fun _ => id, fun _ => id, fun _ => Or.inl, fun _ _ => id, fun _ _ => Or.inl⟩

theorem consume_invariant {event : ConsumerEvent} (invariant : Invariant sha256 state)
    (consumed : consume state event = some next) : Invariant sha256 next := by
  obtain ⟨name, index⟩ := event
  obtain ⟨entry, found, rfl⟩ := Option.map_eq_some_iff.mp consumed
  refine lists_invariant invariant _ _ fun other present => ?_
  unfold Present at present ⊢
  dsimp only
  rcases present with listed | gone
  · by_cases same : other.1 = name
    · rw [same] at listed
      obtain ⟨stored, member, id⟩ := List.mem_map.mp listed
      by_cases taken : stored.jobId = entry.jobId
      · refine Or.inr (List.mem_append_right _ (List.mem_singleton.mpr ?_))
        exact Prod.ext same (id.symm.trans taken)
      · refine Or.inl ?_
        rw [same, Function.update_self]
        refine List.mem_map.mpr ⟨stored, ?_, id⟩
        rw [List.mem_eraseIdx_iff_getElem?]
        obtain ⟨position, inside⟩ := List.mem_iff_getElem?.mp member
        refine ⟨position, fun equal => ?_, inside⟩
        subst equal
        rw [found] at inside
        exact taken (congrArg JobEntry.jobId (Option.some.inj inside).symm)
    · refine Or.inl ?_
      rw [Function.update_of_ne same]
      exact listed
  · exact Or.inr (List.mem_append_left _ gone)

end Commands

section Runs

variable {sha256 : String → String} {state next : QueueState} {phase : EnqueuePhase}
  {input : EnqueueInput} {fault : Fault}

/-- What a command leaves for its own worker: its phase holds there, and its identifier is
the one it had or a new one. -/
def GoesOn (sha256 : String → String) (worker : Nat) (state : QueueState) (phase : EnqueuePhase)
    (next : QueueState) (onward : EnqueuePhase) : Prop :=
  Holds sha256 worker onward next ∧
    ∀ jobId, ownId onward = some jobId → ownId phase = some jobId ∨ jobId ∉ state.drawn

theorem own_drawn {worker : Nat} {jobId : Uuid} (holds : Holds sha256 worker phase state)
    (own : ownId phase = some jobId) : jobId ∈ state.drawn := by
  cases phase with
  | connecting | trimming | returning => cases own
  | reading | reserving | rereading | pushing =>
      obtain rfl := Option.some.inj own
      exact holds.1.drawn

/-- A reservation that a GET answers with has been pushed to the list of the request. -/
theorem found_pushed {request : EnqueueRequest} {jobId : Uuid}
    (invariant : Invariant sha256 state) (known : request ∈ state.requests)
    (pushed : ∀ jobId ∈ state.unpushed,
      state.reservations (reservationKey sha256 request) ≠ some jobId)
    (found : state.reservations (reservationKey sha256 request) = some jobId) :
    (request.name, jobId) ∈ state.pushed := by
  obtain ⟨owner, ownerKnown, sameKey, stored⟩ := invariant.reserved _ _ found
  rw [← invariant.names owner ownerKnown request known sameKey]
  exact stored.resolve_right fun member => pushed jobId member found

theorem command_keeps {worker : Nat} {after : Option EnqueuePhase}
    (invariant : Invariant sha256 state) (holds : Holds sha256 worker phase state)
    (new : ∀ request, phase = .connecting request → input.jobId ∉ state.drawn)
    (sound : CommandSound sha256 state fault phase) (effective : fault ≠ .beforeEffect)
    (operated : enqueueOperate sha256 input state phase = some (next, after)) :
    Invariant sha256 next ∧ Progress (ownId phase) state next ∧
      ∀ onward, fault = .absent → after = some onward →
        GoesOn sha256 worker state phase next onward := by
  cases phase with
  | connecting request =>
      simp only [enqueueOperate] at operated
      split_ifs at operated with blank
      obtain ⟨rfl, rfl⟩ := Prod.mk.inj (Option.some.inj operated)
      refine ⟨connect_invariant invariant sound, ?_, ?_⟩
      · exact ⟨List.subset_append_left _ _, List.subset_append_left _ _, fun _ => id,
          fun _ => Or.inl, fun _ _ => id, fun _ _ => Or.inl⟩
      · rintro onward - same
        obtain rfl := Option.some.inj same
        have fresh := new request rfl
        refine ⟨⟨⟨List.mem_append_right _ List.mem_cons_self,
          List.mem_append_right _ List.mem_cons_self, fun entry member same => ?_⟩,
          fun key found => ?_⟩, fun jobId own => Or.inr (Option.some.inj own ▸ fresh)⟩
        · exact fresh (same ▸ invariant.pushedDrawn entry member)
        · obtain ⟨owner, -, -, stored | waiting⟩ := invariant.reserved _ _ found
          · exact fresh (invariant.pushedDrawn _ stored)
          · exact fresh (invariant.unpushedDrawn _ waiting)
  | reading request jobId =>
      simp only [enqueueOperate] at operated
      split at operated <;> rename_i found <;>
        obtain ⟨rfl, rfl⟩ := Prod.mk.inj (Option.some.inj operated) <;>
        refine ⟨invariant, progress_refl _ _, fun onward answered same => ?_⟩ <;>
        obtain rfl := Option.some.inj same
      · exact ⟨found_pushed invariant holds.1.request (sound answered) found, nofun⟩
      · exact ⟨holds, fun _ => Or.inl⟩
  | reserving request jobId =>
      simp only [enqueueOperate] at operated
      split at operated <;> rename_i found <;>
        obtain ⟨rfl, rfl⟩ := Prod.mk.inj (Option.some.inj operated)
      · refine ⟨invariant, progress_refl _ _, fun onward _ same => ?_⟩
        obtain rfl := Option.some.inj same
        exact ⟨holds, fun _ => Or.inl⟩
      · refine ⟨reserve_invariant invariant holds.1 holds.2, ?_, fun onward _ same => ?_⟩
        · refine ⟨fun _ => id, fun _ => id, fun _ => id, fun _ => Or.inl,
            fun key other before => ?_, fun key other claimed => ?_⟩
          · have different : key ≠ reservationKey sha256 request := by
              rintro rfl
              rw [found] at before
              cases before
            exact (Function.update_of_ne different ..).trans before
          · by_cases own : key = reservationKey sha256 request
            · subst own
              dsimp only at claimed
              rw [Function.update_self] at claimed
              exact Or.inr claimed
            · exact Or.inl ((Function.update_of_ne own ..).symm.trans claimed)
        · obtain rfl := Option.some.inj same
          exact ⟨⟨⟨holds.1.request, holds.1.drawn, holds.1.unused⟩, Function.update_self ..⟩,
            fun _ => Or.inl⟩
  | rereading request jobId =>
      obtain ⟨concurrent, found, same⟩ := Option.map_eq_some_iff.mp operated
      obtain ⟨rfl, rfl⟩ := Prod.mk.inj same
      refine ⟨invariant, progress_refl _ _, fun onward answered same => ?_⟩
      obtain rfl := Option.some.inj same
      exact ⟨found_pushed invariant holds.1.request (sound answered) found, nofun⟩
  | pushing request jobId =>
      obtain ⟨rfl, rfl⟩ := Prod.mk.inj (Option.some.inj operated)
      refine ⟨push_invariant invariant holds.1 holds.2 input.now, ?_, fun onward _ same => ?_⟩
      · refine ⟨fun _ => id, fun _ => id, List.subset_append_left _ _, fun entry member => ?_,
          fun _ _ => id, fun _ _ => Or.inl⟩
        refine (List.mem_append.mp member).imp_right fun new => ?_
        obtain rfl := List.mem_singleton.mp new
        rfl
      · obtain rfl := Option.some.inj same
        exact ⟨List.mem_append_right _ List.mem_cons_self, nofun⟩
  | trimming request jobId =>
      obtain ⟨rfl, rfl⟩ := Prod.mk.inj (Option.some.inj operated)
      refine ⟨trim_invariant invariant (sound effective), ?_, fun onward _ same => ?_⟩
      · exact ⟨fun _ => id, fun _ => id, fun _ => id, fun _ => Or.inl, fun _ _ => id,
          fun _ _ => Or.inl⟩
      · obtain rfl := Option.some.inj same
        exact ⟨holds, nofun⟩
  | returning name jobId =>
      obtain ⟨rfl, rfl⟩ := Prod.mk.inj (Option.some.inj operated)
      refine ⟨⟨invariant.names, invariant.reserved, invariant.once, invariant.distinct,
        invariant.pushedDrawn, invariant.unpushedDrawn, invariant.present, fun entry member => ?_⟩,
        ?_, nofun⟩
      · rcases List.mem_append.mp member with old | new
        · exact invariant.accepted entry old
        · obtain rfl := List.mem_singleton.mp new
          exact holds
      · exact ⟨fun _ => id, fun _ => id, fun _ => id, fun _ => Or.inl, fun _ _ => id,
          fun _ _ => Or.inl⟩

variable {run later : QueueRun} {action : QueueAction}

abbrev ConsistentQueue (sha256 : String → String) (run : QueueRun) : Prop :=
  Consistent (Invariant sha256) (Holds sha256) Apart run

/-- An acknowledged command leaves its worker apart from the others. -/
theorem goes_on_apart {worker other : Nat} {onward otherPhase : EnqueuePhase}
    (goesOn : GoesOn sha256 worker state phase next onward) (apart : Apart phase otherPhase)
    (holds : Holds sha256 other otherPhase state) : Apart onward otherPhase := by
  intro jobId own shared
  rcases goesOn.2 jobId own with old | new
  · exact apart jobId old shared
  · exact new (own_drawn holds shared)

theorem advance_consistent {worker : Nat} (before : ConsistentQueue sha256 run)
    (busy : run.workers worker = some phase)
    (new : ∀ request, phase = .connecting request → input.jobId ∉ run.shared.drawn)
    (sound : CommandSound sha256 run.shared fault phase) {effect : QueueState}
    {onward : Option EnqueuePhase}
    (advanced : advance (producers sha256) worker input fault phase run.shared =
      (effect, onward)) :
    ConsistentQueue sha256 { run.setWorker worker onward with shared := effect } := by
  have unchanged : ConsistentQueue sha256 { run.setWorker worker none with shared := run.shared } :=
    consistent_setWorker apart_symm before.invariant (fun _ same => nomatch same)
      (fun _ _ _ other => before.holds other) (fun _ _ _ same => nomatch same) before.apart
  unfold advance at advanced
  cases operated : (producers sha256).operate worker input phase run.shared with
  | none =>
      rw [operated] at advanced
      obtain ⟨rfl, rfl⟩ : effect = run.shared ∧ onward = none := by
        cases fault <;> exact ⟨(Prod.mk.inj advanced).1.symm, (Prod.mk.inj advanced).2.symm⟩
      exact unchanged
  | some result =>
      obtain ⟨changed, after⟩ := result
      rw [operated] at advanced
      cases fault with
      | beforeEffect =>
          obtain ⟨rfl, rfl⟩ := Prod.mk.inj advanced
          exact unchanged
      | absent =>
          obtain ⟨rfl, rfl⟩ := Prod.mk.inj advanced
          obtain ⟨invariant, progress, goesOn⟩ := command_keeps before.invariant
            (before.holds busy) new sound nofun operated
          refine consistent_setWorker apart_symm invariant
            (fun later same => (goesOn later rfl same).1) ?_ ?_ before.apart
          · intro other otherPhase different otherBusy
            exact holds_mono progress
              (apart_symm (before.apart different.symm busy otherBusy))
              (before.holds otherBusy)
          · intro later other otherPhase same different otherBusy
            exact goes_on_apart (goesOn later rfl same)
              (before.apart different.symm busy otherBusy) (before.holds otherBusy)
      | afterEffect =>
          obtain ⟨rfl, rfl⟩ := Prod.mk.inj advanced
          obtain ⟨invariant, progress, -⟩ := command_keeps before.invariant
            (before.holds busy) new sound nofun operated
          refine consistent_setWorker apart_symm invariant (fun _ same => nomatch same) ?_
            (fun _ _ _ same => nomatch same) before.apart
          intro other otherPhase different otherBusy
          exact holds_mono progress (apart_symm (before.apart different.symm busy otherBusy))
            (before.holds otherBusy)

theorem step_consistent (before : ConsistentQueue sha256 run) (new : DrawsNew run action)
    (sound : FindsPushed sha256 run action)
    (taken : step (producers sha256) run action = some later) : ConsistentQueue sha256 later := by
  cases action with
  | call worker phase =>
      simp only [step] at taken
      split_ifs at taken with enabled
      obtain rfl := Option.some.inj taken
      obtain ⟨request, rfl⟩ : ∃ request, phase = .connecting request := by
        cases phase with
        | connecting request => exact ⟨request, rfl⟩
        | _ => cases enabled.2
      exact consistent_setWorker apart_symm before.invariant
        (fun _ same => Option.some.inj same ▸ trivial) (fun _ _ _ busy => before.holds busy)
        (fun _ _ _ same _ _ => Option.some.inj same ▸ fun _ own => by cases own) before.apart
  | advance worker input fault =>
      obtain ⟨phase, busy, rfl⟩ := Option.map_eq_some_iff.mp taken
      refine advance_consistent before busy ?_ ?_ rfl
      · rintro request rfl
        simp only [DrawsNew, busy] at new
        exact new
      · simp only [FindsPushed, busy] at sound
        exact sound
  | stop worker =>
      obtain rfl := Option.some.inj taken
      exact consistent_setWorker apart_symm before.invariant (fun _ same => by cases same)
        (fun _ _ _ busy => before.holds busy) (fun _ _ _ same => by cases same) before.apart
  | external event =>
      obtain ⟨shared, consumed, rfl⟩ := Option.map_eq_some_iff.mp taken
      refine ⟨consume_invariant before.invariant consumed, fun busy => ?_, before.apart⟩
      exact holds_mono (consume_progress consumed) (fun _ _ same => by cases same)
        (before.holds busy)

theorem nothing_lost (invariant : Invariant sha256 state) : NothingLost state := by
  intro entry accepted
  have pushed := invariant.accepted entry accepted
  refine ⟨?_, pushed, invariant.present entry pushed⟩
  have counted := List.count_eq_one_of_mem invariant.distinct (List.mem_map_of_mem pushed)
  rwa [List.count, List.countP_map] at counted

/-- In a run whose commands meet the condition every accepted job has been pushed once and
waits in its list until it is consumed. -/
theorem accepted_pushed_once (sha256 : String → String) (schedule : List QueueAction)
    (run : QueueRun)
    (sound : Along (step (producers sha256))
      (fun run action => DrawsNew run action ∧ FindsPushed sha256 run action) queueStart schedule)
    (arrived : execute (step (producers sha256)) queueStart schedule = some run) :
    NothingLost run.shared := by
  have initially : ConsistentQueue sha256 queueStart :=
    consistent_idle ⟨nofun, nofun, nofun, List.nodup_nil, nofun, nofun, nofun, nofun⟩
  have reached : ConsistentQueue sha256 run :=
    execute_preserves (fun _ _ _ before good taken => step_consistent before good.1 good.2 taken)
      initially sound arrived
  exact nothing_lost reached.invariant

/-- Two calls with one key; a failure of the LTRIM and a consumer come between them. -/
def repeatedSchedule : List QueueAction :=
  [.call 0 (.connecting ⟨"forecast", .null, "tenant-1"⟩)] ++
    List.replicate 4 (.advance 0 ⟨11, 0⟩ .absent) ++
    [.advance 0 ⟨11, 0⟩ .beforeEffect, .external (.remove "forecast" 0),
      .call 1 (.connecting ⟨"forecast", .null, "tenant-1"⟩)] ++
    List.replicate 3 (.advance 1 ⟨12, 5⟩ .absent)

theorem accepted_pushed_once_repeated :
    ∃ run, execute (step (producers id)) queueStart repeatedSchedule = some run ∧
      ("forecast", 11) ∈ run.shared.accepted ∧ NothingLost run.shared := by
  have accepted : (execute (step (producers id)) queueStart repeatedSchedule).any
      (fun run => decide (("forecast", 11) ∈ run.shared.accepted)) = true := by
    decide
  obtain ⟨run, arrived, member⟩ := (Option.any_eq_true _ _).mp accepted
  exact ⟨run, arrived, of_decide_eq_true member,
    accepted_pushed_once id repeatedSchedule run (by decide) arrived⟩

/-- The LPUSH fails after the reservation, and the call is repeated. -/
def crashedSchedule : List QueueAction :=
  [.call 0 (.connecting ⟨"forecast", .null, "tenant-1"⟩)] ++
    List.replicate 3 (.advance 0 ⟨11, 0⟩ .absent) ++
    [.advance 0 ⟨11, 0⟩ .beforeEffect,
      .call 0 (.connecting ⟨"forecast", .null, "tenant-1"⟩)] ++
    List.replicate 3 (.advance 0 ⟨12, 5⟩ .absent)

/-- The repeated call returns the identifier of a job that is in no list. -/
theorem accepted_never_pushed :
    ¬ ∀ (schedule : List QueueAction) (run : QueueRun),
      Along (step (producers id)) DrawsNew queueStart schedule →
      execute (step (producers id)) queueStart schedule = some run → NothingLost run.shared := by
  intro nothingLost
  have lost : (execute (step (producers id)) queueStart crashedSchedule).any
      (fun run => decide (("forecast", 11) ∈ run.shared.accepted ∧ run.shared.pushed = [])) =
        true := by
    decide
  obtain ⟨run, arrived, facts⟩ := (Option.any_eq_true _ _).mp lost
  obtain ⟨accepted, empty⟩ := of_decide_eq_true facts
  have pushed := (nothingLost crashedSchedule run (by decide) arrived _ accepted).2.1
  rw [empty] at pushed
  cases pushed

end Runs

end CommitmentOptimizer.Shared.RedisJobQueue
