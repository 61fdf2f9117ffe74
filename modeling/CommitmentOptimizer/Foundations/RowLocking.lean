import CommitmentOptimizer.Foundations.Schedules
import Mathlib.Logic.Function.Basic

/-!
# Interleaved transactions under row locks

A transaction is a tree of statements over a database type. Its writes stay
private until it commits; a plain read sees the committed state under its own
writes, and a locking read waits until no other session holds the key. A
session can be dropped at any point, which models a rollback the program did
not ask for: a lost connection, a deadlock victim, a crash.

Locks that only a foreign key takes are not modelled. Leaving them out adds
interleavings, so what holds of every schedule here holds under them too.
-/

namespace CommitmentOptimizer.Foundations.RowLocking

open Schedules

set_option autoImplicit false

/-- `lockFree` is `FOR UPDATE SKIP LOCKED` with a limit: it takes the wanted
keys nobody else holds and continues with those it got. -/
inductive Txn (Db Key Abort Value : Type) where
  | done (value : Value)
  | rollback (reason : Abort)
  | lock (key : Key) (next : Txn Db Key Abort Value)
  | lockFree (wanted : Db → List Key) (limit : Nat) (next : List Key → Txn Db Key Abort Value)
  | query (next : Db → Txn Db Key Abort Value)
  | write (update : Db → Db) (next : Txn Db Key Abort Value)

namespace Txn

variable {Db Key Abort Value Other : Type}

def bind : Txn Db Key Abort Value → (Value → Txn Db Key Abort Other) → Txn Db Key Abort Other
  | done value, next => next value
  | rollback reason, _ => rollback reason
  | lock key rest, next => lock key (rest.bind next)
  | lockFree wanted limit rest, next =>
      lockFree wanted limit fun granted => (rest granted).bind next
  | query rest, next => query fun view => (rest view).bind next
  | write update rest, next => write update (rest.bind next)

instance : Monad (Txn Db Key Abort) where
  pure := done
  bind := bind

/-- `SELECT ... FOR UPDATE` on one key; the row is read by a later `view`. -/
def lockRow (key : Key) : Txn Db Key Abort Unit := lock key (done ())

def lockRows (wanted : Db → List Key) (limit : Nat) : Txn Db Key Abort (List Key) :=
  lockFree wanted limit done

def view : Txn Db Key Abort Db := query done

def save (update : Db → Db) : Txn Db Key Abort Unit := write update (done ())

def abort (reason : Abort) : Txn Db Key Abort Value := rollback reason

/-- The outcome of a constraint or trigger inside a statement. -/
def attempt (outcome : Except Abort Value) : Txn Db Key Abort Value :=
  match outcome with
  | .ok value => done value
  | .error reason => rollback reason

/-- `SELECT ... WHERE ... FOR UPDATE` of at most one row: without a match nothing
is locked, and after the wait the condition is tried again on the current row. -/
def selectForUpdate {Row : Type} (key : Key) (select : Db → Option Row) :
    Txn Db Key Abort (Option Row) := do
  match select (← view) with
  | none => return none
  | some _ =>
      lockRow key
      return select (← view)

/-- One body per item, in order: the rows of a multi-row statement. `found`
collects what `RETURNING` yields. -/
def forEach {Item Found : Type} (body : Item → Txn Db Key Abort (Option Found)) :
    List Found → List Item → Txn Db Key Abort (List Found)
  | found, [] => done found
  | found, item :: rest =>
      (body item).bind fun outcome => forEach body (found ++ outcome.toList) rest

end Txn

/-- A session remembers its request and the database its first statement saw, so
that a property can speak about them. -/
structure Session (Db Key Abort Value Request : Type) where
  request : Request
  begun : Db
  rest : Txn Db Key Abort Value
  pending : Db → Db

structure System (Db Key Abort Value Request : Type) where
  db : Db
  owner : Key → Option Nat
  session : Nat → Option (Session Db Key Abort Value Request)

inductive Action (Request Drift : Type) where
  | start (id : Nat) (request : Request)
  | advance (id : Nat)
  | drop (id : Nat)
  | drift (event : Drift)

section Semantics

variable {Db Key Abort Value Request Drift : Type} [DecidableEq Key]

/-- Nobody but `id` holds the key. -/
def available (owner : Key → Option Nat) (id : Nat) (key : Key) : Bool :=
  owner key == none || owner key == some id

namespace System

def initial (db : Db) : System Db Key Abort Value Request where
  db := db
  owner _ := none
  session _ := none

/-- The session ends: its locks are free and the database is `db`. -/
def finish (system : System Db Key Abort Value Request) (id : Nat) (db : Db) :
    System Db Key Abort Value Request where
  db := db
  owner key := if system.owner key = some id then none else system.owner key
  session := Function.update system.session id none

def resume (system : System Db Key Abort Value Request) (id : Nat)
    (session : Session Db Key Abort Value Request) : System Db Key Abort Value Request :=
  { system with session := Function.update system.session id (some session) }

def grant (system : System Db Key Abort Value Request) (id : Nat) (keys : List Key) :
    System Db Key Abort Value Request :=
  { system with owner := fun key => if key ∈ keys then some id else system.owner key }

end System

/-- One statement of one session. -/
def advanceSession (system : System Db Key Abort Value Request) (id : Nat)
    (session : Session Db Key Abort Value Request) :
    Option (System Db Key Abort Value Request) :=
  match session.rest with
  | .done _ => some (system.finish id (session.pending system.db))
  | .rollback _ => some (system.finish id system.db)
  | .lock key next =>
      if available system.owner id key then
        some ((system.grant id [key]).resume id { session with rest := next })
      else none
  | .lockFree wanted limit next =>
      let granted := ((wanted (session.pending system.db)).filter
        (available system.owner id)).take limit
      some ((system.grant id granted).resume id { session with rest := next granted })
  | .query next =>
      some (system.resume id { session with rest := next (session.pending system.db) })
  | .write update next =>
      some (system.resume id
        { session with rest := next, pending := fun db => update (session.pending db) })

/-- The interleaving semantics. `program` is what a request runs after its first
statement, which sees the database it starts from; `drift` is what changes
without a transaction, such as the clock. -/
def step (program : Request → Db → Txn Db Key Abort Value) (drift : Drift → Db → Db)
    (system : System Db Key Abort Value Request) :
    Action Request Drift → Option (System Db Key Abort Value Request)
  | .start id request =>
      match system.session id with
      | none =>
          some (system.resume id ⟨request, system.db, program request system.db, fun db => db⟩)
      | some _ => none
  | .advance id =>
      match system.session id with
      | none => none
      | some session => advanceSession system id session
  | .drop id =>
      match system.session id with
      | none => none
      | some _ => some (system.finish id system.db)
  | .drift event => some { system with db := drift event system.db }

end Semantics

/-- What the committed database keeps, how it may change, what a lock protects
and what a request that began on some database promises when it commits or
rolls back. -/
structure Contract (Db Key Abort Value Request : Type) where
  invariant : Db → Prop
  evolves : Db → Db → Prop
  same : Key → Db → Db → Prop
  onCommit : Request → Db → Value → Db → Db → Prop
  onAbort : Request → Db → Abort → Db → Prop
  evolves_refl : ∀ db, evolves db db
  evolves_trans : ∀ first second third,
    evolves first second → evolves second third → evolves first third
  same_refl : ∀ key db, same key db db
  same_trans : ∀ key first second third,
    same key first second → same key second third → same key first third

section Reasoning

variable {Db Key Abort Value Other Request Drift : Type}

namespace Txn

/-- Weakest precondition of a transaction between its statements. `seen` is the
committed database at its last statement; before each later statement the
other sessions may have moved it anywhere `rely` allows for the keys held. -/
def Meets (rely : List Key → Db → Db → Prop)
    (ended : Value → List Key → (Db → Db) → Db → Prop)
    (aborted : Abort → List Key → Db → Prop) :
    Txn Db Key Abort Value → List Key → (Db → Db) → Db → Prop
  | done value, held, pending, seen => ended value held pending seen
  | rollback reason, held, _, seen => aborted reason held seen
  | lock key next, held, pending, seen => ∀ now, rely held seen now →
      next.Meets rely ended aborted (key :: held) pending now
  | lockFree wanted _ next, held, pending, seen => ∀ now, rely held seen now →
      ∀ granted, granted.Sublist (wanted (pending now)) →
        (next granted).Meets rely ended aborted (granted ++ held) pending now
  | query next, held, pending, seen => ∀ now, rely held seen now →
      (next (pending now)).Meets rely ended aborted held pending now
  | write update next, held, pending, seen =>
      next.Meets rely ended aborted held (fun db => update (pending db)) seen

variable {rely : List Key → Db → Db → Prop}
  {ended : Value → List Key → (Db → Db) → Db → Prop}
  {aborted : Abort → List Key → Db → Prop}

theorem meets_bind {first : Txn Db Key Abort Other} {next : Other → Txn Db Key Abort Value}
    {held : List Key} {pending : Db → Db} {seen : Db} :
    (first.bind next).Meets rely ended aborted held pending seen ↔
      first.Meets rely
        (fun value held pending seen => (next value).Meets rely ended aborted held pending seen)
        aborted held pending seen := by
  induction first generalizing held pending seen with
  | done value => rfl
  | rollback reason => rfl
  | lock key rest induction => exact forall₂_congr fun _ _ => induction
  | lockFree wanted limit rest induction =>
      exact forall₂_congr fun _ _ => forall₂_congr fun granted _ => induction granted
  | query rest induction => exact forall₂_congr fun _ _ => induction _
  | write update rest induction => exact induction

theorem meets_mono {program : Txn Db Key Abort Value}
    {weaker : Value → List Key → (Db → Db) → Db → Prop}
    (implied : ∀ value held pending seen,
      ended value held pending seen → weaker value held pending seen)
    {held : List Key} {pending : Db → Db} {seen : Db}
    (meets : program.Meets rely ended aborted held pending seen) :
    program.Meets rely weaker aborted held pending seen := by
  induction program generalizing held pending seen with
  | done value => exact implied value held pending seen meets
  | rollback reason => exact meets
  | lock key rest induction => exact fun now moved => induction (meets now moved)
  | lockFree wanted limit rest induction =>
      exact fun now moved granted some => induction granted (meets now moved granted some)
  | query rest induction => exact fun now moved => induction _ (meets now moved)
  | write update rest induction => exact induction meets

@[simp] theorem meets_then {first : Txn Db Key Abort Other}
    {next : Other → Txn Db Key Abort Value} {held : List Key} {pending : Db → Db} {seen : Db} :
    (first >>= next).Meets rely ended aborted held pending seen ↔
      first.Meets rely
        (fun value held pending seen => (next value).Meets rely ended aborted held pending seen)
        aborted held pending seen :=
  meets_bind

@[simp] theorem meets_pure {value : Value} {held : List Key} {pending : Db → Db} {seen : Db} :
    (pure value : Txn Db Key Abort Value).Meets rely ended aborted held pending seen ↔
      ended value held pending seen := Iff.rfl

@[simp] theorem meets_abort {reason : Abort} {held : List Key} {pending : Db → Db} {seen : Db} :
    (abort reason : Txn Db Key Abort Value).Meets rely ended aborted held pending seen ↔
      aborted reason held seen := Iff.rfl

@[simp] theorem meets_attempt {outcome : Except Abort Value} {held : List Key}
    {pending : Db → Db} {seen : Db} :
    (attempt outcome : Txn Db Key Abort Value).Meets rely ended aborted held pending seen ↔
      (∀ value, outcome = .ok value → ended value held pending seen) ∧
        ∀ reason, outcome = .error reason → aborted reason held seen := by
  cases outcome <;> simp [attempt, Meets]

section Statements

variable {after : Unit → List Key → (Db → Db) → Db → Prop}

@[simp] theorem meets_lockRow {key : Key} {held : List Key} {pending : Db → Db} {seen : Db} :
    (lockRow key).Meets rely after aborted held pending seen ↔
      ∀ now, rely held seen now → after () (key :: held) pending now := Iff.rfl

@[simp] theorem meets_save {update : Db → Db} {held : List Key} {pending : Db → Db} {seen : Db} :
    (save update).Meets rely after aborted held pending seen ↔
      after () held (fun db => update (pending db)) seen := Iff.rfl

end Statements

@[simp] theorem meets_view {after : Db → List Key → (Db → Db) → Db → Prop}
    {held : List Key} {pending : Db → Db} {seen : Db} :
    (view : Txn Db Key Abort Db).Meets rely after aborted held pending seen ↔
      ∀ now, rely held seen now → after (pending now) held pending now := Iff.rfl

@[simp] theorem meets_lockRows {after : List Key → List Key → (Db → Db) → Db → Prop}
    {wanted : Db → List Key} {limit : Nat} {held : List Key} {pending : Db → Db} {seen : Db} :
    (lockRows wanted limit : Txn Db Key Abort (List Key)).Meets rely after aborted held
        pending seen ↔
      ∀ now, rely held seen now → ∀ granted, granted.Sublist (wanted (pending now)) →
        after granted (granted ++ held) pending now := Iff.rfl

@[simp] theorem meets_selectForUpdate {Row : Type} {key : Key} {select : Db → Option Row}
    {after : Option Row → List Key → (Db → Db) → Db → Prop}
    {held : List Key} {pending : Db → Db} {seen : Db} :
    (selectForUpdate key select : Txn Db Key Abort (Option Row)).Meets rely after aborted held
        pending seen ↔
      ∀ now, rely held seen now →
        (select (pending now) = none → after none held pending now) ∧
        (∀ row, select (pending now) = some row → ∀ locked, rely held now locked →
          ∀ later, rely (key :: held) locked later →
            after (select (pending later)) (key :: held) pending later) := by
  unfold selectForUpdate
  rw [meets_then, meets_view]
  refine forall₂_congr fun now _ => ?_
  cases select (pending now) with
  | none => simp
  | some row => simp

/-- Loop rule: `between` holds before each item, for the items still to come
and what the earlier ones returned. -/
theorem meets_forEach {Item Found : Type} {body : Item → Txn Db Key Abort (Option Found)}
    {after : List Found → List Key → (Db → Db) → Db → Prop}
    (between : List Found → List Item → List Key → (Db → Db) → Db → Prop)
    (iterate : ∀ found item rest held pending seen,
      between found (item :: rest) held pending seen →
      (body item).Meets rely
        (fun outcome held pending seen =>
          between (found ++ outcome.toList) rest held pending seen)
        aborted held pending seen)
    (concluded : ∀ found held pending seen,
      between found [] held pending seen → after found held pending seen)
    {found : List Found} {items : List Item} {held : List Key} {pending : Db → Db} {seen : Db}
    (initially : between found items held pending seen) :
    (forEach body found items).Meets rely after aborted held pending seen := by
  induction items generalizing found held pending seen with
  | nil => exact concluded found held pending seen initially
  | cons item rest induction =>
      rw [forEach, meets_bind]
      exact meets_mono (fun _ _ _ _ reached => induction reached)
        (iterate found item rest held pending seen initially)

end Txn

namespace Contract

variable (contract : Contract Db Key Abort Value Request)

def rely (held : List Key) (seen now : Db) : Prop :=
  contract.invariant now ∧ contract.evolves seen now ∧ ∀ key ∈ held, contract.same key seen now

/-- The obligation at the end of a transaction, wherever the others have moved
the database: commit keeps the invariant, changes held keys only and does what
the request promises. -/
def Committable (request : Request) (begun : Db) (value : Value) (held : List Key)
    (pending : Db → Db) (seen : Db) : Prop :=
  ∀ now, contract.rely held seen now →
    contract.invariant (pending now) ∧ contract.evolves now (pending now) ∧
      (∀ key, key ∉ held → contract.same key now (pending now)) ∧
      contract.onCommit request begun value now (pending now)

def Abortable (request : Request) (begun : Db) (reason : Abort) (held : List Key) (seen : Db) :
    Prop :=
  ∀ now, contract.rely held seen now → contract.onAbort request begun reason now

structure Verified (program : Request → Db → Txn Db Key Abort Value)
    (drift : Drift → Db → Db) : Prop where
  requests : ∀ request begun, contract.invariant begun →
    (program request begun).Meets contract.rely (contract.Committable request begun)
      (contract.Abortable request begun) [] (fun db => db) begun
  drifts : ∀ event db, contract.invariant db →
    contract.invariant (drift event db) ∧ contract.evolves db (drift event db) ∧
      ∀ key, contract.same key db (drift event db)

variable {contract}

theorem rely_refl {held : List Key} {db : Db} (holds : contract.invariant db) :
    contract.rely held db db :=
  ⟨holds, contract.evolves_refl db, fun key _ => contract.same_refl key db⟩

theorem rely_trans {held : List Key} {first second third : Db}
    (left : contract.rely held first second) (right : contract.rely held second third) :
    contract.rely held first third :=
  ⟨right.1, contract.evolves_trans _ _ _ left.2.1 right.2.1,
    fun key member => contract.same_trans key _ _ _ (left.2.2 key member) (right.2.2 key member)⟩

theorem rely_subset {held fewer : List Key} {first second : Db} (subset : fewer ⊆ held)
    (moved : contract.rely held first second) : contract.rely fewer first second :=
  ⟨moved.1, moved.2.1, fun key member => moved.2.2 key (subset member)⟩

/-- Rule for a locking read: after the wait the row is read once more, and the
lock keeps what it showed. -/
theorem meets_select {Row : Type} {key : Key} {select : Db → Option Row}
    {after : Option Row → List Key → (Db → Db) → Db → Prop} {aborted : Abort → List Key → Db → Prop}
    {held : List Key} {pending : Db → Db} {seen : Db}
    (missing : ∀ now, contract.rely held seen now → select (pending now) = none →
      after none held pending now)
    (locked : ∀ now, contract.rely held seen now →
      after (select (pending now)) (key :: held) pending now) :
    (Txn.selectForUpdate key select : Txn Db Key Abort (Option Row)).Meets contract.rely after
      aborted held pending seen := by
  rw [Txn.meets_selectForUpdate]
  intro now moved
  refine ⟨missing now moved, fun _ _ waited waiting later resumed => ?_⟩
  exact locked later (rely_trans moved (rely_trans waiting
    (rely_subset (List.subset_cons_self key held) resumed)))

end Contract

end Reasoning

section Soundness

variable {Db Key Abort Value Request Drift : Type}

/-- The session is somewhere in a verified transaction and owns what it relies on. -/
def Session.Sound (contract : Contract Db Key Abort Value Request)
    (session : Session Db Key Abort Value Request) (id : Nat)
    (owner : Key → Option Nat) (db : Db) : Prop :=
  ∃ held seen, (∀ key ∈ held, owner key = some id) ∧
    session.rest.Meets contract.rely (contract.Committable session.request session.begun)
      (contract.Abortable session.request session.begun) held session.pending seen ∧
    contract.rely held seen db

structure System.Sound (contract : Contract Db Key Abort Value Request)
    (system : System Db Key Abort Value Request) : Prop where
  invariant : contract.invariant system.db
  sessions : ∀ id session, system.session id = some session →
    session.Sound contract id system.owner system.db

theorem initial_sound {contract : Contract Db Key Abort Value Request} {db : Db}
    (holds : contract.invariant db) :
    (System.initial db : System Db Key Abort Value Request).Sound contract where
  invariant := holds
  sessions _ _ present := by cases present

variable {contract : Contract Db Key Abort Value Request}

/-- A session keeps its proof when the database moves without touching its keys. -/
theorem session_sound_moves {session : Session Db Key Abort Value Request} {id : Nat}
    {owner laterOwner : Key → Option Nat} {db later : Db}
    (sound : session.Sound contract id owner db)
    (keeps : ∀ key, owner key = some id → laterOwner key = some id)
    (holds : contract.invariant later) (evolved : contract.evolves db later)
    (untouched : ∀ key, owner key = some id → contract.same key db later) :
    session.Sound contract id laterOwner later := by
  obtain ⟨held, seen, owned, meets, relied⟩ := sound
  refine ⟨held, seen, fun key member => keeps key (owned key member), meets, ?_⟩
  exact Contract.rely_trans relied
    ⟨holds, evolved, fun key member => untouched key (owned key member)⟩

/-- What a commit of a sound session does to the database. -/
theorem commit_sound {system : System Db Key Abort Value Request}
    {id : Nat} {session : Session Db Key Abort Value Request} {value : Value}
    (sound : system.Sound contract) (present : system.session id = some session)
    (standing : session.rest = .done value) :
    contract.invariant (session.pending system.db) ∧
      contract.evolves system.db (session.pending system.db) ∧
      (∀ key, system.owner key ≠ some id →
        contract.same key system.db (session.pending system.db)) ∧
      contract.onCommit session.request session.begun value system.db (session.pending system.db) := by
  obtain ⟨held, seen, owned, meets, relied⟩ := sound.sessions id session present
  rw [standing] at meets
  obtain ⟨holds, evolved, untouched, promised⟩ := meets system.db relied
  refine ⟨holds, evolved, fun key notOwned => untouched key ?_, promised⟩
  intro member
  exact notOwned (owned key member)

theorem rollback_sound {system : System Db Key Abort Value Request}
    {id : Nat} {session : Session Db Key Abort Value Request} {reason : Abort}
    (sound : system.Sound contract) (present : system.session id = some session)
    (standing : session.rest = .rollback reason) :
    contract.onAbort session.request session.begun reason system.db := by
  obtain ⟨held, seen, _, meets, relied⟩ := sound.sessions id session present
  rw [standing] at meets
  exact meets system.db relied

theorem available_iff {owner : Key → Option Nat} {id : Nat} {key : Key} :
    available owner id key = true ↔ owner key = none ∨ owner key = some id := by
  simp [available]

theorem finish_sound {system : System Db Key Abort Value Request} {id : Nat} {later : Db}
    (sound : system.Sound contract) (holds : contract.invariant later)
    (evolved : contract.evolves system.db later)
    (untouched : ∀ key, system.owner key ≠ some id → contract.same key system.db later) :
    (system.finish id later).Sound contract where
  invariant := holds
  sessions other session present := by
    by_cases ended : other = id
    · subst ended
      simp [System.finish] at present
    · have before : system.session other = some session := by
        simpa [System.finish, Function.update_of_ne ended] using present
      refine session_sound_moves (sound.sessions other session before) ?_ holds evolved ?_
      · intro key owned
        simp [System.finish, owned, ended]
      · intro key owned
        exact untouched key (by simp [owned, ended])

section Kept

variable {sessions : Nat → Option (Session Db Key Abort Value Request)}
  {later : Session Db Key Abort Value Request} {id other : Nat}

theorem finished_session (present : Function.update sessions other none id = some later) :
    sessions id = some later := by
  by_cases same : id = other
  · subst same
    simp at present
  · rwa [Function.update_of_ne same] at present

theorem resumed_session {before after : Session Db Key Abort Value Request}
    (found : sessions other = some before)
    (present : Function.update sessions other (some after) id = some later)
    (sameRequest : after.request = before.request) (sameBegun : after.begun = before.begun) :
    ∃ earlier, sessions id = some earlier ∧ later.request = earlier.request ∧
      later.begun = earlier.begun := by
  by_cases same : id = other
  · subst same
    rw [Function.update_self] at present
    cases present
    exact ⟨before, found, sameRequest, sameBegun⟩
  · rw [Function.update_of_ne same] at present
    exact ⟨later, present, rfl, rfl⟩

end Kept

variable [DecidableEq Key]

theorem resume_sound {system : System Db Key Abort Value Request} {id : Nat}
    {session : Session Db Key Abort Value Request} {keys : List Key}
    (sound : system.Sound contract)
    (free : ∀ key ∈ keys, system.owner key = none ∨ system.owner key = some id)
    (resumed : session.Sound contract id (system.grant id keys).owner system.db) :
    ((system.grant id keys).resume id session).Sound contract where
  invariant := sound.invariant
  sessions other present found := by
    by_cases mine : other = id
    · subst mine
      have same : session = present := by simpa [System.resume] using found
      subst same
      exact resumed
    · have before : system.session other = some present := by
        simpa [System.resume, System.grant, Function.update_of_ne mine] using found
      refine session_sound_moves (sound.sessions other present before) ?_ sound.invariant
        (contract.evolves_refl _) fun key _ => contract.same_refl key _
      intro key owned
      have notGranted : key ∉ keys := by
        intro member
        rcases free key member with unowned | self
        · simp [unowned] at owned
        · rw [self] at owned
          exact mine (Option.some.inj owned).symm
      simp [System.resume, System.grant, notGranted, owned]

theorem grant_nil (system : System Db Key Abort Value Request) (id : Nat) :
    system.grant id [] = system := by
  simp [System.grant]

theorem advance_sound {system next : System Db Key Abort Value Request} {id : Nat}
    {session : Session Db Key Abort Value Request}
    (sound : system.Sound contract) (present : system.session id = some session)
    (taken : advanceSession system id session = some next) : next.Sound contract := by
  obtain ⟨held, seen, owned, meets, relied⟩ := sound.sessions id session present
  unfold advanceSession at taken
  split at taken
  case h_1 value standing =>
    obtain ⟨holds, evolved, untouched, _⟩ := commit_sound sound present standing
    cases taken
    exact finish_sound sound holds evolved untouched
  case h_2 reason standing =>
    cases taken
    exact finish_sound sound sound.invariant (contract.evolves_refl _)
      fun key _ => contract.same_refl key _
  case h_3 key rest standing =>
    rw [standing] at meets
    split at taken
    case isTrue free =>
      cases taken
      refine resume_sound sound ?_ ⟨key :: held, system.db, ?_, meets system.db relied,
        Contract.rely_refl sound.invariant⟩
      · intro other member
        rw [List.mem_singleton.mp member]
        exact available_iff.mp free
      · intro other member
        rcases List.mem_cons.mp member with rfl | older
        · simp [System.grant]
        · simp [System.grant, owned other older]
    case isFalse => cases taken
  case h_4 wanted limit rest standing =>
    rw [standing] at meets
    cases taken
    refine resume_sound sound ?_ ⟨_ ++ held, system.db, ?_, meets system.db relied _ ?_,
      Contract.rely_refl sound.invariant⟩
    · intro key member
      exact available_iff.mp (List.of_mem_filter (List.mem_of_mem_take member))
    · intro key member
      rcases List.mem_append.mp member with granted | older
      · simp only [System.grant]
        rw [if_pos granted]
      · simp only [System.grant]
        split_ifs
        · rfl
        · exact owned key older
    · exact (List.take_sublist _ _).trans List.filter_sublist
  case h_5 rest standing =>
    rw [standing] at meets
    cases taken
    rw [← grant_nil system id]
    exact resume_sound sound (by simp) ⟨held, system.db, by simpa [grant_nil] using owned,
      meets system.db relied, Contract.rely_refl sound.invariant⟩
  case h_6 update rest standing =>
    rw [standing] at meets
    cases taken
    rw [← grant_nil system id]
    exact resume_sound sound (by simp) ⟨held, seen, by simpa [grant_nil] using owned,
      meets, relied⟩

variable {program : Request → Db → Txn Db Key Abort Value} {drift : Drift → Db → Db}

/-- Every action keeps every session's proof. -/
theorem step_sound (verified : contract.Verified program drift)
    {system next : System Db Key Abort Value Request} {action : Action Request Drift}
    (sound : system.Sound contract) (taken : step program drift system action = some next) :
    next.Sound contract := by
  cases action with
  | start id request =>
      simp only [step] at taken
      split at taken
      case h_1 =>
        cases taken
        rw [← grant_nil system id]
        exact resume_sound sound (by simp) ⟨[], system.db, by simp,
          verified.requests request system.db sound.invariant,
          Contract.rely_refl sound.invariant⟩
      case h_2 => cases taken
  | advance id =>
      simp only [step] at taken
      split at taken
      case h_1 => cases taken
      case h_2 session present => exact advance_sound sound present taken
  | drop id =>
      simp only [step] at taken
      split at taken
      case h_1 => cases taken
      case h_2 =>
        cases taken
        exact finish_sound sound sound.invariant (contract.evolves_refl _)
          fun key _ => contract.same_refl key _
  | drift event =>
      cases taken
      obtain ⟨holds, evolved, untouched⟩ := verified.drifts event system.db sound.invariant
      exact ⟨holds, fun id session present =>
        session_sound_moves (sound.sessions id session present) (fun _ owned => owned) holds
          evolved fun key _ => untouched key⟩

theorem reachable_sound (verified : contract.Verified program drift)
    {start finish : System Db Key Abort Value Request} (initially : start.Sound contract)
    (reached : Reachable (step program drift) start finish) : finish.Sound contract :=
  reachable_preserves (fun _ _ _ sound taken => step_sound verified sound taken) initially reached

/-- Inversion of a step: only a drift or a commit moves the database. -/
theorem step_database {system next : System Db Key Abort Value Request}
    {action : Action Request Drift} (taken : step program drift system action = some next) :
    next.db = system.db ∨
      (∃ event, action = .drift event ∧ next.db = drift event system.db) ∨
      ∃ id session value, action = .advance id ∧ system.session id = some session ∧
        session.rest = .done value ∧ next.db = session.pending system.db := by
  cases action with
  | start id request =>
      simp only [step] at taken
      split at taken
      case h_1 => cases taken; exact Or.inl rfl
      case h_2 => cases taken
  | advance id =>
      simp only [step] at taken
      split at taken
      case h_1 => cases taken
      case h_2 session present =>
        unfold advanceSession at taken
        split at taken
        case h_1 value standing =>
          cases taken
          exact Or.inr (Or.inr ⟨id, session, value, rfl, present, standing, rfl⟩)
        case h_3 =>
          split at taken
          case isTrue => cases taken; exact Or.inl rfl
          case isFalse => cases taken
        all_goals
          cases taken
          exact Or.inl rfl
  | drop id =>
      simp only [step] at taken
      split at taken
      case h_1 => cases taken
      case h_2 => cases taken; exact Or.inl rfl
  | drift event =>
      cases taken
      exact Or.inr (Or.inl ⟨event, rfl, rfl⟩)

/-- A session that a step of its own ends has committed or rolled back. -/
theorem advance_ends {system next : System Db Key Abort Value Request} {id : Nat}
    {session : Session Db Key Abort Value Request} (present : system.session id = some session)
    (taken : step program drift system (.advance id) = some next)
    (ended : next.session id = none) :
    (∃ value, session.rest = .done value ∧ next.db = session.pending system.db) ∨
      ∃ reason, session.rest = .rollback reason ∧ next.db = system.db := by
  simp only [step, present] at taken
  unfold advanceSession at taken
  split at taken
  case h_1 value standing =>
    cases taken
    exact Or.inl ⟨value, standing, rfl⟩
  case h_2 reason standing =>
    cases taken
    exact Or.inr ⟨reason, standing, rfl⟩
  case h_3 =>
    split at taken
    case isTrue =>
      cases taken
      simp [System.resume] at ended
    case isFalse => cases taken
  all_goals
    cases taken
    simp [System.resume] at ended

/-- A session keeps its request and what it began on. -/
theorem step_session {system next : System Db Key Abort Value Request}
    {action : Action Request Drift} (taken : step program drift system action = some next)
    {id : Nat} {later : Session Db Key Abort Value Request}
    (present : next.session id = some later) :
    action = .start id later.request ∨ ∃ earlier, system.session id = some earlier ∧
      later.request = earlier.request ∧ later.begun = earlier.begun := by
  cases action with
  | start other request =>
      simp only [step] at taken
      split at taken
      case h_1 =>
        cases taken
        by_cases same : id = other
        · subst same
          simp only [System.resume, Function.update_self] at present
          cases present
          exact Or.inl rfl
        · simp only [System.resume, Function.update_of_ne same] at present
          exact Or.inr ⟨later, present, rfl, rfl⟩
      case h_2 => cases taken
  | advance other =>
      simp only [step] at taken
      split at taken
      case h_1 => cases taken
      case h_2 session found =>
        refine Or.inr ?_
        unfold advanceSession at taken
        split at taken
        case h_1 | h_2 =>
          cases taken
          exact ⟨later, finished_session present, rfl, rfl⟩
        case h_3 =>
          split at taken
          case isTrue =>
            cases taken
            exact resumed_session found present rfl rfl
          case isFalse => cases taken
        all_goals
          cases taken
          exact resumed_session found present rfl rfl
  | drop other =>
      simp only [step] at taken
      split at taken
      case h_1 => cases taken
      case h_2 =>
        cases taken
        exact Or.inr ⟨later, finished_session present, rfl, rfl⟩
  | drift event =>
      cases taken
      exact Or.inr ⟨later, present, rfl, rfl⟩

/-- Every session has been started by an action of the run. -/
theorem session_started {start finish : System Db Key Abort Value Request}
    {schedule : List (Action Request Drift)}
    (arrived : execute (step program drift) start schedule = some finish) {id : Nat}
    {session : Session Db Key Abort Value Request} (present : finish.session id = some session) :
    Action.start id session.request ∈ schedule ∨
      ∃ earlier, start.session id = some earlier ∧ session.request = earlier.request := by
  induction schedule generalizing start with
  | nil =>
      cases arrived
      exact Or.inr ⟨session, present, rfl⟩
  | cons action rest induction =>
      obtain ⟨next, taken, onward⟩ := execute_cons_some.mp arrived
      rcases induction onward with listed | ⟨middle, middlePresent, same⟩
      · exact Or.inl (List.mem_cons_of_mem _ listed)
      · rcases step_session taken middlePresent with started | ⟨earlier, found, sameEarlier, _⟩
        · rw [started, same]
          exact Or.inl List.mem_cons_self
        · exact Or.inr ⟨earlier, found, same.trans sameEarlier⟩

theorem step_evolves (verified : contract.Verified program drift)
    {system next : System Db Key Abort Value Request} {action : Action Request Drift}
    (sound : system.Sound contract) (taken : step program drift system action = some next) :
    contract.evolves system.db next.db := by
  rcases step_database taken with same | ⟨event, _, moved⟩ |
    ⟨id, session, value, _, present, standing, moved⟩
  · rw [same]
    exact contract.evolves_refl _
  · rw [moved]
    exact (verified.drifts event system.db sound.invariant).2.1
  · rw [moved]
    exact (commit_sound sound present standing).2.1

theorem reachable_evolves (verified : contract.Verified program drift)
    {start finish : System Db Key Abort Value Request} (initially : start.Sound contract)
    (reached : Reachable (step program drift) start finish) :
    contract.evolves start.db finish.db :=
  @reachable_relates _ _ _ (fun system => system.Sound contract)
    (fun first second => contract.evolves first.db second.db)
    (fun system => contract.evolves_refl system.db)
    (fun first second third left right =>
      contract.evolves_trans first.db second.db third.db left right)
    (fun _ _ _ sound taken => ⟨step_sound verified sound taken, step_evolves verified sound taken⟩)
    _ _ initially reached

end Soundness

end CommitmentOptimizer.Foundations.RowLocking
