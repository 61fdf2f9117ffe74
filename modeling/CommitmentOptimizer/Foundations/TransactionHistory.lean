import CommitmentOptimizer.Foundations.RowLocking

/-!
# The history of a schedule of transactions

Every session that ends in a schedule is listed with what it ended in and with
the databases around that step. A transaction that runs without others is a
function of the database.
-/

namespace CommitmentOptimizer.Foundations.TransactionHistory

open RowLocking
open Schedules

set_option autoImplicit false

inductive Outcome (Abort Value : Type) where
  | committed (value : Value)
  | rolledBack (reason : Abort)
  | dropped
  deriving DecidableEq

/-- `begun` is the database at the session's first statement. -/
structure Ending (Db Abort Value Request : Type) where
  request : Request
  begun : Db
  outcome : Outcome Abort Value
  before : Db
  after : Db

namespace Ending

variable {Db Abort Value Request : Type}

def committed (ending : Ending Db Abort Value Request) : Bool :=
  match ending.outcome with
  | .committed _ => true
  | .rolledBack _ | .dropped => false

end Ending

section Endings

variable {Db Key Abort Value Request Drift : Type} [DecidableEq Key]

/-- The session that an action ends in a system, if it ends one. -/
def endingOf (system next : System Db Key Abort Value Request) :
    Action Request Drift → Option (Ending Db Abort Value Request)
  | .advance id =>
      match system.session id with
      | none => none
      | some session =>
          match session.rest with
          | .done value =>
              some ⟨session.request, session.begun, .committed value, system.db, next.db⟩
          | .rollback reason =>
              some ⟨session.request, session.begun, .rolledBack reason, system.db, next.db⟩
          | _ => none
  | .drop id =>
      (system.session id).map fun session =>
        ⟨session.request, session.begun, .dropped, system.db, next.db⟩
  | .start _ _ | .drift _ => none

variable (program : Request → Db → Txn Db Key Abort Value) (drift : Drift → Db → Db)

/-- The sessions that end along a schedule, in order. -/
def endings (system : System Db Key Abort Value Request) :
    List (Action Request Drift) → List (Ending Db Abort Value Request)
  | [] => []
  | action :: rest =>
      match step program drift system action with
      | none => []
      | some next => (endingOf system next action).toList ++ endings next rest

variable {program} {drift}

theorem endings_cons {system next : System Db Key Abort Value Request}
    {action : Action Request Drift} {rest : List (Action Request Drift)}
    (taken : step program drift system action = some next) :
    endings program drift system (action :: rest) =
      (endingOf system next action).toList ++ endings program drift next rest := by
  rw [endings, taken]

/-- What a session that ended has done, under a contract. -/
def Ending.Kept (contract : Contract Db Key Abort Value Request)
    (ending : Ending Db Abort Value Request) : Prop :=
  contract.invariant ending.before ∧
    match ending.outcome with
    | .committed value =>
        contract.onCommit ending.request ending.begun value ending.before ending.after
    | .rolledBack reason =>
        ending.after = ending.before ∧
          contract.onAbort ending.request ending.begun reason ending.before
    | .dropped => ending.after = ending.before

theorem ending_kept {contract : Contract Db Key Abort Value Request}
    {system next : System Db Key Abort Value Request} {action : Action Request Drift}
    (sound : system.Sound contract) (taken : step program drift system action = some next)
    {ending : Ending Db Abort Value Request} (ended : endingOf system next action = some ending) :
    ending.Kept contract := by
  cases action with
  | start id request => cases ended
  | drift event => cases ended
  | drop id =>
      obtain ⟨session, present, rfl⟩ := Option.map_eq_some_iff.mp ended
      simp only [step, present, Option.some.injEq] at taken
      exact ⟨sound.invariant, taken ▸ rfl⟩
  | advance id =>
      simp only [endingOf] at ended
      split at ended
      case h_1 => cases ended
      case h_2 session present =>
        simp only [step, present, advanceSession] at taken
        split at ended
        case h_1 value standing =>
          rw [standing] at taken
          cases taken
          cases ended
          exact ⟨sound.invariant, (commit_sound sound present standing).2.2.2⟩
        case h_2 reason standing =>
          rw [standing] at taken
          cases taken
          cases ended
          exact ⟨sound.invariant, rfl, rollback_sound sound present standing⟩
        case h_3 => cases ended

/-- Every session that ends along a schedule keeps its contract. -/
theorem endings_kept {contract : Contract Db Key Abort Value Request}
    (verified : contract.Verified program drift) {start : System Db Key Abort Value Request}
    (sound : start.Sound contract) (schedule : List (Action Request Drift)) :
    ∀ ending ∈ endings program drift start schedule, ending.Kept contract := by
  induction schedule generalizing start with
  | nil => exact fun ending member => nomatch member
  | cons action rest induction =>
      intro ending member
      rw [endings] at member
      split at member
      case h_1 => cases member
      case h_2 next taken =>
        rcases List.mem_append.mp member with now | later
        · exact ending_kept sound taken (Option.mem_toList.mp now)
        · exact induction (step_sound verified sound taken) ending later

/-- A step ends a session and moves the database, or leaves it to a drift. -/
theorem step_ends {system next : System Db Key Abort Value Request} {action : Action Request Drift}
    (taken : step program drift system action = some next) :
    (∃ ending, endingOf system next action = some ending ∧ ending.before = system.db ∧
        ending.after = next.db) ∨
      endingOf system next action = none ∧
        (next.db = system.db ∨ ∃ event, next.db = drift event system.db) := by
  rcases step_database taken with same | ⟨event, rfl, moved⟩ |
    ⟨id, session, value, rfl, present, standing, _⟩
  · cases ended : endingOf system next action with
    | none => exact Or.inr ⟨rfl, Or.inl same⟩
    | some ending =>
        refine Or.inl ⟨ending, rfl, ?_⟩
        cases action with
        | start id request => cases ended
        | drift event => cases ended
        | drop id =>
            obtain ⟨session, _, rfl⟩ := Option.map_eq_some_iff.mp ended
            exact ⟨rfl, rfl⟩
        | advance id =>
            simp only [endingOf] at ended
            split at ended
            case h_1 => cases ended
            case h_2 session present =>
              split at ended
              case h_1 | h_2 =>
                cases ended
                exact ⟨rfl, rfl⟩
              case h_3 => cases ended
  · exact Or.inr ⟨rfl, Or.inr ⟨event, moved⟩⟩
  · refine Or.inl ⟨⟨session.request, session.begun, .committed value, system.db, next.db⟩, ?_,
      rfl, rfl⟩
    simp only [endingOf, present, standing]

/-- A part of the database that only grows, and by what each ending adds. -/
theorem part_accumulates {Part : Type} (part : Db → List Part)
    (gain : Ending Db Abort Value Request → List Part)
    (drifts : ∀ event db, part (drift event db) = part db)
    {start finish : System Db Key Abort Value Request} {schedule : List (Action Request Drift)}
    (arrived : execute (step program drift) start schedule = some finish)
    (gained : ∀ ending ∈ endings program drift start schedule,
      part ending.after = part ending.before ++ gain ending) :
    part finish.db =
      part start.db ++ (endings program drift start schedule).flatMap gain := by
  induction schedule generalizing start with
  | nil =>
      cases arrived
      simp [endings]
  | cons action rest induction =>
      obtain ⟨next, taken, onward⟩ := execute_cons_some.mp arrived
      rw [endings_cons taken] at gained ⊢
      rw [induction onward fun ending member => gained ending (List.mem_append_right _ member),
        List.flatMap_append, ← List.append_assoc]
      congr 1
      rcases step_ends taken with ⟨ending, ended, before, after⟩ | ⟨ended, moved⟩
      · have own := gained ending (List.mem_append_left _ (Option.mem_toList.mpr ended))
        rw [ended, Option.toList_some, List.flatMap_singleton, ← before, ← after, own]
      · rw [ended, Option.toList_none, List.flatMap_nil, List.append_nil]
        rcases moved with same | ⟨event, moved⟩
        · rw [same]
        · rw [moved, drifts]

/-- A session that ends has been started by the schedule, or was there before it. -/
theorem ending_started {start : System Db Key Abort Value Request}
    {schedule : List (Action Request Drift)} {ending : Ending Db Abort Value Request}
    (member : ending ∈ endings program drift start schedule) :
    (∃ id, Action.start id ending.request ∈ schedule) ∨
      ∃ id session, start.session id = some session ∧ session.request = ending.request := by
  induction schedule generalizing start with
  | nil => cases member
  | cons action rest induction =>
      rw [endings] at member
      split at member
      case h_1 => cases member
      case h_2 next taken =>
        rcases List.mem_append.mp member with now | later
        · refine Or.inr ?_
          have ended : endingOf start next action = some ending := Option.mem_toList.mp now
          cases action with
          | start id request => cases ended
          | drift event => cases ended
          | drop id =>
              obtain ⟨session, present, rfl⟩ := Option.map_eq_some_iff.mp ended
              exact ⟨id, session, present, rfl⟩
          | advance id =>
              simp only [endingOf] at ended
              split at ended
              case h_1 => cases ended
              case h_2 session present =>
                split at ended
                case h_1 | h_2 =>
                  cases ended
                  exact ⟨id, session, present, rfl⟩
                case h_3 => cases ended
        · rcases induction later with ⟨id, started⟩ | ⟨id, session, present, same⟩
          · exact Or.inl ⟨id, List.mem_cons_of_mem _ started⟩
          · rcases step_session taken present with rfl | ⟨earlier, found, sameRequest, _⟩
            · exact Or.inl ⟨id, same ▸ List.mem_cons_self⟩
            · exact Or.inr ⟨id, earlier, found, sameRequest.symm.trans same⟩

section Order

variable {contract : Contract Db Key Abort Value Request}

theorem ending_follows (verified : contract.Verified program drift)
    {start : System Db Key Abort Value Request} (sound : start.Sound contract)
    {schedule : List (Action Request Drift)} {ending : Ending Db Abort Value Request}
    (member : ending ∈ endings program drift start schedule) :
    contract.evolves start.db ending.before := by
  induction schedule generalizing start with
  | nil => cases member
  | cons action rest induction =>
      rw [endings] at member
      split at member
      case h_1 => cases member
      case h_2 next taken =>
        rcases List.mem_append.mp member with now | later
        · rcases step_ends taken with ⟨own, ended, before, _⟩ | ⟨ended, _⟩
          · obtain rfl := Option.some.inj (ended.symm.trans (Option.mem_toList.mp now))
            rw [before]
            exact contract.evolves_refl _
          · rw [ended] at now
            cases now
        · exact contract.evolves_trans _ _ _ (step_evolves verified sound taken)
            (induction (step_sound verified sound taken) later)

/-- The databases of the endings are in the order of the endings. -/
theorem endings_ordered (verified : contract.Verified program drift)
    {start : System Db Key Abort Value Request} (sound : start.Sound contract)
    (schedule : List (Action Request Drift)) :
    (endings program drift start schedule).Pairwise fun earlier later =>
      contract.evolves earlier.after later.before := by
  induction schedule generalizing start with
  | nil => exact List.Pairwise.nil
  | cons action rest induction =>
      rw [endings]
      split
      case h_1 => exact List.Pairwise.nil
      case h_2 next taken =>
        have nextSound := step_sound verified sound taken
        rcases step_ends taken with ⟨own, ended, _, after⟩ | ⟨ended, _⟩
        · rw [ended, Option.toList_some, List.singleton_append, List.pairwise_cons, after]
          exact ⟨fun later member => ending_follows verified nextSound member, induction nextSound⟩
        · rw [ended, Option.toList_none, List.nil_append]
          exact induction nextSound

end Order

end Endings

section Alone

variable {Db Key Abort Value Request : Type}

/-- A transaction without others around it, from its pending writes on. -/
def runAlone : Txn Db Key Abort Value → (Db → Db) → Db → Except Abort (Value × Db)
  | .done value, pending, db => .ok (value, pending db)
  | .rollback reason, _, _ => .error reason
  | .lock _ next, pending, db => runAlone next pending db
  | .lockFree wanted limit next, pending, db =>
      runAlone (next ((wanted (pending db)).take limit)) pending db
  | .query next, pending, db => runAlone (next (pending db)) pending db
  | .write update next, pending, db => runAlone next (fun db => update (pending db)) db

/-- Pending writes are as good as stored ones. -/
theorem run_alone_pending (transaction : Txn Db Key Abort Value) (pending : Db → Db) (db : Db) :
    runAlone transaction pending db = runAlone transaction (fun db => db) (pending db) := by
  induction transaction generalizing pending db with
  | done value | rollback reason => rfl
  | lock key next induction => exact induction pending db
  | lockFree wanted limit next induction => exact induction _ pending db
  | query next induction => exact induction _ pending db
  | write update next induction =>
      simp only [runAlone]
      rw [induction, induction (fun db => update db)]

theorem run_alone_bind {Other : Type} (first : Txn Db Key Abort Value)
    (next : Value → Txn Db Key Abort Other) (db : Db) :
    runAlone (first.bind next) (fun db => db) db =
      runAlone first (fun db => db) db >>= fun result =>
        runAlone (next result.1) (fun db => db) result.2 := by
  induction first generalizing db with
  | done value | rollback reason => rfl
  | lock key rest induction => exact induction db
  | lockFree wanted limit rest induction => exact induction _ db
  | query rest induction => exact induction _ db
  | write update rest induction =>
      simp only [Txn.bind, runAlone]
      rw [run_alone_pending, run_alone_pending rest]
      exact induction _

theorem run_alone_attempt {outcome : Except Abort Value} {db : Db} :
    runAlone (Txn.attempt outcome : Txn Db Key Abort Value) (fun db => db) db =
      outcome.map fun value => (value, db) := by
  cases outcome <;> rfl

section Statements

variable {Other : Type} {db after : Db}

@[simp] theorem run_alone_pure (value : Value) (db : Db) :
    runAlone (pure value : Txn Db Key Abort Value) (fun db => db) db = .ok (value, db) := rfl

@[simp] theorem run_alone_view (db : Db) :
    runAlone (Txn.view : Txn Db Key Abort Db) (fun db => db) db = .ok (db, db) := rfl

@[simp] theorem run_alone_save (update : Db → Db) (db : Db) :
    runAlone (Txn.save update : Txn Db Key Abort Unit) (fun db => db) db = .ok ((), update db) :=
  rfl

@[simp] theorem run_alone_lock_row (key : Key) (db : Db) :
    runAlone (Txn.lockRow key : Txn Db Key Abort Unit) (fun db => db) db = .ok ((), db) := rfl

@[simp] theorem run_alone_abort (reason : Abort) (db : Db) :
    runAlone (Txn.abort reason : Txn Db Key Abort Value) (fun db => db) db = .error reason := rfl

@[simp] theorem run_alone_select {Row : Type} (key : Key) (select : Db → Option Row) (db : Db) :
    runAlone (Txn.selectForUpdate key select : Txn Db Key Abort (Option Row)) (fun db => db) db =
      .ok (select db, db) := by
  change runAlone (Txn.bind Txn.view _) _ _ = _
  rw [run_alone_bind, run_alone_view]
  change runAlone _ (fun db => db) db = _
  cases found : select db with
  | none => rfl
  | some row =>
      change Except.ok (select db, db) = _
      rw [found]

theorem run_alone_view_then (next : Db → Txn Db Key Abort Other) (db : Db) :
    runAlone (Txn.view >>= next) (fun db => db) db = runAlone (next db) (fun db => db) db := rfl

theorem run_alone_lock_then (key : Key) (next : Unit → Txn Db Key Abort Other) (db : Db) :
    runAlone (Txn.lockRow key >>= next) (fun db => db) db = runAlone (next ()) (fun db => db) db :=
  rfl

theorem run_alone_save_then (update : Db → Db) (next : Unit → Txn Db Key Abort Other) (db : Db) :
    runAlone (Txn.save update >>= next) (fun db => db) db =
      runAlone (next ()) (fun db => db) (update db) := by
  change runAlone (next ()) (fun db => update db) db = _
  rw [run_alone_pending]

/-- Alone, one part runs after the other. -/
theorem run_alone_then {first : Txn Db Key Abort Value} {next : Value → Txn Db Key Abort Other}
    {other : Other} :
    runAlone (first >>= next) (fun db => db) db = .ok (other, after) ↔
      ∃ value middle, runAlone first (fun db => db) db = .ok (value, middle) ∧
        runAlone (next value) (fun db => db) middle = .ok (other, after) := by
  change runAlone (first.bind next) (fun db => db) db = _ ↔ _
  rw [run_alone_bind]
  cases runAlone first (fun db => db) db with
  | error reason => simp [bind, Except.bind]
  | ok result => simp [bind, Except.bind, Prod.ext_iff]

end Statements

/-- The bodies of a loop run one after another. -/
theorem run_alone_for_each {Item Found : Type} (body : Item → Txn Db Key Abort (Option Found))
    (found : List Found) (items : List Item) (db : Db) :
    runAlone (Txn.forEach body found items) (fun db => db) db =
      items.foldlM (fun state item => do
        let result ← runAlone (body item) (fun db => db) state.2
        return (state.1 ++ result.1.toList, result.2)) (found, db) := by
  induction items generalizing found db with
  | nil => rfl
  | cons item rest induction =>
      rw [Txn.forEach, run_alone_bind, List.foldlM_cons]
      cases runAlone (body item) (fun db => db) db with
      | error reason => rfl
      | ok result => exact induction _ result.2

/-- What a transaction meets among others it meets alone. -/
theorem run_alone_meets {rely : List Key → Db → Db → Prop}
    {ended : Value → List Key → (Db → Db) → Db → Prop} {aborted : Abort → List Key → Db → Prop}
    {transaction : Txn Db Key Abort Value} {held : List Key} {pending : Db → Db} {db : Db}
    (still : ∀ held, rely held db db)
    (meets : transaction.Meets rely ended aborted held pending db) :
    (∀ value after, runAlone transaction pending db = .ok (value, after) →
      ∃ held pending, after = pending db ∧ ended value held pending db) ∧
    ∀ reason, runAlone transaction pending db = .error reason → ∃ held, aborted reason held db := by
  induction transaction generalizing held pending with
  | done value =>
      refine ⟨fun value after result => ?_, nofun⟩
      cases result
      exact ⟨held, pending, rfl, meets⟩
  | rollback reason =>
      refine ⟨nofun, fun reason result => ?_⟩
      cases result
      exact ⟨held, meets⟩
  | lock key next induction => exact induction (meets db (still held))
  | lockFree wanted limit next induction =>
      exact induction _ (meets db (still held) _ (List.take_sublist _ _))
  | query next induction => exact induction _ (meets db (still held))
  | write update next induction => exact induction meets

variable {Drift : Type} {contract : Contract Db Key Abort Value Request}
  {program : Request → Db → Txn Db Key Abort Value} {drift : Drift → Db → Db}

/-- A verified transaction that runs alone does what it promises. -/
theorem run_alone_commits (verified : contract.Verified program drift) {request : Request}
    {db after : Db} {value : Value} (holds : contract.invariant db)
    (committed : runAlone (program request db) (fun db => db) db = .ok (value, after)) :
    contract.invariant after ∧ contract.onCommit request db value db after := by
  have meets := run_alone_meets (fun held => Contract.rely_refl holds)
    (verified.requests request db holds)
  obtain ⟨held, pending, rfl, committable⟩ := meets.1 value after committed
  obtain ⟨invariant, _, _, promised⟩ := committable db (Contract.rely_refl holds)
  exact ⟨invariant, promised⟩

end Alone

end CommitmentOptimizer.Foundations.TransactionHistory
