import CommitmentOptimizer.Database.SqlRunner

/-!
# The ledger over all runs

In every state that interleaved runs reach the ledger records a beginning of the plan accepted
last, and what it records is what has been executed. The lock carries the argument: who works
on the ledger holds it, also for a COMMIT that is still in flight.
-/

namespace CommitmentOptimizer.Database.MigrationLedger

open Foundations
open Foundations.AscendingLists
open Foundations.Schedules
open SqlPlans
open AppliedPlans
open SqlRunner

set_option autoImplicit false

section Invariant

/-- The files before the next one are recorded; those that the run has passed are named in its
result, those still to come are not applied. -/
def Working (db : LedgerDb) (plan : SqlPlan) (progress : Progress) : Prop :=
  ∃ skipped applied,
    plan.files = (skipped ++ applied) ++ progress.file :: progress.rest ∧
      db.rows = (skipped ++ applied).map fileRow ∧
      progress.result = ⟨applied.map SqlFile.filename, skipped.map SqlFile.filename⟩ ∧
      ∀ file ∈ progress.file :: progress.rest,
        isApplied progress.appliedRows file.version = false

/-- What a run that returns has done. -/
def Completed (db : LedgerDb) (plan : SqlPlan) (result : SqlRunResult) : Prop :=
  ∃ skipped applied, plan.files = skipped ++ applied ∧
    result = ⟨applied.map SqlFile.filename, skipped.map SqlFile.filename⟩ ∧
    plan.files.map fileRow <+: db.rows

/-- The lock is held from its answer to the answer of its release. -/
def critical : Phase → Bool
  | .connecting | .locking | .closing _ _ | .finished _ => false
  | _ => true

def PhaseSound (db : LedgerDb) (accepted plan : SqlPlan) (transaction : Option Transaction) :
    Phase → Prop
  | .beginning progress => accepted = plan ∧ Working db plan progress
  | .executing progress =>
      accepted = plan ∧ Working db plan progress ∧ transaction = some ⟨[], []⟩
  | .recording progress =>
      accepted = plan ∧ Working db plan progress ∧ transaction = some ⟨[progress.file], []⟩
  | .committing progress =>
      accepted = plan ∧ Working db plan progress ∧
        transaction = some ⟨[progress.file], [fileRow progress.file]⟩
  | _ => True

def outcomeOf : Phase → Option (Except SqlRunError SqlRunResult)
  | .unlocking outcome | .closing outcome _ | .finished outcome => some outcome
  | _ => none

/-- A session while nothing but its own statements changes what it knows. -/
structure SessionSound (server : Server) (accepted : SqlPlan) (id : Nat) (session : Session) :
    Prop where
  locked : session.linked = true → critical session.phase = true → server.holder = some id
  phase : session.linked = true →
    PhaseSound server.db accepted session.plan session.transaction session.phase
  quiet : session.linked = true → session.inFlight = none
  flight : session.inFlight = some .commit → server.holder = some id ∧ accepted = session.plan ∧
    ∃ progress, Working server.db session.plan progress ∧
      session.transaction = some ⟨[progress.file], [fileRow progress.file]⟩
  returned : ∀ result, outcomeOf session.phase = some (.ok result) →
    Completed server.db session.plan result

/-- The ledger records a beginning of the plan and what has been executed. -/
structure LedgerSound (server : Server) (accepted : SqlPlan) : Prop where
  executed : server.db.executed.map fileRow = server.db.rows
  beginning : ∃ count, server.db.rows = (accepted.files.take count).map fileRow

structure Sound (state : State) : Prop where
  ledger : LedgerSound state.server state.accepted
  sessions : ∀ id session, state.sessions id = some session →
    SessionSound state.server state.accepted id session

/-- What the step of a session leaves to the others. -/
structure Frame (id : Nat) (server : Server) (accepted : SqlPlan) (next : Change) : Prop where
  others : ∀ other, other ≠ id → server.holder = some other →
    next.server.holder = some other ∧ next.server.db = server.db ∧ next.accepted = accepted
  grows : server.db.rows <+: next.server.db.rows

end Invariant

section Frames

theorem completed_grows {db later : LedgerDb} {plan : SqlPlan} {result : SqlRunResult}
    (completed : Completed db plan result) (grows : db.rows <+: later.rows) :
    Completed later plan result := by
  obtain ⟨skipped, applied, files, names, recorded⟩ := completed
  exact ⟨skipped, applied, files, names, recorded.trans grows⟩

theorem phase_sound_idle {db : LedgerDb} {accepted plan : SqlPlan}
    {transaction : Option Transaction} {phase : Phase} (idle : critical phase = false) :
    PhaseSound db accepted plan transaction phase := by
  cases phase <;> trivial

theorem session_frame {server : Server} {accepted : SqlPlan} {id other : Nat} {session : Session}
    {next : Change} (frame : Frame id server accepted next) (apart : other ≠ id)
    (sound : SessionSound server accepted other session) :
    SessionSound next.server next.accepted other session where
  locked := fun linked inside => (frame.others other apart (sound.locked linked inside)).1
  phase := by
    intro linked
    cases inside : critical session.phase with
    | false => exact phase_sound_idle inside
    | true =>
        obtain ⟨_, db, plan⟩ := frame.others other apart (sound.locked linked inside)
        rw [db, plan]
        exact sound.phase linked
  quiet := sound.quiet
  flight := by
    intro commit
    obtain ⟨holds, accepts, works⟩ := sound.flight commit
    obtain ⟨stillHolds, db, plan⟩ := frame.others other apart holds
    rw [db, plan]
    exact ⟨stillHolds, accepts, works⟩
  returned := fun result returns => completed_grows (sound.returned result returns) frame.grows

/-- A step that leaves the server as it is. -/
theorem frame_same {id : Nat} {server : Server} {accepted : SqlPlan} {session : Session} :
    Frame id server accepted ⟨server, accepted, session⟩ :=
  ⟨fun _ _ holds => ⟨holds, rfl, rfl⟩, List.prefix_rfl⟩

/-- A step that gives the lock back. -/
theorem frame_release {id : Nat} {server : Server} {accepted : SqlPlan} {session : Session} :
    Frame id server accepted
      ⟨{ server with holder := if server.holder = some id then none else server.holder },
        accepted, session⟩ := by
  refine ⟨fun other apart holds => ⟨?_, rfl, rfl⟩, List.prefix_rfl⟩
  dsimp only
  rw [if_neg]
  · exact holds
  · rw [holds]
    exact fun same => apart (Option.some.inj same)

/-- A step that takes a free lock. -/
theorem frame_lock {id : Nat} {server : Server} {accepted : SqlPlan} {session : Session}
    (free : server.holder = none) :
    Frame id server accepted ⟨{ server with holder := some id }, accepted, session⟩ := by
  refine ⟨fun other _ holds => ?_, List.prefix_rfl⟩
  rw [free] at holds
  cases holds

/-- A step of the holder that does not shorten the ledger. -/
theorem frame_holder {id : Nat} {server : Server} {accepted : SqlPlan} {next : Change}
    (holds : server.holder = some id) (grows : server.db.rows <+: next.server.db.rows) :
    Frame id server accepted next := by
  refine ⟨fun other apart held => ?_, grows⟩
  rw [holds] at held
  exact absurd (Option.some.inj held).symm apart

end Frames

section Loop

/-- The loop passes over the files that are applied. -/
theorem proceed_append {appliedRows : List AppliedSqlFile} {skipped rest : List SqlFile}
    (applied : ∀ file ∈ skipped, isApplied appliedRows file.version = true)
    (result : SqlRunResult) :
    proceed appliedRows (skipped ++ rest) result =
      proceed appliedRows rest
        { result with skipped := result.skipped ++ skipped.map SqlFile.filename } := by
  induction skipped generalizing result with
  | nil => simp
  | cons file skipped induction =>
      obtain ⟨first, others⟩ := List.forall_mem_cons.mp applied
      rw [List.cons_append, proceed, if_pos first, induction others]
      simp

/-- Where the loop stands once nothing of what is left is applied. -/
theorem proceed_sound {server : Server} {plan : SqlPlan} {transaction : Option Transaction}
    {skipped applied rest : List SqlFile} {appliedRows : List AppliedSqlFile}
    (files : plan.files = (skipped ++ applied) ++ rest)
    (rows : server.db.rows = (skipped ++ applied).map fileRow)
    (unapplied : ∀ file ∈ rest, isApplied appliedRows file.version = false) :
    let phase := proceed appliedRows rest
      ⟨applied.map SqlFile.filename, skipped.map SqlFile.filename⟩
    critical phase = true ∧ PhaseSound server.db plan plan transaction phase ∧
      ∀ result, outcomeOf phase = some (.ok result) → Completed server.db plan result := by
  cases rest with
  | nil =>
      refine ⟨rfl, trivial, fun result returns => ?_⟩
      cases returns
      rw [List.append_nil] at files
      exact ⟨skipped, applied, files, rfl, [], by rw [List.append_nil, files, rows]⟩
  | cons file rest =>
      have pending := unapplied file List.mem_cons_self
      dsimp only
      rw [proceed, pending]
      refine ⟨rfl, ⟨rfl, skipped, applied, files, rows, rfl, unapplied⟩, fun result returns => ?_⟩
      cases returns

/-- The versions of a ledger differ. -/
theorem ledger_versions {plan : SqlPlan} {rows : List AppliedSqlFile}
    (beginning : ∃ count, rows = (plan.files.take count).map fileRow) :
    Ascending rowNumber rows := by
  obtain ⟨count, same⟩ := beginning
  rw [same]
  exact ascending_rows (ascending_take plan.ascending count)

theorem versions_nodup {rows listed : List AppliedSqlFile} (ascending : Ascending rowNumber rows)
    (same : listed.Perm rows) : (listed.map AppliedSqlFile.version).Nodup := by
  apply (same.map _).nodup_iff.mpr
  rw [List.Nodup, List.pairwise_map]
  apply List.Pairwise.imp _ ascending
  intro earlier later less equal
  rw [rowNumber, rowNumber, equal] at less
  exact Nat.lt_irrefl _ less

/-- What is accepted is a beginning of the plan as the ledger has it. -/
theorem ledger_accepted {kind : SqlPlanKind} {plan : SqlPlan} {rows listed : List AppliedSqlFile}
    (ascending : Ascending rowNumber rows) (same : listed.Perm rows) :
    validateAppliedPlan kind plan.files listed = .ok listed ↔
      ∃ count, rows = (plan.files.take count).map fileRow := by
  rw [accepted_iff plan.ascending (versions_nodup ascending same)]
  constructor
  · intro ⟨count, perm⟩
    exact ⟨count, ascending_eq_of_perm ascending
      (ascending_rows (ascending_take plan.ascending count)) (same.symm.trans perm)⟩
  · intro ⟨count, equal⟩
    exact ⟨count, equal ▸ same⟩

/-- What a beginning in the ledger says of the files of the plan. -/
theorem applied_split (plan : SqlPlan) {rows listed : List AppliedSqlFile} {count : Nat}
    (beginning : rows = (plan.files.take count).map fileRow) (same : listed.Perm rows) :
    (∀ file ∈ plan.files.take count, isApplied listed file.version = true) ∧
      ∀ file ∈ plan.files.drop count, isApplied listed file.version = false := by
  constructor
  · intro file member
    apply applied_of_row
    rw [same.mem_iff, beginning]
    exact List.mem_map_of_mem member
  · intro file member
    rw [Bool.eq_false_iff]
    intro applied
    obtain ⟨row, isRow, version⟩ := is_applied_iff.mp applied
    rw [same.mem_iff, beginning] at isRow
    obtain ⟨chosen, taken, rowOf⟩ := List.mem_map.mp isRow
    rw [← rowOf, file_row_version] at version
    have ascends := plan.ascending
    rw [← List.take_append_drop count plan.files] at ascends
    have less := (List.pairwise_append.mp ascends).2.2 chosen taken file member
    rw [number_of_version version] at less
    exact Nat.lt_irrefl _ less

end Loop

section Steps

variable {kind : SqlPlanKind} {server : Server} {accepted : SqlPlan} {id : Nat}
  {session : Session} {next : Change}

/-- The database has received a COMMIT of the next file of the accepted plan, of the holder of
the lock. -/
def Writes (server : Server) (accepted : SqlPlan) (id : Nat) (plan : SqlPlan) (db : LedgerDb) :
    Prop :=
  server.holder = some id ∧ accepted = plan ∧ ∃ progress, Working server.db plan progress ∧
    db = ⟨server.db.rows ++ [fileRow progress.file], server.db.executed ++ [progress.file]⟩

/-- What every step of a session keeps. -/
structure Kept (server : Server) (accepted : SqlPlan) (id : Nat) (plan : SqlPlan)
    (next : Change) : Prop where
  ledger : LedgerSound next.server next.accepted
  session : SessionSound next.server next.accepted id next.session
  frame : Frame id server accepted next
  writes : next.server.db = server.db ∨ Writes server accepted id plan next.server.db

theorem cleanup_ok {outcome : Except SqlRunError SqlRunResult} {failures : List SqlRunError}
    {result : SqlRunResult} (returns : throwCleanupFailures outcome failures = .ok result) :
    outcome = .ok result := by
  cases failures with
  | nil => exact returns
  | cons failure others =>
      cases outcome with
      | error primary => cases returns
      | ok value =>
          dsimp only [throwCleanupFailures] at returns
          split_ifs at returns

theorem fail_outcome {message : String} {phase : Phase} {result : SqlRunResult}
    (returns : outcomeOf (fail kind message phase) = some (.ok result)) :
    outcomeOf phase = some (.ok result) := by
  cases phase with
  | closing outcome failures =>
      have same := cleanup_ok (Option.some.inj returns)
      rw [same]
      rfl
  | unlocking outcome => exact returns
  | finished outcome => exact returns
  | _ => cases returns

theorem fail_critical {message : String} {phase : Phase}
    (inside : critical (fail kind message phase) = true) : critical phase = true := by
  cases phase <;> first | rfl | cases inside

theorem fail_sound {message : String} {db : LedgerDb} {plan : SqlPlan}
    {transaction : Option Transaction} {phase : Phase} :
    PhaseSound db accepted plan transaction (fail kind message phase) := by
  cases phase <;> trivial

theorem expired_kept (ledger : LedgerSound server accepted)
    (sound : SessionSound server accepted id session)
    (changed : change kind server accepted id session .expired = some next) :
    Kept server accepted id session.plan next := by
  cases changed
  refine ⟨⟨ledger.executed, ledger.beginning⟩, ?_, frame_release, Or.inl rfl⟩
  exact
    { locked := fun linked => absurd linked Bool.false_ne_true
      phase := fun linked => absurd linked Bool.false_ne_true
      quiet := fun _ => rfl
      flight := fun commit => absurd commit.symm (Option.some_ne_none _)
      returned := sound.returned }

theorem refused_kept {message : String} (ledger : LedgerSound server accepted)
    (sound : SessionSound server accepted id session)
    (changed : change kind server accepted id session (.refused message) = some next) :
    Kept server accepted id session.plan next := by
  obtain ⟨statement, _, same⟩ := Option.map_eq_some_iff.mp changed
  rw [← same]
  refine ⟨ledger, ?_, frame_same, Or.inl rfl⟩
  exact
    { locked := fun linked inside => sound.locked linked (fail_critical inside)
      phase := fun _ => fail_sound
      quiet := sound.quiet
      flight := by
        intro commit
        have severed : ¬ session.linked = true := by
          intro linked
          have quiet := sound.quiet linked
          rw [quiet] at commit
          cases commit
        dsimp only
        rw [if_neg severed]
        exact sound.flight commit
      returned := fun result returns => sound.returned result (fail_outcome returns) }

theorem lost_cases {message : String} {sent : Bool}
    (changed : change kind server accepted id session (.lost message sent) = some next) :
    session.linked = true ∧ ∃ statement, session.phase.statement = some statement ∧
      next =
        { server := server
          accepted := accepted
          session := { session with
            phase := fail kind message session.phase
            linked := false
            inFlight := if sent = true then some statement else none } } := by
  unfold change at changed
  dsimp only at changed
  by_cases linked : session.linked = true
  · rw [if_pos linked] at changed
    obtain ⟨statement, states, same⟩ := Option.map_eq_some_iff.mp changed
    exact ⟨linked, statement, states, same.symm⟩
  · rw [if_neg linked] at changed
    cases changed

theorem lost_kept {message : String} {sent : Bool} (ledger : LedgerSound server accepted)
    (sound : SessionSound server accepted id session)
    (changed : change kind server accepted id session (.lost message sent) = some next) :
    Kept server accepted id session.plan next := by
  obtain ⟨linked, statement, states, same⟩ := lost_cases changed
  rw [same]
  refine ⟨ledger, ?_, frame_same, Or.inl rfl⟩
  exact
    { locked := fun linked => absurd linked Bool.false_ne_true
      phase := fun linked => absurd linked Bool.false_ne_true
      quiet := fun linked => absurd linked Bool.false_ne_true
      flight := by
        intro commit
        dsimp only at commit
        split_ifs at commit
        have isCommit := Option.some.inj commit
        rw [isCommit] at states
        have known := sound.phase linked
        have holds := sound.locked linked
        cases at_phase : session.phase with
        | committing progress =>
            rw [at_phase] at known holds
            obtain ⟨accepts, working, transaction⟩ := known
            exact ⟨holds rfl, accepts, progress, working, transaction⟩
        | _ =>
            rw [at_phase] at states
            cases states
      returned := fun result returns => sound.returned result (fail_outcome returns) }

theorem commit_ledger {plan : SqlPlan} {progress : Progress}
    (ledger : LedgerSound server plan) (working : Working server.db plan progress) :
    LedgerSound { server with db :=
      ⟨server.db.rows ++ [fileRow progress.file], server.db.executed ++ [progress.file]⟩ } plan := by
  obtain ⟨skipped, applied, files, rows, _⟩ := working
  constructor
  · rw [List.map_append, ledger.executed]
    rfl
  · refine ⟨(skipped ++ applied).length + 1, ?_⟩
    dsimp only
    rw [files, rows, List.take_length_add_append]
    simp

/-- A COMMIT of the next file by the holder of the lock. -/
theorem commit_served {listed : List AppliedSqlFile} {served : Served}
    {progress : Progress} (transaction : session.transaction =
      some ⟨[progress.file], [fileRow progress.file]⟩)
    (serves : serve id listed server session.transaction .commit = some served) :
    served = ⟨{ server with db := ⟨server.db.rows ++ [fileRow progress.file],
      server.db.executed ++ [progress.file]⟩ }, none, .done⟩ := by
  rw [transaction] at serves
  exact (Option.some.inj serves).symm

/-- A session that has lost its connection knows its result only. -/
theorem severed_sound {plan : SqlPlan} {phase : Phase} {transaction : Option Transaction}
    (returned : ∀ result, outcomeOf phase = some (.ok result) →
      Completed server.db plan result) :
    SessionSound server accepted id
      { plan := plan, phase := phase, linked := false, inFlight := none,
        transaction := transaction } where
  locked := fun linked => absurd linked Bool.false_ne_true
  phase := fun linked => absurd linked Bool.false_ne_true
  quiet := fun _ => rfl
  flight := fun commit => absurd commit.symm (Option.some_ne_none _)
  returned := returned

theorem delivered_kept (ledger : LedgerSound server accepted)
    (sound : SessionSound server accepted id session)
    (changed : change kind server accepted id session .delivered = some next) :
    Kept server accepted id session.plan next := by
  obtain ⟨statement, sends, arrives⟩ := Option.bind_eq_some_iff.mp changed
  obtain ⟨served, serves, same⟩ := Option.map_eq_some_iff.mp arrives
  have severed : session.linked = false := by
    cases linked : session.linked with
    | false => rfl
    | true =>
        rw [sound.quiet linked] at sends
        cases sends
  rw [← same, severed]
  cases statement with
  | commit =>
      obtain ⟨holds, accepts, progress, working, transaction⟩ := sound.flight sends
      rw [commit_served transaction serves]
      have grows : server.db.rows <+: server.db.rows ++ [fileRow progress.file] :=
        List.prefix_append _ _
      rw [accepts] at ledger ⊢
      exact ⟨commit_ledger ledger working,
        severed_sound fun result returns =>
          completed_grows (sound.returned result returns) grows,
        frame_holder holds grows, Or.inr ⟨holds, rfl, progress, working, rfl⟩⟩
  | lock =>
      unfold serve at serves
      dsimp only at serves
      split_ifs at serves with free
      rw [← Option.some.inj serves]
      exact ⟨⟨ledger.executed, ledger.beginning⟩, severed_sound sound.returned, frame_lock free,
        Or.inl rfl⟩
  | unlock =>
      rw [← Option.some.inj serves]
      exact ⟨⟨ledger.executed, ledger.beginning⟩, severed_sound sound.returned, frame_release,
        Or.inl rfl⟩
  | readLedger =>
      unfold serve at serves
      dsimp only at serves
      split_ifs at serves
      rw [← Option.some.inj serves]
      exact ⟨ledger, severed_sound sound.returned, frame_same, Or.inl rfl⟩
  | execute file =>
      obtain ⟨current, _, result⟩ := Option.map_eq_some_iff.mp serves
      rw [← result]
      exact ⟨ledger, severed_sound sound.returned, frame_same, Or.inl rfl⟩
  | record file =>
      obtain ⟨current, _, result⟩ := Option.bind_eq_some_iff.mp serves
      split_ifs at result
      rw [← Option.some.inj result]
      exact ⟨ledger, severed_sound sound.returned, frame_same, Or.inl rfl⟩
  | _ =>
      rw [← Option.some.inj serves]
      exact ⟨ledger, severed_sound sound.returned, frame_same, Or.inl rfl⟩

theorem answered_cases {listed : List AppliedSqlFile}
    (changed : change kind server accepted id session (.answered listed) = some next) :
    session.linked = true ∧ ∃ statement served, session.phase.statement = some statement ∧
      serve id listed server session.transaction statement = some served ∧
      next =
        { server := served.server
          accepted := accept kind session.plan accepted served.answer
          session := { session with
            phase := succeed kind session.plan served.answer session.phase
            linked := !statement.isClose
            transaction := served.transaction } } := by
  unfold change at changed
  dsimp only at changed
  split_ifs at changed with linked
  obtain ⟨statement, states, answers⟩ := Option.bind_eq_some_iff.mp changed
  obtain ⟨served, serves, same⟩ := Option.map_eq_some_iff.mp answers
  exact ⟨linked, statement, served, states, serves, same.symm⟩

/-- A linked session has no statement in flight. -/
theorem linked_sound {plan : SqlPlan} {phase : Phase} {transaction : Option Transaction}
    (locked : critical phase = true → server.holder = some id)
    (known : PhaseSound server.db accepted plan transaction phase)
    (returned : ∀ result, outcomeOf phase = some (.ok result) →
      Completed server.db plan result) :
    SessionSound server accepted id
      { plan := plan, phase := phase, linked := true, inFlight := none,
        transaction := transaction } where
  locked := fun _ => locked
  phase := fun _ => known
  quiet := fun _ => rfl
  flight := fun commit => absurd commit.symm (Option.some_ne_none _)
  returned := returned

theorem reading_kept {listed : List AppliedSqlFile} {plan : SqlPlan}
    {transaction : Option Transaction} (ledger : LedgerSound server accepted)
    (holds : server.holder = some id) (same : listed.Perm server.db.rows) :
    Kept server accepted id plan
      { server := server
        accepted := accept kind plan accepted (.rows listed)
        session :=
          { plan := plan, phase := executeSqlPlan kind plan listed, linked := true,
            inFlight := none, transaction := transaction } } := by
  have ascending := ledger_versions ledger.beginning
  cases validated : validateAppliedPlan kind plan.files listed with
  | error message =>
      have accepts : accept kind plan accepted (.rows listed) = accepted := by
        unfold accept
        dsimp only
        rw [validated]
      have executes : executeSqlPlan kind plan listed =
          .unlocking (.error (.schemaDrift message)) := by
        rw [executeSqlPlan, validated]
      rw [accepts, executes]
      refine ⟨ledger, linked_sound (fun _ => holds) trivial fun result returns => ?_, frame_same,
        Or.inl rfl⟩
      cases returns
  | ok appliedRows =>
      have accepts : accept kind plan accepted (.rows listed) = plan := by
        unfold accept
        dsimp only
        rw [validated]
      have executes : executeSqlPlan kind plan listed =
          proceed appliedRows plan.files ⟨[], []⟩ := by
        rw [executeSqlPlan, validated]
      rw [accepts, executes]
      obtain ⟨rfl, _, _⟩ := (validate_plan_ok plan.ascending).mp validated
      obtain ⟨count, beginning⟩ := (ledger_accepted ascending same).mp validated
      have split : plan.files = (plan.files.take count ++ []) ++ plan.files.drop count := by
        rw [List.append_nil, List.take_append_drop]
      obtain ⟨applied, unapplied⟩ := applied_split plan beginning same
      have stands := @proceed_append appliedRows _ (plan.files.drop count) applied ⟨[], []⟩
      rw [List.take_append_drop] at stands
      have recorded : server.db.rows = (plan.files.take count ++ []).map fileRow := by
        rw [List.append_nil, beginning]
      obtain ⟨_, known, returned⟩ := @proceed_sound server plan transaction _ _ _ _ split recorded
        unapplied
      refine ⟨⟨ledger.executed, count, beginning⟩, ?_, frame_holder holds List.prefix_rfl,
        Or.inl rfl⟩
      dsimp only
      rw [stands]
      exact linked_sound (fun _ => holds) known returned

theorem answered_kept {listed : List AppliedSqlFile} (ledger : LedgerSound server accepted)
    (sound : SessionSound server accepted id session)
    (changed : change kind server accepted id session (.answered listed) = some next) :
    Kept server accepted id session.plan next := by
  obtain ⟨linked, statement, served, states, serves, same⟩ := answered_cases changed
  obtain ⟨plan, phase, _, inFlight, transaction⟩ := session
  cases linked
  obtain rfl : inFlight = none := sound.quiet rfl
  have locked := sound.locked rfl
  have known := sound.phase rfl
  have returned := sound.returned
  rw [same]
  cases phase with
  | connecting =>
      cases states
      cases serves
      refine ⟨ledger, linked_sound (fun inside => ?_) trivial fun result returns => ?_, frame_same,
        Or.inl rfl⟩
      · cases inside
      · cases returns
  | locking =>
      cases states
      unfold serve at serves
      dsimp only at serves
      split_ifs at serves with free
      cases serves
      refine ⟨⟨ledger.executed, ledger.beginning⟩,
        linked_sound (fun _ => rfl) trivial fun result returns => ?_, frame_lock free,
        Or.inl rfl⟩
      cases returns
  | creatingLedger =>
      cases states
      cases serves
      refine ⟨ledger, linked_sound (fun _ => locked rfl) trivial fun result returns => ?_,
        frame_same, Or.inl rfl⟩
      cases returns
  | readingLedger =>
      cases states
      unfold serve at serves
      dsimp only at serves
      split_ifs at serves with order
      cases serves
      exact reading_kept ledger (locked rfl) order
  | beginning progress =>
      cases states
      cases serves
      refine ⟨ledger, linked_sound (fun _ => locked rfl) ⟨known.1, known.2, rfl⟩
        fun result returns => ?_, frame_same, Or.inl rfl⟩
      cases returns
  | executing progress =>
      obtain ⟨accepts, working, rfl⟩ := known
      cases states
      cases serves
      refine ⟨ledger, linked_sound (fun _ => locked rfl) ⟨accepts, working, rfl⟩
        fun result returns => ?_, frame_same, Or.inl rfl⟩
      cases returns
  | recording progress =>
      obtain ⟨accepts, working, rfl⟩ := known
      cases states
      unfold serve at serves
      dsimp only [Option.bind_some] at serves
      split_ifs at serves
      cases serves
      refine ⟨ledger, linked_sound (fun _ => locked rfl) ⟨accepts, working, rfl⟩
        fun result returns => ?_, frame_same, Or.inl rfl⟩
      cases returns
  | committing progress =>
      obtain ⟨rfl, working, rfl⟩ := known
      cases states
      cases serves
      have holds := locked rfl
      have written := commit_ledger ledger working
      have writes : Writes server accepted id accepted
          ⟨server.db.rows ++ [fileRow progress.file], server.db.executed ++ [progress.file]⟩ :=
        ⟨holds, rfl, progress, working, rfl⟩
      obtain ⟨skipped, applied, files, rows, result, unapplied⟩ := working
      have stands : progress.next = proceed progress.appliedRows progress.rest
          ⟨(applied ++ [progress.file]).map SqlFile.filename,
            skipped.map SqlFile.filename⟩ := by
        rw [Progress.next, result, List.map_append]
        rfl
      have split : accepted.files = (skipped ++ (applied ++ [progress.file])) ++ progress.rest := by
        rw [files]
        simp
      have recorded : server.db.rows ++ [fileRow progress.file] =
          (skipped ++ (applied ++ [progress.file])).map fileRow := by
        rw [rows]
        simp
      obtain ⟨_, stillKnown, returns⟩ := @proceed_sound
        { server with db :=
          ⟨server.db.rows ++ [fileRow progress.file], server.db.executed ++ [progress.file]⟩ }
        accepted none _ _ _ _ split recorded (List.forall_mem_cons.mp unapplied).2
      refine ⟨written, ?_, frame_holder holds (List.prefix_append _ _), Or.inr writes⟩
      change SessionSound _ _ _ ⟨accepted, progress.next, true, none, none⟩
      rw [stands]
      exact linked_sound (fun _ => holds) stillKnown returns
  | rollingBack primary =>
      cases states
      cases serves
      refine ⟨ledger, linked_sound (fun _ => locked rfl) trivial fun result returns => ?_,
        frame_same, Or.inl rfl⟩
      cases returns
  | unlocking outcome =>
      cases states
      cases serves
      have held : decide (server.holder = some id) = true := decide_eq_true (locked rfl)
      refine ⟨⟨ledger.executed, ledger.beginning⟩, ?_, frame_release, Or.inl rfl⟩
      dsimp only
      rw [held]
      exact linked_sound (fun inside => absurd inside Bool.false_ne_true) trivial returned
  | closing outcome failures =>
      cases states
      cases serves
      refine ⟨ledger, severed_sound fun result returns => ?_, frame_same, Or.inl rfl⟩
      have same := cleanup_ok (Option.some.inj returns)
      exact returned result (congrArg some same)
  | finished outcome => cases states

theorem event_kept {event : Event} (ledger : LedgerSound server accepted)
    (sound : SessionSound server accepted id session)
    (changed : change kind server accepted id session event = some next) :
    Kept server accepted id session.plan next := by
  cases event with
  | answered listed => exact answered_kept ledger sound changed
  | refused message => exact refused_kept ledger sound changed
  | lost message sent => exact lost_kept ledger sound changed
  | delivered => exact delivered_kept ledger sound changed
  | expired => exact expired_kept ledger sound changed

end Steps

section Runs

variable {kind : SqlPlanKind}

theorem sound_start : Sound start where
  ledger := ⟨rfl, 0, rfl⟩
  sessions := fun id session found => by cases found

theorem called_sound {server : Server} {accepted : SqlPlan} {id : Nat} (plan : SqlPlan) :
    SessionSound server accepted id (called plan) :=
  linked_sound (fun inside => absurd inside Bool.false_ne_true) trivial
    fun result returns => by cases returns

theorem call_taken {state next : State} {id : Nat} {plan : SqlPlan}
    (taken : step kind state (.call id plan) = some next) :
    next = state.put id ⟨state.server, state.accepted, called plan⟩ := by
  unfold step at taken
  dsimp only at taken
  cases found : state.sessions id with
  | some session =>
      rw [found] at taken
      cases taken
  | none =>
      rw [found] at taken
      exact (Option.some.inj taken).symm

theorem step_sound {state next : State} {action : Action} (sound : Sound state)
    (taken : step kind state action = some next) : Sound next := by
  cases action with
  | call id plan =>
      rw [call_taken taken]
      refine ⟨sound.ledger, fun other session isSession => ?_⟩
      dsimp only [State.put] at isSession ⊢
      split_ifs at isSession with same
      · rw [← Option.some.inj isSession]
        exact called_sound plan
      · exact sound.sessions other session isSession
  | event id event =>
      obtain ⟨session, found, moves⟩ := Option.bind_eq_some_iff.mp taken
      obtain ⟨changed, changes, same⟩ := Option.map_eq_some_iff.mp moves
      have kept := event_kept sound.ledger (sound.sessions id session found) changes
      rw [← same]
      refine ⟨kept.ledger, fun other standing isSession => ?_⟩
      dsimp only [State.put] at isSession ⊢
      split_ifs at isSession with own
      · rw [← Option.some.inj isSession, own]
        exact kept.session
      · exact session_frame kept.frame own (sound.sessions other standing isSession)

theorem reachable_sound {state : State} (reached : Reachable (step kind) start state) :
    Sound state :=
  reachable_preserves (fun _ _ _ sound taken => step_sound sound taken) sound_start reached

/-- Over all interleavings of runs that fail and die anywhere: the ledger records a beginning of
the plan accepted last, what it records has been executed once and with it, and it changes only
by a COMMIT of the next file of that plan. -/
theorem ledger_of_runs {state : State} (reached : Reachable (step kind) start state) :
    state.server.db.executed.map fileRow = state.server.db.rows ∧
      Ascending rowNumber state.server.db.rows ∧
      (∃ count, state.server.db.rows = (state.accepted.files.take count).map fileRow) ∧
      ∀ action next, step kind state action = some next →
        next.server.db = state.server.db ∨
          ∃ id session file done rest, state.sessions id = some session ∧
            state.server.holder = some id ∧ state.accepted = session.plan ∧
            session.plan.files = done ++ file :: rest ∧
            state.server.db.rows = done.map fileRow ∧
            next.server.db =
              ⟨state.server.db.rows ++ [fileRow file], state.server.db.executed ++ [file]⟩ := by
  have sound := reachable_sound reached
  refine ⟨sound.ledger.executed, ledger_versions sound.ledger.beginning, sound.ledger.beginning,
    fun action next taken => ?_⟩
  cases action with
  | call id plan =>
      rw [call_taken taken]
      exact Or.inl rfl
  | event id event =>
      obtain ⟨session, found, moves⟩ := Option.bind_eq_some_iff.mp taken
      obtain ⟨changed, changes, same⟩ := Option.map_eq_some_iff.mp moves
      rw [← same]
      rcases (event_kept sound.ledger (sound.sessions id session found) changes).writes with
        kept | ⟨holds, accepts, progress, ⟨skipped, applied, files, rows, _⟩, writes⟩
      · exact Or.inl kept
      · exact Or.inr ⟨id, session, progress.file, skipped ++ applied, progress.rest, found, holds,
          accepts, files, rows, writes⟩

def examplePlan : SqlPlan := ⟨[createTenants, createUsers], examples_ascending⟩

/-- A run of two files, cut off by the loss of its second COMMIT, which still arrives, and a
second run of the same plan. -/
def exampleSchedule : List Action :=
  [.call 0 examplePlan] ++ List.replicate 11 (.event 0 (.answered [])) ++
    [.event 0 (.lost "Connection terminated" true), .event 0 .delivered, .event 0 .expired,
      .call 1 examplePlan] ++
    List.replicate 6 (.event 1 (.answered [fileRow createUsers, fileRow createTenants]))

def exampleResult : SqlRunResult where
  applied := []
  skipped := ["0001_create_tenants.sql", "0002_create_users.sql"]

theorem example_schedule_ends :
    ((execute (step .migration) start exampleSchedule).bind fun state =>
      (state.sessions 1).map Session.phase) = some (.finished (.ok exampleResult)) := rfl

theorem example_ledger : ∃ state, execute (step .migration) start exampleSchedule = some state ∧
    state.server.db.executed.map fileRow = state.server.db.rows ∧
    ∃ count, state.server.db.rows = (state.accepted.files.take count).map fileRow := by
  obtain ⟨state, arrives, _⟩ := Option.bind_eq_some_iff.mp example_schedule_ends
  obtain ⟨executed, _, beginning, _⟩ := ledger_of_runs ⟨exampleSchedule, arrives⟩
  exact ⟨state, arrives, executed, beginning⟩

end Runs

end CommitmentOptimizer.Database.MigrationLedger
