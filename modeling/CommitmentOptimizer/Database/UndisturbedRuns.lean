import CommitmentOptimizer.Database.MigrationLedger

/-!
# Undisturbed runs

A run whose statements are all answered comes to its end: it applies what its plan has beyond
the ledger, or it is rejected and leaves the ledger as it is.
-/

namespace CommitmentOptimizer.Database.UndisturbedRuns

open Foundations
open Foundations.AscendingLists
open Foundations.Schedules
open SqlPlans
open AppliedPlans
open SqlRunner
open MigrationLedger

set_option autoImplicit false

variable {kind : SqlPlanKind} {id : Nat}

/-- Only answers to the statements of one session. -/
def Answers (id : Nat) (schedule : List Action) : Prop :=
  ∀ action ∈ schedule, ∃ listed, action = .event id (.answered listed)

/-- `after` comes from `before` through answers to the statements of one session. -/
def Comes (kind : SqlPlanKind) (id : Nat) (before after : State) : Prop :=
  ∃ schedule, Answers id schedule ∧ execute (step kind) before schedule = some after

theorem comes_refl (state : State) : Comes kind id state state :=
  ⟨[], fun _ member => absurd member List.not_mem_nil, rfl⟩

theorem comes_trans {first second third : State} (left : Comes kind id first second)
    (right : Comes kind id second third) : Comes kind id first third := by
  obtain ⟨before, beforeOwn, toSecond⟩ := left
  obtain ⟨after, afterOwn, toThird⟩ := right
  refine ⟨before ++ after, fun action member => ?_,
    execute_append_some.mpr ⟨second, toSecond, toThird⟩⟩
  rcases List.mem_append.mp member with earlier | later
  · exact beforeOwn action earlier
  · exact afterOwn action later

/-- A statement that is answered. -/
theorem comes_answered {state : State} {plan : SqlPlan} {phase : Phase}
    {transaction : Option Transaction}
    (found : state.sessions id = some ⟨plan, phase, true, none, transaction⟩)
    {statement : Statement} (states : phase.statement = some statement)
    (listed : List AppliedSqlFile) {served : Served}
    (serves : serve id listed state.server transaction statement = some served) :
    ∃ next, Comes kind id state next ∧ next.server = served.server ∧
      next.sessions id = some ⟨plan, succeed kind plan served.answer phase,
        !statement.isClose, none, served.transaction⟩ := by
  have changes : change kind state.server state.accepted id
      ⟨plan, phase, true, none, transaction⟩ (.answered listed) = some
        { server := served.server
          accepted := accept kind plan state.accepted served.answer
          session := ⟨plan, succeed kind plan served.answer phase, !statement.isClose, none,
            served.transaction⟩ } := by
    unfold change
    dsimp only
    rw [if_pos rfl, states, Option.bind_some, serves]
    rfl
  have taken : step kind state (.event id (.answered listed)) = some (state.put id
      { server := served.server
        accepted := accept kind plan state.accepted served.answer
        session := ⟨plan, succeed kind plan served.answer phase, !statement.isClose, none,
          served.transaction⟩ }) := by
    unfold step
    dsimp only
    rw [found, Option.bind_some, changes]
    rfl
  refine ⟨_, ⟨[.event id (.answered listed)], ?_, execute_cons_some.mpr ⟨_, taken, rfl⟩⟩, rfl,
    if_pos rfl⟩
  intro action member
  exact ⟨listed, List.mem_singleton.mp member⟩

/-- The next file of a plan clashes with nothing that the ledger records. -/
theorem next_fits {plan : SqlPlan} {done rest : List SqlFile} {file : SqlFile}
    (files : plan.files = done ++ file :: rest) :
    clashes (done.map fileRow ++ []) (fileRow file) = false := by
  rw [Bool.eq_false_iff]
  intro clash
  obtain ⟨row, isRow, same⟩ := List.any_eq_true.mp clash
  rw [List.append_nil] at isRow
  obtain ⟨earlier, isDone, rowOf⟩ := List.mem_map.mp isRow
  have ascends := plan.ascending
  rw [files] at ascends
  have less := (List.pairwise_append.mp ascends).2.2 earlier isDone file List.mem_cons_self
  have version : earlier.version = file.version := by
    rw [← rowOf, Bool.or_eq_true, decide_eq_true_eq, decide_eq_true_eq] at same
    rcases same with version | filename
    · exact version
    · exact version_of_filename filename
  rw [number_of_version version] at less
  exact Nat.lt_irrefl _ less

/-- The loop applies what is left, file after file. -/
theorem applies_rest {plan : SqlPlan} {appliedRows : List AppliedSqlFile}
    {skipped rest : List SqlFile} {applied : List SqlFile} {state : State}
    {transaction : Option Transaction}
    (files : plan.files = (skipped ++ applied) ++ rest)
    (unapplied : ∀ file ∈ rest, isApplied appliedRows file.version = false)
    (rows : state.server.db.rows = (skipped ++ applied).map fileRow)
    (found : state.sessions id = some
      ⟨plan, proceed appliedRows rest
        ⟨applied.map SqlFile.filename, skipped.map SqlFile.filename⟩, true, none, transaction⟩) :
    ∃ next, Comes kind id state next ∧ next.server.holder = state.server.holder ∧
      next.server.db.rows = plan.files.map fileRow ∧
      ∃ last, next.sessions id = some
        ⟨plan, .unlocking (.ok ⟨(applied ++ rest).map SqlFile.filename,
          skipped.map SqlFile.filename⟩), true, none, last⟩ := by
  induction rest generalizing applied state transaction with
  | nil =>
      rw [List.append_nil] at files ⊢
      refine ⟨state, comes_refl state, rfl, ?_, transaction, found⟩
      rw [rows, files]
  | cons file rest induction =>
      have pending := unapplied file List.mem_cons_self
      rw [proceed, pending, if_neg Bool.false_ne_true] at found
      obtain ⟨begun, toBegun, begunServer, isBegun⟩ := @comes_answered kind _ _ _ _ _ found _ rfl []
        ⟨state.server, some ⟨[], []⟩, .done⟩ rfl
      obtain ⟨ran, toRan, ranServer, isRan⟩ := @comes_answered kind _ _ _ _ _ isBegun _ rfl []
        ⟨begun.server, some ⟨[file], []⟩, .done⟩ rfl
      have fits : serve id [] ran.server (some ⟨[file], []⟩) (.record file) =
          some ⟨ran.server, some ⟨[file], [fileRow file]⟩, .done⟩ := by
        unfold serve
        dsimp only [Option.bind_some]
        rw [ranServer, begunServer, rows, next_fits files, if_neg Bool.false_ne_true]
        rfl
      obtain ⟨recorded, toRecorded, recordedServer, isRecorded⟩ :=
        @comes_answered kind _ _ _ _ _ isRan _ rfl [] _ fits
      obtain ⟨committed, toCommitted, committedServer, isCommitted⟩ :=
        @comes_answered kind _ _ _ _ _ isRecorded _ rfl []
          ⟨{ recorded.server with db := ⟨recorded.server.db.rows ++ [fileRow file],
            recorded.server.db.executed ++ [file]⟩ }, none, .done⟩ rfl
      have nextPhase : proceed appliedRows rest
          ⟨applied.map SqlFile.filename ++ [file.filename], skipped.map SqlFile.filename⟩ =
          proceed appliedRows rest ⟨(applied ++ [file]).map SqlFile.filename,
            skipped.map SqlFile.filename⟩ := by
        rw [List.map_append]
        rfl
      have standing : committed.sessions id = some ⟨plan, proceed appliedRows rest
          ⟨(applied ++ [file]).map SqlFile.filename, skipped.map SqlFile.filename⟩, true, none,
          none⟩ := by
        rw [isCommitted, ← nextPhase]
        rfl
      have server : committed.server = { state.server with db :=
          ⟨state.server.db.rows ++ [fileRow file], state.server.db.executed ++ [file]⟩ } := by
        rw [committedServer, recordedServer, ranServer, begunServer]
      obtain ⟨next, toNext, holder, finalRows, last, isLast⟩ := induction
        (by rw [files]; simp) (List.forall_mem_cons.mp unapplied).2
        (by rw [server, rows]; simp) standing
      refine ⟨next, comes_trans (comes_trans (comes_trans (comes_trans toBegun toRan) toRecorded)
        toCommitted) toNext, by rw [holder, server], finalRows, last, ?_⟩
      rw [isLast, List.append_assoc]
      rfl

/-- `finalizeSqlClient` with the lock held. -/
theorem ends {plan : SqlPlan} {outcome : Except SqlRunError SqlRunResult} {state : State}
    {transaction : Option Transaction} (holds : state.server.holder = some id)
    (found : state.sessions id =
      some ⟨plan, .unlocking outcome, true, none, transaction⟩) :
    ∃ next session, Comes kind id state next ∧ next.server.holder = none ∧
      next.server.db = state.server.db ∧ next.sessions id = some session ∧
      session.phase = .finished outcome := by
  obtain ⟨freed, toFreed, freedServer, isFreed⟩ := @comes_answered kind _ _ _ _ _ found _ rfl [] _
    rfl
  have held : decide (state.server.holder = some id) = true := decide_eq_true holds
  dsimp only at isFreed freedServer
  rw [held] at isFreed
  obtain ⟨next, toNext, nextServer, isNext⟩ := @comes_answered kind _ _ _ _ _ isFreed _ rfl [] _ rfl
  refine ⟨next, _, comes_trans toFreed toNext, ?_, ?_, isNext, rfl⟩
  · rw [nextServer, freedServer]
    exact if_pos holds
  · rw [nextServer, freedServer]

end CommitmentOptimizer.Database.UndisturbedRuns
