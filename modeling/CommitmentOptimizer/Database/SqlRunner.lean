import CommitmentOptimizer.Database.AppliedPlans
import CommitmentOptimizer.Foundations.Schedules

/-!
# Runs of a plan

`sql-runner.ts` with `sql-runner-cleanup.ts`, for one kind and so for one ledger and one
advisory lock. Every call has a connection of its own. A statement is answered, is refused, or
is lost with its connection, and a lost one may still reach the database. The schema is the
list of the files that have been executed; a file holds no transaction control.
-/

namespace CommitmentOptimizer.Database.SqlRunner

open Foundations.AscendingLists
open SqlPlans
open AppliedPlans

set_option autoImplicit false

/-- Files in the order in which `discoverSqlFiles` returns them. -/
structure SqlPlan where
  files : List SqlFile
  ascending : Ascending SqlFile.number files

/-- The plan of `runMigrations`. -/
def discoverPlan (sha256 : List UInt8 → String) (localeCompare : String → String → Int)
    (directory : SqlDirectory) (kind : SqlPlanKind) : Except SqlPlanError SqlPlan :=
  match discovered : discoverSqlFiles sha256 localeCompare directory kind with
  | .error error => .error error
  | .ok files => .ok ⟨files, discovered_ascending discovered⟩

structure SqlRunResult where
  applied : List String
  skipped : List String

inductive SqlRunError where
  | error (message : String)
  | schemaDrift (message : String)
  | aggregate (errors : List SqlRunError) (message : String)

section Database

structure LedgerDb where
  rows : List AppliedSqlFile
  executed : List SqlFile

/-- What an open transaction has executed and recorded. -/
structure Transaction where
  executed : List SqlFile
  rows : List AppliedSqlFile

structure Server where
  db : LedgerDb
  holder : Option Nat

inductive Statement where
  | connect | lock | createLedger | readLedger | begin
  | execute (file : SqlFile)
  | record (file : SqlFile)
  | commit | rollback | unlock | close

inductive Answer where
  | done
  | rows (listed : List AppliedSqlFile)
  | unlocked (held : Bool)

structure Served where
  server : Server
  transaction : Option Transaction
  answer : Answer

/-- The primary key and the unique filename. -/
def clashes (rows : List AppliedSqlFile) (row : AppliedSqlFile) : Bool :=
  rows.any fun other => other.version = row.version || other.filename = row.filename

/-- What a statement does; nothing while it waits for the lock or cannot be carried out. The
rows of the ledger come in the order `listed`. -/
def serve (id : Nat) (listed : List AppliedSqlFile) (server : Server)
    (transaction : Option Transaction) : Statement → Option Served
  | .connect | .createLedger | .close => some ⟨server, transaction, .done⟩
  | .lock =>
      if server.holder = none then some ⟨{ server with holder := some id }, transaction, .done⟩
      else none
  | .readLedger =>
      if listed.Perm server.db.rows then some ⟨server, transaction, .rows listed⟩ else none
  | .begin => some ⟨server, some ⟨[], []⟩, .done⟩
  | .execute file => transaction.map fun current =>
      ⟨server, some { current with executed := current.executed ++ [file] }, .done⟩
  | .record file => transaction.bind fun current =>
      if clashes (server.db.rows ++ current.rows) (fileRow file) = true then none
      else some ⟨server, some { current with rows := current.rows ++ [fileRow file] }, .done⟩
  | .commit => transaction.map fun current =>
      ⟨{ server with db :=
          ⟨server.db.rows ++ current.rows, server.db.executed ++ current.executed⟩ }, none, .done⟩
  | .rollback => some ⟨server, none, .done⟩
  | .unlock =>
      some ⟨{ server with holder := if server.holder = some id then none else server.holder },
        transaction, .unlocked (server.holder = some id)⟩

end Database

section Client

/-- The variables of the loop of `executeSqlPlan`. -/
structure Progress where
  file : SqlFile
  rest : List SqlFile
  appliedRows : List AppliedSqlFile
  result : SqlRunResult

/-- The statement of `runSqlPlan` that comes next. -/
inductive Phase where
  | connecting | locking | creatingLedger | readingLedger
  | beginning (progress : Progress)
  | executing (progress : Progress)
  | recording (progress : Progress)
  | committing (progress : Progress)
  | rollingBack (primary : SqlRunError)
  | unlocking (outcome : Except SqlRunError SqlRunResult)
  | closing (outcome : Except SqlRunError SqlRunResult) (failures : List SqlRunError)
  | finished (outcome : Except SqlRunError SqlRunResult)

def Phase.statement : Phase → Option Statement
  | .connecting => some .connect
  | .locking => some .lock
  | .creatingLedger => some .createLedger
  | .readingLedger => some .readLedger
  | .beginning _ => some .begin
  | .executing progress => some (.execute progress.file)
  | .recording progress => some (.record progress.file)
  | .committing _ => some .commit
  | .rollingBack _ => some .rollback
  | .unlocking _ => some .unlock
  | .closing _ _ => some .close
  | .finished _ => none

/-- The loop of `executeSqlPlan` up to the next file that is applied. -/
def proceed (appliedRows : List AppliedSqlFile) : List SqlFile → SqlRunResult → Phase
  | [], result => .unlocking (.ok result)
  | file :: rest, result =>
      if isApplied appliedRows file.version = true then
        proceed appliedRows rest { result with skipped := result.skipped ++ [file.filename] }
      else .beginning ⟨file, rest, appliedRows, result⟩

def throwCleanupFailures (outcome : Except SqlRunError SqlRunResult) :
    List SqlRunError → Except SqlRunError SqlRunResult
  | [] => outcome
  | failure :: others =>
      match outcome with
      | .error primary => .error (.aggregate (primary :: failure :: others)
          "SQL plan failed and PostgreSQL cleanup also failed.")
      | .ok _ =>
          if others = [] then .error failure
          else .error (.aggregate (failure :: others)
            "Multiple PostgreSQL cleanup operations failed.")

def captureCleanup (operation message : String) : SqlRunError :=
  .error s!"Failed to {operation}: {message}"

/-- `executeSqlPlan` after the rows of the ledger have been read. -/
def executeSqlPlan (kind : SqlPlanKind) (plan : SqlPlan) (listed : List AppliedSqlFile) : Phase :=
  match validateAppliedPlan kind plan.files listed with
  | .error message => .unlocking (.error (.schemaDrift message))
  | .ok appliedRows => proceed appliedRows plan.files ⟨[], []⟩

/-- `result.applied.push(file.filename)` and the next round of the loop. -/
def Progress.next (progress : Progress) : Phase :=
  proceed progress.appliedRows progress.rest
    { progress.result with applied := progress.result.applied ++ [progress.file.filename] }

def succeed (kind : SqlPlanKind) (plan : SqlPlan) : Answer → Phase → Phase
  | _, .connecting => .locking
  | _, .locking => .creatingLedger
  | _, .creatingLedger => .readingLedger
  | .rows listed, .readingLedger => executeSqlPlan kind plan listed
  | _, .readingLedger => .readingLedger
  | _, .beginning progress => .executing progress
  | _, .executing progress => .recording progress
  | _, .recording progress => .committing progress
  | _, .committing progress => progress.next
  | _, .rollingBack primary => .unlocking (.error primary)
  | .unlocked true, .unlocking outcome => .closing outcome []
  | _, .unlocking outcome => .closing outcome [captureCleanup "release PostgreSQL advisory lock"
      "PostgreSQL reported that the advisory lock was not held."]
  | _, .closing outcome failures => .finished (throwCleanupFailures outcome failures)
  | _, .finished outcome => .finished outcome

def failedToApply (kind : SqlPlanKind) (file : SqlFile) (message : String) : SqlRunError :=
  .error s!"Failed to apply {planLabel kind} {file.filename}: {message}"

def fail (kind : SqlPlanKind) (message : String) : Phase → Phase
  | .connecting | .locking => .closing (.error (.error message)) []
  | .creatingLedger | .readingLedger | .beginning _ => .unlocking (.error (.error message))
  | .executing progress | .recording progress | .committing progress =>
      .rollingBack (failedToApply kind progress.file message)
  | .rollingBack primary => .unlocking (.error (.aggregate
      [primary, .error s!"Failed to roll back PostgreSQL transaction: {message}"]
      "SQL file failed and rollback also failed."))
  | .unlocking outcome =>
      .closing outcome [captureCleanup "release PostgreSQL advisory lock" message]
  | .closing outcome failures => .finished (throwCleanupFailures outcome
      (failures ++ [captureCleanup "close PostgreSQL client" message]))
  | .finished outcome => .finished outcome

end Client

section System

/-- One call of `runSqlPlan`. A connection that is not `linked` answers nothing any more; the
statement that was lost with it may be in flight. -/
structure Session where
  plan : SqlPlan
  phase : Phase
  linked : Bool
  inFlight : Option Statement
  transaction : Option Transaction

/-- `accepted` is the plan that was accepted last. -/
structure State where
  server : Server
  accepted : SqlPlan
  sessions : Nat → Option Session

inductive Event where
  | answered (listed : List AppliedSqlFile)
  | refused (message : String)
  | lost (message : String) (sent : Bool)
  | delivered
  | expired

inductive Action where
  | call (id : Nat) (plan : SqlPlan)
  | event (id : Nat) (event : Event)

structure Change where
  server : Server
  accepted : SqlPlan
  session : Session

def accept (kind : SqlPlanKind) (plan accepted : SqlPlan) : Answer → SqlPlan
  | .rows listed =>
      match validateAppliedPlan kind plan.files listed with
      | .error _ => accepted
      | .ok _ => plan
  | _ => accepted

def Statement.isClose : Statement → Bool
  | .close => true
  | _ => false

/-- A refused statement ends its transaction. With the connection the lock and the transaction
of the session go. -/
def change (kind : SqlPlanKind) (server : Server) (accepted : SqlPlan) (id : Nat)
    (session : Session) : Event → Option Change
  | .answered listed =>
      if session.linked = true then
        session.phase.statement.bind fun statement =>
          (serve id listed server session.transaction statement).map fun served =>
            { server := served.server
              accepted := accept kind session.plan accepted served.answer
              session := { session with
                phase := succeed kind session.plan served.answer session.phase
                linked := !statement.isClose
                transaction := served.transaction } }
      else none
  | .refused message => session.phase.statement.map fun _ =>
      { server := server
        accepted := accepted
        session := { session with
          phase := fail kind message session.phase
          transaction := if session.linked = true then none else session.transaction } }
  | .lost message sent =>
      if session.linked = true then
        session.phase.statement.map fun statement =>
          { server := server
            accepted := accepted
            session := { session with
              phase := fail kind message session.phase
              linked := false
              inFlight := if sent = true then some statement else none } }
      else none
  | .delivered => session.inFlight.bind fun statement =>
      (serve id server.db.rows server session.transaction statement).map fun served =>
        { server := served.server
          accepted := accepted
          session := { session with
            inFlight := none
            transaction := served.transaction } }
  | .expired => some
      { server :=
          { server with holder := if server.holder = some id then none else server.holder }
        accepted := accepted
        session := { session with
          linked := false
          inFlight := none
          transaction := none } }

def State.put (state : State) (id : Nat) (change : Change) : State where
  server := change.server
  accepted := change.accepted
  sessions := fun other => if other = id then some change.session else state.sessions other

def called (plan : SqlPlan) : Session where
  plan := plan
  phase := .connecting
  linked := true
  inFlight := none
  transaction := none

def step (kind : SqlPlanKind) (state : State) : Action → Option State
  | .call id plan =>
      match state.sessions id with
      | some _ => none
      | none => some (state.put id ⟨state.server, state.accepted, called plan⟩)
  | .event id event => (state.sessions id).bind fun session =>
      (change kind state.server state.accepted id session event).map (state.put id)

def emptyPlan : SqlPlan := ⟨[], List.Pairwise.nil⟩

def start : State where
  server := ⟨⟨[], []⟩, none⟩
  accepted := emptyPlan
  sessions := fun _ => none

end System

end CommitmentOptimizer.Database.SqlRunner
