import CommitmentOptimizer.Foundations.RowLocking
import CommitmentOptimizer.Imports.ImportIsolation
import CommitmentOptimizer.Imports.ImportTables

/-!
# The transaction of an import

`createImport` of `imports-repository.ts` in its tenant transaction, statement by
statement, for the results that the parsers return.
-/

namespace CommitmentOptimizer.Imports.ImportTransactions

open Foundations
open Foundations.RowLocking
open Foundations.SqlConstraints
open Recommendations.RecommendationLifecycle
open ImportIsolation
open ImportRequests
open ImportTables
open UsageParsers
open UsageRows

set_option autoImplicit false

inductive ImportsKey where
  | tenant (id : Uuid)
  | batch (id : Uuid)
  | item (id : Uuid)
  deriving DecidableEq

inductive ImportsAbort where
  | failure (message : String)
  | database (error : DbError)
  deriving DecidableEq, Repr

abbrev ImportsTxn := Txn ImportsDb ImportsKey ImportsAbort

namespace ImportsDb

def insertBatch (row : ImportBatch) (db : ImportsDb) : ImportsDb :=
  { db with importBatches := db.importBatches.insert row }

def putBatch (row : ImportBatch) (db : ImportsDb) : ImportsDb :=
  { db with importBatches := db.importBatches.put row }

def insertItem (row : UsageLineItemRow) (db : ImportsDb) : ImportsDb :=
  { db with usageLineItems := db.usageLineItems.insert row }

end ImportsDb

/-- The argument of `createImport`, and the identifiers that `gen_random_uuid()` draws for
its rows. -/
structure NewImport where
  input : BatchInput
  batchId : Uuid
  itemId : Nat → Uuid

/-- A new import whose result a parser has returned. -/
structure ImportRequest (runtime : ImportRuntime) extends NewImport where
  bytes : List UInt8
  account : Provider
  returned : parseImport runtime input.create.source input.create.format bytes account
    input.create.controlTotals = some input.parseResult

def schemaVersion (source : ImportSource) (format : ImportFormat) : String :=
  source.text ++ "_" ++ format.text ++ ":v1"

section Rows

/-- The row of `INSERT INTO import_batches`. -/
def queuedBatch (request : NewImport) (now : Instant) : ImportBatch where
  id := request.batchId
  tenantId := request.input.tenantId
  cloudAccountId := some request.input.create.cloudAccountId
  source := request.input.create.source
  format := request.input.create.format
  status := .queued
  objectUri := request.input.create.objectUri
  schemaVersion := schemaVersion request.input.create.source request.input.create.format
  lineCount := 0
  errorDetails := .object []
  parserWarnings := .array []
  createdByUserId := request.input.createdByUserId
  createdAt := now
  updatedAt := now

/-- The rows of a request, in the order of the parsed lines. -/
def itemRows (request : NewImport) (now : Instant) (lines : List UsageLineItem) :
    List UsageLineItemRow :=
  lines.zipIdx.map fun line =>
    usageLineItem request.input.tenantId request.batchId request.input.create.cloudAccountId
      (request.itemId line.2) now line.1

end Rows

section Statements

variable (octets : Json → Nat)

def insertBatch (new : ImportBatch) : ImportsTxn Unit := do
  Txn.lockRow (.batch new.id)
  let db ← Txn.view
  Txn.attempt ((insertImportBatchRow octets db new).mapError .database)
  Txn.save (ImportsDb.insertBatch new)

def insertItem (new : UsageLineItemRow) : ImportsTxn (Option UsageLineItemRow) := do
  Txn.lockRow (.item new.id)
  let db ← Txn.view
  Txn.attempt ((insertUsageLineItemRow db new).mapError .database)
  Txn.save (ImportsDb.insertItem new)
  return some new

/-- Without a row, `freezeRow(result.rows[0]!)` throws. -/
def updateBatch (now : Instant) (batchId : Uuid) (update : BatchUpdate) :
    ImportsTxn ImportBatch := do
  let found ← Txn.selectForUpdate (.batch batchId) fun db => db.importBatches.find batchId
  match found with
  | none => Txn.abort (.failure "Cannot read properties of undefined.")
  | some old =>
      let row ← Txn.attempt ((updatedBatch octets now update old).mapError .database)
      Txn.save (ImportsDb.putBatch row)
      return row

/-- `createImport`; `now()` is the clock at `BEGIN`. -/
def createImport (request : NewImport) (now : Instant) : ImportsTxn ImportBatch := do
  insertBatch octets (queuedBatch request now)
  match request.input.parseResult with
  | .parsed parsed =>
      let _ ← Txn.forEach insertItem [] (itemRows request now parsed.rows)
      updateBatch octets now request.batchId
        ⟨.completed, parsed.lineCount, .object [], parsed.parserWarnings⟩
  | .quarantined lineCount errorDetails parserWarnings =>
      updateBatch octets now request.batchId
        ⟨.quarantined, lineCount, errorDetails, parserWarnings⟩

/-- `withTenantTransaction`; `begun` is the database at `BEGIN`. -/
def tenantImport (request : NewImport) (begun : ImportsDb) : ImportsTxn ImportBatch := do
  let tenant ← Txn.selectForUpdate (.tenant request.input.tenantId)
    fun db => if db.tenants request.input.tenantId then some request.input.tenantId else none
  match tenant with
  | none => Txn.abort (.failure "Authenticated tenant vanished.")
  | some _ => createImport octets request begun.clock

def importProgram {runtime : ImportRuntime} (request : ImportRequest runtime) :
    ImportsDb → ImportsTxn ImportBatch :=
  tenantImport octets request.toNewImport

end Statements

/-- What the other parts of the service change: tenants, accounts and users. -/
inductive ImportsDrift where
  | tick (elapsed : Nat)
  | tenants (current : Uuid → Bool)
  | cloudAccounts (current : Uuid → Uuid → Bool)
  | users (current : Uuid → Uuid → Bool)

def importsDrift : ImportsDrift → ImportsDb → ImportsDb
  | .tick elapsed, db => { db with clock := db.clock + elapsed }
  | .tenants current, db => { db with tenants := current }
  | .cloudAccounts current, db => { db with cloudAccounts := current }
  | .users current, db => { db with users := current }

/-- One statement of one of the interleaved imports, the end of one that failed, or a drift. -/
abbrev importsStep (octets : Json → Nat) (runtime : ImportRuntime) :=
  step (@importProgram octets runtime) importsDrift

section Counts

variable {runtime : ImportRuntime} {totals : List ImportControlTotal} {parsed : ParsedUsage}

/-- The parsers count the rows that they return. -/
def Counted (result : ImportParseResult) : Prop :=
  ∀ parsed, result = .parsed parsed → parsed.lineCount = parsed.rows.length

theorem quarantined_counted (lineCount : Nat) (details : Json) (warnings : List Json) :
    Counted (.quarantined lineCount details warnings) := nofun

theorem finish_rows_counted {Row : Type} {read : Row → Except String UsageLineItem} {line : Nat}
    {rows : List Row} {invalidWarnings warnings : List Json} :
    Counted (finishRows rows.length (readRows read line rows) totals invalidWarnings warnings) := by
  intro parsed accepted
  obtain ⟨read, count⟩ := finish_rows_parsed accepted
  rw [count, (read_rows_forall₂ read).length_eq]

theorem canonical_rows_counted (rows : List (String → Foundations.JsValue)) (account : Provider)
    (label : String) (warnings : List Json) :
    Counted (parseCanonicalRows runtime rows account totals label warnings) := by
  unfold parseCanonicalRows
  split_ifs
  · exact quarantined_counted _ _ _
  · exact finish_rows_counted

theorem synthetic_counted (bytes : List UInt8) (account : Provider) :
    Counted (parseSyntheticCsvImport runtime bytes account totals) := by
  unfold parseSyntheticCsvImport
  split
  · dsimp only
    split
    · exact quarantined_counted _ _ _
    · exact finish_rows_counted
  · exact quarantined_counted _ _ _

theorem aws_counted (bytes : List UInt8) (account : Provider) :
    Counted (parseAwsCurCsvImport runtime bytes account totals) := by
  intro parsed accepted
  obtain ⟨header, rows, _, read, count⟩ := aws_import_read accepted
  rw [count, read.length_eq]

theorem canonical_counted {bytes : List UInt8} {account : Provider} {format : CanonicalFormat}
    {result : ImportParseResult}
    (returned : parseCanonicalUsageImport runtime bytes account totals format = some result) :
    Counted result := by
  cases format with
  | csv =>
      obtain rfl := Option.some.inj returned
      unfold parseCanonicalCsvImport
      split
      · dsimp only
        split
        · exact quarantined_counted _ _ _
        · exact canonical_rows_counted _ _ _ _
      · exact quarantined_counted _ _ _
  | parquet =>
      obtain ⟨rows, _, same⟩ := Option.bind_eq_some_iff.mp returned
      obtain rfl := Option.some.inj same
      exact canonical_rows_counted _ _ _ _
  | snapshot format =>
      obtain rfl := Option.some.inj returned
      unfold parseCanonicalJsonImport
      split
      · exact quarantined_counted _ _ _
      · dsimp only
        split
        · split_ifs
          · exact quarantined_counted _ _ _
          · exact quarantined_counted _ _ _
          · exact canonical_rows_counted _ _ _ _
        · exact quarantined_counted _ _ _
      · exact quarantined_counted _ _ _

theorem parse_import_counted {source : ImportSource} {format : ImportFormat} {bytes : List UInt8}
    {account : Provider} {result : ImportParseResult}
    (returned : parseImport runtime source format bytes account totals = some result) :
    Counted result := by
  unfold parseImport at returned
  split_ifs at returned
  · obtain rfl := Option.some.inj returned
    exact aws_counted _ _
  · obtain rfl := Option.some.inj returned
    exact synthetic_counted _ _
  · obtain rfl := Option.some.inj returned
    exact aws_counted _ _
  · exact canonical_counted returned

end Counts

end CommitmentOptimizer.Imports.ImportTransactions
