import CommitmentOptimizer.Foundations.ColumnCasts
import CommitmentOptimizer.Foundations.KeyedTable
import CommitmentOptimizer.Imports.ImportRequests

/-!
# The tables of the imports

Rows and constraints of `import_batches` and `usage_line_items` (migrations 0010 and
0011), and what each statement of an import does to one row.
-/

namespace CommitmentOptimizer.Imports.ImportTables

open Foundations
open Foundations.CalendarDates
open Foundations.ColumnCasts
open Foundations.SqlConstraints
open ImportRequests
open Recommendations.RecommendationLifecycle
open UsageParsers
open UsageRows

set_option autoImplicit false

section Batches

inductive ImportStatus where
  | queued | processing | completed | failed | quarantined | cancelled
  deriving DecidableEq, Repr

structure ImportBatch where
  id : Uuid
  tenantId : Uuid
  cloudAccountId : Option Uuid
  source : ImportSource
  format : ImportFormat
  status : ImportStatus
  objectUri : String
  schemaVersion : String
  lineCount : Int
  errorDetails : Json
  parserWarnings : Json
  createdByUserId : Option Uuid
  createdAt : Instant
  updatedAt : Instant

abbrev ImportBatchTable := KeyedTable fun row : ImportBatch => row.id

def errorKeys : List String :=
  ["stack", "stack_trace", "raw_file", "raw_bytes", "raw_row", "raw_rows", "row_payload",
    "credentials"]

/-- The states with error details. -/
def ImportStatus.explained : ImportStatus → Bool
  | failed | quarantined | cancelled => true
  | queued | processing | completed => false

def isArray : Json → Bool
  | .array _ => true
  | _ => false

/-- `octets` is the length of a `jsonb` value's text. -/
def ImportBatch.checks (octets : Json → Nat) (row : ImportBatch) : List (String × Bool) :=
  [("import_batches_object_uri_trimmed_check", isCanonicalText 2048 row.objectUri),
   ("import_batches_schema_version_trimmed_check", isCanonicalText 128 row.schemaVersion),
   ("import_batches_line_count_nonnegative_check",
     0 ≤ row.lineCount && (row.status != .queued || row.lineCount == 0)),
   ("import_batches_error_details_object_check",
     row.errorDetails.isObject && octets row.errorDetails ≤ 8192 &&
       !row.errorDetails.hasAnyKey errorKeys &&
       (row.errorDetails != .object []) == row.status.explained),
   ("import_batches_parser_warnings_array_check",
     isArray row.parserWarnings && octets row.parserWarnings ≤ 65536 &&
       (row.status != .queued || row.parserWarnings == .array [])),
   ("import_batches_timestamps_ordered_check", row.createdAt ≤ row.updatedAt)]

end Batches

section UsageLineItems

/-- Time stamps count microseconds, quantities hundred-millionths. -/
structure UsageLineItemRow where
  id : Uuid
  tenantId : Uuid
  importBatchId : Uuid
  cloudAccountId : Uuid
  provider : Provider
  serviceCode : String
  sku : String
  region : String
  usageStart : Int
  usageEnd : Int
  usageQuantity : Int
  usageUnit : String
  onDemandCostCents : Int
  realizedCostCents : Int
  commitmentAppliedCents : Int
  tags : Json
  createdAt : Instant

abbrev UsageLineItemTable := KeyedTable fun row : UsageLineItemRow => row.id

/-- `x = btrim(x) AND x <> '' AND x !~ '[[:cntrl:]]'`. -/
def isTrimmedText (text : String) : Bool :=
  text == btrim text && text != "" && !text.toList.any isControl

def UsageLineItemRow.checks (row : UsageLineItemRow) : List (String × Bool) :=
  [("usage_line_items_service_code_canonical_check", isTrimmedText row.serviceCode),
   ("usage_line_items_sku_canonical_check", isTrimmedText row.sku),
   ("usage_line_items_region_canonical_check", isTrimmedText row.region),
   ("usage_line_items_usage_unit_canonical_check", isTrimmedText row.usageUnit),
   ("usage_line_items_usage_period_check", row.usageStart < row.usageEnd),
   ("usage_line_items_usage_quantity_nonnegative_check", 0 ≤ row.usageQuantity),
   ("usage_line_items_costs_nonnegative_check",
     0 ≤ row.onDemandCostCents && 0 ≤ row.realizedCostCents && 0 ≤ row.commitmentAppliedCents),
   ("usage_line_items_commitment_allocation_check",
     row.onDemandCostCents < 0 || row.commitmentAppliedCents ≤ row.onDemandCostCents),
   ("usage_line_items_tags_object_check", row.tags.isObject)]

/-- `$8::timestamptz` reads an ISO text of a year with four digits; there is no year 0. -/
def isTimestampColumn (micros : Int) : Bool :=
  let (year, _, _) := civilOfDay (micros / 86400000000)
  1 ≤ year && year ≤ 9999

/-- `NUMERIC(20,8)`. -/
def isQuantityColumn (scaled : Int) : Bool := scaled.natAbs < 10 ^ 20

/-- The row of one parsed line; `itemId` is the identifier that `gen_random_uuid()` draws. -/
def usageLineItem (tenantId importBatchId cloudAccountId itemId : Uuid) (now : Instant)
    (line : UsageLineItem) : UsageLineItemRow where
  id := itemId
  tenantId := tenantId
  importBatchId := importBatchId
  cloudAccountId := cloudAccountId
  provider := line.provider
  serviceCode := line.serviceCode.text
  sku := line.sku.text
  region := line.region.text
  usageStart := line.usageStart.time * 1000
  usageEnd := line.usageEnd.time * 1000
  usageQuantity := line.usageQuantity.scaled
  usageUnit := line.usageUnit.text
  onDemandCostCents := line.onDemandCostCents.value
  realizedCostCents := line.realizedCostCents.value
  commitmentAppliedCents := line.commitmentAppliedCents.value
  tags := .object line.tags
  createdAt := now

end UsageLineItems

section Statements

structure ImportsDb where
  tenants : Uuid → Bool
  cloudAccounts : Uuid → Uuid → Bool
  users : Uuid → Uuid → Bool
  importBatches : ImportBatchTable
  usageLineItems : UsageLineItemTable
  clock : Instant

variable (octets : Json → Nat)

/-- `INSERT INTO import_batches`: CHECK constraints, primary key, foreign keys. -/
def insertImportBatchRow (db : ImportsDb) (new : ImportBatch) : Except DbError Unit := do
  checkAll (new.checks octets)
  require (db.importBatches.find new.id).isNone (uniqueViolation "import_batches_pkey")
  require (db.tenants new.tenantId) (foreignKeyViolation "import_batches_tenant_id_fkey")
  require (new.cloudAccountId.all (db.cloudAccounts new.tenantId))
    (foreignKeyViolation "import_batches_tenant_cloud_account_fkey")
  require (new.createdByUserId.all (db.users new.tenantId))
    (foreignKeyViolation "import_batches_tenant_created_by_user_fkey")

/-- `INSERT INTO usage_line_items`: casts, CHECK constraints, primary key, foreign keys. -/
def insertUsageLineItemRow (db : ImportsDb) (new : UsageLineItemRow) : Except DbError Unit := do
  require (isTimestampColumn new.usageStart && isTimestampColumn new.usageEnd)
    (outOfRange "timestamptz")
  require (isQuantityColumn new.usageQuantity) (outOfRange "numeric")
  require (isBigint new.onDemandCostCents && isBigint new.realizedCostCents &&
    isBigint new.commitmentAppliedCents) (outOfRange "bigint")
  let _ ← jsonbColumn new.tags
  checkAll new.checks
  require (db.usageLineItems.find new.id).isNone (uniqueViolation "usage_line_items_pkey")
  require (db.tenants new.tenantId) (foreignKeyViolation "usage_line_items_tenant_id_fkey")
  require ((db.importBatches.find new.importBatchId).any fun batch => batch.tenantId = new.tenantId)
    (foreignKeyViolation "usage_line_items_tenant_import_batch_fkey")
  require (db.cloudAccounts new.tenantId new.cloudAccountId)
    (foreignKeyViolation "usage_line_items_tenant_cloud_account_fkey")

/-- What `updateBatch` sets. -/
structure BatchUpdate where
  status : ImportStatus
  lineCount : Nat
  errorDetails : Json
  parserWarnings : List Json

/-- The row that `updateBatch` stores; the trigger writes `updated_at`. -/
def updatedBatch (now : Instant) (update : BatchUpdate) (old : ImportBatch) :
    Except DbError ImportBatch := do
  require (isBigint update.lineCount) (outOfRange "bigint")
  let errorDetails ← jsonbColumn update.errorDetails
  let parserWarnings ← jsonbColumn (.array update.parserWarnings)
  let row := { old with
    status := update.status
    lineCount := update.lineCount
    errorDetails
    parserWarnings
    updatedAt := now }
  checkAll (row.checks octets)
  return row

end Statements

section Outcomes

variable {octets : Json → Nat}

theorem insert_import_batch_row_ok {db : ImportsDb} {new : ImportBatch}
    (accepted : insertImportBatchRow octets db new = .ok ()) :
    db.importBatches.find new.id = none := by
  obtain ⟨_, _, accepted⟩ := bind_ok.mp accepted
  obtain ⟨_, fresh, _⟩ := bind_ok.mp accepted
  exact Option.isNone_iff_eq_none.mp (require_ok.mp fresh)

theorem insert_usage_line_item_row_ok {db : ImportsDb} {new : UsageLineItemRow}
    (accepted : insertUsageLineItemRow db new = .ok ()) :
    db.usageLineItems.find new.id = none := by
  obtain ⟨_, _, accepted⟩ := bind_ok.mp accepted
  obtain ⟨_, _, accepted⟩ := bind_ok.mp accepted
  obtain ⟨_, _, accepted⟩ := bind_ok.mp accepted
  obtain ⟨_, _, accepted⟩ := bind_ok.mp accepted
  obtain ⟨_, _, accepted⟩ := bind_ok.mp accepted
  obtain ⟨_, fresh, _⟩ := bind_ok.mp accepted
  exact Option.isNone_iff_eq_none.mp (require_ok.mp fresh)

theorem updated_batch_iff {now : Instant} {update : BatchUpdate} {old row : ImportBatch} :
    updatedBatch octets now update old = .ok row ↔
      isBigint update.lineCount = true ∧ holdsNul update.errorDetails = false ∧
        holdsNul (.array update.parserWarnings) = false ∧
        row = { old with
          status := update.status
          lineCount := update.lineCount
          errorDetails := update.errorDetails
          parserWarnings := .array update.parserWarnings
          updatedAt := now } ∧
        ∀ constraint ∈ row.checks octets, constraint.2 = true := by
  constructor
  · intro accepted
    obtain ⟨_, wide, accepted⟩ := bind_ok.mp accepted
    obtain ⟨_, details, accepted⟩ := bind_ok.mp accepted
    obtain ⟨_, warnings, accepted⟩ := bind_ok.mp accepted
    obtain ⟨plainDetails, rfl⟩ := jsonb_column_ok.mp details
    obtain ⟨plainWarnings, rfl⟩ := jsonb_column_ok.mp warnings
    obtain ⟨_, checked, stored⟩ := bind_ok.mp accepted
    obtain rfl := Except.ok.inj stored
    exact ⟨require_ok.mp wide, plainDetails, plainWarnings, rfl, check_all_ok.mp checked⟩
  · rintro ⟨wide, plainDetails, plainWarnings, rfl, checked⟩
    refine bind_ok.mpr ⟨(), require_ok.mpr wide, ?_⟩
    refine bind_ok.mpr ⟨_, jsonb_column_ok.mpr ⟨plainDetails, rfl⟩, ?_⟩
    refine bind_ok.mpr ⟨_, jsonb_column_ok.mpr ⟨plainWarnings, rfl⟩, ?_⟩
    exact bind_ok.mpr ⟨(), check_all_ok.mpr checked, rfl⟩

/-- An updated row that explains itself has error details, and only such a row. -/
theorem updated_batch_details {now : Instant} {update : BatchUpdate} {old row : ImportBatch}
    (accepted : updatedBatch octets now update old = .ok row) :
    (row.errorDetails ≠ .object [] ↔ row.status.explained = true) := by
  obtain ⟨_, _, _, _, checked⟩ := updated_batch_iff.mp accepted
  simp only [ImportBatch.checks, List.forall_mem_cons, Bool.and_eq_true] at checked
  have same := beq_iff_eq.mp checked.2.2.2.1.2
  rw [← same, bne_iff_ne]

end Outcomes

end CommitmentOptimizer.Imports.ImportTables
