import CommitmentOptimizer.Foundations.TransactionHistory
import CommitmentOptimizer.Imports.CanonicalTexts
import CommitmentOptimizer.Imports.ImportErrors
import CommitmentOptimizer.Imports.ImportTransactions

/-!
# What the tables store of a parsed file

The ranges of the parsers against those of the columns. A line that a parser accepts need
not fit into its columns, nor need the warnings about a header.
-/

namespace CommitmentOptimizer.Imports.ImportStorage

open Foundations
open Foundations.CalendarDates
open Foundations.ColumnCasts
open Foundations.IsoInstants
open Foundations.JsonbText
open Foundations.RowLocking
open Foundations.SqlConstraints
open Foundations.TransactionHistory
open CanonicalTexts
open ControlTotals
open CsvAgreement (csvBytes exampleRuntime)
open ImportErrors
open ImportIsolation
open ImportRequests
open ImportTables
open ImportTransactions
open UsageParsers
open UsageRows

set_option autoImplicit false

section Conditions

/-- The year has the four digits of a plain time stamp, and is not 0. -/
def Dated (date : JsDate) : Prop := 1 ≤ (utcMonth date.time).1 ∧ (utcMonth date.time).1 ≤ 9999

/-- A line whose values fit into their columns. -/
structure FittingLine (line : UsageLineItem) : Prop where
  usageStart : Dated line.usageStart
  usageEnd : Dated line.usageEnd
  quantity : line.usageQuantity.scaled < 10 ^ 20
  onDemand : line.onDemandCostCents.value ≤ 9223372036854775807
  realized : line.realizedCostCents.value ≤ 9223372036854775807
  tags : fieldsHoldNul line.tags = false

structure FittingWarnings (numberOctets : Rat → Nat) (warnings : List Json) : Prop where
  plain : holdsNul (.array warnings) = false
  short : jsonbOctets numberOctets (.array warnings) ≤ 65536

/-- A result of a parser that fits into the tables. -/
def Fitting (numberOctets : Rat → Nat) : ImportParseResult → Prop
  | .parsed parsed =>
      (∀ line ∈ parsed.rows, FittingLine line) ∧
        FittingWarnings numberOctets parsed.parserWarnings
  | .quarantined _ _ parserWarnings => FittingWarnings numberOctets parserWarnings

def resultLines : ImportParseResult → Nat
  | .parsed parsed => parsed.lineCount
  | .quarantined lineCount _ _ => lineCount

instance (date : JsDate) : Decidable (Dated date) := inferInstanceAs (Decidable (_ ∧ _))

instance (line : UsageLineItem) : Decidable (FittingLine line) :=
  decidable_of_iff ((Dated line.usageStart ∧ Dated line.usageEnd) ∧
      (line.usageQuantity.scaled < 10 ^ 20 ∧ fieldsHoldNul line.tags = false) ∧
      line.onDemandCostCents.value ≤ 9223372036854775807 ∧
      line.realizedCostCents.value ≤ 9223372036854775807)
    ⟨fun fits => ⟨fits.1.1, fits.1.2, fits.2.1.1, fits.2.2.1, fits.2.2.2, fits.2.1.2⟩,
      fun fits => ⟨⟨fits.usageStart, fits.usageEnd⟩, ⟨fits.quantity, fits.tags⟩, fits.onDemand,
        fits.realized⟩⟩

instance (numberOctets : Rat → Nat) (warnings : List Json) :
    Decidable (FittingWarnings numberOctets warnings) :=
  decidable_of_iff (holdsNul (.array warnings) = false ∧
      jsonbOctets numberOctets (.array warnings) ≤ 65536)
    ⟨fun fits => ⟨fits.1, fits.2⟩, fun fits => ⟨fits.plain, fits.short⟩⟩

instance (numberOctets : Rat → Nat) : DecidablePred (Fitting numberOctets)
  | .parsed _ => inferInstanceAs (Decidable (_ ∧ _))
  | .quarantined .. => inferInstanceAs (Decidable (FittingWarnings ..))

end Conditions

section Rows

variable {db : ImportsDb}

/-- A row that its columns and checks accept. -/
structure StorableRow (row : UsageLineItemRow) : Prop where
  usageStart : isTimestampColumn row.usageStart = true
  usageEnd : isTimestampColumn row.usageEnd = true
  quantity : isQuantityColumn row.usageQuantity = true
  onDemand : isBigint row.onDemandCostCents = true
  realized : isBigint row.realizedCostCents = true
  applied : isBigint row.commitmentAppliedCents = true
  plain : holdsNul row.tags = false
  checked : ∀ constraint ∈ row.checks, constraint.2 = true

/-- What the foreign keys of a row refer to. -/
structure References (db : ImportsDb) (tenantId batchId cloudAccountId : Uuid) : Prop where
  tenant : db.tenants tenantId = true
  account : db.cloudAccounts tenantId cloudAccountId = true
  batch : ∃ batch, db.importBatches.find batchId = some batch ∧ batch.tenantId = tenantId

theorem insert_usage_line_item_row_iff {new : UsageLineItemRow}
    (references : References db new.tenantId new.importBatchId new.cloudAccountId)
    (fresh : db.usageLineItems.find new.id = none) :
    insertUsageLineItemRow db new = .ok () ↔ StorableRow new := by
  constructor
  · intro accepted
    obtain ⟨_, times, accepted⟩ := bind_ok.mp accepted
    obtain ⟨_, quantity, accepted⟩ := bind_ok.mp accepted
    obtain ⟨_, cents, accepted⟩ := bind_ok.mp accepted
    obtain ⟨_, tags, accepted⟩ := bind_ok.mp accepted
    obtain ⟨_, checked, _⟩ := bind_ok.mp accepted
    obtain ⟨starts, ends⟩ := Bool.and_eq_true_iff.mp (require_ok.mp times)
    obtain ⟨costs, applied⟩ := Bool.and_eq_true_iff.mp (require_ok.mp cents)
    obtain ⟨onDemand, realized⟩ := Bool.and_eq_true_iff.mp costs
    exact ⟨starts, ends, require_ok.mp quantity, onDemand, realized, applied,
      (jsonb_column_ok.mp tags).1, check_all_ok.mp checked⟩
  · intro storable
    obtain ⟨batch, found, tenant⟩ := references.batch
    refine bind_ok.mpr ⟨(), require_ok.mpr ?_, bind_ok.mpr ⟨(), require_ok.mpr storable.quantity,
      bind_ok.mpr ⟨(), require_ok.mpr ?_, bind_ok.mpr ⟨_, jsonb_column_ok.mpr
        ⟨storable.plain, rfl⟩, bind_ok.mpr ⟨(), check_all_ok.mpr storable.checked, ?_⟩⟩⟩⟩⟩
    · exact Bool.and_eq_true_iff.mpr ⟨storable.usageStart, storable.usageEnd⟩
    · exact Bool.and_eq_true_iff.mpr
        ⟨Bool.and_eq_true_iff.mpr ⟨storable.onDemand, storable.realized⟩, storable.applied⟩
    refine bind_ok.mpr ⟨(), require_ok.mpr (Option.isNone_iff_eq_none.mpr fresh), ?_⟩
    refine bind_ok.mpr ⟨(), require_ok.mpr references.tenant, ?_⟩
    refine bind_ok.mpr ⟨(), require_ok.mpr ?_, require_ok.mpr references.account⟩
    rw [found, Option.any_some]
    exact decide_eq_true tenant

theorem dated_column (date : JsDate) : isTimestampColumn (date.time * 1000) = true ↔ Dated date := by
  have days : date.time * 1000 / 86400000000 = date.time / 86400000 := by omega
  simp only [isTimestampColumn, days, Dated, utcMonth, Bool.and_eq_true, decide_eq_true_eq]

theorem clean_trimmed_text (text : CleanText) : isTrimmedText text.text = true := by
  have visible : text.text ≠ "" := fun empty => text.nonempty (by rw [empty]; rfl)
  have printable : text.text.toList.any isControl = false := text.printable
  simp [isTrimmedText, btrim_of_trimmed text.trimmed, visible, printable]

/-- The checks of the table hold of every line that a parser accepts. -/
theorem usage_line_item_checked {tenantId batchId cloudAccountId itemId : Uuid} {now : Instant}
    (line : UsageLineItem) :
    ∀ constraint ∈ (usageLineItem tenantId batchId cloudAccountId itemId now line).checks,
      constraint.2 = true := by
  have period : line.usageStart.time * 1000 < line.usageEnd.time * 1000 := by
    have before := line.period
    omega
  have allocated : (line.commitmentAppliedCents.value : Int) ≤ line.onDemandCostCents.value :=
    Int.ofNat_le.mpr line.allocated
  simp only [UsageLineItemRow.checks, usageLineItem, List.forall_mem_cons, clean_trimmed_text,
    Bool.and_eq_true, Bool.or_eq_true, true_and]
  exact ⟨decide_eq_true period, decide_eq_true (Int.natCast_nonneg _),
    ⟨⟨decide_eq_true (Int.natCast_nonneg _), decide_eq_true (Int.natCast_nonneg _)⟩,
      decide_eq_true (Int.natCast_nonneg _)⟩, Or.inr (decide_eq_true allocated), rfl, nofun⟩

theorem natural_bigint {value : Nat} :
    isBigint (value : Int) = true ↔ value ≤ 9223372036854775807 := by
  simp only [isBigint, Bool.and_eq_true, decide_eq_true_eq]
  omega

theorem storable_line {tenantId batchId cloudAccountId itemId : Uuid} {now : Instant}
    {line : UsageLineItem} :
    StorableRow (usageLineItem tenantId batchId cloudAccountId itemId now line) ↔
      FittingLine line := by
  constructor
  · intro storable
    exact ⟨(dated_column _).mp storable.usageStart, (dated_column _).mp storable.usageEnd,
      of_decide_eq_true storable.quantity, natural_bigint.mp storable.onDemand,
      natural_bigint.mp storable.realized, storable.plain⟩
  · intro fitting
    exact ⟨(dated_column _).mpr fitting.usageStart, (dated_column _).mpr fitting.usageEnd,
      decide_eq_true fitting.quantity, natural_bigint.mpr fitting.onDemand,
      natural_bigint.mpr fitting.realized,
      natural_bigint.mpr (line.allocated.trans fitting.onDemand), fitting.tags,
      usage_line_item_checked line⟩

end Rows

section Statements

variable {octets : Json → Nat} {db : ImportsDb}

theorem insert_batch_alone (new : ImportBatch) :
    runAlone (insertBatch octets new) (fun db => db) db =
      ((insertImportBatchRow octets db new).mapError .database).map
        fun _ => ((), ImportsDb.insertBatch new db) := by
  simp only [insertBatch, Txn.lockRow, Txn.view, bind, Txn.bind, runAlone]
  cases (insertImportBatchRow octets db new).mapError ImportsAbort.database <;> rfl

theorem insert_item_alone (new : UsageLineItemRow) :
    runAlone (insertItem new) (fun db => db) db =
      ((insertUsageLineItemRow db new).mapError .database).map
        fun _ => (some new, ImportsDb.insertItem new db) := by
  simp only [insertItem, Txn.lockRow, Txn.view, bind, Txn.bind, runAlone]
  cases (insertUsageLineItemRow db new).mapError ImportsAbort.database <;> rfl

theorem update_batch_alone {now : Instant} {old : ImportBatch} {update : BatchUpdate}
    {batchId : Uuid} (found : db.importBatches.find batchId = some old) :
    runAlone (updateBatch octets now batchId update) (fun db => db) db =
      ((updatedBatch octets now update old).mapError .database).map
        fun row => (row, ImportsDb.putBatch row db) := by
  rw [updateBatch]
  change runAlone (Txn.bind _ _) (fun db => db) db = _
  rw [run_alone_bind, run_alone_select, found]
  change runAlone (Txn.bind (Txn.attempt _) _) (fun db => db) db = _
  rw [run_alone_bind, run_alone_attempt]
  cases (updatedBatch octets now update old).mapError ImportsAbort.database <;> rfl

/-- The loop stores all rows, or fails at the first that does not fit. -/
theorem insert_items_alone {tenantId batchId cloudAccountId : Uuid}
    {rows found : List UsageLineItemRow} (references : References db tenantId batchId cloudAccountId)
    (owned : ∀ row ∈ rows, row.tenantId = tenantId ∧ row.importBatchId = batchId ∧
      row.cloudAccountId = cloudAccountId)
    (fresh : ∀ row ∈ rows, db.usageLineItems.find row.id = none) (distinct : (rows.map (·.id)).Nodup)
    {result : List UsageLineItemRow × ImportsDb} :
    runAlone (Txn.forEach insertItem found rows) (fun db => db) db = .ok result ↔
      (∀ row ∈ rows, StorableRow row) ∧ result = (found ++ rows,
        { db with usageLineItems := rows.foldl KeyedTable.insert db.usageLineItems }) := by
  rw [run_alone_for_each]
  induction rows generalizing found db with
  | nil =>
      rw [List.foldlM_nil, List.append_nil, List.foldl_nil]
      constructor
      · intro same
        exact ⟨nofun, (Except.ok.inj same).symm⟩
      · rintro ⟨_, rfl⟩
        rfl
  | cons row rest induction =>
      obtain ⟨tenant, batch, account⟩ := owned row List.mem_cons_self
      have accepted : insertUsageLineItemRow db row = .ok () ↔ StorableRow row :=
        insert_usage_line_item_row_iff (tenant ▸ batch ▸ account ▸ references)
          (fresh row List.mem_cons_self)
      obtain ⟨apart, restDistinct⟩ := List.nodup_cons.mp distinct
      have onward := @induction (ImportsDb.insertItem row db) (found ++ [row])
        ⟨references.1, references.2, references.3⟩ (fun next member => owned next (List.mem_cons_of_mem _ member))
        (fun next member => by
          have free := fresh next (List.mem_cons_of_mem _ member)
          change (db.usageLineItems.insert row).find next.id = none
          rw [KeyedTable.find_insert, free, Option.none_or]
          exact if_neg fun same => apart (List.mem_map.mpr ⟨next, member, same.symm⟩)) restDistinct
      rw [List.foldlM_cons, bind_ok, List.forall_mem_cons]
      constructor
      · rintro ⟨state, stored, continued⟩
        obtain ⟨outcome, inserted, same⟩ := bind_ok.mp stored
        rw [insert_item_alone] at inserted
        obtain ⟨_, checked, rfl⟩ := map_ok.mp inserted
        obtain rfl := Except.ok.inj same
        obtain ⟨storable, rfl⟩ := onward.mp continued
        refine ⟨⟨accepted.mp (map_error_ok.mp checked), storable⟩, ?_⟩
        rw [List.append_assoc]
        rfl
      · rintro ⟨⟨storable, others⟩, rfl⟩
        refine ⟨(found ++ [row], ImportsDb.insertItem row db),
          bind_ok.mpr ⟨(some row, ImportsDb.insertItem row db), ?_, rfl⟩,
          onward.mpr ⟨others, ?_⟩⟩
        · rw [insert_item_alone, accepted.mpr storable]
          rfl
        · rw [List.append_assoc]
          rfl

end Statements

section Imports

variable {numberOctets : Rat → Nat} {new : NewImport} {db : ImportsDb} {now : Instant}

/-- A database in which nothing but the values of an import can refuse it. -/
structure Healthy (db : ImportsDb) (accounts : Uuid → Uuid → Option ImportCloudAccount)
    (context : RequestContext) (batchId : Uuid) (itemId : Nat → Uuid) : Prop where
  tenant : db.tenants context.tenantId = true
  accounts : ∀ id account, accounts context.tenantId id = some account →
    db.cloudAccounts context.tenantId id = true
  user : context.actorUserId.all (db.users context.tenantId) = true
  batch : db.importBatches.find batchId = none
  items : ∀ index, db.usageLineItems.find (itemId index) = none
  distinct : Function.Injective itemId

/-- What the foreign keys and the object key of an import promise. -/
structure Acceptable (new : NewImport) (db : ImportsDb) : Prop where
  objectUri : isObjectKey new.input.create.objectUri.toList = true
  tenant : db.tenants new.input.tenantId = true
  account : db.cloudAccounts new.input.tenantId new.input.create.cloudAccountId = true
  user : new.input.createdByUserId.all (db.users new.input.tenantId) = true
  batch : db.importBatches.find new.batchId = none
  items : ∀ index, db.usageLineItems.find (new.itemId index) = none
  distinct : Function.Injective new.itemId

/-- Error details that go with a status. -/
structure StorableDetails (numberOctets : Rat → Nat) (status : ImportStatus) (details : Json) :
    Prop where
  object : details.isObject = true
  short : jsonbOctets numberOctets details ≤ 8192
  safe : details.hasAnyKey errorKeys = false
  explained : (details != .object []) = status.explained
  plain : holdsNul details = false

theorem no_details_storable : StorableDetails numberOctets .completed (.object []) :=
  ⟨rfl, (by decide : 2 ≤ 8192), rfl, by decide, rfl⟩

theorem explanation_storable {details : Json} (explains : Explains numberOctets details) :
    StorableDetails numberOctets .quarantined details :=
  ⟨explains.object, explains.short, explains.safe, bne_iff_ne.mpr explains.nonempty,
    explains.plain⟩

theorem schema_version_canonical (source : ImportSource) (format : ImportFormat) :
    isCanonicalText 128 (schemaVersion source format) = true := by
  cases source <;> cases format <;> decide +kernel

theorem queued_batch_accepted (acceptable : Acceptable new db) :
    insertImportBatchRow (jsonbOctets numberOctets) db (queuedBatch new now) = .ok () := by
  refine bind_ok.mpr ⟨(), check_all_ok.mpr ?_, bind_ok.mpr ⟨(), require_ok.mpr
    (Option.isNone_iff_eq_none.mpr acceptable.batch), bind_ok.mpr ⟨(), require_ok.mpr
      acceptable.tenant, bind_ok.mpr ⟨(), require_ok.mpr acceptable.account, require_ok.mpr
        acceptable.user⟩⟩⟩⟩
  simp only [ImportBatch.checks, queuedBatch, List.forall_mem_cons, schema_version_canonical,
    object_key_canonical acceptable.objectUri, true_and]
  exact ⟨rfl, rfl, rfl, decide_eq_true (le_refl now), List.forall_mem_nil _⟩

/-- The import is stored as a whole, or as one that nothing was stored of. -/
def Ended (batch : ImportBatch) : Prop :=
  batch.status = .completed ∨ batch.status = .quarantined

/-- The end of an import depends on its warnings only. -/
theorem ended_batch_iff {status : ImportStatus} {lineCount : Nat} {details : Json}
    {warnings : List Json} (acceptable : Acceptable new db) (few : lineCount < 2 ^ 32)
    (ended : status = .completed ∨ status = .quarantined)
    (storable : StorableDetails numberOctets status details) :
    (∃ row, updatedBatch (jsonbOctets numberOctets) now ⟨status, lineCount, details, warnings⟩
      (queuedBatch new now) = .ok row ∧ Ended row) ↔ FittingWarnings numberOctets warnings := by
  have other : (status != .queued) = true := by
    rcases ended with rfl | rfl <;> rfl
  constructor
  · rintro ⟨row, updated, _⟩
    obtain ⟨_, _, plain, rfl, checked⟩ := updated_batch_iff.mp updated
    simp only [ImportBatch.checks, List.forall_mem_cons, Bool.and_eq_true] at checked
    exact ⟨plain, of_decide_eq_true checked.2.2.2.2.1.1.2⟩
  · intro fitting
    have bigint : isBigint (lineCount : Int) = true := natural_bigint.mpr (by omega)
    refine ⟨_, updated_batch_iff.mpr ⟨bigint, storable.plain, fitting.plain, rfl, ?_⟩, ended⟩
    simp only [ImportBatch.checks, queuedBatch, List.forall_mem_cons, schema_version_canonical,
      object_key_canonical acceptable.objectUri, storable.object, storable.safe,
      storable.explained, other, decide_eq_true storable.short, decide_eq_true fitting.short,
      isArray, Bool.true_and, Bool.true_or, Bool.and_true, Bool.not_false, true_and]
    exact ⟨decide_eq_true (Int.natCast_nonneg _), beq_self_eq_true _,
      decide_eq_true (le_refl now), List.forall_mem_nil _⟩

theorem item_rows_apart {lines : List UsageLineItem} (distinct : Function.Injective new.itemId) :
    ((itemRows new now lines).map (·.id)).Nodup := by
  have ids : (itemRows new now lines).map (·.id) =
      (lines.zipIdx.map Prod.snd).map new.itemId := by
    rw [itemRows, List.map_map, List.map_map]
    rfl
  rw [ids, List.zipIdx_map_snd]
  exact List.Nodup.map distinct List.nodup_range'

theorem item_rows_storable {lines : List UsageLineItem} :
    (∀ row ∈ itemRows new now lines, StorableRow row) ↔ ∀ line ∈ lines, FittingLine line := by
  constructor
  · intro storable line member
    obtain ⟨index, below, rfl⟩ := List.mem_iff_getElem.mp member
    exact storable_line.mp (storable _ (List.mem_map_of_mem
      (List.mk_mem_zipIdx_iff_getElem?.mpr (List.getElem?_eq_getElem below))))
  · intro fitting row member
    obtain ⟨line, inside, rfl⟩ := List.mem_map.mp member
    exact storable_line.mpr (fitting _ (List.fst_mem_of_mem_zipIdx inside))

theorem ended_exists {stored : ImportsDb} {outcome : Except DbError ImportBatch} :
    (∃ result, (outcome.mapError ImportsAbort.database).map
      (fun row => (row, ImportsDb.putBatch row stored)) = .ok result ∧ Ended result.1) ↔
        ∃ row, outcome = .ok row ∧ Ended row := by
  cases outcome <;> simp [Except.mapError, Except.map]

/-- An import alone ends where its parsed lines and its warnings fit. -/
theorem create_import_alone_iff (acceptable : Acceptable new db)
    (few : resultLines new.input.parseResult < 2 ^ 32)
    (explained : Explained numberOctets new.input.parseResult) :
    (∃ result, runAlone (ImportTransactions.createImport (jsonbOctets numberOctets) new now)
      (fun db => db) db = .ok result ∧ Ended result.1) ↔
        Fitting numberOctets new.input.parseResult := by
  obtain ⟨queued, isQueued⟩ : ∃ queued, queued = queuedBatch new now := ⟨_, rfl⟩
  obtain ⟨stored, isStored⟩ : ∃ stored, stored = ImportsDb.insertBatch queued db := ⟨_, rfl⟩
  have opened : runAlone (insertBatch (jsonbOctets numberOctets) queued) (fun db => db) db =
      .ok ((), stored) := by
    rw [insert_batch_alone, isQueued, queued_batch_accepted acceptable, isStored, isQueued]
    rfl
  have found : stored.importBatches.find new.batchId = some queued := by
    rw [isStored]
    change (db.importBatches.insert queued).find new.batchId = some queued
    rw [KeyedTable.find_insert, acceptable.batch, isQueued]
    exact if_pos rfl
  cases outcome : new.input.parseResult with
  | quarantined lineCount details warnings =>
      have program : runAlone (ImportTransactions.createImport (jsonbOctets numberOctets) new now)
          (fun db => db) db =
            ((updatedBatch (jsonbOctets numberOctets) now
              ⟨.quarantined, lineCount, details, warnings⟩ queued).mapError .database).map
                fun row => (row, ImportsDb.putBatch row stored) := by
        rw [ImportTransactions.createImport, outcome, ← isQueued]
        refine (run_alone_bind (insertBatch (jsonbOctets numberOctets) queued) _ db).trans ?_
        rw [opened]
        exact update_batch_alone found
      rw [outcome] at few explained
      have ended := @ended_batch_iff numberOctets new db now .quarantined lineCount details warnings
        acceptable few (Or.inr rfl) (explanation_storable (explained few))
      rw [← isQueued] at ended
      rw [program]
      exact ended_exists.trans ended
  | parsed parsed =>
      have loop := @insert_items_alone stored new.input.tenantId new.batchId
        new.input.create.cloudAccountId (itemRows new now parsed.rows) []
        ⟨isStored ▸ acceptable.tenant, isStored ▸ acceptable.account,
          queued, found, by rw [isQueued]; rfl⟩
        (fun row member => by
          obtain ⟨line, _, rfl⟩ := List.mem_map.mp member
          exact ⟨rfl, rfl, rfl⟩)
        (fun row member => by
          obtain ⟨line, _, rfl⟩ := List.mem_map.mp member
          rw [isStored]
          exact acceptable.items line.2)
        (item_rows_apart acceptable.distinct)
      have program : runAlone (ImportTransactions.createImport (jsonbOctets numberOctets) new now)
          (fun db => db) db =
            (runAlone (Txn.forEach insertItem [] (itemRows new now parsed.rows)) (fun db => db)
              stored >>= fun items =>
                runAlone (updateBatch (jsonbOctets numberOctets) now new.batchId
                  ⟨.completed, parsed.lineCount, .object [], parsed.parserWarnings⟩)
                  (fun db => db) items.2) := by
        rw [ImportTransactions.createImport, outcome, ← isQueued]
        refine (run_alone_bind (insertBatch (jsonbOctets numberOctets) queued) _ db).trans ?_
        rw [opened]
        exact run_alone_bind _ _ _
      rw [outcome] at few
      have lines : (∀ row ∈ itemRows new now parsed.rows, StorableRow row) ↔
          ∀ line ∈ parsed.rows, FittingLine line := item_rows_storable
      have ended := @ended_batch_iff numberOctets new db now .completed parsed.lineCount
        (.object []) parsed.parserWarnings acceptable few (Or.inl rfl) no_details_storable
      have updating := fun items => @update_batch_alone (jsonbOctets numberOctets)
        { stored with usageLineItems := items } now queued
        ⟨.completed, parsed.lineCount, .object [], parsed.parserWarnings⟩ new.batchId found
      rw [program]
      simp only [bind_ok]
      rw [Fitting, ← lines, ← ended, ← isQueued]
      constructor
      · rintro ⟨result, ⟨items, looped, updated⟩, status⟩
        obtain ⟨storable, rfl⟩ := loop.mp looped
        exact ⟨storable, ended_exists.mp ⟨result, (updating _).symm.trans updated, status⟩⟩
      · rintro ⟨storable, updated⟩
        obtain ⟨result, ran, status⟩ := ended_exists.mpr updated
        exact ⟨result, ⟨_, loop.mpr ⟨storable, rfl⟩, (updating _).trans ran⟩, status⟩

theorem update_batch_status {octets : Json → Nat} {update : BatchUpdate}
    {result : ImportBatch × ImportsDb} {batchId : Uuid}
    (ran : runAlone (updateBatch octets now batchId update) (fun db => db) db = .ok result) :
    result.1.status = update.status := by
  cases found : db.importBatches.find batchId with
  | none =>
      simp only [updateBatch, Txn.selectForUpdate, Txn.view, Txn.lockRow, bind, Txn.bind, runAlone,
        found, pure, Txn.abort] at ran
      cases ran
  | some old =>
      rw [update_batch_alone found] at ran
      obtain ⟨row, updated, rfl⟩ := map_ok.mp ran
      obtain ⟨_, _, _, rfl, _⟩ := updated_batch_iff.mp (map_error_ok.mp updated)
      rfl

/-- An import that is stored has ended. -/
theorem create_import_ended {octets : Json → Nat} {result : ImportBatch × ImportsDb}
    (ran : runAlone (ImportTransactions.createImport octets new now) (fun db => db) db =
      .ok result) : Ended result.1 := by
  obtain ⟨queued, _, rest⟩ := bind_ok.mp
    ((run_alone_bind (insertBatch octets (queuedBatch new now)) _ db).symm.trans ran)
  cases outcome : new.input.parseResult with
  | parsed parsed =>
      rw [outcome] at rest
      obtain ⟨items, _, updated⟩ := bind_ok.mp ((run_alone_bind _ _ _).symm.trans rest)
      exact Or.inl (update_batch_status updated)
  | quarantined lineCount details warnings =>
      rw [outcome] at rest
      exact Or.inr (update_batch_status rest)

theorem tenant_import_alone {octets : Json → Nat} (tenant : db.tenants new.input.tenantId = true) :
    runAlone (tenantImport octets new db) (fun db => db) db =
      runAlone (ImportTransactions.createImport octets new db.clock) (fun db => db) db := by
  simp only [tenantImport, Txn.selectForUpdate, Txn.view, Txn.lockRow, bind, Txn.bind, runAlone,
    tenant, if_true, pure]

end Imports

section Service

variable {runtime : ImportRuntime} {numberOctets : Rat → Nat} {db : ImportsDb} {batchId : Uuid}
  {accounts : Uuid → Uuid → Option ImportCloudAccount} {itemId : Nat → Uuid}

/-- `createImportsRepository` over a database that runs no other transaction. -/
def databaseRepository (numberOctets : Rat → Nat)
    (accounts : Uuid → Uuid → Option ImportCloudAccount) (db : ImportsDb) (batchId : Uuid)
    (itemId : Nat → Uuid) : ImportsRepository ImportBatch where
  getCloudAccount tenantId id := some (accounts tenantId id)
  createImport input :=
    (runAlone (tenantImport (jsonbOctets numberOctets) ⟨input, batchId, itemId⟩ db)
      (fun db => db) db).toOption.map Prod.fst

theorem parse_import_create_body_key {normalize : List Char → List Char} {body : Json}
    {input : ImportCreateInput} (accepted : parseImportCreateBody normalize body = some input) :
    isObjectKey input.objectUri.toList = true := by
  unfold parseImportCreateBody at accepted
  split_ifs at accepted
  · cases accepted
  · obtain ⟨source, _, accepted⟩ := Option.bind_eq_some_iff.mp accepted
    obtain ⟨format, _, accepted⟩ := Option.bind_eq_some_iff.mp accepted
    split_ifs at accepted
    · cases accepted
    · split at accepted
      case h_1 =>
        split_ifs at accepted with refused
        · cases accepted
        · obtain ⟨cloudAccountId, _, accepted⟩ := Option.bind_eq_some_iff.mp accepted
          obtain ⟨totals, _, accepted⟩ := Option.bind_eq_some_iff.mp accepted
          obtain rfl := Option.some.inj accepted
          simp only [Bool.or_eq_true, Bool.not_eq_true', not_or, Bool.not_eq_false] at refused
          exact refused.1
      case h_2 => cases accepted

theorem admit_import_ok {repository : ImportsRepository ImportBatch} {context : RequestContext}
    {body : Json} {input : ImportCreateInput} {account : ImportCloudAccount}
    (admitted : admitImport runtime repository context body = .ok (input, account)) :
    parseImportCreateBody runtime.normalize body = some input ∧
      repository.getCloudAccount context.tenantId input.cloudAccountId = some (some account) := by
  unfold admitImport at admitted
  split at admitted
  case h_1 => cases admitted
  case h_2 input' parsed =>
    split at admitted
    case h_1 | h_2 => cases admitted
    case h_3 account' found =>
      split_ifs at admitted
      obtain ⟨rfl, rfl⟩ := Prod.mk.inj (Except.ok.inj admitted)
      exact ⟨parsed, found⟩

/-- Tables without imports, in which every tenant, account and user exists. -/
def emptyImports : ImportsDb where
  tenants _ := true
  cloudAccounts _ _ := true
  users _ _ := true
  importBatches := .empty
  usageLineItems := .empty
  clock := 0

def anyAccount (_ _ : Uuid) : Option ImportCloudAccount := some ⟨.aws, true⟩

theorem empty_imports_healthy (context : RequestContext) :
    Healthy emptyImports anyAccount context 10 (fun index => index + 11) :=
  ⟨rfl, fun _ _ _ => rfl, by cases context.actorUserId <;> rfl, rfl, fun _ => rfl,
    add_left_injective 11⟩

/-- A synthetic file of one row with these on-demand cents. -/
def sampleFile (onDemandCents : String) : List UInt8 := csvBytes
  [["provider", "service_code", "sku", "region", "usage_start", "usage_end", "usage_quantity",
      "usage_unit", "on_demand_cost_cents", "realized_cost_cents", "commitment_applied_cents",
      "tags"],
    ["aws", "AmazonEC2", "BoxUsage:m5.large", "eu-west-1", "2024-02-29T00:00:00Z",
      "2024-02-29T01:00:00Z", "1.00000000", "Hrs", onDemandCents, "7", "4", "\x7b\x7d"]]

/-- A request for the import of that file. -/
def sampleBody (onDemandCents : String) : Json := .object
  [("source", .string "synthetic"), ("format", .string "csv"),
   ("object_uri", .string "usage.csv"),
   ("cloud_account_id", .string "00000000-0000-4000-8000-000000000009"),
   ("control_totals", .array [.object
    [("provider", .string "aws"), ("service_code", .string "AmazonEC2"),
     ("region", .string "eu-west-1"), ("month", .string "2024-02"), ("line_count", .string "1"),
     ("usage_quantity", .string "1.00000000"), ("on_demand_cost_cents", .string onDemandCents),
     ("realized_cost_cents", .string "7"), ("commitment_applied_cents", .string "4")]])]

def sampleStore (onDemandCents : String) : Shared.LocalObjects.ObjectStore :=
  Shared.LocalObjects.singleStore ["usage.csv".toList] (sampleFile onDemandCents)

/-- The digits of the numerator. -/
def digitOctets (value : Rat) : Nat := (Nat.toDigits 10 value.num.toNat).length

theorem digit_octets_naturals : WritesNaturals digitOctets := fun value => by
  rw [digitOctets, Rat.num_natCast, Int.toNat_natCast]

def sampleRepository : ImportsRepository ImportBatch :=
  databaseRepository digitOctets anyAccount emptyImports 10 fun index => index + 11

/-- What the parser makes of the sample, if the service comes that far. -/
def sampleResult (onDemandCents : String) :
    Option (ImportCreateInput × ImportCloudAccount × List UInt8 × ImportParseResult) := do
  let (input, account) ←
    (admitImport exampleRuntime sampleRepository ⟨1, none⟩ (sampleBody onDemandCents)).toOption
  let bytes ← ((sampleStore onDemandCents).get input.objectUri.toList).toOption
  let result ← parseImport exampleRuntime input.source input.format bytes account.provider
    input.controlTotals
  return (input, account, bytes, result)

theorem sample_result_some {onDemandCents : String} {input : ImportCreateInput}
    {account : ImportCloudAccount} {bytes : List UInt8} {result : ImportParseResult}
    (parsed : sampleResult onDemandCents = some (input, account, bytes, result)) :
    admitImport exampleRuntime sampleRepository ⟨1, none⟩ (sampleBody onDemandCents) =
        .ok (input, account) ∧
      (sampleStore onDemandCents).get input.objectUri.toList = .ok bytes ∧
      parseImport exampleRuntime input.source input.format bytes account.provider
        input.controlTotals = some result := by
  obtain ⟨pair, admitted, rest⟩ := Option.bind_eq_some_iff.mp parsed
  obtain ⟨object, read, rest⟩ := Option.bind_eq_some_iff.mp rest
  obtain ⟨outcome, returned, same⟩ := Option.bind_eq_some_iff.mp rest
  cases Option.some.inj same
  exact ⟨to_option_some.mp admitted, to_option_some.mp read, returned⟩

end Service

end CommitmentOptimizer.Imports.ImportStorage
