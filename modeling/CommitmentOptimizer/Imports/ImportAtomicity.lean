import CommitmentOptimizer.Foundations.TransactionHistory
import CommitmentOptimizer.Imports.ImportTransactions

/-!
# An import is stored whole or not at all

Every transaction of an import either commits its batch with all of its rows, or leaves
nothing, at whatever statement it ends. Rows therefore belong to completed batches, which
count them.
-/

namespace CommitmentOptimizer.Imports.ImportAtomicity

open Foundations
open Foundations.RowLocking
open Foundations.Schedules
open Foundations.SqlConstraints
open Foundations.TransactionHistory
open ImportTables
open CsvAgreement
open ImportTransactions
open UsageParsers

set_option autoImplicit false

/-- The rows of a batch, in the order they were stored in. -/
def itemsOf (batchId : Uuid) (db : ImportsDb) : List UsageLineItemRow :=
  db.usageLineItems.rows.filter fun item => item.importBatchId = batchId

/-- Rows belong to completed batches, and a completed batch counts its rows. -/
structure Consistent (db : ImportsDb) : Prop where
  owned : ∀ item ∈ db.usageLineItems, ∃ batch ∈ db.importBatches,
    batch.id = item.importBatchId ∧ batch.status = .completed
  counted : ∀ batch ∈ db.importBatches, batch.status = .completed →
    ((itemsOf batch.id db).length : Int) = batch.lineCount

section Contract

variable {runtime : ImportRuntime}

/-- The batch and the rows that a parse result stands for. -/
def Holds (request : ImportRequest runtime) (now : Instant) (batch : ImportBatch)
    (items : List UsageLineItemRow) : Prop :=
  match request.input.parseResult with
  | .parsed parsed =>
      batch.status = .completed ∧ batch.lineCount = parsed.lineCount ∧
        items.length = parsed.lineCount ∧ items = itemRows request.toNewImport now parsed.rows ∧
        batch.errorDetails = .object [] ∧ batch.parserWarnings = .array parsed.parserWarnings
  | .quarantined lineCount errorDetails parserWarnings =>
      batch.status = .quarantined ∧ batch.lineCount = lineCount ∧ items = [] ∧
        batch.errorDetails = errorDetails ∧ errorDetails ≠ .object [] ∧
        batch.parserWarnings = .array parserWarnings

/-- The batch and its rows are added, and nothing else is different. -/
structure Stored (request : ImportRequest runtime) (now : Instant) (batch : ImportBatch)
    (before after : ImportsDb) : Prop where
  isNew : before.importBatches.find request.batchId = none
  id : batch.id = request.batchId
  tenant : batch.tenantId = request.input.tenantId
  batches : after.importBatches.rows = before.importBatches.rows ++ [batch]
  items : after.usageLineItems.rows = before.usageLineItems.rows ++ itemsOf batch.id after
  holds : Holds request now batch (itemsOf batch.id after)

/-- What a key protects. -/
def Same : ImportsKey → ImportsDb → ImportsDb → Prop
  | .tenant _, _, _ => True
  | .batch id, before, after => before.importBatches.find id = after.importBatches.find id
  | .item id, before, after => before.usageLineItems.find id = after.usageLineItems.find id

theorem same_refl (key : ImportsKey) (db : ImportsDb) : Same key db db := by
  cases key with
  | tenant id => trivial
  | batch id | item id => rfl

theorem same_trans (key : ImportsKey) (first second third : ImportsDb)
    (left : Same key first second) (right : Same key second third) : Same key first third := by
  cases key with
  | tenant id => trivial
  | batch id | item id => exact Eq.trans left right

def importsContract (runtime : ImportRuntime) :
    Contract ImportsDb ImportsKey ImportsAbort ImportBatch (ImportRequest runtime) where
  invariant := Consistent
  evolves _ _ := True
  same := Same
  onCommit request begun batch before after := Stored request begun.clock batch before after
  onAbort _ _ _ _ := True
  evolves_refl _ := trivial
  evolves_trans _ _ _ _ _ := trivial
  same_refl := same_refl
  same_trans := same_trans

end Contract

section Writes

variable {held : List ImportsKey} {pending : ImportsDb → ImportsDb} {seen now : ImportsDb}
  {batch : ImportBatch} {rows : List UsageLineItemRow}

/-- What a transaction has written: a batch, which is still its own, and rows of it. -/
structure Writes (batch : ImportBatch) (rows : List UsageLineItemRow) (held : List ImportsKey)
    (pending : ImportsDb → ImportsDb) (seen : ImportsDb) : Prop where
  pending : ∀ db, pending db = { db with
    importBatches := db.importBatches.insert batch
    usageLineItems := rows.foldl KeyedTable.insert db.usageLineItems }
  batchHeld : .batch batch.id ∈ held
  itemsHeld : ∀ row ∈ rows, .item row.id ∈ held
  batchNew : seen.importBatches.find batch.id = none
  itemsNew : ∀ row ∈ rows, seen.usageLineItems.find row.id = none
  distinct : (rows.map (·.id)).Nodup
  owned : ∀ row ∈ rows, row.importBatchId = batch.id

/-- The locks keep what is written new. -/
theorem writes_moves {runtime : ImportRuntime} {keys : List ImportsKey}
    (writes : Writes batch rows held pending seen)
    (moved : (importsContract runtime).rely held seen now) (more : held ⊆ keys) :
    Writes batch rows keys pending now where
  pending := writes.pending
  batchHeld := more writes.batchHeld
  itemsHeld row member := more (writes.itemsHeld row member)
  batchNew := (moved.2.2 _ writes.batchHeld).symm.trans writes.batchNew
  itemsNew row member := (moved.2.2 _ (writes.itemsHeld row member)).symm.trans
    (writes.itemsNew row member)
  distinct := writes.distinct
  owned := writes.owned

/-- One more row of the batch. -/
theorem writes_item {new : UsageLineItemRow} (writes : Writes batch rows held pending seen)
    (newHeld : .item new.id ∈ held) (isNew : (pending seen).usageLineItems.find new.id = none)
    (ofBatch : new.importBatchId = batch.id) :
    Writes batch (rows ++ [new]) held (fun db => ImportsDb.insertItem new (pending db)) seen := by
  rw [writes.pending] at isNew
  have stored : (rows.foldl KeyedTable.insert seen.usageLineItems).rows =
      seen.usageLineItems.rows ++ rows :=
    KeyedTable.rows_foldl_insert writes.itemsNew writes.distinct
  have absent : ∀ row ∈ seen.usageLineItems.rows ++ rows, row.id ≠ new.id := by
    rw [← stored]
    exact KeyedTable.find_eq_none.mp isNew
  refine ⟨fun db => ?_, writes.batchHeld, fun row member => ?_, writes.batchNew,
    fun row member => ?_, ?_, fun row member => ?_⟩
  · rw [List.foldl_append, List.foldl_cons, List.foldl_nil, writes.pending]
    rfl
  · rcases List.mem_append.mp member with earlier | last
    · exact writes.itemsHeld row earlier
    · rw [List.mem_singleton.mp last]
      exact newHeld
  · rcases List.mem_append.mp member with earlier | last
    · exact writes.itemsNew row earlier
    · rw [List.mem_singleton.mp last]
      exact KeyedTable.find_eq_none.mpr fun other listed =>
        absent other (List.mem_append_left _ listed)
  · rw [List.map_append, List.map_singleton, ← List.concat_eq_append]
    refine List.Nodup.concat ?_ writes.distinct
    intro taken
    obtain ⟨row, listed, same⟩ := List.mem_map.mp taken
    exact absent row (List.mem_append_right _ listed) same
  · rcases List.mem_append.mp member with earlier | last
    · exact writes.owned row earlier
    · rw [List.mem_singleton.mp last]
      exact ofBatch

/-- The batch is rewritten before anybody else has seen it. -/
theorem writes_put {final : ImportBatch} (writes : Writes batch rows held pending seen)
    (sameId : final.id = batch.id) :
    ImportsDb.putBatch final (pending seen) = { seen with
      importBatches := seen.importBatches.insert final
      usageLineItems := rows.foldl KeyedTable.insert seen.usageLineItems } := by
  rw [writes.pending]
  have put : (seen.importBatches.insert batch).put final = seen.importBatches.insert final :=
    KeyedTable.put_insert sameId.symm (sameId ▸ writes.batchNew)
  simp only [ImportsDb.putBatch, put]

end Writes

section Commit

variable {before after : ImportsDb} {final : ImportBatch} {rows : List UsageLineItemRow}

/-- A new batch with all of its rows. -/
structure Adds (final : ImportBatch) (rows : List UsageLineItemRow) (before after : ImportsDb) :
    Prop where
  batchNew : before.importBatches.find final.id = none
  batches : after.importBatches = before.importBatches.insert final
  items : after.usageLineItems.rows = before.usageLineItems.rows ++ rows
  owned : ∀ row ∈ rows, row.importBatchId = final.id

theorem adds_items (consistent : Consistent before) (adds : Adds final rows before after) :
    itemsOf final.id after = rows := by
  have others : before.usageLineItems.rows.filter (fun item => item.importBatchId = final.id) =
      [] := by
    refine List.filter_eq_nil_iff.mpr fun item member same => ?_
    obtain ⟨batch, listed, isOwner, _⟩ := consistent.owned item member
    exact KeyedTable.find_eq_none.mp adds.batchNew batch listed
      (isOwner.trans (of_decide_eq_true same))
  have own : rows.filter (fun item => item.importBatchId = final.id) = rows :=
    List.filter_eq_self.mpr fun row member => decide_eq_true (adds.owned row member)
  rw [itemsOf, adds.items, List.filter_append, others, own, List.nil_append]

theorem adds_consistent (consistent : Consistent before) (adds : Adds final rows before after)
    (completed : rows ≠ [] → final.status = .completed)
    (counts : final.status = .completed → (rows.length : Int) = final.lineCount) :
    Consistent after := by
  have member (batch : ImportBatch) : batch ∈ after.importBatches ↔
      batch ∈ before.importBatches ∨ batch = final := by
    rw [adds.batches]
    exact KeyedTable.mem_insert adds.batchNew
  constructor
  · intro item listed
    have split : item ∈ before.usageLineItems.rows ++ rows := adds.items ▸ listed
    rcases List.mem_append.mp split with old | new
    · obtain ⟨batch, isOld, owns⟩ := consistent.owned item old
      exact ⟨batch, (member batch).mpr (Or.inl isOld), owns⟩
    · exact ⟨final, (member final).mpr (Or.inr rfl), (adds.owned item new).symm,
        completed (List.ne_nil_of_mem new)⟩
  · intro batch listed isCompleted
    rcases (member batch).mp listed with old | rfl
    · have apart : batch.id ≠ final.id := KeyedTable.find_eq_none.mp adds.batchNew batch old
      have none : rows.filter (fun item => item.importBatchId = batch.id) = [] :=
        List.filter_eq_nil_iff.mpr fun row isRow same =>
          apart ((of_decide_eq_true same).symm.trans (adds.owned row isRow))
      rw [itemsOf, adds.items, List.filter_append, none, List.append_nil]
      exact consistent.counted batch old isCompleted
    · rw [adds_items consistent adds]
      exact counts isCompleted

end Commit

section Transactions

variable {octets : Json → Nat} {runtime : ImportRuntime} {request : ImportRequest runtime}
  {held : List ImportsKey} {begun seen : ImportsDb} {pending : ImportsDb → ImportsDb}
  {batch : ImportBatch} {rows : List UsageLineItemRow}

theorem abortable (reason : ImportsAbort) :
    (importsContract runtime).Abortable request begun reason held seen :=
  fun _ _ => trivial

/-- Rule for the INSERT of the batch. -/
theorem insert_batch_meets {new : ImportBatch} :
    (insertBatch octets new).Meets (importsContract runtime).rely
      (fun _ held pending seen => Writes new [] held pending seen)
      ((importsContract runtime).Abortable request begun) held (fun db => db) seen := by
  unfold insertBatch
  rw [Txn.meets_then, Txn.meets_lockRow]
  intro locked _
  rw [Txn.meets_then, Txn.meets_view]
  intro now _
  rw [Txn.meets_then, Txn.meets_attempt]
  refine ⟨fun _ accepted => ?_, fun reason _ => abortable reason⟩
  rw [Txn.meets_save]
  exact ⟨fun _ => rfl, List.mem_cons_self, nofun,
    insert_import_batch_row_ok (map_error_ok.mp accepted), nofun, List.nodup_nil, nofun⟩

/-- Rule for the INSERT of one row. -/
theorem insert_item_meets {new : UsageLineItemRow} (writes : Writes batch rows held pending seen)
    (ofBatch : new.importBatchId = batch.id) :
    (insertItem new).Meets (importsContract runtime).rely
      (fun _ held pending seen => Writes batch (rows ++ [new]) held pending seen)
      ((importsContract runtime).Abortable request begun) held pending seen := by
  unfold insertItem
  rw [Txn.meets_then, Txn.meets_lockRow]
  intro locked waited
  have locking := writes_moves writes waited (List.subset_cons_self (.item new.id) held)
  rw [Txn.meets_then, Txn.meets_view]
  intro now moved
  have writing := writes_moves locking moved (List.Subset.refl _)
  rw [Txn.meets_then, Txn.meets_attempt]
  refine ⟨fun _ accepted => ?_, fun reason _ => abortable reason⟩
  rw [Txn.meets_then, Txn.meets_save, Txn.meets_pure]
  exact writes_item writing List.mem_cons_self
    (insert_usage_line_item_row_ok (map_error_ok.mp accepted)) ofBatch

/-- The loop over the parsed rows stores them in their order. -/
theorem insert_items_meets {items : List UsageLineItemRow}
    (writes : Writes batch [] held pending seen)
    (ofBatch : ∀ item ∈ items, item.importBatchId = batch.id) :
    (Txn.forEach insertItem [] items).Meets (importsContract runtime).rely
      (fun _ held pending seen => Writes batch items held pending seen)
      ((importsContract runtime).Abortable request begun) held pending seen := by
  refine Txn.meets_forEach
    (fun _ rest held pending seen => ∃ stored, stored ++ rest = items ∧
      Writes batch stored held pending seen) ?_ ?_ ⟨[], rfl, writes⟩
  · rintro found item rest held pending seen ⟨stored, isItems, writes⟩
    have listed : item ∈ items := by
      rw [← isItems]
      exact List.mem_append_right _ List.mem_cons_self
    refine Txn.meets_mono (fun _ held pending seen written => ?_)
      (insert_item_meets writes (ofBatch item listed))
    exact ⟨stored ++ [item], by rw [← isItems, List.append_assoc, List.singleton_append], written⟩
  · rintro found held pending seen ⟨stored, isItems, writes⟩
    rw [List.append_nil] at isItems
    exact isItems ▸ writes

/-- What is committed after `updateBatch`, when it is what the request stands for. -/
theorem final_committable {final : ImportBatch} (writes : Writes batch rows held pending seen)
    (sameId : final.id = batch.id) (isRequest : batch.id = request.batchId)
    (tenant : final.tenantId = request.input.tenantId)
    (completed : rows ≠ [] → final.status = .completed)
    (counts : final.status = .completed → (rows.length : Int) = final.lineCount)
    (holds : Holds request begun.clock final rows) :
    (importsContract runtime).Committable request begun final held
      (fun db => ImportsDb.putBatch final (pending db)) seen := by
  intro now moved
  have writing := writes_moves writes moved (List.Subset.refl _)
  have after := writes_put writing sameId
  have adds : Adds final rows now (ImportsDb.putBatch final (pending now)) := by
    rw [after]
    exact ⟨sameId ▸ writing.batchNew, rfl,
      KeyedTable.rows_foldl_insert writing.itemsNew writing.distinct,
      fun row member => (writing.owned row member).trans sameId.symm⟩
  have own := adds_items moved.1 adds
  refine ⟨adds_consistent moved.1 adds completed counts, trivial, fun key notHeld => ?_,
    isRequest ▸ writing.batchNew, sameId.trans isRequest, tenant, ?_, ?_, ?_⟩
  · change Same key now (ImportsDb.putBatch final (pending now))
    rw [after]
    cases key with
    | tenant id => trivial
    | batch id =>
        have apart : final.id ≠ id := by
          rintro rfl
          exact notHeld (sameId ▸ writing.batchHeld)
        change now.importBatches.find id = (now.importBatches.insert final).find id
        rw [KeyedTable.find_insert, if_neg apart, Option.or_none]
    | item id =>
        have apart : ∀ row ∈ rows, row.id ≠ id := by
          rintro row member rfl
          exact notHeld (writing.itemsHeld row member)
        change now.usageLineItems.find id =
          (rows.foldl KeyedTable.insert now.usageLineItems).find id
        rw [KeyedTable.find, KeyedTable.find,
          KeyedTable.rows_foldl_insert writing.itemsNew writing.distinct, List.find?_append]
        have none : rows.find? (fun row => row.id = id) = none :=
          List.find?_eq_none.mpr fun row member => by simpa using apart row member
        rw [none, Option.or_none]
  · rw [adds.batches]
    exact KeyedTable.rows_insert adds.batchNew
  · rw [own]
    exact adds.items
  · rw [own]
    exact holds

/-- Rule for `updateBatch`, the last statement. -/
theorem update_batch_meets {update : BatchUpdate}
    (writes : Writes (queuedBatch request.toNewImport begun.clock) rows held pending seen)
    (completed : rows ≠ [] → update.status = .completed)
    (counts : update.status = .completed → rows.length = update.lineCount)
    (holds : ∀ final : ImportBatch, final.status = update.status →
      final.lineCount = update.lineCount → final.errorDetails = update.errorDetails →
      final.parserWarnings = .array update.parserWarnings →
      (final.errorDetails ≠ .object [] ↔ final.status.explained = true) →
      Holds request begun.clock final rows) :
    (updateBatch octets begun.clock request.batchId update).Meets (importsContract runtime).rely
      ((importsContract runtime).Committable request begun)
      ((importsContract runtime).Abortable request begun) held pending seen := by
  unfold updateBatch
  rw [Txn.meets_then]
  apply Contract.meets_select
  · intro now _ _
    exact abortable _
  · intro now moved
    have writing := writes_moves writes moved (List.subset_cons_self (.batch request.batchId) held)
    have found : (pending now).importBatches.find request.batchId =
        some (queuedBatch request.toNewImport begun.clock) := by
      rw [writing.pending]
      dsimp only
      have isNew : now.importBatches.find request.batchId = none := writing.batchNew
      rw [KeyedTable.find_insert, isNew, Option.none_or]
      exact if_pos rfl
    rw [found]
    dsimp only
    rw [Txn.meets_then, Txn.meets_attempt]
    refine ⟨fun final accepted => ?_, fun reason _ => abortable reason⟩
    have explained := updated_batch_details (map_error_ok.mp accepted)
    obtain ⟨_, _, _, isFinal, _⟩ := updated_batch_iff.mp (map_error_ok.mp accepted)
    rw [Txn.meets_then, Txn.meets_save, Txn.meets_pure]
    have columns : final.id = request.batchId ∧ final.tenantId = request.input.tenantId ∧
        final.status = update.status ∧ final.lineCount = update.lineCount ∧
        final.errorDetails = update.errorDetails ∧
        final.parserWarnings = .array update.parserWarnings := by
      rw [isFinal]
      exact ⟨rfl, rfl, rfl, rfl, rfl, rfl⟩
    obtain ⟨sameId, tenant, status, lineCount, details, warnings⟩ := columns
    refine final_committable writing sameId rfl tenant (fun nonempty => ?_) (fun isCompleted => ?_)
      (holds final status lineCount details warnings explained)
    · rw [status]
      exact completed nonempty
    · rw [lineCount]
      exact_mod_cast counts (status ▸ isCompleted)

theorem item_rows_length (request : NewImport) (now : Instant)
    (lines : List UsageRows.UsageLineItem) : (itemRows request now lines).length = lines.length := by
  rw [itemRows, List.length_map, List.length_zipIdx]

theorem item_rows_owned (request : NewImport) (now : Instant)
    (lines : List UsageRows.UsageLineItem) :
    ∀ item ∈ itemRows request now lines, item.importBatchId = request.batchId := by
  intro item member
  obtain ⟨line, _, rfl⟩ := List.mem_map.mp member
  rfl

theorem create_import_meets :
    (createImport octets request.toNewImport begun.clock).Meets (importsContract runtime).rely
      ((importsContract runtime).Committable request begun)
      ((importsContract runtime).Abortable request begun) held (fun db => db) seen := by
  unfold createImport
  rw [Txn.meets_then]
  refine Txn.meets_mono (fun _ held pending seen writes => ?_) insert_batch_meets
  cases result : request.input.parseResult with
  | parsed parsed =>
      have count : (itemRows request.toNewImport begun.clock parsed.rows).length = parsed.lineCount := by
        rw [item_rows_length, parse_import_counted request.returned parsed result]
      dsimp only
      rw [Txn.meets_then]
      refine Txn.meets_mono (fun _ held pending seen written => ?_)
        (insert_items_meets writes (item_rows_owned request.toNewImport begun.clock parsed.rows))
      refine update_batch_meets written (fun _ => rfl) (fun _ => count) ?_
      intro final status lineCount details warnings _
      unfold Holds
      rw [result]
      exact ⟨status, lineCount, count, rfl, details, warnings⟩
  | quarantined lineCount errorDetails parserWarnings =>
      dsimp only
      refine update_batch_meets writes (fun nonempty => absurd rfl nonempty) nofun ?_
      intro final status lineCount details warnings explained
      have nonempty : final.errorDetails ≠ .object [] := explained.mpr (by rw [status]; rfl)
      unfold Holds
      rw [result]
      exact ⟨status, lineCount, rfl, details, fun empty => nonempty (details.trans empty),
        warnings⟩

theorem imports_verified (octets : Json → Nat) (runtime : ImportRuntime) :
    (importsContract runtime).Verified (@importProgram octets runtime) importsDrift where
  requests request begun _ := by
    unfold importProgram tenantImport
    rw [Txn.meets_then]
    apply Contract.meets_select
    · intro now _ _
      exact abortable _
    · intro now _
      cases (if now.tenants request.input.tenantId = true then some request.input.tenantId
        else none : Option Uuid) with
      | none => exact abortable _
      | some tenant => exact create_import_meets
  drifts event db consistent := by
    have same : (importsDrift event db).importBatches = db.importBatches ∧
        (importsDrift event db).usageLineItems = db.usageLineItems := by
      cases event <;> exact ⟨rfl, rfl⟩
    refine ⟨⟨?_, ?_⟩, trivial, fun key => ?_⟩
    · rw [same.1, same.2]
      exact consistent.owned
    · intro batch
      rw [itemsOf, same.1, same.2]
      exact consistent.counted batch
    · cases key with
      | tenant id => trivial
      | batch id => exact congrArg (KeyedTable.find · id) same.1.symm
      | item id => exact congrArg (KeyedTable.find · id) same.2.symm

end Transactions

section Atomicity

variable {runtime : ImportRuntime}

/-- The tables before the first import. -/
def noImports (tenants : Uuid → Bool) (cloudAccounts users : Uuid → Uuid → Bool)
    (clock : Instant) : ImportsDb where
  tenants := tenants
  cloudAccounts := cloudAccounts
  users := users
  importBatches := .empty
  usageLineItems := .empty
  clock := clock

theorem no_imports_consistent (tenants : Uuid → Bool) (cloudAccounts users : Uuid → Uuid → Bool)
    (clock : Instant) : Consistent (noImports tenants cloudAccounts users clock) :=
  ⟨fun _ member => absurd member (KeyedTable.not_mem_empty _),
    fun _ member => absurd member (KeyedTable.not_mem_empty _)⟩

/-- A transaction stores its import as a whole, or it stores nothing. -/
def Atomic (ending : Ending ImportsDb ImportsAbort ImportBatch (ImportRequest runtime)) : Prop :=
  match ending.outcome with
  | .committed batch =>
      Stored ending.request ending.begun.clock batch ending.before ending.after
  | .rolledBack _ | .dropped => ending.after = ending.before

/-- What an ended transaction has left. -/
def storedBatches (ending : Ending ImportsDb ImportsAbort ImportBatch (ImportRequest runtime)) :
    List ImportBatch :=
  match ending.outcome with
  | .committed batch => [batch]
  | .rolledBack _ | .dropped => []

def storedItems (ending : Ending ImportsDb ImportsAbort ImportBatch (ImportRequest runtime)) :
    List UsageLineItemRow :=
  match ending.outcome with
  | .committed batch => itemsOf batch.id ending.after
  | .rolledBack _ | .dropped => []

theorem atomic_stores {ending : Ending ImportsDb ImportsAbort ImportBatch (ImportRequest runtime)}
    (atomic : Atomic ending) :
    ending.after.importBatches.rows = ending.before.importBatches.rows ++ storedBatches ending ∧
      ending.after.usageLineItems.rows =
        ending.before.usageLineItems.rows ++ storedItems ending := by
  unfold Atomic at atomic
  unfold storedBatches storedItems
  cases outcome : ending.outcome with
  | committed batch =>
      rw [outcome] at atomic
      exact ⟨atomic.batches, atomic.items⟩
  | rolledBack reason | dropped =>
      rw [outcome] at atomic
      have same : ending.after = ending.before := atomic
      rw [same]
      exact ⟨(List.append_nil _).symm, (List.append_nil _).symm⟩

variable {octets : Json → Nat} {tenants : Uuid → Bool} {cloudAccounts users : Uuid → Uuid → Bool}
  {clock : Instant}

theorem endings_atomic (schedule : List (Action (ImportRequest runtime) ImportsDrift)) :
    ∀ ending ∈ endings (@importProgram octets runtime) importsDrift
      (System.initial (noImports tenants cloudAccounts users clock)) schedule, Atomic ending := by
  intro ending member
  obtain ⟨_, kept⟩ := endings_kept (imports_verified octets runtime)
    (initial_sound (no_imports_consistent tenants cloudAccounts users clock)) schedule ending member
  unfold Atomic
  cases outcome : ending.outcome with
  | committed batch =>
      rw [outcome] at kept
      exact kept
  | rolledBack reason =>
      rw [outcome] at kept
      exact kept.1
  | dropped =>
      rw [outcome] at kept
      exact kept

/-- After every schedule of imports, which may fail at every statement, each of them is
stored whole or not at all, the tables hold what was stored and nothing else, and the rows
are those of completed batches, which count them. -/
theorem imports_atomic {schedule : List (Action (ImportRequest runtime) ImportsDrift)}
    {system : System ImportsDb ImportsKey ImportsAbort ImportBatch (ImportRequest runtime)}
    (ran : execute (importsStep octets runtime)
      (System.initial (noImports tenants cloudAccounts users clock)) schedule = some system) :
    Consistent system.db ∧
      ∃ ended, ended = endings (@importProgram octets runtime) importsDrift
          (System.initial (noImports tenants cloudAccounts users clock)) schedule ∧
        (∀ ending ∈ ended, Atomic ending) ∧
        system.db.importBatches.rows = ended.flatMap storedBatches ∧
        system.db.usageLineItems.rows = ended.flatMap storedItems := by
  have atomic := @endings_atomic runtime octets tenants cloudAccounts users clock schedule
  refine ⟨?_, _, rfl, atomic, ?_, ?_⟩
  · exact (reachable_sound (imports_verified octets runtime)
      (initial_sound (no_imports_consistent tenants cloudAccounts users clock))
      ⟨schedule, ran⟩).invariant
  · refine part_accumulates (fun db : ImportsDb => db.importBatches.rows) storedBatches ?_ ran
      fun ending member => (atomic_stores (atomic ending member)).1
    intro event db
    cases event <;> rfl
  · refine part_accumulates (fun db : ImportsDb => db.usageLineItems.rows) storedItems ?_ ran
      fun ending member => (atomic_stores (atomic ending member)).2
    intro event db
    cases event <;> rfl

/-- A synthetic file of one row. -/
def oneRow : List UInt8 := csvBytes
  [["provider", "service_code", "sku", "region", "usage_start", "usage_end", "usage_quantity",
      "usage_unit", "on_demand_cost_cents", "realized_cost_cents", "commitment_applied_cents",
      "tags"],
    ["aws", "AmazonEC2", "BoxUsage:m5.large", "eu-west-1", "2024-02-29T00:00:00Z",
      "2024-02-29T01:00:00Z", "1.00000000", "Hrs", "11", "7", "4", "\x7b\x7d"]]

def oneTotal : List UsageRows.ImportControlTotal :=
  (ControlTotals.controlTotals exampleRuntime.normalize [ControlTotals.exampleEntry "1"]).getD []

/-- The import of a synthetic file. -/
def syntheticImport (runtime : ImportRuntime) (bytes : List UInt8)
    (totals : List UsageRows.ImportControlTotal) (batchId itemId : Uuid) :
    ImportRequest runtime where
  input := ⟨1, none, ⟨.synthetic, .csv, "usage.csv", 7, totals⟩,
    parseSyntheticCsvImport runtime bytes .aws totals⟩
  bytes := bytes
  account := .aws
  returned := by
    dsimp only
    rw [ImportRequests.parseImport, if_neg (by decide), if_pos (by decide)]
  batchId := batchId
  itemId _ := itemId

def oneRowImport : Uuid → Uuid → ImportRequest exampleRuntime :=
  syntheticImport exampleRuntime oneRow oneTotal

/-- The first import runs to its end, the second is lost after it has stored its row. -/
def importThenLoss : List (Action (ImportRequest exampleRuntime) ImportsDrift) :=
  [.start 1 (oneRowImport 10 11), .start 2 (oneRowImport 20 21)] ++
    List.replicate 14 (.advance 1) ++ List.replicate 9 (.advance 2) ++ [.drop 2]

theorem import_then_loss_atomic :
    ∃ system, execute (importsStep (fun _ => 2) exampleRuntime)
        (System.initial (noImports (fun _ => true) (fun _ _ => true) (fun _ _ => true) 0))
        importThenLoss = some system ∧
      system.db.importBatches.rows.map (fun batch => (batch.id, batch.status, batch.lineCount)) =
        [(10, .completed, 1)] ∧
      system.db.usageLineItems.rows.map (·.id) = [11] ∧ Consistent system.db := by
  have runs : (execute (importsStep (fun _ => 2) exampleRuntime)
      (System.initial (noImports (fun _ => true) (fun _ _ => true) (fun _ _ => true) 0))
      importThenLoss).any (fun system =>
        system.db.importBatches.rows.map (fun batch =>
          (batch.id, batch.status, batch.lineCount)) = [(10, .completed, 1)] &&
        system.db.usageLineItems.rows.map (·.id) = [11]) = true := by decide +kernel
  obtain ⟨system, ran, facts⟩ := (Option.any_eq_true _ _).mp runs
  obtain ⟨batches, items⟩ := Bool.and_eq_true_iff.mp facts
  exact ⟨system, ran, of_decide_eq_true batches, of_decide_eq_true items, (imports_atomic ran).1⟩

end Atomicity

end CommitmentOptimizer.Imports.ImportAtomicity
