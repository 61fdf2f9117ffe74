import CommitmentOptimizer.Foundations.JobQueue
import CommitmentOptimizer.PriceTables.PriceTableTransactions

/-!
# Price tables seen from outside

A creation and a transition as the other parties see them, in one step, and what
no sequence of them changes: the columns of a version, its items once it has left
the draft status, and that it does not become a draft again.
-/

namespace CommitmentOptimizer.PriceTables.PriceTableStatements

open Foundations
open Foundations.JobQueue
open Foundations.SqlConstraints
open PriceTableVersions
open PriceTableItems
open PriceTableTransactions

set_option autoImplicit false

structure PriceTableRows where
  versions : PriceTableVersionTable
  items : PriceTableItemTable

section Statements

variable (octets : Json → Nat)

/-- `create` from its INSERT on. -/
def createPriceTable (now : Instant) (tenantId : Uuid) (input : PriceTableCreateInput)
    (tables : PriceTableRows) : Except DbError PriceTableRows := do
  let version ← insertPriceTableVersionRow (newVersion tenantId input now)
  duplicateVersion tables.versions version
  let versions := tables.versions.insert version
  let items ← (input.items.map (newItem version now)).foldlM
    (fun items item => insertPriceTableItemRow octets versions item items) tables.items
  return { versions := versions, items := items }

/-- `transition`: one UPDATE. -/
def transitionPriceTable (clock : Instant) (tenantId id : Uuid) (status : PriceTableStatus)
    (tables : PriceTableRows) : Except DbError PriceTableRows := do
  let versions ← updateWhere id (fun row => row.tenantId == tenantId)
    (fun old => do
      let new := { old with status := status }
      enforcePriceTableVersionUpdate old new
      storePriceTableVersion clock new tables.versions) tables.versions
  return { tables with versions := versions }

def insertPriceTableItem (new : PriceTableItem) (tables : PriceTableRows) :
    Except DbError PriceTableRows := do
  let items ← insertPriceTableItemRow octets tables.versions new tables.items
  return { tables with items := items }

/-- UPDATE or DELETE of the items that `selects` matches. -/
def changePriceTables (selects : PriceTableItem → Bool) (tables : PriceTableRows) :
    Except DbError PriceTableRows := do
  let items ← changePriceTableItems selects tables.items
  return { tables with items := items }

end Statements

/-- The version has left the draft status. -/
def Released (versions : PriceTableVersionTable) (id : Uuid) : Prop :=
  ∃ version, versions.find id = some version ∧ version.status ≠ .draft

/-- What every later state of the price tables keeps. -/
structure Evolves (before after : PriceTableRows) : Prop where
  versions : ∀ id version, before.versions.find id = some version →
    ∃ later, after.versions.find id = some later ∧
      later.toPriceTableVersionIdentity = version.toPriceTableVersionIdentity ∧
      (version.status ≠ .draft → later.status ≠ .draft)
  items : ∀ keep : PriceTableItem → Bool,
    (∀ item, keep item = true → Released before.versions item.priceTableVersionId) →
    after.items.rows.filter keep = before.items.rows.filter keep

theorem evolves_refl (tables : PriceTableRows) : Evolves tables tables :=
  ⟨fun _ version found => ⟨version, found, rfl, fun settled => settled⟩, fun _ _ => rfl⟩

theorem evolves_released {before after : PriceTableRows} (evolves : Evolves before after) {id : Uuid}
    (released : Released before.versions id) : Released after.versions id := by
  obtain ⟨version, found, settled⟩ := released
  obtain ⟨later, laterFound, _, kept⟩ := evolves.versions id version found
  exact ⟨later, laterFound, kept settled⟩

theorem evolves_trans {first second third : PriceTableRows} (left : Evolves first second)
    (right : Evolves second third) : Evolves first third where
  versions id version found := by
    obtain ⟨middle, middleFound, middleSame, middleKept⟩ := left.versions id version found
    obtain ⟨later, laterFound, laterSame, laterKept⟩ := right.versions id middle middleFound
    exact ⟨later, laterFound, laterSame.trans middleSame, fun settled => laterKept (middleKept settled)⟩
  items keep released := by
    rw [right.items keep fun item kept => evolves_released left (released item kept),
      left.items keep released]

section Evolution

variable {octets : Json → Nat} {before after : PriceTableRows}

/-- An item of a draft version is in no selection of released items. -/
theorem insert_item_filter {versions : PriceTableVersionTable} {new : PriceTableItem}
    {items next : PriceTableItemTable} {keep : PriceTableItem → Bool}
    (accepted : insertPriceTableItemRow octets versions new items = .ok next)
    (released : keep new = true → Released versions new.priceTableVersionId) :
    next.rows.filter keep = items.rows.filter keep := by
  obtain ⟨rfl, fresh, version, found, draft⟩ := insert_price_table_item_row_ok accepted
  rw [KeyedTable.filter_insert fresh]
  cases kept : keep new with
  | false => simp
  | true =>
      obtain ⟨other, otherFound, settled⟩ := released kept
      rw [found] at otherFound
      obtain rfl := Option.some.inj otherFound
      exact absurd draft settled

theorem insert_items_filter {versions : PriceTableVersionTable} {news : List PriceTableItem}
    {items next : PriceTableItemTable} {keep : PriceTableItem → Bool}
    (accepted : news.foldlM (fun items item => insertPriceTableItemRow octets versions item items)
      items = .ok next)
    (released : ∀ new ∈ news, keep new = true → Released versions new.priceTableVersionId) :
    next.rows.filter keep = items.rows.filter keep := by
  induction news generalizing items with
  | nil => rw [← Except.ok.inj accepted]
  | cons new rest induction =>
      obtain ⟨middle, inserted, onward⟩ := bind_ok.mp accepted
      rw [induction onward fun later member => released later (List.mem_cons_of_mem _ member),
        insert_item_filter inserted (released new List.mem_cons_self)]

theorem create_price_table_evolves {now : Instant} {tenantId : Uuid}
    {input : PriceTableCreateInput}
    (accepted : createPriceTable octets now tenantId input before = .ok after) :
    Evolves before after := by
  obtain ⟨version, stored, accepted⟩ := bind_ok.mp accepted
  obtain ⟨_, unique, accepted⟩ := bind_ok.mp accepted
  obtain ⟨items, inserted, accepted⟩ := bind_ok.mp accepted
  obtain rfl := Except.ok.inj accepted
  obtain ⟨rfl, _⟩ := insert_price_table_version_row_ok stored
  have fresh := duplicate_version_ok unique
  have kept : ∀ id version, before.versions.find id = some version →
      (before.versions.insert (newVersion tenantId input now)).find id = some version := by
    intro id version found
    rw [KeyedTable.find_insert, found, Option.some_or]
  refine ⟨fun id version found => ⟨version, kept id version found, rfl, fun settled => settled⟩, ?_⟩
  intro keep released
  refine insert_items_filter inserted fun new _ kept' => ?_
  obtain ⟨version, found, settled⟩ := released new kept'
  exact ⟨version, kept _ version found, settled⟩

theorem transition_price_table_ok {clock : Instant} {tenantId id : Uuid} {status : PriceTableStatus}
    (accepted : transitionPriceTable clock tenantId id status before = .ok after) :
    after = before ∨ ∃ old row, before.versions.find id = some old ∧
      row.toPriceTableVersionIdentity = old.toPriceTableVersionIdentity ∧
      admitted old.status row.status = true ∧
      after = { before with versions := before.versions.put row } := by
  obtain ⟨versions, updated, stored⟩ := bind_ok.mp accepted
  obtain rfl := Except.ok.inj stored
  rcases update_where_ok updated with ⟨_, rfl⟩ | ⟨old, row, found, _, written, rfl⟩
  · exact Or.inl rfl
  · obtain ⟨_, enforced, written⟩ := bind_ok.mp written
    obtain ⟨same, _⟩ := store_price_table_version_ok written
    obtain ⟨_, moved⟩ := enforce_price_table_version_update_ok enforced
    exact Or.inr ⟨old, row, found, by rw [same], by rw [same]; exact moved, rfl⟩

theorem admitted_settles {old new : PriceTableStatus} (moved : admitted old new = true) :
    new ≠ .draft := by
  rintro rfl
  cases old <;> cases moved

theorem transition_price_table_evolves {clock : Instant} {tenantId id : Uuid}
    {status : PriceTableStatus}
    (accepted : transitionPriceTable clock tenantId id status before = .ok after) :
    Evolves before after := by
  rcases transition_price_table_ok accepted with rfl | ⟨old, row, found, same, moved, rfl⟩
  · exact evolves_refl after
  · refine ⟨fun other version present => ?_, fun _ _ => rfl⟩
    have oldKey := KeyedTable.key_of_find found
    have rowKey : row.id = id := (congrArg PriceTableVersionIdentity.id same).trans oldKey
    by_cases mine : row.id = other
    · have sameVersion : version = old := by
        rw [← mine, rowKey, found] at present
        exact (Option.some.inj present).symm
      refine ⟨row, ?_, by rw [sameVersion, same], fun _ => admitted_settles moved⟩
      rw [KeyedTable.find_put, if_pos mine, present, Option.map_some]
    · refine ⟨version, ?_, rfl, fun settled => settled⟩
      rw [KeyedTable.find_put, if_neg mine, present]

theorem insert_price_table_item_evolves {new : PriceTableItem}
    (accepted : insertPriceTableItem octets new before = .ok after) : Evolves before after := by
  obtain ⟨items, inserted, stored⟩ := bind_ok.mp accepted
  obtain rfl := Except.ok.inj stored
  exact ⟨fun _ version found => ⟨version, found, rfl, fun settled => settled⟩,
    fun _ released => insert_item_filter inserted (released new)⟩

theorem change_price_tables_evolves {selects : PriceTableItem → Bool}
    (accepted : changePriceTables selects before = .ok after) : Evolves before after := by
  obtain ⟨items, changed, stored⟩ := bind_ok.mp accepted
  obtain rfl := Except.ok.inj stored
  obtain rfl := change_price_table_items_ok changed
  exact evolves_refl _

end Evolution

end CommitmentOptimizer.PriceTables.PriceTableStatements
