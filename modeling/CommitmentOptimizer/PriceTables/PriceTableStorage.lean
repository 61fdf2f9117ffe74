import CommitmentOptimizer.Foundations.ColumnCasts
import CommitmentOptimizer.Foundations.TransactionHistory
import CommitmentOptimizer.PriceTables.PriceTableBodies

/-!
# What the tables store of a request

`create` of `price-tables-repository.ts` with the texts of a parsed request, which its
INSERTs cast. Not every request that the parser accepts fits into the tables.
-/

namespace CommitmentOptimizer.PriceTables.PriceTableStorage

open Foundations
open Foundations.CalendarDates
open Foundations.ColumnCasts
open Foundations.DateTexts
open Foundations.RowLocking
open Foundations.SqlConstraints
open Foundations.TransactionHistory
open Forecasting.SeasonalForecast (DateText)
open Optimizer.Candidates
open PriceItemRequests
open PriceTableBodies
open PriceTableItems
open PriceTableTransactions
open PriceTableVersions
open Recommendations.RecommendationLifecycle

set_option autoImplicit false

section Program

/-- The identifiers that `gen_random_uuid()` draws, those of the items in their order. -/
structure DrawnIds where
  versionId : Uuid
  itemIds : List Uuid

def dateTextColumn (date : DateText) : Except DbError Int := dateColumn date.text.toList

/-- The columns of a request whose dates are cast. -/
def columns (input : PriceTableBody) (drawn : DrawnIds) (effectiveFrom : Int)
    (effectiveTo : Option Int) : PriceTableCreateInput where
  versionId := drawn.versionId
  provider := input.provider
  instrument := input.instrument
  versionLabel := input.versionLabel.text
  effectiveFrom := effectiveFrom
  effectiveTo := effectiveTo
  sourceUri := input.sourceUri
  checksum := input.checksum
  items := (input.items.zip drawn.itemIds).map fun pair => pair.1.columns pair.2

def itemRow (version : PriceTableVersion) (now : Instant) (pair : PriceItemInput × Uuid) :
    PriceTableItem :=
  newItem version now (pair.1.columns pair.2)

variable (octets : Json → Nat)

/-- One INSERT of the loop over `input.items`. -/
def insertItemBody (version : PriceTableVersion) (now : Instant) (pair : PriceItemInput × Uuid) :
    PriceTablesTxn (Option PriceTableItem) := do
  let _ ← Txn.attempt ((jsonbColumn pair.1.coverageRules).mapError .database)
  insertItem octets (itemRow version now pair)

/-- `create` behind the casts of its first statement. -/
def createRows (tenantId : Uuid) (drawn : DrawnIds) (input : PriceTableBody)
    (begun : PriceTablesDb) (effectiveFrom : Int) (effectiveTo : Option Int) :
    PriceTablesTxn PriceTableVersion := do
  let version ←
    insertVersion (newVersion tenantId (columns input drawn effectiveFrom effectiveTo) begun.clock)
  let _ ← Txn.forEach (insertItemBody octets version begun.clock) []
    (input.items.zip drawn.itemIds)
  return version

/-- `create` in `withTenantTransaction`, with the casts of its statements. -/
def createBody (tenantId : Uuid) (drawn : DrawnIds) (input : PriceTableBody)
    (begun : PriceTablesDb) : PriceTablesTxn PriceTableVersion := do
  let tenant ← Txn.selectForUpdate (.tenant tenantId)
    fun db => if db.tenants tenantId then some tenantId else none
  match tenant with
  | none => Txn.abort (.failure "Authenticated tenant vanished.")
  | some _ =>
      let effectiveFrom ← Txn.attempt ((dateTextColumn input.effectiveFrom).mapError .database)
      let effectiveTo ←
        Txn.attempt ((nullableColumn dateTextColumn input.effectiveTo).mapError .database)
      createRows octets tenantId drawn input begun effectiveFrom effectiveTo

end Program

section Conditions

/-- The columns of a request's item that the table holds only once. -/
def dimensions (item : PriceItemInput) : String × String × Int × PaymentOption :=
  (item.sku.text, item.region.text, item.termMonths, item.paymentOption)

/-- An item whose values fit into their columns. -/
structure FittingItem (octets : Json → Nat) (item : PriceItemInput) : Prop where
  hourly : item.hourlyRateCents.value ≤ 9223372036854775807
  upfront : item.upfrontCents.value ≤ 9223372036854775807
  plain : holdsNul item.coverageRules = false
  short : octets item.coverageRules ≤ 65536

/-- The year of a date is not 0. -/
def Dated (date : DateText) : Prop := (dateParts date.text.toList).1 ≠ 0

/-- A request that fits into the tables. -/
structure Fitting (octets : Json → Nat) (input : PriceTableFields) : Prop where
  effectiveFrom : Dated input.effectiveFrom
  effectiveTo : ∀ last ∈ input.effectiveTo, Dated last
  items : ∀ item ∈ input.items, FittingItem octets item
  distinct : (input.items.map dimensions).Nodup

instance (octets : Json → Nat) (item : PriceItemInput) : Decidable (FittingItem octets item) :=
  decidable_of_iff (item.hourlyRateCents.value ≤ 9223372036854775807 ∧
      item.upfrontCents.value ≤ 9223372036854775807 ∧ holdsNul item.coverageRules = false ∧
      octets item.coverageRules ≤ 65536)
    ⟨fun ⟨hourly, upfront, plain, short⟩ => ⟨hourly, upfront, plain, short⟩,
      fun fits => ⟨fits.hourly, fits.upfront, fits.plain, fits.short⟩⟩

instance (date : DateText) : Decidable (Dated date) :=
  inferInstanceAs (Decidable ((dateParts date.text.toList).1 ≠ 0))

instance (octets : Json → Nat) (input : PriceTableFields) : Decidable (Fitting octets input) :=
  decidable_of_iff (Dated input.effectiveFrom ∧ (∀ last ∈ input.effectiveTo, Dated last) ∧
      (∀ item ∈ input.items, FittingItem octets item) ∧ (input.items.map dimensions).Nodup)
    ⟨fun ⟨first, last, items, distinct⟩ => ⟨first, last, items, distinct⟩,
      fun fits => ⟨fits.effectiveFrom, fits.effectiveTo, fits.items, fits.distinct⟩⟩

/-- The drawn identifiers are new, one for each row. -/
structure Fresh (drawn : DrawnIds) (input : PriceTableFields) (db : PriceTablesDb) : Prop where
  version : db.versions.find drawn.versionId = none
  count : drawn.itemIds.length = input.items.length
  items : ∀ id ∈ drawn.itemIds, db.items.find id = none
  distinct : drawn.itemIds.Nodup

/-- The label and the checksum are new for the tenant, the provider and the instrument. -/
def NewVersion (tenantId : Uuid) (input : PriceTableBody) (db : PriceTablesDb) : Prop :=
  ∀ other ∈ db.versions, other.scope = ⟨tenantId, input.provider, input.instrument⟩ →
    other.versionLabel ≠ input.versionLabel.text ∧ other.checksum ≠ input.checksum

/-- The foreign key of the items. -/
def Referenced (db : PriceTablesDb) : Prop :=
  ∀ item ∈ db.items, ∃ version ∈ db.versions, version.id = item.priceTableVersionId

/-- The draft stands with the listed items, and nothing else is different. -/
structure Created (tenantId : Uuid) (drawn : DrawnIds) (input : PriceTableBody)
    (db after : PriceTablesDb) (version : PriceTableVersion) : Prop where
  columns : version =
    newVersion tenantId (columns input drawn version.effectiveFrom version.effectiveTo) db.clock
  effectiveFrom : civilOfDay version.effectiveFrom = dateParts input.effectiveFrom.text.toList
  effectiveTo : version.effectiveTo.map civilOfDay =
    input.effectiveTo.map fun last => dateParts last.text.toList
  versions : after.versions.rows = db.versions.rows ++ [version]
  items : after.items.rows =
    db.items.rows ++ (input.items.zip drawn.itemIds).map (itemRow version db.clock)
  tenants : after.tenants = db.tenants
  clock : after.clock = db.clock

end Conditions

section Items

variable {octets : Json → Nat} {version : PriceTableVersion} {now : Instant} {db : PriceTablesDb}
  {pair : PriceItemInput × Uuid}

theorem insert_item_alone (new : PriceTableItem) :
    runAlone (insertItem octets new) (fun db => db) db =
      ((insertPriceTableItemRow octets db.versions new db.items).mapError .database).map
        fun _ => (some new, db.insertItem new) := by
  have body (outcome : Except PriceTablesAbort PriceTableItemTable) :
      runAlone ((Txn.attempt outcome : PriceTablesTxn PriceTableItemTable).bind fun _ =>
        (Txn.save (PriceTablesDb.insertItem new)).bind fun _ => .done (some new))
        (fun db => db) db = outcome.map fun _ => (some new, db.insertItem new) := by
    cases outcome <;> rfl
  exact body _

/-- The checks of the table on an item that the parser has accepted. -/
theorem item_row_checks (pairs : version.instrument.provider = version.provider)
    (checked : CheckedItem pair.1) :
    (∀ constraint ∈ (itemRow version now pair).checks octets, constraint.2 = true) ↔
      octets pair.1.coverageRules ≤ 65536 := by
  have nonneg : (0 : Int) ≤ (pair.1.hourlyRateCents.value : Int) ∧
      (0 : Int) ≤ (pair.1.upfrontCents.value : Int) :=
    ⟨Int.natCast_nonneg _, Int.natCast_nonneg _⟩
  simp [PriceTableItem.checks, itemRow, newItem, PriceItemInput.columns, pairs, checked.sku,
    checked.region, checked.term, checked.rules, checked.plain, nonneg]
  exact decide_eq_true_iff

theorem cents_bigint (number : Imports.UsageRows.UnsignedText) :
    isBigint (number.value : Int) = true ↔ number.value ≤ 9223372036854775807 := by
  simp only [isBigint, Bool.and_eq_true, decide_eq_true_eq]
  omega

theorem insert_item_body_alone (found : db.versions.find version.id = some version)
    (draft : version.status = .draft) (pairs : version.instrument.provider = version.provider)
    (checked : CheckedItem pair.1) (fresh : db.items.find pair.2 = none)
    {result : Option PriceTableItem × PriceTablesDb} :
    runAlone (insertItemBody octets version now pair) (fun db => db) db = .ok result ↔
      FittingItem octets pair.1 ∧
        (∀ other ∈ db.items, sameDimensions (itemRow version now pair) other = false) ∧
        result = (some (itemRow version now pair), db.insertItem (itemRow version now pair)) := by
  have statement : runAlone (insertItemBody octets version now pair) (fun db => db) db =
      (jsonbColumn pair.1.coverageRules).mapError .database >>= fun _ =>
        ((insertPriceTableItemRow octets db.versions (itemRow version now pair) db.items).mapError
          .database).map fun _ =>
            (some (itemRow version now pair), db.insertItem (itemRow version now pair)) := by
    have bound := run_alone_bind
      (Txn.attempt ((jsonbColumn pair.1.coverageRules).mapError PriceTablesAbort.database))
      (fun _ => insertItem octets (itemRow version now pair)) db
    rw [run_alone_attempt] at bound
    refine bound.trans ?_
    cases (jsonbColumn pair.1.coverageRules).mapError PriceTablesAbort.database with
    | error reason => rfl
    | ok column => exact insert_item_alone _
  rw [statement, bind_ok]
  have stored := @insert_price_table_item_row_iff octets db.versions (itemRow version now pair)
    db.items (db.items.insert (itemRow version now pair)) version found rfl draft
  rw [item_row_checks pairs checked] at stored
  constructor
  · rintro ⟨column, cast, inserted⟩
    obtain ⟨next, accepted, rfl⟩ := map_ok.mp inserted
    rw [map_error_ok] at cast accepted
    obtain ⟨wide, short, _, apart, _⟩ := (insert_price_table_item_row_iff found rfl draft).mp accepted
    refine ⟨⟨(cents_bigint _).mp wide.1, (cents_bigint _).mp wide.2, (jsonb_column_ok.mp cast).1,
      (item_row_checks pairs checked).mp short⟩, apart, rfl⟩
  · rintro ⟨fits, apart, rfl⟩
    refine ⟨pair.1.coverageRules, map_error_ok.mpr (jsonb_column_ok.mpr ⟨fits.plain, rfl⟩), ?_⟩
    have accepted := stored.mpr ⟨⟨(cents_bigint _).mpr fits.hourly, (cents_bigint _).mpr fits.upfront⟩,
      fits.short, fresh, apart, rfl⟩
    rw [accepted]
    rfl

end Items

section Loop

variable {octets : Json → Nat} {version : PriceTableVersion} {now : Instant}

/-- What the loop needs of the items, beside what the parser has checked. -/
structure Loads (octets : Json → Nat) (version : PriceTableVersion) (now : Instant)
    (pairs : List (PriceItemInput × Uuid)) (items : PriceTableItemTable) : Prop where
  fits : ∀ pair ∈ pairs, FittingItem octets pair.1
  apart : ∀ pair ∈ pairs, ∀ other ∈ items, sameDimensions (itemRow version now pair) other = false
  distinct : pairs.Pairwise fun earlier later =>
    sameDimensions (itemRow version now later) (itemRow version now earlier) = false

theorem loads_cons {pair : PriceItemInput × Uuid} {rest : List (PriceItemInput × Uuid)}
    {items : PriceTableItemTable} (fresh : items.find pair.2 = none) :
    Loads octets version now (pair :: rest) items ↔
      FittingItem octets pair.1 ∧
        (∀ other ∈ items, sameDimensions (itemRow version now pair) other = false) ∧
        Loads octets version now rest (items.insert (itemRow version now pair)) := by
  have inserted : ∀ other, other ∈ items.insert (itemRow version now pair) ↔
      other ∈ items ∨ other = itemRow version now pair := fun other => KeyedTable.mem_insert fresh
  constructor
  · rintro ⟨fits, apart, distinct⟩
    obtain ⟨first, later⟩ := List.pairwise_cons.mp distinct
    refine ⟨fits _ List.mem_cons_self, apart _ List.mem_cons_self,
      fun next member => fits next (List.mem_cons_of_mem _ member),
      fun next member other stored => ?_, later⟩
    rcases (inserted other).mp stored with old | rfl
    · exact apart next (List.mem_cons_of_mem _ member) other old
    · exact first next member
  · rintro ⟨fits, apart, rest⟩
    refine ⟨fun next member => ?_, fun next member other stored => ?_,
      List.pairwise_cons.mpr ⟨fun next member => ?_, rest.distinct⟩⟩
    · rcases List.mem_cons.mp member with rfl | later
      · exact fits
      · exact rest.fits next later
    · rcases List.mem_cons.mp member with rfl | later
      · exact apart other stored
      · exact rest.apart next later other ((inserted other).mpr (Or.inl stored))
    · exact rest.apart next member _ ((inserted _).mpr (Or.inr rfl))

/-- The loop stores every row exactly when the items load. -/
theorem insert_items_alone {pairs : List (PriceItemInput × Uuid)} {found : List PriceTableItem}
    {db : PriceTablesDb} (parent : db.versions.find version.id = some version)
    (draft : version.status = .draft) (supported : version.instrument.provider = version.provider)
    (checked : ∀ pair ∈ pairs, CheckedItem pair.1)
    (fresh : ∀ pair ∈ pairs, db.items.find pair.2 = none) (distinct : (pairs.map Prod.snd).Nodup)
    {result : List PriceTableItem × PriceTablesDb} :
    runAlone (Txn.forEach (insertItemBody octets version now) found pairs) (fun db => db) db =
        .ok result ↔
      Loads octets version now pairs db.items ∧
        result = (found ++ pairs.map (itemRow version now),
          { db with items := (pairs.map (itemRow version now)).foldl KeyedTable.insert db.items }) := by
  rw [run_alone_for_each]
  induction pairs generalizing found db with
  | nil =>
      rw [List.foldlM_nil, List.map_nil, List.append_nil, List.foldl_nil]
      constructor
      · intro same
        exact ⟨⟨nofun, nofun, List.Pairwise.nil⟩, (Except.ok.inj same).symm⟩
      · rintro ⟨_, rfl⟩
        rfl
  | cons pair rest induction =>
      have first := @insert_item_body_alone octets version now db pair parent draft supported
        (checked pair List.mem_cons_self) (fresh pair List.mem_cons_self)
      obtain ⟨apart, restDistinct⟩ := List.nodup_cons.mp distinct
      have onward := @induction (found ++ [itemRow version now pair])
        (db.insertItem (itemRow version now pair)) parent
        (fun next member => checked next (List.mem_cons_of_mem _ member))
        (fun next member => by
          have free := fresh next (List.mem_cons_of_mem _ member)
          change (db.items.insert (itemRow version now pair)).find next.2 = none
          rw [KeyedTable.find_insert, free, Option.none_or]
          exact if_neg fun same => apart (List.mem_map.mpr ⟨next, member, same.symm⟩)) restDistinct
      rw [List.foldlM_cons, bind_ok, loads_cons (fresh pair List.mem_cons_self)]
      constructor
      · rintro ⟨state, stored, continued⟩
        obtain ⟨outcome, inserted, same⟩ := bind_ok.mp stored
        obtain ⟨fits, free, rfl⟩ := first.mp inserted
        obtain rfl := Except.ok.inj same
        obtain ⟨loads, rfl⟩ := onward.mp continued
        refine ⟨⟨fits, free, loads⟩, ?_⟩
        rw [List.append_assoc]
        rfl
      · rintro ⟨⟨fits, free, loads⟩, rfl⟩
        refine ⟨(found ++ [itemRow version now pair], db.insertItem (itemRow version now pair)),
          bind_ok.mpr ⟨_, first.mpr ⟨fits, free, rfl⟩, rfl⟩, onward.mpr ⟨loads, ?_⟩⟩
        rw [List.append_assoc]
        rfl

end Loop

section Requests

variable {octets : Json → Nat} {tenantId : Uuid} {drawn : DrawnIds} {input : PriceTableBody}
  {db : PriceTablesDb}

theorem create_body_alone (tenant : db.tenants tenantId = true)
    {result : PriceTableVersion × PriceTablesDb} :
    runAlone (createBody octets tenantId drawn input db) (fun db => db) db = .ok result ↔
      ∃ effectiveFrom effectiveTo, dateTextColumn input.effectiveFrom = .ok effectiveFrom ∧
        nullableColumn dateTextColumn input.effectiveTo = .ok effectiveTo ∧
        runAlone (createRows octets tenantId drawn input db effectiveFrom effectiveTo)
          (fun db => db) db = .ok result := by
  have casts (first : Except PriceTablesAbort Int) (last : Except PriceTablesAbort (Option Int)) :
      runAlone (do
        let found ← Txn.selectForUpdate (.tenant tenantId)
          fun db : PriceTablesDb => if db.tenants tenantId then some tenantId else none
        match found with
        | none => Txn.abort (.failure "Authenticated tenant vanished.")
        | some _ =>
            let effectiveFrom ← Txn.attempt first
            let effectiveTo ← Txn.attempt last
            createRows octets tenantId drawn input db effectiveFrom effectiveTo)
        (fun db => db) db = .ok result ↔
        ∃ effectiveFrom effectiveTo, first = .ok effectiveFrom ∧ last = .ok effectiveTo ∧
          runAlone (createRows octets tenantId drawn input db effectiveFrom effectiveTo)
            (fun db => db) db = .ok result := by
    simp only [Txn.selectForUpdate, Txn.view, Txn.lockRow, bind, Txn.bind, runAlone, tenant,
      if_true, pure]
    cases first with
    | error reason => simp [Txn.attempt, Txn.bind, runAlone]
    | ok effectiveFrom =>
        cases last with
        | error reason => simp [Txn.attempt, Txn.bind, runAlone]
        | ok effectiveTo => simp [Txn.attempt, Txn.bind]
  rw [createBody, casts]
  simp only [map_error_ok]

theorem insert_items_eq (version : PriceTableVersion) (now : Instant)
    (found : List PriceTableItem) {pairs : List (PriceItemInput × Uuid)}
    (plain : ∀ pair ∈ pairs, holdsNul pair.1.coverageRules = false) :
    Txn.forEach (insertItemBody octets version now) found pairs =
      Txn.forEach (insertItem octets) found (pairs.map (itemRow version now)) := by
  induction pairs generalizing found with
  | nil => rfl
  | cons pair rest induction =>
      have cast : jsonbColumn pair.1.coverageRules = .ok pair.1.coverageRules :=
        jsonb_column_ok.mpr ⟨plain pair List.mem_cons_self, rfl⟩
      have body : insertItemBody octets version now pair =
          insertItem octets (itemRow version now pair) := by
        unfold insertItemBody
        rw [cast]
        rfl
      rw [List.map_cons, Txn.forEach, Txn.forEach, body]
      exact congrArg _ (funext fun outcome =>
        induction _ fun next member => plain next (List.mem_cons_of_mem _ member))

/-- Where every cast succeeds, the transaction is the one over the columns. -/
theorem create_body_eq {effectiveFrom : Int} {effectiveTo : Option Int}
    (first : dateTextColumn input.effectiveFrom = .ok effectiveFrom)
    (last : nullableColumn dateTextColumn input.effectiveTo = .ok effectiveTo)
    (plain : ∀ item ∈ input.items, holdsNul item.coverageRules = false) :
    createBody octets tenantId drawn input db =
      create octets tenantId (columns input drawn effectiveFrom effectiveTo) db := by
  have rows (version : PriceTableVersion) :=
    @insert_items_eq octets version db.clock [] (input.items.zip drawn.itemIds)
      fun pair member => plain _ (List.of_mem_zip member).1
  unfold createBody create createRows
  rw [first, last]
  simp only [rows, columns, List.map_map]
  rfl

theorem insert_version_alone (new : PriceTableVersion) :
    runAlone (insertVersion new) (fun db => db) db =
      (insertPriceTableVersionRow new).mapError .database >>= fun row =>
        ((duplicateVersion db.versions row).mapError .database).map fun _ =>
          (row, db.insertVersion row) := by
  have body (row : PriceTableVersion) (outcome : Except PriceTablesAbort Unit) :
      runAlone ((Txn.attempt outcome : PriceTablesTxn Unit).bind fun _ =>
        (Txn.save (PriceTablesDb.insertVersion row)).bind fun _ => .done row)
        (fun db => db) db = outcome.map fun _ => (row, db.insertVersion row) := by
    cases outcome <;> rfl
  unfold insertVersion
  cases insertPriceTableVersionRow new with
  | error error => rfl
  | ok row => exact body row _

end Requests

section Versions

variable {octets : Json → Nat} {tenantId : Uuid} {drawn : DrawnIds} {input : PriceTableBody}
  {db : PriceTablesDb} {effectiveFrom : Int} {effectiveTo : Option Int}

theorem date_text_column {date : DateText} (iso : IsoDate date) :
    (∃ day, dateTextColumn date = .ok day) ↔ Dated date := by
  obtain ⟨time, begins⟩ := iso
  exact iso_date_column date.form begins

theorem nullable_date_column {date : Option DateText} (iso : ∀ last ∈ date, IsoDate last) :
    (∃ day, nullableColumn dateTextColumn date = .ok day) ↔ ∀ last ∈ date, Dated last := by
  cases date with
  | none => exact ⟨fun _ => nofun, fun _ => ⟨none, rfl⟩⟩
  | some last =>
      have dated := date_text_column (iso last rfl)
      simp only [nullableColumn, map_ok]
      constructor
      · rintro ⟨_, day, cast, _⟩ other same
        obtain rfl := Option.some.inj same
        exact dated.mp ⟨day, cast⟩
      · intro each
        obtain ⟨day, cast⟩ := dated.mpr (each last rfl)
        exact ⟨some day, day, cast, rfl⟩

/-- The cast dates are those of the request. -/
theorem nullable_date_civil {date : Option DateText} {day : Option Int}
    (cast : nullableColumn dateTextColumn date = .ok day) :
    day.map civilOfDay = date.map fun last => dateParts last.text.toList := by
  cases date with
  | none =>
      obtain rfl := Except.ok.inj cast
      rfl
  | some last =>
      obtain ⟨number, isNumber, rfl⟩ := map_ok.mp cast
      rw [Option.map_some, Option.map_some, (date_column_ok isNumber).2]

theorem period_ordered (checked : CheckedFields input.toPriceTableFields)
    (first : dateTextColumn input.effectiveFrom = .ok effectiveFrom)
    (last : nullableColumn dateTextColumn input.effectiveTo = .ok effectiveTo) :
    effectiveTo.all (fun day => effectiveFrom ≤ day) = true := by
  have civil := nullable_date_civil last
  cases effectiveTo with
  | none => rfl
  | some day =>
      rw [Option.map_some] at civil
      obtain ⟨date, isDate, parts⟩ := Option.map_eq_some_iff.mp civil.symm
      obtain ⟨_, ordered⟩ := checked.effectiveTo date isDate
      refine decide_eq_true (not_lt.mp fun before => ordered ?_)
      have earlier := civil_of_day_earlier before
      rw [(date_column_ok first).2, ← parts] at earlier
      exact String.lt_iff.mpr (date_text_lt date.form input.effectiveFrom.form earlier)

theorem insert_version_ok (checked : CheckedFields input.toPriceTableFields)
    (hex : isChecksum input.checksum = true) (isNew : NewVersion tenantId input db)
    (fresh : Fresh drawn input.toPriceTableFields db)
    (first : dateTextColumn input.effectiveFrom = .ok effectiveFrom)
    (last : nullableColumn dateTextColumn input.effectiveTo = .ok effectiveTo)
    {version : PriceTableVersion}
    (isVersion : version =
      newVersion tenantId (columns input drawn effectiveFrom effectiveTo) db.clock) :
    runAlone (insertVersion version) (fun db => db) db = .ok (version, db.insertVersion version) := by
  have draft : version.status = .draft := by rw [isVersion]; rfl
  have row : insertPriceTableVersionRow version = .ok version := by
    refine bind_ok.mpr ⟨version, ?_, bind_ok.mpr ⟨(), check_all_ok.mpr ?_, rfl⟩⟩
    · rw [enforcePriceTableVersionInsert, if_neg (not_not.mpr draft)]
    · have period := period_ordered checked first last
      simp [isVersion, PriceTableVersion.checks, newVersion, columns, checked.pair,
        checked.versionLabel, checked.sourceUri, hex, period]
  have keys : duplicateVersion db.versions version = .ok () := by
    have apart : ∀ other ∈ db.versions.rows, other.scope = version.scope →
        other.versionLabel ≠ version.versionLabel ∧ other.checksum ≠ version.checksum := by
      rw [isVersion]
      exact isNew
    refine bind_ok.mpr ⟨(), require_ok.mpr ?_, bind_ok.mpr ⟨(), require_ok.mpr ?_,
      require_ok.mpr ?_⟩⟩
    · rw [isVersion]
      exact Option.isNone_iff_eq_none.mpr fresh.version
    · rw [Bool.not_eq_true', List.any_eq_false]
      intro other member same
      rw [Bool.and_eq_true, beq_iff_eq, beq_iff_eq] at same
      exact (apart other member same.1).1 same.2
    · rw [Bool.not_eq_true', List.any_eq_false]
      intro other member same
      rw [Bool.and_eq_true, beq_iff_eq, beq_iff_eq] at same
      exact (apart other member same.1).2 same.2
  rw [insert_version_alone, row]
  exact bind_ok.mpr ⟨version, rfl, by rw [keys]; rfl⟩

/-- The items load when they fit and no two of them share their dimensions. -/
theorem loads_iff {version : PriceTableVersion} {now : Instant} {items : PriceTableItemTable}
    {listed : List PriceItemInput} {ids : List Uuid} (count : ids.length = listed.length)
    (others : ∀ other ∈ items, other.priceTableVersionId ≠ version.id) :
    Loads octets version now (listed.zip ids) items ↔
      (∀ item ∈ listed, FittingItem octets item) ∧ (listed.map dimensions).Nodup := by
  have firsts : (listed.zip ids).map Prod.fst = listed := List.map_fst_zip (le_of_eq count.symm)
  have same (earlier later : PriceItemInput × Uuid) :
      sameDimensions (itemRow version now later) (itemRow version now earlier) = false ↔
        dimensions earlier.1 ≠ dimensions later.1 := by
    rw [ne_comm]
    simp only [sameDimensions, itemRow, newItem, PriceItemInput.columns, dimensions, decide_true,
      Bool.true_and, Bool.and_eq_false_iff, ne_eq, Prod.mk.injEq, not_and_or, or_assoc]
    exact or_congr decide_eq_false_iff_not (or_congr decide_eq_false_iff_not
      (or_congr decide_eq_false_iff_not decide_eq_false_iff_not))
  constructor
  · rintro ⟨fits, _, distinct⟩
    constructor
    · intro item member
      rw [← firsts] at member
      obtain ⟨pair, isPair, rfl⟩ := List.mem_map.mp member
      exact fits pair isPair
    · rw [← firsts, List.map_map, List.Nodup, List.pairwise_map]
      exact distinct.imp fun apart => (same _ _).mp apart
  · rintro ⟨fits, distinct⟩
    refine ⟨fun pair member => fits _ ?_, fun pair member other stored => ?_, ?_⟩
    · exact (List.of_mem_zip member).1
    · refine Bool.eq_false_iff.mpr fun equal => others other stored ?_
      simp only [sameDimensions, Bool.and_eq_true, decide_eq_true_eq] at equal
      exact equal.1.1.1.1.1.1.2.symm
    · rw [← firsts, List.map_map, List.Nodup, List.pairwise_map] at distinct
      exact distinct.imp fun apart => (same _ _).mpr apart

theorem create_rows_alone (checked : CheckedFields input.toPriceTableFields)
    (hex : isChecksum input.checksum = true) (isNew : NewVersion tenantId input db)
    (referenced : Referenced db) (fresh : Fresh drawn input.toPriceTableFields db)
    (first : dateTextColumn input.effectiveFrom = .ok effectiveFrom)
    (last : nullableColumn dateTextColumn input.effectiveTo = .ok effectiveTo)
    {version : PriceTableVersion} {after : PriceTablesDb} :
    runAlone (createRows octets tenantId drawn input db effectiveFrom effectiveTo)
        (fun db => db) db = .ok (version, after) ↔
      ((∀ item ∈ input.items, FittingItem octets item) ∧ (input.items.map dimensions).Nodup) ∧
        version = newVersion tenantId (columns input drawn effectiveFrom effectiveTo) db.clock ∧
        after = { db.insertVersion version with
          items := ((input.items.zip drawn.itemIds).map (itemRow version db.clock)).foldl
            KeyedTable.insert db.items } := by
  obtain ⟨stored, isStored⟩ : ∃ stored, stored =
      newVersion tenantId (columns input drawn effectiveFrom effectiveTo) db.clock := ⟨_, rfl⟩
  have isId : stored.id = drawn.versionId := by rw [isStored]; rfl
  have parent : (db.insertVersion stored).versions.find stored.id = some stored := by
    change (db.versions.insert stored).find stored.id = some stored
    rw [KeyedTable.find_insert, isId, fresh.version, Option.none_or, if_pos rfl]
  have others : ∀ other ∈ db.items, other.priceTableVersionId ≠ stored.id := by
    intro other member same
    obtain ⟨parent, listed, isParent⟩ := referenced other member
    exact KeyedTable.find_eq_none.mp fresh.version parent listed (isParent.trans (same.trans isId))
  have ids : ((input.items.zip drawn.itemIds).map Prod.snd) = drawn.itemIds :=
    List.map_snd_zip (le_of_eq fresh.count)
  have loop := @insert_items_alone octets stored db.clock (input.items.zip drawn.itemIds) []
    (db.insertVersion stored) parent (by rw [isStored]; rfl) (by rw [isStored]; exact checked.pair)
    (fun pair member => checked.items _ (List.of_mem_zip member).1)
    (fun pair member => fresh.items _ (List.of_mem_zip member).2) (ids.symm ▸ fresh.distinct)
  have opened := insert_version_ok checked hex isNew fresh first last isStored
  have statements : runAlone (createRows octets tenantId drawn input db effectiveFrom effectiveTo)
      (fun db => db) db = runAlone (Txn.forEach (insertItemBody octets stored db.clock) []
        (input.items.zip drawn.itemIds)) (fun db => db) (db.insertVersion stored) >>=
          fun result => .ok (stored, result.2) := by
    rw [createRows, ← isStored]
    refine (run_alone_bind (insertVersion stored) _ db).trans ?_
    rw [opened]
    exact run_alone_bind _ _ _
  rw [statements, bind_ok, ← loads_iff fresh.count others, ← isStored]
  constructor
  · rintro ⟨result, ran, same⟩
    obtain ⟨loads, rfl⟩ := loop.mp ran
    obtain ⟨rfl, rfl⟩ := Prod.mk.inj (Except.ok.inj same)
    exact ⟨loads, rfl, rfl⟩
  · rintro ⟨loads, rfl, rfl⟩
    exact ⟨_, loop.mpr ⟨loads, rfl⟩, rfl⟩

end Versions

section Storage

variable {runtime : PriceTableRuntime} {octets : Json → Nat} {tenantId : Uuid} {drawn : DrawnIds}
  {input : PriceTableBody} {db : PriceTablesDb}

/-- A request that the parser accepts is stored as it stands exactly when it fits into
the tables. -/
theorem price_table_stored_iff (hex : ∀ text, isChecksum (runtime.sha256Hex text) = true)
    {body : Json} (accepted : parsePriceTableCreateBody runtime body = some input)
    (tenant : db.tenants tenantId = true) (isNew : NewVersion tenantId input db)
    (referenced : Referenced db) (fresh : Fresh drawn input.toPriceTableFields db) :
    (∃ version after, runAlone (createBody octets tenantId drawn input db) (fun db => db) db =
        .ok (version, after) ∧ Created tenantId drawn input db after version) ↔
      Fitting octets input.toPriceTableFields := by
  obtain ⟨checked, digest⟩ := price_table_checked accepted
  have checksumHex : isChecksum input.checksum = true := by
    rw [digest]
    exact hex _
  constructor
  · rintro ⟨version, after, ran, _⟩
    obtain ⟨effectiveFrom, effectiveTo, first, last, rows⟩ := (create_body_alone tenant).mp ran
    obtain ⟨⟨fits, distinct⟩, _⟩ :=
      (create_rows_alone checked checksumHex isNew referenced fresh first last).mp rows
    exact ⟨(date_text_column checked.effectiveFrom).mp ⟨_, first⟩,
      (nullable_date_column fun date member => (checked.effectiveTo date member).1).mp ⟨_, last⟩,
      fits, distinct⟩
  · intro fitting
    obtain ⟨effectiveFrom, first⟩ :=
      (date_text_column checked.effectiveFrom).mpr fitting.effectiveFrom
    obtain ⟨effectiveTo, last⟩ :=
      (nullable_date_column fun date member => (checked.effectiveTo date member).1).mpr
        fitting.effectiveTo
    have rows := (create_rows_alone checked checksumHex isNew referenced fresh first last).mpr
      ⟨⟨fitting.items, fitting.distinct⟩, rfl, rfl⟩
    refine ⟨_, _, (create_body_alone tenant).mpr ⟨_, _, first, last, rows⟩, rfl,
      (date_column_ok first).2, nullable_date_civil last, KeyedTable.rows_insert fresh.version, ?_,
      rfl, rfl⟩
    have ids : ((input.items.zip drawn.itemIds).map Prod.snd) = drawn.itemIds :=
      List.map_snd_zip (le_of_eq fresh.count)
    apply KeyedTable.rows_foldl_insert
    · intro row member
      obtain ⟨pair, isPair, rfl⟩ := List.mem_map.mp member
      exact fresh.items _ (List.of_mem_zip isPair).2
    · rw [List.map_map]
      exact (congrArg List.Nodup ids).mpr fresh.distinct

/-- A runtime on the texts of one request. -/
def sampleRuntime (digest : String) : PriceTableRuntime where
  normalize text := text
  numberText value := (toString value.num).toList
  parseDate _ := some ⟨1767225600000, by decide⟩
  sha256Hex _ := digest

def sampleBody (hourlyRateCents : String) : Json :=
  .object
    [("provider", .string "aws"), ("instrument", .string "aws_compute_savings_plan"),
      ("version_label", .string "2026-01"), ("effective_from", .string "2026-01-01"),
      ("effective_to", .null), ("source_uri", .string "prices/2026-01.json"),
      ("items", .array [.object
        [("sku", .string "m5.large"), ("region", .string "us-east-1"),
          ("term_months", .number (some 12)), ("payment_option", .string "no_upfront"),
          ("hourly_rate_cents", .string hourlyRateCents), ("upfront_cents", .string "0"),
          ("coverage_rules", .object
            [("usage_family", .string "compute"), ("service_code", .string "AmazonEC2")])]])]

def emptyTables : PriceTablesDb where
  tenants id := id = 1
  versions := .empty
  items := .empty
  clock := 0

theorem empty_tables_new (input : PriceTableBody) : NewVersion 1 input emptyTables :=
  fun _ member => absurd member (KeyedTable.not_mem_empty _)

theorem empty_tables_referenced : Referenced emptyTables :=
  fun _ member => absurd member (KeyedTable.not_mem_empty _)

theorem sample_runtime_hex {digest : String} (hex : isChecksum digest = true) (text : List Char) :
    isChecksum ((sampleRuntime digest).sha256Hex text) = true := hex

def storedDigest : String := "a7791184601a00975afb4b0f1dc88cb69b81044241582a29f32321fc6524124c"

theorem small_price_table_stored :
    ∃ input version after, parsePriceTableCreateBody (sampleRuntime storedDigest) (sampleBody "5") =
        some input ∧
      runAlone (createBody (fun _ => 56) 1 ⟨2, [3]⟩ input emptyTables) (fun db => db) emptyTables =
        .ok (version, after) ∧
      Created 1 ⟨2, [3]⟩ input emptyTables after version := by
  obtain ⟨input, accepted⟩ := Option.isSome_iff_exists.mp
    (by decide +kernel : (parsePriceTableCreateBody (sampleRuntime storedDigest)
      (sampleBody "5")).isSome = true)
  have facts : ∀ input ∈ parsePriceTableCreateBody (sampleRuntime storedDigest) (sampleBody "5"),
      Fitting (fun _ => 56) input.toPriceTableFields ∧ input.items.length = 1 := by
    decide +kernel
  obtain ⟨fits, single⟩ := facts input accepted
  have hex : isChecksum storedDigest = true := by decide +kernel
  have tenant : emptyTables.tenants 1 = true := by decide
  have fresh : Fresh ⟨2, [3]⟩ input.toPriceTableFields emptyTables :=
    ⟨rfl, single.symm, fun _ _ => rfl, List.nodup_singleton 3⟩
  obtain ⟨version, after, ran, created⟩ := (price_table_stored_iff
    (sample_runtime_hex hex) accepted tenant (empty_tables_new input) empty_tables_referenced
    fresh).mpr fits
  exact ⟨input, version, after, accepted, ran, created⟩

def wideDigest : String := "1c4393842b5114305bfb66930b85aabd9f993086f9c9d899bde5ed9b7e89d7a2"

/-- A rate one above the range of a BIGINT passes the parser, and its INSERT fails. -/
theorem wide_price_table_rejected :
    ¬ ∀ (runtime : PriceTableRuntime) (octets : Json → Nat) (body : Json) (input : PriceTableBody)
      (tenantId : Uuid) (drawn : DrawnIds) (db : PriceTablesDb),
      (∀ text, isChecksum (runtime.sha256Hex text) = true) →
      parsePriceTableCreateBody runtime body = some input → db.tenants tenantId = true →
      NewVersion tenantId input db → Referenced db → Fresh drawn input.toPriceTableFields db →
      ∃ version after, runAlone (createBody octets tenantId drawn input db) (fun db => db) db =
        .ok (version, after) ∧ Created tenantId drawn input db after version := by
  intro stored
  obtain ⟨input, accepted⟩ := Option.isSome_iff_exists.mp
    (by decide +kernel : (parsePriceTableCreateBody (sampleRuntime wideDigest)
      (sampleBody "9223372036854775808")).isSome = true)
  have facts : ∀ input ∈ parsePriceTableCreateBody (sampleRuntime wideDigest)
      (sampleBody "9223372036854775808"), input.items.length = 1 ∧
        (runAlone (createBody (fun _ => 56) 1 ⟨2, [3]⟩ input emptyTables) (fun db => db)
          emptyTables).toOption.isNone = true := by
    decide +kernel
  obtain ⟨single, fails⟩ := facts input accepted
  have hex : isChecksum wideDigest = true := by decide +kernel
  have tenant : emptyTables.tenants 1 = true := by decide
  have fresh : Fresh ⟨2, [3]⟩ input.toPriceTableFields emptyTables :=
    ⟨rfl, single.symm, fun _ _ => rfl, List.nodup_singleton 3⟩
  obtain ⟨version, after, ran, _⟩ := stored (sampleRuntime wideDigest) (fun _ => 56) _ input 1
    ⟨2, [3]⟩ emptyTables (sample_runtime_hex hex) accepted tenant (empty_tables_new input)
    empty_tables_referenced fresh
  rw [ran] at fails
  cases fails

end Storage

end CommitmentOptimizer.PriceTables.PriceTableStorage
