import CommitmentOptimizer.Optimizer.Candidates
import CommitmentOptimizer.PriceTables.PriceTableVersions

/-!
# The price_table_items table

Rows, CHECK constraints and the trigger of `price_table_items` (migration 0013):
items are added to a draft version and never change.
-/

namespace CommitmentOptimizer.PriceTables.PriceTableItems

open Foundations
open Foundations.SqlConstraints
open Recommendations.RecommendationLifecycle
open Optimizer.Candidates
open PriceTableVersions

set_option autoImplicit false

structure PriceTableItem where
  id : Uuid
  tenantId : Uuid
  priceTableVersionId : Uuid
  provider : Provider
  instrument : Instrument
  sku : String
  region : String
  termMonths : Int
  paymentOption : PaymentOption
  hourlyRateCents : Int
  upfrontCents : Int
  coverageRules : Json
  createdAt : Instant
  deriving DecidableEq

abbrev PriceTableItemTable := KeyedTable fun row : PriceTableItem => row.id

def secretKeys : List String :=
  ["credentials", "credential", "password", "secret", "token", "raw_file", "raw_bytes", "raw_row",
    "raw_rows"]

/-- `octets` is the length of a `jsonb` value's text. -/
def PriceTableItem.checks (octets : Json → Nat) (row : PriceTableItem) : List (String × Bool) :=
  [("price_table_items_provider_instrument_check", row.instrument.provider == row.provider),
   ("price_table_items_sku_canonical_check", isCanonicalText 512 row.sku),
   ("price_table_items_region_canonical_check", isCanonicalText 128 row.region),
   ("price_table_items_term_months_positive_check", 0 < row.termMonths),
   ("price_table_items_economics_nonnegative_check",
     0 ≤ row.hourlyRateCents && 0 ≤ row.upfrontCents),
   ("price_table_items_coverage_rules_object_check",
     row.coverageRules.isObject && octets row.coverageRules ≤ 65536 &&
     !row.coverageRules.hasAnyKey secretKeys)]

/-- The version that the trigger and the foreign key look for. -/
def parentVersion (versions : PriceTableVersionTable) (item : PriceTableItem) :
    Option PriceTableVersion :=
  (versions.find item.priceTableVersionId).filter fun version =>
    version.scope = ⟨item.tenantId, item.provider, item.instrument⟩

/-- `enforce_price_table_item_snapshot` for INSERT. -/
def enforcePriceTableItemInsert (parent : Option PriceTableVersion) (new : PriceTableItem) :
    Except DbError PriceTableItem :=
  if parent.any fun version => version.status ≠ .draft then
    .error (raised "price table items require a draft version" "55000")
  else .ok new

/-- `enforce_price_table_item_snapshot` for UPDATE and DELETE. -/
def enforcePriceTableItemChange (_old : PriceTableItem) : Except DbError PriceTableItem :=
  .error (raised "price table items are immutable" "55000")

/-- The columns of `price_table_items_tenant_dimensions_key`. -/
def sameDimensions (left right : PriceTableItem) : Bool :=
  left.tenantId = right.tenantId && left.priceTableVersionId = right.priceTableVersionId &&
    left.provider = right.provider && left.instrument = right.instrument && left.sku = right.sku &&
    left.region = right.region && left.termMonths = right.termMonths &&
    left.paymentOption = right.paymentOption

/-- INSERT of one row: column types, trigger, CHECK constraints, unique indexes,
foreign key. -/
def insertPriceTableItemRow (octets : Json → Nat) (versions : PriceTableVersionTable)
    (new : PriceTableItem) (items : PriceTableItemTable) :
    Except DbError PriceTableItemTable := do
  require (isBigint new.hourlyRateCents && isBigint new.upfrontCents) (outOfRange "bigint")
  let parent := parentVersion versions new
  let row ← enforcePriceTableItemInsert parent new
  checkAll (row.checks octets)
  require (items.find row.id).isNone (uniqueViolation "price_table_items_pkey")
  require (!items.rows.any (sameDimensions row))
    (uniqueViolation "price_table_items_tenant_dimensions_key")
  require parent.isSome (foreignKeyViolation "price_table_items_tenant_version_fkey")
  return items.insert row

/-- UPDATE or DELETE of the rows that `selects` matches: the trigger refuses each. -/
def changePriceTableItems (selects : PriceTableItem → Bool) (items : PriceTableItemTable) :
    Except DbError PriceTableItemTable := do
  let _ ← (items.rows.filter selects).mapM enforcePriceTableItemChange
  return items

theorem insert_price_table_item_row_ok {octets : Json → Nat} {versions : PriceTableVersionTable}
    {new : PriceTableItem} {items next : PriceTableItemTable}
    (accepted : insertPriceTableItemRow octets versions new items = .ok next) :
    next = items.insert new ∧ items.find new.id = none ∧
      ∃ version, versions.find new.priceTableVersionId = some version ∧ version.status = .draft := by
  obtain ⟨_, _, accepted⟩ := bind_ok.mp accepted
  obtain ⟨row, triggered, accepted⟩ := bind_ok.mp accepted
  obtain ⟨_, _, accepted⟩ := bind_ok.mp accepted
  obtain ⟨_, fresh, accepted⟩ := bind_ok.mp accepted
  obtain ⟨_, _, accepted⟩ := bind_ok.mp accepted
  obtain ⟨_, referenced, stored⟩ := bind_ok.mp accepted
  unfold enforcePriceTableItemInsert at triggered
  split_ifs at triggered with settled
  obtain rfl := Except.ok.inj triggered
  obtain ⟨version, parent⟩ := Option.isSome_iff_exists.mp (require_ok.mp referenced)
  rw [parent] at settled
  refine ⟨(Except.ok.inj stored).symm, Option.isNone_iff_eq_none.mp (require_ok.mp fresh), version,
    (Option.filter_eq_some_iff.mp parent).1, ?_⟩
  simpa using settled

/-- A row for a draft version is stored when its values fit and its keys are free. -/
theorem insert_price_table_item_row_iff {octets : Json → Nat} {versions : PriceTableVersionTable}
    {new : PriceTableItem} {items next : PriceTableItemTable} {version : PriceTableVersion}
    (found : versions.find new.priceTableVersionId = some version)
    (scope : version.scope = ⟨new.tenantId, new.provider, new.instrument⟩)
    (draft : version.status = .draft) :
    insertPriceTableItemRow octets versions new items = .ok next ↔
      (isBigint new.hourlyRateCents = true ∧ isBigint new.upfrontCents = true) ∧
        (∀ constraint ∈ new.checks octets, constraint.2 = true) ∧ items.find new.id = none ∧
        (∀ other ∈ items, sameDimensions new other = false) ∧ next = items.insert new := by
  have parent : parentVersion versions new = some version := by
    rw [parentVersion, found]
    simp [scope]
  have triggered : enforcePriceTableItemInsert (some version) new = .ok new := by
    simp [enforcePriceTableItemInsert, draft]
  unfold insertPriceTableItemRow
  dsimp only
  rw [parent, triggered]
  constructor
  · intro accepted
    obtain ⟨_, wide, accepted⟩ := bind_ok.mp accepted
    obtain ⟨_, isNew, accepted⟩ := bind_ok.mp accepted
    obtain rfl := Except.ok.inj isNew
    obtain ⟨_, checked, accepted⟩ := bind_ok.mp accepted
    obtain ⟨_, fresh, accepted⟩ := bind_ok.mp accepted
    obtain ⟨_, apart, accepted⟩ := bind_ok.mp accepted
    obtain ⟨_, _, stored⟩ := bind_ok.mp accepted
    refine ⟨Bool.and_eq_true _ _ |>.mp (require_ok.mp wide), check_all_ok.mp checked,
      Option.isNone_iff_eq_none.mp (require_ok.mp fresh), fun other member => ?_,
      (Except.ok.inj stored).symm⟩
    have none := List.any_eq_false.mp (Bool.not_eq_true' _ |>.mp (require_ok.mp apart))
    exact Bool.eq_false_iff.mpr (none other member)
  · rintro ⟨wide, checked, fresh, apart, rfl⟩
    refine bind_ok.mpr ⟨(), require_ok.mpr (Bool.and_eq_true _ _ |>.mpr wide), ?_⟩
    refine bind_ok.mpr ⟨new, rfl, ?_⟩
    refine bind_ok.mpr ⟨(), check_all_ok.mpr checked, ?_⟩
    refine bind_ok.mpr ⟨(), require_ok.mpr (Option.isNone_iff_eq_none.mpr fresh), ?_⟩
    refine bind_ok.mpr ⟨(), require_ok.mpr ?_, ?_⟩
    · rw [Bool.not_eq_true', List.any_eq_false]
      exact fun other member => Bool.eq_false_iff.mp (apart other member)
    · exact bind_ok.mpr ⟨(), rfl, rfl⟩

theorem change_price_table_items_ok {selects : PriceTableItem → Bool}
    {items next : PriceTableItemTable} (accepted : changePriceTableItems selects items = .ok next) :
    next = items := by
  obtain ⟨_, _, stored⟩ := bind_ok.mp accepted
  exact (Except.ok.inj stored).symm

end CommitmentOptimizer.PriceTables.PriceTableItems
