import CommitmentOptimizer.Recommendations.RecommendationLifecycle

/-!
# The price_table_versions table

Rows, CHECK constraints and the lifecycle trigger of `price_table_versions`
(migration 0012). Dates are day numbers.
-/

namespace CommitmentOptimizer.PriceTables.PriceTableVersions

open Foundations
open Foundations.SqlConstraints
open Recommendations.RecommendationLifecycle

set_option autoImplicit false

inductive PriceTableStatus where
  | draft | active | superseded | blocked
  deriving DecidableEq, Repr

/-- The columns the trigger freezes, in the order of its `ROW(...)`. -/
structure PriceTableVersionIdentity where
  id : Uuid
  tenantId : Uuid
  provider : Provider
  instrument : Instrument
  versionLabel : String
  effectiveFrom : Int
  effectiveTo : Option Int
  sourceUri : String
  checksum : String
  createdAt : Instant
  deriving DecidableEq, Repr

structure PriceTableVersion extends PriceTableVersionIdentity where
  status : PriceTableStatus
  updatedAt : Instant
  deriving DecidableEq, Repr

abbrev PriceTableVersionTable := KeyedTable fun row : PriceTableVersion => row.id

/-- `checksum ~ '^[0-9a-f]{64}$'`. -/
def isChecksum (text : String) : Bool :=
  text.length == 64 && text.toList.all fun character =>
    ('0' ≤ character && character ≤ '9') || ('a' ≤ character && character ≤ 'f')

def PriceTableVersion.checks (row : PriceTableVersion) : List (String × Bool) :=
  [("price_table_versions_provider_instrument_check", row.instrument.provider == row.provider),
   ("price_table_versions_version_label_canonical_check", isCanonicalText 128 row.versionLabel),
   ("price_table_versions_effective_period_check",
     row.effectiveTo.all fun last => row.effectiveFrom ≤ last),
   ("price_table_versions_source_uri_canonical_check", isCanonicalText 2048 row.sourceUri),
   ("price_table_versions_checksum_shape_check", isChecksum row.checksum),
   ("price_table_versions_timestamps_ordered_check", row.createdAt ≤ row.updatedAt)]

/-- `day <= COALESCE(effective_to, 'infinity'::date)`. -/
def notAfter (day : Int) (effectiveTo : Option Int) : Bool := effectiveTo.all fun last => day ≤ last

/-- The price tables that share an advisory lock. -/
structure PriceScope where
  tenantId : Uuid
  provider : Provider
  instrument : Instrument
  deriving DecidableEq, Repr

def PriceTableVersionIdentity.scope (row : PriceTableVersionIdentity) : PriceScope :=
  ⟨row.tenantId, row.provider, row.instrument⟩

/-- The condition of the `EXISTS` that an activation of `new` runs into. -/
def overlaps (new existing : PriceTableVersion) : Bool :=
  existing.scope = new.scope && existing.status = .active && existing.id ≠ new.id &&
    notAfter existing.effectiveFrom new.effectiveTo &&
    notAfter new.effectiveFrom existing.effectiveTo

def admitted : PriceTableStatus → PriceTableStatus → Bool
  | .draft, .active | .draft, .blocked | .active, .superseded | .active, .blocked => true
  | _, _ => false

/-- `enforce_price_table_version_lifecycle` for INSERT. -/
def enforcePriceTableVersionInsert (new : PriceTableVersion) : Except DbError PriceTableVersion :=
  if new.status ≠ .draft then
    .error (raised "price table versions must be created as draft" "23514")
  else .ok new

/-- `enforce_price_table_version_lifecycle` for UPDATE, up to its advisory lock. -/
def enforcePriceTableVersionUpdate (old new : PriceTableVersion) : Except DbError Unit :=
  if new.toPriceTableVersionIdentity ≠ old.toPriceTableVersionIdentity then
    .error (raised "price table version identity is immutable" "55000")
  else if ¬ admitted old.status new.status then
    .error (raised "invalid price table version status transition" "55000")
  else .ok ()

/-- The rest of it, over the versions that the `EXISTS` sees, and the CHECK
constraints. -/
def storePriceTableVersion (clock : Instant) (new : PriceTableVersion)
    (versions : PriceTableVersionTable) : Except DbError PriceTableVersion := do
  require (new.status != .active || !versions.rows.any (overlaps new))
    (raised "active price table effective periods overlap" "23P01")
  let row := { new with updatedAt := clock }
  checkAll row.checks
  return row

/-- The row an INSERT stores, before its keys are looked at. -/
def insertPriceTableVersionRow (new : PriceTableVersion) : Except DbError PriceTableVersion := do
  let row ← enforcePriceTableVersionInsert new
  checkAll row.checks
  return row

def duplicateVersion (versions : PriceTableVersionTable) (new : PriceTableVersion) :
    Except DbError Unit := do
  require (versions.find new.id).isNone (uniqueViolation "price_table_versions_pkey")
  require (!versions.rows.any fun row =>
      row.scope == new.scope && row.versionLabel == new.versionLabel)
    (uniqueViolation "price_table_versions_tenant_version_label_key")
  require (!versions.rows.any fun row =>
      row.scope == new.scope && row.checksum == new.checksum)
    (uniqueViolation "price_table_versions_tenant_checksum_key")

theorem insert_price_table_version_row_ok {new row : PriceTableVersion}
    (accepted : insertPriceTableVersionRow new = .ok row) : row = new ∧ new.status = .draft := by
  obtain ⟨enforced, triggered, accepted⟩ := bind_ok.mp accepted
  obtain ⟨_, _, stored⟩ := bind_ok.mp accepted
  obtain rfl := Except.ok.inj stored
  unfold enforcePriceTableVersionInsert at triggered
  split_ifs at triggered with draft
  obtain rfl := Except.ok.inj triggered
  exact ⟨rfl, not_not.mp draft⟩

theorem enforce_price_table_version_update_ok {old new : PriceTableVersion} {value : Unit}
    (accepted : enforcePriceTableVersionUpdate old new = .ok value) :
    new.toPriceTableVersionIdentity = old.toPriceTableVersionIdentity ∧
      admitted old.status new.status = true := by
  unfold enforcePriceTableVersionUpdate at accepted
  split_ifs at accepted with changed moved
  exact ⟨not_not.mp changed, moved⟩

theorem store_price_table_version_ok {clock : Instant} {new row : PriceTableVersion}
    {versions : PriceTableVersionTable}
    (accepted : storePriceTableVersion clock new versions = .ok row) :
    row = { new with updatedAt := clock } ∧
      (new.status = .active → ∀ existing ∈ versions, overlaps new existing = false) := by
  obtain ⟨_, apart, accepted⟩ := bind_ok.mp accepted
  obtain ⟨_, _, stored⟩ := bind_ok.mp accepted
  obtain rfl := Except.ok.inj stored
  refine ⟨rfl, fun active existing member => ?_⟩
  have none := require_ok.mp apart
  simp only [active, bne_self_eq_false, Bool.false_or, Bool.not_eq_true', List.any_eq_false] at none
  exact Bool.eq_false_iff.mpr (none existing member)

theorem duplicate_version_ok {versions : PriceTableVersionTable} {new : PriceTableVersion}
    {value : Unit} (accepted : duplicateVersion versions new = .ok value) :
    versions.find new.id = none := by
  obtain ⟨_, fresh, _⟩ := bind_ok.mp accepted
  exact Option.isNone_iff_eq_none.mp (require_ok.mp fresh)

end CommitmentOptimizer.PriceTables.PriceTableVersions
