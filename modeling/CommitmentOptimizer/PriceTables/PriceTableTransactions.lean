import CommitmentOptimizer.Foundations.RowLocking
import CommitmentOptimizer.PriceTables.PriceTableItems

/-!
# The transactions of the price tables repository

`create` and `transition` (activate and block) of `price-tables-repository.ts`,
statement by statement. A transition is one UPDATE; the statements inside its
trigger each see what is committed before them.
-/

namespace CommitmentOptimizer.PriceTables.PriceTableTransactions

open Foundations
open Foundations.SqlConstraints
open Foundations.RowLocking
open Recommendations.RecommendationLifecycle
open Optimizer.Candidates
open PriceTableVersions
open PriceTableItems

set_option autoImplicit false

structure PriceTablesDb where
  tenants : Uuid → Bool
  versions : PriceTableVersionTable
  items : PriceTableItemTable
  clock : Instant

/-- Rows, the entries of the unique indexes, and the advisory lock of an activation. -/
inductive PriceTablesKey where
  | tenant (id : Uuid)
  | version (id : Uuid)
  | label (scope : PriceScope) (versionLabel : String)
  | checksum (scope : PriceScope) (checksum : String)
  | item (id : Uuid)
  | activation (scope : PriceScope)
  deriving DecidableEq

inductive PriceTablesAbort where
  | failure (message : String)
  | database (error : DbError)
  deriving DecidableEq, Repr

abbrev PriceTablesTxn := Txn PriceTablesDb PriceTablesKey PriceTablesAbort

/-- `itemId` is the identifier `gen_random_uuid()` draws. -/
structure PriceTableItemInput where
  itemId : Uuid
  sku : String
  region : String
  termMonths : Int
  paymentOption : PaymentOption
  hourlyRateCents : Int
  upfrontCents : Int
  coverageRules : Json

/-- `versionId` is the identifier `gen_random_uuid()` draws. -/
structure PriceTableCreateInput where
  versionId : Uuid
  provider : Provider
  instrument : Instrument
  versionLabel : String
  effectiveFrom : Int
  effectiveTo : Option Int
  sourceUri : String
  checksum : String
  items : List PriceTableItemInput

def newVersion (tenantId : Uuid) (input : PriceTableCreateInput) (now : Instant) :
    PriceTableVersion where
  id := input.versionId
  tenantId := tenantId
  provider := input.provider
  instrument := input.instrument
  versionLabel := input.versionLabel
  effectiveFrom := input.effectiveFrom
  effectiveTo := input.effectiveTo
  sourceUri := input.sourceUri
  checksum := input.checksum
  createdAt := now
  status := .draft
  updatedAt := now

def newItem (version : PriceTableVersion) (now : Instant) (input : PriceTableItemInput) :
    PriceTableItem where
  id := input.itemId
  tenantId := version.tenantId
  priceTableVersionId := version.id
  provider := version.provider
  instrument := version.instrument
  sku := input.sku
  region := input.region
  termMonths := input.termMonths
  paymentOption := input.paymentOption
  hourlyRateCents := input.hourlyRateCents
  upfrontCents := input.upfrontCents
  coverageRules := input.coverageRules
  createdAt := now

namespace PriceTablesDb

def findVersion (db : PriceTablesDb) (tenantId id : Uuid) : Option PriceTableVersion :=
  (db.versions.find id).filter fun row => row.tenantId = tenantId

def insertVersion (row : PriceTableVersion) (db : PriceTablesDb) : PriceTablesDb :=
  { db with versions := db.versions.insert row }

def putVersion (row : PriceTableVersion) (db : PriceTablesDb) : PriceTablesDb :=
  { db with versions := db.versions.put row }

def insertItem (row : PriceTableItem) (db : PriceTablesDb) : PriceTablesDb :=
  { db with items := db.items.insert row }

end PriceTablesDb

section Statements

variable (octets : Json → Nat)

def insertVersion (new : PriceTableVersion) : PriceTablesTxn PriceTableVersion := do
  let row ← Txn.attempt ((insertPriceTableVersionRow new).mapError .database)
  Txn.lockRow (.version row.id)
  Txn.lockRow (.label row.scope row.versionLabel)
  Txn.lockRow (.checksum row.scope row.checksum)
  let db ← Txn.view
  Txn.attempt ((duplicateVersion db.versions row).mapError .database)
  Txn.save (PriceTablesDb.insertVersion row)
  return row

/-- The trigger reads the parent FOR SHARE. -/
def insertItem (new : PriceTableItem) : PriceTablesTxn (Option PriceTableItem) := do
  Txn.lockRow (.version new.priceTableVersionId)
  Txn.lockRow (.item new.id)
  let db ← Txn.view
  let _ ← Txn.attempt ((insertPriceTableItemRow octets db.versions new db.items).mapError .database)
  Txn.save (PriceTablesDb.insertItem new)
  return some new

/-- `create` in `withTenantTransaction`. -/
def create (tenantId : Uuid) (input : PriceTableCreateInput) (begun : PriceTablesDb) :
    PriceTablesTxn PriceTableVersion := do
  let tenant ← Txn.selectForUpdate (.tenant tenantId)
    fun db => if db.tenants tenantId then some tenantId else none
  match tenant with
  | none => Txn.abort (.failure "Authenticated tenant vanished.")
  | some _ =>
      let version ← insertVersion (newVersion tenantId input begun.clock)
      let _ ← Txn.forEach (insertItem octets) []
        (input.items.map (newItem version begun.clock))
      return version

/-- The trigger from its `EXISTS` on, and the row. -/
def storeVersion (new : PriceTableVersion) : PriceTablesTxn (Option PriceTableVersion) := do
  let db ← Txn.view
  let row ← Txn.attempt ((storePriceTableVersion db.clock new db.versions).mapError .database)
  Txn.save (PriceTablesDb.putVersion row)
  return some row

/-- `UPDATE price_table_versions SET status = $3 WHERE tenant_id = $1 AND id = $2`. -/
def transition (tenantId id : Uuid) (status : PriceTableStatus) :
    PriceTablesTxn (Option PriceTableVersion) := do
  let matched ← Txn.selectForUpdate (.version id) fun db => db.findVersion tenantId id
  match matched with
  | none => return none
  | some old =>
      let new := { old with status := status }
      Txn.attempt ((enforcePriceTableVersionUpdate old new).mapError .database)
      if status = .active then
        Txn.lockRow (.activation new.scope)
        storeVersion new
      else storeVersion new

end Statements

inductive PriceTablesRequest where
  | create (tenantId : Uuid) (input : PriceTableCreateInput)
  | activate (tenantId id : Uuid)
  | block (tenantId id : Uuid)

/-- `begun` is the database at `BEGIN`. -/
def priceTablesProgram (octets : Json → Nat) :
    PriceTablesRequest → PriceTablesDb → PriceTablesTxn (Option PriceTableVersion)
  | .create tenantId input, begun => do return some (← create octets tenantId input begun)
  | .activate tenantId id, _ => transition tenantId id .active
  | .block tenantId id, _ => transition tenantId id .blocked

inductive PriceTablesDrift where
  | tick (elapsed : Nat)
  | tenants (current : Uuid → Bool)

def priceTablesDrift : PriceTablesDrift → PriceTablesDb → PriceTablesDb
  | .tick elapsed, db => { db with clock := db.clock + elapsed }
  | .tenants current, db => { db with tenants := current }

abbrev PriceTablesSystem :=
  System PriceTablesDb PriceTablesKey PriceTablesAbort (Option PriceTableVersion)
    PriceTablesRequest

abbrev PriceTablesAction := Action PriceTablesRequest PriceTablesDrift

/-- One statement of one of the interleaved transactions, or a drift. -/
abbrev priceTablesStep (octets : Json → Nat) :
    PriceTablesSystem → PriceTablesAction → Option PriceTablesSystem :=
  step (priceTablesProgram octets) priceTablesDrift

end CommitmentOptimizer.PriceTables.PriceTableTransactions
