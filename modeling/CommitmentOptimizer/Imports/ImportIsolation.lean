import CommitmentOptimizer.Imports.CsvAgreement
import CommitmentOptimizer.Imports.ImportRequests
import CommitmentOptimizer.Shared.LocalObjects

/-!
# Imports and the objects of other tenants

`createImport` of `imports-service.ts` against the object store that the forecast,
optimizer, backtest and report runs of every tenant write to. The completion hook
and the log line come after the outcome and are left out.
-/

namespace CommitmentOptimizer.Imports.ImportIsolation

open Foundations
open Foundations.SqlConstraints
open Recommendations.RecommendationLifecycle
open Shared.LocalObjects
open UsageRows
open ControlTotals
open UsageParsers
open CsvAgreement
open ImportRequests

set_option autoImplicit false

structure ImportCloudAccount where
  provider : Provider
  isActive : Bool

/-- The argument of `repository.createImport`. -/
structure BatchInput where
  tenantId : Uuid
  createdByUserId : Option Uuid
  create : ImportCreateInput
  parseResult : ImportParseResult

/-- `none` where the repository throws. -/
structure ImportsRepository (Batch : Type) where
  getCloudAccount : Uuid → Uuid → Option (Option ImportCloudAccount)
  createImport : BatchInput → Option Batch

structure RequestContext where
  tenantId : Uuid
  actorUserId : Option Uuid

/-- `parserFailed` is an exception of the parser, which no branch catches. -/
inductive ImportError where
  | invalid | notFound | inactiveAccount | missingObject | objectKeyInvalid | unavailable
  | parserFailed
  deriving DecidableEq, Repr

/-- The answer, and what the repository stored. -/
structure CreateOutcome (Batch : Type) where
  response : Except ImportError Batch
  stored : Option BatchInput

section Create

variable {Batch : Type} (runtime : ImportRuntime) (repository : ImportsRepository Batch)

def refused (error : ImportError) : CreateOutcome Batch := ⟨.error error, none⟩

/-- The checks of `createImport` before it reads the object. -/
def admitImport (context : RequestContext) (body : Json) :
    Except ImportError (ImportCreateInput × ImportCloudAccount) :=
  match parseImportCreateBody runtime.normalize body with
  | none => .error .invalid
  | some input =>
      match repository.getCloudAccount context.tenantId input.cloudAccountId with
      | none => .error .unavailable
      | some none => .error .notFound
      | some (some account) =>
          if account.isActive then .ok (input, account) else .error .inactiveAccount

def parseAndStore (context : RequestContext) (input : ImportCreateInput)
    (account : ImportCloudAccount) (bytes : List UInt8) : CreateOutcome Batch :=
  match parseImport runtime input.source input.format bytes account.provider
      input.controlTotals with
  | none => refused .parserFailed
  | some parseResult =>
      let batch := ⟨context.tenantId, context.actorUserId, input, parseResult⟩
      match repository.createImport batch with
      | none => refused .unavailable
      | some record => ⟨.ok record, some batch⟩

/-- `safeObjectRead` and what follows it. -/
def importObject (context : RequestContext) (input : ImportCreateInput)
    (account : ImportCloudAccount) :
    Except StoreError (List UInt8) → CreateOutcome Batch
  | .error .notFound => refused .missingObject
  | .error .keyInvalid => refused .objectKeyInvalid
  | .error .failed => refused .unavailable
  | .ok bytes => parseAndStore runtime repository context input account bytes

def createImport (store : ObjectStore) (context : RequestContext) (body : Json) :
    CreateOutcome Batch :=
  match admitImport runtime repository context body with
  | .error error => refused error
  | .ok (input, account) =>
      importObject runtime repository context input account (store.get input.objectUri.toList)

end Create

section Artifacts

/-- What the runs of a tenant leave in the store. -/
inductive ArtifactFile where
  | forecast | optimizerInput | optimizerFrontier | optimizerOutput | backtestInput
  | backtestOutput | recommendationReport
  deriving DecidableEq, Repr

def ArtifactFile.path (file : ArtifactFile) (run : Uuid) : ObjectPath :=
  let id := (uuidText run).toList
  match file with
  | forecast => ["forecasts".toList, id, "seasonal-naive-v1.json".toList]
  | optimizerInput => ["optimizer-runs".toList, id, "input.json".toList]
  | optimizerFrontier => ["optimizer-runs".toList, id, "frontier.json".toList]
  | optimizerOutput => ["optimizer-runs".toList, id, "output.json".toList]
  | backtestInput => ["backtests".toList, id, "input.json".toList]
  | backtestOutput => ["backtests".toList, id, "output.json".toList]
  | recommendationReport =>
      ["reports".toList, "recommendation".toList, id, "recommendation_report_v1.html".toList]

/-- The tenant of the run that a file belongs to. -/
abbrev Owner := ArtifactFile → Uuid → Option Uuid

/-- An artifact of another tenant lies at the path. -/
def IsForeign (owner : Owner) (tenant : Uuid) (path : ObjectPath) : Prop :=
  ∃ file run other, owner file run = some other ∧ other ≠ tenant ∧ path = file.path run

/-- The stores hold the same objects, the artifacts of other tenants aside. -/
structure AgreeApart (owner : Owner) (tenant : Uuid) (left right : ObjectStore) : Prop where
  closed : left.closed = right.closed
  bytes : ∀ path, ¬ IsForeign owner tenant path → left.bytesAt path = right.bytesAt path

/-- One path is the other, or a directory on the way to it. -/
def Related (left right : ObjectPath) : Prop := left <+: right ∨ right <+: left

variable {owner : Owner} {tenant : Uuid} {left right : ObjectStore}

theorem path_nonempty (file : ArtifactFile) (run : Uuid) : file.path run ≠ [] := by
  cases file <;> exact List.cons_ne_nil _ _

theorem foreign_nonempty {path : ObjectPath} (isForeign : IsForeign owner tenant path) :
    path ≠ [] := by
  obtain ⟨file, run, _, _, _, rfl⟩ := isForeign
  exact path_nonempty file run

/-- Away from the artifacts of other tenants the stores agree. -/
theorem agree_at_unrelated (agree : AgreeApart owner tenant left right) {path : ObjectPath}
    (unrelated : ∀ artifact, IsForeign owner tenant artifact → ¬ Related artifact path) :
    AgreeAt left right path := by
  have below : ∀ lower, isBelow path lower = true → left.bytesAt lower = right.bytesAt lower := by
    intro lower isLower
    refine agree.bytes lower fun isForeign => unrelated lower isForeign (Or.inr ?_)
    rw [isBelow, Bool.and_eq_true, List.isPrefixOf_iff_prefix] at isLower
    exact isLower.1
  refine ⟨?_, has_below_congr below⟩
  intro ancestor isPrefix
  exact agree.bytes ancestor fun isForeign => unrelated ancestor isForeign (Or.inl isPrefix)

theorem single_agrees {path : ObjectPath} (bytes : List UInt8)
    (isForeign : IsForeign owner tenant path) :
    AgreeApart owner tenant emptyStore (singleStore path bytes) := by
  refine ⟨rfl, ?_⟩
  intro other notForeign
  have apart : other ≠ path := by
    rintro rfl
    exact notForeign isForeign
  rw [bytes_at_single, if_neg apart]
  rfl

theorem get_empty {key : List Char} {path : ObjectPath}
    (valid : validateObjectKey key = some path) (nonempty : path ≠ []) :
    emptyStore.get key = .error .notFound := by
  unfold ObjectStore.get
  rw [valid]
  exact read_not_found nonempty (fun _ _ _ => rfl) rfl

theorem get_single {key : List Char} {path object : ObjectPath} (bytes : List UInt8)
    (valid : validateObjectKey key = some path) (nonempty : path ≠ [])
    (objectNonempty : object ≠ []) (related : Related object path) :
    (singleStore object bytes).get key ≠ .error .notFound := by
  unfold ObjectStore.get
  rw [valid]
  exact read_single_found (List.nil_append object).symm nonempty objectNonempty related

end Artifacts

section Isolation

variable {Batch : Type} (runtime : ImportRuntime) (repository : ImportsRepository Batch)

theorem import_object_missing_iff {context : RequestContext} {input : ImportCreateInput}
    {account : ImportCloudAccount} {object : Except StoreError (List UInt8)} :
    (importObject runtime repository context input account object).response =
        .error .missingObject ↔ object = .error .notFound := by
  rcases object with error | bytes
  · cases error <;> simp [importObject, refused]
  · simp only [importObject, parseAndStore]
    split
    · simp [refused]
    · split <;> simp [refused]

end Isolation

section Example

/-- A repository with one active account for everyone. -/
def exampleRepository : ImportsRepository Unit where
  getCloudAccount _ _ := some (some ⟨.aws, true⟩)
  createImport _ := some ()

/-- The forecast of the other tenant, as the object to import. -/
def foreignForecast : Json := .object
  [("source", .string "synthetic"), ("format", .string "csv"),
   ("object_uri", .string ("forecasts/00000000-0000-4000-8000-000000000003/" ++
      "seasonal-naive-v1.json")),
   ("cloud_account_id", .string "00000000-0000-4000-8000-000000000009"),
   ("control_totals", .array [exampleEntry "1"])]

def exampleOwner : Owner := fun _ _ => some 2

end Example

end CommitmentOptimizer.Imports.ImportIsolation
