import CommitmentOptimizer.Imports.UsageParsers
import CommitmentOptimizer.Sessions.AccessTokens

/-!
# Import requests

`parseImportCreateBody` of `imports-input.ts`, and which parser `createImport`
hands the bytes to.
-/

namespace CommitmentOptimizer.Imports.ImportRequests

open Foundations
open Foundations.SqlConstraints
open Recommendations.RecommendationLifecycle
open Sessions.AccessTokens (isCanonicalUuid)
open UsageRows
open ControlTotals
open UsageParsers

set_option autoImplicit false

inductive ImportSource where
  | synthetic | awsCur | azureExport | gcpExport
  deriving DecidableEq, Repr

inductive ImportFormat where
  | csv | parquet | jsonApiSnapshot | nativeCur | manualOverride
  deriving DecidableEq, Repr

def ImportSource.text : ImportSource → String
  | synthetic => "synthetic"
  | awsCur => "aws_cur"
  | azureExport => "azure_export"
  | gcpExport => "gcp_export"

def ImportFormat.text : ImportFormat → String
  | csv => "csv"
  | parquet => "parquet"
  | jsonApiSnapshot => "json_api_snapshot"
  | nativeCur => "native_cur"
  | manualOverride => "manual_override"

def parseSource : Option Json → Option ImportSource
  | some (.string text) =>
      [.synthetic, .awsCur, .azureExport, .gcpExport].find? fun source => source.text = text
  | _ => none

def parseFormat : Option Json → Option ImportFormat
  | some (.string text) =>
      [.csv, .parquet, .jsonApiSnapshot, .nativeCur, .manualOverride].find? fun format =>
        format.text = text
  | _ => none

def isAllowedSourceFormat (source : ImportSource) (format : ImportFormat) : Bool :=
  match format with
  | .nativeCur => source = .awsCur
  | .manualOverride => source = .synthetic
  | .csv | .parquet | .jsonApiSnapshot => true

def isKeyStart (character : Char) : Bool := character.isAlphanum

def isKeyCharacter (character : Char) : Bool :=
  character.isAlphanum || ['.', '_', '/', '-'].contains character

/-- `text.includes(word)`. -/
def includes (word text : List Char) : Bool := decide (word <:+: text)

/-- `objectKey`: up to 2048 characters of `OBJECT_KEY_PATTERN`. -/
def isObjectKey (key : List Char) : Bool :=
  jsTrim key = key &&
    (match key with
      | first :: rest => isKeyStart first && rest.all isKeyCharacter && rest.length ≤ 2047
      | [] => false) &&
    !includes ['.', '.'] key && !includes ['/', '/'] key && !includes ['\\'] key

structure ImportCreateInput where
  source : ImportSource
  format : ImportFormat
  objectUri : String
  cloudAccountId : Uuid
  controlTotals : List ImportControlTotal

def createFields : List String :=
  ["source", "format", "object_uri", "cloud_account_id", "control_totals"]

/-- `none` where the source throws `invalid()`. -/
def parseImportCreateBody (normalize : List Char → List Char) (body : Json) :
    Option ImportCreateInput := do
  if !closedRecord createFields body then none
  let source ← parseSource (body.field "source")
  let format ← parseFormat (body.field "format")
  if !isAllowedSourceFormat source format then none
  match body.field "object_uri", body.field "cloud_account_id", body.field "control_totals" with
  | some (.string objectUri), some (.string account), some (.array totals) =>
      if !isObjectKey objectUri.toList || !isCanonicalUuid account then none
      let cloudAccountId ← uuidOfText account.toList
      let controlTotals ← controlTotals normalize totals
      return ⟨source, format, objectUri, cloudAccountId, controlTotals⟩
  | _, _, _ => none

section Dispatch

variable (runtime : ImportRuntime)

/-- The AWS parser reads these. -/
def readsAwsCur (source : ImportSource) (format : ImportFormat) : Bool :=
  (source = .awsCur && (format = .csv || format = .nativeCur)) || format = .nativeCur

def canonicalFormat : ImportFormat → CanonicalFormat
  | .csv | .nativeCur => .csv
  | .parquet => .parquet
  | .jsonApiSnapshot => .snapshot .jsonApiSnapshot
  | .manualOverride => .snapshot .manualOverride

/-- The parse result of `createImport`; `none` where the parser rejects. -/
def parseImport (source : ImportSource) (format : ImportFormat) (bytes : List UInt8)
    (account : Provider) (totals : List ImportControlTotal) : Option ImportParseResult :=
  if source = .awsCur ∧ (format = .csv ∨ format = .nativeCur) then
    some (parseAwsCurCsvImport runtime bytes account totals)
  else if source = .synthetic ∧ format = .csv then
    some (parseSyntheticCsvImport runtime bytes account totals)
  else if format = .nativeCur then some (parseAwsCurCsvImport runtime bytes account totals)
  else parseCanonicalUsageImport runtime bytes account totals (canonicalFormat format)

theorem parse_import_aws {source : ImportSource} {format : ImportFormat} (bytes : List UInt8)
    (account : Provider) (totals : List ImportControlTotal)
    (aws : readsAwsCur source format = true) :
    parseImport runtime source format bytes account totals =
      some (parseAwsCurCsvImport runtime bytes account totals) := by
  cases source <;> cases format <;> first | rfl | cases aws

/-- Every other import goes to the synthetic or to the canonical parser. -/
theorem parse_import_other {source : ImportSource} {format : ImportFormat} (bytes : List UInt8)
    (account : Provider) (totals : List ImportControlTotal)
    (other : readsAwsCur source format = false) :
    parseImport runtime source format bytes account totals =
        some (parseSyntheticCsvImport runtime bytes account totals) ∨
      parseImport runtime source format bytes account totals =
        parseCanonicalUsageImport runtime bytes account totals (canonicalFormat format) := by
  cases source <;> cases format <;> first | exact Or.inl rfl | exact Or.inr rfl | cases other

end Dispatch

end CommitmentOptimizer.Imports.ImportRequests
