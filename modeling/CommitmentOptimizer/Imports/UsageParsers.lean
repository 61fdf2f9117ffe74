import CommitmentOptimizer.Foundations.JsValues
import CommitmentOptimizer.Foundations.JsonText
import CommitmentOptimizer.Imports.ControlTotals

/-!
# The usage parsers

`csv.ts`, `synthetic-csv-parser.ts`, `canonical-usage-parser.ts` and
`aws-cur-csv-parser.ts`. The synthetic and the canonical row readers differ only
in how they find a cell, so both are one reader with that as its argument.
-/

namespace CommitmentOptimizer.Imports.UsageParsers

open Foundations
open Foundations.JsonText
open Foundations.IsoInstants
open Foundations.BigIntText
open Recommendations.RecommendationLifecycle
open UsageRows
open ControlTotals

set_option autoImplicit false

/-- What the parsers call and the repository does not hold: `toString("utf8")`,
`normalize("NFC")`, `new Date(text)` where it is a finite time, `JSON.parse`,
the text of a number, and `parquetReadObjects`, which may throw. -/
structure ImportRuntime where
  decodeUtf8 : List UInt8 → List Char
  normalize : List Char → List Char
  parseDate : String → Option JsDate
  parseJson : String → Option Json
  numberText : Rat → List Char
  readParquet : List UInt8 → Option (List JsValue)

section Csv

/-- The loop of `parseCsv`; a cell is collected in reverse, a row and the rows
before it too. -/
def readCsv (quoted : Bool) (cell : List Char) (row : List String) (rows : List (List String)) :
    List Char → List (List String)
  | [] =>
      if cell ≠ [] ∨ row ≠ [] then
        ((String.ofList cell.reverse :: row).reverse :: rows).reverse
      else rows.reverse
  | character :: rest =>
      if quoted then
        match character, rest with
        | '"', '"' :: rest => readCsv true ('"' :: cell) row rows rest
        | '"', rest => readCsv false cell row rows rest
        | character, rest => readCsv true (character :: cell) row rows rest
      else if character = '"' then readCsv true cell row rows rest
      else if character = ',' then readCsv false [] (String.ofList cell.reverse :: row) rows rest
      else if character = '\n' then
        readCsv false [] [] ((String.ofList cell.reverse :: row).reverse :: rows) rest
      else if character = '\r' then readCsv false cell row rows rest
      else readCsv false (character :: cell) row rows rest

/-- Records without a visible cell are dropped. -/
def parseCsv (text : List Char) : List (List String) :=
  (readCsv false [] [] [] text).filter fun record =>
    record.any fun value => jsTrim value.toList ≠ []

/-- `row[header.indexOf(column)]`. -/
def firstCell (header row : List String) (column : String) : Option String :=
  (header.idxOf? column).bind fun index => row[index]?

/-- The cell of `column` in `Object.fromEntries(header.map((name, index) =>
[name, row[index] ?? ""]))`: a later column replaces an earlier one of its name. -/
def lastCell (header row : List String) (column : String) : Option String :=
  (header.zipIdx.reverse.find? fun entry => entry.1 = column).map fun entry =>
    (row[entry.2]?).getD ""

end Csv

section Results

structure ParsedUsage where
  lineCount : Nat
  rows : List UsageLineItem
  parserWarnings : List Json
  deriving DecidableEq

inductive ImportParseResult where
  | parsed (parsed : ParsedUsage)
  | quarantined (lineCount : Nat) (errorDetails : Json) (parserWarnings : List Json)
  deriving DecidableEq

def quarantine (lineCount : Nat) (code message : String) : ImportParseResult :=
  .quarantined lineCount (.object [("code", .string code), ("message", .string message)]) []

def rowError (line : Nat) (field : String) : Json :=
  .object [("code", .string "IMPORT_ROW_INVALID"), ("line", .number (some (line : Rat))),
    ("field", .string field)]

/-- The warnings of a header, or the error details when columns are missing. -/
def validateHeader (required optional : List String) (header : List String) :
    Except Json (List Json) :=
  let missing := required.filter fun column => !header.contains column
  if missing ≠ [] then
    .error (.object [("code", .string "IMPORT_SCHEMA_DRIFT"),
      ("missing_columns", .array (missing.map .string))])
  else
    let extra := header.filter fun column =>
      !required.contains column && !optional.contains column
    .ok (extra.map fun field =>
      .object [("code", .string "UNKNOWN_OPTIONAL_FIELD"), ("field", .string field)])

/-- The rows up to the first that is invalid; lines are counted from `line`. -/
def readRows {Row : Type} (read : Row → Except String UsageLineItem) :
    Nat → List Row → Except Json (List UsageLineItem)
  | _, [] => .ok []
  | line, row :: rest =>
      match read row with
      | .error field => .error (rowError line field)
      | .ok item => (readRows read (line + 1) rest).map fun items => item :: items

/-- The end of each parser. `invalidWarnings` go with an invalid row. -/
def finishRows (lineCount : Nat) (rows : Except Json (List UsageLineItem))
    (totals : List ImportControlTotal) (invalidWarnings warnings : List Json) :
    ImportParseResult :=
  match rows with
  | .error details => .quarantined lineCount details invalidWarnings
  | .ok items =>
      match validateControlTotals items totals with
      | some details => .quarantined lineCount details warnings
      | none => .parsed ⟨lineCount, items, warnings⟩

/-- The items of a file are its rows, one by one. -/
theorem read_rows_forall₂ {Row : Type} {read : Row → Except String UsageLineItem} {line : Nat}
    {rows : List Row} {items : List UsageLineItem}
    (accepted : readRows read line rows = .ok items) :
    List.Forall₂ (fun row item => read row = .ok item) rows items := by
  induction rows generalizing line items with
  | nil =>
      obtain rfl := Except.ok.inj accepted
      exact .nil
  | cons row rest induction =>
      rw [readRows] at accepted
      cases outcome : read row with
      | error field =>
          rw [outcome] at accepted
          cases accepted
      | ok item =>
          rw [outcome] at accepted
          cases later : readRows read (line + 1) rest with
          | error details =>
              rw [later] at accepted
              cases accepted
          | ok others =>
              rw [later] at accepted
              obtain rfl := Except.ok.inj accepted
              exact .cons outcome (induction later)

/-- An accepted file is made of rows that were read. -/
theorem finish_rows_parsed {lineCount : Nat} {rows : Except Json (List UsageLineItem)}
    {totals : List ImportControlTotal} {invalidWarnings warnings : List Json}
    {parsed : ParsedUsage}
    (accepted : finishRows lineCount rows totals invalidWarnings warnings = .parsed parsed) :
    rows = .ok parsed.rows ∧ parsed.lineCount = lineCount := by
  unfold finishRows at accepted
  split at accepted
  case h_1 => cases accepted
  case h_2 items =>
    split at accepted
    case h_1 => cases accepted
    case h_2 =>
      cases accepted
      exact ⟨rfl, rfl⟩

end Results

section Cells

variable (runtime : ImportRuntime)

def orField {Value : Type} (field : String) : Option Value → Except String Value
  | some value => .ok value
  | none => .error field

/-- A check whose outcome the rest of a reader relies on. -/
def proofOf (holds : Prop) [Decidable holds] : Option (PLift holds) :=
  if proof : holds then some ⟨proof⟩ else none

/-- `decimal` and `decimal8`. -/
def decimal (value : String) : Option Decimal8 :=
  let trimmed := jsTrim value.toList
  if form : isDecimal8 trimmed = true then
    some ⟨String.ofList trimmed, by rwa [String.toList_ofList]⟩
  else none

def integer (value : String) : Option UnsignedText :=
  let trimmed := jsTrim value.toList
  if unsigned : isUnsignedInteger trimmed = true then
    some ⟨String.ofList trimmed, by
      rw [String.toList_ofList]
      exact unsigned_integer_decimal unsigned⟩
  else none

def text (value : String) : Option CleanText := readText runtime.normalize value

def stringValue : JsValue → String
  | .string value => value
  | _ => ""

/-- Case folding, as far as it yields a letter of the words. -/
def foldCase (character : Char) : Char :=
  let code := character.toNat
  if 0x41 ≤ code ∧ code ≤ 0x5a then Char.ofNat (code + 0x20)
  else if code = 0x17f then 's'
  else if code = 0x212a then 'k'
  else character

def credentialWords : List String := ["password", "secret", "token", "credential"]

/-- `/password|secret|token|credential/iu.test(text)`. -/
def namesCredential (text : List Char) : Bool :=
  credentialWords.any fun word => decide (word.toList <:+: text.map foldCase)

/-- `{ ...value }`, as JSON: a date has no fields of its own. -/
def spread : JsValue → Option (List (String × Json))
  | .object fields => JsValue.toFields fields
  | _ => some []

/-- The object test, the words in its text, and the copy of its fields. -/
def tagsOf (parsed : JsValue) : Option (List (String × Json)) :=
  match parsed with
  | .object _ | .date _ =>
      parsed.toJson.bind fun encoded =>
        if namesCredential (jsonText runtime.numberText encoded) then none else spread parsed
  | _ => none

def parseTags (value : JsValue) : Option (List (String × Json)) :=
  match value with
  | .string text =>
      (runtime.parseJson text).bind fun parsed => tagsOf runtime (JsValue.ofJson parsed)
  | other => tagsOf runtime other

end Cells

section Rows

variable (runtime : ImportRuntime)

/-- `parseUsageRow` of the synthetic and of the canonical parser. The error is
the field it names. -/
def parseUsageRow (account : Provider) (cell : String → JsValue) :
    Except String UsageLineItem := do
  let provider ← orField "provider" (parseProvider (stringValue (cell "provider")))
  let _ ← orField "provider" (proofOf (provider = account))
  let usageStart ← orField "usage_period" (runtime.parseDate (stringValue (cell "usage_start")))
  let usageEnd ← orField "usage_period" (runtime.parseDate (stringValue (cell "usage_end")))
  let period ← orField "usage_period" (proofOf (usageStart.time < usageEnd.time))
  let onDemandCostCents ← orField "required_field"
    (integer (stringValue (cell "on_demand_cost_cents")))
  let realizedCostCents ← orField "required_field"
    (integer (stringValue (cell "realized_cost_cents")))
  let commitmentAppliedCents ← orField "required_field"
    (integer (stringValue (cell "commitment_applied_cents")))
  let allocated ← orField "commitment_applied_cents"
    (proofOf (commitmentAppliedCents.value ≤ onDemandCostCents.value))
  let tags ← orField "tags" (parseTags runtime (cell "tags"))
  let serviceCode ← orField "required_field" (text runtime (stringValue (cell "service_code")))
  let sku ← orField "required_field" (text runtime (stringValue (cell "sku")))
  let region ← orField "required_field" (text runtime (stringValue (cell "region")))
  let usageQuantity ← orField "required_field" (decimal (stringValue (cell "usage_quantity")))
  let usageUnit ← orField "required_field" (text runtime (stringValue (cell "usage_unit")))
  return {
    provider, serviceCode, sku, region, usageStart, usageEnd, usageQuantity, usageUnit,
    onDemandCostCents, realizedCostCents, commitmentAppliedCents, tags
    period := period.down
    allocated := allocated.down }

theorem or_field_ok {Value : Type} {field : String} {found : Option Value} {value : Value} :
    orField field found = .ok value ↔ found = some value := by
  cases found <;> simp [orField]

/-- What each column of a row that is read held. -/
structure RowRead (account : Provider) (cell : String → JsValue) (item : UsageLineItem) :
    Prop where
  provider : parseProvider (stringValue (cell "provider")) = some item.provider
  ofAccount : item.provider = account
  usageStart : runtime.parseDate (stringValue (cell "usage_start")) = some item.usageStart
  usageEnd : runtime.parseDate (stringValue (cell "usage_end")) = some item.usageEnd
  onDemandCostCents :
    integer (stringValue (cell "on_demand_cost_cents")) = some item.onDemandCostCents
  realizedCostCents :
    integer (stringValue (cell "realized_cost_cents")) = some item.realizedCostCents
  commitmentAppliedCents :
    integer (stringValue (cell "commitment_applied_cents")) = some item.commitmentAppliedCents
  tags : parseTags runtime (cell "tags") = some item.tags
  serviceCode : text runtime (stringValue (cell "service_code")) = some item.serviceCode
  sku : text runtime (stringValue (cell "sku")) = some item.sku
  region : text runtime (stringValue (cell "region")) = some item.region
  usageQuantity : decimal (stringValue (cell "usage_quantity")) = some item.usageQuantity
  usageUnit : text runtime (stringValue (cell "usage_unit")) = some item.usageUnit

variable {runtime} in
theorem parse_usage_row_read {account : Provider} {cell : String → JsValue}
    {item : UsageLineItem} (accepted : parseUsageRow runtime account cell = .ok item) :
    RowRead runtime account cell item := by
  unfold parseUsageRow at accepted
  simp only [SqlConstraints.bind_ok, or_field_ok] at accepted
  obtain ⟨provider, isProvider, ⟨ofAccount⟩, _, usageStart, isStart, usageEnd, isEnd, ⟨period⟩, _,
    onDemand, isOnDemand, realized, isRealized, commitment, isCommitment, ⟨allocated⟩, _, tags,
    areTags, service, isService, sku, isSku, region, isRegion, quantity, isQuantity, unit, isUnit,
    done⟩ := accepted
  obtain rfl := Except.ok.inj done
  exact ⟨isProvider, ofAccount, isStart, isEnd, isOnDemand, isRealized, isCommitment, areTags,
    isService, isSku, isRegion, isQuantity, isUnit⟩

def requiredColumns : List String :=
  ["provider", "service_code", "sku", "region", "usage_start", "usage_end", "usage_quantity",
    "usage_unit", "on_demand_cost_cents", "realized_cost_cents", "commitment_applied_cents",
    "tags"]

/-- The cells of `synthetic-csv-parser.ts`. -/
def syntheticCell (header row : List String) (column : String) : JsValue :=
  .string ((firstCell header row column).getD "")

/-- The cells of a record that `parseCanonicalCsvImport` builds. -/
def canonicalCell (header row : List String) (column : String) : JsValue :=
  match lastCell header row column with
  | some value => .string value
  | none => .undefined

def parseSyntheticCsvImport (bytes : List UInt8) (account : Provider)
    (totals : List ImportControlTotal) : ImportParseResult :=
  match parseCsv (runtime.decodeUtf8 bytes) with
  | header :: first :: rest =>
      let rows := first :: rest
      match validateHeader requiredColumns [] header with
      | .error details => .quarantined rows.length details []
      | .ok warnings =>
          finishRows rows.length
            (readRows (fun row => parseUsageRow runtime account (syntheticCell header row)) 2 rows)
            totals [] warnings
  | _ => quarantine 0 "IMPORT_EMPTY" "Synthetic CSV has no usage rows."

def parseCanonicalRows (rows : List (String → JsValue)) (account : Provider)
    (totals : List ImportControlTotal) (label : String) (warnings : List Json) :
    ImportParseResult :=
  if rows = [] then quarantine 0 "IMPORT_EMPTY" (label ++ " has no usage rows.")
  else
    finishRows rows.length (readRows (parseUsageRow runtime account) 1 rows) totals warnings
      warnings

def parseCanonicalCsvImport (bytes : List UInt8) (account : Provider)
    (totals : List ImportControlTotal) : ImportParseResult :=
  match parseCsv (runtime.decodeUtf8 bytes) with
  | header :: first :: rest =>
      let rows := first :: rest
      match validateHeader requiredColumns [] header with
      | .error details => .quarantined rows.length details []
      | .ok warnings =>
          parseCanonicalRows runtime (rows.map (canonicalCell header)) account totals
            "Canonical CSV" warnings
  | _ => quarantine 0 "IMPORT_EMPTY" "Canonical CSV has no usage rows."

inductive SnapshotFormat where
  | jsonApiSnapshot | manualOverride
  deriving DecidableEq, Repr

def SnapshotFormat.schema : SnapshotFormat → String
  | jsonApiSnapshot => "canonical_usage_snapshot:v1"
  | manualOverride => "manual_usage_override:v1"

def SnapshotFormat.label : SnapshotFormat → String
  | jsonApiSnapshot => "Canonical JSON snapshot"
  | manualOverride => "Manual override"

def parseCanonicalJsonImport (bytes : List UInt8) (account : Provider)
    (totals : List ImportControlTotal) (format : SnapshotFormat) : ImportParseResult :=
  match runtime.parseJson (String.ofList (runtime.decodeUtf8 bytes)) with
  | none => quarantine 0 "IMPORT_SCHEMA_DRIFT" "Import JSON snapshot must be valid JSON."
  | some (.object fields) =>
      let snapshot := Json.object fields
      match snapshot.field "rows" with
      | some (.array rows) =>
          if snapshot.field "schema_version" ≠ some (.string format.schema) then
            quarantine 0 "IMPORT_SCHEMA_DRIFT" "Import JSON snapshot schema is unsupported."
          else if format = .manualOverride ∧ rows.length > 100 then
            quarantine 0 "IMPORT_MANUAL_OVERRIDE_TOO_LARGE"
              "Manual overrides accept at most 100 rows."
          else
            parseCanonicalRows runtime
              (rows.map fun row column => (JsValue.ofJson row).field column) account totals
              format.label []
      | _ => quarantine 0 "IMPORT_SCHEMA_DRIFT" "Import JSON snapshot schema is unsupported."
  | some _ => quarantine 0 "IMPORT_SCHEMA_DRIFT" "Import JSON snapshot must be an object."

inductive CanonicalFormat where
  | csv
  | parquet
  | snapshot (format : SnapshotFormat)
  deriving DecidableEq, Repr

/-- `none` where the promise is rejected. -/
def parseCanonicalUsageImport (bytes : List UInt8) (account : Provider)
    (totals : List ImportControlTotal) : CanonicalFormat → Option ImportParseResult
  | .csv => some (parseCanonicalCsvImport runtime bytes account totals)
  | .parquet => do
      let rows ← runtime.readParquet bytes
      return parseCanonicalRows runtime (rows.map fun row column => row.field column) account
        totals "Canonical Parquet" []
  | .snapshot format => some (parseCanonicalJsonImport runtime bytes account totals format)

end Rows

section AwsCur

variable (runtime : ImportRuntime)

def awsRequiredColumns : List String :=
  ["lineItem/UsageAccountId", "lineItem/ProductCode", "lineItem/UsageType", "product/region",
    "lineItem/UsageStartDate", "lineItem/UsageEndDate", "lineItem/UsageAmount",
    "lineItem/UsageUnit", "pricing/publicOnDemandCost", "lineItem/UnblendedCost"]

def awsOptionalColumns : List String :=
  ["savingsPlan/SavingsPlanEffectiveCost", "resourceTags/user:Environment"]

/-- `MONEY_PATTERN`: `^(?:0|[1-9][0-9]{0,17})(?:\.[0-9]{1,10})?$`. -/
def isMoney (text : List Char) : Bool :=
  let (whole, fraction) := splitPoint text
  isDecimal whole && whole.length ≤ 18 &&
    (text = whole ||
      (text = whole ++ '.' :: fraction && fraction ≠ [] && fraction.length ≤ 10 &&
        fraction.all Char.isDigit))

/-- Ten-billionths are rounded to cents, half up. -/
def moneyCents (value : String) : Option UnsignedText :=
  let trimmed := jsTrim value.toList
  if isMoney trimmed then
    let (whole, fraction) := splitPoint trimmed
    let scale := 10000000000
    let scaled := digitsValue whole * scale +
      digitsValue (fraction ++ List.replicate (10 - fraction.length) '0')
    some ⟨toString ((scaled * 100 + scale / 2) / scale), is_decimal_to_string _⟩
  else none

def tagPrefix : String := "resourceTags/user:"

/-- The tag that a column gives a row, when its cell is not blank. The name
`__proto__` sets a prototype, and to a string has no effect. -/
def columnTag (header row : List String) (column : String) : Option (String × String) :=
  if tagPrefix.toList.isPrefixOf column.toList then
    let name := String.ofList (column.toList.drop tagPrefix.length)
    match firstCell header row column with
    | some cell =>
        let raw := jsTrim (runtime.normalize cell.toList)
        if raw ≠ [] ∧ name ≠ "__proto__" then some (name, String.ofList raw) else none
    | none => none
  else none

/-- `result[name] = raw` for each column; a repeated column repeats its cell. -/
def tags (header row : List String) : List (String × Json) :=
  ((header.filterMap (columnTag runtime header row)).foldl (fun result tag =>
    if result.any fun other => other.1 = tag.1 then result else result ++ [tag]) []).map
    fun tag => (tag.1, .string tag.2)

/-- What was saved, or `"0"`. -/
def commitmentApplied (onDemand realized : Nat) : UnsignedText :=
  ⟨toString (onDemand - realized), is_decimal_to_string _⟩

theorem commitment_applied_value (onDemand realized : Nat) :
    (commitmentApplied onDemand realized).value = onDemand - realized :=
  digits_value_to_string _

/-- `parseUsageRow` of the AWS parser. -/
def awsUsageRow (header row : List String) : Except String UsageLineItem := do
  let value column := (firstCell header row column).getD ""
  let usageStart ← orField "usage_period" (runtime.parseDate (value "lineItem/UsageStartDate"))
  let usageEnd ← orField "usage_period" (runtime.parseDate (value "lineItem/UsageEndDate"))
  let period ← orField "usage_period" (proofOf (usageStart.time < usageEnd.time))
  let onDemandCostCents ← orField "required_field" (moneyCents (value "pricing/publicOnDemandCost"))
  let effective := value "savingsPlan/SavingsPlanEffectiveCost"
  let realizedCostCents ← orField "required_field"
    (moneyCents (if effective ≠ "" then effective else value "lineItem/UnblendedCost"))
  let serviceCode ← orField "required_field" (text runtime (value "lineItem/ProductCode"))
  let sku ← orField "required_field" (text runtime (value "lineItem/UsageType"))
  let region ← orField "required_field" (text runtime (value "product/region"))
  let usageQuantity ← orField "required_field" (decimal (value "lineItem/UsageAmount"))
  let usageUnit ← orField "required_field" (text runtime (value "lineItem/UsageUnit"))
  return {
    provider := .aws
    serviceCode, sku, region, usageStart, usageEnd, usageQuantity, usageUnit, onDemandCostCents,
    realizedCostCents
    commitmentAppliedCents := commitmentApplied onDemandCostCents.value realizedCostCents.value
    tags := tags runtime header row
    period := period.down
    allocated := by
      rw [commitment_applied_value]
      exact Nat.sub_le .. }

/-- The text of the column that supplies the realized cost. -/
def realizedCostText (header row : List String) : String :=
  let effective := (firstCell header row "savingsPlan/SavingsPlanEffectiveCost").getD ""
  if effective ≠ "" then effective else (firstCell header row "lineItem/UnblendedCost").getD ""

/-- What each column of an AWS row that is read held. -/
structure AwsRowRead (header row : List String) (item : UsageLineItem) : Prop where
  provider : item.provider = .aws
  usageStart : runtime.parseDate ((firstCell header row "lineItem/UsageStartDate").getD "") =
    some item.usageStart
  usageEnd : runtime.parseDate ((firstCell header row "lineItem/UsageEndDate").getD "") =
    some item.usageEnd
  onDemandCostCents : moneyCents ((firstCell header row "pricing/publicOnDemandCost").getD "") =
    some item.onDemandCostCents
  realizedCostCents : moneyCents (realizedCostText header row) = some item.realizedCostCents
  commitmentAppliedCents : item.commitmentAppliedCents =
    commitmentApplied item.onDemandCostCents.value item.realizedCostCents.value
  usageQuantity : decimal ((firstCell header row "lineItem/UsageAmount").getD "") =
    some item.usageQuantity
  tags : item.tags = UsageParsers.tags runtime header row

variable {runtime} in
theorem aws_usage_row_read {header row : List String} {item : UsageLineItem}
    (accepted : awsUsageRow runtime header row = .ok item) :
    AwsRowRead runtime header row item := by
  unfold awsUsageRow at accepted
  simp only [SqlConstraints.bind_ok, or_field_ok] at accepted
  obtain ⟨usageStart, isStart, usageEnd, isEnd, ⟨period⟩, _, onDemand, isOnDemand, realized,
    isRealized, service, _, sku, _, region, _, quantity, isQuantity, unit, _, done⟩ := accepted
  obtain rfl := Except.ok.inj done
  exact ⟨rfl, isStart, isEnd, isOnDemand, isRealized, rfl, isQuantity, rfl⟩

def parseAwsCurCsvImport (bytes : List UInt8) (account : Provider)
    (totals : List ImportControlTotal) : ImportParseResult :=
  if account ≠ .aws then
    quarantine 0 "IMPORT_ACCOUNT_PROVIDER_MISMATCH" "AWS CUR imports require an AWS account."
  else
    match parseCsv (runtime.decodeUtf8 bytes) with
    | header :: first :: rest =>
        let rows := first :: rest
        match validateHeader awsRequiredColumns awsOptionalColumns header with
        | .error details => .quarantined rows.length details []
        | .ok warnings =>
            finishRows rows.length (readRows (awsUsageRow runtime header) 2 rows) totals warnings
              warnings
    | _ => quarantine 0 "IMPORT_EMPTY" "AWS CUR CSV has no usage rows."

/-- The header and the data rows of an AWS file with all required columns. -/
def awsDataRows (bytes : List UInt8) :
    Option (List String × List (List String)) :=
  match parseCsv (runtime.decodeUtf8 bytes) with
  | header :: first :: rest =>
      match validateHeader awsRequiredColumns awsOptionalColumns header with
      | .error _ => none
      | .ok _ => some (header, first :: rest)
  | _ => none

/-- An accepted AWS file is made of rows that were read, in their order. -/
theorem aws_import_read {runtime : ImportRuntime} {bytes : List UInt8} {account : Provider}
    {totals : List ImportControlTotal} {parsed : ParsedUsage}
    (accepted : parseAwsCurCsvImport runtime bytes account totals = .parsed parsed) :
    ∃ header rows, awsDataRows runtime bytes = some (header, rows) ∧
      List.Forall₂ (fun row item => awsUsageRow runtime header row = .ok item) rows parsed.rows ∧
      parsed.lineCount = rows.length := by
  unfold parseAwsCurCsvImport at accepted
  split_ifs at accepted with other
  · cases accepted
  unfold awsDataRows
  generalize parseCsv (runtime.decodeUtf8 bytes) = records at accepted
  match records with
  | [] | [_] => cases accepted
  | header :: first :: rest =>
      dsimp only at accepted ⊢
      cases checked : validateHeader awsRequiredColumns awsOptionalColumns header with
      | error details =>
          rw [checked] at accepted
          cases accepted
      | ok warnings =>
          rw [checked] at accepted
          obtain ⟨read, count⟩ := finish_rows_parsed accepted
          exact ⟨header, first :: rest, rfl, read_rows_forall₂ read, count⟩

end AwsCur

end CommitmentOptimizer.Imports.UsageParsers
