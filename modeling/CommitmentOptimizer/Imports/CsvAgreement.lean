import CommitmentOptimizer.Imports.UsageParsers

/-!
# Two CSV parsers of one format

The synthetic parser takes the cell under the first column of a name, the
canonical parser the cell under the last one.
-/

namespace CommitmentOptimizer.Imports.CsvAgreement

open Foundations
open Foundations.SqlConstraints
open Recommendations.RecommendationLifecycle
open UsageRows
open ControlTotals
open UsageParsers

set_option autoImplicit false

section Acceptance

/-- The line count and the rows of a file that is accepted. -/
def acceptedOf : ImportParseResult → Option (Nat × List UsageLineItem)
  | .parsed parsed => some (parsed.lineCount, parsed.rows)
  | .quarantined .. => none

/-- All rows as they are read, when each one is valid. -/
def readAll {Row : Type} (read : Row → Except String UsageLineItem) (rows : List Row) :
    Option (List UsageLineItem) := rows.mapM fun row => (read row).toOption

def passing (totals : List ImportControlTotal) (items : Option (List UsageLineItem)) :
    Option (List UsageLineItem) :=
  items.filter fun items => validateControlTotals items totals = none

theorem read_rows_to_option {Row : Type} (read : Row → Except String UsageLineItem) (line : Nat)
    (rows : List Row) : (readRows read line rows).toOption = readAll read rows := by
  induction rows generalizing line with
  | nil => rfl
  | cons row rest induction =>
      have onward := induction (line + 1)
      rw [readRows, readAll, List.mapM_cons]
      cases read row with
      | error field => rfl
      | ok item =>
          have first : (Except.ok item : Except String UsageLineItem).toOption = some item := rfl
          rw [readAll] at onward
          rw [first, ← onward, Option.bind_eq_bind, Option.bind_some]
          cases readRows read (line + 1) rest <;> rfl

theorem accepted_finish (lineCount : Nat) (rows : Except Json (List UsageLineItem))
    (totals : List ImportControlTotal) (invalidWarnings warnings : List Json) :
    acceptedOf (finishRows lineCount rows totals invalidWarnings warnings) =
      (passing totals rows.toOption).map fun items => (lineCount, items) := by
  unfold finishRows passing
  cases rows with
  | error details => rfl
  | ok items =>
      dsimp only [Except.toOption]
      cases outcome : validateControlTotals items totals with
      | none => simp [Option.filter, outcome, acceptedOf]
      | some details => simp [Option.filter, outcome, acceptedOf]

end Acceptance

section Readings

variable (runtime : ImportRuntime)

/-- The header and the data rows of a file with all required columns. -/
def dataRows (bytes : List UInt8) : Option (List String × List (List String)) :=
  match parseCsv (runtime.decodeUtf8 bytes) with
  | header :: first :: rest =>
      match validateHeader requiredColumns [] header with
      | .error _ => none
      | .ok _ => some (header, first :: rest)
  | _ => none

/-- The rows under the first column of each name. -/
def readFirst (account : Provider) (header : List String) (rows : List (List String)) :
    Option (List UsageLineItem) :=
  readAll (fun row => parseUsageRow runtime account (syntheticCell header row)) rows

/-- The rows under the last column of each name. -/
def readLast (account : Provider) (header : List String) (rows : List (List String)) :
    Option (List UsageLineItem) :=
  readAll (fun row => parseUsageRow runtime account (canonicalCell header row)) rows

theorem accepted_synthetic (bytes : List UInt8) (account : Provider)
    (totals : List ImportControlTotal) :
    acceptedOf (parseSyntheticCsvImport runtime bytes account totals) =
      (dataRows runtime bytes).bind fun data =>
        (passing totals (readFirst runtime account data.1 data.2)).map fun items =>
          (data.2.length, items) := by
  unfold parseSyntheticCsvImport dataRows
  generalize parseCsv (runtime.decodeUtf8 bytes) = records
  match records with
  | [] | [_] => rfl
  | header :: first :: rest =>
      dsimp only
      cases validateHeader requiredColumns [] header with
      | error details => rfl
      | ok warnings =>
          dsimp only
          rw [accepted_finish, read_rows_to_option]
          rfl

theorem accepted_canonical (bytes : List UInt8) (account : Provider)
    (totals : List ImportControlTotal) :
    acceptedOf (parseCanonicalCsvImport runtime bytes account totals) =
      (dataRows runtime bytes).bind fun data =>
        (passing totals (readLast runtime account data.1 data.2)).map fun items =>
          (data.2.length, items) := by
  unfold parseCanonicalCsvImport dataRows
  generalize parseCsv (runtime.decodeUtf8 bytes) = records
  match records with
  | [] | [_] => rfl
  | header :: first :: rest =>
      dsimp only
      cases validateHeader requiredColumns [] header with
      | error details => rfl
      | ok warnings =>
          have same : readAll (parseUsageRow runtime account)
              ((first :: rest).map (canonicalCell header)) =
              readLast runtime account header (first :: rest) := by
            rw [readAll, readLast, readAll, List.mapM_map]
            rfl
          dsimp only
          rw [parseCanonicalRows, if_neg (by simp), accepted_finish, read_rows_to_option, same,
            List.length_map]
          rfl

/-- The two readings give the same rows, or neither passes. -/
def ReadingsAgree (bytes : List UInt8) (account : Provider) (totals : List ImportControlTotal) :
    Prop :=
  ∀ header rows, dataRows runtime bytes = some (header, rows) →
    readFirst runtime account header rows = readLast runtime account header rows ∨
      (passing totals (readFirst runtime account header rows) = none ∧
        passing totals (readLast runtime account header rows) = none)

theorem passing_eq_iff {totals : List ImportControlTotal}
    {left right : Option (List UsageLineItem)} :
    passing totals left = passing totals right ↔
      left = right ∨ (passing totals left = none ∧ passing totals right = none) := by
  constructor
  · intro same
    cases passes : passing totals left with
    | none => exact Or.inr ⟨rfl, same ▸ passes⟩
    | some items =>
        rw [passes] at same
        exact Or.inl ((Option.filter_eq_some_iff.mp passes).1.trans
          (Option.filter_eq_some_iff.mp same.symm).1.symm)
  · rintro (rfl | ⟨leftNone, rightNone⟩)
    · rfl
    · rw [leftNone, rightNone]

end Readings

section Unrepeated

variable {runtime : ImportRuntime}

/-- Two columns of the header have the name. -/
def Repeats (header : List String) (column : String) : Prop :=
  ∃ first second : Nat, first < second ∧ header[first]? = some column ∧ header[second]? = some column

theorem cells_agree {header : List String} {column : String} (row : List String)
    (member : column ∈ header) (single : ¬ Repeats header column) :
    syntheticCell header row column = canonicalCell header row column := by
  have unique : ∀ first second : Nat, header[first]? = some column → header[second]? = some column →
      first = second := by
    intro first second isFirst isSecond
    rcases Nat.lt_trichotomy first second with before | same | after
    · exact absurd ⟨first, second, before, isFirst, isSecond⟩ single
    · exact same
    · exact absurd ⟨second, first, after, isSecond, isFirst⟩ single
  obtain ⟨index, position⟩ : ∃ index, header.idxOf? column = some index :=
    Option.isSome_iff_exists.mp (List.isSome_idxOf?.mpr member)
  have atIndex : header[index]? = some column := by
    obtain ⟨bound, same, _⟩ := List.idxOf?_eq_some_iff.mp position
    rw [List.getElem?_eq_getElem bound, same]
  obtain ⟨entry, found⟩ : ∃ entry,
      header.zipIdx.reverse.find? (fun entry => entry.1 = column) = some entry := by
    refine Option.isSome_iff_exists.mp (List.find?_isSome.mpr ⟨(column, index), ?_, by simp⟩)
    exact List.mem_reverse.mpr (List.mk_mem_zipIdx_iff_getElem?.mpr atIndex)
  have named : entry.1 = column := by simpa using List.find?_some found
  have sameIndex : entry.2 = index := by
    have entryMember := List.mem_reverse.mp (List.mem_of_find?_eq_some found)
    have atEntry := List.mem_zipIdx_iff_getElem?.mp entryMember
    rw [named] at atEntry
    exact unique _ _ atEntry atIndex
  rw [syntheticCell, firstCell, position, canonicalCell, lastCell, found, Option.map_some,
    sameIndex, Option.bind_some]

/-- A row is read from the required columns alone. -/
theorem parse_usage_row_congr {account : Provider} {left right : String → JsValue}
    (same : ∀ column ∈ requiredColumns, left column = right column) :
    parseUsageRow runtime account left = parseUsageRow runtime account right := by
  simp only [requiredColumns, List.forall_mem_cons, List.not_mem_nil, false_imp_iff, implies_true,
    and_true] at same
  obtain ⟨provider, service, sku, region, start, finish, quantity, unit, onDemand, realized,
    commitment, tags⟩ := same
  simp only [parseUsageRow, provider, service, sku, region, start, finish, quantity, unit,
    onDemand, realized, commitment, tags]

/-- Without a repeated required column the parsers agree. -/
theorem readings_agree_of_unrepeated {bytes : List UInt8} {account : Provider}
    {totals : List ImportControlTotal}
    (single : ∀ header rows, dataRows runtime bytes = some (header, rows) →
      ∀ column ∈ requiredColumns, ¬ Repeats header column) :
    ReadingsAgree runtime bytes account totals := by
  intro header rows data
  have present : ∀ column ∈ requiredColumns, column ∈ header := by
    intro column required
    unfold dataRows at data
    split at data
    case h_1 first second rest =>
      unfold validateHeader at data
      dsimp only at data
      split_ifs at data with missing
      · obtain ⟨rfl, _⟩ := Prod.mk.inj (Option.some.inj data)
        have none := List.filter_eq_nil_iff.mp (not_not.mp missing) column required
        simpa using none
    case h_2 => cases data
  have sameRow : (fun row => parseUsageRow runtime account (syntheticCell header row)) =
      fun row => parseUsageRow runtime account (canonicalCell header row) := by
    funext row
    exact parse_usage_row_congr fun column required =>
      cells_agree row (present column required) (single header rows data column required)
  left
  rw [readFirst, readLast, sameRow]

end Unrepeated

section Example

/-- The bytes of records whose cells are ASCII and need no quotes. -/
def csvBytes (records : List (List String)) : List UInt8 :=
  (records.flatMap fun record => ([','].intercalate (record.map String.toList)) ++ ['\n']).map
    fun character => UInt8.ofNat character.toNat

/-- On ASCII bytes, the two dates and the empty tags of the examples. -/
def exampleRuntime : ImportRuntime where
  decodeUtf8 bytes := bytes.map fun byte => Char.ofNat byte.toNat
  normalize := id
  parseDate text :=
    if text = "2024-02-29T00:00:00Z" then some exampleRow.usageStart
    else if text = "2024-02-29T01:00:00Z" then some exampleRow.usageEnd
    else none
  parseJson text := if text = "\x7b\x7d" then some (.object []) else none
  numberText _ := []
  readParquet _ := none

/-- A file whose header has the region twice. -/
def twoRegions : List UInt8 := csvBytes
  [["provider", "service_code", "sku", "region", "region", "usage_start", "usage_end",
      "usage_quantity", "usage_unit", "on_demand_cost_cents", "realized_cost_cents",
      "commitment_applied_cents", "tags"],
    ["aws", "AmazonEC2", "BoxUsage:m5.large", "eu-west-1", "us-east-1", "2024-02-29T00:00:00Z",
      "2024-02-29T01:00:00Z", "1.00000000", "Hrs", "11", "7", "4", "\x7b\x7d"]]

end Example

end CommitmentOptimizer.Imports.CsvAgreement
