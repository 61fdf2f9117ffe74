import Mathlib.Algebra.Order.BigOperators.Group.List
import Mathlib.Algebra.Order.Group.Nat
import CommitmentOptimizer.Foundations.JsonbText
import CommitmentOptimizer.Imports.ImportRequests
import CommitmentOptimizer.Imports.ImportTables

/-!
# The error details of a quarantined import

Whatever a parser reports fits into the column of the error details.
-/

namespace CommitmentOptimizer.Imports.ImportErrors

open Foundations
open Foundations.ColumnCasts
open Foundations.JsonText
open Foundations.JsonbText
open Recommendations.RecommendationLifecycle
open ControlTotals
open ImportRequests
open ImportTables
open UsageParsers
open UsageRows

set_option autoImplicit false

section Details

/-- The texts of the natural numbers are their digits. -/
def WritesNaturals (numberOctets : Rat → Nat) : Prop :=
  ∀ value : Nat, numberOctets value = (Nat.toDigits 10 value).length

/-- Error details that `import_batches` stores. -/
structure Explains (numberOctets : Rat → Nat) (details : Json) : Prop where
  object : details.isObject = true
  nonempty : details ≠ .object []
  safe : details.hasAnyKey errorKeys = false
  plain : holdsNul details = false
  short : jsonbOctets numberOctets details ≤ 8192

variable {numberOctets : Rat → Nat}

theorem quarantine_explains {code message : String}
    (plain : ('\x00' ∉ code.toList ∧ '\x00' ∉ message.toList) ∧
      utf8Length (quoted code) + utf8Length (quoted message) ≤ 4000) :
    Explains numberOctets (.object [("code", .string code), ("message", .string message)]) := by
  obtain ⟨⟨plainCode, plainMessage⟩, short⟩ := plain
  have keys : ["code", "message"].any errorKeys.contains = false := by decide
  refine ⟨rfl, nofun, keys, ?_, ?_⟩
  · simp [holdsNul, fieldsHoldNul, plainCode, plainMessage]
  · have names : utf8Length (quoted "code") = 6 ∧ utf8Length (quoted "message") = 9 := by decide
    simp only [jsonbOctets, fieldsOctets, names]
    omega

theorem mismatch_explains : Explains numberOctets controlTotalMismatch :=
  ⟨rfl, nofun, by decide, by decide, by
    have octets : jsonbOctets numberOctets controlTotalMismatch = 41 := by
      simp only [controlTotalMismatch, jsonbOctets, fieldsOctets]
      decide
    omega⟩

/-- The columns that a header can miss. -/
theorem missing_explains {required missing : List String} (sublist : missing.Sublist required)
    (plain : ∀ column ∈ required, '\x00' ∉ column.toList)
    (short : (required.map fun column => utf8Length (quoted column) + 2).sum ≤ 4000) :
    Explains numberOctets (.object [("code", .string "IMPORT_SCHEMA_DRIFT"),
      ("missing_columns", .array (missing.map .string))]) := by
  have keys : ["code", "missing_columns"].any errorKeys.contains = false := by decide
  refine ⟨rfl, nofun, keys, ?_, ?_⟩
  · have names : ("code".toList.contains '\x00') = false ∧
        ("IMPORT_SCHEMA_DRIFT".toList.contains '\x00') = false ∧
        ("missing_columns".toList.contains '\x00') = false := by decide
    have columns := texts_plain fun column member => plain column (sublist.subset member)
    simp only [holdsNul, fieldsHoldNul, names, columns, Bool.or_false]
  · have names : utf8Length (quoted "code") = 6 ∧ utf8Length (quoted "IMPORT_SCHEMA_DRIFT") = 21 ∧
        utf8Length (quoted "missing_columns") = 17 := by decide
    have columns := @texts_octets_le numberOctets missing
    have fewer := (sublist.map fun column => utf8Length (quoted column) + 2).sum_le_sum
      fun _ _ => Nat.zero_le _
    simp only [jsonbOctets, fieldsOctets, names]
    omega

/-- The fields that an invalid row can name. -/
def rowFields : List String :=
  ["provider", "usage_period", "required_field", "commitment_applied_cents", "tags"]

theorem row_error_explains (naturals : WritesNaturals numberOctets) {line : Nat} {field : String}
    (short : line < 10 ^ 20) (named : field ∈ rowFields) :
    Explains numberOctets (rowError line field) := by
  have keys : ["code", "line", "field"].any errorKeys.contains = false := by decide
  refine ⟨rfl, nofun, keys, ?_, ?_⟩
  · have names : ("code".toList.contains '\x00') = false ∧
        ("IMPORT_ROW_INVALID".toList.contains '\x00') = false ∧
        ("line".toList.contains '\x00') = false ∧ ("field".toList.contains '\x00') = false := by
      decide
    have plain : (field.toList.contains '\x00') = false :=
      (by decide : ∀ field ∈ rowFields, (field.toList.contains '\x00') = false) field named
    simp only [rowError, holdsNul, fieldsHoldNul, names, plain, Bool.or_false]
  · have names : utf8Length (quoted "code") = 6 ∧ utf8Length (quoted "IMPORT_ROW_INVALID") = 20 ∧
        utf8Length (quoted "line") = 6 ∧ utf8Length (quoted "field") = 7 := by decide
    have digits : numberOctets line ≤ 20 := by
      rw [naturals]
      exact (Nat.length_toDigits_le_iff (by decide) (by decide)).mpr short
    have fieldOctets : utf8Length (quoted field) ≤ 26 :=
      (by decide : ∀ field ∈ rowFields, utf8Length (quoted field) ≤ 26) field named
    simp only [rowError, jsonbOctets, fieldsOctets, names]
    omega

end Details

section Readers

/-- Every error of the outcome is one of the names. -/
def FailsIn (names : List String) {Value : Type} (outcome : Except String Value) : Prop :=
  ∀ name, outcome = .error name → name ∈ names

variable {names : List String} {First Second : Type}

theorem fails_in_bind {first : Except String First} {next : First → Except String Second}
    (fails : FailsIn names first) (later : ∀ value, FailsIn names (next value)) :
    FailsIn names (first >>= next) := by
  cases first with
  | error name => exact fun other same => fails other (congrArg _ (Except.error.inj same))
  | ok value => exact later value

theorem fails_in_field {field : String} (named : field ∈ names) (found : Option First) :
    FailsIn names (orField field found) := by
  intro name same
  cases found with
  | none =>
      obtain rfl := Except.error.inj same
      exact named
  | some value => cases same

theorem fails_in_pure (value : First) : FailsIn names (pure value) := nofun

theorem parse_usage_row_fails (runtime : ImportRuntime) (account : Provider)
    (cell : String → JsValue) : FailsIn rowFields (parseUsageRow runtime account cell) := by
  unfold parseUsageRow
  refine fails_in_bind (fails_in_field (by decide) _) fun _ => ?_
  refine fails_in_bind (fails_in_field (by decide) _) fun _ => ?_
  refine fails_in_bind (fails_in_field (by decide) _) fun _ => ?_
  refine fails_in_bind (fails_in_field (by decide) _) fun _ => ?_
  refine fails_in_bind (fails_in_field (by decide) _) fun _ => ?_
  refine fails_in_bind (fails_in_field (by decide) _) fun _ => ?_
  refine fails_in_bind (fails_in_field (by decide) _) fun _ => ?_
  refine fails_in_bind (fails_in_field (by decide) _) fun _ => ?_
  refine fails_in_bind (fails_in_field (by decide) _) fun _ => ?_
  refine fails_in_bind (fails_in_field (by decide) _) fun _ => ?_
  refine fails_in_bind (fails_in_field (by decide) _) fun _ => ?_
  refine fails_in_bind (fails_in_field (by decide) _) fun _ => ?_
  refine fails_in_bind (fails_in_field (by decide) _) fun _ => ?_
  refine fails_in_bind (fails_in_field (by decide) _) fun _ => ?_
  exact fails_in_bind (fails_in_field (by decide) _) fun _ => fails_in_pure _

theorem aws_usage_row_fails (runtime : ImportRuntime) (header row : List String) :
    FailsIn rowFields (awsUsageRow runtime header row) := by
  unfold awsUsageRow
  refine fails_in_bind (fails_in_field (by decide) _) fun _ => ?_
  refine fails_in_bind (fails_in_field (by decide) _) fun _ => ?_
  refine fails_in_bind (fails_in_field (by decide) _) fun _ => ?_
  refine fails_in_bind (fails_in_field (by decide) _) fun _ => ?_
  refine fails_in_bind (fails_in_field (by decide) _) fun _ => ?_
  refine fails_in_bind (fails_in_field (by decide) _) fun _ => ?_
  refine fails_in_bind (fails_in_field (by decide) _) fun _ => ?_
  refine fails_in_bind (fails_in_field (by decide) _) fun _ => ?_
  refine fails_in_bind (fails_in_field (by decide) _) fun _ => ?_
  exact fails_in_bind (fails_in_field (by decide) _) fun _ => fails_in_pure _

/-- A row error names a line of the file. -/
theorem read_rows_error {Row : Type} {read : Row → Except String UsageLineItem} {line : Nat}
    {rows : List Row} {details : Json} (fails : ∀ row, FailsIn rowFields (read row))
    (refused : readRows read line rows = .error details) :
    ∃ bad < line + rows.length, ∃ field ∈ rowFields, details = rowError bad field := by
  induction rows generalizing line with
  | nil => cases refused
  | cons row rest induction =>
      rw [readRows] at refused
      cases outcome : read row with
      | error field =>
          rw [outcome] at refused
          obtain rfl := Except.error.inj refused
          exact ⟨line, by rw [List.length_cons]; omega, field, fails row field outcome, rfl⟩
      | ok item =>
          rw [outcome] at refused
          cases later : readRows read (line + 1) rest with
          | error reason =>
              rw [later] at refused
              obtain rfl := Except.error.inj refused
              obtain ⟨bad, below, named⟩ := induction later
              exact ⟨bad, by rw [List.length_cons]; omega, named⟩
          | ok others =>
              rw [later] at refused
              cases refused

end Readers

section Results

variable {numberOctets : Rat → Nat} {runtime : ImportRuntime} {account : Provider}
  {totals : List ImportControlTotal}

/-- A quarantine of a file with fewer than 2³² lines, as arrays hold, explains itself. -/
def Explained (numberOctets : Rat → Nat) : ImportParseResult → Prop
  | .parsed _ => True
  | .quarantined lineCount details _ => lineCount < 2 ^ 32 → Explains numberOctets details

theorem quarantine_explained {lineCount : Nat} {code message : String}
    (plain : ('\x00' ∉ code.toList ∧ '\x00' ∉ message.toList) ∧
      utf8Length (quoted code) + utf8Length (quoted message) ≤ 4000) :
    Explained numberOctets (quarantine lineCount code message) :=
  fun _ => quarantine_explains plain

theorem header_explains {required optional header : List String} {details : Json}
    (plain : ∀ column ∈ required, '\x00' ∉ column.toList)
    (short : (required.map fun column => utf8Length (quoted column) + 2).sum ≤ 4000)
    (refused : validateHeader required optional header = .error details) :
    Explains numberOctets details := by
  unfold validateHeader at refused
  dsimp only at refused
  split_ifs at refused
  obtain rfl := Except.error.inj refused
  exact missing_explains List.filter_sublist plain short

theorem finish_rows_explained (naturals : WritesNaturals numberOctets) {Row : Type}
    {read : Row → Except String UsageLineItem} (fails : ∀ row, FailsIn rowFields (read row))
    {line : Nat} (early : line ≤ 2) {rows : List Row} {invalidWarnings warnings : List Json} :
    Explained numberOctets
      (finishRows rows.length (readRows read line rows) totals invalidWarnings warnings) := by
  unfold finishRows
  cases outcome : readRows read line rows with
  | error details =>
      intro count
      obtain ⟨bad, below, field, named, rfl⟩ := read_rows_error fails outcome
      exact row_error_explains naturals (by omega) named
  | ok items =>
      dsimp only
      cases compared : validateControlTotals items totals with
      | none => trivial
      | some details =>
          intro _
          unfold validateControlTotals at compared
          dsimp only at compared
          split_ifs at compared
          all_goals
            obtain rfl := Option.some.inj compared
            exact mismatch_explains

theorem canonical_rows_explained (naturals : WritesNaturals numberOctets)
    (rows : List (String → JsValue)) {label : String}
    (plain : ('\x00' ∉ "IMPORT_EMPTY".toList ∧
        '\x00' ∉ (label ++ " has no usage rows.").toList) ∧
      utf8Length (quoted "IMPORT_EMPTY") +
        utf8Length (quoted (label ++ " has no usage rows.")) ≤ 4000) (warnings : List Json) :
    Explained numberOctets (parseCanonicalRows runtime rows account totals label warnings) := by
  unfold parseCanonicalRows
  split_ifs
  · exact quarantine_explained plain
  · exact finish_rows_explained naturals (parse_usage_row_fails runtime account) (by decide)

theorem synthetic_explained (naturals : WritesNaturals numberOctets) (bytes : List UInt8) :
    Explained numberOctets (parseSyntheticCsvImport runtime bytes account totals) := by
  unfold parseSyntheticCsvImport
  split
  · dsimp only
    split
    case h_1 refused => exact fun _ => header_explains (by decide) (by decide) refused
    case h_2 =>
      exact finish_rows_explained naturals (fun row => parse_usage_row_fails runtime account _)
        (le_refl 2)
  · exact quarantine_explained (by decide)

theorem aws_explained (naturals : WritesNaturals numberOctets) (bytes : List UInt8) :
    Explained numberOctets (parseAwsCurCsvImport runtime bytes account totals) := by
  unfold parseAwsCurCsvImport
  split_ifs
  · exact quarantine_explained (by decide)
  · split
    · dsimp only
      split
      case h_1 refused => exact fun _ => header_explains (by decide) (by decide) refused
      case h_2 =>
        exact finish_rows_explained naturals (aws_usage_row_fails runtime _) (le_refl 2)
    · exact quarantine_explained (by decide)

theorem canonical_explained (naturals : WritesNaturals numberOctets) {bytes : List UInt8}
    {format : CanonicalFormat} {result : ImportParseResult}
    (returned : parseCanonicalUsageImport runtime bytes account totals format = some result) :
    Explained numberOctets result := by
  cases format with
  | csv =>
      obtain rfl := Option.some.inj returned
      unfold parseCanonicalCsvImport
      split
      · dsimp only
        split
        case h_1 refused => exact fun _ => header_explains (by decide) (by decide) refused
        case h_2 => exact canonical_rows_explained naturals _ (by decide) _
      · exact quarantine_explained (by decide)
  | parquet =>
      obtain ⟨rows, _, same⟩ := Option.bind_eq_some_iff.mp returned
      obtain rfl := Option.some.inj same
      exact canonical_rows_explained naturals _ (by decide) _
  | snapshot format =>
      obtain rfl := Option.some.inj returned
      unfold parseCanonicalJsonImport
      split
      · exact quarantine_explained (by decide)
      · dsimp only
        split
        · split_ifs
          · exact quarantine_explained (by decide)
          · exact quarantine_explained (by decide)
          · cases format <;> exact canonical_rows_explained naturals _ (by decide) _
        · exact quarantine_explained (by decide)
      · exact quarantine_explained (by decide)

/-- Whatever parser reads a file, the error details of a quarantine fit into their column. -/
theorem parse_import_explained (naturals : WritesNaturals numberOctets) {source : ImportSource}
    {format : ImportFormat} {bytes : List UInt8} {result : ImportParseResult}
    (returned : parseImport runtime source format bytes account totals = some result) :
    Explained numberOctets result := by
  unfold parseImport at returned
  split_ifs at returned
  · obtain rfl := Option.some.inj returned
    exact aws_explained naturals _
  · obtain rfl := Option.some.inj returned
    exact synthetic_explained naturals _
  · obtain rfl := Option.some.inj returned
    exact aws_explained naturals _
  · exact canonical_explained naturals returned

end Results

end CommitmentOptimizer.Imports.ImportErrors
