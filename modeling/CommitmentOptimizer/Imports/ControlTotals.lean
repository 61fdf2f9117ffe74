import Mathlib.Data.List.Dedup
import CommitmentOptimizer.Foundations.GroupedRows
import CommitmentOptimizer.Imports.UsageRows

/-!
# Control totals

`controlTotal` of `imports-input.ts` and `validateControlTotals`, of which the
three parsers hold one copy each. The entries of a request go through a map, so
that the last entry of a group replaces the ones before it.
-/

namespace CommitmentOptimizer.Imports.ControlTotals

open Foundations
open Foundations.SqlConstraints
open Foundations.BigIntText
open Foundations.IsoInstants
open Foundations.GroupedRows
open Recommendations.RecommendationLifecycle
open UsageRows

set_option autoImplicit false

section Readers

theorem js_trim_js_trim (text : List Char) : jsTrim (jsTrim text) = jsTrim text := by
  have idempotent : ∀ list : List Char, (list.dropWhile isJsSpace).dropWhile isJsSpace =
      list.dropWhile isJsSpace := fun list => List.dropWhile_idempotent isJsSpace list
  have front : (jsTrim text).dropWhile isJsSpace = jsTrim text := by
    have isPrefix : jsTrim text <+: text.dropWhile isJsSpace := by
      rw [← List.reverse_suffix, jsTrim, List.reverse_reverse]
      exact List.dropWhile_suffix _
    cases trimmed : jsTrim text with
    | nil => rfl
    | cons first rest =>
        rw [trimmed] at isPrefix
        obtain ⟨tail, whole⟩ := isPrefix
        have kept := idempotent text
        rw [← whole, List.cons_append, List.dropWhile_cons] at kept
        cases space : isJsSpace first with
        | false => rw [List.dropWhile_cons, space]; rfl
        | true =>
            rw [space, if_pos rfl] at kept
            have shorter := (List.dropWhile_suffix (l := rest ++ tail) isJsSpace).length_le
            rw [kept, List.length_cons] at shorter
            omega
  rw [jsTrim, front, jsTrim, List.reverse_reverse, idempotent]

/-- `value.normalize("NFC").trim()`, neither empty nor with a control character. -/
def readText (normalize : List Char → List Char) (value : String) : Option CleanText :=
  let trimmed := jsTrim (normalize value.toList)
  if nonempty : trimmed ≠ [] then
    if printable : hasControlCharacter trimmed = false then
      some
        { text := String.ofList trimmed
          trimmed := by rw [String.toList_ofList, js_trim_js_trim]
          nonempty := by rwa [String.toList_ofList]
          printable := by rwa [String.toList_ofList] }
    else none
  else none

/-- `cleanText(value, 1, max)`. -/
def cleanText (normalize : List Char → List Char) (max : Nat) : Option Json → Option CleanText
  | some (.string value) =>
      (readText normalize value).filter fun text => utf16Length text.text.toList ≤ max
  | _ => none

def decimal8 : Option Json → Option Decimal8
  | some (.string text) => if form : isDecimal8 text.toList = true then some ⟨text, form⟩ else none
  | _ => none

theorem unsigned_integer_decimal {text : List Char} (unsigned : isUnsignedInteger text = true) :
    isDecimal text = true := by
  simp only [isUnsignedInteger, Bool.and_eq_true] at unsigned
  exact unsigned.1

def unsignedInteger : Option Json → Option UnsignedText
  | some (.string text) =>
      if unsigned : isUnsignedInteger text.toList = true then
        some ⟨text, unsigned_integer_decimal unsigned⟩
      else none
  | _ => none

def monthText : Option Json → Option MonthText
  | some (.string text) => if form : isMonth text.toList = true then some ⟨text, form⟩ else none
  | _ => none

def providerText : Provider → String
  | .aws => "aws"
  | .azure => "azure"
  | .gcp => "gcp"

def parseProvider (text : String) : Option Provider :=
  if text = "aws" then some .aws
  else if text = "azure" then some .azure
  else if text = "gcp" then some .gcp
  else none

def provider : Option Json → Option Provider
  | some (.string text) => parseProvider text
  | _ => none

/-- `closedRecord` and `rejectUnknown`. -/
def closedRecord (allowed : List String) : Json → Bool
  | .object fields => fields.all fun field => allowed.contains field.1
  | _ => false

def controlTotalFields : List String :=
  ["provider", "service_code", "region", "month", "line_count", "usage_quantity",
    "on_demand_cost_cents", "realized_cost_cents", "commitment_applied_cents"]

/-- `none` where the source throws `invalid()`. -/
def controlTotal (normalize : List Char → List Char) (value : Json) : Option ImportControlTotal :=
  if closedRecord controlTotalFields value then do
    return {
      provider := ← provider (value.field "provider")
      serviceCode := ← cleanText normalize 200 (value.field "service_code")
      region := ← cleanText normalize 100 (value.field "region")
      month := ← monthText (value.field "month")
      lineCount := ← unsignedInteger (value.field "line_count")
      usageQuantity := ← decimal8 (value.field "usage_quantity")
      onDemandCostCents := ← unsignedInteger (value.field "on_demand_cost_cents")
      realizedCostCents := ← unsignedInteger (value.field "realized_cost_cents")
      commitmentAppliedCents := ← unsignedInteger (value.field "commitment_applied_cents") }
  else none

/-- `object.control_totals.map(controlTotal)`. -/
def controlTotals (normalize : List Char → List Char) (values : List Json) :
    Option (List ImportControlTotal) :=
  values.mapM (controlTotal normalize)

end Readers

section Comparison

structure MutableTotal where
  provider : Provider
  serviceCode : String
  region : String
  month : String
  lineCount : Nat
  usageQuantity : Nat
  onDemandCostCents : Nat
  realizedCostCents : Nat
  commitmentAppliedCents : Nat

def totalKey (provider : Provider) (serviceCode region month : String) : String :=
  providerText provider ++ "\x00" ++ serviceCode ++ "\x00" ++ region ++ "\x00" ++ month

def controlTotalKey (total : ImportControlTotal) : String :=
  totalKey total.provider total.serviceCode.text total.region.text total.month.text

/-- The key of a row's group: its month is `row.usageStart.slice(0, 7)`. -/
def rowKey (row : UsageLineItem) : String :=
  totalKey row.provider row.serviceCode.text row.region.text (monthSlice row.usageStart.text)

def emptyTotal (row : UsageLineItem) : MutableTotal where
  provider := row.provider
  serviceCode := row.serviceCode.text
  region := row.region.text
  month := monthSlice row.usageStart.text
  lineCount := 0
  usageQuantity := 0
  onDemandCostCents := 0
  realizedCostCents := 0
  commitmentAppliedCents := 0

def addRow (current : MutableTotal) (row : UsageLineItem) : MutableTotal :=
  { current with
    lineCount := current.lineCount + 1
    usageQuantity := current.usageQuantity + row.usageQuantity.scaled
    onDemandCostCents := current.onDemandCostCents + row.onDemandCostCents.value
    realizedCostCents := current.realizedCostCents + row.realizedCostCents.value
    commitmentAppliedCents := current.commitmentAppliedCents + row.commitmentAppliedCents.value }

def matchesTotal (actual : MutableTotal) (expected : ImportControlTotal) : Bool :=
  toString actual.lineCount == expected.lineCount.text &&
    scaledDecimalText actual.usageQuantity == expected.usageQuantity.text &&
    toString actual.onDemandCostCents == expected.onDemandCostCents.text &&
    toString actual.realizedCostCents == expected.realizedCostCents.text &&
    toString actual.commitmentAppliedCents == expected.commitmentAppliedCents.text

def controlTotalMismatch : Json := .object [("code", .string "IMPORT_CONTROL_TOTAL_MISMATCH")]

/-- `none` accepts the rows. -/
def validateControlTotals (rows : List UsageLineItem) (expected : List ImportControlTotal) :
    Option Json :=
  let actual := groupInto rowKey emptyTotal addRow rows
  let expectedMap := assignInto controlTotalKey expected
  if actual.entries.length ≠ expectedMap.entries.length then some controlTotalMismatch
  else if matchesEntries matchesTotal actual expectedMap then none
  else some controlTotalMismatch

end Comparison

section Meaning

/-- The group of a row: provider, service, region, and year and month in UTC. -/
abbrev Group := Provider × String × String × Int × Int

structure Sums where
  lineCount : Nat
  usageQuantity : Nat
  onDemandCostCents : Nat
  realizedCostCents : Nat
  commitmentAppliedCents : Nat
  deriving DecidableEq, Repr

def groupOf (row : UsageLineItem) : Group :=
  (row.provider, row.serviceCode.text, row.region.text, utcMonth row.usageStart.time)

def sumsOf (rows : List UsageLineItem) : Sums where
  lineCount := rows.length
  usageQuantity := (rows.map fun row => row.usageQuantity.scaled).sum
  onDemandCostCents := (rows.map fun row => row.onDemandCostCents.value).sum
  realizedCostCents := (rows.map fun row => row.realizedCostCents.value).sum
  commitmentAppliedCents := (rows.map fun row => row.commitmentAppliedCents.value).sum

/-- The exact sums of each group of the rows. -/
def exactTotals (rows : List UsageLineItem) : List (Group × Sums) :=
  (rows.map groupOf).dedup.map fun group => (group, sumsOf (rowsOf groupOf group rows))

def entryGroup (total : ImportControlTotal) : Group :=
  (total.provider, total.serviceCode.text, total.region.text, monthOf total.month.text.toList)

def entrySums (total : ImportControlTotal) : Sums where
  lineCount := total.lineCount.value
  usageQuantity := total.usageQuantity.scaled
  onDemandCostCents := total.onDemandCostCents.value
  realizedCostCents := total.realizedCostCents.value
  commitmentAppliedCents := total.commitmentAppliedCents.value

/-- What an entry of the request says. -/
def meaning (total : ImportControlTotal) : Group × Sums := (entryGroup total, entrySums total)

/-- As multisets, the entries are the exact sums of the groups. -/
def StatesExactSums (rows : List UsageLineItem) (totals : List ImportControlTotal) : Prop :=
  (totals.map meaning).Perm (exactTotals rows)

end Meaning

section Keys

theorem clean_plain (text : CleanText) : '\x00' ∉ text.text.toList := by
  intro member
  have control := List.any_eq_true.mpr ⟨'\x00', member, (rfl : isControl '\x00' = true)⟩
  rw [← hasControlCharacter, text.printable] at control
  cases control

theorem provider_plain (provider : Provider) : '\x00' ∉ (providerText provider).toList := by
  cases provider <;> decide

theorem provider_text_injective {left right : Provider}
    (same : providerText left = providerText right) : left = right := by
  cases left <;> cases right <;> first | rfl | (revert same; decide)

/-- Keys that are joined by a character none of their parts has. -/
theorem total_key_injective {left right : Provider} {service otherService region otherRegion :
    CleanText} {month otherMonth : String} :
    totalKey left service.text region.text month =
        totalKey right otherService.text otherRegion.text otherMonth ↔
      left = right ∧ service.text = otherService.text ∧ region.text = otherRegion.text ∧
        month = otherMonth := by
  have list : ∀ (provider : Provider) (service region month : String),
      (totalKey provider service region month).toList = (providerText provider).toList ++
        '\x00' :: (service.toList ++ '\x00' :: (region.toList ++ '\x00' :: month.toList)) := by
    intro provider service region month
    have separator : "\x00".toList = ['\x00'] := rfl
    simp only [totalKey, String.toList_append, List.append_assoc, separator, List.cons_append,
      List.nil_append]
  rw [← String.toList_inj, list, list,
    separated_inj (provider_plain left) (provider_plain right),
    separated_inj (clean_plain service) (clean_plain otherService),
    separated_inj (clean_plain region) (clean_plain otherRegion)]
  simp only [String.toList_inj]
  constructor
  · rintro ⟨provider, rest⟩
    exact ⟨provider_text_injective provider, rest⟩
  · rintro ⟨rfl, rest⟩
    exact ⟨rfl, rest⟩

theorem entry_key_eq_iff {left right : ImportControlTotal} :
    controlTotalKey left = controlTotalKey right ↔ entryGroup left = entryGroup right := by
  rw [controlTotalKey, controlTotalKey, total_key_injective]
  simp only [entryGroup, Prod.mk.injEq]
  have months : left.month.text = right.month.text ↔
      monthOf left.month.text.toList = monthOf right.month.text.toList := by
    constructor
    · intro same
      rw [same]
    · intro same
      exact String.toList_inj.mp (month_of_injective left.month.form right.month.form same)
  rw [months]

theorem row_key_eq_iff {row : UsageLineItem} {total : ImportControlTotal} :
    rowKey row = controlTotalKey total ↔ groupOf row = entryGroup total := by
  rw [rowKey, controlTotalKey, total_key_injective]
  simp only [groupOf, entryGroup, Prod.mk.injEq]
  have months : monthSlice row.usageStart.text = total.month.text ↔
      utcMonth row.usageStart.time = monthOf total.month.text.toList := by
    rw [← month_slice_eq_iff total.month.form, String.toList_inj]
    rfl
  rw [months]

/-- The rows of an entry's key are the rows of its group. -/
theorem rows_of_entry (rows : List UsageLineItem) (total : ImportControlTotal) :
    rowsOf rowKey (controlTotalKey total) rows = rowsOf groupOf (entryGroup total) rows := by
  unfold rowsOf
  congr 1
  funext row
  rw [decide_eq_decide]
  exact row_key_eq_iff

end Keys

section Acceptance

/-- The amounts of a running total. -/
def MutableTotal.sums (total : MutableTotal) : Sums where
  lineCount := total.lineCount
  usageQuantity := total.usageQuantity
  onDemandCostCents := total.onDemandCostCents
  realizedCostCents := total.realizedCostCents
  commitmentAppliedCents := total.commitmentAppliedCents

theorem sums_fold (rows : List UsageLineItem) (start : MutableTotal) :
    (rows.foldl addRow start).sums =
      { lineCount := start.lineCount + (sumsOf rows).lineCount
        usageQuantity := start.usageQuantity + (sumsOf rows).usageQuantity
        onDemandCostCents := start.onDemandCostCents + (sumsOf rows).onDemandCostCents
        realizedCostCents := start.realizedCostCents + (sumsOf rows).realizedCostCents
        commitmentAppliedCents :=
          start.commitmentAppliedCents + (sumsOf rows).commitmentAppliedCents } := by
  induction rows generalizing start with
  | nil => rfl
  | cons row rest induction =>
      rw [List.foldl_cons, induction]
      simp only [addRow, sumsOf, List.length_cons, List.map_cons, List.sum_cons, Sums.mk.injEq]
      omega

theorem total_of_sums {rows : List UsageLineItem} {key : String} {total : MutableTotal}
    (found : totalOf rowKey emptyTotal addRow key rows = some total) :
    total.sums = sumsOf (rowsOf rowKey key rows) := by
  unfold totalOf at found
  split at found
  case h_1 => cases found
  case h_2 first rest same =>
    obtain rfl := Option.some.inj found
    rw [same, sums_fold]
    simp [emptyTotal]

theorem matches_total_iff {actual : MutableTotal} {expected : ImportControlTotal} :
    matchesTotal actual expected = true ↔ actual.sums = entrySums expected := by
  simp only [matchesTotal, Bool.and_eq_true, beq_iff_eq, to_string_eq_unsigned,
    scaled_decimal_text_eq, MutableTotal.sums, entrySums, Sums.mk.injEq, and_assoc]

theorem mem_exact_totals {rows : List UsageLineItem} {group : Group} {sums : Sums} :
    (group, sums) ∈ exactTotals rows ↔
      (∃ row ∈ rows, groupOf row = group) ∧ sums = sumsOf (rowsOf groupOf group rows) := by
  simp only [exactTotals, List.mem_map, List.mem_dedup, Prod.mk.injEq]
  constructor
  · rintro ⟨_, ⟨row, member, rfl⟩, rfl, rfl⟩
    exact ⟨⟨row, member, rfl⟩, rfl⟩
  · rintro ⟨⟨row, member, rfl⟩, rfl⟩
    exact ⟨_, ⟨row, member, rfl⟩, rfl, rfl⟩

theorem exact_totals_groups (rows : List UsageLineItem) :
    ((exactTotals rows).map Prod.fst).Nodup := by
  have groups : (exactTotals rows).map Prod.fst = (rows.map groupOf).dedup := by
    simp [exactTotals, Function.comp_def]
  rw [groups]
  exact List.nodup_dedup _

/-- The entries that are left when only the last of each group is kept. -/
def lastEntries (totals : List ImportControlTotal) : List ImportControlTotal :=
  lastRows entryGroup totals

theorem last_rows_congr {Key Other Row : Type} [DecidableEq Key] [DecidableEq Other]
    {key : Row → Key} {other : Row → Other}
    (same : ∀ left right, key left = key right ↔ other left = other right) (rows : List Row) :
    lastRows key rows = lastRows other rows := by
  induction rows with
  | nil => rfl
  | cons row rest induction => simp only [lastRows, same, induction]

theorem last_entries_keys (totals : List ImportControlTotal) :
    lastRows controlTotalKey totals = lastEntries totals :=
  last_rows_congr (fun _ _ => entry_key_eq_iff) totals

theorem last_entries_nodup (totals : List ImportControlTotal) :
    ((lastEntries totals).map meaning).Nodup := by
  refine List.Nodup.of_map Prod.fst ?_
  rw [List.map_map]
  exact last_rows_keys_nodup entryGroup totals

/-- The two maps agree at every key. -/
def KeysAgree (rows : List UsageLineItem) (totals : List ImportControlTotal) (key : String) :
    Prop :=
  (totalOf rowKey emptyTotal addRow key rows = none ∧
      (assignInto controlTotalKey totals).lookup key = none) ∨
    ∃ total entry, totalOf rowKey emptyTotal addRow key rows = some total ∧
      (assignInto controlTotalKey totals).lookup key = some entry ∧
      matchesTotal total entry = true

theorem validate_none_iff {rows : List UsageLineItem} {totals : List ImportControlTotal} :
    validateControlTotals rows totals = none ↔ ∀ key, KeysAgree rows totals key := by
  have compared := @same_size_and_matches_iff _ _ _ _ matchesTotal
    (groupInto rowKey emptyTotal addRow rows) (assignInto controlTotalKey totals)
  simp only [lookup_group_into] at compared
  unfold KeysAgree
  rw [← compared, validateControlTotals]
  split_ifs with sizes matched
  · simp [sizes]
  · simp [not_not.mp sizes, matched]
  · simp [matched]

theorem total_of_some_of_row {rows : List UsageLineItem} {row : UsageLineItem}
    (member : row ∈ rows) : ∃ total, totalOf rowKey emptyTotal addRow (rowKey row) rows =
      some total := by
  cases found : totalOf rowKey emptyTotal addRow (rowKey row) rows with
  | none => exact absurd rfl ((total_of_eq_none _ _ _).mp found row member)
  | some total => exact ⟨total, rfl⟩

/-- The rows are accepted exactly when the last entries of the groups state the
exact sums. -/
theorem validate_none_iff_last_entries {rows : List UsageLineItem}
    {totals : List ImportControlTotal} :
    validateControlTotals rows totals = none ↔ StatesExactSums rows (lastEntries totals) := by
  have sameMembers : StatesExactSums rows (lastEntries totals) ↔
      ∀ item, item ∈ (lastEntries totals).map meaning ↔ item ∈ exactTotals rows :=
    List.perm_ext_iff_of_nodup (last_entries_nodup totals)
      (List.Nodup.of_map Prod.fst (exact_totals_groups rows))
  rw [validate_none_iff, sameMembers]
  constructor
  · rintro agree ⟨group, sums⟩
    rw [mem_exact_totals]
    constructor
    · intro stated
      obtain ⟨entry, member, same⟩ := List.mem_map.mp stated
      obtain ⟨rfl, rfl⟩ := Prod.mk.inj same
      have held : (assignInto controlTotalKey totals).lookup (controlTotalKey entry) =
          some entry := (mem_last_rows_iff _).mp (by rwa [last_entries_keys])
      rcases agree (controlTotalKey entry) with ⟨_, missing⟩ | ⟨total, other, found, matched, equal⟩
      · rw [held] at missing
        cases missing
      · rw [held] at matched
        obtain rfl := Option.some.inj matched
        have sums := total_of_sums found
        rw [matches_total_iff.mp equal, rows_of_entry] at sums
        refine ⟨?_, sums⟩
        by_contra absent
        simp only [not_exists, not_and] at absent
        have none : totalOf rowKey emptyTotal addRow (controlTotalKey entry) rows = none := by
          refine (total_of_eq_none _ _ _).mpr fun row rowMember same => ?_
          exact absent row rowMember (row_key_eq_iff.mp same)
        rw [none] at found
        cases found
    · rintro ⟨⟨row, rowMember, rfl⟩, rfl⟩
      obtain ⟨total, found⟩ := total_of_some_of_row rowMember
      rcases agree (rowKey row) with ⟨absent, _⟩ | ⟨other, entry, same, matched, equal⟩
      · rw [found] at absent
        cases absent
      · obtain ⟨entryMember, sameKey⟩ := (lookup_assign_some _).mp matched
        rw [last_entries_keys] at entryMember
        have group := row_key_eq_iff.mp sameKey.symm
        refine List.mem_map.mpr ⟨entry, entryMember, ?_⟩
        have sums := total_of_sums same
        rw [matches_total_iff.mp equal, ← sameKey, rows_of_entry, ← group] at sums
        rw [meaning, sums, group]
  · intro members key
    cases found : totalOf rowKey emptyTotal addRow key rows with
    | none =>
        refine Or.inl ⟨found, ?_⟩
        cases held : (assignInto controlTotalKey totals).lookup key with
        | none => rfl
        | some entry =>
            obtain ⟨entryMember, rfl⟩ := (lookup_assign_some _).mp held
            rw [last_entries_keys] at entryMember
            obtain ⟨⟨row, rowMember, group⟩, _⟩ := mem_exact_totals.mp
              ((members (meaning entry)).mp (List.mem_map.mpr ⟨entry, entryMember, rfl⟩))
            exact absurd (row_key_eq_iff.mpr group)
              ((total_of_eq_none _ _ _).mp found row rowMember)
    | some total =>
        obtain ⟨row, rowMember, rfl⟩ : ∃ row ∈ rows, rowKey row = key := by
          by_contra absent
          simp only [not_exists, not_and] at absent
          rw [(total_of_eq_none rowKey emptyTotal addRow).mpr absent] at found
          cases found
        obtain ⟨entry, entryMember, same⟩ := List.mem_map.mp
          ((members (groupOf row, sumsOf (rowsOf groupOf (groupOf row) rows))).mpr
            (mem_exact_totals.mpr ⟨⟨row, rowMember, rfl⟩, rfl⟩))
        obtain ⟨group, sums⟩ := Prod.mk.inj same
        have sameKey : rowKey row = controlTotalKey entry := row_key_eq_iff.mpr group.symm
        refine Or.inr ⟨total, entry, found, ?_, matches_total_iff.mpr ?_⟩
        · rw [sameKey]
          exact (mem_last_rows_iff _).mp (by rwa [last_entries_keys])
        · rw [total_of_sums found, sums, sameKey, rows_of_entry, group]

theorem groups_nodup_of_exact {rows : List UsageLineItem} {totals : List ImportControlTotal}
    (exact : StatesExactSums rows totals) : (totals.map entryGroup).Nodup := by
  have groups : (totals.map meaning).map Prod.fst = totals.map entryGroup := by
    rw [List.map_map]
    rfl
  rw [← groups]
  exact (exact.map Prod.fst).nodup_iff.mpr (exact_totals_groups rows)

/-- Rows are accepted exactly when the entries are the exact sums, unless a group
is entered repeatedly and its last entries alone are the exact sums. -/
theorem accepts_exact_sums_iff (rows : List UsageLineItem) (totals : List ImportControlTotal) :
    (validateControlTotals rows totals = none ↔ StatesExactSums rows totals) ↔
      ((totals.map entryGroup).Nodup ∨ ¬ StatesExactSums rows (lastEntries totals)) := by
  by_cases nodup : (totals.map entryGroup).Nodup
  · have all : lastEntries totals = totals := last_rows_of_nodup entryGroup nodup
    have accepted := @validate_none_iff_last_entries rows totals
    rw [all] at accepted
    exact iff_of_true accepted (Or.inl nodup)
  · have inexact : ¬ StatesExactSums rows totals := fun exact => nodup (groups_nodup_of_exact exact)
    rw [validate_none_iff_last_entries]
    simp [nodup, inexact]

end Acceptance

section Example

def exampleText (text : String) (trimmed : jsTrim text.toList = text.toList := by decide)
    (nonempty : text.toList ≠ [] := by decide)
    (printable : hasControlCharacter text.toList = false := by decide) : CleanText :=
  ⟨text, trimmed, nonempty, printable⟩

/-- One hour of an instance in February 2024. -/
def exampleRow : UsageLineItem where
  provider := .aws
  serviceCode := exampleText "AmazonEC2"
  sku := exampleText "BoxUsage:m5.large"
  region := exampleText "eu-west-1"
  usageStart := ⟨1709164800000, by decide⟩
  usageEnd := ⟨1709168400000, by decide⟩
  usageQuantity := ⟨"1.00000000", by decide⟩
  usageUnit := exampleText "Hrs"
  onDemandCostCents := ⟨"11", by decide⟩
  realizedCostCents := ⟨"7", by decide⟩
  commitmentAppliedCents := ⟨"4", by decide⟩
  tags := []
  period := by decide
  allocated := by decide

/-- An entry for the group of `exampleRow` that claims so many lines. -/
def exampleEntry (lines : String) : Json := .object
  [("provider", .string "aws"), ("service_code", .string "AmazonEC2"),
   ("region", .string "eu-west-1"), ("month", .string "2024-02"), ("line_count", .string lines),
   ("usage_quantity", .string "1.00000000"), ("on_demand_cost_cents", .string "11"),
   ("realized_cost_cents", .string "7"), ("commitment_applied_cents", .string "4")]

end Example

/-- The first entry contradicts the rows, and they are accepted. -/
theorem contradicted_entry_ignored :
    ¬ ∀ (normalize : List Char → List Char) (values : List Json)
        (totals : List ImportControlTotal) (rows : List UsageLineItem),
      controlTotals normalize values = some totals → rows ≠ [] →
      (validateControlTotals rows totals = none ↔ StatesExactSums rows totals) := by
  intro always
  have accepted : (controlTotals id [exampleEntry "9", exampleEntry "1"]).any (fun totals =>
      decide (validateControlTotals [exampleRow] totals = none ∧
        ¬ (totals.map entryGroup).Nodup)) = true := by decide
  obtain ⟨totals, passed, facts⟩ := (Option.any_eq_true _ _).mp accepted
  obtain ⟨none, repeated⟩ := of_decide_eq_true facts
  exact repeated (groups_nodup_of_exact
    ((always id _ totals [exampleRow] passed (by simp)).mp none))

end CommitmentOptimizer.Imports.ControlTotals
