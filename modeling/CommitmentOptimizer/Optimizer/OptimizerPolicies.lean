import Mathlib.Algebra.BigOperators.Group.List.Basic
import CommitmentOptimizer.Imports.ControlTotals
import CommitmentOptimizer.Imports.UsageParsers
import CommitmentOptimizer.Optimizer.OptimizerWorker

/-!
# Optimizer policies

The parser of `optimizer-policies-input.ts`, the columns that `create` and `patch` of
`optimizer-policies-repository.ts` write, and what a run reads of them.
-/

namespace CommitmentOptimizer.Optimizer.OptimizerPolicies

open Foundations
open Foundations.BigIntText
open Foundations.CalendarDates
open Foundations.IsoInstants
open Foundations.JsonText
open Foundations.SqlConstraints
open Imports.ControlTotals
open Imports.UsageParsers (foldCase)
open Imports.UsageRows
open Recommendations.RecommendationLifecycle
open Candidates
open OptimizerRunCreation

set_option autoImplicit false

/-- `normalize` is NFC, `numberText` the text of a finite number. -/
structure PolicyRuntime where
  normalize : List Char → List Char
  numberText : Rat → List Char

section Readers

/-- The number whose text is returned. -/
def unsignedBigint : Option Json → Option Nat
  | some (.string value) =>
      if isUnsignedInteger value.toList then
        let parsed := digitsValue value.toList
        if 9223372036854775807 < parsed then none else some parsed
      else none
  | _ => none

/-- `UTILIZATION_GAP_PATTERN`: `^(?:100(?:\.0{1,2})?|[0-9]{1,2}(?:\.[0-9]{1,2})?)$`. -/
def isUtilizationGap (text : List Char) : Bool :=
  let (whole, fraction) := splitPoint text
  ((text = whole && fraction = []) ||
    (text = whole ++ '.' :: fraction && 1 ≤ fraction.length && fraction.length ≤ 2)) &&
  ((whole = ['1', '0', '0'] && fraction.all (· = '0')) ||
    (1 ≤ whole.length && whole.length ≤ 2 && whole.all Char.isDigit && fraction.all Char.isDigit))

/-- `Number(value).toFixed(2)`, in hundredths. -/
def utilizationGap : Option Json → Option Nat
  | some (.string value) =>
      if isUtilizationGap value.toList then
        let (whole, fraction) := splitPoint value.toList
        some (digitsValue whole * 100 +
          digitsValue (fraction ++ List.replicate (2 - fraction.length) '0'))
      else none
  | _ => none

def objective : Option Json → Option String
  | some (.string value) =>
      if ["maximize_expected_savings", "minimize_downside_loss", "efficient_frontier"].contains
        value then some value else none
  | _ => none

def status : Option Json → Option OptimizerPolicyStatus
  | some (.string "draft") => some .draft
  | some (.string "active") => some .active
  | some (.string "archived") => some .archived
  | _ => none

def instrument : Json → Option Instrument
  | .string "aws_compute_savings_plan" => some .awsComputeSavingsPlan
  | .string "aws_reserved_instance" => some .awsReservedInstance
  | .string "azure_savings_plan" => some .azureSavingsPlan
  | .string "azure_reservation" => some .azureReservation
  | .string "gcp_committed_use_discount" => some .gcpCommittedUseDiscount
  | _ => none

def allowedInstruments : Option Json → Option (List Instrument)
  | some (.array values) =>
      if 1 ≤ values.length ∧ values.length ≤ 5 then
        (values.mapM instrument).filter fun instruments => instruments.Nodup
      else none
  | _ => none

def secretWords : List String :=
  ["credential", "password", "secret", "token", "raw_file", "raw_bytes", "raw_row"]

/-- `/credentials?|password|secret|token|raw_(?:file|bytes|row|rows)/iu.test(text)`. -/
def namesSecret (text : List Char) : Bool :=
  secretWords.any fun word => decide (word.toList <:+: text.map foldCase)

variable (runtime : PolicyRuntime)

def configObject : Option Json → Option Json
  | some (.object fields) =>
      let encoded := jsonText runtime.numberText (.object fields)
      if 65536 < utf16Length encoded ∨ namesSecret encoded then none else some (.object fields)
  | _ => none

end Readers

section Bodies

structure OptimizerPolicyCreateInput where
  name : CleanText
  objective : String
  maxDownsideLossCents : Nat
  minExpectedSavingsCents : Nat
  maxUtilizationGapBps : Nat
  approvalThresholdCents : Nat
  allowedInstruments : List Instrument
  config : Json
  deriving DecidableEq

/-- A field that the body does not have is `none`. -/
structure OptimizerPolicyPatchInput where
  name : Option CleanText
  objective : Option String
  maxDownsideLossCents : Option Nat
  minExpectedSavingsCents : Option Nat
  maxUtilizationGapBps : Option Nat
  approvalThresholdCents : Option Nat
  allowedInstruments : Option (List Instrument)
  config : Option Json
  status : Option OptimizerPolicyStatus

def createFields : List String :=
  ["name", "objective", "max_downside_loss_cents", "min_expected_savings_cents",
    "max_utilization_gap_pct", "approval_threshold_cents", "allowed_instruments", "config"]

def patchFields : List String := createFields ++ ["status"]

variable (runtime : PolicyRuntime)

/-- `none` where the source throws `invalid()`. -/
def parseOptimizerPolicyCreateBody (body : Json) : Option OptimizerPolicyCreateInput :=
  if closedRecord createFields body && createFields.all fun key => (body.field key).isSome then do
    return {
      name := ← cleanText runtime.normalize 200 (body.field "name")
      objective := ← objective (body.field "objective")
      maxDownsideLossCents := ← unsignedBigint (body.field "max_downside_loss_cents")
      minExpectedSavingsCents := ← unsignedBigint (body.field "min_expected_savings_cents")
      maxUtilizationGapBps := ← utilizationGap (body.field "max_utilization_gap_pct")
      approvalThresholdCents := ← unsignedBigint (body.field "approval_threshold_cents")
      allowedInstruments := ← allowedInstruments (body.field "allowed_instruments")
      config := ← configObject runtime (body.field "config") }
  else none

/-- `value === undefined ? {} : { key: read(value) }`. -/
def present {Value : Type} (read : Option Json → Option Value) (body : Json) (key : String) :
    Option (Option Value) :=
  match body.field key with
  | none => some none
  | some value => (read (some value)).map some

def parseOptimizerPolicyPatchBody (body : Json) : Option OptimizerPolicyPatchInput :=
  if closedRecord patchFields body && body ≠ .object [] then do
    return {
      name := ← present (cleanText runtime.normalize 200) body "name"
      objective := ← present objective body "objective"
      maxDownsideLossCents := ← present unsignedBigint body "max_downside_loss_cents"
      minExpectedSavingsCents := ← present unsignedBigint body "min_expected_savings_cents"
      maxUtilizationGapBps := ← present utilizationGap body "max_utilization_gap_pct"
      approvalThresholdCents := ← present unsignedBigint body "approval_threshold_cents"
      allowedInstruments := ← present allowedInstruments body "allowed_instruments"
      config := ← present (configObject runtime) body "config"
      status := ← present status body "status" }
  else none

end Bodies

section Rows

/-- The row of `INSERT INTO optimizer_policies`. -/
def createdPolicy (id tenantId : Uuid) (input : OptimizerPolicyCreateInput) : OptimizerPolicy where
  id := id
  tenantId := tenantId
  status := .draft
  objective := input.objective
  maxDownsideLossCents := input.maxDownsideLossCents
  minExpectedSavingsCents := input.minExpectedSavingsCents
  maxUtilizationGapBps := input.maxUtilizationGapBps
  approvalThresholdCents := input.approvalThresholdCents
  allowedInstruments := input.allowedInstruments
  config := input.config

/-- `SET column = COALESCE($n, column)`. -/
def patchedPolicy (row : OptimizerPolicy) (input : OptimizerPolicyPatchInput) :
    OptimizerPolicy where
  id := row.id
  tenantId := row.tenantId
  status := input.status.getD row.status
  objective := input.objective.getD row.objective
  maxDownsideLossCents := (input.maxDownsideLossCents.map Int.ofNat).getD row.maxDownsideLossCents
  minExpectedSavingsCents :=
    (input.minExpectedSavingsCents.map Int.ofNat).getD row.minExpectedSavingsCents
  maxUtilizationGapBps := input.maxUtilizationGapBps.getD row.maxUtilizationGapBps
  approvalThresholdCents :=
    (input.approvalThresholdCents.map Int.ofNat).getD row.approvalThresholdCents
  allowedInstruments := input.allowedInstruments.getD row.allowedInstruments
  config := input.config.getD row.config

/-- The policies that requests can have stored. The lifecycle trigger of the table
refuses some of the changes. -/
inductive StoredPolicy (runtime : PolicyRuntime) : OptimizerPolicy → Prop where
  | created (id tenantId : Uuid) (body : Json) (input : OptimizerPolicyCreateInput) :
      parseOptimizerPolicyCreateBody runtime body = some input →
      StoredPolicy runtime (createdPolicy id tenantId input)
  | patched (row : OptimizerPolicy) (body : Json) (input : OptimizerPolicyPatchInput) :
      StoredPolicy runtime row → parseOptimizerPolicyPatchBody runtime body = some input →
      StoredPolicy runtime (patchedPolicy row input)

end Rows

section Ranges

/-- An amount that the parser accepts. -/
def isPolicyCents (value : Int) : Prop := 0 ≤ value ∧ value ≤ 9223372036854775807

/-- The ranges of the columns, which the table checks too. -/
structure PolicyInRange (row : OptimizerPolicy) : Prop where
  maxDownsideLoss : isPolicyCents row.maxDownsideLossCents
  minExpectedSavings : isPolicyCents row.minExpectedSavingsCents
  approvalThreshold : isPolicyCents row.approvalThresholdCents
  maxUtilizationGap : row.maxUtilizationGapBps ≤ 10000

variable {runtime : PolicyRuntime}

theorem unsigned_bigint_range {value : Option Json} {cents : Nat}
    (accepted : unsignedBigint value = some cents) : isPolicyCents cents := by
  unfold unsignedBigint at accepted
  split at accepted
  · dsimp only at accepted
    split_ifs at accepted with _ bounded
    obtain rfl := Option.some.inj accepted
    exact ⟨Int.natCast_nonneg _, Int.ofNat_le.mpr (not_lt.mp bounded)⟩
  · cases accepted

theorem digits_value_all_zeros {digits : List Char} (zeros : ∀ digit ∈ digits, digit = '0') :
    digitsValue digits = 0 := by
  have same : digits = List.replicate digits.length '0' ++ [] := by
    rw [List.append_nil]
    exact List.eq_replicate_iff.mpr ⟨rfl, zeros⟩
  rw [same, digits_value_zeros]
  rfl

/-- The pattern admits what `NUMERIC(5,2)` and the check of the table hold. -/
theorem utilization_gap_range {value : Option Json} {bps : Nat}
    (accepted : utilizationGap value = some bps) : bps ≤ 10000 := by
  unfold utilizationGap at accepted
  split at accepted
  · rename_i text
    dsimp only at accepted
    split_ifs at accepted with form
    obtain rfl := Option.some.inj accepted
    unfold isUtilizationGap at form
    dsimp only at form
    generalize (splitPoint text.toList).1 = whole at form ⊢
    generalize (splitPoint text.toList).2 = fraction at form ⊢
    simp only [Bool.and_eq_true, Bool.or_eq_true, decide_eq_true_eq, List.all_eq_true] at form
    obtain ⟨split, ⟨rfl, zeros⟩ | ⟨⟨⟨_, short⟩, wholeDigits⟩, fractionDigits⟩⟩ := form
    · have none : digitsValue (fraction ++ List.replicate (2 - fraction.length) '0') = 0 := by
        apply digits_value_all_zeros
        intro digit member
        rcases List.mem_append.mp member with early | padded
        · exact zeros digit early
        · exact (List.mem_replicate.mp padded).2
      rw [none]
      decide
    · have length : (fraction ++ List.replicate (2 - fraction.length) '0').length = 2 := by
        have atMost : fraction.length ≤ 2 := by
          rcases split with ⟨_, rfl⟩ | ⟨_, bounded⟩
          · exact Nat.zero_le 2
          · exact bounded
        rw [List.length_append, List.length_replicate]
        omega
      have below := @digits_value_lt (fraction ++ List.replicate (2 - fraction.length) '0')
        (fun digit member => by
          rcases List.mem_append.mp member with early | padded
          · exact fractionDigits digit early
          · rw [(List.mem_replicate.mp padded).2]
            rfl)
      have wholeBelow := digits_value_lt wholeDigits
      have hundred : 10 ^ whole.length ≤ 10 ^ 2 := Nat.pow_le_pow_right (by decide) short
      rw [length] at below
      omega
  · cases accepted

theorem created_policy_in_range {id tenantId : Uuid} {body : Json}
    {input : OptimizerPolicyCreateInput}
    (accepted : parseOptimizerPolicyCreateBody runtime body = some input) :
    PolicyInRange (createdPolicy id tenantId input) := by
  unfold parseOptimizerPolicyCreateBody at accepted
  split_ifs at accepted
  simp only [Option.bind_eq_bind, Option.bind_eq_some_iff] at accepted
  obtain ⟨_, _, _, _, _, loss, _, savings, _, gap, _, threshold, _, _, _, _, same⟩ := accepted
  obtain rfl := Option.some.inj same
  exact ⟨unsigned_bigint_range loss, unsigned_bigint_range savings,
    unsigned_bigint_range threshold, utilization_gap_range gap⟩

theorem present_some {Value : Type} {read : Option Json → Option Value} {body : Json}
    {key : String} {value : Value} (accepted : present read body key = some (some value)) :
    ∃ sent, read sent = some value := by
  unfold present at accepted
  split at accepted
  · cases accepted
  · rename_i sent _
    obtain ⟨_, isRead, same⟩ := Option.map_eq_some_iff.mp accepted
    exact ⟨some sent, isRead.trans same⟩

/-- A patched amount is one of the request or the one before. -/
theorem patched_cents_range {body : Json} {key : String} {sent : Option Nat} {before : Int}
    (accepted : present unsignedBigint body key = some sent) (inRange : isPolicyCents before) :
    isPolicyCents ((sent.map Int.ofNat).getD before) := by
  cases sent with
  | none => exact inRange
  | some cents =>
      obtain ⟨_, isRead⟩ := present_some accepted
      exact unsigned_bigint_range isRead

theorem patched_policy_in_range {row : OptimizerPolicy} {body : Json}
    {input : OptimizerPolicyPatchInput} (inRange : PolicyInRange row)
    (accepted : parseOptimizerPolicyPatchBody runtime body = some input) :
    PolicyInRange (patchedPolicy row input) := by
  unfold parseOptimizerPolicyPatchBody at accepted
  split_ifs at accepted
  simp only [Option.bind_eq_bind, Option.bind_eq_some_iff] at accepted
  obtain ⟨_, _, _, _, _, loss, _, savings, sentGap, gap, _, threshold, _, _, _, _, _, _, same⟩ :=
    accepted
  obtain rfl := Option.some.inj same
  refine ⟨patched_cents_range loss inRange.maxDownsideLoss,
    patched_cents_range savings inRange.minExpectedSavings,
    patched_cents_range threshold inRange.approvalThreshold, ?_⟩
  cases sentGap with
  | none => exact inRange.maxUtilizationGap
  | some bps =>
      obtain ⟨_, isRead⟩ := present_some gap
      exact utilization_gap_range isRead

theorem stored_policy_in_range {row : OptimizerPolicy} (stored : StoredPolicy runtime row) :
    PolicyInRange row := by
  induction stored with
  | created id tenantId body input accepted => exact created_policy_in_range accepted
  | patched row body input _ accepted inRange => exact patched_policy_in_range inRange accepted

end Ranges

section Snapshots

/-- What the worker reads of the snapshot of a policy. -/
def snapshotOf (row : OptimizerPolicy) : PolicySnapshot where
  maxDownsideLossCents := row.maxDownsideLossCents
  minExpectedSavingsCents := row.minExpectedSavingsCents
  maxUtilizationGapBps := row.maxUtilizationGapBps
  approvalThresholdCents := row.approvalThresholdCents
  liquidityPenaltyBps := integerAt row.config "liquidity_penalty_bps" 0

theorem big_int_of_cents {value : Int} (nonneg : 0 ≤ value) :
    bigIntOfString (toString value) = some value := by
  obtain ⟨number, rfl⟩ := Int.eq_ofNat_of_zero_le nonneg
  exact big_int_of_nat number

theorem decimal_percent_to_bps_digits {whole fraction : String} (wholeSome : whole.toList ≠ [])
    (two : fraction.toList.length = 2) (wholeDigits : ∀ digit ∈ whole.toList, digit.isDigit = true)
    (fractionDigits : ∀ digit ∈ fraction.toList, digit.isDigit = true) :
    decimalPercentToBps (whole ++ "." ++ fraction) =
      some (digitsValue whole.toList * 100 + digitsValue fraction.toList : Int) := by
  have noPoint : ∀ digits : List Char, (∀ digit ∈ digits, digit.isDigit = true) →
      '.' ∉ digits := by
    intro digits each member
    exact absurd (each _ member) (by decide)
  have parts : (whole ++ "." ++ fraction).toList.splitOn '.' =
      [whole.toList, fraction.toList] := by
    rw [String.toList_append, String.toList_append, List.append_assoc]
    change (whole.toList ++ '.' :: fraction.toList).splitOn '.' = _
    rw [List.splitOn_append_cons_self_of_not_mem (noPoint _ wholeDigits),
      List.splitOn_eq_singleton_of_beq_eq_false]
    intro digit member
    refine beq_false_of_ne ?_
    rintro rfl
    exact noPoint _ fractionDigits member
  have wide : 2 ≤ utf16Length fraction.toList := by
    have each : ∀ character ∈ fraction.toList,
        1 ≤ (if character.toNat < 0x10000 then 1 else 2) := by
      intro character _
      split_ifs <;> decide
    have sum := List.length_le_sum_of_one_le (fraction.toList.map fun character =>
      if character.toNat < 0x10000 then 1 else 2) (by simpa using each)
    rwa [List.length_map, two] at sum
  have kept : (fraction.toList ++ List.replicate (2 - utf16Length fraction.toList) '0').take 2 =
      fraction.toList := by
    rw [Nat.sub_eq_zero_of_le wide, List.replicate_zero, List.append_nil]
    exact List.take_of_length_le two.le
  have fractionSome : fraction.toList ≠ [] := by
    intro empty
    rw [empty] at two
    cases two
  rw [decimalPercentToBps]
  simp only [parts, List.headD_cons, List.getD_cons_succ, List.getD_cons_zero, kept,
    String.ofList_toList, big_int_of_digits wholeSome wholeDigits,
    big_int_of_digits fractionSome fractionDigits, Option.bind_eq_bind, Option.bind_some]
  rfl

/-- `to_char(value, 'FM990.00')` reads back. -/
theorem percent_text_read (bps : Nat) :
    decimalPercentToBps (toString (bps / 100) ++ "." ++ padZeros 2 (toString (bps % 100))) =
      some (bps : Int) := by
  have short : bps % 100 < 10 ^ 2 := Nat.mod_lt bps (by decide)
  rw [decimal_percent_to_bps_digits (by rw [to_string_list]; exact Nat.toDigits_ne_nil)
    (pad_zeros_length (by decide) short) (digits_of_nat _)
    (pad_zeros_digits 2 _), digits_value_to_string, pad_zeros_value]
  congr 1
  omega

/-- The snapshot of a run keeps the policy as the parser accepted it. -/
theorem policy_snapshot_read {resolved : ResolvedInputs} (inRange : PolicyInRange resolved.policy)
    (runId : Uuid) (input : OptimizerRunCreateInput) (randomSeed : Int) :
    Candidates.policySnapshot (inputSnapshot runId input resolved randomSeed) =
      some (snapshotOf resolved.policy) := by
  have policy : objectAt (inputSnapshot runId input resolved randomSeed) "policy" =
      policyJson resolved.policy := by
    simp [objectAt, inputSnapshot, Json.field, policyJson, List.lookup_cons]
  have config : integerAt (objectAt (policyJson resolved.policy) "config")
      "liquidity_penalty_bps" 0 = integerAt resolved.policy.config "liquidity_penalty_bps" 0 := by
    have field : (policyJson resolved.policy).field "config" = some resolved.policy.config := by
      simp [Json.field, policyJson, List.lookup_cons]
    rw [objectAt, field]
    cases resolved.policy.config <;> rfl
  have texts : stringAt (policyJson resolved.policy) "maxDownsideLossCents" =
        toString resolved.policy.maxDownsideLossCents ∧
      stringAt (policyJson resolved.policy) "minExpectedSavingsCents" =
        toString resolved.policy.minExpectedSavingsCents ∧
      stringAt (policyJson resolved.policy) "maxUtilizationGapPct" =
        toString (resolved.policy.maxUtilizationGapBps / 100) ++ "." ++
          padZeros 2 (toString (resolved.policy.maxUtilizationGapBps % 100)) ∧
      stringAt (policyJson resolved.policy) "approvalThresholdCents" =
        toString resolved.policy.approvalThresholdCents := by
    simp [stringAt, policyJson, Json.field, List.lookup_cons, centsText, percentText]
  obtain ⟨loss, savings, gap, threshold⟩ := texts
  rw [Candidates.policySnapshot]
  simp only [policy, config, loss, savings, gap, threshold, percent_text_read,
    big_int_of_cents inRange.maxDownsideLoss.1, big_int_of_cents inRange.minExpectedSavings.1,
    big_int_of_cents inRange.approvalThreshold.1, Option.bind_eq_bind, Option.bind_some]
  rfl

end Snapshots

section Example

def exampleRuntime : PolicyRuntime where
  normalize := id
  numberText := fun _ => ['0']

/-- The body of a request; `config` is the object with the fields. -/
def exampleBody (maxLoss maxGap : String) (config : List (String × Json)) : Json := .object
  [("name", .string "Base"), ("objective", .string "maximize_expected_savings"),
   ("max_downside_loss_cents", .string maxLoss), ("min_expected_savings_cents", .string "0"),
   ("max_utilization_gap_pct", .string maxGap), ("approval_threshold_cents", .string "0"),
   ("allowed_instruments", .array [.string "aws_compute_savings_plan"]),
   ("config", .object config)]

def exampleInput (maxLoss maxGapBps : Nat) (config : List (String × Json)) :
    OptimizerPolicyCreateInput where
  name :=
    { text := "Base"
      trimmed := by decide
      nonempty := by decide
      printable := by decide }
  objective := "maximize_expected_savings"
  maxDownsideLossCents := maxLoss
  minExpectedSavingsCents := 0
  maxUtilizationGapBps := maxGapBps
  approvalThresholdCents := 0
  allowedInstruments := [.awsComputeSavingsPlan]
  config := .object config

def exampleResolved (policy : OptimizerPolicy) : ResolvedInputs where
  forecast :=
    { id := 1
      tenantId := 1
      forecastModelId := 1
      inputWindowStart := 0
      inputWindowEnd := 0
      horizonMonths := 1
      randomSeed := 0
      createdAt := 0
      status := .completed
      outputUri := some "forecasts/1.json"
      qualityMetrics := .object []
      errorDetails := .object []
      updatedAt := 0 }
  policy := policy
  scenario := none
  prices := []

def exampleCreate : OptimizerRunCreateInput where
  forecastRunId := 1
  scenarioId := none
  optimizerPolicyId := 1
  provider := .aws
  instrument := .awsComputeSavingsPlan
  priceTableVersionIds := none

example : parseOptimizerPolicyCreateBody exampleRuntime (exampleBody "100" "20" []) =
    some (exampleInput 100 2000 []) := by
  decide

example : parseOptimizerPolicyCreateBody exampleRuntime (exampleBody "0100" "20" []) = none := by
  decide

end Example

end CommitmentOptimizer.Optimizer.OptimizerPolicies
