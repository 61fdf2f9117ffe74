import CommitmentOptimizer.Foundations.JsonText
import CommitmentOptimizer.Optimizer.KernelAgreement

/-!
# A request of the economic kernel

`process` of the Zig kernel (`contract.zig`, `json_contract.zig`) on the bytes of
one request. The kernel is built with safety checks, so an overflow, a division by
zero or a missing value ends the process.
-/

namespace CommitmentOptimizer.Optimizer.KernelProcess

open Foundations
open Foundations.BigIntText
open Foundations.JsonText
open EconomicKernel
open KernelAgreement

set_option autoImplicit false

/-- An error is handled by the caller; a failed safety check is not. -/
inductive Failure where
  | error
  | abort
  deriving DecidableEq, Repr

section Requests

def contractVersion : String := "economic-kernel-cli/v1"

def envelopeKeys : List String := ["command", "contract_version", "payload", "request_id"]

def casePayloadKeys : List String := ["case"]

def encodeUtf8 (text : List Char) : List UInt8 := text.flatMap String.utf8EncodeChar

mutual

/-- `validateCanonicalValue`; UTF-8 orders texts as their characters do. -/
def canonicalValue : Json → Bool
  | .number _ => false
  | .null | .bool _ | .string _ => true
  | .array items => canonicalItems items
  | .object fields => canonicalFields none fields

def canonicalItems : List Json → Bool
  | [] => true
  | item :: rest => canonicalValue item && canonicalItems rest

def canonicalFields (previous : Option String) : List (String × Json) → Bool
  | [] => true
  | (key, value) :: rest =>
      previous.all (· < key) && canonicalValue value && canonicalFields (some key) rest

end

/-- No number is left to write. -/
def writeCanonical (value : Json) : List Char := jsonText (fun _ => []) value

/-- `parseFromSlice` is the standard library's reader of JSON text. -/
def parseCanonical (parseFromSlice : List UInt8 → Option Json) (input : List UInt8) :
    Option Json :=
  let body := input.dropLast
  if input.length < 3 ∨ 1024 * 1024 < input.length then none
  else if input.getLast? ≠ some 10 ∨ body.getLast? = some 10 then none
  else if input.contains 13 then none
  else match parseFromSlice body with
    | none => none
    | some value =>
        if canonicalValue value && encodeUtf8 (writeCanonical value) == body then some value
        else none

def isControl (character : Char) : Bool := character.toNat < 32 || character.toNat == 127

def validRequestId (value : String) : Bool :=
  value.utf8ByteSize ≠ 0 && value.utf8ByteSize ≤ 128 && value.toList.all (!isControl ·)

def validEnvelope (value : Json) : Bool :=
  exactObject envelopeKeys value &&
    match value.field "command", value.field "contract_version", value.field "payload",
      value.field "request_id" with
    | some (.string _), some (.string version), some (.object _), some (.string requestId) =>
        version == contractVersion && validRequestId requestId
    | _, _, _, _ => false

end Requests

section Answers

structure Outcome where
  stdout : String
  exitCode : Nat
  deriving DecidableEq, Repr

def stringify (text : String) : String := String.ofList (quoted text)

def invalid (code : String) : Outcome where
  stdout := "\x7b\"contract_version\":\"economic-kernel-cli/v1\",\"error\":\x7b\"code\":\"" ++
    code ++ "\",\"message\":\"" ++
    (if code = "INVALID_COMMAND" then "Command is not supported by this CLI contract."
      else "Request does not match the canonical CLI contract.") ++
    "\"\x7d,\"ok\":false,\"request_id\":null\x7d\n"
  exitCode := 2

def successContract (requestId : String) : Outcome where
  stdout := "\x7b\"capabilities\":[\"contract\",\"validate\",\"evaluate\"]," ++
    "\"contract_version\":\"economic-kernel-cli/v1\"," ++
    "\"economics_status\":\"implemented\"," ++
    "\"numeric_encoding\":\"canonical_decimal_strings\",\"ok\":true," ++
    "\"package_version\":\"0.1.0\",\"request_id\":" ++ stringify requestId ++ "\x7d\n"
  exitCode := 0

def successValidation (requestId : String) : Outcome where
  stdout := "\x7b\"contract_version\":\"economic-kernel-cli/v1\",\"ok\":true,\"request_id\":" ++
    stringify requestId ++
    ",\"validation\":\x7b\"economics_computed\":true,\"schema_valid\":true\x7d\x7d\n"
  exitCode := 0

def successEvaluation (requestId : String) (evaluation : Evaluation) : Outcome where
  stdout := "\x7b\"contract_version\":\"economic-kernel-cli/v1\",\"evaluation\":\x7b" ++
    "\"downside_loss_cents\":\"" ++ toString evaluation.downsideLossCents ++
    "\",\"gross_savings_cents\":\"" ++ toString evaluation.grossSavingsCents ++
    "\",\"liquidity_penalty_cents\":\"" ++ toString evaluation.liquidityPenaltyCents ++
    "\",\"net_savings_cents\":\"" ++ toString evaluation.netSavingsCents ++
    "\",\"unused_waste_cents\":\"" ++ toString evaluation.unusedWasteCents ++
    "\",\"upfront_amortization_cents\":\"" ++ toString evaluation.upfrontAmortizationCents ++
    "\"\x7d,\"ok\":true,\"request_id\":" ++ stringify requestId ++ "\x7d\n"
  exitCode := 0

end Answers

section Process

variable {Value : Type}

/-- `.?`, an unchecked field access or a checked operation. -/
def orAbort : Option Value → Except Failure Value
  | some value => .ok value
  | none => .error .abort

/-- A value that is read with `try`. -/
def orError : Option Value → Except Failure Value
  | some value => .ok value
  | none => .error .error

def integerField (object : Json) (key : String) : Except Failure Int := do
  let text ← orAbort (stringField object key)
  orError (parseInt text)

def compute (case : Json) : Except Failure Evaluation := do
  let dimensions ← orAbort (case.field "dimensions")
  let inputs ← orAbort (case.field "inputs")
  let instrument ← orAbort (stringField dimensions "instrument")
  if instrument = "no_action" then return noAction
  let onDemandCost ← integerField inputs "on_demand_cost_cents"
  let commitmentEffectiveCost ← integerField inputs "commitment_effective_cost_cents"
  let committedCapacity ← integerField inputs "committed_capacity_cents"
  let eligibleUsage ← integerField inputs "eligible_usage_cents"
  let upfrontCost ← integerField inputs "upfront_cost_cents"
  let termMonths ← integerField inputs "term_months"
  let liquidityPenaltyBps ← integerField inputs "liquidity_penalty_bps"
  orAbort (economics onDemandCost commitmentEffectiveCost committedCapacity eligibleUsage
    upfrontCost termMonths liquidityPenaltyBps)

def validate (requestId : String) (payload : Json) : Except Failure Outcome := do
  if !exactObject casePayloadKeys payload then return invalid "INVALID_REQUEST"
  let case ← orAbort (payload.field "case")
  if !validateCase case then return invalid "INVALID_REQUEST"
  return successValidation requestId

def evaluate (requestId : String) (payload : Json) : Except Failure Outcome := do
  if !exactObject casePayloadKeys payload then return invalid "INVALID_REQUEST"
  let case ← orAbort (payload.field "case")
  if !validateCase case then return invalid "INVALID_REQUEST"
  match compute case with
  | .ok evaluation => return successEvaluation requestId evaluation
  | .error .error => return invalid "INVALID_REQUEST"
  | .error .abort => throw .abort

def process (parseFromSlice : List UInt8 → Option Json) (input : List UInt8) :
    Except Failure Outcome :=
  match parseCanonical parseFromSlice input with
  | none => return invalid "INVALID_REQUEST"
  | some value => do
      if !validEnvelope value then return invalid "INVALID_REQUEST"
      let command ← orAbort (stringField value "command")
      let requestId ← orAbort (stringField value "request_id")
      let payload ← orAbort (value.field "payload")
      if command = "contract" then
        if !exactObject [] payload then return invalid "INVALID_REQUEST"
        return successContract requestId
      if command = "validate" then validate requestId payload
      else if command = "evaluate" then evaluate requestId payload
      else return invalid "INVALID_COMMAND"

end Process

section Amounts

/-- The seven inputs as numbers. -/
structure Amounts where
  onDemandCost : Nat
  commitmentEffectiveCost : Nat
  committedCapacity : Nat
  eligibleUsage : Nat
  upfrontCost : Nat
  termMonths : Nat
  liquidityPenaltyBps : Nat
  deriving DecidableEq, Repr

def numberField (object : Json) (key : String) : Option Nat :=
  (bigIntField object key).map Int.toNat

def inputAmounts (inputs : Json) : Option Amounts := do
  return {
    onDemandCost := ← numberField inputs "on_demand_cost_cents"
    commitmentEffectiveCost := ← numberField inputs "commitment_effective_cost_cents"
    committedCapacity := ← numberField inputs "committed_capacity_cents"
    eligibleUsage := ← numberField inputs "eligible_usage_cents"
    upfrontCost := ← numberField inputs "upfront_cost_cents"
    termMonths := ← numberField inputs "term_months"
    liquidityPenaltyBps := ← numberField inputs "liquidity_penalty_bps" }

/-- The amounts of a case that buys a commitment. -/
def committedAmounts (case : Json) : Option Amounts := do
  let dimensions ← case.field "dimensions"
  if stringField dimensions "instrument" = some "no_action" then none
  else (case.field "inputs").bind inputAmounts

namespace Amounts

variable (amounts : Amounts)

/-- Every amount is an `i128`. -/
abbrev Fit : Prop :=
  amounts.onDemandCost < 2 ^ 127 ∧ amounts.commitmentEffectiveCost < 2 ^ 127 ∧
  amounts.committedCapacity < 2 ^ 127 ∧ amounts.eligibleUsage < 2 ^ 127 ∧
  amounts.upfrontCost < 2 ^ 127 ∧ amounts.termMonths < 2 ^ 127 ∧
  amounts.liquidityPenaltyBps < 2 ^ 127

/-- The two numerators that are rounded stay below the limit, and the costs exceed
the demand by less than it. -/
abbrev Bounded : Prop :=
  amounts.upfrontCost + amounts.termMonths / 2 < 2 ^ 127 ∧
  amounts.upfrontCost * amounts.liquidityPenaltyBps + 5000 < 2 ^ 127 ∧
  amounts.commitmentEffectiveCost + (amounts.committedCapacity - amounts.eligibleUsage) +
      (amounts.upfrontCost + amounts.termMonths / 2) / amounts.termMonths +
      (amounts.upfrontCost * amounts.liquidityPenaltyBps + 5000) / 10000 <
    amounts.onDemandCost + 2 ^ 127

/-- The arithmetic of `compute`. -/
def economics : Option Evaluation :=
  EconomicKernel.economics amounts.onDemandCost amounts.commitmentEffectiveCost
    amounts.committedCapacity amounts.eligibleUsage amounts.upfrontCost amounts.termMonths
    amounts.liquidityPenaltyBps

end Amounts

end Amounts

section Arithmetic

theorem round_half_up_natural (numerator denominator : Nat) :
    roundHalfUp numerator denominator = ((numerator + denominator / 2) / denominator : Nat) := by
  have half := Int.tdiv_eq_ediv_of_nonneg (b := 2) (Int.natCast_nonneg denominator)
  have nonneg : (0 : Int) ≤ numerator + (denominator : Int) / 2 := by omega
  rw [roundHalfUp, half, Int.tdiv_eq_ediv_of_nonneg nonneg]
  rfl

theorem div_round_half_up_raised {numerator denominator result : Int}
    (divided : divRoundHalfUp numerator denominator = some result) :
    WithinI128 (numerator + denominator.tdiv 2) := by
  simp only [divRoundHalfUp, divTrunc, Option.bind_eq_bind, Option.bind_eq_some_iff] at divided
  obtain ⟨half, halved, raised, added, _⟩ := divided
  rw [if_neg (by decide), checked_some] at halved
  obtain ⟨_, rfl⟩ := halved
  exact (checked_some.mp added).1

variable {amounts : Amounts}

theorem upfront_rounded : roundHalfUp amounts.upfrontCost amounts.termMonths =
    ((amounts.upfrontCost + amounts.termMonths / 2) / amounts.termMonths : Nat) :=
  round_half_up_natural _ _

theorem penalty_rounded :
    roundHalfUp ((amounts.upfrontCost : Int) * amounts.liquidityPenaltyBps) 10000 =
      ((amounts.upfrontCost * amounts.liquidityPenaltyBps + 5000) / 10000 : Nat) := by
  rw [← Int.natCast_mul]
  exact round_half_up_natural _ 10000

theorem half_natural (value : Nat) : (value : Int).tdiv 2 = (value / 2 : Nat) :=
  Int.tdiv_eq_ediv_of_nonneg (Int.natCast_nonneg value)

theorem checks_bounded {evaluation : Evaluation}
    (computed : amounts.economics = some evaluation) : amounts.Bounded := by
  simp only [Amounts.economics, EconomicKernel.economics, Option.bind_eq_bind,
    Option.bind_eq_some_iff, checked_some] at computed
  obtain ⟨_, ⟨_, rfl⟩, _, ⟨_, rfl⟩, _, amortized, _, ⟨_, rfl⟩, _, penalized, _, ⟨_, rfl⟩, _,
    ⟨_, rfl⟩, _, ⟨_, rfl⟩, _, ⟨loss, rfl⟩, _⟩ := computed
  have raised := (div_round_half_up_raised amortized).2
  have raisedPenalty := (div_round_half_up_raised penalized).2
  obtain ⟨_, rfl⟩ := div_round_half_up_some amortized
  obtain ⟨_, rfl⟩ := div_round_half_up_some penalized
  rw [upfront_rounded, penalty_rounded] at loss
  rw [half_natural] at raised
  rw [← Int.natCast_mul] at raisedPenalty
  have raisedPenalty : ((amounts.upfrontCost * amounts.liquidityPenaltyBps : Nat) : Int) + 5000 <
    2 ^ 127 := raisedPenalty
  refine ⟨by omega, by omega, ?_⟩
  have lower := loss.2
  omega

theorem bounded_computes (fit : amounts.Fit) (positive : 0 < amounts.termMonths)
    (bounded : amounts.Bounded) : ∃ evaluation, amounts.economics = some evaluation := by
  obtain ⟨raised, raisedPenalty, costs⟩ := bounded
  obtain ⟨onDemand, effective, committed, eligible, upfront, term, bps⟩ := fit
  refine ⟨_, economics_within (Int.natCast_nonneg _) (by omega) (Int.natCast_nonneg _) ?_⟩
  simp only [kernelValues, upfront_rounded, penalty_rounded, half_natural,
    List.forall_mem_cons, List.not_mem_nil, false_implies, implies_true, and_true]
  simp only [← Int.natCast_mul]
  -- a quotient by a variable is only a natural number to the arithmetic below
  generalize (amounts.upfrontCost + amounts.termMonths / 2) / amounts.termMonths = amortization
    at costs ⊢
  refine ⟨?_, ?_, ?_, ?_, ?_, ?_, ?_, ?_, ?_, ?_, ?_, ?_, ?_, ?_, ?_, ?_⟩
  all_goals constructor <;> omega

end Arithmetic

section Cases

theorem integer_field_read {object : Json} {key text : String}
    (found : stringField object key = some text) :
    integerField object key = orError (EconomicKernel.integerField object key) := by
  rw [integerField, EconomicKernel.integerField, found]
  rfl

/-- A valid input has a number, and the kernel reads it unless it is no `i128`. -/
theorem input_number {inputs : Json} (valid : validInputs inputs = true) {key : String}
    (known : key ∈ inputKeys) :
    ∃ number : Nat, numberField inputs key = some number ∧
      integerField inputs key = orError (checked number) ∧
      (key = "term_months" → 0 < number) := by
  rw [validInputs, Bool.and_eq_true, List.all_eq_true] at valid
  have decimal := valid.2 key known
  obtain ⟨text, found, _⟩ := (Option.any_eq_true _ _).mp decimal
  obtain ⟨number, read, integer, positive⟩ := decimal_field decimal
  refine ⟨number, ?_, ?_, ?_⟩
  · rw [numberField, read, Option.map_some, Int.toNat_natCast]
  · rw [integer_field_read found, integer]
  · rintro rfl
    exact Nat.pos_of_ne_zero (positive rfl)

theorem checked_natural {number : Nat} :
    checked number = if number < 2 ^ 127 then some (number : Int) else none := by
  unfold checked
  split_ifs with within small small
  · rfl
  · omega
  · exact absurd ⟨by omega, by omega⟩ within
  · rfl

theorem ok_bind {First Second : Type} (value : First) (next : First → Except Failure Second) :
    (Except.ok value >>= next) = next value := rfl

theorem read_bind {Result : Type} {number : Nat} (next : Int → Except Failure Result) :
    (orError (checked number) >>= next) =
      if number < 2 ^ 127 then next number else .error .error := by
  rw [checked_natural]
  split_ifs <;> rfl

theorem valid_case_parts {case : Json} (valid : validateCase case = true) :
    ∃ dimensions inputs instrument, case.field "dimensions" = some dimensions ∧
      case.field "inputs" = some inputs ∧
      stringField dimensions "instrument" = some instrument ∧ validInputs inputs = true := by
  simp only [validateCase, Bool.and_eq_true, Option.any_eq_true] at valid
  obtain ⟨⟨⟨⟨⟨⟨_, dimensions, dimensionsFound, dimensionsValid⟩, _⟩, inputs, inputsFound,
    inputsValid⟩, _⟩, _⟩, _⟩ := valid
  simp only [validDimensions, oneOf, Bool.and_eq_true, Option.any_eq_true] at dimensionsValid
  obtain ⟨⟨⟨⟨⟨⟨_, instrument, found, _⟩, _⟩, _⟩, _⟩, _⟩, _⟩ := dimensionsValid
  exact ⟨dimensions, inputs, instrument, dimensionsFound, inputsFound, found, inputsValid⟩

/-- A valid case is computed, turned away or stopped by its arithmetic alone. -/
theorem compute_valid {case : Json} (valid : validateCase case = true) :
    (committedAmounts case = none ∧ compute case = .ok noAction) ∨
    ∃ amounts, committedAmounts case = some amounts ∧ 0 < amounts.termMonths ∧
      compute case = if amounts.Fit then orAbort amounts.economics else .error .error := by
  obtain ⟨dimensions, inputs, instrument, dimensionsFound, inputsFound, found, validIn⟩ :=
    valid_case_parts valid
  by_cases idle : instrument = "no_action"
  · left
    simp only [committedAmounts, compute, dimensionsFound, inputsFound, found, idle, orAbort,
      ok_bind, Option.bind_eq_bind, Option.bind_some, if_true]
    exact ⟨trivial, rfl⟩
  · right
    obtain ⟨onDemand, onDemandRead, onDemandInt, _⟩ :=
      input_number validIn (show "on_demand_cost_cents" ∈ inputKeys by decide)
    obtain ⟨effective, effectiveRead, effectiveInt, _⟩ :=
      input_number validIn (show "commitment_effective_cost_cents" ∈ inputKeys by decide)
    obtain ⟨committed, committedRead, committedInt, _⟩ :=
      input_number validIn (show "committed_capacity_cents" ∈ inputKeys by decide)
    obtain ⟨eligible, eligibleRead, eligibleInt, _⟩ :=
      input_number validIn (show "eligible_usage_cents" ∈ inputKeys by decide)
    obtain ⟨upfront, upfrontRead, upfrontInt, _⟩ :=
      input_number validIn (show "upfront_cost_cents" ∈ inputKeys by decide)
    obtain ⟨term, termRead, termInt, positive⟩ :=
      input_number validIn (show "term_months" ∈ inputKeys by decide)
    obtain ⟨bps, bpsRead, bpsInt, _⟩ :=
      input_number validIn (show "liquidity_penalty_bps" ∈ inputKeys by decide)
    refine ⟨⟨onDemand, effective, committed, eligible, upfront, term, bps⟩, ?_, positive rfl, ?_⟩
    · simp only [committedAmounts, dimensionsFound, inputsFound, found, Option.some.injEq, idle,
        inputAmounts, onDemandRead, effectiveRead, committedRead, eligibleRead, upfrontRead,
        termRead, bpsRead, Option.bind_eq_bind, Option.bind_some, if_false]
      rfl
    · simp only [compute, dimensionsFound, inputsFound, found, orAbort, ok_bind, if_neg idle,
        onDemandInt, effectiveInt, committedInt, eligibleInt, upfrontInt, termInt, bpsInt,
        read_bind, Amounts.Fit, Amounts.economics, ite_and]

/-- The arithmetic of a case stays in range as soon as its amounts do. -/
def WithinRange (case : Json) : Prop :=
  ∀ amounts, committedAmounts case = some amounts → amounts.Fit → amounts.Bounded

theorem compute_within_range {case : Json} (valid : validateCase case = true) :
    compute case ≠ .error .abort ↔ WithinRange case := by
  rcases compute_valid valid with ⟨idle, computed⟩ | ⟨amounts, read, positive, computed⟩
  · simp [WithinRange, idle, computed]
  · simp only [WithinRange, read, Option.some.injEq, forall_eq', computed]
    split_ifs with fit
    · constructor
      · intro computes _
        cases economical : amounts.economics with
        | none => exact absurd (by rw [economical]; rfl) computes
        | some evaluation => exact checks_bounded economical
      · intro bounded
        obtain ⟨evaluation, economical⟩ := bounded_computes fit positive (bounded fit)
        rw [economical]
        nofun
    · exact ⟨fun _ fits => absurd fits fit, fun _ => nofun⟩

end Cases

section Requests

theorem exact_object_field {keys : List String} {value : Json} {key : String}
    (exact : exactObject keys value = true) (known : key ∈ keys) :
    ∃ child, value.field key = some child := by
  cases value with
  | object fields =>
      have names : fields.map Prod.fst = keys := by simpa [exactObject] using exact
      rw [← names] at known
      obtain ⟨⟨name, child⟩, member, rfl⟩ := List.mem_map.mp known
      have listed : (fields.lookup name).isSome = true :=
        List.lookup_isSome_iff.mpr ⟨_, member, beq_self_eq_true name⟩
      exact Option.isSome_iff_exists.mp listed
  | _ => cases exact

theorem valid_envelope_fields {value : Json} (valid : validEnvelope value = true) :
    ∃ command requestId payload, stringField value "command" = some command ∧
      stringField value "request_id" = some requestId ∧
      value.field "payload" = some payload := by
  rw [validEnvelope, Bool.and_eq_true] at valid
  have fields := valid.2
  split at fields
  case h_1 command version payload requestId commandFound _ payloadFound requestFound =>
      exact ⟨command, requestId, _, by rw [stringField, commandFound],
        by rw [stringField, requestFound], payloadFound⟩
  case h_2 => cases fields

variable {parseFromSlice : List UInt8 → Option Json} {input : List UInt8}

/-- The case that a canonical request asks to evaluate. -/
def EvaluatedCase (parseFromSlice : List UInt8 → Option Json) (input : List UInt8)
    (case : Json) : Prop :=
  ∃ value payload, parseCanonical parseFromSlice input = some value ∧
    validEnvelope value = true ∧ stringField value "command" = some "evaluate" ∧
    value.field "payload" = some payload ∧ exactObject casePayloadKeys payload = true ∧
    payload.field "case" = some case ∧ validateCase case = true

abbrev Answers (ending : Except Failure Outcome) : Prop :=
  ∃ outcome, ending = .ok outcome ∧ (outcome.exitCode = 0 ∨ outcome.exitCode = 2)

theorem validate_answers {payload : Json} (requestId : String) :
    Answers (validate requestId payload) := by
  unfold validate
  cases exact : exactObject casePayloadKeys payload with
  | false => exact ⟨_, rfl, Or.inr rfl⟩
  | true =>
      obtain ⟨case, found⟩ := exact_object_field exact (show "case" ∈ casePayloadKeys by decide)
      simp only [found, orAbort, ok_bind]
      cases validateCase case with
      | false => exact ⟨_, rfl, Or.inr rfl⟩
      | true => exact ⟨_, rfl, Or.inl rfl⟩

/-- An evaluation is answered unless it is stopped by the arithmetic of its case. -/
theorem evaluate_answers {payload : Json} (requestId : String) :
    Answers (evaluate requestId payload) ↔
      ∀ case, exactObject casePayloadKeys payload = true → payload.field "case" = some case →
        validateCase case = true → WithinRange case := by
  unfold evaluate
  cases exact : exactObject casePayloadKeys payload with
  | false => exact iff_of_true ⟨_, rfl, Or.inr rfl⟩ fun _ => nofun
  | true =>
      obtain ⟨case, found⟩ := exact_object_field exact (show "case" ∈ casePayloadKeys by decide)
      simp only [found, orAbort, ok_bind]
      cases valid : validateCase case with
      | false =>
          refine iff_of_true ⟨_, rfl, Or.inr rfl⟩ fun other _ same => ?_
          cases same
          exact fun isValid => nomatch valid.symm.trans isValid
      | true =>
          have computes := compute_within_range valid
          constructor
          · rintro ⟨outcome, answered, _⟩ other _ same _
            cases same
            refine computes.mp fun aborted => ?_
            rw [aborted] at answered
            cases answered
          · intro within
            have stays := computes.mpr (within case trivial rfl valid)
            cases computed : compute case with
            | ok evaluation => exact ⟨_, rfl, Or.inl rfl⟩
            | error failure =>
                cases failure with
                | error => exact ⟨_, rfl, Or.inr rfl⟩
                | abort => exact absurd computed stays

/-- Every request is answered, except for an evaluation that leaves the range. -/
theorem process_answers : Answers (process parseFromSlice input) ↔
    ∀ case, EvaluatedCase parseFromSlice input case → WithinRange case := by
  unfold process EvaluatedCase
  cases parsed : parseCanonical parseFromSlice input with
  | none =>
      refine iff_of_true ⟨_, rfl, Or.inr rfl⟩ ?_
      rintro case ⟨value, payload, same, _⟩
      cases same
  | some value =>
      simp only [Option.some.injEq, exists_and_left, exists_eq_left']
      cases valid : validEnvelope value with
      | false => exact iff_of_true ⟨_, rfl, Or.inr rfl⟩ (by simp)
      | true =>
          obtain ⟨command, requestId, payload, commandFound, requestFound, payloadFound⟩ :=
            valid_envelope_fields valid
          simp only [commandFound, requestFound, payloadFound, orAbort, ok_bind, Bool.not_true,
            Bool.false_eq_true, if_false, Option.some.injEq, true_and, exists_eq_left']
          by_cases isEvaluate : command = "evaluate"
          · subst isEvaluate
            simp only [String.reduceEq, if_false, if_true, true_and, and_imp]
            exact evaluate_answers requestId
          · refine iff_of_true ?_ fun case evaluated => absurd evaluated.1 isEvaluate
            simp only [if_neg isEvaluate]
            split_ifs
            · exact ⟨_, rfl, Or.inr rfl⟩
            · exact ⟨_, rfl, Or.inl rfl⟩
            · exact validate_answers requestId
            · exact ⟨_, rfl, Or.inr rfl⟩

end Requests

section Overflow

/-- A request is answered exactly if the arithmetic of the case it evaluates stays in
range, and so is the computation of every valid case. -/
theorem kernel_answers_within_range (parseFromSlice : List UInt8 → Option Json) :
    (∀ input, Answers (process parseFromSlice input) ↔
      ∀ case, EvaluatedCase parseFromSlice input case → WithinRange case) ∧
    ∀ case, validateCase case = true → (compute case ≠ .error .abort ↔ WithinRange case) :=
  ⟨fun _ => process_answers, fun _ => compute_within_range⟩

/-- A reservation whose amounts are small. -/
theorem partial_upfront_computes :
    compute (pointCase "reserved_instance" "aws"
      { sku := "m5", region := "us-east-1", termMonths := 12, paymentOption := .partialUpfront,
        hourlyRateCents := 10, upfrontCents := 100000, coverageRules := .object [] }
      250 9000 8000) ≠ .error .abort := by
  refine ((kernel_answers_within_range fun _ => none).2 _ (by decide)).mpr ?_
  intro amounts read _
  have same : some amounts = some ⟨8000, 7300, 9000, 8000, 100000, 12, 250⟩ :=
    read.symm.trans (by decide)
  rw [Option.some.inj same]
  decide

/-- An upfront price of the largest `i128` over twelve months. -/
def largestUpfront : Json :=
  pointCase "reserved_instance" "aws"
    { sku := "m5", region := "us-east-1", termMonths := 12, paymentOption := .allUpfront,
      hourlyRateCents := 0, upfrontCents := 2 ^ 127 - 1, coverageRules := .object [] } 0 0 0

def largestUpfrontRequest : Json :=
  .object [
    ("command", .string "evaluate"),
    ("contract_version", .string contractVersion),
    ("payload", .object [("case", largestUpfront)]),
    ("request_id", .string "largest-upfront")]

def largestUpfrontBody : List UInt8 := encodeUtf8 (writeCanonical largestUpfrontRequest)

/-- The JSON reader on the one text that it is given here. -/
def readLargestUpfront (body : List UInt8) : Option Json :=
  if body = largestUpfrontBody then some largestUpfrontRequest else none

theorem largest_upfront_aborts :
    ¬ ∀ input, Answers (process readLargestUpfront input) := by
  intro answers
  have parsed : parseCanonical readLargestUpfront (largestUpfrontBody ++ [10]) =
      some largestUpfrontRequest := by
    decide +kernel
  have within := process_answers.mp (answers (largestUpfrontBody ++ [10])) largestUpfront
    ⟨largestUpfrontRequest, .object [("case", largestUpfront)], parsed, by decide, rfl,
      rfl, rfl, rfl, by decide⟩
  have bounded := within ⟨0, 0, 0, 0, 2 ^ 127 - 1, 12, 0⟩ (by decide) (by decide)
  exact absurd bounded.1 (by decide)

end Overflow

end CommitmentOptimizer.Optimizer.KernelProcess
