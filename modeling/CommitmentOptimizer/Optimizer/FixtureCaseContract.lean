import CommitmentOptimizer.Foundations.RegularText
import CommitmentOptimizer.Optimizer.KernelProcess

/-!
# Two validators of a case

The field checks of a fixture case (`validateCase` of
`economic-kernel-fixture-contract.mjs`) beside those of the Zig kernel. The fixture
contract states its grammars as regular expressions, the kernel as loops.
-/

namespace CommitmentOptimizer.Optimizer.FixtureCaseContract

open Foundations
open Foundations.BigIntText
open Foundations.RegularText
open EconomicKernel (caseKeys dimensionKeys inputKeys oracleKeys expectedKeys)

set_option autoImplicit false

section Patterns

def lowerLetters : List Char := charRange 'a' 'z'

def upperLetters : List Char := charRange 'A' 'Z'

def digitCharacters : List Char := charRange '0' '9'

/-- `/^[a-z0-9]+(?:-[a-z0-9]+)*$/u`. -/
def identifierPattern : RegularExpression Char := separated (lowerLetters ++ digitCharacters) '-'

/-- `/^[A-Za-z0-9][A-Za-z0-9_-]*$/u`. -/
def regionPattern : RegularExpression Char :=
  oneOf (upperLetters ++ lowerLetters ++ digitCharacters) *
    (oneOf (upperLetters ++ lowerLetters ++ digitCharacters ++ ['_', '-'])).star

/-- `/^[A-Z]{3}$/u`. -/
def currencyPattern : RegularExpression Char :=
  oneOf upperLetters * (oneOf upperLetters * oneOf upperLetters)

/-- `/^(?:0|[1-9][0-9]*)$/u`. -/
def unsignedPattern : RegularExpression Char :=
  .char '0' + oneOf (charRange '1' '9') * (oneOf digitCharacters).star

/-- `/^-?(?:0|[1-9][0-9]*)$/u`. -/
def signedPattern : RegularExpression Char := atMostOnce (.char '-') * unsignedPattern

end Patterns

section Checks

/-- `Object.keys`: the array indices in ascending order, then the other names in
order of creation. -/
def arrayIndex (name : String) : Option Nat :=
  if isDecimal name.toList then
    let number := Nat.ofDigitChars 10 name.toList 0
    if number < 2 ^ 32 - 1 then some number else none
  else none

def objectKeys (fields : List (String × Json)) : List String :=
  let names := fields.map Prod.fst
  (names.filter fun name => (arrayIndex name).isSome).mergeSort
      (fun left right => (arrayIndex left).getD 0 ≤ (arrayIndex right).getD 0) ++
    names.filter fun name => (arrayIndex name).isNone

def exactKeys (value : Option Json) (expected : List String) : Bool :=
  match value with
  | some (.object fields) => objectKeys fields == expected
  | _ => false

/-- `value[key]`; `none` is `undefined`. -/
def property (value : Option Json) (key : String) : Option Json := value.bind (Json.field key)

/-- `assert.match`: the value must be a string. -/
def assertMatch (value : Option Json) (pattern : RegularExpression Char) : Bool :=
  match value with
  | some (.string text) => pattern.rmatch text.toList
  | _ => false

def assertEqual (value : Option Json) (text : String) : Bool := value == some (.string text)

def includes (texts : List String) (value : Option Json) : Bool := texts.any (assertEqual value)

def decimalString (value : Option Json) (positive signed : Bool) : Bool :=
  assertMatch value (if signed then signedPattern else unsignedPattern) &&
    !(positive && assertEqual value "0")

def OWNER : List (String × String) :=
  [("owner", "phase1-zig-economic-kernel-formulas-rounding"), ("prd_ref", "5.5"),
    ("status", "implemented")]

def validateOracle (oracle : Option Json) : Bool :=
  exactKeys oracle oracleKeys &&
    OWNER.all fun entry => assertEqual (property oracle entry.1) entry.2

def validateDimensions (dimensions : Option Json) : Bool :=
  exactKeys dimensions dimensionKeys &&
    includes
      ["compute_savings_plan", "reserved_instance", "azure_reservation", "gcp_cud", "no_action"]
      (property dimensions "instrument") &&
    includes ["all_upfront", "no_upfront", "partial_upfront", "not_applicable"]
      (property dimensions "payment_option") &&
    includes ["aws", "azure", "gcp"] (property dimensions "provider") &&
    assertMatch (property dimensions "region") regionPattern &&
    assertMatch (property dimensions "tenant_reporting_currency") currencyPattern &&
    decimalString (property dimensions "term_months") true false

def validateInputs (inputs : Option Json) : Bool :=
  exactKeys inputs inputKeys &&
    inputKeys.all fun key => decimalString (property inputs key) (key == "term_months") false

def validateExpected (expected : Option Json) : Bool :=
  exactKeys expected expectedKeys &&
    expectedKeys.all fun key => decimalString (property expected key) false true

def validateUnits (units : Option Json) : Bool :=
  exactKeys units inputKeys &&
    inputKeys.all fun key =>
      assertEqual (property units key)
        (if key = "liquidity_penalty_bps" then "basis_points"
        else if key = "term_months" then "count"
        else "tenant_reporting_currency_minor_unit")

/-- The field checks of `validateCase`. -/
def validateCase (fixtureCase : Json) : Bool :=
  exactKeys (some fixtureCase) caseKeys &&
    assertMatch (fixtureCase.field "case_id") identifierPattern &&
    assertEqual (fixtureCase.field "case_version") "economic-kernel-case/v1" &&
    validateExpected (fixtureCase.field "expected") &&
    assertEqual (fixtureCase.field "operation") "evaluate" &&
    validateOracle (fixtureCase.field "oracle") &&
    validateDimensions (fixtureCase.field "dimensions") &&
    validateInputs (fixtureCase.field "inputs") &&
    validateUnits (fixtureCase.field "units")

end Checks

section Grammars

open EconomicKernel (isLowerAscii isUpperAscii)

variable {character : Char} {text : List Char}

theorem mem_lower_letters : character ∈ lowerLetters ↔ isLowerAscii character = true := by
  rw [lowerLetters, mem_char_range (by decide), isLowerAscii, Bool.and_eq_true]
  simp only [decide_eq_true_eq]
  rfl

theorem mem_upper_letters : character ∈ upperLetters ↔ isUpperAscii character = true := by
  rw [upperLetters, mem_char_range (by decide), isUpperAscii, Bool.and_eq_true]
  simp only [decide_eq_true_eq]
  rfl

theorem mem_digit_characters : character ∈ digitCharacters ↔ character.isDigit = true := by
  rw [digitCharacters, mem_char_range (by decide), Char.isDigit, Bool.and_eq_true]
  simp only [decide_eq_true_eq]
  rfl

theorem mem_leading_digits :
    character ∈ charRange '1' '9' ↔ character.isDigit = true ∧ character ≠ '0' := by
  rw [← mem_digit_characters, digitCharacters, mem_char_range (by decide),
    mem_char_range (by decide)]
  have zero : character = '0' ↔ character.toNat = 48 := by
    constructor
    · rintro rfl
      rfl
    · intro same
      rw [← Char.ofNat_toNat character, same]
  rw [ne_eq, zero]
  change 49 ≤ character.toNat ∧ character.toNat ≤ 57 ↔
    (48 ≤ character.toNat ∧ character.toNat ≤ 57) ∧ ¬ character.toNat = 48
  omega

theorem unsigned_pattern_iff : unsignedPattern.rmatch text = true ↔ isDecimal text = true := by
  rw [RegularExpression.rmatch_iff_matches', unsignedPattern, RegularExpression.matches'_add,
    Language.mem_add, mem_one_of_then_star]
  change text = ['0'] ∨ _ ↔ _
  cases text with
  | nil => simp [isDecimal]
  | cons head tail =>
      have digits : (∀ symbol ∈ tail, symbol ∈ digitCharacters) ↔ tail.all Char.isDigit = true := by
        simp [mem_digit_characters]
      have split : (∃ first rest, head :: tail = first :: rest ∧ first ∈ charRange '1' '9' ∧
          ∀ symbol ∈ rest, symbol ∈ digitCharacters) ↔
          (head.isDigit = true ∧ head ≠ '0') ∧ tail.all Char.isDigit = true := by
        rw [← digits, ← mem_leading_digits]
        simp
      rw [split]
      constructor
      · rintro (zero | ⟨⟨digit, nonzero⟩, rest⟩)
        · rw [zero]
          rfl
        · simp only [isDecimal, List.all_cons, digit, rest]
          simp [nonzero]
      · intro decimal
        simp only [isDecimal, List.all_cons, Bool.and_eq_true, Bool.or_eq_true,
          decide_eq_true_eq, List.length_cons, List.head?_cons, ne_eq, Option.some.injEq,
          Nat.add_eq_right, List.length_eq_zero_iff] at decimal
        obtain ⟨⟨_, single | nonzero⟩, digit, rest⟩ := decimal
        · by_cases zero : head = '0'
          · exact Or.inl (by rw [single, zero])
          · exact Or.inr ⟨⟨digit, zero⟩, rest⟩
        · exact Or.inr ⟨⟨digit, nonzero⟩, rest⟩

theorem signed_pattern_iff {value : String} :
    signedPattern.rmatch value.toList = true ↔
      EconomicKernel.signedDecimal (some value) = true := by
  have sign : signedPattern.rmatch value.toList = true ↔ isDecimal value.toList = true ∨
      ∃ digits, value.toList = '-' :: digits ∧ isDecimal digits = true := by
    simp only [← unsigned_pattern_iff, RegularExpression.rmatch_iff_matches']
    rw [signedPattern, atMostOnce, RegularExpression.matches'_mul, RegularExpression.matches'_add,
      add_mul, Language.mem_add, mem_char_then, RegularExpression.matches'_epsilon, one_mul]
  rw [sign, EconomicKernel.signedDecimal, Option.any_some]
  split
  case h_1 digits same =>
      rw [same]
      have noSign : isDecimal ('-' :: digits) = false := by
        simp [isDecimal, Char.isDigit]
      simp [noSign]
  case h_2 noSign =>
      refine or_iff_left ?_
      rintro ⟨digits, same, _⟩
      exact noSign digits same

theorem currency_pattern_iff {value : String} :
    currencyPattern.rmatch value.toList = true ↔
      EconomicKernel.validCurrency (some value) = true := by
  rw [RegularExpression.rmatch_iff_matches', currencyPattern, RegularExpression.matches'_mul,
    RegularExpression.matches'_mul, mem_class_then, EconomicKernel.validCurrency, Option.any_some,
    Bool.and_eq_true, beq_iff_eq, List.length_eq_three, List.all_eq_true]
  simp only [mem_class_then, mem_one_of, mem_upper_letters]
  constructor
  · rintro ⟨first, _, same, firstUpper, second, _, rfl, secondUpper, third, thirdUpper, rfl⟩
    rw [same]
    refine ⟨⟨first, second, third, rfl⟩, ?_⟩
    simp [firstUpper, secondUpper, thirdUpper]
  · rintro ⟨⟨first, second, third, same⟩, upper⟩
    simp only [same, List.forall_mem_cons] at upper
    exact ⟨first, _, same, upper.1, second, _, rfl, upper.2.1, third, upper.2.2.1, rfl⟩

end Grammars

section Fields

open EconomicKernel (exactObject stringField)

variable {expected : List String} {value : Json} {key : String}

theorem object_keys_iff {fields : List (String × Json)}
    (named : ∀ name ∈ expected, arrayIndex name = none) :
    objectKeys fields = expected ↔ fields.map Prod.fst = expected := by
  have plain : ∀ names : List String, (∀ name ∈ names, arrayIndex name = none) →
      names.filter (fun name => (arrayIndex name).isSome) = [] ∧
        names.filter (fun name => (arrayIndex name).isNone) = names := by
    intro names none
    refine ⟨List.filter_eq_nil_iff.mpr fun name member => ?_,
      List.filter_eq_self.mpr fun name member => ?_⟩
    · simp [none name member]
    · simp [none name member]
  unfold objectKeys
  constructor
  · intro same
    have every : ∀ name ∈ fields.map Prod.fst, arrayIndex name = none := by
      intro name member
      cases index : arrayIndex name with
      | none => rfl
      | some number =>
          -- an index would be among the expected keys
          have listed : name ∈ expected := by
            rw [← same]
            refine List.mem_append_left _ (List.mem_mergeSort.mpr (List.mem_filter.mpr ?_))
            exact ⟨member, by rw [index]; rfl⟩
          exact absurd (named name listed) (by rw [index]; nofun)
    obtain ⟨noIndex, others⟩ := plain _ every
    simpa only [noIndex, others, List.mergeSort_nil, List.nil_append] using same
  · rintro rfl
    obtain ⟨noIndex, others⟩ := plain _ named
    simp only [noIndex, others, List.mergeSort_nil, List.nil_append]

theorem exact_keys_object (named : ∀ name ∈ expected, arrayIndex name = none) :
    exactKeys (some value) expected = exactObject expected value := by
  cases value with
  | object fields =>
      rw [Bool.eq_iff_iff]
      simp only [exactKeys, exactObject, beq_iff_eq]
      exact object_keys_iff named
  | _ => rfl

theorem assert_match_field {pattern : RegularExpression Char} :
    assertMatch (value.field key) pattern =
      (stringField value key).any fun text => pattern.rmatch text.toList := by
  unfold stringField
  cases value.field key with
  | none => rfl
  | some child => cases child <;> rfl

theorem assert_equal_field {text : String} :
    assertEqual (value.field key) text = (stringField value key == some text) := by
  unfold stringField assertEqual
  cases value.field key with
  | none => rfl
  | some child =>
      cases child with
      | string other =>
          rw [Bool.eq_iff_iff, beq_iff_eq, beq_iff_eq, Option.some.injEq, Json.string.injEq,
            Option.some.injEq]
      | _ => rfl

theorem includes_field {texts : List String} :
    includes texts (value.field key) = EconomicKernel.oneOf (stringField value key) texts := by
  unfold includes EconomicKernel.oneOf
  rw [show assertEqual (value.field key) = fun text => stringField value key == some text from
    funext fun _ => assert_equal_field]
  cases stringField value key with
  | none => simp
  | some text =>
      rw [Bool.eq_iff_iff, Option.any_some, List.any_eq_true, List.contains_iff_mem]
      simp only [beq_iff_eq, Option.some.injEq]
      exact ⟨fun ⟨_, member, same⟩ => same ▸ member, fun member => ⟨text, member, rfl⟩⟩

theorem decimal_string_field {positive : Bool} :
    decimalString (value.field key) positive false =
      EconomicKernel.decimal (stringField value key) positive := by
  unfold decimalString EconomicKernel.decimal
  rw [assert_match_field, assert_equal_field]
  cases stringField value key with
  | none => rfl
  | some text =>
      have pattern : unsignedPattern.rmatch text.toList = isDecimal text.toList :=
        Bool.eq_iff_iff.mpr unsigned_pattern_iff
      simp only [Bool.false_eq_true, if_false, Option.any_some, pattern, Option.some_beq_some]

theorem signed_string_field :
    decimalString (value.field key) false true =
      EconomicKernel.signedDecimal (stringField value key) := by
  unfold decimalString
  rw [assert_match_field]
  cases stringField value key with
  | none => rfl
  | some text =>
      have pattern : signedPattern.rmatch text.toList = EconomicKernel.signedDecimal (some text) :=
        Bool.eq_iff_iff.mpr signed_pattern_iff
      simp only [if_true, Option.any_some, pattern, Bool.false_and, Bool.not_false, Bool.and_true]

section Sections

variable (value)

theorem inputs_agree : validateInputs (some value) = EconomicKernel.validInputs value := by
  unfold validateInputs EconomicKernel.validInputs
  rw [exact_keys_object (by decide)]
  simp only [property, Option.bind_some, decimal_string_field]

theorem expected_agree : validateExpected (some value) = EconomicKernel.validExpected value := by
  unfold validateExpected EconomicKernel.validExpected
  rw [exact_keys_object (by decide)]
  simp only [property, Option.bind_some, signed_string_field]

theorem units_agree : validateUnits (some value) = EconomicKernel.validUnits value := by
  unfold validateUnits EconomicKernel.validUnits
  rw [exact_keys_object (by decide)]
  simp only [property, Option.bind_some, assert_equal_field]

theorem oracle_agree : validateOracle (some value) = EconomicKernel.validOracle value := by
  unfold validateOracle EconomicKernel.validOracle
  rw [exact_keys_object (by decide)]
  simp only [property, Option.bind_some, assert_equal_field, OWNER, List.all_cons, List.all_nil,
    Bool.and_true, Bool.and_assoc]

end Sections

/-- What the two validators require of the dimensions alike. -/
def sharedDimensions (value : Json) : Bool :=
  exactObject dimensionKeys value &&
    EconomicKernel.oneOf (stringField value "instrument")
      ["compute_savings_plan", "reserved_instance", "azure_reservation", "gcp_cud", "no_action"] &&
    EconomicKernel.oneOf (stringField value "payment_option")
      ["all_upfront", "no_upfront", "partial_upfront", "not_applicable"] &&
    EconomicKernel.oneOf (stringField value "provider") ["aws", "azure", "gcp"] &&
    EconomicKernel.validCurrency (stringField value "tenant_reporting_currency")

theorem kernel_dimensions : EconomicKernel.validDimensions value = (sharedDimensions value &&
    (EconomicKernel.validDimension (stringField value "region") &&
      EconomicKernel.decimal (stringField value "term_months") false)) := by
  unfold EconomicKernel.validDimensions sharedDimensions
  ac_rfl

theorem fixture_dimensions : validateDimensions (some value) = (sharedDimensions value &&
    (((stringField value "region").any fun text => regionPattern.rmatch text.toList) &&
      EconomicKernel.decimal (stringField value "term_months") true)) := by
  have currency : ((stringField value "tenant_reporting_currency").any fun text =>
      currencyPattern.rmatch text.toList) =
      EconomicKernel.validCurrency (stringField value "tenant_reporting_currency") := by
    cases stringField value "tenant_reporting_currency" with
    | none => rfl
    | some text => exact Bool.eq_iff_iff.mpr currency_pattern_iff
  unfold validateDimensions sharedDimensions
  rw [exact_keys_object (by decide)]
  simp only [property, Option.bind_some, includes_field, assert_match_field, decimal_string_field,
    currency]
  ac_rfl

end Fields

section Agreement

open EconomicKernel (exactObject stringField isLowerAscii isUpperAscii)

/-- What the two validators require of a case alike. -/
def sharedCase (case : Json) : Bool :=
  exactObject caseKeys case &&
    stringField case "case_version" == some "economic-kernel-case/v1" &&
    (case.field "dimensions").any sharedDimensions &&
    (case.field "expected").any EconomicKernel.validExpected &&
    (case.field "inputs").any EconomicKernel.validInputs &&
    stringField case "operation" == some "evaluate" &&
    (case.field "oracle").any EconomicKernel.validOracle &&
    (case.field "units").any EconomicKernel.validUnits

/-- The three texts for which the validators have different rules. -/
structure OpenTexts where
  caseId : String
  region : String
  termMonths : String
  deriving DecidableEq, Repr

def openTexts (case : Json) : Option OpenTexts := do
  let dimensions ← case.field "dimensions"
  return {
    caseId := ← stringField case "case_id"
    region := ← stringField dimensions "region"
    termMonths := ← stringField dimensions "term_months" }

/-- The rules of both validators. -/
structure OpenTexts.WellFormed (texts : OpenTexts) : Prop where
  caseIdNonempty : texts.caseId.toList ≠ []
  caseIdStart : texts.caseId.toList.head? ≠ some '-'
  caseIdEnd : texts.caseId.toList.getLast? ≠ some '-'
  caseIdCharacters : ∀ character ∈ texts.caseId.toList,
    isLowerAscii character ∨ character.isDigit ∨ character = '-'
  regionNonempty : texts.region.toList ≠ []
  regionCharacters : ∀ character ∈ texts.region.toList,
    isLowerAscii character ∨ isUpperAscii character ∨ character.isDigit ∨ character = '-' ∨
      character = '_'
  termMonthsDecimal : isDecimal texts.termMonths.toList = true

/-- The rules of the kernel alone. -/
abbrev OpenTexts.Short (texts : OpenTexts) : Prop :=
  texts.caseId.toList.length ≤ 96 ∧ texts.region.toList.length ≤ 64

/-- The rules of the fixture contract alone: no two hyphens in a row, a letter or a
digit first, and at least one month. -/
abbrev OpenTexts.Strict (texts : OpenTexts) : Prop :=
  (texts.caseId.toList.IsChain fun left right => left = '-' → right ≠ '-') ∧
  texts.region.toList.head? ≠ some '-' ∧ texts.region.toList.head? ≠ some '_' ∧
  texts.termMonths ≠ "0"

variable {case : Json} {texts : OpenTexts}

theorem kernel_texts : (EconomicKernel.validIdentifier (some texts.caseId) = true ∧
    EconomicKernel.validDimension (some texts.region) = true ∧
    EconomicKernel.decimal (some texts.termMonths) false = true) ↔
      texts.WellFormed ∧ texts.Short := by
  simp only [EconomicKernel.validIdentifier, EconomicKernel.validDimension,
    EconomicKernel.decimal, Option.any_some, Bool.and_eq_true, decide_eq_true_eq,
    List.all_eq_true, Bool.or_eq_true, beq_iff_eq, Bool.false_and, Bool.not_false, and_true]
  constructor
  · rintro ⟨⟨⟨⟨⟨idNonempty, idShort⟩, idStart⟩, idEnd⟩, idCharacters⟩,
      ⟨⟨regionNonempty, regionShort⟩, regionCharacters⟩, term⟩
    exact ⟨⟨idNonempty, idStart, idEnd, fun character member =>
      or_assoc.mp (idCharacters character member), regionNonempty, fun character member => by
        simpa only [or_assoc] using regionCharacters character member, term⟩, idShort,
      regionShort⟩
  · rintro ⟨⟨idNonempty, idStart, idEnd, idCharacters, regionNonempty, regionCharacters, term⟩,
      idShort, regionShort⟩
    exact ⟨⟨⟨⟨⟨idNonempty, idShort⟩, idStart⟩, idEnd⟩, fun character member =>
      or_assoc.mpr (idCharacters character member)⟩, ⟨⟨regionNonempty, regionShort⟩,
        fun character member => by simpa only [or_assoc] using regionCharacters character member⟩,
      term⟩

theorem identifier_pattern_iff {text : List Char} : identifierPattern.rmatch text = true ↔
    text ≠ [] ∧ text.head? ≠ some '-' ∧
      (∀ character ∈ text, isLowerAscii character ∨ character.isDigit ∨ character = '-') ∧
      text.getLast? ≠ some '-' ∧ text.IsChain fun left right => left = '-' → right ≠ '-' := by
  have outside : '-' ∉ lowerLetters ++ digitCharacters := by
    rw [List.mem_append, mem_lower_letters, mem_digit_characters]
    decide
  have allowed : (∀ character ∈ text, character ∈ lowerLetters ++ digitCharacters ∨
      character = '-') ↔
      ∀ character ∈ text, isLowerAscii character ∨ character.isDigit ∨ character = '-' := by
    simp only [List.mem_append, mem_lower_letters, mem_digit_characters, or_assoc]
  rw [RegularExpression.rmatch_iff_matches', identifierPattern, mem_separated_iff outside,
    ← allowed]
  constructor
  · intro matched
    obtain ⟨nonempty, start, joined⟩ := matched
    exact ⟨nonempty, start, joined.allowed, joined.ends, joined.apart⟩
  · intro form
    obtain ⟨nonempty, start, each, ends, apart⟩ := form
    exact ⟨nonempty, start, each, ends, apart⟩

theorem region_pattern_iff {text : List Char} : regionPattern.rmatch text = true ↔
    text ≠ [] ∧ (∀ character ∈ text, isLowerAscii character ∨ isUpperAscii character ∨
      character.isDigit ∨ character = '-' ∨ character = '_') ∧
      text.head? ≠ some '-' ∧ text.head? ≠ some '_' := by
  have first : ∀ character, character ∈ upperLetters ++ lowerLetters ++ digitCharacters ↔
      (isLowerAscii character ∨ isUpperAscii character ∨ character.isDigit ∨ character = '-' ∨
        character = '_') ∧ character ≠ '-' ∧ character ≠ '_' := by
    intro character
    simp only [List.mem_append, mem_upper_letters, mem_lower_letters, mem_digit_characters]
    constructor
    · rintro ((upper | lower) | digit)
      · exact ⟨Or.inr (Or.inl upper), (by rintro rfl; cases upper), (by rintro rfl; cases upper)⟩
      · exact ⟨Or.inl lower, (by rintro rfl; cases lower), (by rintro rfl; cases lower)⟩
      · exact ⟨Or.inr (Or.inr (Or.inl digit)), (by rintro rfl; cases digit),
          (by rintro rfl; cases digit)⟩
    · rintro ⟨lower | upper | digit | hyphen | low, noHyphen, noLow⟩
      · exact Or.inl (Or.inr lower)
      · exact Or.inl (Or.inl upper)
      · exact Or.inr digit
      · exact absurd hyphen noHyphen
      · exact absurd low noLow
  have rest : ∀ character,
      character ∈ upperLetters ++ lowerLetters ++ digitCharacters ++ ['_', '-'] ↔
      isLowerAscii character ∨ isUpperAscii character ∨ character.isDigit ∨ character = '-' ∨
        character = '_' := by
    intro character
    simp only [List.mem_append, mem_upper_letters, mem_lower_letters, mem_digit_characters,
      List.mem_cons, List.not_mem_nil, or_false]
    simp only [or_comm, or_left_comm, or_assoc]
  rw [RegularExpression.rmatch_iff_matches', regionPattern, mem_one_of_then_star]
  simp only [first, rest]
  cases text with
  | nil => simp
  | cons head tail =>
      simp only [List.cons.injEq, List.forall_mem_cons, List.head?_cons, ne_eq,
        Option.some.injEq, reduceCtorEq, not_false_eq_true, true_and]
      constructor
      · rintro ⟨_, _, ⟨rfl, rfl⟩, ⟨known, noHyphen, noLow⟩, each⟩
        exact ⟨⟨known, each⟩, noHyphen, noLow⟩
      · rintro ⟨⟨known, each⟩, noHyphen, noLow⟩
        exact ⟨head, tail, ⟨rfl, rfl⟩, ⟨known, noHyphen, noLow⟩, each⟩

theorem fixture_texts : (identifierPattern.rmatch texts.caseId.toList = true ∧
    regionPattern.rmatch texts.region.toList = true ∧
    EconomicKernel.decimal (some texts.termMonths) true = true) ↔
      texts.WellFormed ∧ texts.Strict := by
  simp only [identifier_pattern_iff, region_pattern_iff, EconomicKernel.decimal, Option.any_some,
    Bool.and_eq_true, Bool.true_and, Bool.not_eq_true', beq_eq_false_iff_ne]
  constructor
  · rintro ⟨⟨idNonempty, idStart, idCharacters, idEnd, apart⟩, ⟨regionNonempty, regionCharacters,
      noHyphen, noLow⟩, term, nonzero⟩
    exact ⟨⟨idNonempty, idStart, idEnd, idCharacters, regionNonempty, regionCharacters, term⟩,
      apart, noHyphen, noLow, nonzero⟩
  · rintro ⟨⟨idNonempty, idStart, idEnd, idCharacters, regionNonempty, regionCharacters, term⟩,
      apart, noHyphen, noLow, nonzero⟩
    exact ⟨⟨idNonempty, idStart, idCharacters, idEnd, apart⟩, ⟨regionNonempty, regionCharacters,
      noHyphen, noLow⟩, term, nonzero⟩

/-- A validator that adds rules on the open texts to the shared ones. -/
theorem open_rules (identifier region term : String → Bool) {dimensions : Json}
    (found : case.field "dimensions" = some dimensions) :
    ((stringField case "case_id").any identifier = true ∧
      (stringField dimensions "region").any region = true ∧
      (stringField dimensions "term_months").any term = true) ↔
    ∃ texts, openTexts case = some texts ∧ identifier texts.caseId = true ∧
      region texts.region = true ∧ term texts.termMonths = true := by
  simp only [openTexts, found, Option.bind_eq_bind, Option.bind_some]
  cases stringField case "case_id" <;> cases stringField dimensions "region" <;>
    cases stringField dimensions "term_months" <;> simp

theorem kernel_case : EconomicKernel.validateCase case = true ↔ sharedCase case = true ∧
    ∃ texts, openTexts case = some texts ∧ texts.WellFormed ∧ texts.Short := by
  cases found : case.field "dimensions" with
  | none => simp [EconomicKernel.validateCase, sharedCase, found]
  | some dimensions =>
      have rules := open_rules (fun text => EconomicKernel.validIdentifier (some text))
        (fun text => EconomicKernel.validDimension (some text))
        (fun text => EconomicKernel.decimal (some text) false) found
      simp only [← kernel_texts, ← rules]
      simp only [EconomicKernel.validateCase, sharedCase, found, Option.any_some,
        kernel_dimensions, Bool.and_eq_true]
      constructor
      · rintro ⟨⟨⟨⟨⟨⟨⟨⟨keys, identifier⟩, version⟩, shared, region, term⟩, expected⟩, inputs⟩,
          operation⟩, oracle⟩, units⟩
        exact ⟨⟨⟨⟨⟨⟨⟨⟨keys, version⟩, shared⟩, expected⟩, inputs⟩, operation⟩, oracle⟩, units⟩,
          identifier, region, term⟩
      · rintro ⟨⟨⟨⟨⟨⟨⟨⟨keys, version⟩, shared⟩, expected⟩, inputs⟩, operation⟩, oracle⟩, units⟩,
          identifier, region, term⟩
        exact ⟨⟨⟨⟨⟨⟨⟨⟨keys, identifier⟩, version⟩, shared, region, term⟩, expected⟩, inputs⟩,
          operation⟩, oracle⟩, units⟩

theorem fixture_section {check : Option Json → Bool} {kernelCheck : Json → Bool} {key : String}
    (agree : ∀ value, check (some value) = kernelCheck value) (missing : check none = false) :
    check (case.field key) = (case.field key).any kernelCheck := by
  cases case.field key with
  | none => exact missing
  | some value => exact agree value

theorem fixture_case : validateCase case = true ↔ sharedCase case = true ∧
    ∃ texts, openTexts case = some texts ∧ texts.WellFormed ∧ texts.Strict := by
  cases found : case.field "dimensions" with
  | none =>
      simp [validateCase, sharedCase, found, validateDimensions, exactKeys]
  | some dimensions =>
      have rules := open_rules (fun text => identifierPattern.rmatch text.toList)
        (fun text => regionPattern.rmatch text.toList)
        (fun text => EconomicKernel.decimal (some text) true) found
      simp only [← fixture_texts, ← rules]
      simp only [validateCase, sharedCase, found, Option.any_some, fixture_dimensions,
        exact_keys_object (show ∀ name ∈ caseKeys, arrayIndex name = none by decide),
        assert_match_field, assert_equal_field, fixture_section inputs_agree rfl,
        fixture_section expected_agree rfl, fixture_section units_agree rfl,
        fixture_section oracle_agree rfl, Bool.and_eq_true]
      constructor
      · rintro ⟨⟨⟨⟨⟨⟨⟨⟨keys, identifier⟩, version⟩, expected⟩, operation⟩, oracle⟩, shared, region,
          term⟩, inputs⟩, units⟩
        exact ⟨⟨⟨⟨⟨⟨⟨⟨keys, version⟩, shared⟩, expected⟩, inputs⟩, operation⟩, oracle⟩, units⟩,
          identifier, region, term⟩
      · rintro ⟨⟨⟨⟨⟨⟨⟨⟨keys, version⟩, shared⟩, expected⟩, inputs⟩, operation⟩, oracle⟩, units⟩,
          identifier, region, term⟩
        exact ⟨⟨⟨⟨⟨⟨⟨⟨keys, identifier⟩, version⟩, expected⟩, operation⟩, oracle⟩, shared, region,
          term⟩, inputs⟩, units⟩

/-- The three open texts of an otherwise accepted case are within the rules of both
validators or of neither. -/
def SameRules (case : Json) : Prop :=
  ∀ texts, sharedCase case = true → openTexts case = some texts → texts.WellFormed →
    (texts.Short ↔ texts.Strict)

/-- The two validators give a case the same verdict exactly under the same rules. -/
theorem case_schemas_agree_iff (case : Json) :
    EconomicKernel.validateCase case = validateCase case ↔ SameRules case := by
  rw [Bool.eq_iff_iff, kernel_case, fixture_case]
  constructor
  · intro same texts shared opened wellFormed
    constructor
    · intro short
      obtain ⟨_, other, otherOpened, _, strict⟩ := same.mp ⟨shared, texts, opened, wellFormed, short⟩
      rw [Option.some.inj (opened.symm.trans otherOpened)]
      exact strict
    · intro strict
      obtain ⟨_, other, otherOpened, _, short⟩ :=
        same.mpr ⟨shared, texts, opened, wellFormed, strict⟩
      rw [Option.some.inj (opened.symm.trans otherOpened)]
      exact short
  · intro rules
    constructor
    · rintro ⟨shared, texts, opened, wellFormed, short⟩
      exact ⟨shared, texts, opened, wellFormed, (rules texts shared opened wellFormed).mp short⟩
    · rintro ⟨shared, texts, opened, wellFormed, strict⟩
      exact ⟨shared, texts, opened, wellFormed, (rules texts shared opened wellFormed).mpr strict⟩

/-- A case without a commitment whose dimensions name a term of no months. -/
def zeroTermCase : Json :=
  .object [
    ("case_id", .string "zero-term"),
    ("case_version", .string "economic-kernel-case/v1"),
    ("dimensions", .object [
      ("instrument", .string "no_action"),
      ("payment_option", .string "not_applicable"),
      ("provider", .string "aws"),
      ("region", .string "us-east-1"),
      ("tenant_reporting_currency", .string "USD"),
      ("term_months", .string "0")]),
    ("expected", .object (expectedKeys.map fun key => (key, .string "0"))),
    ("inputs", .object (inputKeys.map fun key =>
      (key, .string (if key = "term_months" then "1" else "0")))),
    ("operation", .string "evaluate"),
    ("oracle", .object (OWNER.map fun entry => (entry.1, .string entry.2))),
    ("units", .object (inputKeys.map fun key =>
      (key, .string
        (if key = "liquidity_penalty_bps" then "basis_points"
        else if key = "term_months" then "count"
        else "tenant_reporting_currency_minor_unit"))))]

theorem zero_term_accepted_by_kernel_only :
    EconomicKernel.validateCase zeroTermCase = true ∧ validateCase zeroTermCase = false := by
  have accepted : EconomicKernel.validateCase zeroTermCase = true := by decide
  refine ⟨accepted, Bool.eq_false_iff.mpr fun valid => ?_⟩
  obtain ⟨_, texts, opened, _, strict⟩ := fixture_case.mp valid
  have known : openTexts zeroTermCase = some ⟨"zero-term", "us-east-1", "0"⟩ := by decide
  rw [← Option.some.inj (known.symm.trans opened)] at strict
  exact absurd rfl strict.2.2.2

end Agreement

end CommitmentOptimizer.Optimizer.FixtureCaseContract
