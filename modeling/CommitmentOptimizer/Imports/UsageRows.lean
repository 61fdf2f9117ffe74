import CommitmentOptimizer.Foundations.IsoInstants
import CommitmentOptimizer.Recommendations.RecommendationLifecycle

/-!
# Usage rows and control totals

The values that the import parsers build (`imports-types.ts`), each with what
its reader has checked.
-/

namespace CommitmentOptimizer.Imports.UsageRows

open Foundations
open Foundations.SqlConstraints
open Foundations.BigIntText
open Foundations.IsoInstants
open Recommendations.RecommendationLifecycle

set_option autoImplicit false

def hasControlCharacter (text : List Char) : Bool := text.any isControl

/-- `UNSIGNED_INTEGER_PATTERN`: `^(?:0|[1-9][0-9]{0,18})$`. -/
def isUnsignedInteger (text : List Char) : Bool := isDecimal text && text.length ≤ 19

/-- `text.split(".")`, of which the first two parts are used. -/
def splitPoint (text : List Char) : List Char × List Char :=
  (text.takeWhile (· ≠ '.'), ((text.dropWhile (· ≠ '.')).drop 1).takeWhile (· ≠ '.'))

/-- `DECIMAL_8_PATTERN`: `^(?:0|[1-9][0-9]{0,19})\.[0-9]{8}$`. -/
def isDecimal8 (text : List Char) : Bool :=
  let (whole, fraction) := splitPoint text
  text = whole ++ '.' :: fraction && isDecimal whole && whole.length ≤ 20 &&
    fraction.length = 8 && fraction.all Char.isDigit

structure UnsignedText where
  text : String
  canonical : isDecimal text.toList = true
  deriving DecidableEq

structure Decimal8 where
  text : String
  form : isDecimal8 text.toList = true
  deriving DecidableEq

/-- Trimmed, not empty, and free of control characters. -/
structure CleanText where
  text : String
  trimmed : jsTrim text.toList = text.toList
  nonempty : text.toList ≠ []
  printable : hasControlCharacter text.toList = false
  deriving DecidableEq

structure MonthText where
  text : String
  form : isMonth text.toList = true
  deriving DecidableEq

/-- A time value that `toISOString` accepts, in milliseconds. -/
structure JsDate where
  time : Int
  finite : -8640000000000000 ≤ time ∧ time ≤ 8640000000000000
  deriving DecidableEq

def JsDate.text (date : JsDate) : String := toIsoString date.time

/-- `BigInt(text)`. -/
def UnsignedText.value (number : UnsignedText) : Nat := digitsValue number.text.toList

/-- `parseScaledDecimal`. -/
def Decimal8.scaled (number : Decimal8) : Nat :=
  let (whole, fraction) := splitPoint number.text.toList
  digitsValue whole * 100000000 + digitsValue fraction

/-- `scaledDecimalText`. -/
def scaledDecimalText (value : Nat) : String :=
  toString (value / 100000000) ++ "." ++
    CalendarDates.padZeros 8 (toString (value % 100000000))

structure UsageLineItem where
  provider : Provider
  serviceCode : CleanText
  sku : CleanText
  region : CleanText
  usageStart : JsDate
  usageEnd : JsDate
  usageQuantity : Decimal8
  usageUnit : CleanText
  onDemandCostCents : UnsignedText
  realizedCostCents : UnsignedText
  commitmentAppliedCents : UnsignedText
  tags : List (String × Json)
  period : usageStart.time < usageEnd.time
  allocated : commitmentAppliedCents.value ≤ onDemandCostCents.value
  deriving DecidableEq

structure ImportControlTotal where
  provider : Provider
  serviceCode : CleanText
  region : CleanText
  month : MonthText
  lineCount : UnsignedText
  usageQuantity : Decimal8
  onDemandCostCents : UnsignedText
  realizedCostCents : UnsignedText
  commitmentAppliedCents : UnsignedText
  deriving DecidableEq

theorem unsigned_text_big_int (number : UnsignedText) :
    bigIntOfString number.text = some (number.value : Int) := by
  obtain ⟨nonempty, digits⟩ := is_decimal_digits number.canonical
  exact big_int_of_digits nonempty digits

/-- A number prints as the text exactly when it is the text's number. -/
theorem to_string_eq_unsigned {value : Nat} {number : UnsignedText} :
    toString value = number.text ↔ value = number.value := by
  constructor
  · intro same
    rw [UnsignedText.value, ← same, digits_value_to_string]
  · rintro rfl
    exact to_string_of_decimal number.canonical

theorem decimal8_parts (number : Decimal8) :
    ∃ whole fraction, number.text.toList = whole ++ '.' :: fraction ∧
      splitPoint number.text.toList = (whole, fraction) ∧ isDecimal whole = true ∧
      fraction.length = 8 ∧ ∀ character ∈ fraction, character.isDigit = true := by
  have form := number.form
  simp only [isDecimal8, Bool.and_eq_true, decide_eq_true_eq, List.all_eq_true] at form
  obtain ⟨⟨⟨⟨split, whole⟩, _⟩, eight⟩, digits⟩ := form
  exact ⟨_, _, split, rfl, whole, eight, digits⟩

/-- A text is read up to the first separator in one way. -/
theorem separated_inj {Symbol : Type} {separator : Symbol}
    {left right leftRest rightRest : List Symbol} (leftPlain : separator ∉ left)
    (rightPlain : separator ∉ right) :
    left ++ separator :: leftRest = right ++ separator :: rightRest ↔
      left = right ∧ leftRest = rightRest := by
  induction left generalizing right with
  | nil =>
      cases right with
      | nil => simp
      | cons symbol right =>
          have apart : separator ≠ symbol := fun same => rightPlain (by simp [same])
          simp [apart]
  | cons symbol left induction =>
      cases right with
      | nil =>
          have apart : symbol ≠ separator := fun same => leftPlain (by simp [same])
          simp [apart]
      | cons other right =>
          have inner := @induction right
            (fun member => leftPlain (List.mem_cons_of_mem _ member))
            (fun member => rightPlain (List.mem_cons_of_mem _ member))
          simp only [List.cons_append, List.cons.injEq, inner, and_assoc]

theorem scaled_decimal_text_eq {value : Nat} {number : Decimal8} :
    scaledDecimalText value = number.text ↔ value = number.scaled := by
  obtain ⟨whole, fraction, split, parts, decimal, eight, digits⟩ := decimal8_parts number
  obtain ⟨_, wholeDigits⟩ := is_decimal_digits decimal
  have fractionBound := digits_value_lt digits
  rw [eight] at fractionBound
  have scaled : number.scaled = digitsValue whole * 100000000 + digitsValue fraction := by
    rw [Decimal8.scaled, parts]
  have list : (scaledDecimalText value).toList = (toString (value / 100000000)).toList ++
      '.' :: (CalendarDates.padZeros 8 (toString (value % 100000000))).toList := by
    have point : ".".toList = ['.'] := rfl
    rw [scaledDecimalText, String.toList_append, String.toList_append, point, List.append_assoc]
    rfl
  have noPoint : ∀ {text : List Char}, (∀ character ∈ text, character.isDigit = true) →
      '.' ∉ text := by
    intro text every member
    cases every '.' member
  rw [← String.toList_inj, list, split,
    separated_inj (noPoint (digits_of_nat _)) (noPoint wholeDigits)]
  constructor
  · rintro ⟨sameWhole, sameFraction⟩
    rw [scaled, ← sameWhole, ← sameFraction, digits_value_to_string, pad_zeros_value]
    omega
  · intro same
    have wholeValue : value / 100000000 = digitsValue whole := by omega
    have fractionValue : value % 100000000 = digitsValue fraction := by omega
    constructor
    · rw [wholeValue, to_string_list]
      exact to_digits_of_decimal decimal
    · rw [fractionValue, ← eight]
      exact pad_zeros_of_digits (List.ne_nil_of_length_pos (by omega)) digits

end CommitmentOptimizer.Imports.UsageRows
