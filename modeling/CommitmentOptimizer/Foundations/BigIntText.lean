import Mathlib.Data.List.Induction
import Mathlib.Tactic.SplitIfs
import CommitmentOptimizer.Foundations.Json
import CommitmentOptimizer.Foundations.SqlConstraints

/-!
# Decimal text

What `BigInt(text)` reads, and the digits that reading and printing share.
-/

namespace CommitmentOptimizer.Foundations.BigIntText

open SqlConstraints

set_option autoImplicit false

def natOfDigits (base : Nat) (digits : List Char) : Option Nat :=
  if digits = [] then none
  else digits.foldlM (fun total character =>
    match hexDigit character with
    | some digit => if digit < base then some (total * base + digit) else none
    | none => none) 0

/-- `BigInt(text)`. -/
def bigIntOfString (text : String) : Option Int :=
  match jsTrim text.toList with
  | [] => some 0
  | '-' :: digits => (natOfDigits 10 digits).map fun value => -(value : Int)
  | '+' :: digits => (natOfDigits 10 digits).map Int.ofNat
  | '0' :: 'x' :: digits | '0' :: 'X' :: digits => (natOfDigits 16 digits).map Int.ofNat
  | '0' :: 'o' :: digits | '0' :: 'O' :: digits => (natOfDigits 8 digits).map Int.ofNat
  | '0' :: 'b' :: digits | '0' :: 'B' :: digits => (natOfDigits 2 digits).map Int.ofNat
  | digits => (natOfDigits 10 digits).map Int.ofNat

theorem digit_bounds {character : Char} (digit : character.isDigit = true) :
    48 ≤ character.toNat ∧ character.toNat ≤ 57 := by
  simp only [Char.isDigit, Bool.and_eq_true, decide_eq_true_eq] at digit
  exact ⟨digit.1, digit.2⟩

theorem hex_digit_of_digit {character : Char} (digit : character.isDigit = true) :
    hexDigit character = some (character.toNat - 48) := by
  unfold hexDigit
  rw [if_pos (digit_bounds digit)]

theorem digit_not_space {character : Char} (digit : character.isDigit = true) :
    isJsSpace character = false := by
  have bounds := digit_bounds digit
  simp [isJsSpace]
  omega

theorem read_digits {digits : List Char} (each : ∀ character ∈ digits, character.isDigit = true)
    (value : Nat) :
    digits.foldlM (fun total character =>
      match hexDigit character with
      | some digit => if digit < 10 then some (total * 10 + digit) else none
      | none => none) value = some (Nat.ofDigitChars 10 digits value) := by
  induction digits generalizing value with
  | nil => simp
  | cons character digits induction =>
      have digit := each character List.mem_cons_self
      have bounds := digit_bounds digit
      rw [List.foldlM_cons, hex_digit_of_digit digit, Nat.ofDigitChars_cons]
      dsimp only
      rw [if_pos (by omega), Option.bind_eq_bind, Option.bind_some,
        induction (fun other member => each other (List.mem_cons_of_mem _ member)),
        Nat.mul_comm value 10]
      rfl

theorem nat_of_digits {digits : List Char} (nonempty : digits ≠ [])
    (each : ∀ character ∈ digits, character.isDigit = true) :
    natOfDigits 10 digits = some (Nat.ofDigitChars 10 digits 0) := by
  rw [natOfDigits, if_neg nonempty]
  exact read_digits each 0

/-- There is nothing to trim in a text without spaces. -/
theorem trim_visible {text : List Char}
    (visible : ∀ character ∈ text, isJsSpace character = false) : jsTrim text = text := by
  have kept : ∀ text : List Char, (∀ character ∈ text, isJsSpace character = false) →
      text.dropWhile isJsSpace = text := by
    intro text every
    cases text with
    | nil => rfl
    | cons character text =>
        rw [List.dropWhile_cons, every character List.mem_cons_self]
        rfl
  rw [jsTrim, kept text visible, kept text.reverse fun character member =>
    visible character (List.mem_reverse.mp member), List.reverse_reverse]

theorem trim_digits {digits : List Char} (each : ∀ character ∈ digits, character.isDigit = true) :
    jsTrim digits = digits :=
  trim_visible fun character member => digit_not_space (each character member)

/-- A text of decimal digits is read as their number. -/
theorem big_int_of_digits {text : String} (nonempty : text.toList ≠ [])
    (each : ∀ character ∈ text.toList, character.isDigit = true) :
    bigIntOfString text = some (Nat.ofDigitChars 10 text.toList 0 : Int) := by
  unfold bigIntOfString
  rw [trim_digits each]
  split
  case h_1 empty => exact absurd empty nonempty
  case h_10 => rw [nat_of_digits nonempty each]; rfl
  all_goals
    -- a sign or the letter of a radix is no digit
    rename_i same
    simp [same, Char.isDigit] at each

theorem digits_of_nat (value : Nat) :
    ∀ character ∈ (toString value).toList, character.isDigit = true := by
  intro character member
  rw [Nat.toString_eq_ofList_toDigits, String.toList_ofList] at member
  exact Nat.isDigit_of_mem_toDigits (by decide) (by decide) member

/-- The digits of a number read back. -/
theorem big_int_of_nat (value : Nat) : bigIntOfString (toString value) = some (value : Int) := by
  have list : (toString value).toList = Nat.toDigits 10 value := by
    rw [Nat.toString_eq_ofList_toDigits, String.toList_ofList]
  rw [big_int_of_digits (by rw [list]; exact Nat.toDigits_ne_nil) (digits_of_nat value), list,
    Nat.ofDigitChars_ten_toDigits]

section Canonical

/-- `0|[1-9][0-9]*`. -/
def isDecimal (digits : List Char) : Bool :=
  digits ≠ [] && (digits.length = 1 || digits.head? ≠ some '0') && digits.all Char.isDigit

theorem zero_is_decimal : isDecimal "0".toList = true := by decide

theorem is_decimal_digits {digits : List Char} (decimal : isDecimal digits = true) :
    digits ≠ [] ∧ ∀ character ∈ digits, character.isDigit = true := by
  simp only [isDecimal, Bool.and_eq_true, decide_eq_true_eq, List.all_eq_true] at decimal
  exact ⟨decimal.1.1, decimal.2⟩

theorem digit_char_to_nat {character : Char} (digit : character.isDigit = true) :
    Nat.digitChar (character.toNat - 48) = character := by
  have bounds := digit_bounds digit
  have each : ∀ code : Fin 10, Nat.digitChar code.val = Char.ofNat (code.val + 48) := by decide
  have same := each ⟨character.toNat - 48, by omega⟩
  have code : character.toNat - 48 + 48 = character.toNat := by omega
  rw [code, Char.ofNat_toNat] at same
  exact same

theorem of_digit_chars_pos {first : Char} {digits : List Char} (digit : first.isDigit = true)
    (nonzero : first ≠ '0') : 0 < Nat.ofDigitChars 10 (first :: digits) 0 := by
  have bounds := digit_bounds digit
  have apart : first.toNat ≠ 48 := by
    intro same
    apply nonzero
    rw [← Char.ofNat_toNat first, same]
  have positive : 0 < 10 * 0 + (first.toNat - '0'.toNat) := by
    change 0 < 10 * 0 + (first.toNat - 48)
    omega
  rw [Nat.ofDigitChars_cons, Nat.ofDigitChars_eq_ofDigitChars_zero]
  exact Nat.lt_of_lt_of_le (Nat.mul_pos (Nat.pow_pos (by decide)) positive) (Nat.le_add_right _ _)

/-- Digits without a leading zero are the ones that print their number. -/
theorem to_digits_of_decimal {digits : List Char} (decimal : isDecimal digits = true) :
    Nat.toDigits 10 (Nat.ofDigitChars 10 digits 0) = digits := by
  induction digits using List.reverseRecOn with
  | nil => cases decimal
  | append_singleton digits last induction =>
      have lastDigit := (is_decimal_digits decimal).2 last (by simp)
      have bounds := digit_bounds lastDigit
      have final : Nat.ofDigitChars 10 (digits ++ [last]) 0 =
          10 * Nat.ofDigitChars 10 digits 0 + (last.toNat - 48) := by
        rw [Nat.ofDigitChars_append, Nat.ofDigitChars_cons, Nat.ofDigitChars_nil]
        rfl
      have single : Nat.toDigits 10 (last.toNat - 48) = [last] := by
        rw [Nat.toDigits_of_lt_base (by omega), digit_char_to_nat lastDigit]
      rw [final]
      match digits with
      | [] =>
          rw [Nat.ofDigitChars_nil, Nat.mul_zero, Nat.zero_add, single]
          rfl
      | first :: digits =>
          have every := (is_decimal_digits decimal).2
          have nonzero : first ≠ '0' := by
            simp [isDecimal] at decimal
            exact decimal.1
          have inner : isDecimal (first :: digits) = true := by
            have rest : ∀ character ∈ first :: digits, character.isDigit = true :=
              fun character member => every character (List.mem_append_left _ member)
            simpa [isDecimal, nonzero] using rest
          rw [← Nat.toDigits_append_toDigits (by decide)
            (of_digit_chars_pos (every first (by simp)) nonzero) (by omega), induction inner, single]

theorem is_decimal_to_digits (value : Nat) : isDecimal (Nat.toDigits 10 value) = true := by
  have every : ∀ character ∈ Nat.toDigits 10 value, character.isDigit = true :=
    fun _ member => Nat.isDigit_of_mem_toDigits (by decide) (by decide) member
  suffices head : (Nat.toDigits 10 value).length = 1 ∨
      (Nat.toDigits 10 value).head? ≠ some '0' by
    simp only [isDecimal, Bool.and_eq_true, Bool.or_eq_true, decide_eq_true_eq, List.all_eq_true]
    exact ⟨⟨Nat.toDigits_ne_nil, head⟩, every⟩
  clear every
  induction value using Nat.strong_induction_on with
  | _ value induction =>
      rw [Nat.toDigits_eq_if (by decide)]
      split_ifs with small
      · exact Or.inl rfl
      · refine Or.inr ?_
        rw [List.head?_append_of_ne_nil _ Nat.toDigits_ne_nil]
        rcases induction (value / 10) (by omega) with single | nonzero
        · by_cases below : value / 10 < 10
          · have positive : 0 < value / 10 := by omega
            rw [Nat.toDigits_of_lt_base below]
            have each : ∀ digit : Fin 10, 0 < digit.val → Nat.digitChar digit.val ≠ '0' := by
              decide
            simpa using each ⟨value / 10, below⟩ positive
          · rw [Nat.toDigits_eq_if (by decide), if_neg below] at single
            have longer : 0 < (Nat.toDigits 10 (value / 10 / 10)).length :=
              Nat.length_toDigits_pos
            simp at single
        · exact nonzero

/-- The number that a canonical text stands for has that text. -/
theorem to_string_of_decimal {text : String} (decimal : isDecimal text.toList = true) :
    toString (Nat.ofDigitChars 10 text.toList 0) = text := by
  rw [Nat.toString_eq_ofList_toDigits, to_digits_of_decimal decimal, String.ofList_toList]

theorem is_decimal_to_string (value : Nat) : isDecimal (toString value).toList = true := by
  rw [Nat.toString_eq_ofList_toDigits, String.toList_ofList]
  exact is_decimal_to_digits value

end Canonical

end CommitmentOptimizer.Foundations.BigIntText
