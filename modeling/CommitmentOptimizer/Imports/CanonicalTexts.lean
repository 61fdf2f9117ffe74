import CommitmentOptimizer.Imports.ImportRequests

/-!
# Texts that the readers and the tables share

A text that JavaScript has trimmed is one that `btrim` keeps, and an object key meets the
check of its column.
-/

namespace CommitmentOptimizer.Imports.CanonicalTexts

open Foundations
open Foundations.SqlConstraints
open ImportRequests
open UsageRows

set_option autoImplicit false

/-- A text that `trim` keeps is one that `btrim` keeps. -/
theorem btrim_of_trimmed {text : String} (trimmed : jsTrim text.toList = text.toList) :
    btrim text = text := by
  have space (character : Char) (blank : (character == ' ') = true) : isJsSpace character = true := by
    rw [beq_iff_eq.mp blank]
    decide
  have shorter : text.toList.length ≤ (text.toList.dropWhile isJsSpace).length := by
    calc text.toList.length = (jsTrim text.toList).length := by rw [trimmed]
      _ ≤ (text.toList.dropWhile isJsSpace).length := by
        have ends := (List.dropWhile_suffix isJsSpace
          (l := (text.toList.dropWhile isJsSpace).reverse)).length_le
        rwa [← List.length_reverse, ← jsTrim, List.length_reverse] at ends
  have front : text.toList.dropWhile isJsSpace = text.toList :=
    (List.dropWhile_suffix _).eq_of_length_le shorter
  have back : text.toList.rdropWhile isJsSpace = text.toList := by
    rw [jsTrim, front] at trimmed
    exact trimmed
  rw [btrim, List.dropWhile_eq_self_iff.mpr fun inside blank =>
      List.dropWhile_eq_self_iff.mp front inside (space _ blank),
    List.rdropWhile_eq_self_iff.mpr fun inside blank =>
      List.rdropWhile_eq_self_iff.mp back inside (space _ blank), String.ofList_toList]

theorem canonical_of_trimmed {text : String} {limit : Nat}
    (trimmed : jsTrim text.toList = text.toList) (nonempty : text.toList ≠ [])
    (printable : hasControlCharacter text.toList = false) (short : text.toList.length ≤ limit) :
    isCanonicalText limit text = true := by
  have visible : text ≠ "" := fun empty => nonempty (by rw [empty]; rfl)
  simp only [isCanonicalText, btrim_of_trimmed trimmed, beq_self_eq_true, Bool.true_and,
    Bool.and_eq_true, bne_iff_ne, decide_eq_true_eq, Bool.not_eq_true']
  exact ⟨⟨visible, String.length_toList ▸ short⟩, printable⟩

theorem length_le_utf16_length (text : List Char) : text.length ≤ utf16Length text := by
  induction text with
  | nil => exact le_refl 0
  | cons character rest induction =>
      rw [utf16Length] at induction ⊢
      rw [List.map_cons, List.sum_cons, List.length_cons]
      split_ifs <;> omega

theorem clean_canonical (text : CleanText) {limit : Nat} (short : text.text.toList.length ≤ limit) :
    isCanonicalText limit text.text = true :=
  canonical_of_trimmed text.trimmed text.nonempty text.printable short

theorem key_character_printable {character : Char} (plain : character.isAlphanum = true ∨
    character ∈ ['.', '_', '/', '-']) : isControl character = false := by
  rcases plain with letter | mark
  · delta Char.isAlphanum Char.isAlpha Char.isUpper Char.isLower Char.isDigit at letter
    simp only [Bool.or_eq_true, Bool.and_eq_true, decide_eq_true_eq, ge_iff_le,
      UInt32.le_iff_toNat_le] at letter
    have number : character.toNat = character.val.toNat := rfl
    simp only [isControl, number, Bool.or_eq_false_iff, Bool.and_eq_false_iff,
      decide_eq_false_iff_not]
    have upper : 'A'.val.toNat = 65 ∧ 'Z'.val.toNat = 90 := ⟨rfl, rfl⟩
    have lower : 'a'.val.toNat = 97 ∧ 'z'.val.toNat = 122 := ⟨rfl, rfl⟩
    have digit : '0'.val.toNat = 48 ∧ '9'.val.toNat = 57 := ⟨rfl, rfl⟩
    simp only [Char.toNat] at *
    omega
  · simp only [List.mem_cons, List.not_mem_nil, or_false] at mark
    rcases mark with rfl | rfl | rfl | rfl <;> decide

theorem object_key_canonical {key : String} (isKey : isObjectKey key.toList = true) :
    isCanonicalText 2048 key = true := by
  simp only [isObjectKey, Bool.and_eq_true, decide_eq_true_eq] at isKey
  obtain ⟨⟨⟨⟨trimmed, form⟩, -⟩, -⟩, -⟩ := isKey
  obtain ⟨list, isList⟩ : ∃ list, list = key.toList := ⟨_, rfl⟩
  rw [← isList] at form
  split at form
  case h_1 first rest =>
    simp only [isKeyStart, isKeyCharacter, Bool.and_eq_true, List.all_eq_true, Bool.or_eq_true,
      List.contains_iff_mem, decide_eq_true_eq] at form
    obtain ⟨⟨starts, each⟩, short⟩ := form
    have printable : hasControlCharacter key.toList = false := by
      rw [← isList, hasControlCharacter, List.any_cons, key_character_printable (Or.inl starts),
        Bool.false_or, List.any_eq_false]
      exact fun character member => Bool.eq_false_iff.mp (key_character_printable (each _ member))
    refine canonical_of_trimmed trimmed ?_ printable ?_
    · rw [← isList]
      exact List.cons_ne_nil _ _
    · rw [← isList, List.length_cons]
      omega
  case h_2 => cases form

end CommitmentOptimizer.Imports.CanonicalTexts
