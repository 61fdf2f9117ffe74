import Mathlib.Data.List.Lex
import Mathlib.Data.Char
import Mathlib.Tactic.SplitIfs

/-!
# UTF-8 keeps the order of texts

The bytes of two texts compare as their characters do.
-/

namespace CommitmentOptimizer.Foundations.Utf8Order

open String

set_option autoImplicit false

/-- The bytes of a text. -/
def utf8Bytes (text : List Char) : List UInt8 := text.flatMap utf8EncodeChar

section Decoding

def decodeUtf8 (bytes : List UInt8) : Option (List Char) :=
  bytes.toByteArray.utf8Decode?.map Array.toList

theorem decode_utf8_bytes (text : List Char) : decodeUtf8 (utf8Bytes text) = some text := by
  have decoded : (utf8Bytes text).toByteArray.utf8Decode? = some text.toArray :=
    List.utf8Decode?_utf8Encode
  rw [decodeUtf8, decoded]
  rfl

theorem utf8_bytes_append (first second : List Char) :
    utf8Bytes (first ++ second) = utf8Bytes first ++ utf8Bytes second :=
  List.flatMap_append

theorem utf8_bytes_injective {left right : List Char} (same : utf8Bytes left = utf8Bytes right) :
    left = right := by
  have decoded := decode_utf8_bytes left
  rw [same, decode_utf8_bytes] at decoded
  exact (Option.some.inj decoded).symm

end Decoding

section Order

/-- A part of two lists that is the same does not matter to their order. -/
theorem lex_after_common {common leftRest rightRest : List UInt8} {first second : UInt8}
    (before : first < second) :
    common ++ first :: leftRest < common ++ second :: rightRest := by
  apply List.append_left_lt
  exact List.cons_lt_cons_iff.mpr (Or.inl before)

theorem byte_lt {first second : Nat} (firstSmall : first < 256) (secondSmall : second < 256)
    (before : first < second) : UInt8.ofNat first < UInt8.ofNat second := by
  rw [UInt8.lt_iff_toNat_lt, UInt8.toNat_ofNat', UInt8.toNat_ofNat', Nat.mod_eq_of_lt firstSmall,
    Nat.mod_eq_of_lt secondSmall]
  exact before

/-- Two sequences of bytes that differ in a byte of the same place. -/
def Splits (left right : List UInt8) : Prop :=
  ∃ common first second leftRest rightRest, left = common ++ first :: leftRest ∧
    right = common ++ second :: rightRest ∧ first < second

theorem splits_cons {left right : List UInt8} (byte : UInt8) (splits : Splits left right) :
    Splits (byte :: left) (byte :: right) := by
  obtain ⟨common, first, second, leftRest, rightRest, rfl, rfl, before⟩ := splits
  exact ⟨byte :: common, first, second, leftRest, rightRest, rfl, rfl, before⟩

theorem splits_head {first second : Nat} (firstSmall : first < 256) (secondSmall : second < 256)
    (before : first < second) (left right : List UInt8) :
    Splits (UInt8.ofNat first :: left) (UInt8.ofNat second :: right) :=
  ⟨[], _, _, left, right, rfl, rfl, byte_lt firstSmall secondSmall before⟩

/-- A digit decides, or the digits after it do. -/
theorem splits_digit {first second : Nat} (firstSmall : first < 256) (secondSmall : second < 256)
    (before : first ≤ second) {left right : List UInt8}
    (rest : first = second → Splits left right) :
    Splits (UInt8.ofNat first :: left) (UInt8.ofNat second :: right) := by
  rcases Nat.lt_or_eq_of_le before with less | same
  · exact splits_head firstSmall secondSmall less left right
  · rw [same]
    exact splits_cons _ (rest same)

/-- A longer sequence begins with a larger byte, and one of the same length has the digits
of its character, the highest first. -/
theorem utf8_char_splits {left right : Char} (before : left < right) :
    Splits (utf8EncodeChar left) (utf8EncodeChar right) := by
  have order : left.val.toNat < right.val.toNat := before
  have small : right.val.toNat < 0x110000 := by
    rcases right.valid with low | high
    · exact Nat.lt_trans low (by decide)
    · exact high.2
  unfold utf8EncodeChar
  dsimp only
  generalize left.val.toNat = code at order ⊢
  generalize right.val.toNat = other at order small ⊢
  split_ifs with one otherOne otherTwo otherThree two otherOne otherTwo otherThree three otherOne
    otherTwo otherThree otherOne otherTwo otherThree
  case pos => exact splits_head (by omega) (by omega) order _ _
  all_goals first
    | omega
    | exact splits_head (by omega) (by omega) (by omega) _ _
    | exact splits_digit (by omega) (by omega) (by omega) fun _ =>
        splits_head (by omega) (by omega) (by omega) _ _
    | exact splits_digit (by omega) (by omega) (by omega) fun _ =>
        splits_digit (by omega) (by omega) (by omega) fun _ =>
          splits_head (by omega) (by omega) (by omega) _ _
    | exact splits_digit (by omega) (by omega) (by omega) fun _ =>
        splits_digit (by omega) (by omega) (by omega) fun _ =>
          splits_digit (by omega) (by omega) (by omega) fun _ =>
            splits_head (by omega) (by omega) (by omega) _ _

theorem utf8_bytes_lt {left right : List Char} (before : left < right) :
    utf8Bytes left < utf8Bytes right := by
  induction left generalizing right with
  | nil =>
      cases right with
      | nil => exact absurd before (lt_irrefl _)
      | cons character right =>
          obtain ⟨byte, rest, bytes⟩ := List.exists_cons_of_ne_nil
            (@utf8EncodeChar_ne_nil character)
          rw [utf8Bytes, utf8Bytes, List.flatMap_cons, bytes]
          exact List.nil_lt_cons byte _
  | cons character left induction =>
      cases right with
      | nil => exact absurd before (List.not_lt_nil _)
      | cons other right =>
          rw [utf8Bytes, utf8Bytes, List.flatMap_cons, List.flatMap_cons]
          rcases List.cons_lt_cons_iff.mp before with less | ⟨rfl, rest⟩
          · obtain ⟨common, first, second, _, _, leftBytes, rightBytes, byte⟩ :=
              utf8_char_splits less
            rw [leftBytes, rightBytes, List.append_assoc, List.append_assoc, List.cons_append,
              List.cons_append]
            exact lex_after_common byte
          · exact List.append_left_lt (induction rest)

/-- The bytes of texts are ordered as the texts are. -/
theorem utf8_bytes_lt_iff {left right : List Char} :
    utf8Bytes left < utf8Bytes right ↔ left < right := by
  constructor
  · intro before
    rcases lt_trichotomy left right with less | same | greater
    · exact less
    · rw [same] at before
      exact absurd before (List.lt_irrefl _)
    · exact absurd before (List.lt_asymm (utf8_bytes_lt greater))
  · exact utf8_bytes_lt

end Order

end CommitmentOptimizer.Foundations.Utf8Order
