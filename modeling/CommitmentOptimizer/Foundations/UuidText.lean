import Mathlib.Tactic.Ring
import CommitmentOptimizer.Foundations.SqlConstraints

/-!
# Identifiers and their text

The canonical text of a 128-bit identifier reads back as the identifier.
-/

namespace CommitmentOptimizer.Foundations.UuidText

open SqlConstraints

set_option autoImplicit false

/-- The digits read before `value` and then those of the text. -/
def hexValue (value : Nat) (text : List Char) : Nat :=
  text.foldl (fun total character => total * 16 + (hexDigit character).getD 0) value

def IsHex (text : List Char) : Prop :=
  ∀ character ∈ text, (hexDigit character).isSome

theorem hex_digit_char {digit : Nat} (small : digit < 16) :
    hexDigit (Nat.digitChar digit) = some digit := by
  have each : ∀ digit : Fin 16, hexDigit (Nat.digitChar digit) = some digit.val := by decide
  exact each ⟨digit, small⟩

theorem hex_value_append (value : Nat) (first second : List Char) :
    hexValue value (first ++ second) = hexValue (hexValue value first) second :=
  List.foldl_append

theorem hex_digits_value (value : Nat) :
    IsHex (Nat.toDigits 16 value) ∧ hexValue 0 (Nat.toDigits 16 value) = value := by
  induction value using Nat.strong_induction_on with
  | _ value induction =>
      rw [Nat.toDigits_eq_if (by decide)]
      split_ifs with small
      · simp [IsHex, hexValue, hex_digit_char small]
      · obtain ⟨hex, same⟩ := induction (value / 16) (by omega)
        have last := hex_digit_char (Nat.mod_lt value (show 0 < 16 by decide))
        constructor
        · intro character member
          rcases List.mem_append.mp member with earlier | final
          · exact hex character earlier
          · rw [List.mem_singleton.mp final, last]
            rfl
        · rw [hex_value_append, same]
          simp only [hexValue, List.foldl_cons, List.foldl_nil, last, Option.getD_some]
          omega

/-- Leading zeros up to the 32 digits. -/
def padded (id : Uuid) : List Char :=
  List.replicate (32 - (Nat.toDigits 16 id).length) '0' ++ Nat.toDigits 16 id

theorem padded_hex (id : Uuid) : IsHex (padded id) := by
  intro character member
  rcases List.mem_append.mp member with zero | digit
  · rw [List.eq_of_mem_replicate zero]
    rfl
  · exact (hex_digits_value id).1 character digit

theorem hex_value_zeros (count : Nat) : hexValue 0 (List.replicate count '0') = 0 := by
  induction count with
  | zero => rfl
  | succ count induction => simpa [hexValue, List.replicate_succ, hexDigit] using induction

theorem hex_value_padded (id : Uuid) : hexValue 0 (padded id) = id := by
  rw [padded, hex_value_append, hex_value_zeros]
  exact (hex_digits_value id).2

theorem length_padded {id : Uuid} (bounded : id < 16 ^ 32) : (padded id).length = 32 := by
  have short := (Nat.length_toDigits_le_iff (by decide) (by decide)).mpr bounded
  simp only [padded, List.length_append, List.length_replicate]
  omega

theorem uuid_text_list (id : Uuid) :
    (uuidText id).toList = (padded id).take 8 ++ '-' :: (((padded id).drop 8).take 4 ++
      '-' :: (((padded id).drop 12).take 4 ++ '-' :: (((padded id).drop 16).take 4 ++
        '-' :: (padded id).drop 20))) := by
  change (String.intercalate "-" [String.ofList ((padded id).take 8),
    String.ofList (((padded id).drop 8).take 4), String.ofList (((padded id).drop 12).take 4),
    String.ofList (((padded id).drop 16).take 4), String.ofList ((padded id).drop 20)]).toList = _
  simp

theorem length_padded_ge (id : Uuid) : 32 ≤ (padded id).length := by
  simp only [padded, List.length_append, List.length_replicate]
  omega

/-- The five groups of digits. -/
theorem padded_groups (id : Uuid) :
    padded id = (padded id).take 8 ++ (((padded id).drop 8).take 4 ++ (((padded id).drop 12).take 4
      ++ (((padded id).drop 16).take 4 ++ (padded id).drop 20))) := by
  have next : ∀ start, ((padded id).drop start).take 4 ++ (padded id).drop (start + 4) =
      (padded id).drop start := by
    intro start
    rw [← List.drop_drop]
    exact List.take_append_drop 4 _
  rw [next 16, next 12, next 8]
  exact (List.take_append_drop 8 _).symm

/-- What is left to read after a byte, when `remaining` bytes are to come. -/
def afterByte (remaining : Nat) : List Char → List Char
  | '-' :: tail => if remaining % 2 = 0 ∧ 0 < remaining then tail else '-' :: tail
  | text => text

theorem after_byte_hex {remaining : Nat} {text : List Char} (hex : IsHex text) (rest : List Char)
    (nonempty : text ≠ []) : afterByte remaining (text ++ rest) = text ++ rest := by
  cases text with
  | nil => exact absurd rfl nonempty
  | cons character text =>
      have digit := hex character List.mem_cons_self
      rw [List.cons_append]
      unfold afterByte
      split
      case h_1 tail same =>
        cases same
        cases digit
      case h_2 => rfl

theorem read_byte {remaining value : Nat} {high low : Char} {text : List Char}
    (highDigit : (hexDigit high).isSome) (lowDigit : (hexDigit low).isSome) :
    readUuidBytes (remaining + 1) value (high :: low :: text) =
      readUuidBytes remaining (hexValue value [high, low]) (afterByte remaining text) := by
  obtain ⟨first, firstValue⟩ := Option.isSome_iff_exists.mp highDigit
  obtain ⟨second, secondValue⟩ := Option.isSome_iff_exists.mp lowDigit
  have total : hexValue value [high, low] = value * 256 + first * 16 + second := by
    simp only [hexValue, List.foldl_cons, List.foldl_nil, firstValue, secondValue,
      Option.getD_some]
    omega
  cases text with
  | nil => simp [readUuidBytes, firstValue, secondValue, total, afterByte]
  | cons next text =>
      by_cases hyphen : next = '-'
      · subst hyphen
        simp only [readUuidBytes, firstValue, secondValue, total, afterByte]
        rfl
      · simp [readUuidBytes, firstValue, secondValue, total, afterByte, hyphen]

/-- The digits of one or more bytes are read one byte after the other. -/
theorem read_group (remaining count : Nat) (rest : List Char) :
    ∀ (group : List Char) (value : Nat), group.length = 2 * (count + 1) → IsHex group →
      readUuidBytes (count + 1 + remaining) value (group ++ rest) =
        readUuidBytes remaining (hexValue value group) (afterByte remaining rest) := by
  induction count with
  | zero =>
      intro group value size hex
      obtain ⟨high, low, rfl⟩ := List.length_eq_two.mp size
      rw [Nat.zero_add, Nat.add_comm 1 remaining]
      exact read_byte (hex high (by simp)) (hex low (by simp))
  | succ count induction =>
      intro group value size hex
      match group with
      | high :: low :: group =>
          have inner : IsHex group := fun character member =>
            hex character (List.mem_cons_of_mem _ (List.mem_cons_of_mem _ member))
          have size' : group.length = 2 * (count + 1) := by simpa [Nat.mul_add] using size
          have nonempty : group ≠ [] := by
            intro empty
            simp [empty] at size'
          have order : count + 1 + 1 + remaining = count + 1 + remaining + 1 := by omega
          rw [order, List.cons_append, List.cons_append,
            read_byte (hex high (by simp)) (hex low (by simp)), after_byte_hex inner rest nonempty,
            induction group _ size' inner]
          rfl

theorem read_group_hyphen (remaining count : Nat) {tail group : List Char} {value : Nat}
    (even : remaining % 2 = 0) (more : 0 < remaining) (size : group.length = 2 * (count + 1))
    (hex : IsHex group) :
    readUuidBytes (count + 1 + remaining) value (group ++ '-' :: tail) =
      readUuidBytes remaining (hexValue value group) tail := by
  rw [read_group remaining count _ group value size hex, afterByte, if_pos ⟨even, more⟩]

/-- The canonical text of an identifier reads back. -/
theorem uuid_of_text_uuid_text {id : Uuid} (bounded : id < 16 ^ 32) :
    uuidOfText (uuidText id).toList = some id := by
  have size := length_padded bounded
  have hex := padded_hex id
  have part : ∀ group : List Char, group.Sublist (padded id) → IsHex group :=
    fun group sublist character member => hex character (sublist.subset member)
  have four : ∀ start, start ≤ 28 → (((padded id).drop start).take 4).length = 2 * (1 + 1) := by
    intro start small
    simp only [List.length_take, List.length_drop, size]
    omega
  have hexFour : ∀ start, IsHex (((padded id).drop start).take 4) := fun start =>
    part _ ((List.take_sublist _ _).trans (List.drop_sublist _ _))
  have read : readUuidBytes 16 0 (uuidText id).toList = some (id, []) := by
    have first : IsHex ((padded id).take 8) := part _ (List.take_sublist _ _)
    have last : IsHex ((padded id).drop 20) := part _ (List.drop_sublist _ _)
    rw [uuid_text_list]
    calc readUuidBytes 16 0 _
        = readUuidBytes 12 _ _ := read_group_hyphen 12 3 rfl (by decide) (by simp [size]) first
      _ = readUuidBytes 10 _ _ :=
          read_group_hyphen 10 1 rfl (by decide) (four 8 (by decide)) (hexFour 8)
      _ = readUuidBytes 8 _ _ :=
          read_group_hyphen 8 1 rfl (by decide) (four 12 (by decide)) (hexFour 12)
      _ = readUuidBytes 6 _ _ :=
          read_group_hyphen 6 1 rfl (by decide) (four 16 (by decide)) (hexFour 16)
      _ = readUuidBytes 6 _ (_ ++ []) := by rw [List.append_nil]
      _ = readUuidBytes 0 _ [] := read_group 0 5 [] _ _ (by simp [size]) last
      _ = some (id, []) := by
          rw [readUuidBytes, ← hex_value_append, ← hex_value_append, ← hex_value_append,
            ← hex_value_append, ← padded_groups, hex_value_padded]
  unfold uuidOfText
  split
  case h_1 inner same =>
    rw [same] at read
    cases inner with
    | nil => cases read
    | cons => simp [readUuidBytes, hexDigit] at read
  case h_2 => rw [read]

/-- Different identifiers have different texts. -/
theorem uuid_text_injective {left right : Uuid} (same : uuidText left = uuidText right) :
    left = right := by
  have texts := congrArg String.toList same
  rw [uuid_text_list, uuid_text_list] at texts
  have long := length_padded_ge left
  have longRight := length_padded_ge right
  have group : ∀ start count : Nat, start + count ≤ 32 →
      (((padded left).drop start).take count).length =
        (((padded right).drop start).take count).length := by
    intro start count inside
    simp only [List.length_take, List.length_drop]
    omega
  obtain ⟨first, texts⟩ := List.append_inj texts (group 0 8 (by decide))
  obtain ⟨second, texts⟩ := List.append_inj (List.cons.inj texts).2 (group 8 4 (by decide))
  obtain ⟨third, texts⟩ := List.append_inj (List.cons.inj texts).2 (group 12 4 (by decide))
  obtain ⟨fourth, texts⟩ := List.append_inj (List.cons.inj texts).2 (group 16 4 (by decide))
  have last := (List.cons.inj texts).2
  rw [← hex_value_padded left, ← hex_value_padded right, padded_groups left, padded_groups right,
    first, second, third, fourth, last]

theorem uuid_text_length (id : Uuid) :
    (uuidText id).length = 36 ↔ id < 16 ^ 32 := by
  rw [← String.length_toList, uuid_text_list]
  constructor
  · intro length
    refine (Nat.length_toDigits_le_iff (by decide) (by decide)).mp ?_
    simp [padded] at length
    omega
  · intro bounded
    simp [length_padded bounded]

end CommitmentOptimizer.Foundations.UuidText
