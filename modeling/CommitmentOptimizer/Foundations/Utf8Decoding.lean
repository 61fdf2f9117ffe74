import Mathlib.Data.List.Basic
import Mathlib.Order.Basic

/-!
# Decoding UTF-8

The decoder that replaces what is not well formed, as a machine that takes one byte at a time.
A text of ASCII characters is decoded from its own bytes and from no others.
-/

namespace CommitmentOptimizer.Foundations.Utf8Decoding

set_option autoImplicit false

section Decoder

/-- The bytes of a sequence that are still owed, the bits so far, and the bounds of the next
byte. -/
structure Sequence where
  needed : Nat
  bits : Nat
  lower : Nat
  upper : Nat
  deriving DecidableEq, Repr

def replacement : Char := Char.ofNat 0xfffd

def scalar (code : Nat) : Char := if code.isValidChar then Char.ofNat code else replacement

/-- A byte that no sequence waits for. -/
def firstByte (byte : Nat) : List Char × Option Sequence :=
  if byte < 0x80 then ([scalar byte], none)
  else if 0xc2 ≤ byte ∧ byte ≤ 0xdf then ([], some ⟨1, byte - 0xc0, 0x80, 0xbf⟩)
  else if 0xe0 ≤ byte ∧ byte ≤ 0xef then
    ([], some ⟨2, byte - 0xe0, if byte = 0xe0 then 0xa0 else 0x80,
      if byte = 0xed then 0x9f else 0xbf⟩)
  else if 0xf0 ≤ byte ∧ byte ≤ 0xf4 then
    ([], some ⟨3, byte - 0xf0, if byte = 0xf0 then 0x90 else 0x80,
      if byte = 0xf4 then 0x8f else 0xbf⟩)
  else ([replacement], none)

/-- One byte; a byte that does not belong to the sequence ends it and is read again. -/
def nextByte : Option Sequence → Nat → List Char × Option Sequence
  | none, byte => firstByte byte
  | some sequence, byte =>
      if sequence.lower ≤ byte ∧ byte ≤ sequence.upper then
        let bits := sequence.bits * 0x40 + (byte - 0x80)
        if sequence.needed ≤ 1 then ([scalar bits], none)
        else ([], some ⟨sequence.needed - 1, bits, 0x80, 0xbf⟩)
      else (replacement :: (firstByte byte).1, (firstByte byte).2)

def decodeFrom : Option Sequence → List UInt8 → List Char
  | none, [] => []
  | some _, [] => [replacement]
  | state, byte :: rest =>
      (nextByte state byte.toNat).1 ++ decodeFrom (nextByte state byte.toNat).2 rest

/-- `bytes.toString("utf8")`. -/
def decodeUtf8 (bytes : List UInt8) : List Char := decodeFrom none bytes

/-- `Buffer.from(text, "utf8")`. -/
def encodeUtf8 (text : List Char) : List UInt8 := text.flatMap String.utf8EncodeChar

end Decoder

section Ascii

def isAscii (text : List Char) : Bool := text.all fun character => character.toNat < 0x80

theorem scalar_valid {code : Nat} (valid : code.isValidChar) : (scalar code).toNat = code := by
  rw [scalar, if_pos valid, Char.ofNat, dif_pos valid]
  rfl

theorem scalar_to_nat {code : Nat} (high : 0x80 ≤ code) : 0x80 ≤ (scalar code).toNat := by
  by_cases valid : code.isValidChar
  · rw [scalar_valid valid]
    exact high
  · rw [scalar, if_neg valid]
    decide

/-- What the sequence comes to is no ASCII character. -/
def Wide (sequence : Sequence) : Prop :=
  0x80 ≤ sequence.lower ∧ ((sequence.needed ≤ 1 ∧ 2 ≤ sequence.bits) ∨
    (sequence.needed = 2 ∧ 2 ≤ sequence.bits * 0x40 + (sequence.lower - 0x80)) ∨
    (sequence.needed = 3 ∧ 1 ≤ sequence.bits * 0x40 + (sequence.lower - 0x80)))

theorem first_byte_wide {byte : Nat} {sequence : Sequence}
    (started : (firstByte byte).2 = some sequence) : Wide sequence := by
  unfold firstByte at started
  split_ifs at started <;> cases started <;> dsimp only [Wide] <;> omega

theorem is_ascii_append {left right : List Char} :
    isAscii (left ++ right) = true ↔ isAscii left = true ∧ isAscii right = true := by
  rw [isAscii, List.all_append, Bool.and_eq_true]
  rfl

theorem replacement_not_ascii (rest : List Char) : isAscii (replacement :: rest) = false := by
  rw [isAscii, List.all_cons, Bool.and_eq_false_iff]
  exact Or.inl rfl

/-- A sequence that was begun leaves a character that is not ASCII. -/
theorem sequence_not_ascii {sequence : Sequence} (wide : Wide sequence) (bytes : List UInt8) :
    isAscii (decodeFrom (some sequence) bytes) = false := by
  induction bytes generalizing sequence with
  | nil => exact replacement_not_ascii []
  | cons byte rest induction =>
      obtain ⟨lower, cases⟩ := wide
      rw [decodeFrom]
      by_cases within : sequence.lower ≤ byte.toNat ∧ byte.toNat ≤ sequence.upper
      · by_cases last : sequence.needed ≤ 1
        · have high : 0x80 ≤ sequence.bits * 0x40 + (byte.toNat - 0x80) := by omega
          have code := scalar_to_nat high
          rw [nextByte, if_pos within]
          dsimp only
          rw [if_pos last]
          simp only [isAscii, List.cons_append, List.all_cons, Bool.and_eq_false_iff,
            decide_eq_false_iff_not]
          exact Or.inl (Nat.not_lt.mpr code)
        · have onward : Wide ⟨sequence.needed - 1,
              sequence.bits * 0x40 + (byte.toNat - 0x80), 0x80, 0xbf⟩ := by
            dsimp only [Wide]
            omega
          rw [nextByte, if_pos within]
          dsimp only
          rw [if_neg last]
          exact induction onward
      · rw [nextByte, if_neg within]
        exact replacement_not_ascii _

theorem encode_ascii {character : Char} (ascii : character.toNat < 0x80) :
    String.utf8EncodeChar character = [UInt8.ofNat character.toNat] := by
  have small : character.val.toNat ≤ 0x7f := by
    have code : character.toNat = character.val.toNat := rfl
    omega
  rw [String.utf8EncodeChar, if_pos small]
  rfl

/-- Bytes that are decoded to ASCII characters are the bytes of these characters. -/
theorem encode_of_decoded_ascii {bytes : List UInt8} (ascii : isAscii (decodeUtf8 bytes) = true) :
    encodeUtf8 (decodeUtf8 bytes) = bytes := by
  induction bytes with
  | nil => rfl
  | cons byte rest induction =>
      rw [decodeUtf8, decodeFrom] at ascii ⊢
      obtain ⟨first, onward⟩ := is_ascii_append.mp ascii
      cases started : (nextByte none byte.toNat).2 with
      | some sequence =>
          rw [started, sequence_not_ascii (first_byte_wide started)] at onward
          cases onward
      | none =>
          rw [started] at onward
          by_cases small : byte.toNat < 0x80
          · have single : (nextByte none byte.toNat).1 = [scalar byte.toNat] := by
              rw [nextByte, firstByte, if_pos small]
            have code := scalar_valid (show byte.toNat.isValidChar from Or.inl (by omega))
            rw [single, List.singleton_append, encodeUtf8, List.flatMap_cons,
              encode_ascii (by rw [code]; exact small), code, UInt8.ofNat_toNat]
            exact congrArg (byte :: ·) (induction onward)
          · have refused : (nextByte none byte.toNat).1 = [replacement] := by
              rw [nextByte, firstByte, if_neg small] at started ⊢
              split_ifs at started ⊢
              rfl
            rw [refused, replacement_not_ascii] at first
            cases first

/-- The bytes of an ASCII text are decoded to the text. -/
theorem decode_encoded_ascii {text : List Char} (ascii : isAscii text = true) :
    decodeUtf8 (encodeUtf8 text) = text := by
  induction text with
  | nil => rfl
  | cons character rest induction =>
      rw [isAscii, List.all_cons, Bool.and_eq_true] at ascii
      have small : character.toNat < 0x80 := of_decide_eq_true ascii.1
      have byte : (UInt8.ofNat character.toNat).toNat = character.toNat := by
        rw [UInt8.toNat_ofNat', Nat.mod_eq_of_lt (by omega)]
      have next : nextByte none (UInt8.ofNat character.toNat).toNat = ([character], none) := by
        have valid : character.toNat.isValidChar := Or.inl (by omega)
        rw [byte, nextByte, firstByte, if_pos small, scalar, if_pos valid, Char.ofNat_toNat]
      rw [encodeUtf8, List.flatMap_cons, encode_ascii small, List.singleton_append, decodeUtf8,
        decodeFrom, next]
      exact congrArg (character :: ·) (induction ascii.2)

end Ascii

end CommitmentOptimizer.Foundations.Utf8Decoding
