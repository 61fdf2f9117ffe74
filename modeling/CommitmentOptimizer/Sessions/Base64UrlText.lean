import CommitmentOptimizer.Foundations.PartialLists
import CommitmentOptimizer.Sessions.AccessTokens

/-!
# Bytes read back from their base64url text
-/

namespace CommitmentOptimizer.Sessions.Base64UrlText

open Foundations.PartialLists
open AccessTokens

set_option autoImplicit false

theorem base64_url_value_digit {value : Nat} (small : value < 64) :
    base64UrlValue (base64UrlDigit value) = some value := by
  have each : ∀ value : Fin 64, base64UrlValue (base64UrlDigit value) = some value.val := by
    decide
  exact each ⟨value, small⟩

theorem byte_of_nat {byte : UInt8} {value : Nat} (same : value % 256 = byte.toNat) :
    UInt8.ofNat value = byte :=
  UInt8.toNat_inj.mp ((UInt8.toNat_ofNat' ..).trans same)

/-- The values of the characters of an encoding, and what they decode to. -/
theorem read_encoded (bytes : List UInt8) :
    ∃ values, (encodeBase64Url bytes).mapM base64UrlValue = some values ∧
      decodeBase64Url values = bytes := by
  fun_induction encodeBase64Url bytes with
  | case1 first second third rest bits induction =>
      obtain ⟨values, read, decoded⟩ := induction
      have firstBound := first.toNat_lt
      have secondBound := second.toNat_lt
      have thirdBound := third.toNat_lt
      have total : bits / 0x40000 * 0x40000 + bits / 0x1000 % 64 * 0x1000 +
          bits / 0x40 % 64 * 0x40 + bits % 64 = bits := by omega
      refine ⟨bits / 0x40000 :: bits / 0x1000 % 64 :: bits / 0x40 % 64 :: bits % 64 :: values,
        ?_, ?_⟩
      · simp [List.mapM_cons, base64_url_value_digit (show bits / 0x40000 < 64 by omega),
          base64_url_value_digit (show bits / 0x1000 % 64 < 64 by omega),
          base64_url_value_digit (show bits / 0x40 % 64 < 64 by omega),
          base64_url_value_digit (show bits % 64 < 64 by omega), read]
      · rw [decodeBase64Url, decoded, total, @byte_of_nat first _ (by omega),
          @byte_of_nat second _ (by omega), @byte_of_nat third _ (by omega)]
  | case2 first second bits =>
      have firstBound := first.toNat_lt
      have secondBound := second.toNat_lt
      have total : bits / 0x1000 * 0x400 + bits / 0x40 % 64 * 0x10 + bits % 64 / 4 = bits / 4 := by
        omega
      refine ⟨[bits / 0x1000, bits / 0x40 % 64, bits % 64], ?_, ?_⟩
      · simp [List.mapM_cons, base64_url_value_digit (show bits / 0x1000 < 64 by omega),
          base64_url_value_digit (show bits / 0x40 % 64 < 64 by omega),
          base64_url_value_digit (show bits % 64 < 64 by omega)]
      · rw [decodeBase64Url, total, @byte_of_nat first _ (by omega),
          @byte_of_nat second _ (by omega)]
  | case3 first =>
      have firstBound := first.toNat_lt
      refine ⟨[first.toNat / 4, first.toNat % 4 * 16], ?_, ?_⟩
      · simp [List.mapM_cons, base64_url_value_digit (show first.toNat / 4 < 64 by omega),
          base64_url_value_digit (show first.toNat % 4 * 16 < 64 by omega)]
      · rw [decodeBase64Url, @byte_of_nat first _ (by omega)]
  | case4 => exact ⟨[], rfl, rfl⟩

theorem canonical_encoded (bytes : List UInt8) :
    canonicalBase64Url (encodeBase64Url bytes) = some bytes := by
  obtain ⟨values, read, decoded⟩ := read_encoded bytes
  simp [canonicalBase64Url, read, decoded]

theorem encoded_characters (bytes : List UInt8) :
    ∀ character ∈ encodeBase64Url bytes, (base64UrlValue character).isSome = true := by
  obtain ⟨values, read, -⟩ := read_encoded bytes
  intro character member
  obtain ⟨value, -, found⟩ := map_m_of_mem read member
  rw [found]
  rfl

theorem length_encoded (bytes : List UInt8) :
    (encodeBase64Url bytes).length = (bytes.length * 4 + 2) / 3 := by
  fun_induction encodeBase64Url bytes with
  | case1 first second third rest bits induction =>
      simp only [List.length_cons, induction]
      omega
  | case2 | case3 | case4 => simp only [List.length_cons, List.length_nil]

end CommitmentOptimizer.Sessions.Base64UrlText
