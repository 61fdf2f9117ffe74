import CommitmentOptimizer.Foundations.JsonReader
import CommitmentOptimizer.Foundations.Utf8Order
import CommitmentOptimizer.Optimizer.KernelProcess

/-!
# The canonical encoding of requests

`parseCanonical` of `json_contract.zig` with a reader of JSON text in place of
`std.json.parseFromSlice`: the accepted inputs are the encodings of the values without
numbers whose keys ascend.
-/

namespace CommitmentOptimizer.Optimizer.CanonicalRequests

open Foundations
open Foundations.JsonReader
open Foundations.JsonText
open Foundations.JsonTextUnique
open Foundations.Utf8Order
open KernelProcess

set_option autoImplicit false

/-- `std.json.parseFromSlice` of a UTF-8 text. -/
def parseFromSlice (readNumber : List Char → Option (Option Rat × List Char))
    (body : List UInt8) : Option Json :=
  (decodeUtf8 body).bind (readJson readNumber)

/-- `writeCanonical` and one newline. -/
def canonicalEncoding (value : Json) : List UInt8 := encodeUtf8 (writeCanonical value) ++ [10]

section Values

def keyBytes (fields : List (String × Json)) : List (List UInt8) :=
  fields.map fun field => utf8Bytes field.1.toList

mutual

/-- The bytes of the keys ascend in every object of the value. -/
def KeysIncreasing : Json → Prop
  | .array items => ItemsIncreasing items
  | .object fields => (keyBytes fields).Pairwise (· < ·) ∧ FieldsIncreasing fields
  | _ => True

def ItemsIncreasing : List Json → Prop
  | [] => True
  | item :: rest => KeysIncreasing item ∧ ItemsIncreasing rest

def FieldsIncreasing : List (String × Json) → Prop
  | [] => True
  | (_, value) :: rest => KeysIncreasing value ∧ FieldsIncreasing rest

end

/-- What the encoding is canonical for. -/
structure CanonicalValue (value : Json) : Prop where
  numberFree : numberFree value = true
  increasing : KeysIncreasing value

theorem key_bytes_lt {left right : String} :
    utf8Bytes left.toList < utf8Bytes right.toList ↔ left < right := by
  rw [utf8_bytes_lt_iff, String.lt_iff]

theorem key_bytes_trans {first second third : List UInt8} (before : first < second)
    (after : second < third) : first < third := List.lt_trans before after

mutual

theorem canonical_value_iff (value : Json) :
    canonicalValue value = true ↔ numberFree value = true ∧ KeysIncreasing value := by
  match value with
  | .null | .bool _ | .string _ => simp [canonicalValue, numberFree, KeysIncreasing]
  | .number _ => simp [canonicalValue, numberFree]
  | .array items =>
      rw [canonicalValue, numberFree, KeysIncreasing]
      exact canonical_items_iff items
  | .object fields =>
      rw [canonicalValue, numberFree, KeysIncreasing, canonical_fields_iff]
      simp only [Option.map_none, Option.toList_none, List.nil_append]
      exact ⟨fun ⟨free, below, ordered⟩ => ⟨free, ordered, below⟩,
        fun ⟨free, ordered, below⟩ => ⟨free, below, ordered⟩⟩

theorem canonical_items_iff (items : List Json) :
    canonicalItems items = true ↔ itemsNumberFree items = true ∧ ItemsIncreasing items := by
  match items with
  | [] => simp [canonicalItems, itemsNumberFree, ItemsIncreasing]
  | item :: rest =>
      rw [canonicalItems, itemsNumberFree, ItemsIncreasing, Bool.and_eq_true, Bool.and_eq_true,
        canonical_value_iff item, canonical_items_iff rest]
      exact and_and_and_comm

/-- The loop over the members keeps the key before. -/
theorem canonical_fields_iff (previous : Option String) (fields : List (String × Json)) :
    canonicalFields previous fields = true ↔ fieldsNumberFree fields = true ∧
      FieldsIncreasing fields ∧
      ((previous.map fun key => utf8Bytes key.toList).toList ++ keyBytes fields).Pairwise
        (· < ·) := by
  match fields with
  | [] => cases previous <;> simp [canonicalFields, fieldsNumberFree, FieldsIncreasing, keyBytes]
  | (key, value) :: rest =>
      rw [canonicalFields, fieldsNumberFree, FieldsIncreasing, Bool.and_eq_true, Bool.and_eq_true,
        Bool.and_eq_true, canonical_value_iff value, canonical_fields_iff (some key) rest]
      have chained : ((previous.map fun key => utf8Bytes key.toList).toList ++
            keyBytes ((key, value) :: rest)).Pairwise (· < ·) ↔
          previous.all (· < key) = true ∧
            (((some key).map fun key => utf8Bytes key.toList).toList ++
              keyBytes rest).Pairwise (· < ·) := by
        cases previous with
        | none => simp [keyBytes]
        | some before =>
            simp only [Option.map_some, Option.toList_some, List.cons_append, List.nil_append,
              keyBytes, List.map_cons, Option.all_some, decide_eq_true_eq, ← key_bytes_lt]
            rw [List.pairwise_cons]
            constructor
            · rintro ⟨first, ordered⟩
              exact ⟨first _ List.mem_cons_self, ordered⟩
            · rintro ⟨first, ordered⟩
              refine ⟨fun bytes member => ?_, ordered⟩
              rcases List.mem_cons.mp member with rfl | later
              · exact first
              · exact key_bytes_trans first ((List.pairwise_cons.mp ordered).1 bytes later)
      rw [chained]
      constructor
      · rintro ⟨⟨first, free, increasing⟩, freeRest, increasingRest, ordered⟩
        exact ⟨⟨free, freeRest⟩, ⟨increasing, increasingRest⟩, first, ordered⟩
      · rintro ⟨⟨free, freeRest⟩, ⟨increasing, increasingRest⟩, first, ordered⟩
        exact ⟨⟨first, free, increasing⟩, freeRest, increasingRest, ordered⟩

end

theorem keys_distinct {fields : List (String × Json)}
    (ordered : (keyBytes fields).Pairwise (· < ·)) : (fields.map Prod.fst).Nodup := by
  rw [List.nodup_iff_pairwise_ne, List.pairwise_map]
  refine (List.pairwise_map.mp ordered).imp ?_
  intro left right before same
  rw [same] at before
  exact List.lt_irrefl _ before

mutual

theorem readable_of_canonical {value : Json} (free : numberFree value = true)
    (increasing : KeysIncreasing value) : readable value = true := by
  match value with
  | .null | .bool _ | .string _ => rfl
  | .number _ => cases free
  | .array items =>
      rw [numberFree] at free
      rw [KeysIncreasing] at increasing
      exact readable_of_items free increasing
  | .object fields =>
      rw [numberFree] at free
      rw [KeysIncreasing] at increasing
      rw [readable, Bool.and_eq_true]
      exact ⟨readable_of_fields free increasing.2, decide_eq_true (keys_distinct increasing.1)⟩

theorem readable_of_items {items : List Json} (free : itemsNumberFree items = true)
    (increasing : ItemsIncreasing items) : readableItems items = true := by
  match items with
  | [] => rfl
  | item :: rest =>
      rw [itemsNumberFree, Bool.and_eq_true] at free
      rw [ItemsIncreasing] at increasing
      rw [readableItems, Bool.and_eq_true]
      exact ⟨readable_of_canonical free.1 increasing.1, readable_of_items free.2 increasing.2⟩

theorem readable_of_fields {fields : List (String × Json)}
    (free : fieldsNumberFree fields = true) (increasing : FieldsIncreasing fields) :
    readableFields fields = true := by
  match fields with
  | [] => rfl
  | (_, value) :: rest =>
      rw [fieldsNumberFree, Bool.and_eq_true] at free
      rw [FieldsIncreasing] at increasing
      rw [readableFields, Bool.and_eq_true]
      exact ⟨readable_of_canonical free.1 increasing.1, readable_of_fields free.2 increasing.2⟩

end

end Values

section Texts

variable {numberText : Rat → List Char}

/-- A control character is escaped. -/
theorem printable_of_all {characters : List Char}
    (all : characters.all (fun character => 0x20 ≤ character.toNat) = true) :
    ∀ character ∈ characters, 0x20 ≤ character.toNat := by
  simpa using all

theorem quoted_printable (text : String) : ∀ character ∈ quoted text, 0x20 ≤ character.toNat := by
  have escaped : ∀ inner character, character ∈ escapeCharacter inner → 0x20 ≤ character.toNat := by
    intro inner
    unfold escapeCharacter
    dsimp only
    split_ifs with quote slash back tab line form carriage control
    iterate 7 exact printable_of_all (by decide)
    · have digits : ∀ digit : Fin 16, 0x20 ≤ (Nat.digitChar digit.val).toNat := by decide
      simp only [List.mem_cons, List.not_mem_nil, or_false, forall_eq_or_imp, forall_eq]
      exact ⟨by decide, by decide, by decide, by decide,
        digits ⟨inner.toNat / 16, by omega⟩, digits ⟨inner.toNat % 16, by omega⟩⟩
    · simp only [List.mem_singleton, forall_eq]
      omega
  intro character member
  rw [quoted, escapeText] at member
  simp only [List.mem_cons, List.mem_append, List.mem_flatMap, List.not_mem_nil,
    or_false] at member
  rcases member with rfl | ⟨inner, _, inside⟩ | rfl
  · decide
  · exact escaped inner character inside
  · decide

mutual

theorem json_text_printable {value : Json} (free : numberFree value = true) :
    ∀ character ∈ jsonText numberText value, 0x20 ≤ character.toNat := by
  match value with
  | .null => exact @printable_of_all "null".toList (by decide)
  | .bool true => exact @printable_of_all "true".toList (by decide)
  | .bool false => exact @printable_of_all "false".toList (by decide)
  | .number _ => cases free
  | .string text => exact quoted_printable text
  | .array items =>
      rw [numberFree] at free
      intro character member
      simp only [jsonText, List.mem_cons, List.mem_append, List.not_mem_nil, or_false] at member
      rcases member with rfl | inside | rfl
      · decide
      · exact items_text_printable free character inside
      · decide
  | .object fields =>
      rw [numberFree] at free
      intro character member
      simp only [jsonText, List.mem_cons, List.mem_append, List.not_mem_nil, or_false] at member
      rcases member with rfl | inside | rfl
      · decide
      · exact fields_text_printable free character inside
      · decide

theorem items_text_printable {items : List Json} (free : itemsNumberFree items = true) :
    ∀ character ∈ itemsText numberText items, 0x20 ≤ character.toNat := by
  match items with
  | [] => nofun
  | [item] =>
      rw [itemsNumberFree, Bool.and_eq_true] at free
      exact json_text_printable free.1
  | item :: next :: rest =>
      rw [itemsNumberFree, Bool.and_eq_true] at free
      intro character member
      simp only [itemsText, List.mem_cons, List.mem_append] at member
      rcases member with inside | rfl | inside
      · exact json_text_printable free.1 character inside
      · decide
      · exact items_text_printable free.2 character inside

theorem fields_text_printable {fields : List (String × Json)}
    (free : fieldsNumberFree fields = true) :
    ∀ character ∈ fieldsText numberText fields, 0x20 ≤ character.toNat := by
  match fields with
  | [] => nofun
  | (name, value) :: rest =>
      rw [fieldsNumberFree, Bool.and_eq_true] at free
      intro character member
      rw [fields_text_cons] at member
      simp only [List.mem_cons, List.mem_append] at member
      rcases member with inside | rfl | inside | inside
      · exact quoted_printable name character inside
      · decide
      · exact json_text_printable free.1 character inside
      · match rest with
        | [] => cases inside
        | next :: rest =>
            rw [moreFields, List.mem_cons] at inside
            rcases inside with rfl | inside
            · decide
            · exact fields_text_printable free.2 character inside

end

theorem json_text_long {value : Json} (free : numberFree value = true) :
    2 ≤ (jsonText numberText value).length := by
  cases value with
  | null => simp [jsonText]
  | bool value => cases value <;> simp [jsonText]
  | number value => cases free
  | string text => simp [jsonText, quoted]
  | array items => simp [jsonText]
  | object fields => simp [jsonText]

/-- No byte of a printable text is a line break. -/
theorem utf8_char_printable {character : Char} (printable : 0x20 ≤ character.toNat) :
    ∀ byte ∈ String.utf8EncodeChar character, 0x20 ≤ byte.toNat := by
  have small : character.val.toNat < 0x110000 := by
    rcases character.valid with low | high
    · exact Nat.lt_trans low (by decide)
    · exact high.2
  have code : 0x20 ≤ character.val.toNat := printable
  unfold String.utf8EncodeChar
  dsimp only
  generalize character.val.toNat = number at small code ⊢
  split_ifs
  all_goals
    simp only [List.mem_cons, List.not_mem_nil, or_false, forall_eq_or_imp, forall_eq,
      UInt8.toNat_ofNat']
    omega

theorem utf8_bytes_printable {text : List Char}
    (printable : ∀ character ∈ text, 0x20 ≤ character.toNat) :
    ∀ byte ∈ utf8Bytes text, 0x20 ≤ byte.toNat := by
  intro byte member
  obtain ⟨character, inside, ofCharacter⟩ := List.mem_flatMap.mp member
  exact utf8_char_printable (printable character inside) byte ofCharacter

theorem utf8_bytes_length (text : List Char) : text.length ≤ (utf8Bytes text).length := by
  induction text with
  | nil => exact Nat.le_refl 0
  | cons character text induction =>
      have some : 0 < (String.utf8EncodeChar character).length :=
        List.length_pos_of_ne_nil String.utf8EncodeChar_ne_nil
      rw [utf8Bytes, List.flatMap_cons, List.length_append, List.length_cons]
      change _ ≤ _ + (utf8Bytes text).length
      omega

end Texts

section Requests

variable {readNumber : List Char → Option (Option Rat × List Char)} {input : List UInt8}
  {value : Json}

theorem canonical_value_bool : canonicalValue value = true ↔ CanonicalValue value := by
  rw [canonical_value_iff]
  exact ⟨fun ⟨free, increasing⟩ => ⟨free, increasing⟩,
    fun canonical => ⟨canonical.numberFree, canonical.increasing⟩⟩

/-- What passes is a canonical encoding by the last check. -/
theorem encoding_of_accepted (accepted : parseCanonical (parseFromSlice readNumber) input =
    some value) :
    CanonicalValue value ∧ input = canonicalEncoding value ∧ input.length ≤ 1024 * 1024 := by
  unfold parseCanonical at accepted
  dsimp only at accepted
  split_ifs at accepted with length ending carriage
  cases parsed : parseFromSlice readNumber input.dropLast with
  | none =>
      rw [parsed] at accepted
      cases accepted
  | some found =>
      rw [parsed] at accepted
      dsimp only at accepted
      split_ifs at accepted with checked
      obtain rfl := Option.some.inj accepted
      rw [Bool.and_eq_true, beq_iff_eq] at checked
      refine ⟨canonical_value_bool.mp checked.1, ?_, by omega⟩
      have last : input.getLast? = some 10 := by
        by_contra other
        exact ending (Or.inl other)
      rw [canonicalEncoding, checked.2]
      exact (List.dropLast_append_getLast? 10 last).symm

/-- A canonical encoding passes every check and is read as its value. -/
theorem accepted_of_encoding (canonical : CanonicalValue value)
    (small : (canonicalEncoding value).length ≤ 1024 * 1024) :
    parseCanonical (parseFromSlice readNumber) (canonicalEncoding value) = some value := by
  have free := canonical.numberFree
  have body : (canonicalEncoding value).dropLast = encodeUtf8 (writeCanonical value) :=
    List.dropLast_concat
  have printable : ∀ byte ∈ encodeUtf8 (writeCanonical value), 0x20 ≤ byte.toNat :=
    utf8_bytes_printable (json_text_printable free)
  have long : 2 ≤ (encodeUtf8 (writeCanonical value)).length :=
    (json_text_long free).trans (utf8_bytes_length _)
  have length : (canonicalEncoding value).length =
      (encodeUtf8 (writeCanonical value)).length + 1 := by
    rw [canonicalEncoding, List.length_append, List.length_singleton]
  have last : (canonicalEncoding value).getLast? = some 10 := List.getLast?_concat
  have noNewline : (encodeUtf8 (writeCanonical value)).getLast? ≠ some 10 := by
    intro newline
    exact absurd (printable 10 (List.mem_of_getLast? newline)) (by decide)
  have noReturn : (canonicalEncoding value).contains 13 = false := by
    rw [Bool.eq_false_iff]
    intro found
    rw [List.contains_iff_mem, canonicalEncoding, List.mem_append, List.mem_singleton] at found
    rcases found with inside | newline
    · exact absurd (printable 13 inside) (by decide)
    · exact absurd newline (by decide)
  have parsed : parseFromSlice readNumber (encodeUtf8 (writeCanonical value)) = some value := by
    rw [parseFromSlice]
    change (decodeUtf8 (utf8Bytes (writeCanonical value))).bind _ = _
    rw [decode_utf8_bytes, Option.bind_some]
    exact read_json_text (readable_of_canonical free canonical.increasing)
  unfold parseCanonical
  dsimp only
  rw [body, if_neg (by omega), if_neg (by simp [last, noNewline]),
    if_neg (by rw [noReturn]; exact Bool.false_ne_true), parsed]
  dsimp only
  rw [canonical_value_bool.mpr canonical, beq_self_eq_true]
  rfl

/-- The accepted inputs are the canonical encodings, each of the value it decodes to. -/
theorem canonical_requests (readNumber : List Char → Option (Option Rat × List Char)) :
    (∀ input, (∃ value, parseCanonical (parseFromSlice readNumber) input = some value) ↔
      ∃ value, CanonicalValue value ∧ input = canonicalEncoding value ∧
        input.length ≤ 1024 * 1024) ∧
    (∀ input value, parseCanonical (parseFromSlice readNumber) input = some value →
      canonicalEncoding value = input) ∧
    (∀ input other value, parseCanonical (parseFromSlice readNumber) input = some value →
      parseCanonical (parseFromSlice readNumber) other = some value → input = other) := by
  refine ⟨?_, ?_, ?_⟩
  · intro input
    constructor
    · rintro ⟨value, accepted⟩
      exact ⟨value, encoding_of_accepted accepted⟩
    · rintro ⟨value, canonical, rfl, small⟩
      exact ⟨value, accepted_of_encoding canonical small⟩
  · intro input value accepted
    exact (encoding_of_accepted accepted).2.1.symm
  · intro input other value first second
    rw [(encoding_of_accepted first).2.1, (encoding_of_accepted second).2.1]

end Requests

end CommitmentOptimizer.Optimizer.CanonicalRequests
