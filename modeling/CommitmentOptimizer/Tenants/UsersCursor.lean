import Mathlib.Data.List.Sort
import CommitmentOptimizer.Foundations.JsonText
import CommitmentOptimizer.Foundations.Timestamps
import CommitmentOptimizer.Sessions.Base64UrlText

/-!
# The cursor of the users list

`users-cursor.ts`, with the two parsers of `users-input.ts` that it calls.
-/

namespace CommitmentOptimizer.Tenants.UsersCursor

open Foundations
open Foundations.JsonText
open Foundations.SqlConstraints
open Foundations.Timestamps
open Foundations.UuidText
open Sessions.AccessTokens
open Sessions.Base64UrlText
open Sessions.SessionTransactions

set_option autoImplicit false

section Model

structure AppError where
  code : String
  message : String
  statusCode : Nat
  deriving DecidableEq, Repr

def invalid : AppError := ⟨"VALIDATION_ERROR", "Request is invalid.", 400⟩

/-- SHA-256, `buffer.toString("utf8")` and `JSON.parse` where it does not throw. -/
structure CursorRuntime where
  sha256 : List UInt8 → List UInt8
  decodeUtf8 : List UInt8 → String
  parseJson : String → Option Json

structure UserCursorBoundary where
  createdAt : String
  id : String
  deriving DecidableEq

def parseUserTimestamp (value : String) : Except AppError String :=
  if isTimestampText value.toList then .ok value else .error invalid

def parseUserId (value : String) : Except AppError String :=
  if isCanonicalUuid value then .ok value else .error invalid

/-- `Buffer.from(text, "utf8")`. -/
def utf8Bytes (text : List Char) : List UInt8 := text.flatMap String.utf8EncodeChar

/-- The text of an integer in JSON. -/
def integerText (value : Rat) : List Char := (toString value.num).toList

def maxCursorLength : Nat := 512

def checksum (runtime : CursorRuntime) (createdAt id : String) : String :=
  String.ofList (encodeBase64Url
    ((runtime.sha256 (utf8Bytes ("users-cursor:v1\n" ++ createdAt ++ "\n" ++ id).toList)).take 16))

def cursorPayload (createdAt id check : String) : Json :=
  .object [("v", .number (some 1)), ("created_at", .string createdAt), ("id", .string id),
    ("check", .string check)]

/-- `Buffer.from(JSON.stringify(payload), "utf8").toString("base64url")`. -/
def payloadText (createdAt id check : String) : List Char :=
  encodeBase64Url (utf8Bytes (jsonText integerText (cursorPayload createdAt id check)))

def encodeUsersCursor (runtime : CursorRuntime) (boundary : UserCursorBoundary) :
    Except AppError String := do
  let createdAt ← parseUserTimestamp boundary.createdAt
  let id ← parseUserId boundary.id
  let encoded := payloadText createdAt id (checksum runtime createdAt id)
  if encoded.length > maxCursorLength then .error invalid
  else return String.ofList encoded

/-- `isCursorPayload`, with the members that it finds to be texts. -/
def readCursorPayload (value : Json) : Option (String × String × String) :=
  match value with
  | .object fields =>
      let keys := (fields.map Prod.fst).insertionSort (· ≤ ·)
      if keys.length = 4 ∧ ",".intercalate keys = "check,created_at,id,v" ∧
          value.field "v" = some (.number (some 1)) then
        match value.field "created_at", value.field "id", value.field "check" with
        | some (.string createdAt), some (.string id), some (.string check) =>
            some (createdAt, id, check)
        | _, _, _ => none
      else none
  | _ => none

/-- `timingSafeEqual` of two texts of one length. -/
def sameText (left right : String) : Bool := utf8Bytes left.toList == utf8Bytes right.toList

/-- `none` stands for a thrown error, whichever it is. -/
def readUsersCursor (runtime : CursorRuntime) (cursor : String) : Option UserCursorBoundary := do
  if cursor.length = 0 ∨ cursor.length > maxCursorLength ∨
      ¬ cursor.toList.all (fun character => (base64UrlValue character).isSome) then none
  else
    let decoded ← canonicalBase64Url cursor.toList
    let value ← runtime.parseJson (runtime.decodeUtf8 decoded)
    let (createdAt, id, check) ← readCursorPayload value
    let createdAt ← (parseUserTimestamp createdAt).toOption
    let id ← (parseUserId id).toOption
    let expected := checksum runtime createdAt id
    if sameText check expected then
      if payloadText createdAt id expected = cursor.toList then some ⟨createdAt, id⟩ else none
    else none

/-- The `catch` answers every error alike. -/
def decodeUsersCursor (runtime : CursorRuntime) (cursor : String) :
    Except AppError UserCursorBoundary :=
  match readUsersCursor runtime cursor with
  | some boundary => .ok boundary
  | none => .error invalid

end Model

section Codec

variable {runtime : CursorRuntime} {boundary : UserCursorBoundary} {cursor : String}

/-- A character that stands for itself in JSON and in UTF-8. -/
def isPlain (character : Char) : Bool :=
  0x20 ≤ character.toNat && character.toNat < 0x80 && character != '"' && character != '\\'

/-- What `JSON.stringify` and UTF-8 write of plain texts is read back. -/
structure ReadsBack (runtime : CursorRuntime) : Prop where
  utf8 : ∀ text : List Char, (∀ character ∈ text, character.toNat < 0x80) →
    runtime.decodeUtf8 (utf8Bytes text) = String.ofList text
  json : ∀ createdAt id check : String, createdAt.toList.all isPlain = true →
    id.toList.all isPlain = true → check.toList.all isPlain = true →
    runtime.parseJson (String.ofList (jsonText integerText (cursorPayload createdAt id check))) =
      some (cursorPayload createdAt id check)

theorem except_to_option_some {Error Value : Type} {result : Except Error Value} {value : Value}
    (some : result.toOption = .some value) : result = .ok value := by
  cases result with
  | error => cases some
  | ok => rw [Option.some.inj some]

theorem parse_user_timestamp_ok {value result : String} :
    parseUserTimestamp value = .ok result ↔ isTimestampText value.toList = true ∧ value = result := by
  unfold parseUserTimestamp
  split_ifs with valid <;> simp [valid]

theorem parse_user_id_ok {value result : String} :
    parseUserId value = .ok result ↔ isCanonicalUuid value = true ∧ value = result := by
  unfold parseUserId
  split_ifs with valid <;> simp [valid]

theorem encode_users_cursor_ok :
    encodeUsersCursor runtime boundary = .ok cursor ↔
      isTimestampText boundary.createdAt.toList = true ∧ isCanonicalUuid boundary.id = true ∧
        cursor.toList =
          payloadText boundary.createdAt boundary.id
            (checksum runtime boundary.createdAt boundary.id) ∧
        cursor.toList.length ≤ maxCursorLength := by
  simp only [encodeUsersCursor, bind_ok, parse_user_timestamp_ok, parse_user_id_ok]
  constructor
  · rintro ⟨createdAt, ⟨timestamp, rfl⟩, id, ⟨canonical, rfl⟩, encoded⟩
    split_ifs at encoded with long
    obtain rfl := Except.ok.inj encoded
    rw [String.toList_ofList]
    exact ⟨timestamp, canonical, rfl, Nat.le_of_not_lt long⟩
  · rintro ⟨timestamp, canonical, same, short⟩
    refine ⟨_, ⟨timestamp, rfl⟩, _, ⟨canonical, rfl⟩, ?_⟩
    rw [← same, if_neg (Nat.not_lt.mpr short), String.ofList_toList]
    rfl

theorem plain_ascii {text : List Char} (plain : text.all isPlain = true) :
    ∀ character ∈ text, character.toNat < 0x80 := by
  intro character member
  have each := List.all_eq_true.mp plain character member
  simp only [isPlain, Bool.and_eq_true, decide_eq_true_eq] at each
  exact each.1.1.2

theorem hex_plain {character : Char} (digit : (hexDigit character).isSome = true) :
    isPlain character = true := by
  have quote : character ≠ '"' := by
    rintro rfl
    cases digit
  have backslash : character ≠ '\\' := by
    rintro rfl
    cases digit
  simp only [isPlain, Bool.and_eq_true, decide_eq_true_eq, bne_iff_ne]
  refine ⟨⟨?_, quote⟩, backslash⟩
  simp only [hexDigit] at digit
  split_ifs at digit
  · omega
  · omega
  · omega
  · cases digit

theorem base64_url_plain {character : Char} (digit : (base64UrlValue character).isSome = true) :
    isPlain character = true := by
  have quote : character ≠ '"' := by
    rintro rfl
    cases digit
  have backslash : character ≠ '\\' := by
    rintro rfl
    cases digit
  simp only [isPlain, Bool.and_eq_true, decide_eq_true_eq, bne_iff_ne]
  refine ⟨⟨?_, quote⟩, backslash⟩
  simp only [base64UrlValue, base64Value] at digit
  split_ifs at digit with dash underscore standard upper lower number plus slash
  · subst dash
    decide
  · subst underscore
    decide
  · cases digit
  · omega
  · omega
  · omega
  · exact absurd (Or.inl plus) standard
  · exact absurd (Or.inr slash) standard
  · cases digit

/-- Plain characters are not escaped. -/
theorem escape_plain {text : String} (plain : text.toList.all isPlain = true) :
    escapeText text = text.toList := by
  have each : ∀ character ∈ text.toList, escapeCharacter character = [character] := by
    intro character member
    have plainCharacter := List.all_eq_true.mp plain character member
    simp only [isPlain, Bool.and_eq_true, decide_eq_true_eq, bne_iff_ne, ne_eq]
      at plainCharacter
    obtain ⟨⟨⟨low, _⟩, quote⟩, backslash⟩ := plainCharacter
    simp only [escapeCharacter, if_neg quote, if_neg backslash]
    rw [if_neg (by omega), if_neg (by omega), if_neg (by omega), if_neg (by omega),
      if_neg (by omega), if_neg (by omega)]
  rw [escapeText, List.flatMap_congr each, List.flatMap_singleton']

theorem payload_json_text {createdAt id check : String}
    (createdPlain : createdAt.toList.all isPlain = true) (idPlain : id.toList.all isPlain = true)
    (checkPlain : check.toList.all isPlain = true) :
    jsonText integerText (cursorPayload createdAt id check) =
      "\x7b\"v\":1,\"created_at\":\"".toList ++ (createdAt.toList ++ ("\",\"id\":\"".toList ++
        (id.toList ++ ("\",\"check\":\"".toList ++ (check.toList ++ "\"\x7d".toList))))) := by
  have one : integerText 1 = ['1'] := by decide
  have version : quoted "v" = ['"', 'v', '"'] := rfl
  have created : quoted "created_at" = "\"created_at\"".toList := by decide
  have identifier : quoted "id" = "\"id\"".toList := by decide
  have checked : quoted "check" = "\"check\"".toList := by decide
  simp only [cursorPayload, jsonText, fieldsText, one, version, created, identifier, checked]
  simp only [quoted, escape_plain createdPlain, escape_plain idPlain, escape_plain checkPlain]
  simp

theorem timestamp_text_plain {text : List Char} (timestamp : isTimestampText text = true) :
    text.all isPlain = true ∧ text.length = 27 := by
  obtain ⟨fields, read⟩ : ∃ fields, timestampFields text = some fields := by
    cases read : timestampFields text with
    | some fields => exact ⟨fields, rfl⟩
    | none =>
        rw [isTimestampText, read] at timestamp
        cases timestamp
  constructor
  · refine List.all_eq_true.mpr fun character member => ?_
    rcases timestamp_fields_digits read character member with digit | fixed
    · have bounds := BigIntText.digit_bounds digit
      have quote : character ≠ '"' := by
        rintro rfl
        cases digit
      have backslash : character ≠ '\\' := by
        rintro rfl
        cases digit
      simp only [isPlain, Bool.and_eq_true, decide_eq_true_eq, bne_iff_ne]
      exact ⟨⟨⟨by omega, by omega⟩, quote⟩, backslash⟩
    · exact List.all_eq_true.mp (by decide : ['-', ':', '.', 'T', 'Z'].all isPlain = true) character
        fixed
  · exact timestamp_fields_length read

theorem canonical_uuid_plain {id : String} (canonical : isCanonicalUuid id = true) :
    id.toList.all isPlain = true ∧ id.toList.length = 36 := by
  simp only [isCanonicalUuid, Bool.and_eq_true, beq_iff_eq] at canonical
  obtain ⟨⟨⟨length, characters⟩, _⟩, _⟩ := canonical
  refine ⟨List.all_eq_true.mpr fun character member => ?_, by rw [String.length_toList, length]⟩
  obtain ⟨position, inside⟩ := List.mem_iff_getElem?.mp member
  have each := List.all_eq_true.mp characters (character, position)
    (List.mk_mem_zipIdx_iff_getElem?.mpr inside)
  dsimp only at each
  split_ifs at each with hyphen
  · rw [beq_iff_eq.mp each]
    decide
  · rw [Bool.and_eq_true] at each
    exact hex_plain each.1

theorem checksum_plain (runtime : CursorRuntime) (createdAt id : String) :
    (checksum runtime createdAt id).toList.all isPlain = true ∧
      (checksum runtime createdAt id).toList.length ≤ 22 := by
  rw [checksum, String.toList_ofList]
  refine ⟨List.all_eq_true.mpr fun character member =>
    base64_url_plain (encoded_characters _ character member), ?_⟩
  rw [length_encoded, List.length_take]
  omega

theorem utf8_ascii {text : List Char} (ascii : ∀ character ∈ text, character.toNat < 0x80) :
    utf8Bytes text = text.map fun character => UInt8.ofNat character.toNat := by
  have each : ∀ character ∈ text, String.utf8EncodeChar character =
      [UInt8.ofNat character.toNat] := fun character member =>
    if_pos (Nat.le_of_lt_succ (ascii character member))
  rw [utf8Bytes, List.flatMap_congr each]
  exact List.map_eq_flatMap.symm

/-- The parts of a cursor that is written, all of them plain. -/
structure PlainParts (runtime : CursorRuntime) (boundary : UserCursorBoundary) : Prop where
  createdAt : boundary.createdAt.toList.all isPlain = true
  id : boundary.id.toList.all isPlain = true
  check : (checksum runtime boundary.createdAt boundary.id).toList.all isPlain = true

theorem plain_parts (runtime : CursorRuntime)
    (timestamp : isTimestampText boundary.createdAt.toList = true)
    (canonical : isCanonicalUuid boundary.id = true) : PlainParts runtime boundary :=
  ⟨(timestamp_text_plain timestamp).1, (canonical_uuid_plain canonical).1,
    (checksum_plain runtime boundary.createdAt boundary.id).1⟩

theorem ascii_of_all {text : List Char}
    (all : text.all (fun character => character.toNat < 0x80) = true) :
    ∀ character ∈ text, character.toNat < 0x80 := by
  simpa using all

theorem payload_ascii (parts : PlainParts runtime boundary) :
    ∀ character ∈ jsonText integerText (cursorPayload boundary.createdAt boundary.id
      (checksum runtime boundary.createdAt boundary.id)), character.toNat < 0x80 := by
  rw [payload_json_text parts.createdAt parts.id parts.check]
  have opening := @ascii_of_all "\x7b\"v\":1,\"created_at\":\"".toList (by decide)
  have between := @ascii_of_all "\",\"id\":\"".toList (by decide)
  have beforeCheck := @ascii_of_all "\",\"check\":\"".toList (by decide)
  have closing := @ascii_of_all "\"\x7d".toList (by decide)
  simp only [List.forall_mem_append]
  exact ⟨opening, plain_ascii parts.createdAt, between, plain_ascii parts.id, beforeCheck,
    plain_ascii parts.check, closing⟩

theorem payload_text_length (timestamp : isTimestampText boundary.createdAt.toList = true)
    (canonical : isCanonicalUuid boundary.id = true) :
    0 < (payloadText boundary.createdAt boundary.id
        (checksum runtime boundary.createdAt boundary.id)).length ∧
      (payloadText boundary.createdAt boundary.id
        (checksum runtime boundary.createdAt boundary.id)).length ≤ maxCursorLength := by
  have parts := plain_parts runtime timestamp canonical
  have createdLength := (timestamp_text_plain timestamp).2
  have idLength := (canonical_uuid_plain canonical).2
  have checkLength := (checksum_plain runtime boundary.createdAt boundary.id).2
  rw [payloadText, length_encoded, utf8_ascii (payload_ascii parts), List.length_map,
    payload_json_text parts.createdAt parts.id parts.check]
  have opening : "\x7b\"v\":1,\"created_at\":\"".toList.length = 21 := by decide
  have between : "\",\"id\":\"".toList.length = 8 := by decide
  have beforeCheck : "\",\"check\":\"".toList.length = 11 := by decide
  have closing : "\"\x7d".toList.length = 2 := by decide
  simp only [List.length_append, opening, between, beforeCheck, closing, maxCursorLength]
  omega

/-- Every boundary of the formats has a cursor. -/
theorem encode_users_cursor_exists (runtime : CursorRuntime)
    (timestamp : isTimestampText boundary.createdAt.toList = true)
    (canonical : isCanonicalUuid boundary.id = true) :
    ∃ cursor, encodeUsersCursor runtime boundary = .ok cursor :=
  ⟨_, encode_users_cursor_ok.mpr ⟨timestamp, canonical, String.toList_ofList,
    by rw [String.toList_ofList]; exact (payload_text_length timestamp canonical).2⟩⟩

theorem read_cursor_payload (createdAt id check : String) :
    readCursorPayload (cursorPayload createdAt id check) = some (createdAt, id, check) := by
  have sorted : ["v", "created_at", "id", "check"].insertionSort (· ≤ ·) =
      ["check", "created_at", "id", "v"] := by
    decide
  have joined : ",".intercalate ["check", "created_at", "id", "v"] = "check,created_at,id,v" := by
    decide
  simp only [readCursorPayload, cursorPayload, List.map_cons, List.map_nil, sorted, joined]
  rfl

/-- A cursor is read as a boundary exactly when it is what the boundary is written as. -/
theorem read_users_cursor_iff (reads : ReadsBack runtime) :
    readUsersCursor runtime cursor = some boundary ↔
      encodeUsersCursor runtime boundary = .ok cursor := by
  rw [encode_users_cursor_ok]
  constructor
  · intro read
    unfold readUsersCursor at read
    split_ifs at read with malformed
    simp only [Option.bind_eq_bind, Option.bind_eq_some_iff] at read
    obtain ⟨decoded, -, value, -, ⟨createdAt, id, check⟩, -, created, timestamp, identifier,
      canonical, read⟩ := read
    split_ifs at read with same whole
    obtain rfl := Option.some.inj read
    obtain ⟨dated, rfl⟩ := parse_user_timestamp_ok.mp (except_to_option_some timestamp)
    obtain ⟨versioned, rfl⟩ := parse_user_id_ok.mp (except_to_option_some canonical)
    have shortEnough := (not_or.mp (not_or.mp malformed).2).1
    refine ⟨dated, versioned, whole.symm, ?_⟩
    rw [String.length_toList]
    exact Nat.le_of_not_lt shortEnough
  · rintro ⟨timestamp, canonical, written, -⟩
    obtain ⟨positive, short⟩ := @payload_text_length runtime boundary timestamp canonical
    have parts := plain_parts runtime timestamp canonical
    rw [← written, String.length_toList] at positive short
    have characters : cursor.toList.all (fun character => (base64UrlValue character).isSome) =
        true := by
      rw [written, List.all_eq_true]
      exact encoded_characters _
    have wellFormed : ¬ (cursor.length = 0 ∨ cursor.length > maxCursorLength ∨
        ¬ cursor.toList.all (fun character => (base64UrlValue character).isSome) = true) := by
      rintro (empty | long | foreign)
      · omega
      · omega
      · exact foreign characters
    have bytes : canonicalBase64Url cursor.toList = some (utf8Bytes (jsonText integerText
        (cursorPayload boundary.createdAt boundary.id
          (checksum runtime boundary.createdAt boundary.id)))) := by
      rw [written]
      exact canonical_encoded _
    have parsed := reads.json _ _ _ parts.createdAt parts.id parts.check
    rw [readUsersCursor, if_neg wellFormed, bytes]
    simp only [Option.bind_eq_bind, Option.bind_some, reads.utf8 _ (payload_ascii parts), parsed,
      read_cursor_payload]
    have createdAt : (parseUserTimestamp boundary.createdAt).toOption = some boundary.createdAt := by
      rw [parseUserTimestamp, if_pos timestamp]
      rfl
    have id : (parseUserId boundary.id).toOption = some boundary.id := by
      rw [parseUserId, if_pos canonical]
      rfl
    simp only [createdAt, id, Option.bind_some, sameText, beq_self_eq_true, if_true, ← written]

theorem decode_users_cursor_iff (reads : ReadsBack runtime) :
    decodeUsersCursor runtime cursor = .ok boundary ↔
      encodeUsersCursor runtime boundary = .ok cursor := by
  rw [← read_users_cursor_iff reads, decodeUsersCursor]
  cases readUsersCursor runtime cursor <;> simp

end Codec

end CommitmentOptimizer.Tenants.UsersCursor
