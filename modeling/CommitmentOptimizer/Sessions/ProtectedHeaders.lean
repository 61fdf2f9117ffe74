import CommitmentOptimizer.Foundations.JsonMembers
import CommitmentOptimizer.Sessions.Base64UrlText

/-!
# The protected header of a token

`validateJwtProtectedHeader` counts `"typ":` and `"alg":` in the header text, while the parser
compares the names that the text spells. The check is strict on the headers that spell their
names without escapes, and on no others.
-/

namespace CommitmentOptimizer.Sessions.ProtectedHeaders

open Foundations
open Foundations.JsonMembers
open Foundations.JsonReader (isJsonSpace skipSpace)
open Foundations.SqlConstraints
open Foundations.Utf8Decoding
open AccessTokens
open Base64UrlText

set_option autoImplicit false

section Counting

/-- The expression of `jsonKeyCount` matches at the start of the text. -/
def matchesHere (key text : List Char) : Bool :=
  let quoted := '"' :: (key ++ ['"'])
  quoted.isPrefixOf text &&
    ((text.drop quoted.length).dropWhile isJsSpace).head? == some ':'

theorem count_cons (key : List Char) (character : Char) (text : List Char) :
    jsonKeyCount (character :: text) key =
      (if matchesHere key (character :: text) = true then 1 else 0) + jsonKeyCount text key := by
  have counted : ∀ text, jsonKeyCount text key = (text.tails.filter (matchesHere key)).length :=
    fun _ => rfl
  rw [counted, counted, List.tails_cons, List.filter_cons]
  split_ifs
  · rw [List.length_cons, Nat.add_comm]
  · rw [Nat.zero_add]

theorem count_nil (key : List Char) : jsonKeyCount [] key = 0 := rfl

theorem count_end {text rest : List Char} (key : List Char) (shorter : rest <:+ text) :
    jsonKeyCount rest key ≤ jsonKeyCount text key := by
  obtain ⟨before, rfl⟩ := shorter
  induction before with
  | nil => exact Nat.le_refl _
  | cons character before induction =>
      rw [List.cons_append, count_cons]
      exact induction.trans (Nat.le_add_left _ _)

theorem match_quoted {key text : List Char} (found : matchesHere key text = true) :
    ∃ rest, text = '"' :: (key ++ '"' :: rest) := by
  rw [matchesHere, Bool.and_eq_true] at found
  obtain ⟨rest, same⟩ := List.isPrefixOf_iff_prefix.mp found.1
  refine ⟨rest, same.symm.trans ?_⟩
  rw [List.cons_append, List.append_assoc, List.singleton_append]

theorem count_without_quote {before : List Char} (key rest : List Char) (plain : '"' ∉ before) :
    jsonKeyCount (before ++ rest) key = jsonKeyCount rest key := by
  induction before with
  | nil => rfl
  | cons character before induction =>
      obtain ⟨different, others⟩ := not_or.mp (List.mem_cons.not.mp plain)
      have unmatched : ¬ matchesHere key (character :: (before ++ rest)) = true := by
        intro found
        obtain ⟨_, same⟩ := match_quoted found
        exact different (List.cons.inj same).1.symm
      rw [List.cons_append, count_cons, if_neg unmatched, Nat.zero_add, induction others]

/-- Two texts without quotation marks agree when they stand before the first one. -/
theorem before_quote {left right after rest : List Char} (leftPlain : '"' ∉ left)
    (rightPlain : '"' ∉ right) (same : left ++ '"' :: after = right ++ '"' :: rest) :
    left = right := by
  induction left generalizing right with
  | nil =>
      cases right with
      | nil => rfl
      | cons character right =>
          exact absurd (List.mem_cons.mpr (Or.inl (List.cons.inj same).1)) rightPlain
  | cons character left induction =>
      cases right with
      | nil => exact absurd (List.mem_cons.mpr (Or.inl (List.cons.inj same).1.symm)) leftPlain
      | cons other right =>
          obtain ⟨rfl, onward⟩ := List.cons.inj same
          rw [induction (fun member => leftPlain (List.mem_cons_of_mem _ member))
            (fun member => rightPlain (List.mem_cons_of_mem _ member)) onward]

/-- What is counted is one of the pieces between the quotation marks. -/
theorem count_pieces {key : List Char} (keyPlain : '"' ∉ key) {pieces : List (List Char)}
    (plain : ∀ piece ∈ pieces, '"' ∉ piece)
    (counted : 0 < jsonKeyCount (pieces.flatMap ('"' :: ·)) key) : key ∈ pieces := by
  induction pieces with
  | nil => exact absurd counted (Nat.lt_irrefl 0)
  | cons piece pieces induction =>
      obtain ⟨piecePlain, othersPlain⟩ := List.forall_mem_cons.mp plain
      rw [List.flatMap_cons, List.cons_append, count_cons,
        count_without_quote key _ piecePlain] at counted
      by_cases here : matchesHere key ('"' :: (piece ++ pieces.flatMap ('"' :: ·))) = true
      · obtain ⟨rest, same⟩ := match_quoted here
        cases pieces with
        | nil =>
            have inside : '"' ∈ piece := by
              rw [List.flatMap_nil, List.append_nil] at same
              rw [(List.cons.inj same).2]
              exact List.mem_append_right _ List.mem_cons_self
            exact absurd inside piecePlain
        | cons next others =>
            have joined := (List.cons.inj same).2
            rw [List.flatMap_cons, List.cons_append] at joined
            exact List.mem_cons.mpr (Or.inl (before_quote piecePlain keyPlain joined).symm)
      · rw [if_neg here, Nat.zero_add] at counted
        exact List.mem_cons_of_mem _ (induction othersPlain counted)

theorem json_space_is_js_space {character : Char} (space : isJsonSpace character = true) :
    isJsSpace character = true := by
  simp only [isJsonSpace, Bool.or_eq_true, decide_eq_true_eq] at space
  rcases space with ((rfl | rfl) | rfl) | rfl <;> decide

/-- A name that is spelled as the key is counted. -/
theorem count_name {name : Spelled} {key text rest : List Char} (found : NameText name text rest)
    (spelled : name.spelling = key) : 1 + jsonKeyCount rest key ≤ jsonKeyCount text key := by
  obtain ⟨before, between, -, blank, rfl⟩ := found.layout
  rw [spelled]
  have here : matchesHere key ('"' :: (key ++ '"' :: (between ++ ':' :: rest))) = true := by
    rw [matchesHere, Bool.and_eq_true]
    constructor
    · refine List.isPrefixOf_iff_prefix.mpr ⟨between ++ ':' :: rest, ?_⟩
      rw [List.cons_append, List.append_assoc, List.singleton_append]
    · have dropped : ('"' :: (key ++ '"' :: (between ++ ':' :: rest))).drop
          ('"' :: (key ++ ['"'])).length = between ++ ':' :: rest := by
        have split : '"' :: (key ++ '"' :: (between ++ ':' :: rest)) =
            '"' :: (key ++ ['"']) ++ (between ++ ':' :: rest) := by
          rw [List.cons_append, List.append_assoc, List.singleton_append]
        rw [split, List.drop_left]
      rw [dropped, List.dropWhile_append_of_pos fun character member =>
        json_space_is_js_space (blank character member)]
      rfl
  have shorter : rest <:+ key ++ '"' :: (between ++ ':' :: rest) :=
    ⟨key ++ '"' :: (between ++ [':']), by simp only [List.append_assoc, List.cons_append,
      List.nil_append]⟩
  calc 1 + jsonKeyCount rest key
      ≤ 1 + jsonKeyCount (key ++ '"' :: (between ++ ':' :: rest)) key :=
        Nat.add_le_add_left (count_end key shorter) 1
    _ = jsonKeyCount ('"' :: (key ++ '"' :: (between ++ ':' :: rest))) key := by
        rw [count_cons, if_pos here]
    _ ≤ jsonKeyCount (before ++ '"' :: (key ++ '"' :: (between ++ ':' :: rest))) key :=
        count_end key (List.suffix_append _ _)

variable {readNumber : List Char → Option (Option Rat × List Char)}

def spelledAs (key : List Char) (member : Member) : Bool := decide (member.name.spelling = key)

/-- The members that are spelled as the key are all counted. -/
theorem count_members (numbers : LeavesEnd readNumber) (key : List Char) {fuel : Nat}
    {text rest : List Char} {members : List Member}
    (read : readMembers readNumber fuel text = some (members, rest)) :
    members.countP (spelledAs key) ≤ jsonKeyCount text key := by
  induction fuel generalizing text members with
  | zero => cases read
  | succ fuel induction =>
      obtain ⟨less, name, afterName, value, afterValue, same, readName, readValue, outcome⟩ :=
        read_members_cases read
      cases same
      have valueEnd := read_value_end numbers fuel readValue
      have one : (if spelledAs key ⟨name, value⟩ = true then 1 else 0) +
          jsonKeyCount afterValue key ≤ jsonKeyCount text key := by
        split_ifs with spelled
        · exact (Nat.add_le_add_left (count_end key valueEnd) 1).trans
            (count_name (read_member_name_text readName) (of_decide_eq_true spelled))
        · rw [Nat.zero_add]
          exact count_end key (valueEnd.trans (read_member_name_end readName))
      rcases outcome with ⟨-, rfl⟩ | ⟨onward, others, comma, later, rfl⟩
      · rw [List.countP_cons, List.countP_nil, Nat.zero_add]
        exact (Nat.le_add_right _ _).trans one
      · have rest := (induction later).trans
          (count_end key (@end_after_token afterValue onward [','] onward comma List.suffix_rfl))
        rw [List.countP_cons, Nat.add_comm]
        exact (Nat.add_le_add_left rest _).trans one

theorem count_object_members (numbers : LeavesEnd readNumber) (key : List Char)
    {text : List Char} {members : List Member}
    (read : objectMembers readNumber text = some members) :
    members.countP (spelledAs key) ≤ jsonKeyCount text key := by
  obtain ⟨inside, opened, rfl | ⟨rest, found, -⟩⟩ := object_members_cases read
  · exact Nat.zero_le _
  · exact (count_members numbers key found).trans (count_end key
      (@end_after_token text inside ['\x7b'] _ opened (skip_space_suffix inside)))

end Counting

section Layout

variable {readNumber : List Char → Option (Option Rat × List Char)}

/-- What stands between two quoted texts of an object of quoted texts. -/
def Separates (text : List Char) : Prop :=
  ∀ character ∈ text, isJsonSpace character = true ∨ character ∈ ['\x7b', ':', ',', '\x7d']

theorem space_separates {text : List Char}
    (blank : ∀ character ∈ text, isJsonSpace character = true) : Separates text :=
  fun character member => Or.inl (blank character member)

theorem token_separates {before : List Char} {token : Char}
    (blank : ∀ character ∈ before, isJsonSpace character = true)
    (known : token ∈ ['\x7b', ':', ',', '\x7d']) {after : List Char} (onward : Separates after) :
    Separates (before ++ token :: after) := by
  intro character member
  rcases List.mem_append.mp member with inside | inside
  · exact Or.inl (blank character inside)
  · rcases List.mem_cons.mp inside with rfl | inside
    · exact Or.inr known
    · exact onward character inside

/-- White space, the token, and white space again. -/
theorem skipped_token {text rest : List Char} {token : Char}
    (opened : skipSpace text = token :: rest) :
    ∃ before, (∀ character ∈ before, isJsonSpace character = true) ∧
      text = before ++ token :: rest := by
  obtain ⟨before, blank, split⟩ := skip_space_split text
  exact ⟨before, blank, opened ▸ split⟩

/-- A member whose value is a quoted text. -/
theorem string_member_text {fuel : Nat} {text afterName afterValue : List Char} {name : Spelled}
    {content : String} (readName : readMemberName text = some (name, afterName))
    (readContent : readValue readNumber fuel afterName = some (.string content, afterValue)) :
    ∃ before colon, ∃ value : Spelled, (∀ character ∈ before, isJsonSpace character = true) ∧
      Separates colon ∧ String.ofList value.text = content ∧
      text = before ++ ([name.spelling, colon, value.spelling].flatMap ('"' :: ·) ++
        '"' :: afterValue) := by
  obtain ⟨before, between, blank, blankBetween, rfl⟩ := (read_member_name_text readName).layout
  obtain ⟨after, value, blankAfter, rfl, same⟩ := read_string_value readContent
  refine ⟨before, between ++ ':' :: after, value, blank,
    token_separates blankBetween (by decide) (space_separates blankAfter), same, ?_⟩
  simp only [List.flatMap_cons, List.flatMap_nil, List.append_assoc, List.cons_append,
    List.append_nil]

/-- An object of two members with quoted values, cut at its quotation marks. -/
structure Layout (text : List Char) (first second : Member) (firstText secondText : String) :
    Prop where
  pieces : ∃ opening firstColon comma secondColon closing, ∃ firstValue secondValue : Spelled,
    (∀ separator ∈ [opening, firstColon, comma, secondColon, closing], Separates separator) ∧
    String.ofList firstValue.text = firstText ∧ String.ofList secondValue.text = secondText ∧
    text = opening ++ [first.name.spelling, firstColon, firstValue.spelling, comma,
      second.name.spelling, secondColon, secondValue.spelling, closing].flatMap ('"' :: ·)

theorem object_layout {text : List Char} {first second : Member} {firstText secondText : String}
    (read : objectMembers readNumber text = some [first, second])
    (firstValue : first.value = .string firstText)
    (secondValue : second.value = .string secondText) :
    Layout text first second firstText secondText := by
  obtain ⟨inside, opened, none | ⟨rest, found, ended⟩⟩ := object_members_cases read
  · cases none
  obtain ⟨less, name, afterName, value, afterValue, -, readName, readFirst, outcome⟩ :=
    read_members_cases found
  rcases outcome with ⟨-, alone⟩ | ⟨onward, others, comma, later, same⟩
  · cases alone
  cases same
  obtain ⟨fewer, nextName, afterNext, nextValue, afterLast, -, readNext, readSecond, outcome⟩ :=
    read_members_cases later
  rcases outcome with ⟨closed, single⟩ | ⟨_, _, -, more, same⟩
  swap
  · cases same
    exact absurd rfl (read_members_nonempty more)
  cases single
  rw [show value = .string firstText from firstValue] at readFirst
  rw [show nextValue = .string secondText from secondValue] at readSecond
  obtain ⟨opening, openingBlank, textSplit⟩ := skipped_token opened
  obtain ⟨leading, leadingBlank, insideSplit⟩ := skip_space_split inside
  obtain ⟨before, firstColon, firstSpelled, beforeBlank, firstSeparates, firstSame, firstSplit⟩ :=
    string_member_text readName readFirst
  obtain ⟨afterFirst, afterBlank, commaSplit⟩ := skipped_token comma
  obtain ⟨between, secondColon, secondSpelled, betweenBlank, secondSeparates, secondSame,
    secondSplit⟩ := string_member_text readNext readSecond
  obtain ⟨last, lastBlank, closeSplit⟩ := skipped_token closed
  obtain ⟨trailing, trailingBlank, restSplit⟩ := skip_space_split rest
  rw [ended, List.append_nil] at restSplit
  have leadingSeparates : Separates (leading ++ before) :=
    space_separates fun character member => (List.mem_append.mp member).elim
      (leadingBlank character) (beforeBlank character)
  refine ⟨opening ++ '\x7b' :: (leading ++ before), firstColon, afterFirst ++ ',' :: between,
    secondColon, last ++ '\x7d' :: trailing, firstSpelled, secondSpelled, ?_, firstSame,
    secondSame, ?_⟩
  · simp only [List.forall_mem_cons]
    exact ⟨token_separates openingBlank (by decide) leadingSeparates, firstSeparates,
      token_separates afterBlank (by decide) (space_separates betweenBlank), secondSeparates,
      token_separates lastBlank (by decide) (space_separates (restSplit ▸ trailingBlank)),
      fun _ none => absurd none List.not_mem_nil⟩
  · rw [textSplit, insideSplit, firstSplit, commaSplit, secondSplit, closeSplit, ← restSplit]
    simp only [List.flatMap_cons, List.flatMap_nil, List.append_assoc, List.cons_append,
      List.append_nil]

end Layout

section Strictness

variable (readNumber : List Char → Option (Option Rat × List Char))

/-- The runtime's decoder and its `JSON.parse`. -/
def headerReader : HeaderReader where
  decodeUtf8 bytes := String.ofList (decodeUtf8 bytes)
  parseJson text := parseJson readNumber text.toList

def IsType (member : Member) : Prop := member.key = "typ" ∧ member.value = .string "JWT"

def IsAlgorithm (member : Member) : Prop := member.key = "alg" ∧ member.value = .string "RS256"

/-- `SEGMENT_PATTERN`. -/
def isSegment (segment : List Char) : Bool :=
  !segment.isEmpty && segment.all fun character => (base64UrlValue character).isSome

/-- Three segments, the first of which encodes an object text of the two members. -/
def StrictHeader (token : String) : Prop :=
  ∃ encoded payload signature text first second,
    token.toList.splitOn '.' = [encoded, payload, signature] ∧
    (∀ segment ∈ [encoded, payload, signature], isSegment segment = true) ∧
    encoded = encodeBase64Url (encodeUtf8 text) ∧
    objectMembers readNumber text = some [first, second] ∧
    (IsType first ∧ IsAlgorithm second ∨ IsAlgorithm first ∧ IsType second)

/-- The text that the first segment encodes. -/
def headerText (token : String) : Option (List Char) :=
  (token.toList.splitOn '.').head?.bind fun encoded =>
    (canonicalBase64Url encoded).map decodeUtf8

/-- No member of the header has an escape in its name. -/
def PlainNames (token : String) : Prop :=
  ∀ text members, headerText token = some text → objectMembers readNumber text = some members →
    ∀ member ∈ members, '\\' ∉ member.name.spelling

variable {readNumber}

/-- What the check has seen of a token that it accepts. -/
structure Accepted (readNumber : List Char → Option (Option Rat × List Char)) (token : String)
    (encoded payload signature text : List Char) (bytes : List UInt8) (members : List Member) :
    Prop where
  split : token.toList.splitOn '.' = [encoded, payload, signature]
  segments : ∀ segment ∈ [encoded, payload, signature], isSegment segment = true
  canonical : canonicalBase64Url encoded = some bytes
  decoded : decodeUtf8 bytes = text
  typeCount : jsonKeyCount text ['t', 'y', 'p'] = 1
  algorithmCount : jsonKeyCount text ['a', 'l', 'g'] = 1
  read : objectMembers readNumber text = some members
  typeField : ("typ", .string "JWT") ∈ laterWins members
  algorithmField : ("alg", .string "RS256") ∈ laterWins members
  two : (laterWins members).length = 2

theorem field_mem {fields : List (String × Json)} {name : String} {value : Json}
    (found : (Json.object fields).field name = some value) : (name, value) ∈ fields := by
  rw [Json.field, List.lookup_eq_some_iff] at found
  obtain ⟨before, after, rfl, -⟩ := found
  exact List.mem_append_right _ List.mem_cons_self

theorem type_text : "typ".toList = ['t', 'y', 'p'] := String.toList_ofList

theorem algorithm_text : "alg".toList = ['a', 'l', 'g'] := String.toList_ofList

theorem header_parsed (bytes : List UInt8) :
    (headerReader readNumber).parseJson ((headerReader readNumber).decodeUtf8 bytes) =
      parseJson readNumber (decodeUtf8 bytes) := by
  change parseJson readNumber (String.ofList (decodeUtf8 bytes)).toList = _
  rw [String.toList_ofList]

theorem header_accepted {token : String}
    (accepted : validateJwtProtectedHeader (headerReader readNumber) token = .ok ()) :
    ∃ encoded payload signature text bytes members,
      Accepted readNumber token encoded payload signature text bytes members := by
  unfold validateJwtProtectedHeader at accepted
  split at accepted
  case h_2 => cases accepted
  case h_1 encoded payload signature split =>
    obtain ⟨_, segments, accepted⟩ := bind_ok.mp accepted
    rw [assert_auth_ok] at segments
    split at accepted
    case h_1 => cases accepted
    case h_2 bytes canonical =>
      obtain ⟨_, counted, accepted⟩ := bind_ok.mp accepted
      rw [assert_auth_ok, Bool.and_eq_true, beq_iff_eq, beq_iff_eq, type_text, algorithm_text,
        headerReader, String.toList_ofList] at counted
      split at accepted
      case h_2 => cases accepted
      case h_1 first firstValue second secondValue parsed =>
        rw [assert_auth_ok, Bool.and_eq_true, decide_eq_true_eq, decide_eq_true_eq] at accepted
        rw [header_parsed] at parsed
        obtain ⟨members, read, same⟩ := parse_object parsed
        refine ⟨encoded, payload, signature, decodeUtf8 bytes, bytes, members, split,
          List.all_eq_true.mp segments, canonical, rfl, counted.1, counted.2, read, ?_, ?_, ?_⟩
        · exact same ▸ field_mem accepted.1
        · exact same ▸ field_mem accepted.2
        · rw [← same]
          rfl

/-- What the two members have in common. -/
structure KnownMember (member : Member) (content : String) : Prop where
  value : member.value = .string content
  contentPlain : '"' ∉ content.toList
  contentAscii : isAscii content.toList = true
  contentNoKey : content.toList ∉ [['t', 'y', 'p'], ['a', 'l', 'g']]
  namePlain : '"' ∉ member.name.text
  nameAscii : isAscii member.name.text = true

theorem name_text {member : Member} {name : String} (named : member.key = name) :
    member.name.text = name.toList := by
  rw [← named, Member.key, String.toList_ofList]

theorem type_known {member : Member} (found : IsType member) : KnownMember member "JWT" := by
  have content : "JWT".toList = ['J', 'W', 'T'] := String.toList_ofList
  have name := (name_text found.1).trans type_text
  refine ⟨found.2, ?_, ?_, ?_, ?_, ?_⟩
  all_goals first | rw [content] | rw [name]
  all_goals decide

theorem algorithm_known {member : Member} (found : IsAlgorithm member) :
    KnownMember member "RS256" := by
  have content : "RS256".toList = ['R', 'S', '2', '5', '6'] := String.toList_ofList
  have name := (name_text found.1).trans algorithm_text
  refine ⟨found.2, ?_, ?_, ?_, ?_, ?_⟩
  all_goals first | rw [content] | rw [name]
  all_goals decide

theorem wanted_known {first second : Member}
    (wanted : IsType first ∧ IsAlgorithm second ∨ IsAlgorithm first ∧ IsType second) :
    ∃ firstText secondText, KnownMember first firstText ∧ KnownMember second secondText := by
  rcases wanted with ⟨typed, signed⟩ | ⟨signed, typed⟩
  · exact ⟨_, _, type_known typed, algorithm_known signed⟩
  · exact ⟨_, _, algorithm_known signed, type_known typed⟩

section Pieces

variable {text : List Char} {first second : Member} {firstText secondText : String}

theorem separator_plain {separator : List Char} (separates : Separates separator) :
    '"' ∉ separator := by
  intro member
  exact absurd (separates _ member) (by decide)

theorem separator_ascii {separator : List Char} (separates : Separates separator) :
    isAscii separator = true := by
  refine List.all_eq_true.mpr fun character member => decide_eq_true ?_
  rcases separates character member with space | token
  · simp only [isJsonSpace, Bool.or_eq_true, decide_eq_true_eq] at space
    rcases space with ((rfl | rfl) | rfl) | rfl <;> decide
  · simp only [List.mem_cons, List.not_mem_nil, or_false] at token
    rcases token with rfl | rfl | rfl | rfl <;> decide

theorem spelled_content {value : Spelled} {content : String}
    (same : String.ofList value.text = content) : value.text = content.toList := by
  rw [← same, String.toList_ofList]

theorem layout_ascii (layout : Layout text first second firstText secondText)
    (firstKnown : KnownMember first firstText) (secondKnown : KnownMember second secondText) :
    isAscii text = true := by
  obtain ⟨opening, firstColon, comma, secondColon, closing, firstValue, secondValue, separators,
    firstSame, secondSame, rfl⟩ := layout.pieces
  simp only [List.forall_mem_cons] at separators
  obtain ⟨openingText, firstText, commaText, secondText, closingText, -⟩ := separators
  have quote : ∀ piece, isAscii ('"' :: piece) = isAscii piece := fun _ => rfl
  have firstAscii := spelled_in_ascii firstValue.spells
    (spelled_content firstSame ▸ firstKnown.contentAscii)
  have secondAscii := spelled_in_ascii secondValue.spells
    (spelled_content secondSame ▸ secondKnown.contentAscii)
  simp only [List.flatMap_cons, List.flatMap_nil, List.append_nil, is_ascii_append, quote]
  exact ⟨separator_ascii openingText, spelled_in_ascii first.name.spells firstKnown.nameAscii,
    separator_ascii firstText, firstAscii, separator_ascii commaText,
    spelled_in_ascii second.name.spells secondKnown.nameAscii, separator_ascii secondText,
    secondAscii, separator_ascii closingText⟩

/-- A key that is counted is the spelling of one of the two names. -/
theorem counted_name (layout : Layout text first second firstText secondText)
    (firstKnown : KnownMember first firstText) (secondKnown : KnownMember second secondText)
    {key : List Char} (known : key ∈ [['t', 'y', 'p'], ['a', 'l', 'g']])
    (counted : jsonKeyCount text key = 1) :
    first.name.spelling = key ∨ second.name.spelling = key := by
  obtain ⟨opening, firstColon, comma, secondColon, closing, firstValue, secondValue, separators,
    firstSame, secondSame, rfl⟩ := layout.pieces
  have keyText : '"' ∉ key ∧ '\\' ∉ key ∧ ¬ Separates key := by
    simp only [List.mem_cons, List.not_mem_nil, or_false] at known
    rcases known with rfl | rfl
    · exact ⟨by decide, by decide, fun separates =>
        absurd (separates 't' List.mem_cons_self) (by decide)⟩
    · exact ⟨by decide, by decide, fun separates =>
        absurd (separates 'a' List.mem_cons_self) (by decide)⟩
  obtain ⟨keyPlain, keyUnescaped, keyLetters⟩ := keyText
  have content : ∀ {value : Spelled} {text : String}, String.ofList value.text = text →
      text.toList ∉ [['t', 'y', 'p'], ['a', 'l', 'g']] → key ≠ value.spelling := by
    intro value text same other spelled
    have itself := plain_spelling value.spells (spelled ▸ keyUnescaped)
    rw [← spelled_content same, itself, ← spelled] at other
    exact other known
  have separator : ∀ {separator : List Char}, Separates separator → key ≠ separator :=
    fun separates same => keyLetters (same ▸ separates)
  simp only [List.forall_mem_cons] at separators
  obtain ⟨openingText, colonText, commaText, nextColonText, closingText, -⟩ := separators
  rw [count_without_quote key _ (separator_plain openingText)] at counted
  have pieces := count_pieces keyPlain (by
    simp only [List.forall_mem_cons]
    exact ⟨spelled_without_quotes first.name.spells firstKnown.namePlain,
      separator_plain colonText,
      spelled_without_quotes firstValue.spells
        (spelled_content firstSame ▸ firstKnown.contentPlain),
      separator_plain commaText,
      spelled_without_quotes second.name.spells secondKnown.namePlain,
      separator_plain nextColonText,
      spelled_without_quotes secondValue.spells
        (spelled_content secondSame ▸ secondKnown.contentPlain),
      separator_plain closingText, fun _ none => absurd none List.not_mem_nil⟩)
    (counted ▸ Nat.one_pos)
  simp only [List.mem_cons, List.not_mem_nil, or_false, separator colonText,
    separator commaText, separator nextColonText, separator closingText,
    content firstSame firstKnown.contentNoKey, content secondSame secondKnown.contentNoKey,
    false_or] at pieces
  exact pieces.imp Eq.symm Eq.symm

end Pieces

section Directions

variable {token : String} {encoded payload signature text : List Char} {bytes : List UInt8}
  {members : List Member}

theorem accepted_header_text
    (accepted : Accepted readNumber token encoded payload signature text bytes members) :
    headerText token = some text := by
  rw [headerText, accepted.split]
  change (canonicalBase64Url encoded).map decodeUtf8 = some text
  rw [accepted.canonical, Option.map_some, accepted.decoded]

theorem canonical_same {segment : List Char} {decoded : List UInt8}
    (canonical : canonicalBase64Url segment = some decoded) :
    segment = encodeBase64Url decoded := by
  obtain ⟨values, -, checked⟩ := Option.bind_eq_some_iff.mp canonical
  dsimp only at checked
  split_ifs at checked with same
  rw [← Option.some.inj checked, same]

theorem strict_plain_names
    (accepted : Accepted readNumber token encoded payload signature text bytes members)
    (strict : StrictHeader readNumber token) : PlainNames readNumber token := by
  obtain ⟨otherEncoded, _, _, strictText, first, second, split, -, same, read, wanted⟩ := strict
  obtain ⟨firstText, secondText, firstKnown, secondKnown⟩ := wanted_known wanted
  have layout := object_layout read firstKnown.value secondKnown.value
  have sameText : text = strictText := by
    have segment : encoded = otherEncoded :=
      (List.cons.inj (accepted.split.symm.trans split)).1
    have sameBytes : bytes = encodeUtf8 strictText := Option.some.inj <| by
      rw [← accepted.canonical, segment, same, canonical_encoded]
    rw [← accepted.decoded, sameBytes,
      decode_encoded_ascii (layout_ascii layout firstKnown secondKnown)]
  subst sameText
  have typed := counted_name layout firstKnown secondKnown List.mem_cons_self accepted.typeCount
  have signed := counted_name layout firstKnown secondKnown
    (List.mem_cons_of_mem _ List.mem_cons_self) accepted.algorithmCount
  have plain : '\\' ∉ first.name.spelling ∧ '\\' ∉ second.name.spelling := by
    rcases typed with typed | typed <;> rcases signed with signed | signed
    · exact absurd (typed.symm.trans signed) (by decide)
    · rw [typed, signed]
      decide
    · rw [typed, signed]
      decide
    · exact absurd (typed.symm.trans signed) (by decide)
  intro header found headerIs foundIs member inside
  rw [accepted_header_text accepted] at headerIs
  cases headerIs
  rw [read] at foundIs
  cases foundIs
  simp only [List.mem_cons, List.not_mem_nil, or_false] at inside
  rcases inside with rfl | rfl
  · exact plain.1
  · exact plain.2

theorem one_of_two {Entry : Type} {entries : List Entry} {first second other : Entry}
    (two : entries.length = 2) (firstMem : first ∈ entries) (secondMem : second ∈ entries)
    (different : first ≠ second) (otherMem : other ∈ entries) :
    other = first ∨ other = second := by
  obtain ⟨left, right, rfl⟩ := List.length_eq_two.mp two
  simp only [List.mem_cons, List.not_mem_nil, or_false] at firstMem secondMem otherMem
  grind

theorem just_two {Entry : Type} {entries : List Entry} {first second : Entry}
    (few : entries.length ≤ 2) (firstMem : first ∈ entries) (secondMem : second ∈ entries)
    (different : first ≠ second) :
    entries = [first, second] ∨ entries = [second, first] := by
  match entries with
  | [] => cases firstMem
  | [only] =>
      rw [List.mem_singleton] at firstMem secondMem
      exact absurd (firstMem.trans secondMem.symm) different
  | [left, right] =>
      simp only [List.mem_cons, List.not_mem_nil, or_false] at firstMem secondMem
      grind
  | _ :: _ :: _ :: _ => exact absurd few (by simp only [List.length_cons]; omega)

/-- Members with plain names are spelled as their keys. -/
theorem spelled_as_key {member : Member} {key : List Char} {name : String}
    (nameIs : name.toList = key) (plain : '\\' ∉ member.name.spelling)
    (named : member.key = name) : spelledAs key member = true := by
  have text := name_text named
  rw [plain_spelling member.name.spells plain, nameIs] at text
  exact decide_eq_true text

/-- No name is repeated, and there are no other names. -/
theorem plain_few_members (numbers : LeavesEnd readNumber)
    (accepted : Accepted readNumber token encoded payload signature text bytes members)
    (plain : ∀ member ∈ members, '\\' ∉ member.name.spelling) : members.length ≤ 2 := by
  have types := count_object_members numbers ['t', 'y', 'p'] accepted.read
  have algorithms := count_object_members numbers ['a', 'l', 'g'] accepted.read
  rw [accepted.typeCount] at types
  rw [accepted.algorithmCount] at algorithms
  have others : members.countP (fun member => ¬ spelledAs ['t', 'y', 'p'] member) ≤
      members.countP (spelledAs ['a', 'l', 'g']) := by
    refine List.countP_mono_left fun member inside different => ?_
    obtain ⟨value, found⟩ := later_wins_names inside
    rcases one_of_two accepted.two accepted.typeField accepted.algorithmField
      (fun same => absurd (congrArg Prod.snd same) (by decide)) found with same | same
    · have typed := spelled_as_key type_text (plain member inside) (congrArg Prod.fst same)
      rw [typed] at different
      exact absurd different (by decide)
    · exact spelled_as_key algorithm_text (plain member inside) (congrArg Prod.fst same)
  have total := @List.length_eq_countP_add_countP _ (spelledAs ['t', 'y', 'p']) members
  omega

theorem plain_names_strict (numbers : LeavesEnd readNumber)
    (accepted : Accepted readNumber token encoded payload signature text bytes members)
    (names : PlainNames readNumber token) : StrictHeader readNumber token := by
  have plain := names text members (accepted_header_text accepted) accepted.read
  obtain ⟨typed, typedMem, typedIs⟩ := later_wins_from accepted.typeField
  obtain ⟨signed, signedMem, signedIs⟩ := later_wins_from accepted.algorithmField
  have isType : IsType typed := ⟨congrArg Prod.fst typedIs, congrArg Prod.snd typedIs⟩
  have isAlgorithm : IsAlgorithm signed := ⟨congrArg Prod.fst signedIs, congrArg Prod.snd signedIs⟩
  have different : typed ≠ signed := by
    rintro rfl
    exact absurd (isType.2.symm.trans isAlgorithm.2) (by decide)
  have strict : ∀ first second, members = [first, second] →
      (IsType first ∧ IsAlgorithm second ∨ IsAlgorithm first ∧ IsType second) →
      StrictHeader readNumber token := by
    rintro first second rfl wanted
    obtain ⟨firstText, secondText, firstKnown, secondKnown⟩ := wanted_known wanted
    have ascii := layout_ascii
      (object_layout accepted.read firstKnown.value secondKnown.value) firstKnown secondKnown
    refine ⟨encoded, payload, signature, text, first, second, accepted.split, accepted.segments,
      ?_, accepted.read, wanted⟩
    rw [← accepted.decoded] at ascii ⊢
    rw [encode_of_decoded_ascii ascii]
    exact canonical_same accepted.canonical
  rcases just_two (plain_few_members numbers accepted plain) typedMem signedMem different with
    same | same
  · exact strict _ _ same (Or.inl ⟨isType, isAlgorithm⟩)
  · exact strict _ _ same (Or.inr ⟨isAlgorithm, isType⟩)

end Directions

theorem strict_header_iff (numbers : LeavesEnd readNumber) {token : String}
    (accepted : validateJwtProtectedHeader (headerReader readNumber) token = .ok ()) :
    StrictHeader readNumber token ↔ PlainNames readNumber token := by
  obtain ⟨_, _, _, _, _, _, seen⟩ := header_accepted accepted
  exact ⟨strict_plain_names seen, plain_names_strict numbers seen⟩

def headerMembers (readNumber : List Char → Option (Option Rat × List Char)) (token : String) :
    Option (List Member) :=
  (headerText token).bind (objectMembers readNumber)

/-- The header is `{"typ":"JWT","alg":"RS256"}`. -/
theorem unescaped_header_strict :
    StrictHeader (fun _ => none) "eyJ0eXAiOiJKV1QiLCJhbGciOiJSUzI1NiJ9.e30.AA" := by
  have noNumbers : @LeavesEnd (Option Rat) fun _ => none := nofun
  refine (strict_header_iff noNumbers (by decide +kernel)).mpr ?_
  have plain : ((headerMembers (fun _ => none)
      "eyJ0eXAiOiJKV1QiLCJhbGciOiJSUzI1NiJ9.e30.AA").all fun members =>
        members.all fun member => !member.name.spelling.contains '\\') = true := by
    decide +kernel
  intro text members header read member inside escaped
  rw [headerMembers, header, Option.bind_some, read, Option.all_some, List.all_eq_true] at plain
  have unescaped := plain member inside
  rw [List.contains_iff_mem.mpr escaped] at unescaped
  cases unescaped

/-- The header is `{"typ":"JWT","alg":"none","\u0061lg":"RS256"}`. -/
theorem repeated_algorithm_accepted :
    ∃ token, validateJwtProtectedHeader (headerReader fun _ => none) token = .ok () ∧
      ¬ StrictHeader (fun _ => none) token := by
  refine ⟨"eyJ0eXAiOiJKV1QiLCJhbGciOiJub25lIiwiXHUwMDYxbGciOiJSUzI1NiJ9.e30.AA",
    by decide +kernel, fun strict => ?_⟩
  obtain ⟨_, _, _, _, _, _, seen⟩ := @header_accepted (fun _ => none)
    "eyJ0eXAiOiJKV1QiLCJhbGciOiJub25lIiwiXHUwMDYxbGciOiJSUzI1NiJ9.e30.AA" (by decide +kernel)
  have escaped : ((headerMembers (fun _ => none)
      "eyJ0eXAiOiJKV1QiLCJhbGciOiJub25lIiwiXHUwMDYxbGciOiJSUzI1NiJ9.e30.AA").any fun members =>
        members.any fun member => member.name.spelling.contains '\\') = true := by
    decide +kernel
  rw [headerMembers, accepted_header_text seen, Option.bind_some, seen.read, Option.any_some,
    List.any_eq_true] at escaped
  obtain ⟨member, inside, spelled⟩ := escaped
  exact strict_plain_names seen strict _ _ (accepted_header_text seen) seen.read member inside
    (List.contains_iff_mem.mp spelled)

end Strictness

end CommitmentOptimizer.Sessions.ProtectedHeaders
