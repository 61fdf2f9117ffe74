import CommitmentOptimizer.Foundations.JsonTextUnique

/-!
# Reading JSON text

A reader of JSON text by recursive descent. An object with a key twice is refused, and
the numbers are left to a parameter.
-/

namespace CommitmentOptimizer.Foundations.JsonReader

open JsonText
open JsonTextUnique
open SqlConstraints

set_option autoImplicit false

section Strings

def hexFour (first second third fourth : Char) : Option Nat := do
  let thousands ← hexDigit first
  let hundreds ← hexDigit second
  let tens ← hexDigit third
  let ones ← hexDigit fourth
  return ((thousands * 16 + hundreds) * 16 + tens) * 16 + ones

/-- The escapes of one character. -/
def simpleEscape : Char → Option Char
  | '"' => some '"'
  | '\\' => some '\\'
  | '/' => some '/'
  | 'b' => some (Char.ofNat 0x8)
  | 't' => some (Char.ofNat 0x9)
  | 'n' => some (Char.ofNat 0xa)
  | 'f' => some (Char.ofNat 0xc)
  | 'r' => some (Char.ofNat 0xd)
  | _ => none

def isHighSurrogate (code : Nat) : Bool := 0xd800 ≤ code && code ≤ 0xdbff

def isLowSurrogate (code : Nat) : Bool := 0xdc00 ≤ code && code ≤ 0xdfff

/-- The characters up to the closing quotation mark, and what follows it. -/
def readString : List Char → Option (List Char × List Char)
  | [] => none
  | '"' :: rest => some ([], rest)
  | '\\' :: 'u' :: first :: second :: third :: fourth :: rest =>
      match hexFour first second third fourth with
      | none => none
      | some code =>
          if isHighSurrogate code then
            match rest with
            | '\\' :: 'u' :: lowFirst :: lowSecond :: lowThird :: lowFourth :: rest =>
                match hexFour lowFirst lowSecond lowThird lowFourth with
                | none => none
                | some low =>
                    if isLowSurrogate low then
                      (readString rest).map fun (text, rest) =>
                        (Char.ofNat (0x10000 + (code - 0xd800) * 0x400 + (low - 0xdc00)) :: text,
                          rest)
                    else none
            | _ => none
          else if isLowSurrogate code then none
          else (readString rest).map fun (text, rest) => (Char.ofNat code :: text, rest)
  | '\\' :: escaped :: rest =>
      match simpleEscape escaped with
      | none => none
      | some character =>
          (readString rest).map fun (text, rest) => (character :: text, rest)
  | character :: rest =>
      if character.toNat < 0x20 || character = '\\' then none
      else (readString rest).map fun (text, rest) => (character :: text, rest)

theorem read_string_character (character : Char) (rest : List Char) :
    readString (escapeCharacter character ++ rest) =
      (readString rest).map fun (text, rest) => (character :: text, rest) := by
  unfold escapeCharacter
  dsimp only
  split_ifs with quote slash back tab line form carriage control
  · rw [quote]; rfl
  · rw [slash]; rfl
  · rw [← char_of_code back]; rfl
  · rw [← char_of_code tab]; rfl
  · rw [← char_of_code line]; rfl
  · rw [← char_of_code form]; rfl
  · rw [← char_of_code carriage]; rfl
  · have high : hexDigit (Nat.digitChar (character.toNat / 16)) = some (character.toNat / 16) :=
      UuidText.hex_digit_char (by omega)
    have low : hexDigit (Nat.digitChar (character.toNat % 16)) = some (character.toNat % 16) :=
      UuidText.hex_digit_char (by omega)
    have zero : hexDigit '0' = some 0 := rfl
    have code : character.toNat / 16 * 16 + character.toNat % 16 = character.toNat := by omega
    have plain : isHighSurrogate character.toNat = false := by
      simp [isHighSurrogate]
      omega
    have alone : isLowSurrogate character.toNat = false := by
      simp [isLowSurrogate]
      omega
    have four : hexFour '0' '0' (Nat.digitChar (character.toNat / 16))
        (Nat.digitChar (character.toNat % 16)) = some character.toNat := by
      simp [hexFour, zero, high, low, code]
    simp only [List.cons_append, List.nil_append, readString, four, plain, alone,
      Bool.false_eq_true, if_false, Char.ofNat_toNat]
  · simp only [List.cons_append, List.nil_append]
    rw [readString]
    · simp [control, slash]
    · exact quote
    · exact fun _ _ _ _ _ same => absurd same slash
    · exact fun _ _ same => absurd same slash

/-- A quoted text reads back. -/
theorem read_string_escaped (text rest : List Char) :
    readString (text.flatMap escapeCharacter ++ '"' :: rest) = some (text, rest) := by
  induction text with
  | nil => rfl
  | cons character text induction =>
      rw [List.flatMap_cons, List.append_assoc, read_string_character, induction]
      rfl

end Strings

section Reader

variable (readNumber : List Char → Option (Option Rat × List Char))

def isJsonSpace (character : Char) : Bool :=
  character = ' ' || character = '\t' || character = '\n' || character = '\r'

def skipSpace (text : List Char) : List Char := text.dropWhile isJsonSpace

/-- The name of a member, and what follows its colon. -/
def readName (text : List Char) : Option (String × List Char) :=
  match skipSpace text with
  | '"' :: rest =>
      match readString rest with
      | none => none
      | some (name, rest) =>
          match skipSpace rest with
          | ':' :: rest => some (String.ofList name, rest)
          | _ => none
  | _ => none

/-- The members of an object, each name once. -/
def distinctObject (fields : List (String × Json)) : Option Json :=
  if (fields.map Prod.fst).Nodup then some (.object fields) else none

mutual

/-- A value and what follows it. The fuel is at least the length of the value. -/
def readValue : Nat → List Char → Option (Json × List Char)
  | 0, _ => none
  | fuel + 1, text =>
      match skipSpace text with
      | 'n' :: 'u' :: 'l' :: 'l' :: rest => some (.null, rest)
      | 't' :: 'r' :: 'u' :: 'e' :: rest => some (.bool true, rest)
      | 'f' :: 'a' :: 'l' :: 's' :: 'e' :: rest => some (.bool false, rest)
      | '"' :: rest =>
          (readString rest).map fun (text, rest) => (.string (String.ofList text), rest)
      | '[' :: rest =>
          match skipSpace rest with
          | ']' :: rest => some (.array [], rest)
          | rest => (readItems fuel rest).map fun (items, rest) => (.array items, rest)
      | '\x7b' :: rest =>
          match skipSpace rest with
          | '\x7d' :: rest => some (.object [], rest)
          | rest =>
              (readFields fuel rest).bind fun (fields, rest) =>
                (distinctObject fields).map fun object => (object, rest)
      | text => (readNumber text).map fun (number, rest) => (.number number, rest)

/-- The items from the first one to the closing bracket. -/
def readItems : Nat → List Char → Option (List Json × List Char)
  | 0, _ => none
  | fuel + 1, text =>
      match readValue fuel text with
      | none => none
      | some (item, rest) =>
          match skipSpace rest with
          | ']' :: rest => some ([item], rest)
          | ',' :: rest =>
              (readItems fuel rest).map fun (items, rest) => (item :: items, rest)
          | _ => none

/-- The members from the first one to the closing brace. -/
def readFields : Nat → List Char → Option (List (String × Json) × List Char)
  | 0, _ => none
  | fuel + 1, text =>
      match readName text with
      | none => none
      | some (name, rest) =>
          match readValue fuel rest with
          | none => none
          | some (value, rest) =>
              match skipSpace rest with
              | '\x7d' :: rest => some ([(name, value)], rest)
              | ',' :: rest =>
                  (readFields fuel rest).map fun (fields, rest) => ((name, value) :: fields, rest)
              | _ => none

end

/-- The value of a whole text. -/
def readJson (text : List Char) : Option Json :=
  match readValue readNumber (text.length + 1) text with
  | some (value, rest) => if skipSpace rest = [] then some value else none
  | none => none

end Reader

section Readable

mutual

/-- A value without numbers, whose objects have each name once. -/
def readable : Json → Bool
  | .null | .bool _ | .string _ => true
  | .number _ => false
  | .array items => readableItems items
  | .object fields => readableFields fields && (fields.map Prod.fst).Nodup

def readableItems : List Json → Bool
  | [] => true
  | item :: rest => readable item && readableItems rest

def readableFields : List (String × Json) → Bool
  | [] => true
  | (_, value) :: rest => readable value && readableFields rest

end

variable {readNumber : List Char → Option (Option Rat × List Char)}
  {numberText : Rat → List Char}

theorem skip_space_cons {character : Char} (visible : isJsonSpace character = false)
    (rest : List Char) : skipSpace (character :: rest) = character :: rest := by
  rw [skipSpace, List.dropWhile_cons, visible]
  rfl

theorem value_text_head {value : Json} (known : readable value = true) :
    ∃ first tail, jsonText numberText value = first :: tail ∧ isJsonSpace first = false ∧
      first ≠ ']' := by
  cases value with
  | null => exact ⟨_, _, rfl, by decide, by decide⟩
  | bool value => cases value <;> exact ⟨_, _, rfl, by decide, by decide⟩
  | number value => cases known
  | string text => exact ⟨_, _, rfl, by decide, by decide⟩
  | array items => exact ⟨_, _, rfl, by decide, by decide⟩
  | object fields => exact ⟨_, _, rfl, by decide, by decide⟩

theorem read_quoted {fuel : Nat} (text : String) (rest : List Char) :
    readValue readNumber (fuel + 1) (quoted text ++ rest) = some (.string text, rest) := by
  have opened : readValue readNumber (fuel + 1) (quoted text ++ rest) =
      (readString (escapeText text ++ ['"'] ++ rest)).map
        fun (text, rest) => (.string (String.ofList text), rest) := by
    rw [readValue, quoted, List.cons_append, skip_space_cons (by decide)]
    rfl
  rw [opened, List.append_assoc, List.cons_append, List.nil_append, escapeText,
    read_string_escaped, Option.map_some]
  dsimp only
  rw [String.ofList_toList]

/-- An array that does not close at once has items. -/
theorem read_array_items {fuel : Nat} {first : Char} {tail : List Char}
    (visible : isJsonSpace first = false) (notEnd : first ≠ ']') :
    readValue readNumber (fuel + 1) ('[' :: first :: tail) =
      (readItems readNumber fuel (first :: tail)).map fun (items, rest) => (.array items, rest) := by
  have opened : readValue readNumber (fuel + 1) ('[' :: first :: tail) =
      match skipSpace (first :: tail) with
      | ']' :: rest => some (.array [], rest)
      | rest => (readItems readNumber fuel rest).map fun (items, rest) => (.array items, rest) := by
    rw [readValue, skip_space_cons (by decide)]
    rfl
  rw [opened, skip_space_cons visible]
  split
  case h_1 same => exact absurd (List.head_eq_of_cons_eq same) notEnd
  case h_2 => rfl

theorem read_object_fields {fuel : Nat} {tail : List Char} :
    readValue readNumber (fuel + 1) ('\x7b' :: '"' :: tail) =
      (readFields readNumber fuel ('"' :: tail)).bind fun (fields, rest) =>
        (distinctObject fields).map fun object => (object, rest) := by
  rw [readValue, skip_space_cons (by decide)]
  rfl

theorem read_items_last {fuel : Nat} {item : Json} {text rest : List Char}
    (read : readValue readNumber fuel text = some (item, ']' :: rest)) :
    readItems readNumber (fuel + 1) text = some ([item], rest) := by
  rw [readItems, read]
  rfl

theorem read_items_next {fuel : Nat} {item : Json} {text rest : List Char}
    (read : readValue readNumber fuel text = some (item, ',' :: rest)) :
    readItems readNumber (fuel + 1) text =
      (readItems readNumber fuel rest).map fun (items, rest) => (item :: items, rest) := by
  rw [readItems, read]
  rfl

theorem read_name_quoted (name : String) (text : List Char) :
    readName (quoted name ++ ':' :: text) = some (name, text) := by
  have opened : readName (quoted name ++ ':' :: text) =
      match readString (escapeText name ++ ['"'] ++ ':' :: text) with
      | none => none
      | some (name, rest) =>
          match skipSpace rest with
          | ':' :: rest => some (String.ofList name, rest)
          | _ => none := by
    rw [readName, quoted, List.cons_append, skip_space_cons (by decide)]
    rfl
  rw [opened, List.append_assoc, List.cons_append, List.nil_append, escapeText,
    read_string_escaped]
  dsimp only
  rw [skip_space_cons (by decide), String.ofList_toList]
  rfl

theorem read_fields_last {fuel : Nat} {value : Json} {name : String} {text rest : List Char}
    (read : readValue readNumber fuel text = some (value, '\x7d' :: rest)) :
    readFields readNumber (fuel + 1) (quoted name ++ ':' :: text) =
      some ([(name, value)], rest) := by
  rw [readFields, read_name_quoted]
  dsimp only
  rw [read]
  rfl

theorem read_fields_next {fuel : Nat} {value : Json} {name : String} {text rest : List Char}
    (read : readValue readNumber fuel text = some (value, ',' :: rest)) :
    readFields readNumber (fuel + 1) (quoted name ++ ':' :: text) =
      (readFields readNumber fuel rest).map fun (fields, rest) =>
        ((name, value) :: fields, rest) := by
  rw [readFields, read_name_quoted]
  dsimp only
  rw [read]
  rfl

mutual

/-- A readable value reads back from its text, whatever follows it. -/
theorem read_value_text {value : Json} (known : readable value = true) {fuel : Nat}
    (enough : (jsonText numberText value).length ≤ fuel) (rest : List Char) :
    readValue readNumber fuel (jsonText numberText value ++ rest) = some (value, rest) := by
  cases fuel with
  | zero =>
      obtain ⟨first, tail, text, _⟩ := @value_text_head numberText _ known
      rw [text] at enough
      cases enough
  | succ fuel =>
      match value with
      | .null => rfl
      | .bool true => rfl
      | .bool false => rfl
      | .string text => exact read_quoted text rest
      | .array [] => rfl
      | .array (item :: tail) =>
          have knownItems : readableItems (item :: tail) = true := known
          obtain ⟨first, later, text, visible, notEnd⟩ := @value_text_head numberText item
            (Bool.and_eq_true_iff.mp knownItems).1
          have length : (itemsText numberText (item :: tail)).length + 1 ≤ fuel := by
            simpa [jsonText] using enough
          have items := @read_items_text item tail knownItems fuel length rest
          rw [items_text_cons, text, List.cons_append] at items
          rw [jsonText, List.cons_append, List.append_assoc, items_text_cons, text,
            List.cons_append, List.cons_append, read_array_items visible notEnd]
          exact congrArg (Option.map fun read => (Json.array read.1, read.2)) items
      | .object [] => rfl
      | .object ((name, member) :: tail) =>
          obtain ⟨knownFields, distinct⟩ := Bool.and_eq_true_iff.mp known
          have length : (fieldsText numberText ((name, member) :: tail)).length + 1 ≤ fuel := by
            simpa [jsonText] using enough
          have fields := @read_fields_text name member tail knownFields fuel length rest
          have object : distinctObject ((name, member) :: tail) =
              some (.object ((name, member) :: tail)) := if_pos (of_decide_eq_true distinct)
          rw [jsonText, List.cons_append, List.append_assoc]
          rw [fields_text_cons, quoted] at fields ⊢
          rw [List.cons_append, List.cons_append, read_object_fields]
          change (readFields readNumber fuel _).bind _ = _
          refine (congrArg (fun read => Option.bind read _) fields).trans ?_
          rw [Option.bind_some]
          dsimp only
          rw [object]
          rfl
termination_by fuel

theorem read_items_text {item : Json} {tail : List Json}
    (known : readableItems (item :: tail) = true) {fuel : Nat}
    (enough : (itemsText numberText (item :: tail)).length + 1 ≤ fuel) (rest : List Char) :
    readItems readNumber fuel (itemsText numberText (item :: tail) ++ ']' :: rest) =
      some (item :: tail, rest) := by
  obtain ⟨knownItem, knownTail⟩ := Bool.and_eq_true_iff.mp known
  cases fuel with
  | zero => cases enough
  | succ fuel =>
      rw [items_text_cons, List.length_append] at enough
      rw [items_text_cons, List.append_assoc]
      have read := @read_value_text item knownItem fuel (by omega)
        (moreItems numberText tail ++ ']' :: rest)
      match tail with
      | [] => exact read_items_last read
      | next :: tail =>
          have shorter : (itemsText numberText (next :: tail)).length + 1 ≤ fuel := by
            obtain ⟨_, _, text, _⟩ := @value_text_head numberText item knownItem
            rw [text, moreItems, List.length_cons, List.length_cons] at enough
            omega
          have items := @read_items_text next tail knownTail fuel shorter rest
          rw [read_items_next read]
          exact congrArg (Option.map fun read => (item :: read.1, read.2)) items
termination_by fuel

theorem read_fields_text {name : String} {member : Json} {tail : List (String × Json)}
    (known : readableFields ((name, member) :: tail) = true) {fuel : Nat}
    (enough : (fieldsText numberText ((name, member) :: tail)).length + 1 ≤ fuel)
    (rest : List Char) :
    readFields readNumber fuel (fieldsText numberText ((name, member) :: tail) ++
      '\x7d' :: rest) = some ((name, member) :: tail, rest) := by
  obtain ⟨knownMember, knownTail⟩ := Bool.and_eq_true_iff.mp known
  cases fuel with
  | zero => cases enough
  | succ fuel =>
      rw [fields_text_cons, List.length_append, List.length_cons, List.length_append] at enough
      rw [fields_text_cons, List.append_assoc, List.cons_append, List.append_assoc]
      have read := @read_value_text member knownMember fuel (by omega)
        (moreFields numberText tail ++ '\x7d' :: rest)
      match tail with
      | [] => exact read_fields_last read
      | (next, value) :: tail =>
          have shorter : (fieldsText numberText ((next, value) :: tail)).length + 1 ≤ fuel := by
            rw [moreFields, List.length_cons] at enough
            omega
          have fields := @read_fields_text next value tail knownTail fuel shorter rest
          rw [read_fields_next read]
          exact congrArg (Option.map fun read => ((name, member) :: read.1, read.2)) fields
termination_by fuel

end

/-- The text of a readable value is read as the value. -/
theorem read_json_text {value : Json} (known : readable value = true) :
    readJson readNumber (jsonText numberText value) = some value := by
  have read := @read_value_text readNumber numberText value known
    ((jsonText numberText value).length + 1) (Nat.le_succ _) []
  rw [List.append_nil] at read
  rw [readJson, read]
  rfl

end Readable

end CommitmentOptimizer.Foundations.JsonReader
