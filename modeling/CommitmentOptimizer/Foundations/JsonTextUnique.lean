import CommitmentOptimizer.Foundations.JsonText
import CommitmentOptimizer.Foundations.UuidText

/-!
# A JSON text belongs to one value

Without numbers, no text of a value is the beginning of another one's, so a value
can be read back from its text.
-/

namespace CommitmentOptimizer.Foundations.JsonTextUnique

open JsonText
open SqlConstraints

set_option autoImplicit false

section Strings

/-- The character that an escaped text begins with, and what follows. -/
def readCharacter : List Char → Option (Char × List Char)
  | [] => none
  | '\\' :: 'b' :: rest => some (Char.ofNat 0x8, rest)
  | '\\' :: 't' :: rest => some (Char.ofNat 0x9, rest)
  | '\\' :: 'n' :: rest => some (Char.ofNat 0xa, rest)
  | '\\' :: 'f' :: rest => some (Char.ofNat 0xc, rest)
  | '\\' :: 'r' :: rest => some (Char.ofNat 0xd, rest)
  | '\\' :: 'u' :: _ :: _ :: high :: low :: rest =>
      some (Char.ofNat ((hexDigit high).getD 0 * 16 + (hexDigit low).getD 0), rest)
  | '\\' :: character :: rest => some (character, rest)
  | character :: rest => some (character, rest)

theorem char_of_code {character : Char} {code : Nat} (same : character.toNat = code) :
    Char.ofNat code = character := by
  rw [← same, Char.ofNat_toNat]

theorem read_escaped (character : Char) (rest : List Char) :
    readCharacter (escapeCharacter character ++ rest) = some (character, rest) := by
  unfold escapeCharacter
  dsimp only
  split_ifs with quote slash back tab line form carriage control
  · rw [quote]; rfl
  · rw [slash]; rfl
  · rw [← char_of_code back]; rfl
  · rw [← char_of_code tab]; rfl
  · rw [← char_of_code line]; rfl
  · rw [← char_of_code form]; rfl
  · rw [← char_of_code carriage]; rfl
  · have high : hexDigit (Nat.digitChar (character.toNat / 16)) = some (character.toNat / 16) :=
      UuidText.hex_digit_char (by omega)
    have low : hexDigit (Nat.digitChar (character.toNat % 16)) = some (character.toNat % 16) :=
      UuidText.hex_digit_char (by omega)
    have code : character.toNat / 16 * 16 + character.toNat % 16 = character.toNat := by omega
    simp only [List.cons_append, List.nil_append, readCharacter, high, low, Option.getD_some, code,
      Char.ofNat_toNat]
  · simp [readCharacter, slash]

theorem escape_character_head (character : Char) (rest : List Char) :
    ∃ first tail, escapeCharacter character ++ rest = first :: tail ∧ first ≠ '"' := by
  unfold escapeCharacter
  dsimp only
  split_ifs with quote slash back tab line form carriage control
  case neg => exact ⟨character, rest, rfl, quote⟩
  all_goals exact ⟨_, _, rfl, by decide⟩

/-- A quoted text ends at one place only. -/
theorem escaped_unique {left right rest other : List Char}
    (same : left.flatMap escapeCharacter ++ '"' :: rest =
      right.flatMap escapeCharacter ++ '"' :: other) : left = right ∧ rest = other := by
  induction left generalizing right with
  | nil =>
      cases right with
      | nil => exact ⟨rfl, List.tail_eq_of_cons_eq same⟩
      | cons character tail =>
          rw [List.flatMap_cons, List.append_assoc] at same
          obtain ⟨first, later, starts, notQuote⟩ := escape_character_head character _
          rw [starts] at same
          exact absurd (List.head_eq_of_cons_eq same).symm notQuote
  | cons character tail induction =>
      rw [List.flatMap_cons, List.append_assoc] at same
      cases right with
      | nil =>
          obtain ⟨first, later, starts, notQuote⟩ := escape_character_head character _
          rw [starts] at same
          exact absurd (List.head_eq_of_cons_eq same) notQuote
      | cons character' tail' =>
          rw [List.flatMap_cons, List.append_assoc] at same
          have read := congrArg readCharacter same
          rw [read_escaped, read_escaped] at read
          obtain ⟨rfl, rests⟩ := Prod.mk.inj (Option.some.inj read)
          obtain ⟨rfl, last⟩ := induction rests
          exact ⟨rfl, last⟩

theorem quoted_unique {left right : String} {rest other : List Char}
    (same : quoted left ++ rest = quoted right ++ other) : left = right ∧ rest = other := by
  simp only [quoted, escapeText, List.cons_append, List.append_assoc, List.nil_append] at same
  obtain ⟨texts, rests⟩ := escaped_unique (List.tail_eq_of_cons_eq same)
  exact ⟨String.toList_injective texts, rests⟩

end Strings

mutual

def numberFree : Json → Bool
  | .null | .bool _ | .string _ => true
  | .number _ => false
  | .array items => itemsNumberFree items
  | .object fields => fieldsNumberFree fields

def itemsNumberFree : List Json → Bool
  | [] => true
  | item :: rest => numberFree item && itemsNumberFree rest

def fieldsNumberFree : List (String × Json) → Bool
  | [] => true
  | (_, value) :: rest => numberFree value && fieldsNumberFree rest

end

section Values

variable (numberText : Rat → List Char)

/-- What follows the first value of an array. -/
def moreItems : List Json → List Char
  | [] => []
  | item :: rest => ',' :: itemsText numberText (item :: rest)

def moreFields : List (String × Json) → List Char
  | [] => []
  | field :: rest => ',' :: fieldsText numberText (field :: rest)

theorem items_text_cons (item : Json) (rest : List Json) :
    itemsText numberText (item :: rest) = jsonText numberText item ++ moreItems numberText rest := by
  cases rest with
  | nil => simp [itemsText, moreItems]
  | cons next rest => rfl

theorem fields_text_cons (name : String) (value : Json) (rest : List (String × Json)) :
    fieldsText numberText ((name, value) :: rest) =
      quoted name ++ ':' :: (jsonText numberText value ++ moreFields numberText rest) := by
  cases rest with
  | nil => simp [fieldsText, moreFields]
  | cons next rest => rfl

/-- No text of a value begins as a list of values ends. -/
theorem json_text_head {value : Json} (free : numberFree value = true) (rest : List Char) :
    ∃ first tail, jsonText numberText value ++ rest = first :: tail ∧ first ≠ ']' := by
  cases value with
  | null => exact ⟨_, _, rfl, by decide⟩
  | bool value => cases value <;> exact ⟨_, _, rfl, by decide⟩
  | number value => cases free
  | string text => exact ⟨_, _, rfl, by decide⟩
  | array items => exact ⟨_, _, rfl, by decide⟩
  | object fields => exact ⟨_, _, rfl, by decide⟩

mutual

theorem json_text_unique {left right : Json} (leftFree : numberFree left = true)
    (rightFree : numberFree right = true) {rest other : List Char}
    (same : jsonText numberText left ++ rest = jsonText numberText right ++ other) :
    left = right ∧ rest = other := by
  match left, right with
  | .null, .null => exact ⟨rfl, List.append_cancel_left same⟩
  | .bool true, .bool true => exact ⟨rfl, List.append_cancel_left same⟩
  | .bool false, .bool false => exact ⟨rfl, List.append_cancel_left same⟩
  | .string left, .string right =>
      obtain ⟨rfl, rests⟩ := quoted_unique same
      exact ⟨rfl, rests⟩
  | .array left, .array right =>
      simp only [jsonText, List.cons_append, List.append_assoc] at same
      obtain ⟨rfl, rests⟩ :=
        items_text_unique leftFree rightFree (List.tail_eq_of_cons_eq same)
      exact ⟨rfl, rests⟩
  | .object left, .object right =>
      simp only [jsonText, List.cons_append, List.append_assoc] at same
      obtain ⟨rfl, rests⟩ :=
        fields_text_unique leftFree rightFree (List.tail_eq_of_cons_eq same)
      exact ⟨rfl, rests⟩
  | .number _, _ => cases leftFree
  | _, .number _ => cases rightFree
  | .null, .bool true | .null, .bool false | .null, .string _ | .null, .array _ | .null, .object _
  | .bool true, .null | .bool true, .bool false | .bool true, .string _ | .bool true, .array _
  | .bool true, .object _ | .bool false, .null | .bool false, .bool true
  | .bool false, .string _ | .bool false, .array _ | .bool false, .object _
  | .string _, .null | .string _, .bool true | .string _, .bool false | .string _, .array _
  | .string _, .object _ | .array _, .null | .array _, .bool true | .array _, .bool false
  | .array _, .string _ | .array _, .object _ | .object _, .null | .object _, .bool true
  | .object _, .bool false | .object _, .string _ | .object _, .array _ =>
      exact absurd (List.head_eq_of_cons_eq same) (by decide)

theorem items_text_unique {left right : List Json} (leftFree : itemsNumberFree left = true)
    (rightFree : itemsNumberFree right = true) {rest other : List Char}
    (same : itemsText numberText left ++ ']' :: rest = itemsText numberText right ++ ']' :: other) :
    left = right ∧ rest = other := by
  match left, right with
  | [], [] => exact ⟨rfl, List.tail_eq_of_cons_eq same⟩
  | [], item :: tail =>
      rw [items_text_cons, List.append_assoc] at same
      obtain ⟨first, later, starts, notEnd⟩ :=
        json_text_head numberText (Bool.and_eq_true_iff.mp rightFree).1 _
      rw [starts] at same
      exact absurd (List.head_eq_of_cons_eq same).symm notEnd
  | item :: tail, [] =>
      rw [items_text_cons, List.append_assoc] at same
      obtain ⟨first, later, starts, notEnd⟩ :=
        json_text_head numberText (Bool.and_eq_true_iff.mp leftFree).1 _
      rw [starts] at same
      exact absurd (List.head_eq_of_cons_eq same) notEnd
  | item :: tail, item' :: tail' =>
      obtain ⟨itemFree, tailFree⟩ := Bool.and_eq_true_iff.mp leftFree
      obtain ⟨itemFree', tailFree'⟩ := Bool.and_eq_true_iff.mp rightFree
      rw [items_text_cons, items_text_cons, List.append_assoc, List.append_assoc] at same
      obtain ⟨rfl, rests⟩ := json_text_unique itemFree itemFree' same
      match tail, tail' with
      | [], [] => exact ⟨rfl, List.tail_eq_of_cons_eq rests⟩
      | [], _ :: _ | _ :: _, [] => exact absurd (List.head_eq_of_cons_eq rests) (by decide)
      | _ :: _, _ :: _ =>
          obtain ⟨tails, last⟩ :=
            items_text_unique tailFree tailFree' (List.tail_eq_of_cons_eq rests)
          exact ⟨by rw [tails], last⟩

theorem fields_text_unique {left right : List (String × Json)}
    (leftFree : fieldsNumberFree left = true) (rightFree : fieldsNumberFree right = true)
    {rest other : List Char}
    (same : fieldsText numberText left ++ '\x7d' :: rest =
      fieldsText numberText right ++ '\x7d' :: other) :
    left = right ∧ rest = other := by
  match left, right with
  | [], [] => exact ⟨rfl, List.tail_eq_of_cons_eq same⟩
  | [], (_, _) :: _ =>
      rw [fields_text_cons] at same
      exact absurd (List.head_eq_of_cons_eq same) (by decide)
  | (_, _) :: _, [] =>
      rw [fields_text_cons] at same
      exact absurd (List.head_eq_of_cons_eq same) (by decide)
  | (name, value) :: tail, (name', value') :: tail' =>
      obtain ⟨valueFree, tailFree⟩ := Bool.and_eq_true_iff.mp leftFree
      obtain ⟨valueFree', tailFree'⟩ := Bool.and_eq_true_iff.mp rightFree
      simp only [fields_text_cons, List.append_assoc, List.cons_append] at same
      obtain ⟨rfl, values⟩ := quoted_unique same
      obtain ⟨rfl, rests⟩ :=
        json_text_unique valueFree valueFree' (List.tail_eq_of_cons_eq values)
      match tail, tail' with
      | [], [] => exact ⟨rfl, List.tail_eq_of_cons_eq rests⟩
      | [], _ :: _ | _ :: _, [] => exact absurd (List.head_eq_of_cons_eq rests) (by decide)
      | _ :: _, _ :: _ =>
          obtain ⟨tails, last⟩ :=
            fields_text_unique tailFree tailFree' (List.tail_eq_of_cons_eq rests)
          exact ⟨by rw [tails], last⟩

end

/-- `JSON.stringify` tells values without numbers apart. -/
theorem json_text_injective {left right : Json} (leftFree : numberFree left = true)
    (rightFree : numberFree right = true)
    (same : jsonText numberText left = jsonText numberText right) : left = right :=
  (json_text_unique numberText leftFree rightFree
    (congrArg (fun text => text ++ []) same)).1

end Values

end CommitmentOptimizer.Foundations.JsonTextUnique
