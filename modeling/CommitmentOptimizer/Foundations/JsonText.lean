import Mathlib.Data.List.Infix
import CommitmentOptimizer.Foundations.Json

/-!
# JSON as text

`JSON.stringify` of a value, and where a word can occur in such a text.
-/

namespace CommitmentOptimizer.Foundations.JsonText

set_option autoImplicit false

/-- One character inside a JSON string. -/
def escapeCharacter (character : Char) : List Char :=
  let code := character.toNat
  if character = '"' then ['\\', '"']
  else if character = '\\' then ['\\', '\\']
  else if code = 0x8 then ['\\', 'b']
  else if code = 0x9 then ['\\', 't']
  else if code = 0xa then ['\\', 'n']
  else if code = 0xc then ['\\', 'f']
  else if code = 0xd then ['\\', 'r']
  else if code < 0x20 then
    ['\\', 'u', '0', '0', Nat.digitChar (code / 16), Nat.digitChar (code % 16)]
  else [character]

def escapeText (text : String) : List Char := text.toList.flatMap escapeCharacter

def quoted (text : String) : List Char := '"' :: (escapeText text ++ ['"'])

section Stringify

variable (numberText : Rat → List Char)

mutual

/-- `numberText` writes the finite numbers; the others are written as `null`. -/
def jsonText : Json → List Char
  | .null | .number none => "null".toList
  | .bool true => "true".toList
  | .bool false => "false".toList
  | .number (some value) => numberText value
  | .string text => quoted text
  | .array items => '[' :: (itemsText items ++ [']'])
  | .object fields => '\x7b' :: (fieldsText fields ++ ['\x7d'])

def itemsText : List Json → List Char
  | [] => []
  | [item] => jsonText item
  | item :: rest => jsonText item ++ ',' :: itemsText rest

def fieldsText : List (String × Json) → List Char
  | [] => []
  | [(name, value)] => quoted name ++ ':' :: jsonText value
  | (name, value) :: rest => quoted name ++ ':' :: (jsonText value ++ ',' :: fieldsText rest)

end

end Stringify

section Words

variable {Symbol : Type}

/-- A word without the separator lies on one side of it. -/
theorem infix_append_separator {word left right : List Symbol} {separator : Symbol}
    (plain : separator ∉ word) :
    word <:+: left ++ separator :: right ↔ word <:+: left ∨ word <:+: right := by
  constructor
  · rintro ⟨before, after, same⟩
    rw [List.append_assoc, List.append_eq_append_iff] at same
    rcases same with ⟨middle, isLeft, rest⟩ | ⟨middle, isBefore, rest⟩
    · -- the word starts in the left part, so it ends there too
      rw [List.append_eq_append_iff] at rest
      rcases rest with ⟨tail, isMiddle, _⟩ | ⟨tail, isWord, isRest⟩
      · exact Or.inl ⟨before, tail, by rw [isLeft, isMiddle, List.append_assoc]⟩
      · cases tail with
        | nil =>
            rw [List.append_nil] at isWord
            exact Or.inl ⟨before, [], by rw [isLeft, isWord, List.append_nil]⟩
        | cons symbol tail =>
            obtain ⟨rfl, _⟩ := List.cons.inj isRest
            exact absurd (by rw [isWord]; simp) plain
    · cases middle with
      | nil =>
          rw [List.nil_append] at rest
          cases word with
          | nil => exact Or.inl (List.nil_infix)
          | cons symbol word =>
              obtain ⟨rfl, _⟩ := List.cons.inj rest
              exact absurd List.mem_cons_self plain
      | cons symbol middle =>
          obtain ⟨_, tail⟩ := List.cons.inj rest
          exact Or.inr ⟨middle, after, (List.append_assoc ..).trans tail.symm⟩
  · rintro (inside | inside)
    · exact inside.trans (List.prefix_append _ _).isInfix
    · exact inside.trans ((List.suffix_cons _ _).isInfix.trans (List.suffix_append _ _).isInfix)

/-- A word does not fit into a shorter text. -/
theorem not_infix_of_length {word text : List Symbol} (short : text.length < word.length) :
    ¬ word <:+: text := fun inside => absurd inside.length_le (by omega)

end Words

end CommitmentOptimizer.Foundations.JsonText
