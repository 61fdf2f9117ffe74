import CommitmentOptimizer.Foundations.JsonText
import CommitmentOptimizer.Foundations.ColumnCasts

/-!
# The text of a jsonb value

How many octets the database writes for a value: the separators have a blank, and strings
are escaped as in a JSON text.
-/

namespace CommitmentOptimizer.Foundations.JsonbText

open ColumnCasts
open JsonText

set_option autoImplicit false

def utf8Length (text : List Char) : Nat := (text.map Char.utf8Size).sum

section Octets

variable (numberOctets : Rat → Nat)

mutual

/-- `octet_length(value::text)`; `numberOctets` is the length of a number's text. -/
def jsonbOctets : Json → Nat
  | .null | .number none | .bool true => 4
  | .bool false => 5
  | .number (some value) => numberOctets value
  | .string text => utf8Length (quoted text)
  | .array items => 2 + itemsOctets items
  | .object fields => 2 + fieldsOctets fields

def itemsOctets : List Json → Nat
  | [] => 0
  | [item] => jsonbOctets item
  | item :: rest => jsonbOctets item + 2 + itemsOctets rest

def fieldsOctets : List (String × Json) → Nat
  | [] => 0
  | [(name, value)] => utf8Length (quoted name) + 2 + jsonbOctets value
  | (name, value) :: rest =>
      utf8Length (quoted name) + 2 + jsonbOctets value + 2 + fieldsOctets rest

end

end Octets

section Texts

variable {numberOctets : Rat → Nat}

/-- A list of texts is not longer than the texts with a separator each. -/
theorem texts_octets_le (texts : List String) :
    itemsOctets numberOctets (texts.map .string) ≤
      (texts.map fun text => utf8Length (quoted text) + 2).sum := by
  induction texts with
  | nil => exact le_refl 0
  | cons text rest induction =>
      cases rest with
      | nil =>
          simp only [List.map_cons, List.map_nil, List.sum_cons, List.sum_nil, itemsOctets,
            jsonbOctets]
          omega
      | cons second rest =>
          rw [List.map_cons, List.map_cons] at induction ⊢
          simp only [itemsOctets, jsonbOctets, List.map_cons, List.sum_cons] at induction ⊢
          omega

theorem texts_plain {texts : List String} (plain : ∀ text ∈ texts, '\x00' ∉ text.toList) :
    itemsHoldNul (texts.map .string) = false := by
  induction texts with
  | nil => rfl
  | cons text rest induction =>
      simp only [List.map_cons, itemsHoldNul, holdsNul, Bool.or_eq_false_iff]
      refine ⟨?_, induction fun later member => plain later (List.mem_cons_of_mem _ member)⟩
      exact Bool.eq_false_iff.mpr fun found =>
        plain text List.mem_cons_self (List.contains_iff_mem.mp found)

end Texts

end CommitmentOptimizer.Foundations.JsonbText
