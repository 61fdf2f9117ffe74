import CommitmentOptimizer.Foundations.IsoInstants
import CommitmentOptimizer.Foundations.Json

/-!
# JavaScript values

The values a reader of foreign data hands to a program, and what
`JSON.stringify` makes of them.
-/

namespace CommitmentOptimizer.Foundations

set_option autoImplicit false

/-- A date is `none` when it is invalid. A typed array is an object with the
indexes as names. -/
inductive JsValue where
  | undefined
  | null
  | bool (value : Bool)
  | number (value : Option Rat)
  | bigint (value : Int)
  | string (value : String)
  | date (time : Option Int)
  | array (items : List JsValue)
  | object (fields : List (String × JsValue))

namespace JsValue

open IsoInstants

mutual

/-- What `JSON.parse` builds. -/
def ofJson : Json → JsValue
  | .null => null
  | .bool value => bool value
  | .number value => number value
  | .string value => string value
  | .array items => array (ofItems items)
  | .object fields => object (ofFields fields)

def ofItems : List Json → List JsValue
  | [] => []
  | item :: rest => ofJson item :: ofItems rest

def ofFields : List (String × Json) → List (String × JsValue)
  | [] => []
  | (name, value) :: rest => (name, ofJson value) :: ofFields rest

end

mutual

/-- The JSON value that `JSON.stringify` writes; `none` where it throws. A field
that is undefined is left out. -/
def toJson : JsValue → Option Json
  | undefined | null | date none => some .null
  | bool value => some (.bool value)
  | number value => some (.number value)
  | bigint _ => none
  | string value => some (.string value)
  | date (some time) => some (.string (toIsoString time))
  | array items => (toItems items).map .array
  | object fields => (toFields fields).map .object

def toItems : List JsValue → Option (List Json)
  | [] => some []
  | item :: rest => do
      let value ← toJson item
      let values ← toItems rest
      return value :: values

def toFields : List (String × JsValue) → Option (List (String × Json))
  | [] => some []
  | (_, undefined) :: rest => toFields rest
  | (name, field) :: rest => do
      let value ← toJson field
      let values ← toFields rest
      return (name, value) :: values

end

mutual

theorem to_json_of_json : (value : Json) → toJson (ofJson value) = some value
  | .null | .bool _ | .number _ | .string _ => rfl
  | .array items => by rw [ofJson, toJson, to_items_of_items items]; rfl
  | .object fields => by rw [ofJson, toJson, to_fields_of_fields fields]; rfl

theorem to_items_of_items : (items : List Json) → toItems (ofItems items) = some items
  | [] => rfl
  | item :: rest => by
      rw [ofItems, toItems, to_json_of_json item, to_items_of_items rest]
      rfl

theorem to_fields_of_fields : (fields : List (String × Json)) →
    toFields (ofFields fields) = some fields
  | [] => rfl
  | (name, value) :: rest => by
      have defined : ofJson value ≠ undefined := by
        cases value <;> simp [ofJson]
      rw [ofFields, toFields, to_json_of_json value, to_fields_of_fields rest]
      · rfl
      · exact defined

end

/-- `source[key]` of an object; a missing field is `undefined`. -/
def field (key : String) : JsValue → JsValue
  | object fields => (fields.lookup key).getD undefined
  | _ => undefined

end JsValue

end CommitmentOptimizer.Foundations
