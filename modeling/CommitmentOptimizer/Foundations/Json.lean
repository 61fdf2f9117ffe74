import Mathlib.Tactic.Ring

/-!
# JSON values and JavaScript text

JSON values as a program sees them after parsing, and the string functions of
the JavaScript standard library that the model needs.
-/

namespace CommitmentOptimizer.Foundations

set_option autoImplicit false

/-- A number is `none` when its literal overflows to an infinity. The fields of
an object have distinct names, as parsing leaves them. -/
inductive Json where
  | null
  | bool (value : Bool)
  | number (value : Option Rat)
  | string (value : String)
  | array (items : List Json)
  | object (fields : List (String × Json))

namespace Json

mutual

def decEq : (left right : Json) → Decidable (left = right)
  | null, null => isTrue rfl
  | bool left, bool right => decidable_of_iff (left = right) (by simp)
  | number left, number right => decidable_of_iff (left = right) (by simp)
  | string left, string right => decidable_of_iff (left = right) (by simp)
  | array left, array right =>
      match decEqItems left right with
      | isTrue same => isTrue (by rw [same])
      | isFalse different => isFalse (by simpa using different)
  | object left, object right =>
      match decEqFields left right with
      | isTrue same => isTrue (by rw [same])
      | isFalse different => isFalse (by simpa using different)
  | null, bool _ | null, number _ | null, string _ | null, array _ | null, object _
  | bool _, null | bool _, number _ | bool _, string _ | bool _, array _ | bool _, object _
  | number _, null | number _, bool _ | number _, string _ | number _, array _
  | number _, object _
  | string _, null | string _, bool _ | string _, number _ | string _, array _
  | string _, object _
  | array _, null | array _, bool _ | array _, number _ | array _, string _ | array _, object _
  | object _, null | object _, bool _ | object _, number _ | object _, string _
  | object _, array _ => isFalse (by simp)

def decEqItems : (left right : List Json) → Decidable (left = right)
  | [], [] => isTrue rfl
  | [], _ :: _ | _ :: _, [] => isFalse (by simp)
  | left :: lefts, right :: rights =>
      match decEq left right, decEqItems lefts rights with
      | isTrue same, isTrue rest => isTrue (by rw [same, rest])
      | isFalse different, _ => isFalse (by simp [different])
      | _, isFalse different => isFalse (by simp [different])

def decEqFields : (left right : List (String × Json)) → Decidable (left = right)
  | [], [] => isTrue rfl
  | [], _ :: _ | _ :: _, [] => isFalse (by simp)
  | (leftName, left) :: lefts, (rightName, right) :: rights =>
      match decEq left right, decEqFields lefts rights with
      | isTrue same, isTrue rest =>
          decidable_of_iff (leftName = rightName) (by rw [same, rest]; simp)
      | isFalse different, _ => isFalse (by simp [different])
      | _, isFalse different => isFalse (by simp [different])

end

instance : DecidableEq Json := decEq

/-- `source[key]` of an object; `none` is `undefined`. -/
def field (key : String) : Json → Option Json
  | object fields => fields.lookup key
  | _ => none

/-- `jsonb ?| array`: an object that has one of the top-level keys. -/
def hasAnyKey (keys : List String) : Json → Bool
  | object fields => fields.any fun field => keys.contains field.1
  | _ => false

def isObject : Json → Bool
  | object _ => true
  | _ => false

end Json

/-- The white space and line terminators that `String.prototype.trim` strips. -/
def isJsSpace (character : Char) : Bool :=
  let code := character.toNat
  (0x9 ≤ code && code ≤ 0xd) || code == 0x20 || code == 0xa0 || code == 0x1680 ||
    (0x2000 ≤ code && code ≤ 0x200a) || code == 0x2028 || code == 0x2029 || code == 0x202f ||
    code == 0x205f || code == 0x3000 || code == 0xfeff

/-- `String.prototype.trim`, on the characters. -/
def jsTrim (text : List Char) : List Char :=
  ((text.dropWhile isJsSpace).reverse.dropWhile isJsSpace).reverse

/-- `String.prototype.length` counts UTF-16 code units. -/
def utf16Length (text : List Char) : Nat :=
  (text.map fun character => if character.toNat < 0x10000 then 1 else 2).sum

end CommitmentOptimizer.Foundations
