import CommitmentOptimizer.Foundations.KeyPatterns
import CommitmentOptimizer.Imports.UsageParsers

/-!
# What the audit list shows

`toAudit` of `audit-service.ts`, and which members of the stored values it removes.
-/

namespace CommitmentOptimizer.Audit.AuditSanitizing

open Foundations
open Foundations.KeyPatterns
open Imports.UsageParsers (foldCase)

set_option autoImplicit false

abbrev JsonFields := List (String × Json)

section Sanitizing

def sensitiveWords : List (String × String) :=
  [("password", ""), ("secret", ""), ("token", ""), ("credential", ""), ("authorization", ""),
    ("cookie", ""), ("private", "key"), ("api", "key"), ("hash", ""), ("digest", "")]

def isSensitiveKey (key : String) : Bool := matchesAny foldCase sensitiveWords key

mutual

/-- The members in order; `result["__proto__"] = item` sets a prototype and no member. -/
def sanitizeRecord : JsonFields → JsonFields
  | [] => []
  | (key, item) :: rest =>
      if isSensitiveKey key then sanitizeRecord rest
      else if key = "__proto__" then sanitizeRecord rest
      else (key, sanitizeItem item) :: sanitizeRecord rest

def sanitizeItem : Json → Json
  | .object fields => .object (sanitizeRecord fields)
  | .array items => .array (sanitizeEntries items)
  | .null => .null
  | .bool value => .bool value
  | .number value => .number value
  | .string value => .string value

/-- `item.map(...)`: an entry that is itself an array stays as it is. -/
def sanitizeEntries : List Json → List Json
  | [] => []
  | .object fields :: rest => .object (sanitizeRecord fields) :: sanitizeEntries rest
  | entry :: rest => entry :: sanitizeEntries rest

end

def sanitizeValues (value : Option JsonFields) : Option JsonFields := value.map sanitizeRecord

inductive AuditActorType where
  | user | apiKey | job | system
  deriving DecidableEq, Repr

structure AuditRecord where
  id : String
  actorUserId : Option String
  actorType : AuditActorType
  action : String
  entityType : String
  entityId : Option String
  oldValues : Option JsonFields
  newValues : Option JsonFields
  requestId : Option String
  createdAt : String

/-- The answer has the columns of the record under other names. -/
def toAudit (row : AuditRecord) : AuditRecord :=
  { row with
    oldValues := sanitizeValues row.oldValues
    newValues := sanitizeValues row.newValues }

/-- The `audit` of a page; the repository returns one row more than the limit. -/
def auditPage (limit : Nat) (rows : List AuditRecord) : List AuditRecord :=
  (rows.take limit).map toAudit

end Sanitizing

section Purpose

mutual

/-- The value without its members whose key is sensitive, at every depth. -/
def removeSensitive : Json → Json
  | .object fields => .object (removeFields fields)
  | .array items => .array (removeItems items)
  | .null => .null
  | .bool value => .bool value
  | .number value => .number value
  | .string value => .string value

def removeItems : List Json → List Json
  | [] => []
  | item :: rest => removeSensitive item :: removeItems rest

def removeFields : JsonFields → JsonFields
  | [] => []
  | (key, item) :: rest =>
      if isSensitiveKey key then removeFields rest
      else (key, removeSensitive item) :: removeFields rest

end

mutual

/-- A member at some depth has a sensitive key. -/
def holdsSensitive : Json → Bool
  | .object fields => fieldsHold fields
  | .array items => itemsHold items
  | .null | .bool _ | .number _ | .string _ => false

def itemsHold : List Json → Bool
  | [] => false
  | item :: rest => holdsSensitive item || itemsHold rest

def fieldsHold : JsonFields → Bool
  | [] => false
  | (key, item) :: rest => isSensitiveKey key || holdsSensitive item || fieldsHold rest

end

variable (dropped : Bool)

mutual

/-- Behind the keys that are not sensitive, no array that is an entry of an array has a
sensitive key below it; `dropped` tells whether `__proto__` may be such a key. -/
def sweptFields : JsonFields → Bool
  | [] => true
  | (key, item) :: rest =>
      (isSensitiveKey key || (if key = "__proto__" then dropped else sweptItem item)) &&
        sweptFields rest

def sweptItem : Json → Bool
  | .object fields => sweptFields fields
  | .array items => sweptEntries items
  | .null | .bool _ | .number _ | .string _ => true

def sweptEntries : List Json → Bool
  | [] => true
  | .object fields :: rest => sweptFields fields && sweptEntries rest
  | entry :: rest => !holdsSensitive entry && sweptEntries rest

end

end Purpose

section Removal

theorem remove_fields_length (fields : JsonFields) :
    (removeFields fields).length ≤ fields.length := by
  induction fields with
  | nil => exact le_refl 0
  | cons field rest induction =>
      rw [removeFields]
      split_ifs
      · exact induction.trans (Nat.le_succ _)
      · exact Nat.succ_le_succ induction

mutual

/-- Only a value with a sensitive key is changed by their removal. -/
theorem remove_sensitive_self (value : Json) :
    removeSensitive value = value ↔ holdsSensitive value = false := by
  cases value with
  | object fields =>
      rw [removeSensitive, holdsSensitive, Json.object.injEq]
      exact remove_fields_self fields
  | array items =>
      rw [removeSensitive, holdsSensitive, Json.array.injEq]
      exact remove_items_self items
  | null | bool _ | number _ | string _ => exact iff_of_true rfl rfl

theorem remove_items_self (items : List Json) :
    removeItems items = items ↔ itemsHold items = false := by
  cases items with
  | nil => exact iff_of_true rfl rfl
  | cons item rest =>
      rw [removeItems, itemsHold, List.cons.injEq, Bool.or_eq_false_iff,
        remove_sensitive_self item, remove_items_self rest]

theorem remove_fields_self (fields : JsonFields) :
    removeFields fields = fields ↔ fieldsHold fields = false := by
  match fields with
  | [] => exact iff_of_true rfl rfl
  | (key, item) :: rest =>
      rw [removeFields, fieldsHold]
      by_cases sensitive : isSensitiveKey key = true
      · rw [if_pos sensitive, sensitive]
        refine iff_of_false (fun same => ?_) (by simp)
        have shorter := remove_fields_length rest
        rw [same, List.length_cons] at shorter
        omega
      · rw [if_neg sensitive, Bool.eq_false_iff.mpr sensitive, List.cons.injEq, Prod.mk.injEq,
          remove_sensitive_self item, remove_fields_self rest]
        simp

end

end Removal

section Sanitized

theorem sanitized_no_prototype {fields : JsonFields} {field : String × Json}
    (member : field ∈ sanitizeRecord fields) : field.1 ≠ "__proto__" := by
  induction fields with
  | nil => cases member
  | cons first rest induction =>
      rw [sanitizeRecord] at member
      split_ifs at member with sensitive prototype
      · exact induction member
      · exact induction member
      · rcases List.mem_cons.mp member with rfl | later
        · exact prototype
        · exact induction later

mutual

theorem sanitize_record_iff (fields : JsonFields) :
    sanitizeRecord fields = removeFields fields ↔ sweptFields false fields = true := by
  match fields with
  | [] => exact iff_of_true rfl rfl
  | (key, item) :: rest =>
      rw [sanitizeRecord, removeFields, sweptFields]
      by_cases sensitive : isSensitiveKey key = true
      · rw [if_pos sensitive, if_pos sensitive, sanitize_record_iff rest, sensitive]
        simp
      · rw [if_neg sensitive, if_neg sensitive, Bool.eq_false_iff.mpr sensitive]
        by_cases prototype : key = "__proto__"
        · rw [if_pos prototype, if_pos prototype]
          refine iff_of_false (fun same => ?_) (by simp)
          have member : (key, removeSensitive item) ∈ sanitizeRecord rest := by
            rw [same]
            exact List.mem_cons_self
          exact sanitized_no_prototype member prototype
        · rw [if_neg prototype, if_neg prototype, List.cons.injEq, Prod.mk.injEq,
            sanitize_item_iff item, sanitize_record_iff rest]
          simp

theorem sanitize_item_iff (item : Json) :
    sanitizeItem item = removeSensitive item ↔ sweptItem false item = true := by
  cases item with
  | object fields =>
      rw [sanitizeItem, removeSensitive, sweptItem, Json.object.injEq]
      exact sanitize_record_iff fields
  | array items =>
      rw [sanitizeItem, removeSensitive, sweptItem, Json.array.injEq]
      exact sanitize_entries_iff items
  | null | bool _ | number _ | string _ => exact iff_of_true rfl rfl

theorem sanitize_entries_iff (items : List Json) :
    sanitizeEntries items = removeItems items ↔ sweptEntries false items = true := by
  match items with
  | [] => exact iff_of_true rfl rfl
  | .object fields :: rest =>
      rw [sanitizeEntries, removeItems, removeSensitive, sweptEntries, List.cons.injEq,
        Json.object.injEq, Bool.and_eq_true, sanitize_record_iff fields, sanitize_entries_iff rest]
  | .array entries :: rest =>
      rw [sanitizeEntries, removeItems, sweptEntries, List.cons.injEq, Bool.and_eq_true,
        Bool.not_eq_true', eq_comm, remove_sensitive_self, sanitize_entries_iff rest]
      · exact nofun
      · exact nofun
  | .null :: rest | .bool _ :: rest | .number _ :: rest | .string _ :: rest =>
      rw [sanitizeEntries, removeItems, removeSensitive, sweptEntries, List.cons.injEq,
        Bool.and_eq_true, sanitize_entries_iff rest]
      · exact and_congr_left' (iff_of_true rfl rfl)
      · exact nofun
      · exact nofun

end

mutual

theorem sanitized_record_hides (fields : JsonFields) :
    fieldsHold (sanitizeRecord fields) = false ↔ sweptFields true fields = true := by
  match fields with
  | [] => exact iff_of_true rfl rfl
  | (key, item) :: rest =>
      rw [sanitizeRecord, sweptFields]
      by_cases sensitive : isSensitiveKey key = true
      · rw [if_pos sensitive, sanitized_record_hides rest, sensitive]
        simp
      · rw [if_neg sensitive, Bool.eq_false_iff.mpr sensitive]
        by_cases prototype : key = "__proto__"
        · rw [if_pos prototype, if_pos prototype, sanitized_record_hides rest]
          simp
        · rw [if_neg prototype, if_neg prototype, fieldsHold, Bool.eq_false_iff.mpr sensitive,
            Bool.false_or, Bool.or_eq_false_iff, sanitized_item_hides item,
            sanitized_record_hides rest]
          simp

theorem sanitized_item_hides (item : Json) :
    holdsSensitive (sanitizeItem item) = false ↔ sweptItem true item = true := by
  cases item with
  | object fields =>
      rw [sanitizeItem, holdsSensitive, sweptItem]
      exact sanitized_record_hides fields
  | array items =>
      rw [sanitizeItem, holdsSensitive, sweptItem]
      exact sanitized_entries_hide items
  | null | bool _ | number _ | string _ => exact iff_of_true rfl rfl

theorem sanitized_entries_hide (items : List Json) :
    itemsHold (sanitizeEntries items) = false ↔ sweptEntries true items = true := by
  match items with
  | [] => exact iff_of_true rfl rfl
  | .object fields :: rest =>
      rw [sanitizeEntries, itemsHold, holdsSensitive, sweptEntries, Bool.or_eq_false_iff,
        Bool.and_eq_true, sanitized_record_hides fields, sanitized_entries_hide rest]
  | .array _ :: rest | .null :: rest | .bool _ :: rest | .number _ :: rest | .string _ :: rest =>
      rw [sanitizeEntries, itemsHold, sweptEntries, Bool.or_eq_false_iff, Bool.and_eq_true,
        Bool.not_eq_true', sanitized_entries_hide rest]
      · exact nofun
      · exact nofun

end

/-- The values that an audit record shows. -/
def AuditRecord.values (row : AuditRecord) : List JsonFields :=
  row.oldValues.toList ++ row.newValues.toList

/-- The answer shows what is stored without the sensitive members, and nothing else is
changed. -/
def ShowsExactly (row : AuditRecord) : Prop :=
  toAudit row = { row with
    oldValues := row.oldValues.map removeFields
    newValues := row.newValues.map removeFields }

theorem sanitize_values_iff (value : Option JsonFields) :
    sanitizeValues value = value.map removeFields ↔
      ∀ fields ∈ value.toList, sweptFields false fields = true := by
  cases value with
  | none => exact iff_of_true rfl nofun
  | some fields =>
      rw [sanitizeValues, Option.map_some, Option.map_some, Option.some.injEq,
        sanitize_record_iff, Option.toList_some, List.forall_mem_singleton]

theorem sanitized_values_hide (value : Option JsonFields) :
    (∀ shown ∈ (sanitizeValues value).toList, fieldsHold shown = false) ↔
      ∀ fields ∈ value.toList, sweptFields true fields = true := by
  cases value with
  | none => exact iff_of_true nofun nofun
  | some fields =>
      rw [sanitizeValues, Option.map_some, Option.toList_some, List.forall_mem_singleton,
        sanitized_record_hides, Option.toList_some, List.forall_mem_singleton]

/-- A record whose new values have a password in an array in an array. -/
def nestedPassword : AuditRecord where
  id := "00000000-0000-4000-8000-000000000001"
  actorUserId := none
  actorType := .system
  action := "example"
  entityType := "example"
  entityId := none
  oldValues := none
  newValues := some [("rows", .array [.array [.object [("password", .string "open")]]])]
  requestId := none
  createdAt := "2026-01-01T00:00:00.000000Z"

end Sanitized

end CommitmentOptimizer.Audit.AuditSanitizing
