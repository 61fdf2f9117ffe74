import Mathlib.Data.List.Perm.Subperm
import Mathlib.Data.List.Sort
import CommitmentOptimizer.Foundations.SuccessorChains
import CommitmentOptimizer.Tenants.TenantRegistration

/-!
# The rotation chains of API keys

`initialization-rotation-chain.ts`: the keys of an installation and the audit rows of their
rotations, checked before an earlier initialization is believed.
-/

namespace CommitmentOptimizer.Tenants.RotationChains

open Foundations
open Foundations.SuccessorChains
open TenantRegistration

set_option autoImplicit false

structure InitializationOrigin where
  keyId : String
  tenantId : String
  deriving DecidableEq

structure InitializationKeyRow where
  id : String
  tenantId : String
  keyHash : Option String
  createdAt : String
  revokedAt : Option String
  deriving DecidableEq

structure InitializationAuditRow where
  tenantId : String
  actorUserId : Option String
  actorTenantId : Option String
  actorType : String
  action : String
  entityType : String
  entityId : Option String
  requestId : Option String
  createdAt : String
  oldValues : Json
  newValues : Json
  deriving DecidableEq

structure InitializationRotationState where
  origins : List InitializationOrigin
  keys : List InitializationKeyRow
  audits : List InitializationAuditRow

structure CanonicalLink where
  oldId : String
  replacementId : String
  deriving DecidableEq

def ambiguousText : String := "Initialization rotation history is ambiguous."

def ambiguous {Value : Type} : Except String Value := .error ambiguousText

def unlessAmbiguous (sound : Bool) : Except String Unit := if sound then .ok () else ambiguous

section Maps

/-- A `Map` lists its entries in the order in which they were set. -/
def uniqueMap {Row : Type} (key : Row → String) (values : List Row) :
    Except String (List Row) :=
  values.foldlM (fun result value =>
    if key value = "" || result.any (fun other => key other = key value) then ambiguous
    else .ok (result ++ [value])) []

def keyOf (keys : List InitializationKeyRow) (id : String) : Option InitializationKeyRow :=
  keys.find? fun key => key.id = id

/-- `outgoing.get(id)?.replacementId`. -/
def successor (outgoing : List CanonicalLink) (id : String) : Option String :=
  (outgoing.find? fun link => link.oldId = id).map CanonicalLink.replacementId

end Maps

section Links

/-- `Object.keys(record).sort().join("\0")`. -/
def joinedNames (names : List String) : List Char :=
  ['\x00'].intercalate
    ((names.insertionSort fun left right => textOrder left right = true).map String.toList)

/-- `none` is `undefined`. -/
def exactObject (value : Option Json) (expectedKeys : List String) :
    Except String (List (String × Json)) :=
  match value with
  | some (.object record) =>
      if joinedNames (record.map Prod.fst) ≠ joinedNames expectedKeys then ambiguous
      else .ok record
  | _ => ambiguous

def stringValue (value : Option Json) : Except String String :=
  match value with
  | some (.string text) => if text = "" then ambiguous else .ok text
  | _ => ambiguous

def requireCanonicalAuditHeader (audit : InitializationAuditRow) : Except String Unit :=
  unlessAmbiguous <|
    audit.actorType = "user" &&
    audit.actorUserId.any (· ≠ "") &&
    audit.actorTenantId.all (· = audit.tenantId) &&
    audit.action = "api_key.rotated" &&
    audit.entityType = "api_key" &&
    audit.entityId.any (· ≠ "") &&
    audit.requestId.any fun requestId =>
      requestId ≠ "" && jsTrim requestId.toList = requestId.toList

def canonicalLink (keys : List InitializationKeyRow) (audit : InitializationAuditRow) :
    Except String CanonicalLink := do
  requireCanonicalAuditHeader audit
  let oldKey := audit.entityId.bind (keyOf keys)
  let oldValues ← exactObject (some audit.oldValues) ["created_at", "revoked_at"]
  let newValues ← exactObject (some audit.newValues) ["result", "revoked_at", "replacement"]
  let replacement ← exactObject (newValues.lookup "replacement")
    ["id", "created_at", "revoked_at"]
  let replacementId ← stringValue (replacement.lookup "id")
  let revokedAt ← stringValue (newValues.lookup "revoked_at")
  match oldKey, keyOf keys replacementId with
  | some oldKey, some replacementKey =>
      unlessAmbiguous <|
        oldKey.tenantId = audit.tenantId &&
        replacementKey.tenantId = audit.tenantId &&
        oldKey.id ≠ replacementKey.id &&
        oldValues.lookup "created_at" = some (.string oldKey.createdAt) &&
        oldValues.lookup "revoked_at" = some .null &&
        newValues.lookup "result" = some (.string "succeeded") &&
        oldKey.revokedAt = some revokedAt &&
        audit.createdAt = revokedAt &&
        replacement.lookup "created_at" = some (.string replacementKey.createdAt) &&
        replacement.lookup "revoked_at" = some .null
      return ⟨oldKey.id, replacementId⟩
  | _, _ => ambiguous

end Links

section Walks

/-- `/^[0-9a-f]{64}$/u`. -/
def isKeyHash (text : String) : Bool :=
  text.toList.length = 64 && text.toList.all fun character =>
    character.isDigit || ('a' ≤ character && character ≤ 'f')

def validateDegrees (keys : List InitializationKeyRow) (origins : List InitializationOrigin)
    (outgoing incoming : List CanonicalLink) : Except String Unit := do
  let received id := incoming.any fun link => link.replacementId = id
  let rotated id := outgoing.any fun link => link.oldId = id
  unlessAmbiguous <| origins.all fun origin =>
    (keyOf keys origin.keyId).any (fun key => key.tenantId = origin.tenantId) &&
      !received origin.keyId
  unlessAmbiguous <| keys.all fun key =>
    key.keyHash.all isKeyHash && key.revokedAt.isNone != rotated key.id &&
      (origins.any (fun origin => origin.keyId = key.id) || received key.id)

/-- How many rows a walk has not visited. -/
def unvisited {Row : Type} (key : Row → String) (rows : List Row) (visited : List String) : Nat :=
  (rows.filter fun row => !visited.contains (key row)).length

theorem unvisited_decreases {Row : Type} {key : Row → String} {rows : List Row}
    {visited : List String} {row : Row} (member : row ∈ rows) (fresh : key row ∉ visited) :
    unvisited key rows (key row :: visited) < unvisited key rows visited := by
  have smaller : rows.filter (fun other => !(key row :: visited).contains (key other)) =
      (rows.filter fun other => !visited.contains (key other)).filter
        fun other => decide (key other ≠ key row) := by
    rw [List.filter_filter]
    refine List.filter_congr fun other _ => ?_
    rw [List.contains_cons, Bool.not_or]
    by_cases same : key other = key row <;> simp [same]
  unfold unvisited
  rw [smaller, List.length_filter_lt_length_iff_exists]
  exact ⟨row, List.mem_filter.mpr ⟨member, by simpa using fresh⟩, by simp⟩

/-- The loop of `walkOrigins`, from `current` on. -/
def lastOf (outgoing : List CanonicalLink) (visited : List String) (current : String) :
    Except String String :=
  match _found : outgoing.find? fun link => link.oldId = current with
  | none => .ok current
  | some link =>
      if _again : visited.contains current then ambiguous
      else lastOf outgoing (current :: visited) link.replacementId
termination_by unvisited CanonicalLink.oldId outgoing visited
decreasing_by
  have isCurrent : link.oldId = current := by simpa using List.find?_some _found
  rw [← isCurrent]
  exact unvisited_decreases (List.mem_of_find?_eq_some _found) (by simpa [isCurrent] using _again)

def walkOrigins (origins : List InitializationOrigin) (keys : List InitializationKeyRow)
    (outgoing : List CanonicalLink) : Except String (List (String × String)) :=
  origins.mapM fun origin => do
    let current ← lastOf outgoing [] origin.keyId
    unlessAmbiguous <| (keyOf keys current).any fun key =>
      key.revokedAt = none && key.tenantId = origin.tenantId
    return (origin.keyId, current)

def walk (keys : List InitializationKeyRow) (outgoing : List CanonicalLink)
    (chain visited : List String) : Option String → Except String (List String)
  | none => .ok visited
  | some current =>
      if current = "" then .ok visited
      else
        match _found : keyOf keys current with
        | none => ambiguous
        | some _ =>
            if _again : chain.contains current || visited.contains current then ambiguous
            else walk keys outgoing (current :: chain) (current :: visited)
              (successor outgoing current)
termination_by unvisited InitializationKeyRow.id keys visited
decreasing_by
  rename_i key
  have isCurrent : key.id = current := by simpa using List.find?_some _found
  rw [← isCurrent]
  refine unvisited_decreases (List.mem_of_find?_eq_some _found) ?_
  rw [isCurrent]
  simp only [Bool.or_eq_true, not_or] at _again
  simpa using _again.2

end Walks

def validateApiKeyRotationChains (state : InitializationRotationState) :
    Except String (List (String × String)) := do
  let keys ← uniqueMap InitializationKeyRow.id state.keys
  let origins ← uniqueMap InitializationOrigin.keyId state.origins
  let links ← state.audits.mapM (canonicalLink keys)
  let outgoing ← uniqueMap CanonicalLink.oldId links
  let incoming ← uniqueMap CanonicalLink.replacementId links
  validateDegrees keys origins outgoing incoming
  let currentByOrigin ← walkOrigins origins keys outgoing
  let visited ← origins.foldlM (fun visited origin =>
    walk keys outgoing [] visited (some origin.keyId)) []
  unlessAmbiguous (visited.length = keys.length && links.length = outgoing.length)
  return currentByOrigin

end CommitmentOptimizer.Tenants.RotationChains
