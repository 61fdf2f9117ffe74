import CommitmentOptimizer.Foundations.PartialLists
import CommitmentOptimizer.Tenants.RotationChains

/-!
# The rotation histories that are accepted

A history is accepted when its audit rows link the keys into disjoint chains, one from each
origin, and each key is current exactly at the end of its chain.
-/

namespace CommitmentOptimizer.Tenants.RotationHistories

open Foundations
open Foundations.PartialLists
open Foundations.SqlConstraints
open Foundations.SuccessorChains
open TenantRegistration
open RotationChains

set_option autoImplicit false

section Histories

/-- An object with these fields, in any order. -/
def Lists (value : Json) (fields : List (String × Json)) : Prop :=
  ∃ record, value = .object record ∧ record.Perm fields

/-- The audit row of a rotation of `old` into `replacement`. -/
structure RotationRecord (old replacement : InitializationKeyRow)
    (audit : InitializationAuditRow) : Prop where
  actor : audit.actorType = "user" ∧ ∃ user, audit.actorUserId = some user ∧ user ≠ ""
  actorTenant : ∀ tenantId, audit.actorTenantId = some tenantId → tenantId = audit.tenantId
  action : audit.action = "api_key.rotated"
  entity : audit.entityType = "api_key" ∧ audit.entityId = some old.id
  request : ∃ requestId, audit.requestId = some requestId ∧ requestId ≠ "" ∧
    jsTrim requestId.toList = requestId.toList
  tenant : old.tenantId = audit.tenantId ∧ replacement.tenantId = audit.tenantId
  different : old.id ≠ replacement.id
  rotatedAt : audit.createdAt ≠ "" ∧ old.revokedAt = some audit.createdAt
  oldValues : Lists audit.oldValues
    [("created_at", .string old.createdAt), ("revoked_at", .null)]
  newValues : ∃ value, Lists audit.newValues [("result", .string "succeeded"),
      ("revoked_at", .string audit.createdAt), ("replacement", value)] ∧
    Lists value [("id", .string replacement.id),
      ("created_at", .string replacement.createdAt), ("revoked_at", .null)]

/-- The keys that an audit row links. -/
def Links (keys : List InitializationKeyRow) (audit : InitializationAuditRow)
    (link : CanonicalLink) : Prop :=
  ∃ old ∈ keys, ∃ replacement ∈ keys, RotationRecord old replacement audit ∧
    link = ⟨old.id, replacement.id⟩

def CanonicalLink.pair (link : CanonicalLink) : String × String :=
  (link.oldId, link.replacementId)

/-- Identifiers are unique, and key hashes are hashes. -/
structure WellFormed (state : InitializationRotationState) : Prop where
  keys : (state.keys.map InitializationKeyRow.id).Nodup
  keysNamed : ∀ key ∈ state.keys, key.id ≠ ""
  origins : (state.origins.map InitializationOrigin.keyId).Nodup
  originsNamed : ∀ origin ∈ state.origins, origin.keyId ≠ ""
  hashes : ∀ key ∈ state.keys, ∀ hash, key.keyHash = some hash → isKeyHash hash = true

/-- The links part the keys into disjoint paths, one from each origin and of its tenant, and
a key is not revoked exactly at the end of its path. -/
structure Partitioned (state : InitializationRotationState) (links : List CanonicalLink)
    (paths : List (List String)) : Prop where
  starts : List.Forall₂ (fun origin path => path.head? = some origin.keyId ∧
    ∀ key ∈ state.keys, key.id ∈ path → key.tenantId = origin.tenantId) state.origins paths
  linked : (links.map CanonicalLink.pair).Perm (paths.flatMap steps)
  keys : paths.flatten.Perm (state.keys.map InitializationKeyRow.id)
  current : ∀ path ∈ paths, ∀ key ∈ state.keys, key.id ∈ path →
    (key.revokedAt = none ↔ path.getLast? = some key.id)

/-- An entry leads from the first key of a path to its last one. -/
def Resolves (path : List String) (entry : String × String) : Prop :=
  path.head? = some entry.1 ∧ path.getLast? = some entry.2

end Histories

section Checks

variable {Row : Type} {key : Row → String}

theorem unless_ambiguous_ok {sound : Bool} {value : Unit} :
    unlessAmbiguous sound = .ok value ↔ sound = true := by
  cases sound <;> simp [unlessAmbiguous, ambiguous]

theorem unique_map_from (values result from' : List Row) (before : (from'.map key).Nodup) :
    values.foldlM (fun result value =>
        if key value = "" || result.any (fun other => key other = key value) then ambiguous
        else .ok (result ++ [value])) from' = .ok result ↔
      result = from' ++ values ∧ (∀ value ∈ values, key value ≠ "") ∧
        ((from' ++ values).map key).Nodup := by
  induction values generalizing from' with
  | nil =>
      rw [List.foldlM_nil, List.append_nil]
      exact ⟨fun same => ⟨(Except.ok.inj same).symm, nofun, before⟩, fun ⟨same, _⟩ => same ▸ rfl⟩
  | cons value values induction =>
      rw [List.foldlM_cons, bind_ok]
      by_cases fresh : key value ≠ "" ∧ key value ∉ from'.map key
      · have open' : (key value = "" || from'.any fun other => key other = key value) = false := by
          simpa using fresh
        have longer : ((from' ++ [value]).map key).Nodup := by
          rw [List.map_append, List.map_singleton]
          refine List.nodup_append.mpr ⟨before, List.nodup_singleton _, ?_⟩
          rintro id member _ single rfl
          rw [List.mem_singleton.mp single] at member
          exact fresh.2 member
        simp only [open', Bool.false_eq_true, if_false, Except.ok.injEq, exists_eq_left']
        rw [induction _ longer, List.append_assoc, List.singleton_append, List.forall_mem_cons]
        simp only [fresh.1, ne_eq, not_false_eq_true, true_and]
      · have closed : (key value = "" || from'.any fun other => key other = key value) = true := by
          by_contra open'
          apply fresh
          simpa using open'
        simp only [closed, if_true]
        constructor
        · rintro ⟨_, impossible, _⟩
          cases impossible
        · rintro ⟨_, named, nodup⟩
          refine absurd ⟨named value List.mem_cons_self, fun member => ?_⟩ fresh
          rw [List.map_append, List.map_cons] at nodup
          exact (List.nodup_append.mp nodup).2.2 _ member _ List.mem_cons_self rfl

/-- A map is made exactly of rows with distinct keys. -/
theorem unique_map_ok {values result : List Row} :
    uniqueMap key values = .ok result ↔
      result = values ∧ (∀ value ∈ values, key value ≠ "") ∧ (values.map key).Nodup := by
  unfold uniqueMap
  rw [unique_map_from values result [] List.nodup_nil, List.nil_append]

theorem key_of_iff {keys : List InitializationKeyRow}
    (unique : (keys.map InitializationKeyRow.id).Nodup) {id : String}
    {row : InitializationKeyRow} : keyOf keys id = some row ↔ row ∈ keys ∧ row.id = id := by
  unfold keyOf
  constructor
  · intro found
    exact ⟨List.mem_of_find?_eq_some found, by simpa using List.find?_some found⟩
  · rintro ⟨member, rfl⟩
    cases found : keys.find? fun other => other.id = row.id with
    | none => simpa using List.find?_eq_none.mp found row member
    | some other =>
        have same : other.id = row.id := by simpa using List.find?_some found
        rw [List.inj_on_of_nodup_map unique (List.mem_of_find?_eq_some found) member same]

theorem successor_iff {links : List CanonicalLink}
    (unique : (links.map CanonicalLink.oldId).Nodup) {source target : String} :
    successor links source = some target ↔ (⟨source, target⟩ : CanonicalLink) ∈ links := by
  unfold successor
  rw [Option.map_eq_some_iff]
  constructor
  · rintro ⟨link, found, rfl⟩
    have same : link.oldId = source := by simpa using List.find?_some found
    rw [← same]
    exact List.mem_of_find?_eq_some found
  · intro member
    cases found : links.find? fun link => link.oldId = source with
    | none => simpa using List.find?_eq_none.mp found _ member
    | some other =>
        have same : other.oldId = source := by simpa using List.find?_some found
        refine ⟨other, rfl, ?_⟩
        rw [List.inj_on_of_nodup_map unique (List.mem_of_find?_eq_some found) member same]

end Checks

section Records

/-- The octets of joined texts and one separator more. -/
theorem intercalate_length (separator : Char) {texts : List (List Char)} (some' : texts ≠ []) :
    ([separator].intercalate texts).length + 1 = (texts.map fun text => text.length + 1).sum := by
  induction texts with
  | nil => exact absurd rfl some'
  | cons text texts induction =>
      cases texts with
      | nil => simp
      | cons other rest =>
          have inner := induction (List.cons_ne_nil _ _)
          rw [List.intercalate_cons_cons, List.map_cons, List.sum_cons, ← inner]
          simp only [List.length_append, List.length_singleton]
          omega

theorem joined_names_length {names : List String} (some' : names ≠ []) :
    (joinedNames names).length + 1 = (names.map fun name => name.toList.length + 1).sum := by
  unfold joinedNames
  have sorted := List.perm_insertionSort (fun left right => textOrder left right = true) names
  rw [intercalate_length, List.map_map]
  · exact (sorted.map _).sum_nat
  · intro empty
    have none := List.map_eq_nil_iff.mp empty
    rw [none] at sorted
    exact some' sorted.symm.eq_nil

/-- A record with the joined names of some fields that has the fields has no others. -/
theorem perm_of_joined {record fields : List (String × Json)} (some' : fields ≠ [])
    (distinct : fields.Nodup)
    (joined : joinedNames (record.map Prod.fst) = joinedNames (fields.map Prod.fst))
    (present : ∀ field ∈ fields, field ∈ record) : record.Perm fields := by
  obtain ⟨kept, same, sublist⟩ := List.subperm_of_subset distinct present
  obtain ⟨rest, split⟩ := sublist.exists_perm_append
  have parts := split.trans (same.append_right rest)
  have nonempty : record ≠ [] := by
    rintro rfl
    exact some' (List.eq_nil_of_subset_nil present)
  have weights : (joinedNames (record.map Prod.fst)).length + 1 =
      (joinedNames (fields.map Prod.fst)).length + 1 := by
    rw [joined]
  rw [joined_names_length (by simpa using nonempty), joined_names_length (by simpa using some'),
    ((parts.map Prod.fst).map _).sum_nat, List.map_append, List.map_append, List.sum_append]
    at weights
  cases rest with
  | nil => simpa using parts
  | cons field rest =>
      rw [List.map_cons, List.map_cons, List.sum_cons] at weights
      omega

instance : Std.Total fun left right : String => textOrder left right = true where
  total left right := by
    simp only [textOrder, decide_eq_true_eq]
    exact (List.le_total (utf16Units left.toList) (utf16Units right.toList)).imp
      List.not_lt.mpr List.not_lt.mpr

instance : IsTrans String fun left right => textOrder left right = true where
  trans first second third := by
    simp only [textOrder, decide_eq_true_eq, List.not_lt]
    exact List.le_trans

/-- Names in another order are joined to the same text. -/
theorem joined_of_perm {names expected : List String}
    (apart : ∀ left ∈ expected, ∀ right ∈ expected, textOrder left right = true →
      textOrder right left = true → left = right)
    (same : names.Perm expected) : joinedNames names = joinedNames expected := by
  have sorted := List.pairwise_insertionSort fun left right => textOrder left right = true
  have sort : names.insertionSort (fun left right => textOrder left right = true) =
      expected.insertionSort fun left right => textOrder left right = true := by
    refine List.Perm.eq_of_pairwise ?_ (sorted names) (sorted expected)
      (((List.perm_insertionSort _ _).trans same).trans (List.perm_insertionSort _ _).symm)
    intro left right leftMember rightMember
    exact apart left (same.subset ((List.mem_insertionSort _).mp leftMember)) right
      ((List.mem_insertionSort _).mp rightMember)
  rw [joinedNames, sort, joinedNames]

theorem lookup_of_mem {Value : Type} {fields : List (String × Value)}
    (named : (fields.map Prod.fst).Nodup) {name : String} {value : Value}
    (member : (name, value) ∈ fields) :
    fields.lookup name = some value := by
  induction fields with
  | nil => cases member
  | cons field fields induction =>
      obtain ⟨fresh, rest⟩ := List.nodup_cons.mp named
      rcases List.mem_cons.mp member with rfl | later
      · rw [List.lookup_cons_self]
      · have apart : (name == field.1) = false := by
          rw [beq_eq_false_iff_ne]
          rintro rfl
          exact fresh (List.mem_map.mpr ⟨_, later, rfl⟩)
        rw [List.lookup_cons, apart]
        exact induction rest later

theorem mem_of_lookup {fields : List (String × Json)} {name : String} {value : Json}
    (found : fields.lookup name = some value) : (name, value) ∈ fields := by
  obtain ⟨before, after, split, _⟩ := List.lookup_eq_some_iff.mp found
  rw [split]
  exact List.mem_append_right _ List.mem_cons_self

/-- The check of an object's keys and of its fields is that it lists just these. -/
theorem exact_object_lists {value : Json} {fields : List (String × Json)} (some' : fields ≠ [])
    (named : (fields.map Prod.fst).Nodup)
    (apart : ∀ left ∈ fields.map Prod.fst, ∀ right ∈ fields.map Prod.fst,
      textOrder left right = true → textOrder right left = true → left = right) :
    Lists value fields ↔ ∃ record, exactObject (some value) (fields.map Prod.fst) = .ok record ∧
      ∀ field ∈ fields, record.lookup field.1 = some field.2 := by
  constructor
  · rintro ⟨record, rfl, same⟩
    refine ⟨record, ?_, ?_⟩
    · rw [exactObject, if_neg (not_not.mpr (joined_of_perm apart (same.map Prod.fst)))]
    · intro field member
      exact lookup_of_mem (((same.map Prod.fst).nodup_iff).mpr named) (same.mem_iff.mpr member)
  · rintro ⟨record, exact', found⟩
    cases value with
    | object own =>
        rw [exactObject] at exact'
        split_ifs at exact' with different
        · cases exact'
        obtain rfl := Except.ok.inj exact'
        exact ⟨own, rfl, perm_of_joined some' (List.Nodup.of_map _ named) (not_not.mp different)
          fun field member => mem_of_lookup (found field member)⟩
    | null | bool | number | string | array => cases exact'

theorem string_value_ok {value : Option Json} {text : String} :
    stringValue value = .ok text ↔ value = some (.string text) ∧ text ≠ "" := by
  unfold stringValue
  split
  · rename_i other
    by_cases empty : other = ""
    · rw [if_pos empty]
      refine ⟨nofun, ?_⟩
      rintro ⟨same, nonempty⟩
      exact absurd (Json.string.inj (Option.some.inj same) ▸ empty) nonempty
    · rw [if_neg empty, Except.ok.injEq, Option.some.injEq, Json.string.injEq]
      exact ⟨fun same => ⟨same, same ▸ empty⟩, And.left⟩
  · rename_i other
    refine ⟨nofun, ?_⟩
    rintro ⟨rfl, _⟩
    exact absurd rfl (other text)

theorem header_ok {audit : InitializationAuditRow} {value : Unit} :
    requireCanonicalAuditHeader audit = .ok value ↔
      (audit.actorType = "user" ∧ ∃ user, audit.actorUserId = some user ∧ user ≠ "") ∧
      (∀ tenantId, audit.actorTenantId = some tenantId → tenantId = audit.tenantId) ∧
      audit.action = "api_key.rotated" ∧
      (audit.entityType = "api_key" ∧ ∃ id, audit.entityId = some id ∧ id ≠ "") ∧
      ∃ requestId, audit.requestId = some requestId ∧ requestId ≠ "" ∧
        jsTrim requestId.toList = requestId.toList := by
  unfold requireCanonicalAuditHeader
  rw [unless_ambiguous_ok]
  simp only [Bool.and_eq_true, decide_eq_true_eq, Option.any_eq_true, Option.all_eq_true,
    and_assoc]

/-- The names that audit rows use. -/
def auditNames : List String := ["id", "created_at", "revoked_at", "result", "replacement"]

theorem audit_names_apart : ∀ left ∈ auditNames, ∀ right ∈ auditNames,
    textOrder left right = true → textOrder right left = true → left = right := by
  decide

theorem audit_object_lists {value : Json} {fields : List (String × Json)} (some' : fields ≠ [])
    (named : (fields.map Prod.fst).Nodup) (audited : fields.map Prod.fst ⊆ auditNames) :
    Lists value fields ↔ ∃ record, exactObject (some value) (fields.map Prod.fst) = .ok record ∧
      ∀ field ∈ fields, record.lookup field.1 = some field.2 :=
  exact_object_lists some' named fun left leftMember right rightMember =>
    audit_names_apart left (audited leftMember) right (audited rightMember)

theorem old_values_iff {value : Json} {createdAt : String} :
    Lists value [("created_at", .string createdAt), ("revoked_at", .null)] ↔
      ∃ record, exactObject (some value) ["created_at", "revoked_at"] = .ok record ∧
        record.lookup "created_at" = some (.string createdAt) ∧
        record.lookup "revoked_at" = some .null := by
  have listed := @audit_object_lists value
    [("created_at", .string createdAt), ("revoked_at", .null)] (List.cons_ne_nil _ _)
    (by dsimp only [List.map]; decide) (by dsimp only [List.map]; decide)
  simpa only [List.map, List.forall_mem_cons, List.not_mem_nil, IsEmpty.forall_iff, implies_true,
    and_true] using listed

theorem new_values_iff {value inner : Json} {revokedAt : String} :
    Lists value [("result", .string "succeeded"), ("revoked_at", .string revokedAt),
        ("replacement", inner)] ↔
      ∃ record, exactObject (some value) ["result", "revoked_at", "replacement"] = .ok record ∧
        record.lookup "result" = some (.string "succeeded") ∧
        record.lookup "revoked_at" = some (.string revokedAt) ∧
        record.lookup "replacement" = some inner := by
  have listed := @audit_object_lists value [("result", .string "succeeded"),
    ("revoked_at", .string revokedAt), ("replacement", inner)] (List.cons_ne_nil _ _)
    (by dsimp only [List.map]; decide) (by dsimp only [List.map]; decide)
  simpa only [List.map, List.forall_mem_cons, List.not_mem_nil, IsEmpty.forall_iff, implies_true,
    and_true] using listed

theorem replacement_iff {value : Json} {id createdAt : String} :
    Lists value [("id", .string id), ("created_at", .string createdAt), ("revoked_at", .null)] ↔
      ∃ record, exactObject (some value) ["id", "created_at", "revoked_at"] = .ok record ∧
        record.lookup "id" = some (.string id) ∧
        record.lookup "created_at" = some (.string createdAt) ∧
        record.lookup "revoked_at" = some .null := by
  have listed := @audit_object_lists value [("id", .string id),
    ("created_at", .string createdAt), ("revoked_at", .null)] (List.cons_ne_nil _ _)
    (by dsimp only [List.map]; decide) (by dsimp only [List.map]; decide)
  simpa only [List.map, List.forall_mem_cons, List.not_mem_nil, IsEmpty.forall_iff, implies_true,
    and_true] using listed

/-- The audit rows that are read are the ones of rotations. -/
theorem canonical_link_ok {keys : List InitializationKeyRow} {audit : InitializationAuditRow}
    {link : CanonicalLink} (unique : (keys.map InitializationKeyRow.id).Nodup)
    (named : ∀ key ∈ keys, key.id ≠ "") :
    canonicalLink keys audit = .ok link ↔ Links keys audit link := by
  constructor
  · intro accepted
    unfold canonicalLink at accepted
    obtain ⟨_, header, accepted⟩ := bind_ok.mp accepted
    obtain ⟨actor, actorTenant, action, ⟨entityType, id, entity, _⟩, request⟩ := header_ok.mp header
    obtain ⟨oldValues, oldRead, accepted⟩ := bind_ok.mp accepted
    obtain ⟨newValues, newRead, accepted⟩ := bind_ok.mp accepted
    obtain ⟨inner, innerRead, accepted⟩ := bind_ok.mp accepted
    obtain ⟨replacementId, idRead, accepted⟩ := bind_ok.mp accepted
    obtain ⟨revokedAt, revokedRead, accepted⟩ := bind_ok.mp accepted
    rw [entity, Option.bind_some] at accepted
    split at accepted
    case h_2 => cases accepted
    case h_1 old replacement foundOld foundReplacement =>
      obtain ⟨oldMember, isOld⟩ := (key_of_iff unique).mp foundOld
      obtain ⟨newMember, isNew⟩ := (key_of_iff unique).mp foundReplacement
      obtain ⟨_, checked, same⟩ := bind_ok.mp accepted
      rw [unless_ambiguous_ok] at checked
      simp only [Bool.and_eq_true, decide_eq_true_eq] at checked
      obtain ⟨⟨⟨⟨⟨⟨⟨⟨⟨oldTenant, newTenant⟩, different⟩, oldCreated⟩, oldNull⟩, result⟩, oldRevoked⟩,
        rotatedAt⟩, newCreated⟩, newNull⟩ := checked
      obtain ⟨idField, _⟩ := string_value_ok.mp idRead
      obtain ⟨revokedField, revokedNonempty⟩ := string_value_ok.mp revokedRead
      obtain ⟨value, valueField⟩ : ∃ value, newValues.lookup "replacement" = some value := by
        cases field : newValues.lookup "replacement" with
        | none =>
            rw [field] at innerRead
            cases innerRead
        | some value => exact ⟨value, rfl⟩
      rw [valueField] at innerRead
      obtain rfl := Except.ok.inj same
      refine ⟨old, oldMember, replacement, newMember, ?_, by rw [isNew]⟩
      exact
        { actor := actor
          actorTenant := actorTenant
          action := action
          entity := ⟨entityType, by rw [entity, isOld]⟩
          request := request
          tenant := ⟨oldTenant, newTenant⟩
          different := different
          rotatedAt := ⟨rotatedAt ▸ revokedNonempty, by rw [rotatedAt, oldRevoked]⟩
          oldValues := old_values_iff.mpr ⟨oldValues, oldRead, oldCreated, oldNull⟩
          newValues := ⟨value,
            new_values_iff.mpr ⟨newValues, newRead, result, by rw [rotatedAt, revokedField],
              valueField⟩,
            replacement_iff.mpr ⟨inner, innerRead, by rw [isNew, idField], newCreated,
              newNull⟩⟩ }
  · rintro ⟨old, oldMember, replacement, newMember, record, rfl⟩
    obtain ⟨oldValues, oldRead, oldCreated, oldNull⟩ := old_values_iff.mp record.oldValues
    obtain ⟨value, outer, within⟩ := record.newValues
    obtain ⟨newValues, newRead, result, revokedField, valueField⟩ := new_values_iff.mp outer
    obtain ⟨inner, innerRead, idField, newCreated, newNull⟩ := replacement_iff.mp within
    have header := (@header_ok audit ()).mpr ⟨record.actor, record.actorTenant, record.action,
      ⟨record.entity.1, old.id, record.entity.2, named old oldMember⟩, record.request⟩
    have idRead := string_value_ok.mpr ⟨idField, named replacement newMember⟩
    have revokedRead := string_value_ok.mpr ⟨revokedField, record.rotatedAt.1⟩
    have foundOld := (key_of_iff unique).mpr ⟨oldMember, rfl⟩
    have foundNew := (key_of_iff unique).mpr ⟨newMember, rfl⟩
    unfold canonicalLink
    refine bind_ok.mpr ⟨_, header, bind_ok.mpr ⟨_, oldRead, bind_ok.mpr ⟨_, newRead,
      bind_ok.mpr ⟨inner, by rw [valueField, innerRead], bind_ok.mpr ⟨_, idRead,
        bind_ok.mpr ⟨_, revokedRead, ?_⟩⟩⟩⟩⟩⟩
    rw [record.entity.2, Option.bind_some, foundOld, foundNew]
    refine bind_ok.mpr ⟨(), unless_ambiguous_ok.mpr ?_, rfl⟩
    simp only [Bool.and_eq_true, decide_eq_true_eq]
    exact ⟨⟨⟨⟨⟨⟨⟨⟨⟨record.tenant.1, record.tenant.2⟩, record.different⟩, oldCreated⟩, oldNull⟩,
      result⟩, record.rotatedAt.2⟩, trivial⟩, newCreated⟩, newNull⟩

end Records

section Walks

variable {keys : List InitializationKeyRow} {outgoing : List CanonicalLink}

/-- The loop ends at the last key of the chain, unless it comes by a key that was visited. -/
theorem last_of_ok {visited : List String} {current last : String} :
    lastOf outgoing visited current = .ok last ↔
      ∃ path, Leads (successor outgoing) current path ∧ path.getLast? = some last ∧
        ∀ id ∈ path.dropLast, id ∉ visited := by
  fun_induction lastOf outgoing visited current with
  | case1 visited current found =>
      have final : successor outgoing current = none := by
        rw [successor, found]
        rfl
      constructor
      · intro same
        obtain rfl := Except.ok.inj same
        exact ⟨_, .last final, rfl, nofun⟩
      · rintro ⟨path, leads, isLast, _⟩
        obtain rfl := leads_unique leads (.last final)
        obtain rfl := Option.some.inj isLast
        rfl
  | case2 visited current link found again =>
      refine ⟨nofun, ?_⟩
      rintro ⟨path, leads, isLast, fresh⟩
      have step : successor outgoing current = some link.replacementId := by
        rw [successor, found]
        rfl
      cases leads with
      | last final => cases final.symm.trans step
      | onward _ chain =>
          refine absurd (List.contains_iff_mem.mp again) (fresh current ?_)
          rw [List.dropLast_cons_of_ne_nil (leads_nonempty chain)]
          exact List.mem_cons_self
  | case3 visited current link found again induction =>
      have step : successor outgoing current = some link.replacementId := by
        rw [successor, found]
        rfl
      have fresh : current ∉ visited := fun member => again (List.contains_iff_mem.mpr member)
      rw [induction]
      constructor
      · rintro ⟨path, leads, isLast, unvisited⟩
        refine ⟨current :: path, .onward step leads, ?_, ?_⟩
        · rw [List.getLast?_cons, isLast]
          rfl
        · rw [List.dropLast_cons_of_ne_nil (leads_nonempty leads), List.forall_mem_cons]
          exact ⟨fresh, fun id member seen =>
            unvisited id member (List.mem_cons_of_mem _ seen)⟩
      · rintro ⟨path, leads, isLast, unvisited⟩
        have distinct := leads_nodup leads
        cases leads with
        | last final => cases final.symm.trans step
        | @onward _ other rest onward chain =>
            obtain rfl := Option.some.inj (step.symm.trans onward)
            have nonempty := leads_nonempty chain
            rw [List.dropLast_cons_of_ne_nil nonempty, List.forall_mem_cons] at unvisited
            refine ⟨rest, chain, ?_, ?_⟩
            · rw [← isLast, List.getLast?_cons, List.getLast?_eq_some_getLast nonempty]
              rfl
            · intro id member seen
              rcases List.mem_cons.mp seen with rfl | seen
              · exact (List.nodup_cons.mp distinct).1 (List.dropLast_subset _ member)
              · exact unvisited.2 id member seen

/-- The walk visits the chain of a key, of known keys that were not visited. -/
theorem walk_from_ok {chain visited result : List String} {current : Option String}
    (named : current ≠ some "")
    (successors : ∀ source target, successor outgoing source = some target → target ≠ "") :
    walk keys outgoing chain visited current = .ok result ↔
      ∃ path, LeadsFrom (successor outgoing) current path ∧ result = path.reverse ++ visited ∧
        ∀ id ∈ path, id ∉ chain ∧ id ∉ visited ∧ (keyOf keys id).isSome = true := by
  fun_induction walk keys outgoing chain visited current with
  | case1 chain visited =>
      constructor
      · intro same
        exact ⟨[], rfl, (Except.ok.inj same).symm, nofun⟩
      · rintro ⟨path, rfl, rfl, _⟩
        rfl
  | case2 chain visited => exact absurd rfl named
  | case3 chain visited current nonempty unknown =>
      refine ⟨nofun, ?_⟩
      rintro ⟨path, leads, _, known⟩
      obtain ⟨rest, rfl, _⟩ := leads_iff.mp leads
      have absent := (known current List.mem_cons_self).2.2
      rw [unknown] at absent
      cases absent
  | case4 chain visited current nonempty key found again =>
      refine ⟨nofun, ?_⟩
      rintro ⟨path, leads, _, known⟩
      obtain ⟨rest, rfl, _⟩ := leads_iff.mp leads
      obtain ⟨offChain, fresh, _⟩ := known current List.mem_cons_self
      rw [Bool.or_eq_true, List.contains_iff_mem, List.contains_iff_mem] at again
      exact absurd again (not_or.mpr ⟨offChain, fresh⟩)
  | case5 chain visited current nonempty key found again induction =>
      rw [Bool.or_eq_true, List.contains_iff_mem, List.contains_iff_mem, not_or] at again
      rw [induction (fun same => successors current "" same rfl)]
      constructor
      · rintro ⟨rest, onward, rfl, known⟩
        refine ⟨current :: rest, leads_iff.mpr ⟨rest, rfl, onward⟩, by simp, ?_⟩
        rw [List.forall_mem_cons, found]
        refine ⟨⟨again.1, again.2, rfl⟩, fun id member => ?_⟩
        obtain ⟨offChain, fresh, isKnown⟩ := known id member
        exact ⟨fun early => offChain (List.mem_cons_of_mem _ early),
          fun early => fresh (List.mem_cons_of_mem _ early), isKnown⟩
      · rintro ⟨path, leads, rfl, known⟩
        have distinct := leads_nodup leads
        obtain ⟨rest, rfl, onward⟩ := leads_iff.mp leads
        refine ⟨rest, onward, by simp, fun id member => ?_⟩
        obtain ⟨offChain, fresh, isKnown⟩ := known id (List.mem_cons_of_mem _ member)
        have apart : id ≠ current := fun same => (List.nodup_cons.mp distinct).1 (same ▸ member)
        exact ⟨List.not_mem_cons_of_ne_of_not_mem apart offChain,
          List.not_mem_cons_of_ne_of_not_mem apart fresh, isKnown⟩

/-- The walks from the origins visit their chains, which share no key. -/
theorem walks_ok {origins : List InitializationOrigin} {visited result : List String}
    (named : ∀ origin ∈ origins, origin.keyId ≠ "")
    (successors : ∀ source target, successor outgoing source = some target → target ≠ "")
    (before : visited.Nodup) :
    origins.foldlM (fun visited origin => walk keys outgoing [] visited (some origin.keyId))
        visited = .ok result ↔
      ∃ paths, List.Forall₂ (fun origin path =>
          Leads (successor outgoing) origin.keyId path) origins paths ∧
        result = paths.flatten.reverse ++ visited ∧ (visited ++ paths.flatten).Nodup ∧
        ∀ id ∈ paths.flatten, (keyOf keys id).isSome = true := by
  induction origins generalizing visited with
  | nil =>
      rw [List.foldlM_nil]
      constructor
      · intro same
        exact ⟨[], .nil, (Except.ok.inj same).symm, by simpa using before, nofun⟩
      · rintro ⟨paths, none, rfl, _⟩
        cases none
        rfl
  | cons origin origins induction =>
      obtain ⟨firstNamed, restNamed⟩ := List.forall_mem_cons.mp named
      rw [List.foldlM_cons, bind_ok]
      constructor
      · rintro ⟨onward, first, rest⟩
        obtain ⟨path, leads, rfl, known⟩ :=
          (walk_from_ok (fun same => firstNamed (Option.some.inj same)) successors).mp first
        have longer : (path.reverse ++ visited).Nodup := by
          refine List.nodup_append.mpr ⟨List.nodup_reverse.mpr (leads_nodup leads), before, ?_⟩
          rintro id member _ seen rfl
          exact (known id (List.mem_reverse.mp member)).2.1 seen
        obtain ⟨paths, each, rfl, distinct, allKnown⟩ := (induction restNamed longer).mp rest
        refine ⟨path :: paths, .cons leads each, by simp, ?_, ?_⟩
        · rw [List.flatten_cons, ← List.append_assoc]
          exact ((List.perm_append_comm.trans
            ((List.reverse_perm path).symm.append_right visited)).append_right _).nodup_iff.mpr
              distinct
        · rw [List.flatten_cons, List.forall_mem_append]
          exact ⟨fun id member => (known id member).2.2, allKnown⟩
      · rintro ⟨_, each, rfl, distinct, allKnown⟩
        cases each with
        | @cons _ path _ paths leads each =>
            rw [List.flatten_cons, List.forall_mem_append] at allKnown
            rw [List.flatten_cons, ← List.append_assoc] at distinct
            have moved := ((List.perm_append_comm.trans
              ((List.reverse_perm path).symm.append_right visited)).append_right
                paths.flatten).nodup_iff.mp distinct
            have longer := (List.nodup_append.mp moved).1
            refine ⟨path.reverse ++ visited, ?_, ?_⟩
            · refine (walk_from_ok (fun same => firstNamed (Option.some.inj same))
                successors).mpr ⟨path, leads, rfl, fun id member => ⟨nofun, fun seen => ?_,
                  allKnown.1 id member⟩⟩
              exact (List.nodup_append.mp longer).2.2 id (List.mem_reverse.mpr member) id seen rfl
            · exact (induction restNamed longer).mpr ⟨paths, each, by simp, moved, allKnown.2⟩

end Walks

section Validation

/-- What the validation has found when it returns. -/
structure Validated (state : InitializationRotationState) (links : List CanonicalLink)
    (current : List (String × String)) (visited : List String) : Prop where
  keys : (∀ key ∈ state.keys, key.id ≠ "") ∧ (state.keys.map InitializationKeyRow.id).Nodup
  origins : (∀ origin ∈ state.origins, origin.keyId ≠ "") ∧
    (state.origins.map InitializationOrigin.keyId).Nodup
  read : List.Forall₂ (Links state.keys) state.audits links
  outgoing : (links.map CanonicalLink.oldId).Nodup
  incoming : (links.map CanonicalLink.replacementId).Nodup
  originDegrees : ∀ origin ∈ state.origins,
    (∃ key, keyOf state.keys origin.keyId = some key ∧ key.tenantId = origin.tenantId) ∧
      ∀ link ∈ links, link.replacementId ≠ origin.keyId
  keyDegrees : ∀ key ∈ state.keys, (∀ hash, key.keyHash = some hash → isKeyHash hash = true) ∧
    (key.revokedAt = none ↔ ∀ link ∈ links, link.oldId ≠ key.id) ∧
    ((∃ origin ∈ state.origins, origin.keyId = key.id) ∨
      ∃ link ∈ links, link.replacementId = key.id)
  walked : List.Forall₂ (fun origin entry => entry.1 = origin.keyId ∧
    lastOf links [] origin.keyId = .ok entry.2 ∧
    ∃ key, keyOf state.keys entry.2 = some key ∧ key.revokedAt = none ∧
      key.tenantId = origin.tenantId) state.origins current
  visits : state.origins.foldlM (fun visited origin =>
    walk state.keys links [] visited (some origin.keyId)) [] = .ok visited
  all : visited.length = state.keys.length

theorem validate_degrees_ok {keys : List InitializationKeyRow}
    {origins : List InitializationOrigin} {outgoing incoming : List CanonicalLink} {value : Unit} :
    validateDegrees keys origins outgoing incoming = .ok value ↔
      (∀ origin ∈ origins,
        (∃ key, keyOf keys origin.keyId = some key ∧ key.tenantId = origin.tenantId) ∧
          ∀ link ∈ incoming, link.replacementId ≠ origin.keyId) ∧
      ∀ key ∈ keys, (∀ hash, key.keyHash = some hash → isKeyHash hash = true) ∧
        (key.revokedAt = none ↔ ∀ link ∈ outgoing, link.oldId ≠ key.id) ∧
        ((∃ origin ∈ origins, origin.keyId = key.id) ∨
          ∃ link ∈ incoming, link.replacementId = key.id) := by
  unfold validateDegrees
  have degree : ∀ key : InitializationKeyRow,
      (key.revokedAt.isNone != outgoing.any fun link => decide (link.oldId = key.id)) = true ↔
        (key.revokedAt = none ↔ ∀ link ∈ outgoing, link.oldId ≠ key.id) := by
    intro key
    have rotated : (outgoing.any fun link => decide (link.oldId = key.id)) = true ↔
        ¬ ∀ link ∈ outgoing, link.oldId ≠ key.id := by
      simp
    rw [bne_iff_ne, ne_eq, Bool.eq_iff_iff, Option.isNone_iff_eq_none, rotated, not_iff,
      not_iff_not]
  simp only [bind_ok, unless_ambiguous_ok, exists_const, List.all_eq_true, Bool.and_eq_true,
    Bool.or_eq_true, degree, Option.any_eq_true, Option.all_eq_true, decide_eq_true_eq,
    Bool.not_eq_true', List.any_eq_false, List.any_eq_true, and_assoc, ne_eq]

theorem walk_origins_ok {keys : List InitializationKeyRow} {origins : List InitializationOrigin}
    {outgoing : List CanonicalLink} {current : List (String × String)} :
    walkOrigins origins keys outgoing = .ok current ↔
      List.Forall₂ (fun origin entry => entry.1 = origin.keyId ∧
        lastOf outgoing [] origin.keyId = .ok entry.2 ∧
        ∃ key, keyOf keys entry.2 = some key ∧ key.revokedAt = none ∧
          key.tenantId = origin.tenantId) origins current := by
  unfold walkOrigins
  rw [map_m_ok_iff]
  refine iff_of_eq (congrArg (fun related => List.Forall₂ related origins current) ?_)
  funext origin entry
  rw [bind_ok, eq_iff_iff]
  constructor
  · rintro ⟨last, isLast, checked⟩
    obtain ⟨_, sound, same⟩ := bind_ok.mp checked
    obtain rfl := Except.ok.inj same
    obtain ⟨key, found, fits⟩ := (Option.any_eq_true _ _).mp (unless_ambiguous_ok.mp sound)
    rw [Bool.and_eq_true, decide_eq_true_eq, decide_eq_true_eq] at fits
    exact ⟨rfl, isLast, key, found, fits⟩
  · rintro ⟨isOrigin, isLast, key, found, fits⟩
    refine ⟨entry.2, isLast, bind_ok.mpr ⟨(), unless_ambiguous_ok.mpr ?_, ?_⟩⟩
    · rw [found, Option.any_some, Bool.and_eq_true, decide_eq_true_eq, decide_eq_true_eq]
      exact fits
    · rw [← isOrigin]
      rfl

theorem validate_ok {state : InitializationRotationState} {current : List (String × String)} :
    validateApiKeyRotationChains state = .ok current ↔
      ∃ links visited, Validated state links current visited := by
  have read : ∀ links, (state.keys.map InitializationKeyRow.id).Nodup →
      (∀ key ∈ state.keys, key.id ≠ "") →
      (state.audits.mapM (canonicalLink state.keys) = .ok links ↔
        List.Forall₂ (Links state.keys) state.audits links) := by
    intro links unique named
    rw [map_m_ok_iff]
    refine iff_of_eq (congrArg (fun related => List.Forall₂ related state.audits links) ?_)
    funext audit link
    exact propext (canonical_link_ok unique named)
  unfold validateApiKeyRotationChains
  constructor
  · intro accepted
    obtain ⟨keys, keyMap, accepted⟩ := bind_ok.mp accepted
    obtain ⟨origins, originMap, accepted⟩ := bind_ok.mp accepted
    obtain ⟨links, linked, accepted⟩ := bind_ok.mp accepted
    obtain ⟨outgoing, outgoingMap, accepted⟩ := bind_ok.mp accepted
    obtain ⟨incoming, incomingMap, accepted⟩ := bind_ok.mp accepted
    obtain ⟨_, degrees, accepted⟩ := bind_ok.mp accepted
    obtain ⟨current', walked, accepted⟩ := bind_ok.mp accepted
    obtain ⟨visited, visits, accepted⟩ := bind_ok.mp accepted
    obtain ⟨_, counted, same⟩ := bind_ok.mp accepted
    obtain rfl := Except.ok.inj same
    obtain ⟨rfl, keysNamed, keysUnique⟩ := unique_map_ok.mp keyMap
    obtain ⟨rfl, originsNamed, originsUnique⟩ := unique_map_ok.mp originMap
    obtain ⟨rfl, _, outgoingUnique⟩ := unique_map_ok.mp outgoingMap
    obtain ⟨rfl, _, incomingUnique⟩ := unique_map_ok.mp incomingMap
    obtain ⟨originDegrees, keyDegrees⟩ := validate_degrees_ok.mp degrees
    have all := unless_ambiguous_ok.mp counted
    rw [Bool.and_eq_true, decide_eq_true_eq] at all
    exact ⟨_, visited, ⟨keysNamed, keysUnique⟩, ⟨originsNamed, originsUnique⟩,
      (read _ keysUnique keysNamed).mp linked, outgoingUnique, incomingUnique, originDegrees,
      keyDegrees, walk_origins_ok.mp walked, visits, all.1⟩
  · rintro ⟨links, visited, valid⟩
    have targets : ∀ link ∈ links, link.oldId ≠ "" ∧ link.replacementId ≠ "" := by
      intro link member
      obtain ⟨audit, _, old, oldMember, replacement, newMember, _, rfl⟩ :=
        forall₂_right valid.read member
      exact ⟨valid.keys.1 old oldMember, valid.keys.1 replacement newMember⟩
    refine bind_ok.mpr ⟨_, unique_map_ok.mpr ⟨rfl, valid.keys⟩, bind_ok.mpr
      ⟨_, unique_map_ok.mpr ⟨rfl, valid.origins⟩, bind_ok.mpr
      ⟨links, (read links valid.keys.2 valid.keys.1).mpr valid.read, bind_ok.mpr
      ⟨_, unique_map_ok.mpr ⟨rfl, fun link member => (targets link member).1, valid.outgoing⟩,
        bind_ok.mpr
      ⟨_, unique_map_ok.mpr ⟨rfl, fun link member => (targets link member).2, valid.incoming⟩,
        bind_ok.mpr
      ⟨(), validate_degrees_ok.mpr ⟨valid.originDegrees, valid.keyDegrees⟩, bind_ok.mpr
      ⟨current, walk_origins_ok.mpr valid.walked, bind_ok.mpr
      ⟨visited, valid.visits, bind_ok.mpr ⟨(), unless_ambiguous_ok.mpr ?_, rfl⟩⟩⟩⟩⟩⟩⟩⟩⟩
    rw [valid.all, Bool.and_eq_true]
    exact ⟨decide_eq_true rfl, decide_eq_true rfl⟩

end Validation

section Partitions

variable {state : InitializationRotationState} {links : List CanonicalLink}
  {current : List (String × String)} {visited : List String} {paths : List (List String)}

theorem successor_eq_none {id : String} :
    successor links id = none ↔ ∀ link ∈ links, link.oldId ≠ id := by
  unfold successor
  rw [Option.map_eq_none_iff, List.find?_eq_none]
  simp only [decide_eq_true_eq, ne_eq]

theorem mem_pairs {source target : String} :
    (source, target) ∈ links.map CanonicalLink.pair ↔
      (⟨source, target⟩ : CanonicalLink) ∈ links := by
  rw [List.mem_map]
  constructor
  · rintro ⟨link, member, same⟩
    obtain ⟨rfl, rfl⟩ := Prod.mk.inj same
    exact member
  · exact fun member => ⟨_, member, rfl⟩

/-- What a link says of its keys. -/
theorem link_ends {link : CanonicalLink} (read : List.Forall₂ (Links state.keys) state.audits links)
    (unique : (state.keys.map InitializationKeyRow.id).Nodup) (member : link ∈ links) :
    link.oldId ∈ state.keys.map InitializationKeyRow.id ∧
      link.replacementId ∈ state.keys.map InitializationKeyRow.id ∧
      ∀ old ∈ state.keys, old.id = link.oldId → old.revokedAt ≠ none ∧
        ∀ replacement ∈ state.keys, replacement.id = link.replacementId →
          replacement.tenantId = old.tenantId := by
  obtain ⟨audit, _, old, oldMember, replacement, newMember, record, rfl⟩ :=
    forall₂_right read member
  refine ⟨List.mem_map_of_mem oldMember, List.mem_map_of_mem newMember, ?_⟩
  intro row rowMember isOld
  obtain rfl := List.inj_on_of_nodup_map unique rowMember oldMember isOld
  refine ⟨fun none => ?_, ?_⟩
  · rw [record.rotatedAt.2] at none
    cases none
  · intro other otherMember isNew
    obtain rfl := List.inj_on_of_nodup_map unique otherMember newMember isNew
    exact record.tenant.2.trans record.tenant.1.symm

theorem pairs_fst : (links.map CanonicalLink.pair).map Prod.fst = links.map CanonicalLink.oldId := by
  rw [List.map_map]
  rfl

theorem pairs_snd :
    (links.map CanonicalLink.pair).map Prod.snd = links.map CanonicalLink.replacementId := by
  rw [List.map_map]
  rfl

/-- A validated history falls into the chains of its origins. -/
theorem partitioned_of_validated (valid : Validated state links current visited) :
    ∃ paths, Partitioned state links paths ∧ List.Forall₂ Resolves paths current := by
  have unique := valid.keys.2
  have ends := fun link member => @link_ends state links link valid.read unique member
  have next := fun source target =>
    @successor_iff links valid.outgoing source target
  have named : ∀ source target, successor links source = some target → target ≠ "" := by
    intro source target step
    obtain ⟨key, member, rfl⟩ := List.mem_map.mp (ends _ ((next source target).mp step)).2.1
    exact valid.keys.1 key member
  obtain ⟨paths, leads, rfl, distinct, known⟩ :=
    (walks_ok valid.origins.1 named List.nodup_nil).mp valid.visits
  rw [List.nil_append] at distinct
  have isKey : ∀ id ∈ paths.flatten, id ∈ state.keys.map InitializationKeyRow.id := by
    intro id member
    obtain ⟨key, found⟩ := Option.isSome_iff_exists.mp (known id member)
    obtain ⟨stored, rfl⟩ := (key_of_iff unique).mp found
    exact List.mem_map_of_mem stored
  have keys : paths.flatten.Perm (state.keys.map InitializationKeyRow.id) := by
    refine (List.subperm_of_subset distinct isKey).perm_of_length_le ?_
    have all := valid.all
    rw [List.append_nil, List.length_reverse] at all
    rw [List.length_map, all]
  refine ⟨paths, ⟨?_, ?_, keys, ?_⟩, ?_⟩
  · refine forall₂_imp_of_mem leads fun origin isOrigin path _ chain => ?_
    obtain ⟨⟨first, found, tenant⟩, _⟩ := valid.originDegrees origin isOrigin
    obtain ⟨firstMember, isFirst⟩ := (key_of_iff unique).mp found
    have along := @leads_inherits _ _ _ _ (fun id => ∀ key ∈ state.keys, key.id = id →
      key.tenantId = origin.tenantId) chain (by
        intro key member same
        rw [List.inj_on_of_nodup_map unique member firstMember (same.trans isFirst.symm)]
        exact tenant) (by
        intro source target step holds key member same
        have link := ends _ ((next source target).mp step)
        obtain ⟨old, oldMember, isOld⟩ := List.mem_map.mp link.1
        exact ((link.2.2 old oldMember isOld).2 key member same).trans
          (holds old oldMember isOld))
    exact ⟨leads_head chain, fun key member onPath => along key.id onPath key member rfl⟩
  · -- both sides are the successors of the keys, without repetition
    refine (List.perm_ext_iff_of_nodup (List.Nodup.of_map Prod.fst ?_)
      (List.Nodup.of_map Prod.fst (steps_nodup distinct).1)).mpr ?_
    · rw [pairs_fst]
      exact valid.outgoing
    rintro ⟨source, target⟩
    rw [mem_pairs, List.mem_flatMap]
    constructor
    · intro member
      obtain ⟨path, isPath, onPath⟩ :=
        List.mem_flatten.mp (keys.mem_iff.mpr (ends _ member).1)
      obtain ⟨_, _, chain⟩ := forall₂_right leads isPath
      exact ⟨path, isPath, (mem_steps_leads chain).mpr ⟨onPath, (next source target).mpr member⟩⟩
    · rintro ⟨path, isPath, step⟩
      obtain ⟨_, _, chain⟩ := forall₂_right leads isPath
      exact (next source target).mp ((mem_steps_leads chain).mp step).2
  · intro path isPath key member onPath
    obtain ⟨_, _, chain⟩ := forall₂_right leads isPath
    rw [(valid.keyDegrees key member).2.1, ← leads_final chain onPath, successor_eq_none]
  · refine forall₂_comp leads.flip valid.walked ?_
    rintro path origin entry chain ⟨isOrigin, isLast, _⟩
    obtain ⟨path', chain', last, _⟩ := last_of_ok.mp isLast
    obtain rfl := leads_unique chain chain'
    exact ⟨isOrigin ▸ leads_head chain, last⟩

/-- A history that falls into such chains is validated. -/
theorem validated_of_partitioned (wellFormed : WellFormed state)
    (read : List.Forall₂ (Links state.keys) state.audits links)
    (parts : Partitioned state links paths) (resolves : List.Forall₂ Resolves paths current) :
    ∃ visited, Validated state links current visited := by
  have unique := wellFormed.keys
  have distinct : paths.flatten.Nodup := parts.keys.nodup_iff.mpr unique
  have ends := fun link member => @link_ends state links link read unique member
  have outgoing : (links.map CanonicalLink.oldId).Nodup := by
    rw [← pairs_fst, (parts.linked.map Prod.fst).nodup_iff]
    exact (steps_nodup distinct).1
  have incoming : (links.map CanonicalLink.replacementId).Nodup := by
    rw [← pairs_snd, (parts.linked.map Prod.snd).nodup_iff]
    exact (steps_nodup distinct).2
  have next := fun source target => @successor_iff links outgoing source target
  have located : ∀ path ∈ paths, ∀ id ∈ path, ∃ key ∈ state.keys, key.id = id := by
    intro path isPath id onPath
    exact List.mem_map.mp (parts.keys.mem_iff.mp (List.mem_flatten.mpr ⟨path, isPath, onPath⟩))
  have leads : List.Forall₂ (fun origin path =>
      Leads (successor links) origin.keyId path) state.origins paths := by
    refine forall₂_imp_of_mem parts.starts fun origin _ path isPath start => ?_
    obtain ⟨rest, rfl⟩ := List.head?_eq_some_iff.mp start.1
    refine leads_of_steps ?_ ?_
    · rintro ⟨source, target⟩ step
      rw [next]
      exact mem_pairs.mp (parts.linked.mem_iff.mpr (List.mem_flatMap.mpr ⟨_, isPath, step⟩))
    · intro last isLast
      obtain ⟨key, member, rfl⟩ := located _ isPath last (List.mem_of_getLast? isLast)
      have unrevoked := (parts.current _ isPath key member (List.mem_of_getLast? isLast)).mpr isLast
      rw [successor_eq_none]
      intro link isLink isOld
      exact ((ends link isLink).2.2 key member isOld.symm).1 unrevoked
  have split : ∀ id, id ∈ paths.flatten ↔ id ∈ paths.filterMap List.head? ∨
      id ∈ links.map CanonicalLink.replacementId := by
    intro id
    rw [(flatten_perm_heads paths).mem_iff, List.mem_append, ← pairs_snd,
      (parts.linked.map Prod.snd).mem_iff]
  have apart : ∀ id ∈ paths.filterMap List.head?, id ∉ links.map CanonicalLink.replacementId := by
    intro id head entered
    rw [← pairs_snd, (parts.linked.map Prod.snd).mem_iff] at entered
    have both := (flatten_perm_heads paths).nodup_iff.mp distinct
    exact (List.nodup_append.mp both).2.2 id head id entered rfl
  have named : ∀ source target, successor links source = some target → target ≠ "" := by
    intro source target step
    obtain ⟨key, member, rfl⟩ := List.mem_map.mp (ends _ ((next source target).mp step)).2.1
    exact wellFormed.keysNamed key member
  refine ⟨paths.flatten.reverse, ⟨wellFormed.keysNamed, unique⟩,
    ⟨wellFormed.originsNamed, wellFormed.origins⟩, read, outgoing, incoming, ?_, ?_, ?_, ?_, ?_⟩
  · intro origin isOrigin
    obtain ⟨path, isPath, head, tenant⟩ := forall₂_left parts.starts isOrigin
    have onPath := List.mem_of_head? head
    obtain ⟨key, member, isFirst⟩ := located path isPath origin.keyId onPath
    refine ⟨⟨key, (key_of_iff unique).mpr ⟨member, isFirst⟩, tenant key member ?_⟩, ?_⟩
    · rw [isFirst]
      exact onPath
    · intro link isLink entered
      refine apart origin.keyId (List.mem_filterMap.mpr ⟨path, isPath, head⟩) ?_
      exact List.mem_map.mpr ⟨link, isLink, entered⟩
  · intro key member
    have inside : key.id ∈ paths.flatten := parts.keys.mem_iff.mpr (List.mem_map_of_mem member)
    obtain ⟨path, isPath, onPath⟩ := List.mem_flatten.mp inside
    obtain ⟨_, _, chain⟩ := forall₂_right leads isPath
    refine ⟨wellFormed.hashes key member, ?_, ?_⟩
    · rw [parts.current path isPath key member onPath, ← leads_final chain onPath,
        successor_eq_none]
    · refine ((split key.id).mp inside).imp ?_ List.mem_map.mp
      intro first
      obtain ⟨start, isStart, head⟩ := List.mem_filterMap.mp first
      obtain ⟨origin, isOrigin, same, _⟩ := forall₂_right parts.starts isStart
      exact ⟨origin, isOrigin, Option.some.inj (same.symm.trans head)⟩
  · refine forall₂_comp (forall₂_imp_of_mem parts.starts fun origin isOrigin path isPath start =>
      (⟨isPath, start⟩ : path ∈ paths ∧ _)) resolves ?_
    rintro origin path entry ⟨isPath, head, tenant⟩ ⟨first, last⟩
    have onPath := List.mem_of_getLast? last
    obtain ⟨key, member, isLast⟩ := located path isPath entry.2 onPath
    rw [← isLast] at onPath last
    obtain ⟨_, _, chain⟩ := forall₂_right leads isPath
    rw [Option.some.inj ((leads_head chain).symm.trans head)] at chain
    refine ⟨Option.some.inj (first.symm.trans head), ?_, key,
      (key_of_iff unique).mpr ⟨member, isLast⟩,
      (parts.current path isPath key member onPath).mpr last, tenant key member onPath⟩
    exact last_of_ok.mpr ⟨path, chain, isLast ▸ last, nofun⟩
  · refine (walks_ok wellFormed.originsNamed named List.nodup_nil).mpr
      ⟨paths, leads, by rw [List.append_nil], by rwa [List.nil_append], ?_⟩
    intro id member
    obtain ⟨key, stored, rfl⟩ := List.mem_map.mp (parts.keys.mem_iff.mp member)
    rw [(key_of_iff unique).mpr ⟨stored, rfl⟩]
    rfl
  · rw [List.length_reverse, parts.keys.length_eq, List.length_map]

/-- The validation returns exactly for the histories whose audit rows part the keys into
chains, with the last key of each. -/
theorem rotation_chains_exact (state : InitializationRotationState)
    (current : List (String × String)) :
    validateApiKeyRotationChains state = .ok current ↔
      WellFormed state ∧ ∃ links paths, List.Forall₂ (Links state.keys) state.audits links ∧
        Partitioned state links paths ∧ List.Forall₂ Resolves paths current := by
  rw [validate_ok]
  constructor
  · rintro ⟨links, visited, valid⟩
    obtain ⟨paths, parts, resolves⟩ := partitioned_of_validated valid
    exact ⟨⟨valid.keys.2, valid.keys.1, valid.origins.2, valid.origins.1,
      fun key member => (valid.keyDegrees key member).1⟩, links, paths, valid.read, parts, resolves⟩
  · rintro ⟨wellFormed, links, paths, read, parts, resolves⟩
    exact ⟨links, validated_of_partitioned wellFormed read parts resolves⟩

/-- One current key whose stored hash is no hash. -/
def unhashed : InitializationRotationState where
  origins := [⟨"key", "tenant"⟩]
  keys := [⟨"key", "tenant", some "hash", "2026-01-01", none⟩]
  audits := []

theorem unhashed_key_rejected :
    ¬ ∀ state : InitializationRotationState,
      (∃ current, validateApiKeyRotationChains state = .ok current) ↔
        (state.keys.map InitializationKeyRow.id).Nodup ∧
        (state.origins.map InitializationOrigin.keyId).Nodup ∧
        ∃ links paths, List.Forall₂ (Links state.keys) state.audits links ∧
          Partitioned state links paths := by
  intro exact'
  have single : Partitioned unhashed [] [["key"]] :=
    { starts := .cons ⟨rfl, by decide⟩ .nil
      linked := List.Perm.refl _
      keys := List.Perm.refl _
      current := by decide }
  obtain ⟨current, accepted⟩ := (exact' unhashed).mpr
    ⟨by decide, by decide, [], [["key"]], .nil, single⟩
  obtain ⟨links, visited, valid⟩ := validate_ok.mp accepted
  have hash := (valid.keyDegrees _ List.mem_cons_self).1 "hash" rfl
  exact absurd hash (by decide)

end Partitions

end CommitmentOptimizer.Tenants.RotationHistories
