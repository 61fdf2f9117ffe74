import CommitmentOptimizer.Tenants.RotationHistories

/-!
# Rotation histories that grow

A registration adds a chain of one key and a rotation adds a key to the end of a chain. The
validation does not depend on the order in which the rows are listed.
-/

namespace CommitmentOptimizer.Tenants.RotationGrowth

open Foundations
open Foundations.PartialLists
open Foundations.SqlConstraints
open Foundations.SuccessorChains
open RotationChains
open RotationHistories

set_option autoImplicit false

section Growth

variable {state grown : InitializationRotationState} {links : List CanonicalLink}
  {paths : List (List String)}

/-- The keys of a path are keys of the history. -/
theorem path_keys (parts : Partitioned state links paths) {path : List String}
    (isPath : path ∈ paths) {id : String} (inside : id ∈ path) :
    id ∈ state.keys.map InitializationKeyRow.id :=
  parts.keys.mem_iff.mp (List.mem_flatten.mpr ⟨path, isPath, inside⟩)

theorem partitioned_registered (parts : Partitioned state links paths)
    {origin : InitializationOrigin} {key : InitializationKeyRow} (own : key.id = origin.keyId)
    (tenant : key.tenantId = origin.tenantId) (unrevoked : key.revokedAt = none)
    (fresh : key.id ∉ state.keys.map InitializationKeyRow.id)
    (origins : grown.origins = state.origins ++ [origin]) (keys : grown.keys = state.keys ++ [key]) :
    Partitioned grown links (paths ++ [[key.id]]) := by
  have older : ∀ path ∈ paths, ∀ row ∈ grown.keys, row.id ∈ path → row ∈ state.keys := by
    intro path isPath row member inside
    rw [keys] at member
    rcases List.mem_append.mp member with stored | single
    · exact stored
    · rw [List.mem_singleton.mp single] at inside
      exact absurd (path_keys parts isPath inside) fresh
  have single : ∀ row ∈ grown.keys, row.id ∈ [key.id] → row = key := by
    intro row member inside
    rw [keys] at member
    rcases List.mem_append.mp member with stored | single
    · refine absurd (List.mem_map.mpr ⟨row, stored, ?_⟩) fresh
      exact List.mem_singleton.mp inside
    · exact List.mem_singleton.mp single
  refine ⟨?_, ?_, ?_, ?_⟩
  · rw [origins]
    refine List.rel_append (forall₂_imp_of_mem parts.starts fun origin _ path isPath start =>
      ⟨start.1, fun row member inside => start.2 row (older path isPath row member inside)
        inside⟩) (.cons ⟨by rw [← own]; rfl, fun row member inside => ?_⟩ .nil)
    rw [single row member inside, tenant]
  · have noSteps : [[key.id]].flatMap steps = [] := rfl
    rw [List.flatMap_append, noSteps, List.append_nil]
    exact parts.linked
  · rw [List.flatten_append, keys, List.map_append]
    exact parts.keys.append_right _
  · intro path isPath row member inside
    rcases List.mem_append.mp isPath with old | new
    · exact parts.current path old row (older path old row member inside) inside
    · rw [List.mem_singleton.mp new] at inside ⊢
      rw [single row member inside]
      exact ⟨fun _ => rfl, fun _ => unrevoked⟩

/-- The keys after a rotation: the old one is revoked. -/
def revoke (id revokedAt : String) (row : InitializationKeyRow) : InitializationKeyRow :=
  if row.id = id then { row with revokedAt := some revokedAt } else row

theorem revoke_fields (id revokedAt : String) (row : InitializationKeyRow) :
    (revoke id revokedAt row).id = row.id ∧ (revoke id revokedAt row).tenantId = row.tenantId ∧
      (revoke id revokedAt row).createdAt = row.createdAt ∧
      (revoke id revokedAt row).keyHash = row.keyHash := by
  rw [revoke]
  split_ifs <;> exact ⟨rfl, rfl, rfl, rfl⟩

theorem revoked_ids (id revokedAt : String) (rows : List InitializationKeyRow) :
    (rows.map (revoke id revokedAt)).map InitializationKeyRow.id =
      rows.map InitializationKeyRow.id := by
  rw [List.map_map]
  exact List.map_congr_left fun row _ => (revoke_fields id revokedAt row).1

section Rotation

variable {old new : InitializationKeyRow} {revokedAt : String}
  (unique : (state.keys.map InitializationKeyRow.id).Nodup) (member : old ∈ state.keys)
  (unrevoked : old.revokedAt = none) (fresh : new.id ∉ state.keys.map InitializationKeyRow.id)
  (keys : grown.keys = state.keys.map (revoke old.id revokedAt) ++ [new])

include keys in
/-- A key after the rotation is an earlier one or the new one. -/
theorem rotated_key {row : InitializationKeyRow} (stored : row ∈ grown.keys) :
    (∃ former ∈ state.keys, revoke old.id revokedAt former = row) ∨ row = new := by
  rw [keys] at stored
  exact (List.mem_append.mp stored).imp List.mem_map.mp List.mem_singleton.mp

include unique member unrevoked keys in
/-- Earlier audit rows still link their keys. -/
theorem links_rotated {audit : InitializationAuditRow} {link : CanonicalLink}
    (linked : Links state.keys audit link) : Links grown.keys audit link := by
  obtain ⟨former, isFormer, replacement, isReplacement, record, same⟩ := linked
  have untouched : revoke old.id revokedAt former = former := by
    apply if_neg
    intro isOld
    have revoked := record.rotatedAt.2
    rw [List.inj_on_of_nodup_map unique isFormer member isOld, unrevoked] at revoked
    cases revoked
  obtain ⟨sameId, sameTenant, sameCreated, -⟩ := revoke_fields old.id revokedAt replacement
  have stored : ∀ row ∈ state.keys, revoke old.id revokedAt row ∈ grown.keys := by
    intro row isRow
    rw [keys]
    exact List.mem_append_left _ (List.mem_map_of_mem isRow)
  refine ⟨former, untouched ▸ stored former isFormer, revoke old.id revokedAt replacement,
    stored replacement isReplacement, ?_, by rw [sameId]; exact same⟩
  exact
    { actor := record.actor
      actorTenant := record.actorTenant
      action := record.action
      entity := record.entity
      request := record.request
      tenant := ⟨record.tenant.1, sameTenant.trans record.tenant.2⟩
      different := by rw [sameId]; exact record.different
      rotatedAt := record.rotatedAt
      oldValues := record.oldValues
      newValues := by rw [sameId, sameCreated]; exact record.newValues }

include unique member unrevoked fresh keys in
theorem partitioned_rotated (parts : Partitioned state links paths)
    (tenant : new.tenantId = old.tenantId) (current : new.revokedAt = none)
    (origins : grown.origins = state.origins) :
    Partitioned grown (links ++ [⟨old.id, new.id⟩]) (paths.map (extendAt old.id new.id)) := by
  have distinct : paths.flatten.Nodup := parts.keys.nodup_iff.mpr unique
  obtain ⟨path, isPath, inside⟩ :=
    List.mem_flatten.mp (parts.keys.mem_iff.mpr (List.mem_map_of_mem member))
  have ends := (parts.current path isPath old member inside).mp unrevoked
  have notNew : ∀ other ∈ paths, new.id ∉ other := fun other isOther again =>
    fresh (path_keys parts isOther again)
  refine ⟨?_, ?_, ?_, ?_⟩
  · rw [origins, List.forall₂_map_right_iff]
    refine forall₂_imp_of_mem parts.starts fun origin _ other isOther start => ?_
    refine ⟨extend_at_head start.1, fun row stored onPath => ?_⟩
    rcases rotated_key keys stored with ⟨former, isFormer, rfl⟩ | rfl
    · obtain ⟨sameId, sameTenant, -, -⟩ := revoke_fields old.id revokedAt former
      rw [sameId] at onPath
      rw [sameTenant]
      rcases mem_extend_at onPath with before | ⟨isNew, -⟩
      · exact start.2 former isFormer before
      · exact absurd (isNew ▸ List.mem_map_of_mem isFormer) fresh
    · rcases mem_extend_at onPath with before | ⟨-, endsHere⟩
      · exact absurd before (notNew other isOther)
      · rw [tenant]
        exact start.2 old member (List.mem_of_getLast? endsHere)
  · rw [List.map_append]
    exact (parts.linked.append_right _).trans (steps_of_extended distinct isPath ends).symm
  · rw [keys, List.map_append, revoked_ids]
    exact (flatten_extended distinct isPath ends).trans (parts.keys.append_right _)
  · intro extended isExtended row stored onPath
    obtain ⟨other, isOther, rfl⟩ := List.mem_map.mp isExtended
    rcases rotated_key keys stored with ⟨former, isFormer, rfl⟩ | rfl
    · obtain ⟨sameId, -, -, -⟩ := revoke_fields old.id revokedAt former
      have known : former.id ≠ new.id := fun same => fresh (same ▸ List.mem_map_of_mem isFormer)
      rw [sameId] at onPath ⊢
      have before : former.id ∈ other := (mem_extend_at onPath).resolve_right fun new =>
        known new.1
      have formerly := parts.current other isOther former isFormer before
      rw [extend_at_last]
      by_cases isOld : former.id = old.id
      · -- the rotated key is revoked, and its path goes on
        have same := List.inj_on_of_nodup_map unique isFormer member isOld
        rw [same] at formerly known ⊢
        rw [if_pos (formerly.mp unrevoked), revoke, if_pos rfl]
        exact ⟨(fun none => by cases none), fun last => absurd (Option.some.inj last).symm known⟩
      · rw [revoke, if_neg isOld]
        by_cases endsHere : other.getLast? = some old.id
        · rw [if_pos endsHere]
          rw [endsHere] at formerly
          exact ⟨fun none => absurd (Option.some.inj (formerly.mp none)).symm isOld,
            fun last => absurd (Option.some.inj last).symm known⟩
        · rw [if_neg endsHere]
          exact formerly
    · have endsHere : other.getLast? = some old.id :=
        ((mem_extend_at onPath).resolve_left (notNew other isOther)).2
      rw [extend_at_last, if_pos endsHere]
      exact ⟨fun _ => rfl, fun _ => current⟩

end Rotation

end Growth

section Order

variable {state other : InitializationRotationState} {links : List CanonicalLink}
  {paths : List (List String)}

theorem origin_heads (parts : Partitioned state links paths) :
    state.origins.map InitializationOrigin.keyId = paths.filterMap List.head? := by
  have starts := parts.starts
  clear parts
  generalize state.origins = origins at starts ⊢
  induction starts with
  | nil => rfl
  | cons start rest induction =>
      rw [List.map_cons, List.filterMap_cons_some start.1, induction]

/-- The origins of disjoint paths are different keys. -/
theorem origins_nodup (parts : Partitioned state links paths)
    (unique : (state.keys.map InitializationKeyRow.id).Nodup) :
    (state.origins.map InitializationOrigin.keyId).Nodup := by
  have distinct : paths.flatten.Nodup := parts.keys.nodup_iff.mpr unique
  rw [origin_heads parts]
  exact (List.nodup_append.mp ((flatten_perm_heads paths).nodup_iff.mp distinct)).1

/-- The entry of a path in the map of current keys. -/
def currentEntry (path : List String) : String × String :=
  (path.head?.getD "", path.getLast?.getD "")

/-- In whatever order the rows are listed, the validation returns the last key of every path. -/
theorem validated_in_any_order (wellFormed : WellFormed state)
    (read : List.Forall₂ (Links state.keys) state.audits links)
    (parts : Partitioned state links paths) (origins : other.origins.Perm state.origins)
    (keys : other.keys.Perm state.keys) (audits : other.audits.Perm state.audits) :
    ∃ current, validateApiKeyRotationChains other = .ok current ∧
      ∀ path ∈ paths, ∀ first last, path.head? = some first → path.getLast? = some last →
        current.lookup first = some last := by
  obtain ⟨otherLinks, otherRead, linksPerm⟩ := List.perm_comp_forall₂ audits read
  obtain ⟨otherPaths, otherStarts, pathsPerm⟩ := List.perm_comp_forall₂ origins parts.starts
  have ids := keys.map InitializationKeyRow.id
  have otherWellFormed : WellFormed other :=
    { keys := ids.nodup_iff.mpr wellFormed.keys
      keysNamed := fun key member => wellFormed.keysNamed key (keys.mem_iff.mp member)
      origins := (origins.map _).nodup_iff.mpr wellFormed.origins
      originsNamed := fun origin member =>
        wellFormed.originsNamed origin (origins.mem_iff.mp member)
      hashes := fun key member => wellFormed.hashes key (keys.mem_iff.mp member) }
  have otherParts : Partitioned other otherLinks otherPaths :=
    { starts := otherStarts.imp fun origin path start =>
        ⟨start.1, fun key member => start.2 key (keys.mem_iff.mp member)⟩
      linked := (linksPerm.map _).trans (parts.linked.trans (pathsPerm.symm.flatMap_right _))
      keys := pathsPerm.flatten.trans (parts.keys.trans ids.symm)
      current := fun path isPath key member =>
        parts.current path (pathsPerm.mem_iff.mp isPath) key (keys.mem_iff.mp member) }
  have linked : List.Forall₂ (Links other.keys) other.audits otherLinks := by
    refine otherRead.imp fun audit link found => ?_
    obtain ⟨old, isOld, replacement, isNew, record, same⟩ := found
    exact ⟨old, keys.mem_iff.mpr isOld, replacement, keys.mem_iff.mpr isNew, record, same⟩
  have nonempty : ∀ path ∈ otherPaths, ∃ first, path.head? = some first := by
    intro path isPath
    obtain ⟨origin, -, start⟩ := forall₂_right otherStarts isPath
    exact ⟨origin.keyId, start.1⟩
  have resolved : ∀ path ∈ otherPaths, Resolves path (currentEntry path) := by
    intro path isPath
    obtain ⟨first, head⟩ := nonempty path isPath
    obtain ⟨rest, rfl⟩ := List.head?_eq_some_iff.mp head
    exact ⟨rfl, by rw [currentEntry, List.getLast?_cons]; rfl⟩
  have resolves : List.Forall₂ Resolves otherPaths (otherPaths.map currentEntry) := by
    rw [List.forall₂_map_right_iff, List.forall₂_same]
    exact resolved
  obtain ⟨visited, valid⟩ := validated_of_partitioned otherWellFormed linked otherParts resolves
  refine ⟨_, validate_ok.mpr ⟨otherLinks, visited, valid⟩, fun path isPath first last head final => ?_⟩
  have heads : (otherPaths.map currentEntry).map Prod.fst =
      other.origins.map InitializationOrigin.keyId := by
    rw [origin_heads otherParts, List.map_map]
    clear * - nonempty
    induction otherPaths with
    | nil => rfl
    | cons path rest induction =>
        obtain ⟨first, head⟩ := nonempty path List.mem_cons_self
        rw [List.map_cons, List.filterMap_cons_some head,
          induction fun path isPath => nonempty path (List.mem_cons_of_mem _ isPath)]
        rw [Function.comp_apply, currentEntry, head]
        rfl
  refine lookup_of_mem (heads ▸ otherWellFormed.origins) (List.mem_map.mpr ⟨path,
    pathsPerm.mem_iff.mpr isPath, ?_⟩)
  rw [currentEntry, head, final]
  rfl

end Order

end CommitmentOptimizer.Tenants.RotationGrowth
