import Mathlib.Data.List.Perm.Basic

/-!
# Lists mapped by a partial function

What `mapM` into `Option` keeps of its list: the members, the order and the
independence of it.
-/

namespace CommitmentOptimizer.Foundations.PartialLists

set_option autoImplicit false

variable {Source Target Result : Type} {items others : List Source}
  {function : Source → Option Target} {results : List Target}

theorem map_m_cons (item : Source) :
    (item :: items).mapM function =
      (function item).bind fun head => (items.mapM function).map fun tail => head :: tail := by
  rw [List.mapM_cons]
  cases function item with
  | none => rfl
  | some head => cases items.mapM function <;> rfl

theorem map_m_some_iff :
    items.mapM function = some results ↔
      List.Forall₂ (fun item result => function item = some result) items results := by
  induction items generalizing results with
  | nil =>
      rw [List.forall₂_nil_left_iff]
      exact ⟨fun same => (Option.some.inj same).symm, fun same => by rw [same]; rfl⟩
  | cons item items induction =>
      rw [map_m_cons, List.forall₂_cons_left_iff]
      constructor
      · intro mapped
        obtain ⟨head, first, rest⟩ := Option.bind_eq_some_iff.mp mapped
        obtain ⟨tail, tails, rfl⟩ := Option.map_eq_some_iff.mp rest
        exact ⟨head, tail, first, induction.mp tails, rfl⟩
      · rintro ⟨head, tail, first, tails, rfl⟩
        rw [first, Option.bind_some, induction.mpr tails, Option.map_some]

/-- The same for a function that names its failures. -/
theorem map_m_ok_iff {Error : Type} {function : Source → Except Error Target} :
    items.mapM function = .ok results ↔
      List.Forall₂ (fun item result => function item = .ok result) items results := by
  induction items generalizing results with
  | nil =>
      rw [List.forall₂_nil_left_iff]
      exact ⟨fun same => (Except.ok.inj same).symm, fun same => by rw [same]; rfl⟩
  | cons item items induction =>
      rw [List.mapM_cons, List.forall₂_cons_left_iff]
      cases function item with
      | error error => exact ⟨nofun, fun ⟨_, _, first, _⟩ => nomatch first⟩
      | ok head =>
          cases mapped : items.mapM function with
          | error error =>
              refine ⟨fun same => ?_, ?_⟩
              · cases same
              · rintro ⟨_, tail, _, tails, _⟩
                cases mapped.symm.trans (induction.mpr tails)
          | ok tail =>
              have tails := induction.mp mapped
              constructor
              · intro same
                exact ⟨head, tail, rfl, tails, (Except.ok.inj same).symm⟩
              · rintro ⟨_, others, first, rest, rfl⟩
                obtain rfl := Except.ok.inj first
                have same := mapped.symm.trans (induction.mpr rest)
                obtain rfl := Except.ok.inj same
                rfl

theorem forall₂_right {related : Source → Target → Prop}
    (all : List.Forall₂ related items results) {result : Target} (member : result ∈ results) :
    ∃ item ∈ items, related item result := by
  induction all with
  | nil => cases member
  | cons first _ induction =>
      rcases List.mem_cons.mp member with rfl | later
      · exact ⟨_, List.mem_cons_self, first⟩
      · obtain ⟨item, isItem, relates⟩ := induction later
        exact ⟨item, List.mem_cons_of_mem _ isItem, relates⟩

theorem forall₂_left {related : Source → Target → Prop}
    (all : List.Forall₂ related items results) {item : Source} (member : item ∈ items) :
    ∃ result ∈ results, related item result :=
  forall₂_right all.flip member

/-- A relation may be replaced by one it implies for members. -/
theorem forall₂_imp_of_mem {related better : Source → Target → Prop}
    (all : List.Forall₂ related items results)
    (implied : ∀ item ∈ items, ∀ result ∈ results, related item result → better item result) :
    List.Forall₂ better items results := by
  induction all with
  | nil => exact .nil
  | cons first _ induction =>
      refine .cons (implied _ List.mem_cons_self _ List.mem_cons_self first) (induction ?_)
      exact fun item isItem result isResult =>
        implied item (List.mem_cons_of_mem _ isItem) result (List.mem_cons_of_mem _ isResult)

/-- Lists that are related one by one to the same list are related. -/
theorem forall₂_comp {left : Source → Target → Prop} {right : Target → Result → Prop}
    {both : Source → Result → Prop} {finals : List Result}
    (first : List.Forall₂ left items results) (second : List.Forall₂ right results finals)
    (together : ∀ item result final, left item result → right result final → both item final) :
    List.Forall₂ both items finals := by
  induction first generalizing finals with
  | nil =>
      cases second
      exact .nil
  | cons head _ induction =>
      cases second with
      | cons next rest => exact .cons (together _ _ _ head next) (induction rest)

theorem mem_of_map_m (mapped : items.mapM function = some results) {result : Target}
    (member : result ∈ results) : ∃ item ∈ items, function item = some result :=
  forall₂_right (map_m_some_iff.mp mapped) member

theorem map_m_of_mem (mapped : items.mapM function = some results) {item : Source}
    (member : item ∈ items) : ∃ result ∈ results, function item = some result :=
  forall₂_left (map_m_some_iff.mp mapped) member

theorem map_m_is_some :
    (items.mapM function).isSome = true ↔ ∀ item ∈ items, (function item).isSome = true := by
  induction items with
  | nil => exact iff_of_true rfl (by simp)
  | cons item items induction =>
      rw [map_m_cons, List.forall_mem_cons, ← induction]
      cases function item with
      | none => simp
      | some head => simp

/-- A total function after the partial one. -/
theorem map_m_map (after : Target → Result) :
    (items.mapM function).map (List.map after) =
      items.mapM fun item => (function item).map after := by
  induction items with
  | nil => rfl
  | cons item items induction =>
      rw [map_m_cons, map_m_cons, ← induction]
      cases function item with
      | none => rfl
      | some head => cases items.mapM function <;> rfl

/-- Permuted lists are both mapped, to permuted results, or neither. -/
theorem map_m_perm (function : Source → Option Target) (permuted : items.Perm others) :
    Option.Rel List.Perm (items.mapM function) (others.mapM function) := by
  induction permuted with
  | nil => exact .some .nil
  | @cons item before after _ induction =>
      rw [map_m_cons, map_m_cons]
      generalize before.mapM function = mappedBefore at induction ⊢
      generalize after.mapM function = mappedAfter at induction ⊢
      cases function item with
      | none => exact .none
      | some head =>
          cases induction with
          | none => exact .none
          | some tails => exact .some (tails.cons head)
  | swap first second items =>
      simp only [map_m_cons]
      cases function first <;> cases function second <;> cases items.mapM function
      case some.some.some => exact .some (.swap _ _ _)
      all_goals exact .none
  | @trans first middle last _ _ left right =>
      generalize first.mapM function = mappedFirst at left ⊢
      generalize middle.mapM function = mappedMiddle at left right
      generalize last.mapM function = mappedLast at right ⊢
      cases left with
      | none => exact right
      | some leftPerm =>
          cases right with
          | some rightPerm => exact .some (leftPerm.trans rightPerm)

end CommitmentOptimizer.Foundations.PartialLists
