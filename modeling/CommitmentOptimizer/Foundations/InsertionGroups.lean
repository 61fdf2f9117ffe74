import Mathlib.Data.List.Induction
import Mathlib.Data.List.Nodup
import Mathlib.Tactic.SplitIfs

/-!
# Groups in the order of their first rows

A map that keeps its keys in the order of insertion, filled with the rows of each
key.
-/

namespace CommitmentOptimizer.Foundations.InsertionGroups

set_option autoImplicit false

variable {Key Row : Type} [DecidableEq Key] (key : Row → Key)

/-- `groups.set(key(row), [...(groups.get(key(row)) ?? []), row])`. -/
def addRow : List (Key × List Row) → Row → List (Key × List Row)
  | [], row => [(key row, [row])]
  | (own, history) :: rest, row =>
      if own = key row then (own, history ++ [row]) :: rest
      else (own, history) :: addRow rest row

def groupRows (rows : List Row) : List (Key × List Row) := rows.foldl (addRow key) []

theorem add_row_keys (groups : List (Key × List Row)) (row : Row) :
    (addRow key groups row).map Prod.fst =
      if key row ∈ groups.map Prod.fst then groups.map Prod.fst
      else groups.map Prod.fst ++ [key row] := by
  induction groups with
  | nil => rfl
  | cons group rest induction =>
      obtain ⟨own, history⟩ := group
      rw [addRow]
      by_cases same : own = key row
      · rw [if_pos same, if_pos (by simp [same])]
        rfl
      · have listed : key row ∈ ((own, history) :: rest).map Prod.fst ↔
            key row ∈ rest.map Prod.fst := by
          simp [Ne.symm same]
        rw [if_neg same, List.map_cons, induction]
        by_cases later : key row ∈ rest.map Prod.fst
        · rw [if_pos later, if_pos (listed.mpr later)]
          rfl
        · rw [if_neg later, if_neg (later ∘ listed.mp)]
          rfl

theorem group_keys_nodup (rows : List Row) : ((groupRows key rows).map Prod.fst).Nodup := by
  induction rows using List.reverseRecOn with
  | nil => exact List.nodup_nil
  | append_singleton rows row induction =>
      rw [groupRows, List.foldl_append, List.foldl_cons, List.foldl_nil, ← groupRows, add_row_keys]
      split_ifs with listed
      · exact induction
      · exact induction.append (List.nodup_singleton _) (by simpa using listed)

theorem mem_add_row {groups : List (Key × List Row)} {row : Row} {wanted : Key}
    {history : List Row} (nodup : (groups.map Prod.fst).Nodup) :
    (wanted, history) ∈ addRow key groups row ↔
      if wanted = key row then
        (∃ earlier, (wanted, earlier) ∈ groups ∧ history = earlier ++ [row]) ∨
          (wanted ∉ groups.map Prod.fst ∧ history = [row])
      else (wanted, history) ∈ groups := by
  induction groups with
  | nil =>
      by_cases same : wanted = key row <;> simp [addRow, same]
  | cons group rest induction =>
      obtain ⟨own, first⟩ := group
      rw [List.map_cons, List.nodup_cons] at nodup
      obtain ⟨single, restNodup⟩ := nodup
      have absent : ∀ other, (own, other) ∉ rest := fun other member =>
        single (List.mem_map.mpr ⟨_, member, rfl⟩)
      rw [addRow]
      by_cases same : own = key row
      · subst same
        rw [if_pos rfl]
        by_cases wantedSame : wanted = key row
        · subst wantedSame
          simp [absent]
        · simp [wantedSame]
      · rw [if_neg same, List.mem_cons, induction restNodup]
        by_cases wantedSame : wanted = key row
        · subst wantedSame
          simp [Ne.symm same]
        · simp [wantedSame]

/-- Each key that rows have is held once, with its rows in their order. -/
theorem mem_group_rows {rows : List Row} {wanted : Key} {history : List Row} :
    (wanted, history) ∈ groupRows key rows ↔
      history = rows.filter (fun row => key row = wanted) ∧ history ≠ [] := by
  induction rows using List.reverseRecOn generalizing history with
  | nil =>
      simp only [groupRows, List.foldl_nil, List.not_mem_nil, List.filter_nil, false_iff, not_and,
        not_not, imp_self]
  | append_singleton rows row induction =>
      have held : wanted ∈ (groupRows key rows).map Prod.fst ↔
          rows.filter (fun row => key row = wanted) ≠ [] := by
        rw [List.mem_map]
        constructor
        · rintro ⟨⟨_, earlier⟩, member, rfl⟩
          obtain ⟨isEarlier, nonempty⟩ := induction.mp member
          rwa [← isEarlier]
        · intro nonempty
          exact ⟨(wanted, _), induction.mpr ⟨rfl, nonempty⟩, rfl⟩
      have added : groupRows key (rows ++ [row]) = addRow key (groupRows key rows) row := by
        rw [groupRows, List.foldl_append, List.foldl_cons, List.foldl_nil, ← groupRows]
      rw [added, mem_add_row key (group_keys_nodup key rows), List.filter_append]
      by_cases own : wanted = key row
      · have kept : [row].filter (fun row => key row = wanted) = [row] := by simp [own]
        rw [if_pos own, held, kept]
        constructor
        · rintro (⟨earlier, member, rfl⟩ | ⟨absent, rfl⟩)
          · rw [(induction.mp member).1]
            exact ⟨rfl, by simp⟩
          · rw [not_not] at absent
            rw [absent]
            exact ⟨rfl, by simp⟩
        · rintro ⟨rfl, _⟩
          by_cases empty : rows.filter (fun row => key row = wanted) = []
          · exact Or.inr ⟨by rw [not_not]; exact empty, by rw [empty]; rfl⟩
          · exact Or.inl ⟨_, induction.mpr ⟨rfl, empty⟩, rfl⟩
      · have dropped : [row].filter (fun row => key row = wanted) = [] := by simp [Ne.symm own]
        rw [if_neg own, induction, dropped, List.append_nil]

end CommitmentOptimizer.Foundations.InsertionGroups
