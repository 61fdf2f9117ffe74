import Mathlib.Data.List.GetD
import Mathlib.Data.List.Sort
import Mathlib.Order.Bounds.Basic

/-!
# Nearest-rank percentiles

The value of a sorted list that a percentage of its values does not exceed.
-/

namespace CommitmentOptimizer.Foundations.NearestRank

set_option autoImplicit false

variable {Value : Type} [LinearOrder Value]

section Ranks

/-- The position of the nearest rank among `count` values, from zero. -/
def rankIndex (percent count : Nat) : Nat := (percent * count + 99) / 100 - 1

theorem rank_index_inside {percent count : Nat} (atMost : percent ≤ 100) (positive : 0 < count) :
    rankIndex percent count < count := by
  have bound : percent * count ≤ 100 * count := Nat.mul_le_mul_right _ atMost
  unfold rankIndex
  omega

/-- The rank counts the values that make up the percentage. -/
theorem rank_index_lt_iff {percent count reached : Nat} (positive : 0 < percent * count) :
    rankIndex percent count < reached ↔ percent * count ≤ 100 * reached := by
  unfold rankIndex
  omega

theorem rank_index_mono {less more count : Nat} (order : less ≤ more) :
    rankIndex less count ≤ rankIndex more count := by
  have scaled : less * count ≤ more * count := Nat.mul_le_mul_right _ order
  unfold rankIndex
  omega

end Ranks

section Sorted

variable {values : List Value}

theorem sorted_get_le (sorted : values.Pairwise (· ≤ ·)) {earlier later : Nat}
    (inside : earlier < values.length) (laterInside : later < values.length)
    (order : earlier ≤ later) : values[earlier] ≤ values[later] := by
  rcases Nat.lt_or_eq_of_le order with before | same
  · exact List.pairwise_iff_getElem.mp sorted earlier later inside laterInside before
  · subst same
    exact le_refl _

/-- The values up to a bound are the first ones. -/
theorem sorted_get_le_iff (sorted : values.Pairwise (· ≤ ·)) {index : Nat}
    (inside : index < values.length) (bound : Value) :
    values[index] ≤ bound ↔ index < values.countP (· ≤ bound) := by
  induction values generalizing index with
  | nil => exact absurd inside (Nat.not_lt_zero index)
  | cons first rest induction =>
      obtain ⟨least, sortedRest⟩ := List.pairwise_cons.mp sorted
      by_cases small : first ≤ bound
      · rw [List.countP_cons_of_pos (by simpa using small)]
        cases index with
        | zero => exact iff_of_true small (Nat.succ_pos _)
        | succ index =>
            rw [List.getElem_cons_succ, induction sortedRest (by simpa using inside)]
            exact Nat.succ_lt_succ_iff.symm
      · have none : (first :: rest).countP (· ≤ bound) = 0 := by
          rw [List.countP_eq_zero]
          intro value member
          have reached : first ≤ value := by
            rcases List.mem_cons.mp member with rfl | later
            · exact le_refl _
            · exact least value later
          simpa using lt_of_lt_of_le (not_le.mp small) reached
        rw [none]
        refine iff_of_false (fun below => small ?_) (Nat.not_lt_zero index)
        exact le_trans (sorted_get_le sorted (Nat.lt_of_le_of_lt (Nat.zero_le _) inside) inside
          (Nat.zero_le index)) below

end Sorted

section Percentiles

/-- The value at the rank, and the fallback of an empty list. -/
def nearestRank (values : List Value) (percent : Nat) (fallback : Value) : Value :=
  values.getD (rankIndex percent values.length) fallback

variable {values : List Value} {percent : Nat} {fallback : Value}

omit [LinearOrder Value] in
theorem nearest_rank_get (nonempty : values ≠ []) (atMost : percent ≤ 100) :
    nearestRank values percent fallback = values.get ⟨rankIndex percent values.length,
      rank_index_inside atMost (List.length_pos_of_ne_nil nonempty)⟩ :=
  List.getD_eq_getElem _ _ (rank_index_inside atMost (List.length_pos_of_ne_nil nonempty))

omit [LinearOrder Value] in
theorem nearest_rank_mem (nonempty : values ≠ []) (atMost : percent ≤ 100) :
    nearestRank values percent fallback ∈ values := by
  rw [nearest_rank_get nonempty atMost]
  exact List.get_mem _ _

/-- A percentile is within a bound when the percentage of the values is. -/
theorem nearest_rank_le_iff (sorted : values.Pairwise (· ≤ ·)) (nonempty : values ≠ [])
    (positive : 0 < percent) (atMost : percent ≤ 100) (bound : Value) :
    nearestRank values percent fallback ≤ bound ↔
      percent * values.length ≤ 100 * values.countP (· ≤ bound) := by
  rw [nearest_rank_get nonempty atMost, List.get_eq_getElem, sorted_get_le_iff sorted]
  exact rank_index_lt_iff (Nat.mul_pos positive (List.length_pos_of_ne_nil nonempty))

/-- A percentile is the least value that the percentage of the values does not exceed. -/
theorem nearest_rank_least (sorted : values.Pairwise (· ≤ ·)) (nonempty : values ≠ [])
    (positive : 0 < percent) (atMost : percent ≤ 100) :
    IsLeast {value | value ∈ values ∧ percent * values.length ≤ 100 * values.countP (· ≤ value)}
      (nearestRank values percent fallback) := by
  have within := fun bound : Value =>
    @nearest_rank_le_iff _ _ values percent fallback sorted nonempty positive atMost bound
  constructor
  · exact ⟨nearest_rank_mem nonempty atMost, (within _).mp (le_refl _)⟩
  · rintro value ⟨_, reached⟩
    exact (within value).mpr reached

theorem nearest_rank_mono_percent (sorted : values.Pairwise (· ≤ ·)) (nonempty : values ≠ [])
    {less more : Nat} (order : less ≤ more) (atMost : more ≤ 100) :
    nearestRank values less fallback ≤ nearestRank values more fallback := by
  rw [nearest_rank_get nonempty atMost, nearest_rank_get nonempty (le_trans order atMost)]
  exact sorted_get_le sorted _ _ (rank_index_mono order)

omit [LinearOrder Value] in
theorem nearest_rank_map {Image : Type} (image : Value → Image) :
    nearestRank (values.map image) percent (image fallback) =
      image (nearestRank values percent fallback) := by
  rw [nearestRank, nearestRank, List.length_map, List.getD_map]

/-- A percentile of larger values is larger, however each list is sorted. -/
theorem nearest_rank_mono {Item : Type} {items : List Item} {less more : Item → Value}
    {lessSorted moreSorted : List Value} (below : ∀ item ∈ items, less item ≤ more item)
    (lessPerm : lessSorted.Perm (items.map less)) (morePerm : moreSorted.Perm (items.map more))
    (sorted : lessSorted.Pairwise (· ≤ ·)) (sortedMore : moreSorted.Pairwise (· ≤ ·))
    (nonempty : items ≠ []) (positive : 0 < percent) (atMost : percent ≤ 100) :
    nearestRank lessSorted percent fallback ≤ nearestRank moreSorted percent fallback := by
  have someLess : lessSorted ≠ [] := by
    rintro rfl
    exact nonempty (List.map_eq_nil_iff.mp (List.nil_perm.mp lessPerm))
  have someMore : moreSorted ≠ [] := by
    rintro rfl
    exact nonempty (List.map_eq_nil_iff.mp (List.nil_perm.mp morePerm))
  obtain ⟨⟨_, reached⟩, _⟩ :=
    @nearest_rank_least _ _ moreSorted percent fallback sortedMore someMore positive atMost
  rw [nearest_rank_le_iff sorted someLess positive atMost]
  generalize nearestRank moreSorted percent fallback = bound at reached ⊢
  rw [lessPerm.length_eq, lessPerm.countP_eq, List.length_map, List.countP_map]
  rw [morePerm.length_eq, morePerm.countP_eq, List.length_map, List.countP_map] at reached
  have more : items.countP ((fun value => decide (value ≤ bound)) ∘ more) ≤
      items.countP ((fun value => decide (value ≤ bound)) ∘ less) := by
    apply List.countP_mono_left
    intro item member within
    simp only [Function.comp_apply, decide_eq_true_eq] at within ⊢
    exact le_trans (below item member) within
  omega

end Percentiles

end CommitmentOptimizer.Foundations.NearestRank
