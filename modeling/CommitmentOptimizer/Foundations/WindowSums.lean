import Mathlib.Algebra.Order.BigOperators.Group.List
import Mathlib.Algebra.Order.Monoid.Defs
import Mathlib.Order.Defs.LinearOrder

/-!
# Sums over the rows of a window

Rows have a period and a cost. A window holds the rows that lie in it; compared are the
rows that start in it, of which each belongs to one window only.
-/

namespace CommitmentOptimizer.Foundations.WindowSums

set_option autoImplicit false

section Sums

variable {Row Cost : Type} [AddCommMonoid Cost] (cost : Row → Cost)

def sumOf (keep : Row → Bool) (rows : List Row) : Cost := ((rows.filter keep).map cost).sum

variable {cost}

theorem sum_of_cons (keep : Row → Bool) (row : Row) (rest : List Row) :
    sumOf cost keep (row :: rest) = (if keep row then cost row else 0) + sumOf cost keep rest := by
  rw [sumOf, List.filter_cons]
  split_ifs
  · rw [List.map_cons, List.sum_cons]
    rfl
  · rw [zero_add]
    rfl

theorem sum_of_filter (keep chosen : Row → Bool) (rows : List Row) :
    sumOf cost keep (rows.filter chosen) = sumOf cost (fun row => keep row && chosen row) rows := by
  rw [sumOf, sumOf, List.filter_filter]

/-- A sum over rows of which each is in one of two parts. -/
theorem sum_of_parts {keep left right : Row → Bool} {rows : List Row}
    (parts : ∀ row ∈ rows, keep row = (left row || right row) ∧ (left row && right row) = false) :
    sumOf cost keep rows = sumOf cost left rows + sumOf cost right rows := by
  induction rows with
  | nil => exact (add_zero _).symm
  | cons row rest induction =>
      obtain ⟨⟨either, apart⟩, others⟩ := List.forall_mem_cons.mp parts
      rw [sum_of_cons, sum_of_cons, sum_of_cons, induction others, either, add_add_add_comm]
      congr 1
      cases inLeft : left row <;> cases inRight : right row <;> simp [inLeft, inRight] at apart ⊢

variable [PartialOrder Cost] [IsOrderedAddMonoid Cost]

/-- Costs that are not negative add up to zero where they are all zero. -/
theorem sum_of_zero_iff {keep : Row → Bool} {rows : List Row}
    (nonneg : ∀ row ∈ rows, 0 ≤ cost row) :
    sumOf cost keep rows = 0 ↔ ∀ row ∈ rows, keep row = true → cost row = 0 := by
  induction rows with
  | nil => exact iff_of_true rfl nofun
  | cons row rest induction =>
      obtain ⟨first, others⟩ := List.forall_mem_cons.mp nonneg
      have later : 0 ≤ sumOf cost keep rest := by
        refine List.sum_nonneg fun value member => ?_
        obtain ⟨other, kept, rfl⟩ := List.mem_map.mp member
        exact others other (List.mem_filter.mp kept).1
      rw [sum_of_cons, List.forall_mem_cons, ← induction others]
      by_cases kept : keep row = true
      · rw [if_pos kept, add_eq_zero_iff_of_nonneg first later]
        simp [kept]
      · rw [if_neg kept, zero_add]
        simp [kept]

end Sums

section Windows

variable {Row Time : Type} [LinearOrder Time] (starts ends : Row → Time)

/-- The row starts in the window, whose end is not part of it. -/
def startsIn (low high : Time) (row : Row) : Bool := low ≤ starts row && starts row < high

/-- The row starts and ends in the window. -/
def liesIn (low high : Time) (row : Row) : Bool := low ≤ starts row && ends row ≤ high

/-- The row starts before the moment and ends after it. -/
def crosses (moment : Time) (row : Row) : Bool := starts row < moment && moment < ends row

variable {starts ends} {Cost : Type} [AddCommMonoid Cost] {cost : Row → Cost} {rows : List Row}
  {low middle high : Time}

/-- What starts in a window lies in it or crosses its end. -/
theorem started_sum (period : ∀ row ∈ rows, starts row < ends row) :
    sumOf cost (startsIn starts low high) rows =
      sumOf cost (liesIn starts ends low high) rows +
        sumOf cost (fun row => low ≤ starts row && crosses starts ends high row) rows := by
  apply sum_of_parts
  intro row member
  have before := period row member
  simp only [startsIn, liesIn, crosses]
  constructor
  · by_cases inside : ends row ≤ high
    · have started : starts row < high := before.trans_le inside
      simp [inside, started]
    · simp [inside, not_le.mp inside]
  · by_cases inside : ends row ≤ high
    · simp [inside, not_lt.mpr inside]
    · simp [inside]

/-- What lies in the union of two adjacent windows lies in one of them or crosses the
moment between them. -/
theorem lying_union (first : low ≤ middle) (second : middle ≤ high)
    (period : ∀ row ∈ rows, starts row < ends row) :
    sumOf cost (liesIn starts ends low high) rows =
      sumOf cost (liesIn starts ends low middle) rows +
        sumOf cost (liesIn starts ends middle high) rows +
          sumOf cost (fun row => liesIn starts ends low high row && crosses starts ends middle row)
            rows := by
  have halves : sumOf cost (fun row => liesIn starts ends low middle row ||
      liesIn starts ends middle high row) rows =
        sumOf cost (liesIn starts ends low middle) rows +
          sumOf cost (liesIn starts ends middle high) rows := by
    refine sum_of_parts fun row member => ⟨rfl, ?_⟩
    have before := period row member
    simp only [liesIn]
    by_cases inside : ends row ≤ middle
    · simp [not_le.mpr (before.trans_le inside)]
    · simp [inside]
  rw [← halves]
  apply sum_of_parts
  intro row member
  have before := period row member
  simp only [liesIn, crosses]
  rcases lt_or_ge (starts row) middle with earlier | later
  · by_cases inside : ends row ≤ middle
    · simp [earlier, inside, not_lt.mpr inside, inside.trans second, not_le.mpr earlier]
    · simp [earlier, inside, not_le.mp inside, not_le.mpr earlier]
  · have outside : ¬ ends row ≤ middle := not_le.mpr (later.trans_lt before)
    simp [later, outside, not_lt.mpr later, first.trans later]

variable [PartialOrder Cost] [IsOrderedAddMonoid Cost] [IsLeftCancelAdd Cost]

/-- The rows that lie in a window cost what starts in it, unless a row that costs something
crosses its end. -/
theorem lying_sum_iff (period : ∀ row ∈ rows, starts row < ends row)
    (nonneg : ∀ row ∈ rows, 0 ≤ cost row) :
    sumOf cost (liesIn starts ends low high) rows = sumOf cost (startsIn starts low high) rows ↔
      ∀ row ∈ rows, low ≤ starts row → crosses starts ends high row = true → cost row = 0 := by
  rw [started_sum period, eq_comm, add_eq_left, sum_of_zero_iff nonneg]
  simp only [Bool.and_eq_true, decide_eq_true_eq, and_imp]

/-- Two adjacent windows cost what their union costs, unless a row that costs something
crosses the moment between them. -/
theorem adjacent_sum_iff (first : low ≤ middle) (second : middle ≤ high)
    (period : ∀ row ∈ rows, starts row < ends row) (nonneg : ∀ row ∈ rows, 0 ≤ cost row) :
    sumOf cost (liesIn starts ends low middle) rows +
        sumOf cost (liesIn starts ends middle high) rows =
          sumOf cost (liesIn starts ends low high) rows ↔
      ∀ row ∈ rows, liesIn starts ends low high row = true →
        crosses starts ends middle row = true → cost row = 0 := by
  rw [lying_union first second period, eq_comm, add_eq_left, sum_of_zero_iff nonneg]
  simp only [Bool.and_eq_true, and_imp]

end Windows

end CommitmentOptimizer.Foundations.WindowSums
