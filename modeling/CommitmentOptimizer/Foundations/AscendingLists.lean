import Mathlib.Data.List.Sort
import Mathlib.Data.List.Perm.Basic
import Mathlib.Order.Defs.LinearOrder

/-!
# Lists in ascending order of a number

Rows that are numbered strictly upwards. A choice of rows that leaves none out below one it
takes is a beginning of the list.
-/

namespace CommitmentOptimizer.Foundations.AscendingLists

set_option autoImplicit false

variable {Row Number : Type} [LinearOrder Number]

/-- Every row has a smaller number than the rows after it. -/
def Ascending (number : Row → Number) (rows : List Row) : Prop :=
  rows.Pairwise fun earlier later => number earlier < number later

variable {number : Row → Number} {rows others : List Row}

theorem ascending_cons {row : Row} :
    Ascending number (row :: rows) ↔
      (∀ later ∈ rows, number row < number later) ∧ Ascending number rows :=
  List.pairwise_cons

/-- Among sorted rows it is enough that neighbours differ. -/
theorem ascending_of_neighbours
    (sorted : rows.Pairwise fun earlier later => number earlier ≤ number later)
    (differ : rows.IsChain fun earlier later => number earlier ≠ number later) :
    Ascending number rows := by
  induction rows with
  | nil => exact List.Pairwise.nil
  | cons row rows induction =>
      obtain ⟨least, rest⟩ := List.pairwise_cons.mp sorted
      cases rows with
      | nil => exact List.pairwise_singleton _ _
      | cons next onward =>
          obtain ⟨unlike, differs⟩ := List.isChain_cons_cons.mp differ
          have first : number row < number next :=
            lt_of_le_of_ne (least next List.mem_cons_self) unlike
          refine ascending_cons.mpr ⟨fun later member => ?_, induction rest differs⟩
          rcases List.mem_cons.mp member with rfl | after
          · exact first
          · exact lt_of_lt_of_le first ((List.pairwise_cons.mp rest).1 later after)

theorem ascending_nodup (ascending : Ascending number rows) : rows.Nodup := by
  apply List.Pairwise.imp _ ascending
  intro earlier later less same
  rw [same] at less
  exact lt_irrefl _ less

/-- A row is given by its number. -/
theorem ascending_injective (ascending : Ascending number rows) {left right : Row}
    (leftMember : left ∈ rows) (rightMember : right ∈ rows) (same : number left = number right) :
    left = right := by
  induction rows with
  | nil => cases leftMember
  | cons row rows induction =>
      obtain ⟨least, rest⟩ := ascending_cons.mp ascending
      rcases List.mem_cons.mp leftMember with rfl | isLeft
      · rcases List.mem_cons.mp rightMember with rfl | isRight
        · rfl
        · exact absurd same (ne_of_lt (least right isRight))
      · rcases List.mem_cons.mp rightMember with rfl | isRight
        · exact absurd same.symm (ne_of_lt (least left isLeft))
        · exact induction rest isLeft isRight

/-- Ascending lists of the same rows are equal. -/
theorem ascending_eq_of_perm (ascending : Ascending number rows)
    (alsoAscending : Ascending number others) (same : rows.Perm others) : rows = others := by
  refine List.Perm.eq_of_pairwise (fun left right _ _ less greater => ?_) ascending alsoAscending
    same
  exact absurd (lt_trans less greater) (lt_irrefl _)

/-- Sorting the rows of an ascending list gives that list. -/
theorem sorted_eq_of_perm (ascending : Ascending number rows)
    (sorted : others.Pairwise fun earlier later => number earlier ≤ number later)
    (same : others.Perm rows) : others = rows := by
  have differ : rows.Pairwise fun earlier later => number earlier ≠ number later :=
    List.Pairwise.imp ne_of_lt ascending
  have alsoDiffer : others.Pairwise fun earlier later => number earlier ≠ number later :=
    (same.pairwise_iff fun unlike => unlike.symm).mpr differ
  exact ascending_eq_of_perm (ascending_of_neighbours sorted alsoDiffer.isChain) ascending same

theorem ascending_take (ascending : Ascending number rows) (count : Nat) :
    Ascending number (rows.take count) :=
  List.Pairwise.sublist (List.take_sublist count rows) ascending

/-- A row below one of a beginning belongs to the beginning. -/
theorem mem_take_of_less (ascending : Ascending number rows) {count : Nat} {row chosen : Row}
    (isChosen : chosen ∈ rows.take count) (member : row ∈ rows)
    (less : number row < number chosen) : row ∈ rows.take count := by
  rw [← List.take_append_drop count rows] at ascending member
  rcases List.mem_append.mp member with kept | dropped
  · exact kept
  · have above := (List.pairwise_append.mp ascending).2.2 chosen isChosen row dropped
    exact absurd (lt_trans less above) (lt_irrefl _)

/-- A choice that is closed downwards takes a beginning. -/
theorem filter_is_take (ascending : Ascending number rows) {keep : Row → Bool}
    (closed : ∀ chosen ∈ rows, keep chosen = true → ∀ row ∈ rows, number row < number chosen →
      keep row = true) :
    ∃ count, rows.filter keep = rows.take count := by
  induction rows with
  | nil => exact ⟨0, rfl⟩
  | cons row rows induction =>
      obtain ⟨least, rest⟩ := ascending_cons.mp ascending
      by_cases kept : keep row = true
      · obtain ⟨count, beginning⟩ := induction rest fun chosen isChosen kept other isOther =>
          closed chosen (List.mem_cons_of_mem _ isChosen) kept other
            (List.mem_cons_of_mem _ isOther)
        refine ⟨count + 1, ?_⟩
        rw [List.filter_cons, if_pos kept, beginning, List.take_succ_cons]
      · refine ⟨0, ?_⟩
        rw [List.take_zero, List.filter_eq_nil_iff]
        intro chosen isChosen keeps
        rcases List.mem_cons.mp isChosen with rfl | later
        · exact kept keeps
        · exact kept (closed chosen isChosen keeps row List.mem_cons_self (least chosen later))

section Sorting

variable {before : Row → Row → Prop} [DecidableRel before]

/-- Sorting by a number first and by anything else among equal numbers. -/
theorem sorted_by_number
    (less : ∀ left right, number left < number right → before left right)
    (greater : ∀ left right, number right < number left → ¬ before left right)
    (rows : List Row) :
    (rows.insertionSort before).Pairwise fun earlier later => number earlier ≤ number later := by
  have inserts : ∀ (row : Row) (sorted : List Row),
      sorted.Pairwise (fun earlier later => number earlier ≤ number later) →
      (sorted.orderedInsert before row).Pairwise
        fun earlier later => number earlier ≤ number later := by
    intro row sorted pairwise
    induction sorted with
    | nil => exact List.pairwise_singleton _ _
    | cons first rest induction =>
        obtain ⟨least, onward⟩ := List.pairwise_cons.mp pairwise
        rw [List.orderedInsert_cons]
        split_ifs with placed
        · have bounded : number row ≤ number first :=
            not_lt.mp fun above => greater row first above placed
          refine List.pairwise_cons.mpr ⟨fun later member => ?_, pairwise⟩
          rcases List.mem_cons.mp member with rfl | member
          · exact bounded
          · exact le_trans bounded (least later member)
        · have bounded : number first ≤ number row :=
            not_lt.mp fun below => placed (less row first below)
          refine List.pairwise_cons.mpr ⟨fun later member => ?_, induction onward⟩
          rcases List.mem_cons.mp ((List.perm_orderedInsert before row rest).mem_iff.mp member)
            with rfl | member
          · exact bounded
          · exact least later member
  induction rows with
  | nil => exact List.Pairwise.nil
  | cons row rows induction => exact inserts row _ induction

end Sorting

end CommitmentOptimizer.Foundations.AscendingLists
