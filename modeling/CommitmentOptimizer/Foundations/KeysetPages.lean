import Mathlib.Data.List.Sort
import Mathlib.Order.WithBot
import Mathlib.Order.WellFounded

/-!
# Keyset pagination

Pages of rows in decreasing order of a key. A walk remembers only the last key it has
returned; what it returns is complete and free of repetitions although the rows change
between two pages.
-/

namespace CommitmentOptimizer.Foundations.KeysetPages

set_option autoImplicit false

/-- Where a walk is: before the first page, behind a key, or past the last page. -/
abbrev Boundary (Key : Type) := WithBot (WithTop Key)

def behind {Key : Type} (key : Key) : Boundary Key := ((key : WithTop Key) : WithBot (WithTop Key))

section Pages

variable {Row Key : Type} [LinearOrder Key] {key : Row → Key} {boundary : Boundary Key}
  {limit : Nat} {rows returned : List Row} {row : Row}

theorem behind_lt_behind {left right : Key} : behind left < behind right ↔ left < right := by
  rw [behind, behind, WithBot.coe_lt_coe, WithTop.coe_lt_coe]

theorem behind_le_behind {left right : Key} : behind left ≤ behind right ↔ left ≤ right := by
  rw [behind, behind, WithBot.coe_le_coe, WithTop.coe_le_coe]

/-- The rows that are still to come. -/
def remaining (key : Row → Key) (boundary : Boundary Key) (rows : List Row) : List Row :=
  (rows.filter fun row => decide (behind (key row) < boundary)).insertionSort
    fun first second => key second ≤ key first

/-- A page, with one more row that tells whether there is another page. -/
def page (key : Row → Key) (boundary : Boundary Key) (limit : Nat) (rows : List Row) : List Row :=
  (remaining key boundary rows).take (limit + 1)

def nextBoundary (key : Row → Key) (limit : Nat) (page : List Row) : Boundary Key :=
  if limit < page.length then ((page.take limit).getLast?.map fun row => behind (key row)).getD ⊥
  else ⊥

theorem mem_remaining :
    row ∈ remaining key boundary rows ↔ row ∈ rows ∧ behind (key row) < boundary := by
  rw [remaining, List.mem_insertionSort, List.mem_filter, decide_eq_true_iff]

theorem remaining_decreasing (distinct : (rows.map key).Nodup) :
    (remaining key boundary rows).Pairwise fun first second => key second < key first := by
  have total : Std.Total fun first second : Row => key second ≤ key first :=
    ⟨fun first second => le_total (key second) (key first)⟩
  have transitive : IsTrans Row fun first second => key second ≤ key first :=
    ⟨fun _ _ _ left right => le_trans right left⟩
  have sorted : (remaining key boundary rows).Pairwise fun first second =>
      key second ≤ key first :=
    List.pairwise_insertionSort _ _
  have different : (remaining key boundary rows).Pairwise fun first second =>
      key first ≠ key second := by
    have kept : ((rows.filter fun row => decide (behind (key row) < boundary)).map key).Nodup :=
      (List.filter_sublist.map key).nodup distinct
    have permuted := (List.perm_insertionSort (fun first second => key second ≤ key first)
      (rows.filter fun row => decide (behind (key row) < boundary))).map key
    exact List.pairwise_map.mp (permuted.nodup_iff.mpr kept)
  exact (sorted.and different).imp fun both => lt_of_le_of_ne both.1 both.2.symm

/-- The rows that a page returns, and those that it leaves for later. -/
theorem page_split (key : Row → Key) (boundary : Boundary Key) (limit : Nat) (rows : List Row) :
    (page key boundary limit rows).take limit ++ (remaining key boundary rows).drop limit =
      remaining key boundary rows := by
  rw [page, List.take_take, min_eq_left (Nat.le_succ limit), List.take_append_drop]

theorem page_length_le (key : Row → Key) (boundary : Boundary Key) (limit : Nat)
    (rows : List Row) : (page key boundary limit rows).length ≤ rows.length := by
  rw [page, remaining]
  exact (List.take_sublist _ _).length_le.trans
    ((List.length_insertionSort _ _).le.trans (List.length_filter_le _ _))

theorem mem_selected (member : row ∈ (page key boundary limit rows).take limit) :
    row ∈ rows ∧ behind (key row) < boundary :=
  mem_remaining.mp (List.mem_of_mem_take (List.mem_of_mem_take member))

theorem selected_decreasing (distinct : (rows.map key).Nodup) :
    ((page key boundary limit rows).take limit).Pairwise fun first second =>
      key second < key first :=
  (remaining_decreasing distinct).sublist ((List.take_sublist ..).trans (List.take_sublist ..))

omit [LinearOrder Key] in
/-- There is another page exactly behind the last row of this one. -/
theorem next_boundary_cases (key : Row → Key) (limit : Nat) (positive : 0 < limit)
    (rows : List Row) :
    (limit < rows.length ∧ ∃ earlier last, rows.take limit = earlier ++ [last] ∧
      nextBoundary key limit rows = behind (key last)) ∨
    (rows.length ≤ limit ∧ nextBoundary key limit rows = ⊥) := by
  by_cases more : limit < rows.length
  · have nonempty : rows.take limit ≠ [] := by
      intro empty
      have length := congrArg List.length empty
      rw [List.length_take, List.length_nil] at length
      omega
    obtain ⟨earlier, last, split⟩ := (List.eq_nil_or_concat' _).resolve_left nonempty
    refine Or.inl ⟨more, earlier, last, split, ?_⟩
    rw [nextBoundary, if_pos more, split, List.getLast?_concat]
    rfl
  · exact Or.inr ⟨Nat.le_of_not_lt more, if_neg more⟩

theorem next_boundary_le (distinct : (rows.map key).Nodup) (positive : 0 < limit)
    (member : row ∈ (page key boundary limit rows).take limit) :
    nextBoundary key limit (page key boundary limit rows) ≤ behind (key row) := by
  rcases next_boundary_cases key limit positive (page key boundary limit rows) with
    ⟨-, earlier, last, split, next⟩ | ⟨-, next⟩
  · rw [next, behind_le_behind]
    have decreasing := @selected_decreasing _ _ _ key boundary limit rows distinct
    rw [split] at member decreasing
    rcases List.mem_append.mp member with before | final
    · exact le_of_lt ((List.pairwise_append.mp decreasing).2.2 row before last
        List.mem_cons_self)
    · rw [List.mem_singleton.mp final]
  · rw [next]
    exact bot_le

theorem next_boundary_lt (positive : 0 < limit) (unfinished : boundary ≠ ⊥) :
    nextBoundary key limit (page key boundary limit rows) < boundary := by
  rcases next_boundary_cases key limit positive (page key boundary limit rows) with
    ⟨-, earlier, last, split, next⟩ | ⟨-, next⟩
  · rw [next]
    have member : last ∈ (page key boundary limit rows).take limit := by
      rw [split]
      exact List.mem_append_right _ List.mem_cons_self
    exact (mem_selected member).2
  · rw [next]
    exact bot_lt_iff_ne_bot.mpr unfinished

/-- A row is passed over by no page. -/
theorem passed_selected (distinct : (rows.map key).Nodup) (positive : 0 < limit)
    (stored : row ∈ rows)
    (passed : nextBoundary key limit (page key boundary limit rows) ≤ behind (key row)) :
    boundary ≤ behind (key row) ∨ row ∈ (page key boundary limit rows).take limit := by
  by_contra neither
  obtain ⟨ahead, unselected⟩ := not_or.mp neither
  have decreasing := @remaining_decreasing _ _ _ key boundary rows distinct
  rw [← page_split key boundary limit rows] at decreasing
  have left : row ∈ (remaining key boundary rows).drop limit := by
    have member := mem_remaining.mpr ⟨stored, not_le.mp ahead⟩
    rw [← page_split key boundary limit rows] at member
    exact (List.mem_append.mp member).resolve_left unselected
  rcases next_boundary_cases key limit positive (page key boundary limit rows) with
    ⟨-, earlier, last, split, next⟩ | ⟨short, -⟩
  · rw [split] at decreasing
    have below := (List.pairwise_append.mp decreasing).2.2 last
      (List.mem_append_right _ List.mem_cons_self) row left
    rw [next, behind_le_behind] at passed
    exact absurd passed (not_le.mpr below)
  · have whole : (remaining key boundary rows).length ≤ limit := by
      rw [page, List.length_take] at short
      omega
    rw [List.drop_of_length_le whole] at left
    cases left

end Pages

section Walks

variable {Row Key : Type} [LinearOrder Key] {key : Row → Key} {boundary : Boundary Key}
  {limit : Nat} {rows returned : List Row}

/-- What a walk has returned before it comes to a boundary. -/
structure Returned (key : Row → Key) (boundary : Boundary Key) (returned : List Row) : Prop where
  decreasing : returned.Pairwise fun first second => key second < key first
  passed : ∀ row ∈ returned, boundary ≤ behind (key row)

/-- A key that the walk has passed has been returned. -/
def Covered (key : Row → Key) (boundary : Boundary Key) (returned : List Row) (wanted : Key) :
    Prop :=
  boundary ≤ behind wanted → wanted ∈ returned.map key

theorem returned_nil (key : Row → Key) (boundary : Boundary Key) : Returned key boundary [] :=
  ⟨.nil, nofun⟩

theorem covered_start (wanted : Key) : Covered key ⊤ [] wanted := by
  intro passed
  exact absurd passed (not_le.mpr (lt_of_le_of_ne le_top nofun))

theorem returned_page (before : Returned key boundary returned) (distinct : (rows.map key).Nodup)
    (positive : 0 < limit) :
    Returned key (nextBoundary key limit (page key boundary limit rows))
      (returned ++ (page key boundary limit rows).take limit) := by
  constructor
  · refine List.pairwise_append.mpr ⟨before.decreasing, selected_decreasing distinct, ?_⟩
    intro old oldMember new newMember
    exact behind_lt_behind.mp
      (lt_of_lt_of_le (mem_selected newMember).2 (before.passed old oldMember))
  · intro row member
    rcases List.mem_append.mp member with old | new
    · by_cases unfinished : boundary = ⊥
      · rcases next_boundary_cases key limit positive (page key boundary limit rows) with
          ⟨-, earlier, last, split, -⟩ | ⟨-, next⟩
        · have selected : last ∈ (page key boundary limit rows).take limit := by
            rw [split]
            exact List.mem_append_right _ List.mem_cons_self
          have below := (mem_selected selected).2
          rw [unfinished] at below
          exact absurd below not_lt_bot
        · rw [next]
          exact bot_le
      · exact le_trans (le_of_lt (next_boundary_lt positive unfinished)) (before.passed row old)
    · exact next_boundary_le distinct positive new

theorem covered_page {wanted : Key} (before : Covered key boundary returned wanted)
    (distinct : (rows.map key).Nodup) (positive : 0 < limit) (stored : wanted ∈ rows.map key) :
    Covered key (nextBoundary key limit (page key boundary limit rows))
      (returned ++ (page key boundary limit rows).take limit) wanted := by
  intro passed
  obtain ⟨row, member, rfl⟩ := List.mem_map.mp stored
  rw [List.map_append, List.mem_append]
  exact (passed_selected distinct positive member passed).imp before
    fun selected => List.mem_map_of_mem selected

end Walks

section Descents

/-- A value that never rises falls only finitely often. -/
theorem finitely_many_falls {Value : Type} [PartialOrder Value] [WellFoundedLT Value]
    (value : Nat → Value) (falls : Nat → Prop) (never_rises : ∀ n, value (n + 1) ≤ value n)
    (strict : ∀ n, falls n → value (n + 1) < value n) :
    ∃ n, ∀ later, n ≤ later → ¬ falls later := by
  obtain ⟨least, ⟨n, rfl⟩, minimal⟩ :=
    wellFounded_lt.has_min (Set.range value) ⟨value 0, Set.mem_range_self 0⟩
  refine ⟨n, fun later reached falling => ?_⟩
  have below := antitone_nat_of_succ_le never_rises reached
  exact minimal (value (later + 1)) (Set.mem_range_self _)
    (lt_of_lt_of_le (strict later falling) below)

end Descents

end CommitmentOptimizer.Foundations.KeysetPages
