import Mathlib.Algebra.BigOperators.Group.List.Basic
import Mathlib.Data.List.AList
import Mathlib.Data.List.Induction
import Mathlib.Data.List.Perm.Subperm

/-!
# Rows grouped by a key

A map is filled row by row: the first row of a key starts its total, the others
are added to it. A map filled by plain assignment keeps the last row of a key.
-/

namespace CommitmentOptimizer.Foundations.GroupedRows

set_option autoImplicit false

variable {Key Row Total Entry : Type} [DecidableEq Key]

abbrev GroupMap (Key Total : Type) := AList fun _ : Key => Total

section Grouping

variable (key : Row → Key) (start : Row → Total) (add : Total → Row → Total)

def groupInto (rows : List Row) : GroupMap Key Total :=
  rows.foldl (fun groups row =>
    groups.insert (key row) (add ((groups.lookup (key row)).getD (start row)) row)) ∅

/-- The rows of one key, in order. -/
def rowsOf (wanted : Key) (rows : List Row) : List Row := rows.filter fun row => key row = wanted

/-- What the map holds for a key. -/
def totalOf (wanted : Key) (rows : List Row) : Option Total :=
  match rowsOf key wanted rows with
  | [] => none
  | first :: rest => some ((first :: rest).foldl add (start first))

theorem total_of_append_self (rows : List Row) (row : Row) :
    totalOf key start add (key row) (rows ++ [row]) =
      some (add ((totalOf key start add (key row) rows).getD (start row)) row) := by
  have own : rowsOf key (key row) (rows ++ [row]) = rowsOf key (key row) rows ++ [row] := by
    simp [rowsOf]
  rw [totalOf, totalOf, own]
  cases rowsOf key (key row) rows with
  | nil => rfl
  | cons first rest => simp

theorem total_of_append_of_ne {rows : List Row} {row : Row} {wanted : Key}
    (other : wanted ≠ key row) :
    totalOf key start add wanted (rows ++ [row]) = totalOf key start add wanted rows := by
  have same : rowsOf key wanted (rows ++ [row]) = rowsOf key wanted rows := by
    simp [rowsOf, other.symm]
  rw [totalOf, totalOf, same]

theorem lookup_group_into (rows : List Row) (wanted : Key) :
    (groupInto key start add rows).lookup wanted = totalOf key start add wanted rows := by
  induction rows using List.reverseRecOn generalizing wanted with
  | nil => rfl
  | append_singleton rows row induction =>
      rw [groupInto, List.foldl_append, List.foldl_cons, List.foldl_nil, ← groupInto]
      by_cases own : wanted = key row
      · rw [own, AList.lookup_insert, induction, total_of_append_self]
      · rw [AList.lookup_insert_ne own, induction, total_of_append_of_ne key start add own]

theorem total_of_eq_none {rows : List Row} {wanted : Key} :
    totalOf key start add wanted rows = none ↔ ∀ row ∈ rows, key row ≠ wanted := by
  have empty : rowsOf key wanted rows = [] ↔ ∀ row ∈ rows, key row ≠ wanted := by
    simp [rowsOf, List.filter_eq_nil_iff]
  rw [← empty, totalOf]
  cases rowsOf key wanted rows with
  | nil => simp
  | cons first rest => simp

end Grouping

section Assignment

variable (key : Row → Key)

/-- `new Map(rows.map((row) => [key(row), row]))`. -/
def assignInto (rows : List Row) : GroupMap Key Row := groupInto key id (fun _ row => row) rows

/-- The rows that no later row of their key follows. -/
def lastRows : List Row → List Row
  | [] => []
  | row :: rest =>
      if rest.any fun later => key later = key row then lastRows rest else row :: lastRows rest

theorem lookup_assign_into (rows : List Row) (wanted : Key) :
    (assignInto key rows).lookup wanted = (rowsOf key wanted rows).getLast? := by
  rw [assignInto, lookup_group_into, totalOf]
  cases rowsOf key wanted rows with
  | nil => rfl
  | cons first rest =>
      induction rest using List.reverseRecOn with
      | nil => rfl
      | append_singleton rest last _ => simp [List.foldl_append, List.getLast?_cons]

theorem mem_of_mem_last_rows {rows : List Row} {row : Row} (member : row ∈ lastRows key rows) :
    row ∈ rows := by
  induction rows with
  | nil => cases member
  | cons head rest induction =>
      rw [lastRows] at member
      split_ifs at member
      · exact List.mem_cons_of_mem _ (induction member)
      · rcases List.mem_cons.mp member with rfl | later
        · exact List.mem_cons_self
        · exact List.mem_cons_of_mem _ (induction later)

theorem last_rows_keys_nodup (rows : List Row) : ((lastRows key rows).map key).Nodup := by
  induction rows with
  | nil => exact List.nodup_nil
  | cons row rest induction =>
      rw [lastRows]
      split_ifs with repeated
      · exact induction
      · rw [List.map_cons, List.nodup_cons]
        refine ⟨fun member => repeated ?_, induction⟩
        obtain ⟨later, laterMember, same⟩ := List.mem_map.mp member
        exact List.any_eq_true.mpr ⟨later, mem_of_mem_last_rows key laterMember, by simp [same]⟩

/-- The last row of a key is what a map filled by assignment holds for it. -/
theorem mem_last_rows_iff {rows : List Row} {row : Row} :
    row ∈ lastRows key rows ↔ (assignInto key rows).lookup (key row) = some row := by
  rw [lookup_assign_into]
  induction rows with
  | nil => simp [lastRows, rowsOf]
  | cons head rest induction =>
      have none_iff : (rowsOf key (key head) rest).getLast? = none ↔
          ¬ (rest.any fun later => key later = key head) = true := by
        simp [rowsOf]
      by_cases own : key head = key row
      · have rowsAre : rowsOf key (key row) (head :: rest) = head :: rowsOf key (key row) rest := by
          simp [rowsOf, own]
        rw [lastRows, rowsAre, List.getLast?_cons]
        split_ifs with repeated
        · rw [induction]
          rw [own] at none_iff
          cases last : (rowsOf key (key row) rest).getLast? with
          | none => exact absurd repeated (by rw [own]; exact none_iff.mp last)
          | some later => simp
        · have alone : (rowsOf key (key row) rest).getLast? = none :=
            own ▸ none_iff.mpr repeated
          rw [List.mem_cons, induction, alone]
          simp [eq_comm]
      · have rowsAre : rowsOf key (key row) (head :: rest) = rowsOf key (key row) rest := by
          simp [rowsOf, own]
        rw [lastRows, rowsAre]
        split_ifs
        · exact induction
        · rw [List.mem_cons, induction]
          exact or_iff_right fun same => own (same ▸ rfl)

theorem lookup_assign_some {rows : List Row} {row : Row} {wanted : Key} :
    (assignInto key rows).lookup wanted = some row ↔
      row ∈ lastRows key rows ∧ key row = wanted := by
  constructor
  · intro found
    have own : key row = wanted := by
      rw [lookup_assign_into] at found
      have member := List.mem_of_getLast? found
      simpa [rowsOf] using (List.mem_filter.mp member).2
    subst own
    exact ⟨(mem_last_rows_iff key).mpr found, rfl⟩
  · rintro ⟨member, rfl⟩
    exact (mem_last_rows_iff key).mp member

/-- Where no key is repeated, every row is the last of its key. -/
theorem last_rows_of_nodup {rows : List Row} (nodup : (rows.map key).Nodup) :
    lastRows key rows = rows := by
  induction rows with
  | nil => rfl
  | cons row rest induction =>
      rw [List.map_cons, List.nodup_cons] at nodup
      have single : ¬ (rest.any fun later => key later = key row) = true := by
        intro repeated
        obtain ⟨later, member, same⟩ := List.any_eq_true.mp repeated
        exact nodup.1 (List.mem_map.mpr ⟨later, member, of_decide_eq_true same⟩)
      rw [lastRows, if_neg single, induction nodup.2]

end Assignment

section Matching

/-- Two maps of one size match when every entry of the first has a partner. -/
def matchesEntries (accepts : Total → Entry → Bool) (actual : GroupMap Key Total)
    (expected : GroupMap Key Entry) : Bool :=
  actual.entries.all fun entry => (expected.lookup entry.1).any (accepts entry.2)

theorem lookup_some_of_mem {groups : GroupMap Key Total} {entry : Sigma fun _ : Key => Total}
    (member : entry ∈ groups.entries) : groups.lookup entry.1 = some entry.2 :=
  AList.mem_lookup_iff.mpr member

theorem mem_of_lookup_some {groups : GroupMap Key Total} {wanted : Key} {total : Total}
    (found : groups.lookup wanted = some total) : ⟨wanted, total⟩ ∈ groups.entries :=
  AList.mem_lookup_iff.mp found

/-- The two-way comparison: both maps have the same keys, with matching entries. -/
theorem same_size_and_matches_iff {accepts : Total → Entry → Bool} {actual : GroupMap Key Total}
    {expected : GroupMap Key Entry} :
    (actual.entries.length = expected.entries.length ∧
        matchesEntries accepts actual expected = true) ↔
      ∀ wanted, (actual.lookup wanted = none ∧ expected.lookup wanted = none) ∨
        ∃ total entry, actual.lookup wanted = some total ∧ expected.lookup wanted = some entry ∧
          accepts total entry = true := by
  have keysLength : ∀ {Value : Type} (groups : GroupMap Key Value),
      groups.keys.length = groups.entries.length := fun groups => List.length_map _
  constructor
  · rintro ⟨sameSize, partners⟩ wanted
    have partner : ∀ {key total}, actual.lookup key = some total →
        ∃ entry, expected.lookup key = some entry ∧ accepts total entry = true := by
      intro key total found
      have every := List.all_eq_true.mp partners _ (mem_of_lookup_some found)
      exact (Option.any_eq_true _ _).mp every
    have subset : actual.keys ⊆ expected.keys := by
      intro key member
      obtain ⟨total, found⟩ := Option.isSome_iff_exists.mp (AList.lookup_isSome.mpr member)
      obtain ⟨entry, matched, _⟩ := partner found
      exact AList.lookup_isSome.mp (by rw [matched]; rfl)
    have perm : actual.keys.Perm expected.keys :=
      (List.subperm_of_subset actual.keys_nodup subset).perm_of_length_le
        (by rw [keysLength, keysLength, sameSize])
    cases found : actual.lookup wanted with
    | none =>
        refine Or.inl ⟨rfl, AList.lookup_eq_none.mpr fun member => ?_⟩
        exact AList.lookup_eq_none.mp found (perm.mem_iff.mpr member)
    | some total =>
        obtain ⟨entry, matched, accepted⟩ := partner found
        exact Or.inr ⟨total, entry, rfl, matched, accepted⟩
  · intro related
    have sameKeys : actual.keys.Perm expected.keys := by
      refine (List.perm_ext_iff_of_nodup actual.keys_nodup expected.keys_nodup).mpr fun key => ?_
      rw [← AList.mem_keys, ← AList.mem_keys, ← AList.lookup_isSome, ← AList.lookup_isSome]
      rcases related key with ⟨absent, missing⟩ | ⟨total, entry, found, matched, _⟩
      · rw [absent, missing]
        rfl
      · rw [found, matched]
        rfl
    refine ⟨by rw [← keysLength, ← keysLength, sameKeys.length_eq], ?_⟩
    refine List.all_eq_true.mpr fun entry member => ?_
    rcases related entry.1 with ⟨absent, _⟩ | ⟨total, other, found, matched, accepted⟩
    · rw [lookup_some_of_mem member] at absent
      cases absent
    · rw [lookup_some_of_mem member] at found
      obtain rfl := Option.some.inj found
      rw [matched]
      exact accepted

end Matching

section Sums

variable {Cost : Type} [AddCommMonoid Cost] {key : Row → Key} {start : Row → Total}
  {add : Total → Row → Total} {measure : Total → Cost} {cost : Row → Cost}

theorem entries_of_key (groups : GroupMap Key Total) (wanted : Key) :
    groups.entries.filter (fun entry => entry.1 = wanted) =
      ((groups.lookup wanted).map fun total => ⟨wanted, total⟩).toList := by
  have nodup : (groups.entries.filter fun entry => entry.1 = wanted).Nodup :=
    (List.Nodup.of_map _ groups.nodupKeys).filter _
  cases found : groups.lookup wanted with
  | none =>
      rw [Option.map_none, Option.toList_none, List.filter_eq_nil_iff]
      intro entry member same
      rw [← of_decide_eq_true same, lookup_some_of_mem member] at found
      cases found
  | some total =>
      refine List.perm_singleton.mp ((List.perm_ext_iff_of_nodup nodup
        (List.nodup_singleton _)).mpr fun entry => ?_)
      rw [List.mem_filter, List.mem_singleton, decide_eq_true_iff]
      constructor
      · rintro ⟨member, rfl⟩
        rw [lookup_some_of_mem member] at found
        rw [← Option.some.inj found]
      · rintro rfl
        exact ⟨mem_of_lookup_some found, rfl⟩

/-- What the totals of a key measure is the sum over its rows. -/
theorem group_entries_sum (starts : ∀ row, measure (start row) = 0)
    (adds : ∀ total row, measure (add total row) = measure total + cost row) (rows : List Row)
    (wanted : Key) :
    (((groupInto key start add rows).entries.filter fun entry => entry.1 = wanted).map
      fun entry => measure entry.2).sum = ((rowsOf key wanted rows).map cost).sum := by
  have folds : ∀ (items : List Row) (total : Total),
      measure (items.foldl add total) = measure total + (items.map cost).sum := by
    intro items
    induction items with
    | nil => exact fun total => (add_zero _).symm
    | cons item rest induction =>
        intro total
        rw [List.foldl_cons, induction, adds, List.map_cons, List.sum_cons, add_assoc]
  rw [entries_of_key, lookup_group_into, totalOf]
  cases rowsOf key wanted rows with
  | nil => rfl
  | cons first rest =>
      simp only [Option.map_some, Option.toList_some, List.map_singleton, List.sum_singleton]
      rw [folds, starts, zero_add]

end Sums

end CommitmentOptimizer.Foundations.GroupedRows
