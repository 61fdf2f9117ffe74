import Mathlib.Data.List.Nodup

/-!
# Tables with a primary key

A table is the list of its rows together with the proof that no two rows share
a key, so a duplicate key cannot be represented. `insert` leaves a table that
already has the key alone: a caller that must report the conflict looks the key
up first. `modify` is the row map of an `UPDATE`; the key of a row never
changes.
-/

namespace CommitmentOptimizer.Foundations

set_option autoImplicit false

structure KeyedTable {Key Row : Type} (key : Row → Key) where
  rows : List Row
  distinct : (rows.map key).Nodup

namespace KeyedTable

variable {Key Row : Type} {key : Row → Key}

instance : Membership Row (KeyedTable key) := ⟨fun table row => row ∈ table.rows⟩

theorem mem_rows {table : KeyedTable key} {row : Row} : row ∈ table.rows ↔ row ∈ table :=
  Iff.rfl

instance (table : KeyedTable key) (holds : Row → Prop) [DecidablePred holds] :
    Decidable (∀ row ∈ table, holds row) :=
  inferInstanceAs (Decidable (∀ row ∈ table.rows, holds row))

instance (table : KeyedTable key) (holds : Row → Prop) [DecidablePred holds] :
    Decidable (∃ row ∈ table, holds row) :=
  inferInstanceAs (Decidable (∃ row ∈ table.rows, holds row))

def empty : KeyedTable key := ⟨[], List.nodup_nil⟩

/-- `UPDATE`: every row is replaced by its image, under the same key. -/
def modify (table : KeyedTable key) (change : Row → Row)
    (keeps : ∀ row, key (change row) = key row) : KeyedTable key where
  rows := table.rows.map change
  distinct := by
    have sameKeys : (table.rows.map change).map key = table.rows.map key := by
      simp [List.map_map, Function.comp_def, keeps]
    rw [sameKeys]
    exact table.distinct

theorem mem_modify {table : KeyedTable key} {change : Row → Row}
    {keeps : ∀ row, key (change row) = key row} {row : Row} :
    row ∈ table.modify change keeps ↔ ∃ old ∈ table, change old = row :=
  List.mem_map

theorem not_mem_empty (row : Row) : ¬ row ∈ (empty : KeyedTable key) := List.not_mem_nil

theorem eq_of_key {table : KeyedTable key} {left right : Row}
    (leftMember : left ∈ table) (rightMember : right ∈ table) (same : key left = key right) :
    left = right :=
  List.inj_on_of_nodup_map table.distinct leftMember rightMember same

/-- A selection that exactly one row satisfies. -/
theorem filter_unique {table : KeyedTable key} {row : Row} {keep : Row → Bool}
    (member : row ∈ table) (kept : keep row = true)
    (unique : ∀ other ∈ table, keep other = true → other = row) :
    table.rows.filter keep = [row] := by
  have distinct : (table.rows.filter keep).Nodup := (List.Nodup.of_map key table.distinct).filter _
  have present : row ∈ table.rows.filter keep := List.mem_filter.mpr ⟨member, kept⟩
  have only : ∀ other ∈ table.rows.filter keep, other = row := by
    intro other selected
    obtain ⟨stored, holds⟩ := List.mem_filter.mp selected
    exact unique other stored holds
  cases selection : table.rows.filter keep with
  | nil =>
      rw [selection] at present
      cases present
  | cons first rest =>
      rw [selection] at distinct only
      have firstRow := only first List.mem_cons_self
      cases rest with
      | nil => rw [firstRow]
      | cons later _ =>
          have laterRow := only later (List.mem_cons_of_mem _ List.mem_cons_self)
          rw [firstRow, laterRow] at distinct
          exact absurd List.mem_cons_self (List.nodup_cons.mp distinct).1

variable [DecidableEq Key]

def find (table : KeyedTable key) (wanted : Key) : Option Row :=
  table.rows.find? fun row => decide (key row = wanted)

theorem find_eq_some {table : KeyedTable key} {wanted : Key} {row : Row} :
    table.find wanted = some row ↔ row ∈ table ∧ key row = wanted := by
  constructor
  · intro found
    exact ⟨List.mem_of_find?_eq_some found, by simpa using List.find?_some found⟩
  · rintro ⟨member, rfl⟩
    cases found : table.find (key row) with
    | none =>
        have absent := List.find?_eq_none.mp found row member
        simp at absent
    | some other =>
        have same : key other = key row := by simpa using List.find?_some found
        rw [eq_of_key (List.mem_of_find?_eq_some found) member same]

theorem find_eq_none {table : KeyedTable key} {wanted : Key} :
    table.find wanted = none ↔ ∀ row ∈ table, key row ≠ wanted := by
  simp [find, List.find?_eq_none, mem_rows]

theorem find_key {table : KeyedTable key} {row : Row} (member : row ∈ table) :
    table.find (key row) = some row :=
  find_eq_some.mpr ⟨member, rfl⟩

theorem mem_of_find {table : KeyedTable key} {wanted : Key} {row : Row}
    (found : table.find wanted = some row) : row ∈ table :=
  (find_eq_some.mp found).1

theorem key_of_find {table : KeyedTable key} {wanted : Key} {row : Row}
    (found : table.find wanted = some row) : key row = wanted :=
  (find_eq_some.mp found).2

@[simp] theorem find_empty (wanted : Key) : (empty : KeyedTable key).find wanted = none := rfl

@[simp] theorem find_modify (table : KeyedTable key) (change : Row → Row)
    (keeps : ∀ row, key (change row) = key row) (wanted : Key) :
    (table.modify change keeps).find wanted = (table.find wanted).map change := by
  simp only [find, modify, List.find?_map, Function.comp_def, keeps]

/-- `UPDATE` of one row: the row with the key of `row` becomes `row`. -/
def put (table : KeyedTable key) (row : Row) : KeyedTable key :=
  table.modify (fun old => if key old = key row then row else old) fun old => by
    split_ifs with same
    · exact same.symm
    · rfl

theorem mem_put {table : KeyedTable key} {row other : Row} :
    other ∈ table.put row ↔
      (other = row ∧ ∃ old ∈ table, key old = key row) ∨ (other ∈ table ∧ key other ≠ key row) := by
  rw [put, mem_modify]
  constructor
  · rintro ⟨old, member, image⟩
    split_ifs at image with same
    · exact Or.inl ⟨image.symm, old, member, same⟩
    · exact Or.inr ⟨image ▸ member, image ▸ same⟩
  · rintro (⟨rfl, old, member, same⟩ | ⟨member, different⟩)
    · exact ⟨old, member, if_pos same⟩
    · exact ⟨other, member, if_neg different⟩

@[simp] theorem find_put (table : KeyedTable key) (row : Row) (wanted : Key) :
    (table.put row).find wanted =
      if key row = wanted then (table.find wanted).map fun _ => row else table.find wanted := by
  rw [put, find_modify]
  cases found : table.find wanted with
  | none => simp
  | some old =>
      have sameKey : key old = wanted := key_of_find found
      by_cases same : key row = wanted
      · simp [same, sameKey]
      · have different : ¬ wanted = key row := fun equal => same equal.symm
        simp [same, sameKey, different]

/-- Writing a stored row back changes nothing. -/
theorem put_self {table : KeyedTable key} {row : Row} (member : row ∈ table) :
    table.put row = table := by
  have unchanged : ∀ old ∈ table.rows, (if key old = key row then row else old) = old := by
    intro old oldMember
    split_ifs with same
    · exact eq_of_key member oldMember same.symm
    · rfl
  have sameRows : (table.put row).rows = table.rows :=
    (List.map_congr_left unchanged).trans (List.map_id' _)
  cases table
  exact (KeyedTable.mk.injEq ..).mpr sameRows

/-- A selection that does not tell the new row from the old one. -/
theorem filter_put {table : KeyedTable key} {row : Row} {keep : Row → Bool}
    (agrees : ∀ old ∈ table, key old = key row → keep old = keep row) :
    (table.put row).rows.filter keep =
      (table.rows.filter keep).map fun old => if key old = key row then row else old := by
  have sameKeep : ∀ old ∈ table.rows,
      (keep ∘ fun old => if key old = key row then row else old) old = keep old := by
    intro old member
    dsimp only [Function.comp_apply]
    split_ifs with same
    · exact (agrees old member same).symm
    · rfl
  rw [put, modify, List.filter_map, List.filter_congr sameKeep]

/-- A selection that neither the new nor the old row belongs to. -/
theorem filter_put_of_not {table : KeyedTable key} {row : Row} {keep : Row → Bool}
    (absent : ∀ old ∈ table, key old = key row → keep old = false) (outside : keep row = false) :
    (table.put row).rows.filter keep = table.rows.filter keep := by
  rw [filter_put fun old member same => (absent old member same).trans outside.symm]
  have unchanged : ∀ old ∈ table.rows.filter keep,
      (if key old = key row then row else old) = old := by
    intro old member
    obtain ⟨stored, kept⟩ := List.mem_filter.mp member
    refine if_neg fun same => ?_
    rw [absent old stored same] at kept
    cases kept
  exact (List.map_congr_left unchanged).trans (List.map_id' _)

/-- Several single-row updates, in order. -/
def putAll (table : KeyedTable key) (rows : List Row) : KeyedTable key := rows.foldl put table

theorem putAll_append (table : KeyedTable key) (rows : List Row) (row : Row) :
    table.putAll (rows ++ [row]) = (table.putAll rows).put row :=
  List.foldl_append

theorem find_putAll (table : KeyedTable key) (rows : List Row) (wanted : Key) :
    ((∀ row ∈ rows, key row ≠ wanted) ∧ (table.putAll rows).find wanted = table.find wanted) ∨
      ∃ row ∈ rows, key row = wanted ∧
        (table.putAll rows).find wanted = (table.find wanted).map fun _ => row := by
  induction rows generalizing table with
  | nil => exact Or.inl ⟨by simp, rfl⟩
  | cons first rest induction =>
      have unfolded : table.putAll (first :: rest) = (table.put first).putAll rest := rfl
      rw [unfolded]
      rcases induction (table.put first) with ⟨others, found⟩ | ⟨row, member, same, found⟩
      · by_cases same : key first = wanted
        · exact Or.inr ⟨first, List.mem_cons_self, same, by rw [found, find_put, if_pos same]⟩
        · refine Or.inl ⟨?_, by rw [found, find_put, if_neg same]⟩
          intro row member
          rcases List.mem_cons.mp member with rfl | later
          · exact same
          · exact others row later
      · refine Or.inr ⟨row, List.mem_cons_of_mem _ member, same, ?_⟩
        rw [found, find_put]
        split_ifs
        · rw [Option.map_map, Function.comp_def]
        · rfl

/-- A row of the result is untouched, or is one of the new rows. -/
theorem mem_putAll {table : KeyedTable key} {rows : List Row} {row : Row}
    (member : row ∈ table.putAll rows) :
    (row ∈ table ∧ ∀ new ∈ rows, key new ≠ key row) ∨
      (row ∈ rows ∧ ∃ old ∈ table, key old = key row) := by
  have present := find_key member
  rcases find_putAll table rows (key row) with ⟨others, found⟩ | ⟨new, new_member, _, found⟩
  · rw [found] at present
    exact Or.inl ⟨mem_of_find present, others⟩
  · rw [found, Option.map_eq_some_iff] at present
    obtain ⟨old, stored, rfl⟩ := present
    exact Or.inr ⟨new_member, old, mem_of_find stored, key_of_find stored⟩

/-- A row of the table stays, or is replaced by a new row with its key. -/
theorem putAll_mem {table : KeyedTable key} {old : Row} (rows : List Row) (member : old ∈ table) :
    (old ∈ table.putAll rows ∧ ∀ new ∈ rows, key new ≠ key old) ∨
      ∃ new ∈ rows, key new = key old ∧ new ∈ table.putAll rows := by
  have present := find_key member
  rcases find_putAll table rows (key old) with ⟨others, found⟩ | ⟨new, new_member, same, found⟩
  · rw [← found] at present
    exact Or.inl ⟨mem_of_find present, others⟩
  · rw [present, Option.map_some] at found
    exact Or.inr ⟨new, new_member, same, mem_of_find found⟩

/-- `INSERT`: a row whose key is taken is not added. -/
def insert (table : KeyedTable key) (row : Row) : KeyedTable key :=
  if fresh : table.find (key row) = none then
    { rows := table.rows ++ [row]
      distinct := by
        rw [List.map_append, List.map_singleton, ← List.concat_eq_append]
        refine List.Nodup.concat ?_ table.distinct
        intro taken
        obtain ⟨other, member, same⟩ := List.mem_map.mp taken
        exact find_eq_none.mp fresh other member same }
  else table

theorem rows_insert {table : KeyedTable key} {row : Row} (fresh : table.find (key row) = none) :
    (table.insert row).rows = table.rows ++ [row] := by
  rw [insert, dif_pos fresh]

theorem filter_insert {table : KeyedTable key} {row : Row} {keep : Row → Bool}
    (fresh : table.find (key row) = none) :
    (table.insert row).rows.filter keep =
      table.rows.filter keep ++ if keep row then [row] else [] := by
  rw [rows_insert fresh, List.filter_append, List.filter_singleton, Bool.cond_eq_ite]

@[simp] theorem find_insert (table : KeyedTable key) (row : Row) (wanted : Key) :
    (table.insert row).find wanted =
      (table.find wanted).or (if key row = wanted then some row else none) := by
  by_cases fresh : table.find (key row) = none
  · rw [find, rows_insert fresh, List.find?_append, find]
    by_cases same : key row = wanted <;> simp [same]
  · rw [insert, dif_neg fresh]
    by_cases same : key row = wanted
    · subst same
      obtain ⟨other, found⟩ := Option.ne_none_iff_exists'.mp fresh
      simp [found]
    · simp [same]

theorem mem_insert {table : KeyedTable key} {row other : Row}
    (fresh : table.find (key row) = none) :
    other ∈ table.insert row ↔ other ∈ table ∨ other = row := by
  rw [← mem_rows, rows_insert fresh, List.mem_append, List.mem_singleton, mem_rows]

/-- Rows with new keys are added in their order. -/
theorem rows_foldl_insert {rows : List Row} {table : KeyedTable key}
    (fresh : ∀ row ∈ rows, table.find (key row) = none) (apart : (rows.map key).Nodup) :
    (rows.foldl insert table).rows = table.rows ++ rows := by
  induction rows generalizing table with
  | nil => rw [List.foldl_nil, List.append_nil]
  | cons row rest induction =>
      obtain ⟨other, restApart⟩ := List.nodup_cons.mp apart
      have inner := @induction (table.insert row) (fun later member => by
        rw [find_insert, fresh later (List.mem_cons_of_mem _ member), Option.none_or]
        exact if_neg fun same => other (List.mem_map.mpr ⟨later, member, same.symm⟩)) restApart
      rw [List.foldl_cons, inner, rows_insert (fresh row List.mem_cons_self), List.append_assoc,
        List.singleton_append]

/-- A row that is added and then rewritten. -/
theorem put_insert {table : KeyedTable key} {old new : Row} (same : key old = key new)
    (fresh : table.find (key new) = none) : (table.insert old).put new = table.insert new := by
  have untouched : table.rows.map (fun row => if key row = key new then new else row) =
      table.rows := by
    refine (List.map_congr_left fun row member => ?_).trans (List.map_id' _)
    exact if_neg (find_eq_none.mp fresh row member)
  have sameRows : ((table.insert old).put new).rows = (table.insert new).rows := by
    change (table.insert old).rows.map _ = _
    rw [rows_insert (same ▸ fresh), rows_insert fresh, List.map_append, untouched,
      List.map_singleton, if_pos same]
  generalize (table.insert old).put new = left at sameRows
  generalize table.insert new = right at sameRows
  cases left
  cases right
  exact (KeyedTable.mk.injEq ..).mpr sameRows

theorem mem_of_mem_insert {table : KeyedTable key} {row other : Row}
    (member : other ∈ table.insert row) : other ∈ table ∨ other = row := by
  by_cases fresh : table.find (key row) = none
  · exact (mem_insert fresh).mp member
  · rw [insert, dif_neg fresh] at member
    exact Or.inl member

theorem mem_insert_of_mem {table : KeyedTable key} {row other : Row}
    (member : other ∈ table) : other ∈ table.insert row := by
  by_cases fresh : table.find (key row) = none
  · exact (mem_insert fresh).mpr (Or.inl member)
  · rw [insert, dif_neg fresh]
    exact member

end KeyedTable

end CommitmentOptimizer.Foundations
