import Mathlib.Data.List.Sort
import CommitmentOptimizer.Foundations.KeyedTable

/-!
# Statements on a table of jobs

Claiming the next queued row with `FOR UPDATE SKIP LOCKED`, and an `UPDATE` of one
row under a condition. `store` is what the table does with the updated row: its
trigger and its constraints.
-/

namespace CommitmentOptimizer.Foundations.JobQueue

set_option autoImplicit false

section Order

variable {Row : Type} (queued : Row → Bool) (created id : Row → Nat)

/-- `ORDER BY created ASC, id ASC`. -/
def standsBefore (left right : Row) : Prop :=
  created left < created right ∨ created left = created right ∧ id left ≤ id right

instance (left right : Row) : Decidable (standsBefore created id left right) :=
  inferInstanceAs (Decidable (_ ∨ _))

/-- `locked` are the keys of the rows that concurrent claims hold. -/
def nextQueued (locked : List Nat) (rows : List Row) : Option Row :=
  ((rows.filter fun row => queued row && !locked.contains (id row)).insertionSort
    (standsBefore created id)).head?

variable {queued created id}

theorem next_queued_some {locked : List Nat} {rows : List Row} {row : Row}
    (next : nextQueued queued created id locked rows = some row) :
    row ∈ rows ∧ queued row = true := by
  have member := (List.mem_insertionSort _).mp (List.mem_of_mem_head? next)
  obtain ⟨stored, selected⟩ := List.mem_filter.mp member
  rw [Bool.and_eq_true] at selected
  exact ⟨stored, selected.1⟩

end Order

section Statements

variable {Row Error : Type} {id : Row → Nat}

/-- Claims the next queued row: the row as stored, and the table. -/
def claimNext (queued : Row → Bool) (created : Row → Nat) (store : Row → Except Error Row)
    (locked : List Nat) (table : KeyedTable id) : Except Error (Option Row × KeyedTable id) :=
  match nextQueued queued created id locked table.rows with
  | none => .ok (none, table)
  | some old => do
      let row ← store old
      return (some row, table.put row)

/-- `UPDATE … WHERE id = wanted AND holds`. -/
def updateWhere (wanted : Nat) (holds : Row → Bool) (store : Row → Except Error Row)
    (table : KeyedTable id) : Except Error (KeyedTable id) :=
  match (table.find wanted).filter holds with
  | none => .ok table
  | some old => do
      let row ← store old
      return table.put row

variable {table next : KeyedTable id} {store : Row → Except Error Row}

theorem claim_next_ok {queued : Row → Bool} {created : Row → Nat} {locked : List Nat}
    {claimed : Option Row} (done : claimNext queued created store locked table = .ok (claimed, next)) :
    (claimed = none ∧ next = table) ∨
      ∃ old row, table.find (id old) = some old ∧ queued old = true ∧ store old = .ok row ∧
        claimed = some row ∧ next = table.put row := by
  unfold claimNext at done
  split at done
  case h_1 =>
      cases done
      exact Or.inl ⟨rfl, rfl⟩
  case h_2 old selected =>
      obtain ⟨member, waiting⟩ := next_queued_some selected
      cases stored : store old with
      | error error =>
          rw [stored] at done
          cases done
      | ok row =>
          rw [stored] at done
          cases done
          exact Or.inr ⟨old, row, KeyedTable.find_key member, waiting, stored, rfl, rfl⟩

theorem update_where_ok {wanted : Nat} {holds : Row → Bool}
    (done : updateWhere wanted holds store table = .ok next) :
    ((∀ row, table.find wanted = some row → holds row = false) ∧ next = table) ∨
      ∃ old row, table.find wanted = some old ∧ holds old = true ∧ store old = .ok row ∧
        next = table.put row := by
  unfold updateWhere at done
  split at done
  case h_1 absent =>
      cases done
      refine Or.inl ⟨fun row found => ?_, rfl⟩
      by_contra present
      rw [found, Option.filter_some, if_pos (by simpa using present)] at absent
      cases absent
  case h_2 old present =>
      obtain ⟨found, selected⟩ := Option.filter_eq_some_iff.mp present
      cases stored : store old with
      | error error =>
          rw [stored] at done
          cases done
      | ok row =>
          rw [stored] at done
          cases done
          exact Or.inr ⟨old, row, found, selected, stored, rfl⟩

end Statements

end CommitmentOptimizer.Foundations.JobQueue
