import CommitmentOptimizer.Foundations.RowLocking

/-!
# What a transaction never writes

The frame rule for transactions: when none of the writes of a transaction changes
a part of the database, the part is as it was when the transaction commits.
-/

namespace CommitmentOptimizer.Foundations.TransactionFrames

open RowLocking

set_option autoImplicit false

variable {Db Key Abort Value Other Seen : Type}

/-- No write of the transaction changes what `part` shows. -/
def Preserves (part : Db → Seen) : Txn Db Key Abort Value → Prop
  | .done _ | .rollback _ => True
  | .lock _ next => Preserves part next
  | .lockFree _ _ next => ∀ granted, Preserves part (next granted)
  | .query next => ∀ db, Preserves part (next db)
  | .write update next => (∀ db, part (update db) = part db) ∧ Preserves part next

variable {part : Db → Seen}

section Statements

theorem preserves_bind {first : Txn Db Key Abort Other} {next : Other → Txn Db Key Abort Value}
    (kept : Preserves part first) (onward : ∀ value, Preserves part (next value)) :
    Preserves part (first.bind next) := by
  induction first with
  | done value => exact onward value
  | rollback reason => trivial
  | lock key rest induction => exact induction kept
  | lockFree wanted limit rest induction => exact fun granted => induction granted (kept granted)
  | query rest induction => exact fun db => induction db (kept db)
  | write update rest induction => exact ⟨kept.1, induction kept.2⟩

theorem preserves_then {first : Txn Db Key Abort Other} {next : Other → Txn Db Key Abort Value}
    (kept : Preserves part first) (onward : ∀ value, Preserves part (next value)) :
    Preserves part (first >>= next) :=
  preserves_bind kept onward

theorem preserves_pure (value : Value) :
    Preserves part (pure value : Txn Db Key Abort Value) := trivial

theorem preserves_abort (reason : Abort) :
    Preserves part (Txn.abort reason : Txn Db Key Abort Value) := trivial

theorem preserves_attempt (outcome : Except Abort Value) :
    Preserves part (Txn.attempt outcome : Txn Db Key Abort Value) := by
  cases outcome <;> trivial

theorem preserves_lockRow (key : Key) :
    Preserves part (Txn.lockRow key : Txn Db Key Abort Unit) := trivial

theorem preserves_view : Preserves part (Txn.view : Txn Db Key Abort Db) := fun _ => trivial

theorem preserves_save {update : Db → Db} (kept : ∀ db, part (update db) = part db) :
    Preserves part (Txn.save update : Txn Db Key Abort Unit) := ⟨kept, trivial⟩

theorem preserves_selectForUpdate {Row : Type} (key : Key) (select : Db → Option Row) :
    Preserves part (Txn.selectForUpdate key select : Txn Db Key Abort (Option Row)) := by
  refine preserves_then preserves_view fun db => ?_
  cases select db with
  | none => exact preserves_pure none
  | some row =>
      exact preserves_then (preserves_lockRow key) fun _ =>
        preserves_then preserves_view fun later => preserves_pure (select later)

theorem preserves_forEach {Item Found : Type} {body : Item → Txn Db Key Abort (Option Found)}
    (kept : ∀ item, Preserves part (body item)) (found : List Found) (items : List Item) :
    Preserves part (Txn.forEach body found items) := by
  induction items generalizing found with
  | nil => trivial
  | cons item rest induction => exact preserves_bind (kept item) fun outcome => induction _

end Statements

section Rules

variable {rely : List Key → Db → Db → Prop}
  {ended ended' : Value → List Key → (Db → Db) → Db → Prop}
  {aborted aborted' : Abort → List Key → Db → Prop}

/-- Consequence rule for both ends of a transaction. -/
theorem meets_weaken {program : Txn Db Key Abort Value}
    (onDone : ∀ value held pending seen, ended value held pending seen →
      ended' value held pending seen)
    (onRollback : ∀ reason held seen, aborted reason held seen → aborted' reason held seen)
    {held : List Key} {pending : Db → Db} {seen : Db}
    (meets : program.Meets rely ended aborted held pending seen) :
    program.Meets rely ended' aborted' held pending seen := by
  induction program generalizing held pending seen with
  | done value => exact onDone value held pending seen meets
  | rollback reason => exact onRollback reason held seen meets
  | lock key rest induction => exact fun now moved => induction (meets now moved)
  | lockFree wanted limit rest induction =>
      exact fun now moved granted some => induction granted (meets now moved granted some)
  | query rest induction => exact fun now moved => induction _ (meets now moved)
  | write update rest induction => exact induction meets

theorem meets_and {program : Txn Db Key Abort Value} {held : List Key} {pending : Db → Db}
    {seen : Db} (first : program.Meets rely ended aborted held pending seen)
    (second : program.Meets rely ended' aborted' held pending seen) :
    program.Meets rely
      (fun value held pending seen =>
        ended value held pending seen ∧ ended' value held pending seen)
      (fun reason held seen => aborted reason held seen ∧ aborted' reason held seen)
      held pending seen := by
  induction program generalizing held pending seen with
  | done value => exact ⟨first, second⟩
  | rollback reason => exact ⟨first, second⟩
  | lock key rest induction => exact fun now moved => induction (first now moved) (second now moved)
  | lockFree wanted limit rest induction =>
      exact fun now moved granted some =>
        induction granted (first now moved granted some) (second now moved granted some)
  | query rest induction =>
      exact fun now moved => induction _ (first now moved) (second now moved)
  | write update rest induction => exact induction first second

/-- Frame rule: at its end the pending write still agrees with `base` on the part. -/
theorem meets_frame {program : Txn Db Key Abort Value} (kept : Preserves part program)
    {base : Db → Db} {held : List Key} {pending : Db → Db} {seen : Db}
    (before : ∀ db, part (pending db) = part (base db)) :
    program.Meets rely (fun _ _ pending _ => ∀ db, part (pending db) = part (base db))
      (fun _ _ _ => True) held pending seen := by
  induction program generalizing held pending seen with
  | done value => exact before
  | rollback reason => trivial
  | lock key rest induction => exact fun _ _ => induction kept before
  | lockFree wanted limit rest induction =>
      exact fun _ _ granted _ => induction granted (kept granted) before
  | query rest induction => exact fun _ _ => induction _ (kept _) before
  | write update rest induction =>
      exact induction kept.2 fun db => (kept.1 _).trans (before db)

/-- A transaction keeps its locks, and the database moves as they allow. -/
theorem meets_moves {Request : Type} {contract : Contract Db Key Abort Value Request}
    {Result : Type} {program : Txn Db Key Abort Result} {first held : List Key}
    {pending : Db → Db} {began seen : Db} (subset : first ⊆ held)
    (moved : contract.rely first began seen) :
    program.Meets contract.rely
      (fun _ held _ seen => first ⊆ held ∧ contract.rely first began seen)
      (fun _ _ _ => True) held pending seen := by
  have onward {held : List Key} {seen now : Db} (subset : first ⊆ held)
      (moved : contract.rely first began seen) (later : contract.rely held seen now) :
      contract.rely first began now :=
    Contract.rely_trans moved (Contract.rely_subset subset later)
  induction program generalizing held pending seen with
  | done value => exact ⟨subset, moved⟩
  | rollback reason => trivial
  | lock key rest induction =>
      exact fun now later => induction (List.subset_cons_of_subset _ subset)
        (onward subset moved later)
  | lockFree wanted limit rest induction =>
      exact fun now later granted _ => induction granted
        (List.subset_append_of_subset_right _ subset) (onward subset moved later)
  | query rest induction => exact fun now later => induction _ subset (onward subset moved later)
  | write update rest induction => exact induction subset moved

end Rules

end CommitmentOptimizer.Foundations.TransactionFrames
