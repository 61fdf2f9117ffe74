import CommitmentOptimizer.Database.SqlPlans

/-!
# Plans against the ledger

`sql-plan-validation.ts`. A plan is accepted exactly when the ledger lists a beginning of it.
-/

namespace CommitmentOptimizer.Database.AppliedPlans

open Foundations
open Foundations.AscendingLists
open Foundations.BigIntText
open Foundations.IsoInstants
open Foundations.SqlConstraints
open SqlPlans

set_option autoImplicit false

structure AppliedSqlFile where
  version : String
  filename : String
  checksum : String
  deriving DecidableEq

def fileRow (file : SqlFile) : AppliedSqlFile where
  version := file.version
  filename := file.filename
  checksum := file.checksum

section Validation

def planned (files : List SqlFile) (version : String) : Option SqlFile :=
  files.reverse.find? fun file => file.version = version

/-- `applied.has(version)`. -/
def isApplied (rows : List AppliedSqlFile) (version : String) : Bool :=
  rows.any fun row => row.version = version

def validateAppliedFile (kind : SqlPlanKind) (files : List SqlFile) (applied : AppliedSqlFile) :
    Except String Unit :=
  match planned files applied.version with
  | none => .error (s!"Applied {planLabel kind} {applied.version} ({applied.filename}) is missing " ++
      "from disk. Restore it before continuing.")
  | some file =>
      if file.filename ≠ applied.filename then
        .error (s!"Filename drift for {planLabel kind} {applied.version}: applied " ++
          s!"{applied.filename}, found {file.filename}.")
      else if file.checksum ≠ applied.checksum then
        .error (s!"Checksum drift detected for {planLabel kind} {applied.version} " ++
          s!"({file.filename}). Applied files are immutable.")
      else .ok ()

def bigInt (text : String) : Except String Int :=
  match bigIntOfString text with
  | none => .error s!"Cannot convert {text} to a BigInt"
  | some value => .ok value

def higherVersion (highest : Option Int) (row : AppliedSqlFile) : Except String (Option Int) :=
  (bigInt row.version).map fun version => some (highest.elim version fun highest =>
    if highest < version then version else highest)

def highestVersion (rows : List AppliedSqlFile) : Except String (Option Int) :=
  rows.foldlM higherVersion none

def outOfOrder (files : List SqlFile) (rows : List AppliedSqlFile) (highest : Int) :
    Option SqlFile :=
  files.find? fun file => !isApplied rows file.version && (file.number : Int) < highest

def rejectOutOfOrder (kind : SqlPlanKind) (highest : Int) : Option SqlFile → Except String Unit
  | none => .ok ()
  | some outOfOrder => .error (s!"Out-of-order {planLabel kind} {outOfOrder.version} " ++
      s!"({outOfOrder.filename}) cannot be applied after version {highest}. " ++
      "Add a new higher version instead.")

def validateAppendOnlyOrder (kind : SqlPlanKind) (files : List SqlFile)
    (rows : List AppliedSqlFile) : Except String Unit := do
  let highest ← highestVersion rows
  highest.elim (.ok ()) fun highest =>
    rejectOutOfOrder kind highest (outOfOrder files rows highest)

/-- The map that is returned serves `isApplied` only. -/
def validateAppliedPlan (kind : SqlPlanKind) (files : List SqlFile)
    (appliedRows : List AppliedSqlFile) : Except String (List AppliedSqlFile) := do
  forM appliedRows (validateAppliedFile kind files)
  validateAppendOnlyOrder kind files appliedRows
  return appliedRows

end Validation

@[simp] theorem file_row_version (file : SqlFile) : (fileRow file).version = file.version := rfl

/-- The number of a row's version. -/
def rowNumber (row : AppliedSqlFile) : Nat := digitsValue row.version.toList

@[simp] theorem row_number (file : SqlFile) : rowNumber (fileRow file) = file.number := rfl

theorem ascending_rows {files : List SqlFile} (ascending : Ascending SqlFile.number files) :
    Ascending rowNumber (files.map fileRow) := by
  rw [Ascending, List.pairwise_map]
  exact ascending

theorem is_applied_iff {rows : List AppliedSqlFile} {version : String} :
    isApplied rows version = true ↔ ∃ row ∈ rows, row.version = version := by
  rw [isApplied, List.any_eq_true]
  simp only [decide_eq_true_eq]

section Acceptance

variable {kind : SqlPlanKind} {files : List SqlFile} {rows : List AppliedSqlFile}

theorem number_of_version {left right : SqlFile} (same : left.version = right.version) :
    left.number = right.number := by
  rw [SqlFile.number, same, SqlFile.number]

theorem planned_iff (ascending : Ascending SqlFile.number files) {version : String}
    {file : SqlFile} :
    planned files version = some file ↔ file ∈ files ∧ file.version = version := by
  unfold planned
  constructor
  · intro found
    exact ⟨List.mem_reverse.mp (List.mem_of_find?_eq_some found),
      by simpa using List.find?_some found⟩
  · intro ⟨member, same⟩
    cases found : files.reverse.find? fun file => decide (file.version = version) with
    | none =>
        have absent := List.find?_eq_none.mp found file (List.mem_reverse.mpr member)
        exact absurd (decide_eq_true same) absent
    | some other =>
        have alsoMember := List.mem_reverse.mp (List.mem_of_find?_eq_some found)
        have alsoSame : other.version = version := by simpa using List.find?_some found
        exact congrArg some (ascending_injective ascending alsoMember member
          (number_of_version (alsoSame.trans same.symm)))

theorem applied_file_iff (ascending : Ascending SqlFile.number files) {row : AppliedSqlFile} :
    validateAppliedFile kind files row = .ok () ↔ row ∈ files.map fileRow := by
  rw [List.mem_map]
  unfold validateAppliedFile
  cases found : planned files row.version with
  | none =>
      constructor
      · intro valid
        cases valid
      · intro ⟨file, member, same⟩
        have plans := (planned_iff ascending).mpr ⟨member, congrArg AppliedSqlFile.version same⟩
        rw [found] at plans
        cases plans
  | some file =>
      obtain ⟨member, version⟩ := (planned_iff ascending).mp found
      dsimp only
      constructor
      · intro valid
        split_ifs at valid with filename checksum
        refine ⟨file, member, ?_⟩
        rw [fileRow, version, not_not.mp filename, not_not.mp checksum]
      · intro ⟨other, alsoMember, same⟩
        have plans := (planned_iff ascending).mpr ⟨alsoMember, congrArg AppliedSqlFile.version same⟩
        rw [found] at plans
        obtain rfl := Option.some.inj plans
        have filename : file.filename = row.filename := congrArg AppliedSqlFile.filename same
        have checksum : file.checksum = row.checksum := congrArg AppliedSqlFile.checksum same
        rw [if_neg (not_not.mpr filename), if_neg (not_not.mpr checksum)]

theorem applied_files_iff (ascending : Ascending SqlFile.number files) :
    forM rows (validateAppliedFile kind files) = .ok () ↔ ∀ row ∈ rows, row ∈ files.map fileRow := by
  induction rows with
  | nil => exact ⟨fun _ row member => absurd member List.not_mem_nil, fun _ => rfl⟩
  | cons row rows induction =>
      rw [List.forM_cons, bind_ok, List.forall_mem_cons, ← induction, ← @applied_file_iff kind]
      · exact ⟨fun ⟨_, first, rest⟩ => ⟨first, rest⟩, fun ⟨first, rest⟩ => ⟨_, first, rest⟩⟩
      · exact ascending

theorem big_int_of_planned {row : AppliedSqlFile} (member : row ∈ files.map fileRow) :
    bigInt row.version = .ok (rowNumber row : Int) := by
  obtain ⟨file, _, same⟩ := List.mem_map.mp member
  rw [← same, bigInt, file_row_version, big_int_of_version]
  rfl

theorem highest_from (each : ∀ row ∈ rows, row ∈ files.map fileRow) (start : Nat) :
    rows.foldlM higherVersion (some (start : Int)) =
      .ok (some (((rows.map rowNumber).foldl max start : Nat) : Int)) := by
  induction rows generalizing start with
  | nil => rfl
  | cons row rows induction =>
      obtain ⟨first, rest⟩ := List.forall_mem_cons.mp each
      have higher : higherVersion (some (start : Int)) row =
          .ok (some ((max start (rowNumber row) : Nat) : Int)) := by
        rw [higherVersion, big_int_of_planned first, Except.map, Option.elim_some]
        split_ifs with below
        · rw [Nat.max_eq_right (by omega)]
        · rw [Nat.max_eq_left (by omega)]
      rw [List.foldlM_cons, higher, List.map_cons, List.foldl_cons, ← induction rest]
      rfl

/-- The versions of planned rows are numbers. -/
theorem highest_of_planned (each : ∀ row ∈ rows, row ∈ files.map fileRow) :
    highestVersion rows = .ok ((rows.map rowNumber).max?.map Int.ofNat) := by
  cases rows with
  | nil => rfl
  | cons row rows =>
      obtain ⟨first, rest⟩ := List.forall_mem_cons.mp each
      rw [highestVersion, List.foldlM_cons, higherVersion, big_int_of_planned first]
      exact highest_from rest (rowNumber row)

theorem append_only_iff (each : ∀ row ∈ rows, row ∈ files.map fileRow) :
    validateAppendOnlyOrder kind files rows = .ok () ↔
      ∀ row ∈ rows, ∀ file ∈ files, file.number < rowNumber row →
        isApplied rows file.version = true := by
  unfold validateAppendOnlyOrder
  rw [highest_of_planned each]
  cases highest : (rows.map rowNumber).max? with
  | none =>
      have empty := List.map_eq_nil_iff.mp (List.max?_eq_none_iff.mp highest)
      constructor
      · intro _ row member
        rw [empty] at member
        cases member
      · intro _
        rfl
  | some number =>
      obtain ⟨isNumber, most⟩ := List.max?_eq_some_iff.mp highest
      obtain ⟨top, isTop, same⟩ := List.mem_map.mp isNumber
      change rejectOutOfOrder kind number (outOfOrder files rows number) = .ok () ↔ _
      cases found : outOfOrder files rows number with
      | none =>
          have none_below := List.find?_eq_none.mp found
          constructor
          · intro _ row member file isFile below
            have atMost := most _ (List.mem_map_of_mem member)
            have kept := none_below file isFile
            rw [decide_eq_true (by omega), Bool.and_true] at kept
            simpa using kept
          · intro _
            rfl
      | some file =>
          have isFile := List.mem_of_find?_eq_some found
          have skipped := List.find?_some found
          constructor
          · intro valid
            cases valid
          · intro closed
            rw [Bool.and_eq_true, decide_eq_true_eq] at skipped
            rw [closed top isTop file isFile (by omega)] at skipped
            cases skipped.1

theorem validate_plan_ok (ascending : Ascending SqlFile.number files)
    {result : List AppliedSqlFile} :
    validateAppliedPlan kind files rows = .ok result ↔
      result = rows ∧ (∀ row ∈ rows, row ∈ files.map fileRow) ∧
        ∀ row ∈ rows, ∀ file ∈ files, file.number < rowNumber row →
          isApplied rows file.version = true := by
  rw [validateAppliedPlan, bind_ok]
  constructor
  · intro ⟨_, filesValid, orderValid⟩
    have each := (applied_files_iff ascending).mp filesValid
    obtain ⟨_, appendOnly, same⟩ := bind_ok.mp orderValid
    exact ⟨(Except.ok.inj same).symm, each, (append_only_iff each).mp appendOnly⟩
  · intro ⟨same, each, closed⟩
    refine ⟨(), (applied_files_iff ascending).mpr each, bind_ok.mpr ⟨(), ?_, ?_⟩⟩
    · exact (append_only_iff each).mpr closed
    · rw [same]
      rfl

theorem applied_of_row {file : SqlFile} (isRow : fileRow file ∈ rows) :
    isApplied rows file.version = true :=
  is_applied_iff.mpr ⟨fileRow file, isRow, rfl⟩

theorem row_of_applied (ascending : Ascending SqlFile.number files)
    (each : ∀ row ∈ rows, row ∈ files.map fileRow) {file : SqlFile} (member : file ∈ files)
    (applied : isApplied rows file.version = true) : fileRow file ∈ rows := by
  obtain ⟨row, isRow, same⟩ := is_applied_iff.mp applied
  obtain ⟨other, isFile, rowOf⟩ := List.mem_map.mp (each row isRow)
  rw [← rowOf, file_row_version] at same
  have equal := ascending_injective ascending isFile member (number_of_version same)
  rw [← equal, rowOf]
  exact isRow

/-- A plan is accepted exactly when the ledger lists a beginning of it, in any order. -/
theorem accepted_iff (ascending : Ascending SqlFile.number files)
    (unique : (rows.map AppliedSqlFile.version).Nodup) :
    validateAppliedPlan kind files rows = .ok rows ↔
      ∃ count, rows.Perm ((files.take count).map fileRow) := by
  rw [validate_plan_ok ascending]
  constructor
  · intro ⟨_, each, closed⟩
    have downwards : ∀ chosen ∈ files, isApplied rows chosen.version = true → ∀ file ∈ files,
        file.number < chosen.number → isApplied rows file.version = true :=
      fun chosen isChosen applied file isFile below =>
        closed _ (row_of_applied ascending each isChosen applied) file isFile below
    obtain ⟨count, beginning⟩ := filter_is_take ascending downwards
    refine ⟨count, (List.perm_ext_iff_of_nodup unique.of_map ?_).mpr fun row => ?_⟩
    · exact ascending_nodup (ascending_rows (ascending_take ascending count))
    · rw [← beginning, List.mem_map]
      constructor
      · intro isRow
        obtain ⟨file, isFile, rowOf⟩ := List.mem_map.mp (each row isRow)
        rw [← rowOf] at isRow ⊢
        exact ⟨file, List.mem_filter.mpr ⟨isFile, applied_of_row isRow⟩, rfl⟩
      · intro ⟨file, chosen, rowOf⟩
        obtain ⟨isFile, applied⟩ := List.mem_filter.mp chosen
        rw [← rowOf]
        exact row_of_applied ascending each isFile applied
  · intro ⟨count, same⟩
    have rowOf : ∀ row ∈ rows, ∃ file ∈ files.take count, fileRow file = row :=
      fun row isRow => List.mem_map.mp (same.mem_iff.mp isRow)
    refine ⟨rfl, fun row isRow => ?_, fun row isRow file isFile below => ?_⟩
    · obtain ⟨file, taken, equal⟩ := rowOf row isRow
      rw [← equal]
      exact List.mem_map_of_mem (List.mem_of_mem_take taken)
    · obtain ⟨chosen, taken, equal⟩ := rowOf row isRow
      rw [← equal, row_number] at below
      apply applied_of_row
      exact same.mem_iff.mpr (List.mem_map_of_mem (mem_take_of_less ascending taken isFile below))

theorem create_tenants_named : matchSqlFilename "0001_create_tenants.sql" =
    some ("0001", "create_tenants") := by decide

theorem create_users_named : matchSqlFilename "0002_create_users.sql" =
    some ("0002", "create_users") := by decide

def createTenants : SqlFile where
  version := "0001"
  name := "create_tenants"
  filename := "0001_create_tenants.sql"
  checksum := "7c1e"
  sql := "CREATE TABLE tenants (id uuid PRIMARY KEY)"
  named := create_tenants_named

def createUsers : SqlFile where
  version := "0002"
  name := "create_users"
  filename := "0002_create_users.sql"
  checksum := "95ab"
  sql := "CREATE TABLE users (id uuid PRIMARY KEY)"
  named := create_users_named

theorem examples_ascending : Ascending SqlFile.number [createTenants, createUsers] := by
  apply List.pairwise_pair.mpr
  decide

end Acceptance

end CommitmentOptimizer.Database.AppliedPlans
