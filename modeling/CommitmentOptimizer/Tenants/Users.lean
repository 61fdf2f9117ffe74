import CommitmentOptimizer.Foundations.KeyedTable
import CommitmentOptimizer.Foundations.SqlConstraints

/-!
# Users of a tenant

Rows, CHECK constraints and the trigger of `users` (migration 0002), and what
`users-repository.ts` decides about a patch from the row it has locked.
-/

namespace CommitmentOptimizer.Tenants.Users

open Foundations
open Foundations.SqlConstraints

set_option autoImplicit false

inductive UserRole where
  | tenantAdmin | finopsAnalyst | financeApprover | readOnlyAuditor
  deriving DecidableEq, Repr

structure User where
  id : Uuid
  tenantId : Uuid
  email : String
  name : String
  role : UserRole
  isActive : Bool
  createdAt : Instant
  updatedAt : Instant
  deriving DecidableEq, Repr

abbrev UserTable := KeyedTable fun row : User => row.id

/-- The functions of the database's locale that the constraints use. -/
structure DbLocale where
  lower : String → String
  isSpace : Char → Bool

/-- `email ~ '^[^[:space:]@]+@[^[:space:]@]+$'`. -/
def hasEmailShape (locale : DbLocale) (email : String) : Bool :=
  let plain (character : Char) : Bool := character != '@' && !locale.isSpace character
  let name := email.toList.takeWhile (· != '@')
  match email.toList.drop name.length with
  | '@' :: domain => !name.isEmpty && name.all plain && !domain.isEmpty && domain.all plain
  | _ => false

def User.checks (locale : DbLocale) (row : User) : List (String × Bool) :=
  [("users_email_canonical_check",
     row.email == btrim row.email && row.email == locale.lower row.email && row.email != "" &&
     hasEmailShape locale row.email),
   ("users_name_trimmed_check", row.name == btrim row.name && row.name != ""),
   ("users_timestamps_ordered_check", row.createdAt ≤ row.updatedAt)]

/-- The row an UPDATE to `new` stores in a transaction that began at `now`. -/
def updateUserRow (locale : DbLocale) (now : Instant) (new : User) : Except DbError User := do
  let row := { new with updatedAt := now }
  checkAll (row.checks locale)
  return row

/-- The row an INSERT stores, before its keys are looked at. -/
def insertUserRow (locale : DbLocale) (new : User) : Except DbError User := do
  checkAll (new.checks locale)
  return new

structure UserCreateInput where
  email : String
  name : String
  role : UserRole
  isActive : Bool

structure UserPatchChanges where
  email : Option String
  name : Option String
  role : Option UserRole
  isActive : Option Bool

/-- `fragments.length === 0`. -/
def UserPatchChanges.isEmpty (changes : UserPatchChanges) : Bool :=
  changes.email.isNone && changes.name.isNone && changes.role.isNone && changes.isActive.isNone

def UserPatchChanges.apply (changes : UserPatchChanges) (row : User) : User :=
  { row with
    email := changes.email.getD row.email
    name := changes.name.getD row.name
    role := changes.role.getD row.role
    isActive := changes.isActive.getD row.isActive }

def isAdminRemoval (current : User) (changes : UserPatchChanges) : Bool :=
  if current.role ≠ .tenantAdmin ∨ ¬ current.isActive then false
  else
    let nextRole := changes.role.getD current.role
    let nextActive := changes.isActive.getD current.isActive
    nextRole ≠ .tenantAdmin || !nextActive

def activeAdminCount (users : UserTable) (tenantId : Uuid) : Nat :=
  (users.rows.filter fun row =>
    row.tenantId = tenantId && row.role = .tenantAdmin && row.isActive).length

variable {locale : DbLocale} {now : Instant}

theorem update_user_row_ok {new row : User} (accepted : updateUserRow locale now new = .ok row) :
    row = { new with updatedAt := now } := by
  obtain ⟨_, _, stored⟩ := bind_ok.mp accepted
  cases stored
  rfl

theorem insert_user_row_ok {new row : User} (accepted : insertUserRow locale new = .ok row) :
    row = new := by
  obtain ⟨_, _, stored⟩ := bind_ok.mp accepted
  cases stored
  rfl

end CommitmentOptimizer.Tenants.Users
