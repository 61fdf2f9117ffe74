import Mathlib.Data.List.DropRight

/-!
# Constraint outcomes of a statement

The part of a relational database that a row-level model needs: the error a
statement raises with its SQLSTATE code, named CHECK constraints tried in
order, and the text functions that CHECK constraints are written with.
-/

namespace CommitmentOptimizer.Foundations.SqlConstraints

set_option autoImplicit false

/-- Row identifiers: the 128-bit number, so that its order is the column's. -/
abbrev Uuid := Nat

/-- The canonical text of an identifier: 8-4-4-4-12 lowercase hexadecimal digits. -/
def uuidText (id : Uuid) : String :=
  let digits := Nat.toDigits 16 id
  let padded := List.replicate (32 - digits.length) '0' ++ digits
  "-".intercalate [String.ofList (padded.take 8), String.ofList ((padded.drop 8).take 4),
    String.ofList ((padded.drop 12).take 4), String.ofList ((padded.drop 16).take 4),
    String.ofList (padded.drop 20)]

def hexDigit (character : Char) : Option Nat :=
  let code := character.toNat
  if 0x30 ≤ code ∧ code ≤ 0x39 then some (code - 0x30)
  else if 0x41 ≤ code ∧ code ≤ 0x46 then some (code - 0x37)
  else if 0x61 ≤ code ∧ code ≤ 0x66 then some (code - 0x57)
  else none

/-- Two digits for each of the bytes still to read, most significant first. A
hyphen may stand after every second byte but the last. -/
def readUuidBytes : Nat → Nat → List Char → Option (Nat × List Char)
  | 0, value, text => some (value, text)
  | remaining + 1, value, high :: low :: text => do
      let first ← hexDigit high
      let second ← hexDigit low
      let rest := match text with
        | '-' :: tail => if remaining % 2 = 0 ∧ 0 < remaining then tail else text
        | _ => text
      readUuidBytes remaining (value * 256 + first * 16 + second) rest
  | _ + 1, _, _ => none

/-- The input function of the `uuid` type; the whole value may stand in braces. -/
def uuidOfText (text : List Char) : Option Uuid :=
  match text with
  | '\x7b' :: inner =>
      match readUuidBytes 16 0 inner with
      | some (value, ['\x7d']) => some value
      | _ => none
  | plain =>
      match readUuidBytes 16 0 plain with
      | some (value, []) => some value
      | _ => none

/-- A point on the database clock, in microseconds. -/
abbrev Instant := Nat

/-- `code` is the SQLSTATE, `message` the raised text or the constraint's name. -/
structure DbError where
  code : String
  message : String
  deriving DecidableEq, Repr

def raised (message code : String) : DbError := ⟨code, message⟩
def checkViolation (constraint : String) : DbError := ⟨"23514", constraint⟩
def uniqueViolation (constraint : String) : DbError := ⟨"23505", constraint⟩
def foreignKeyViolation (constraint : String) : DbError := ⟨"23503", constraint⟩

def invalidText (type : String) : DbError := ⟨"22P02", type⟩
def outOfRange (type : String) : DbError := ⟨"22003", type⟩
def invalidEncoding : DbError := ⟨"22021", "UTF8"⟩

def require (condition : Bool) (error : DbError) : Except DbError Unit :=
  if condition then .ok () else .error error

/-- CHECK constraints by name; the first that fails is reported. -/
def checkAll : List (String × Bool) → Except DbError Unit
  | [] => .ok ()
  | (name, holds) :: rest => if holds then checkAll rest else .error (checkViolation name)

/-- A sequence of checks accepts exactly when each one does. -/
theorem bind_ok {Error First Second : Type} {check : Except Error First}
    {next : First → Except Error Second} {result : Second} :
    (check >>= next) = .ok result ↔ ∃ value, check = .ok value ∧ next value = .ok result := by
  cases check with
  | error error => simp [bind, Except.bind]
  | ok value => simp [bind, Except.bind]

theorem map_ok {Error First Second : Type} {outcome : Except Error First}
    {function : First → Second} {result : Second} :
    outcome.map function = .ok result ↔ ∃ value, outcome = .ok value ∧ function value = result := by
  cases outcome <;> simp [Except.map]

theorem map_error_ok {Value Reason : Type} {outcome : Except DbError Value}
    {onError : DbError → Reason} {value : Value} :
    outcome.mapError onError = .ok value ↔ outcome = .ok value := by
  cases outcome <;> simp [Except.mapError]

theorem map_error_error {Value Reason : Type} {outcome : Except DbError Value}
    {onError : DbError → Reason} {reason : Reason} :
    outcome.mapError onError = .error reason ↔ ∃ error, outcome = .error error ∧
      onError error = reason := by
  cases outcome <;> simp [Except.mapError]

theorem to_option_some {Error Value : Type} {outcome : Except Error Value} {value : Value} :
    outcome.toOption = some value ↔ outcome = .ok value := by
  cases outcome <;> simp [Except.toOption]

theorem require_ok {condition : Bool} {error : DbError} {value : Unit} :
    require condition error = .ok value ↔ condition = true := by
  cases condition <;> simp [require]

theorem check_all_ok {constraints : List (String × Bool)} {value : Unit} :
    checkAll constraints = .ok value ↔ ∀ constraint ∈ constraints, constraint.2 = true := by
  induction constraints with
  | nil => simp [checkAll]
  | cons constraint rest induction =>
      obtain ⟨name, holds⟩ := constraint
      cases holds <;> simp [checkAll, induction]

def isBigint (value : Int) : Bool := -9223372036854775808 ≤ value && value ≤ 9223372036854775807

/-- `btrim` removes spaces only, on both ends. -/
def btrim (text : String) : String :=
  String.ofList ((text.toList.dropWhile (· == ' ')).rdropWhile (· == ' '))

/-- The class `[[:cntrl:]]`: C0, DEL and C1. -/
def isControl (character : Char) : Bool :=
  character.toNat < 0x20 || (0x7f ≤ character.toNat && character.toNat ≤ 0x9f)

/-- `x = btrim(x) AND x <> '' AND length(x) <= limit AND x !~ '[[:cntrl:]]'`. -/
def isCanonicalText (limit : Nat) (text : String) : Bool :=
  text == btrim text && text != "" && text.length ≤ limit && !text.toList.any isControl

/-- The same constraint on a nullable column. -/
def isCanonicalTextOrNull (limit : Nat) : Option String → Bool
  | none => true
  | some text => isCanonicalText limit text

end CommitmentOptimizer.Foundations.SqlConstraints
