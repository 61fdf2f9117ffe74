import Mathlib.Data.Prod.Lex
import CommitmentOptimizer.Foundations.KeysetPages
import CommitmentOptimizer.Foundations.Schedules
import CommitmentOptimizer.Tenants.Users
import CommitmentOptimizer.Tenants.UsersCursor

/-!
# The pages of the users list

`list` of `users-service.ts` with the query of `users-repository.ts`, and a client that
follows `next_cursor` while users are created and patched.
-/

namespace CommitmentOptimizer.Tenants.UsersPages

open Foundations
open Foundations.JsonText
open Foundations.KeysetPages
open Foundations.Schedules
open Foundations.SqlConstraints
open Foundations.Timestamps
open Foundations.UuidText
open Sessions.AccessTokens
open Users
open UsersCursor

set_option autoImplicit false

section Model

def unavailable : AppError :=
  ⟨"USERS_UNAVAILABLE", "User management is temporarily unavailable.", 503⟩

structure UserListQuery where
  limit : Nat
  cursor : Option String

structure UserRecord where
  id : String
  email : String
  name : String
  role : UserRole
  isActive : Bool
  createdAt : String
  updatedAt : String

structure TenantUser where
  id : String
  email : String
  name : String
  role : UserRole
  isActive : Bool
  createdAt : String
  updatedAt : String
  deriving DecidableEq

structure UserListPage where
  users : List TenantUser
  nextCursor : Option String

def closedRecord (input : Json) (allowed : List String) : Except AppError Json :=
  match input with
  | .object fields =>
      if fields.any fun field => !allowed.contains field.1 then .error invalid else .ok input
  | _ => .error invalid

/-- `^(?:[1-9]|[1-9][0-9]|100)$`. -/
def isLimitText : List Char → Bool
  | [units] => units.isDigit && units != '0'
  | [tens, units] => tens.isDigit && tens != '0' && units.isDigit
  | text => text == ['1', '0', '0']

def queryLimit : Option Json → Except AppError Nat
  | none => .ok 25
  | some (.string text) =>
      if isLimitText text.toList then .ok (IsoInstants.digitsValue text.toList)
      else .error invalid
  | some _ => .error invalid

def queryCursor : Option Json → Except AppError (Option String)
  | none => .ok none
  | some (.string cursor) =>
      if cursor.toList = [] ∨ utf16Length cursor.toList > 512 then .error invalid
      else .ok (some cursor)
  | some _ => .error invalid

def parseUserListQuery (input : Json) : Except AppError UserListQuery := do
  let value ← closedRecord input ["limit", "cursor"]
  let limit ← queryLimit (value.field "limit")
  let cursor ← queryCursor (value.field "cursor")
  return ⟨limit, cursor⟩

/-- `USER_PROJECTION`. -/
def userProjection (row : User) : UserRecord :=
  ⟨uuidText row.id, row.email, row.name, row.role, row.isActive, timestamptzText row.createdAt,
    timestamptzText row.updatedAt⟩

def toTenantUser (row : UserRecord) : TenantUser :=
  ⟨row.id, row.email, row.name, row.role, row.isActive, row.createdAt, row.updatedAt⟩

/-- `(created_at, id)`; rows are compared by the first column and then by the second. -/
def userKey (row : User) : Nat ×ₗ Nat := toLex (row.createdAt, row.id)

/-- The parameters `$2::timestamptz` and `$3::uuid`; `none` where a cast fails. -/
def boundaryParameters : Option UserCursorBoundary → Option (Option (Int ×ₗ Nat))
  | none => some none
  | some cursor => do
      let createdAt ← timestamptzOfText cursor.createdAt.toList
      let id ← uuidOfText cursor.id.toList
      return some (toLex (createdAt, id))

/-- The query of `listUsers` in the repository; `none` where it fails. -/
def listRows (users : UserTable) (tenantId : Uuid) (limit : Nat)
    (cursor : Option UserCursorBoundary) : Option (List UserRecord) :=
  (boundaryParameters cursor).map fun boundary =>
    let selected := users.rows.filter fun row => row.tenantId = tenantId &&
      boundary.all fun bound => decide (toLex ((row.createdAt : Int), row.id) < bound)
    let ordered := selected.insertionSort fun first second => userKey second ≤ userKey first
    (ordered.take (limit + 1)).map userProjection

def listUsers (runtime : CursorRuntime) (users : UserTable) (tenantId : Uuid) (query : Json) :
    Except AppError UserListPage := do
  let parsed ← parseUserListQuery query
  let cursor ← parsed.cursor.mapM (decodeUsersCursor runtime)
  match listRows users tenantId parsed.limit cursor with
  | none => .error unavailable
  | some rows =>
      let selected := rows.take parsed.limit
      let last := if rows.length > parsed.limit then selected.getLast? else none
      let nextCursor ← last.mapM fun row => encodeUsersCursor runtime ⟨row.createdAt, row.id⟩
      return ⟨selected.map toTenantUser, nextCursor⟩

end Model

section Walk

inductive WalkPhase where
  | starting
  | following (cursor : String)
  | ended

structure UsersWalk where
  users : UserTable
  phase : WalkPhase
  pages : List UserListPage

/-- What other requests do, and the calls of the client, each with a limit of its own. -/
inductive WalkAction where
  | create (new : User)
  | patch (id : Uuid) (changes : UserPatchChanges) (now : Instant)
  | list (limit : Option String)

def WalkPhase.cursor : WalkPhase → Option String
  | .following cursor => some cursor
  | .starting | .ended => none

/-- The query string of a call. -/
def listQuery (limit cursor : Option String) : Json :=
  .object ((limit.map fun text => ("limit", .string text)).toList ++
    (cursor.map fun text => ("cursor", .string text)).toList)

/-- No other user of the tenant has the e-mail address. -/
def emailFree (users : UserTable) (row : User) : Bool :=
  users.rows.all fun other => other.id = row.id || other.tenantId ≠ row.tenantId ||
    other.email ≠ row.email

/-- What a committed `create` leaves in the table. -/
def createdUser (locale : DbLocale) (users : UserTable) (new : User) : Option UserTable :=
  match insertUserRow locale new with
  | .ok row =>
      if (users.find row.id).isNone ∧ emailFree users row then some (users.insert row) else none
  | .error _ => none

/-- What a committed `patch` leaves in the table. -/
def patchedUser (locale : DbLocale) (users : UserTable) (id : Uuid) (changes : UserPatchChanges)
    (now : Instant) : Option UserTable :=
  (users.find id).bind fun old =>
    match updateUserRow locale now (changes.apply old) with
    | .ok row => if emailFree users row then some (users.put row) else none
    | .error _ => none

def phaseAfter (page : UserListPage) : WalkPhase :=
  match page.nextCursor with
  | some cursor => .following cursor
  | none => .ended

def walkStep (runtime : CursorRuntime) (locale : DbLocale) (tenantId : Uuid) (walk : UsersWalk) :
    WalkAction → Option UsersWalk
  | .create new => (createdUser locale walk.users new).map fun users => { walk with users := users }
  | .patch id changes now =>
      (patchedUser locale walk.users id changes now).map fun users => { walk with users := users }
  | .list limit =>
      match walk.phase with
      | .ended => none
      | phase =>
          match listUsers runtime walk.users tenantId (listQuery limit phase.cursor) with
          | .ok page =>
              some { walk with phase := phaseAfter page, pages := walk.pages ++ [page] }
          | .error _ => none

def walkStart (users : UserTable) : UsersWalk := ⟨users, .starting, []⟩

def returnedUsers (walk : UsersWalk) : List TenantUser := walk.pages.flatMap UserListPage.users

end Walk

section Statement

/-- The identifier is of a version that UUIDs have, and the year has four digits. -/
structure Listable (row : User) : Prop where
  versioned : isCanonicalUuid (uuidText row.id) = true
  dated : isDatedInstant row.createdAt

/-- What `gen_random_uuid()` and the clock give. -/
def CreatesListable (_ : UsersWalk) : WalkAction → Prop
  | .create new => Listable new
  | .patch .. | .list _ => True

/-- The users that were returned, in decreasing order of their keys. -/
def InOrder (tenantId : Uuid) (walk : UsersWalk) : Prop :=
  ∃ rows : List User, returnedUsers walk = rows.map (fun row => toTenantUser (userProjection row)) ∧
    (rows.Pairwise fun first second => userKey second < userKey first) ∧
    ∀ row ∈ rows, ∃ user ∈ walk.users, user.tenantId = tenantId ∧ userKey user = userKey row

/-- Every user of the tenant that was there from the start has been returned once. -/
def EachOnce (tenantId : Uuid) (start : UserTable) (walk : UsersWalk) : Prop :=
  ∀ user ∈ start, user.tenantId = tenantId →
    (returnedUsers walk).countP (·.id = uuidText user.id) = 1

/-- A call with an accepted limit succeeds. -/
def GoesOn (runtime : CursorRuntime) (locale : DbLocale) (tenantId : Uuid) (walk : UsersWalk) :
    Prop :=
  (∃ next, walkStep runtime locale tenantId walk (.list none) = some next) ∧
    ∀ limit : String, isLimitText limit.toList = true →
      ∃ next, walkStep runtime locale tenantId walk (.list (some limit)) = some next

/-- No client calls without end. -/
def WalksEnd (runtime : CursorRuntime) (locale : DbLocale) (tenantId : Uuid) (start : UserTable) :
    Prop :=
  ∀ (actions : Nat → WalkAction) (walks : Nat → UsersWalk), walks 0 = walkStart start →
    (∀ n, CreatesListable (walks n) (actions n)) →
    (∀ n, walkStep runtime locale tenantId (walks n) (actions n) = some (walks (n + 1))) →
    ∃ n, ∀ later, n ≤ later → ∀ limit, actions later ≠ .list limit

/-- A cursor decodes to the boundary that it was encoded from, and any other text is refused. -/
def CursorsExact (runtime : CursorRuntime) : Prop :=
  ∀ cursor,
    (∀ boundary, encodeUsersCursor runtime boundary = .ok cursor →
      decodeUsersCursor runtime cursor = .ok boundary) ∧
    ((∀ boundary, encodeUsersCursor runtime boundary ≠ .ok cursor) →
      decodeUsersCursor runtime cursor = .error invalid)

end Statement

section Calls

variable {runtime : CursorRuntime} {locale : DbLocale} {tenantId : Uuid} {users : UserTable}
  {row : User}

/-- The cursor that ends a page at a row. -/
def cursorText (runtime : CursorRuntime) (row : User) : String :=
  String.ofList (payloadText (timestamptzText row.createdAt) (uuidText row.id)
    (checksum runtime (timestamptzText row.createdAt) (uuidText row.id)))

theorem encode_listable (runtime : CursorRuntime) (listable : Listable row) :
    encodeUsersCursor runtime ⟨timestamptzText row.createdAt, uuidText row.id⟩ =
      .ok (cursorText runtime row) := by
  have timestamp := is_timestamp_text listable.dated
  refine encode_users_cursor_ok.mpr ⟨timestamp, listable.versioned, String.toList_ofList, ?_⟩
  rw [cursorText, String.toList_ofList]
  exact (@payload_text_length runtime ⟨timestamptzText row.createdAt, uuidText row.id⟩
    timestamp listable.versioned).2

theorem decode_listable (reads : ReadsBack runtime) (listable : Listable row) :
    decodeUsersCursor runtime (cursorText runtime row) =
      .ok ⟨timestamptzText row.createdAt, uuidText row.id⟩ :=
  (decode_users_cursor_iff reads).mpr (encode_listable runtime listable)

theorem boundary_listable (listable : Listable row) :
    boundaryParameters (some ⟨timestamptzText row.createdAt, uuidText row.id⟩) =
      some (some (toLex ((row.createdAt : Int), row.id))) := by
  simp only [boundaryParameters, timestamptz_of_timestamptz_text listable.dated,
    uuid_of_canonical listable.versioned, Option.bind_eq_bind, Option.bind_some]
  rfl

def tenantUsers (users : UserTable) (tenantId : Uuid) : List User :=
  users.rows.filter fun row => row.tenantId = tenantId

theorem tenant_keys_nodup (users : UserTable) (tenantId : Uuid) :
    ((tenantUsers users tenantId).map userKey).Nodup := by
  have ids : ((tenantUsers users tenantId).map fun row => row.id).Nodup :=
    (List.filter_sublist.map _).nodup users.distinct
  refine List.Nodup.of_map (fun key => (ofLex key).2) ?_
  rw [List.map_map]
  exact ids

theorem cast_key_lt {first second : User} :
    toLex ((first.createdAt : Int), first.id) < toLex ((second.createdAt : Int), second.id) ↔
      userKey first < userKey second := by
  simp only [userKey, Prod.Lex.toLex_lt_toLex, Int.ofNat_lt, Int.natCast_inj]

/-- The query reads the page behind the boundary. -/
theorem list_rows_start (users : UserTable) (tenantId : Uuid) (limit : Nat) :
    listRows users tenantId limit none =
      some ((page userKey ⊤ limit (tenantUsers users tenantId)).map userProjection) := by
  have ahead : ∀ row : User, behind (userKey row) < (⊤ : Boundary (Nat ×ₗ Nat)) := fun row =>
    lt_of_le_of_ne le_top nofun
  simp only [listRows, boundaryParameters, Option.map_some, Option.all_none, Bool.and_true, page,
    remaining, tenantUsers, ahead, decide_true, List.filter_true]

theorem list_rows_behind (users : UserTable) (tenantId : Uuid) (limit : Nat)
    (listable : Listable row) :
    listRows users tenantId limit (some ⟨timestamptzText row.createdAt, uuidText row.id⟩) =
      some ((page userKey (behind (userKey row)) limit (tenantUsers users tenantId)).map
        userProjection) := by
  simp only [listRows, boundary_listable listable, Option.map_some, Option.all_some, page,
    remaining, tenantUsers, List.filter_filter, cast_key_lt, behind_lt_behind]
  simp only [Bool.and_comm]

theorem limit_positive {text : List Char} (accepted : isLimitText text = true) :
    0 < IsoInstants.digitsValue text := by
  have digit_positive : ∀ character : Char, character.isDigit = true → character ≠ '0' →
      0 < character.toNat - 48 := by
    intro character digit nonzero
    have bounds := BigIntText.digit_bounds digit
    have different : character.toNat ≠ '0'.toNat := fun same => nonzero (Char.toNat_inj.mp same)
    have zero : '0'.toNat = 48 := rfl
    omega
  match text with
  | [] => cases accepted
  | [units] =>
      simp only [isLimitText, Bool.and_eq_true, bne_iff_ne] at accepted
      have positive := digit_positive units accepted.1 accepted.2
      have value := IsoInstants.digits_value_append_singleton [] units
      rw [List.nil_append] at value
      omega
  | [tens, units] =>
      simp only [isLimitText, Bool.and_eq_true, bne_iff_ne] at accepted
      have positive := digit_positive tens accepted.1.1 accepted.1.2
      have value := IsoInstants.digits_value_append_singleton [] tens
      have total := IsoInstants.digits_value_append_singleton [tens] units
      rw [List.nil_append] at value
      rw [List.singleton_append] at total
      omega
  | first :: second :: third :: rest =>
      rw [isLimitText] at accepted
      · rw [beq_iff_eq.mp accepted]
        decide
      · simp
      · simp

/-- The number of users that a call asks for. -/
def limitOf : Option String → Nat
  | none => 25
  | some text => IsoInstants.digitsValue text.toList

def LimitAccepted (limit : Option String) : Prop :=
  ∀ text ∈ limit, isLimitText text.toList = true

theorem limit_of_positive {limit : Option String} (accepted : LimitAccepted limit) :
    0 < limitOf limit := by
  cases limit with
  | none => decide
  | some text => exact limit_positive (accepted text rfl)

theorem query_limit_ok {limit : Option String} {count : Nat} :
    queryLimit (limit.map Json.string) = .ok count ↔
      LimitAccepted limit ∧ limitOf limit = count := by
  cases limit with
  | none => simp [queryLimit, LimitAccepted, limitOf]
  | some text =>
      by_cases accepted : isLimitText text.toList = true <;>
        simp [queryLimit, LimitAccepted, limitOf, accepted]

/-- A cursor that is not refused for its length. -/
def CursorFits (cursor : Option String) : Prop :=
  ∀ text ∈ cursor, text.toList ≠ [] ∧ utf16Length text.toList ≤ 512

theorem query_cursor_ok {cursor result : Option String} :
    queryCursor (cursor.map Json.string) = .ok result ↔ CursorFits cursor ∧ cursor = result := by
  cases cursor with
  | none => simp [queryCursor, CursorFits]
  | some text =>
      by_cases refused : text.toList = [] ∨ utf16Length text.toList > 512
      · have unfit : ¬ CursorFits (some text) := by
          intro fits
          obtain ⟨nonempty, short⟩ := fits text rfl
          exact refused.elim nonempty (Nat.not_lt.mpr short)
        rw [Option.map_some, queryCursor, if_pos refused]
        simp [unfit]
      · obtain ⟨nonempty, short⟩ := not_or.mp refused
        have fits : CursorFits (some text) := by
          rintro other ⟨⟩
          exact ⟨nonempty, Nat.le_of_not_lt short⟩
        rw [Option.map_some, queryCursor, if_neg refused]
        simp [fits]

theorem parse_list_query {limit cursor : Option String} {query : UserListQuery} :
    parseUserListQuery (listQuery limit cursor) = .ok query ↔
      LimitAccepted limit ∧ CursorFits cursor ∧ query = ⟨limitOf limit, cursor⟩ := by
  have closed : closedRecord (listQuery limit cursor) ["limit", "cursor"] =
      .ok (listQuery limit cursor) := by
    cases limit <;> cases cursor <;> rfl
  have limitField : (listQuery limit cursor).field "limit" = limit.map Json.string := by
    cases limit <;> cases cursor <;> rfl
  have cursorField : (listQuery limit cursor).field "cursor" = cursor.map Json.string := by
    cases limit <;> cases cursor <;> rfl
  simp only [parseUserListQuery, bind_ok, closed, Except.ok.injEq, exists_eq_left', limitField,
    cursorField, query_limit_ok, query_cursor_ok]
  constructor
  · rintro ⟨count, ⟨accepted, rfl⟩, text, ⟨fits, rfl⟩, same⟩
    exact ⟨accepted, fits, (Except.ok.inj same).symm⟩
  · rintro ⟨accepted, fits, rfl⟩
    exact ⟨_, ⟨accepted, rfl⟩, _, ⟨fits, rfl⟩, rfl⟩

theorem utf16_length_plain {text : List Char} (plain : text.all isPlain = true) :
    utf16Length text = text.length := by
  have units : text.map (fun character => if character.toNat < 0x10000 then 1 else 2) =
      List.replicate text.length 1 := by
    rw [← List.map_const']
    refine List.map_congr_left fun character member => if_pos ?_
    have ascii := plain_ascii plain character member
    omega
  rw [utf16Length, units, List.sum_replicate_nat, Nat.mul_one]

theorem cursor_text_fits (listable : Listable row) :
    CursorFits (some (cursorText runtime row)) := by
  intro text same
  obtain rfl := Option.some.inj same
  obtain ⟨positive, short⟩ := @payload_text_length runtime
    ⟨timestamptzText row.createdAt, uuidText row.id⟩ (is_timestamp_text listable.dated)
    listable.versioned
  have plain : (cursorText runtime row).toList.all isPlain = true := by
    rw [cursorText, String.toList_ofList]
    exact List.all_eq_true.mpr fun character member =>
      base64_url_plain (Sessions.Base64UrlText.encoded_characters _ character member)
  rw [utf16_length_plain plain, cursorText, String.toList_ofList]
  exact ⟨List.ne_nil_of_length_pos positive, short⟩

/-- The page that a call answers with, from the rows behind the boundary. -/
def pageOf (runtime : CursorRuntime) (limit : Nat) (rows : List User) : UserListPage :=
  ⟨(rows.take limit).map fun row => toTenantUser (userProjection row),
    (if limit < rows.length then (rows.take limit).getLast? else none).map (cursorText runtime)⟩

theorem next_cursor_encodes (limit : Nat) {rows : List User}
    (listable : ∀ row ∈ rows, Listable row) :
    (if (rows.map userProjection).length > limit then
        ((rows.map userProjection).take limit).getLast? else none).mapM
      (fun row => encodeUsersCursor runtime ⟨row.createdAt, row.id⟩) =
      .ok (pageOf runtime limit rows).nextCursor := by
  rw [List.length_map, ← List.map_take, List.getLast?_map, pageOf]
  split_ifs
  · cases final : (rows.take limit).getLast? with
    | none => rfl
    | some last =>
        have member := List.mem_of_mem_take (List.mem_of_getLast? final)
        have encodes : encodeUsersCursor runtime
            ⟨(userProjection last).createdAt, (userProjection last).id⟩ =
            .ok (cursorText runtime last) := encode_listable runtime (listable last member)
        rw [Option.map_some, Option.map_some, Option.mapM_some, encodes]
        rfl
  · rfl

theorem list_users_page {limit cursor : Option String} {decoded : Option UserCursorBoundary}
    {rows : List User} (accepted : LimitAccepted limit) (fits : CursorFits cursor)
    (decodes : cursor.mapM (decodeUsersCursor runtime) = .ok decoded)
    (selected : listRows users tenantId (limitOf limit) decoded = some (rows.map userProjection))
    (listable : ∀ row ∈ rows, Listable row) :
    listUsers runtime users tenantId (listQuery limit cursor) =
      .ok (pageOf runtime (limitOf limit) rows) := by
  have parsed := parse_list_query.mpr ⟨accepted, fits, rfl⟩
  have encodes := @next_cursor_encodes runtime (limitOf limit) rows listable
  simp only [listUsers, parsed, decodes, selected, encodes, bind_ok, Except.ok.injEq,
    exists_eq_left']
  rw [← List.map_take, List.map_map]
  rfl

end Calls

section Positions

variable {runtime : CursorRuntime} {tenantId : Uuid} {users : UserTable} {row : User}
  {phase : WalkPhase} {limit : Option String}

/-- The key that a cursor names. -/
def cursorBoundary (runtime : CursorRuntime) (cursor : String) : Boundary (Nat ×ₗ Nat) :=
  match (readUsersCursor runtime cursor).bind fun boundary => boundaryParameters (some boundary) with
  | some (some key) => behind (toLex ((ofLex key).1.toNat, (ofLex key).2))
  | _ => ⊥

/-- Where a client stands in the order of the keys. -/
def boundaryOf (runtime : CursorRuntime) : WalkPhase → Boundary (Nat ×ₗ Nat)
  | .starting => ⊤
  | .following cursor => cursorBoundary runtime cursor
  | .ended => ⊥

/-- A cursor that is followed has been handed out. -/
def Positioned (runtime : CursorRuntime) (phase : WalkPhase) : Prop :=
  ∀ cursor, phase = .following cursor → ∃ row, Listable row ∧ cursor = cursorText runtime row

theorem cursor_boundary_some {cursor : String} {key : Int ×ₗ Nat}
    (located : ((readUsersCursor runtime cursor).bind fun boundary =>
      boundaryParameters (some boundary)) = some (some key)) :
    cursorBoundary runtime cursor = behind (toLex ((ofLex key).1.toNat, (ofLex key).2)) := by
  unfold cursorBoundary
  rw [located]

theorem boundary_following (reads : ReadsBack runtime) (listable : Listable row) :
    boundaryOf runtime (.following (cursorText runtime row)) = behind (userKey row) := by
  have follows : ∀ cursor, boundaryOf runtime (.following cursor) =
      cursorBoundary runtime cursor := fun _ => rfl
  have read := (read_users_cursor_iff reads).mpr (encode_listable runtime listable)
  have located : ((readUsersCursor runtime (cursorText runtime row)).bind fun boundary =>
      boundaryParameters (some boundary)) =
      some (some (toLex ((row.createdAt : Int), row.id))) := by
    rw [read, Option.bind_some]
    exact boundary_listable listable
  rw [follows, cursor_boundary_some located, ofLex_toLex, Int.toNat_natCast]
  rfl

theorem boundary_unfinished (reads : ReadsBack runtime) (positioned : Positioned runtime phase)
    (unfinished : phase ≠ .ended) : boundaryOf runtime phase ≠ ⊥ := by
  cases phase with
  | starting => exact nofun
  | following cursor =>
      obtain ⟨row, rowListable, rfl⟩ := positioned cursor rfl
      rw [boundary_following reads rowListable]
      exact WithBot.coe_ne_bot
  | ended => exact absurd rfl unfinished

theorem page_listable {boundary : Boundary (Nat ×ₗ Nat)} {count : Nat}
    (listable : ∀ row ∈ users, Listable row) :
    ∀ row ∈ page userKey boundary count (tenantUsers users tenantId), Listable row := by
  intro row member
  have stored := (mem_remaining.mp (List.mem_of_mem_take member)).1
  exact listable row (List.mem_of_mem_filter stored)

theorem first_call (accepted : LimitAccepted limit) (listable : ∀ row ∈ users, Listable row) :
    listUsers runtime users tenantId (listQuery limit none) =
      .ok (pageOf runtime (limitOf limit)
        (page userKey ⊤ (limitOf limit) (tenantUsers users tenantId))) :=
  list_users_page accepted nofun rfl (list_rows_start _ _ _) (page_listable listable)

theorem decode_some (reads : ReadsBack runtime) (rowListable : Listable row) :
    (some (cursorText runtime row)).mapM (decodeUsersCursor runtime) =
      .ok (some ⟨timestamptzText row.createdAt, uuidText row.id⟩) := by
  rw [Option.mapM_some, decode_listable reads rowListable]
  rfl

theorem later_call (reads : ReadsBack runtime) (accepted : LimitAccepted limit)
    (rowListable : Listable row) (listable : ∀ row ∈ users, Listable row) :
    listUsers runtime users tenantId (listQuery limit (some (cursorText runtime row))) =
      .ok (pageOf runtime (limitOf limit)
        (page userKey (behind (userKey row)) (limitOf limit) (tenantUsers users tenantId))) :=
  list_users_page accepted (cursor_text_fits rowListable) (decode_some reads rowListable)
    (list_rows_behind _ _ _ rowListable) (page_listable listable)

theorem list_call (reads : ReadsBack runtime) (positioned : Positioned runtime phase)
    (unfinished : phase ≠ .ended) (accepted : LimitAccepted limit)
    (listable : ∀ row ∈ users, Listable row) :
    listUsers runtime users tenantId (listQuery limit phase.cursor) =
      .ok (pageOf runtime (limitOf limit)
        (page userKey (boundaryOf runtime phase) (limitOf limit)
          (tenantUsers users tenantId))) := by
  cases phase with
  | starting => exact first_call accepted listable
  | following cursor =>
      obtain ⟨row, rowListable, rfl⟩ := positioned cursor rfl
      rw [boundary_following reads rowListable]
      exact later_call reads accepted rowListable listable
  | ended => exact absurd rfl unfinished

/-- The cursor of a page takes the client behind the last row of the page. -/
theorem phase_after_page (reads : ReadsBack runtime) {count : Nat} (positive : 0 < count)
    {rows : List User} (listable : ∀ row ∈ rows, Listable row) :
    boundaryOf runtime (phaseAfter (pageOf runtime count rows)) =
        nextBoundary userKey count rows ∧
      Positioned runtime (phaseAfter (pageOf runtime count rows)) := by
  rcases next_boundary_cases userKey count positive rows with
    ⟨more, earlier, last, split, next⟩ | ⟨few, next⟩
  · have member : last ∈ rows := by
      refine List.mem_of_mem_take (i := count) ?_
      rw [split]
      exact List.mem_append_right _ List.mem_cons_self
    have after : phaseAfter (pageOf runtime count rows) =
        .following (cursorText runtime last) := by
      simp only [phaseAfter, pageOf, if_pos more, split, List.getLast?_concat, Option.map_some]
    rw [after, next]
    refine ⟨boundary_following reads (listable last member), fun cursor same => ?_⟩
    exact ⟨last, listable last member, (WalkPhase.following.inj same).symm⟩
  · have after : phaseAfter (pageOf runtime count rows) = .ended := by
      simp only [phaseAfter, pageOf, if_neg (Nat.not_lt.mpr few), Option.map_none]
    rw [after, next]
    exact ⟨rfl, nofun⟩

end Positions

section Changes

variable {locale : DbLocale} {users changed : UserTable} {tenantId : Uuid}

def tenantKeys (users : UserTable) (tenantId : Uuid) : List (Nat ×ₗ Nat) :=
  (tenantUsers users tenantId).map userKey

theorem mem_tenant_keys {key : Nat ×ₗ Nat} :
    key ∈ tenantKeys users tenantId ↔
      ∃ user ∈ users, user.tenantId = tenantId ∧ userKey user = key := by
  simp only [tenantKeys, tenantUsers, List.mem_map, List.mem_filter, decide_eq_true_eq, and_assoc,
    KeyedTable.mem_rows]

/-- Other requests take no user away, and change no key. -/
structure Grows (users changed : UserTable) : Prop where
  keys : ∀ tenantId, tenantKeys users tenantId ⊆ tenantKeys changed tenantId
  listable : (∀ row ∈ users, Listable row) → ∀ row ∈ changed, Listable row

theorem created_grows {new : User} (listable : Listable new)
    (created : createdUser locale users new = some changed) : Grows users changed := by
  unfold createdUser at created
  split at created
  · rename_i row inserted
    obtain rfl := insert_user_row_ok inserted
    split_ifs at created with fresh
    obtain rfl := Option.some.inj created
    constructor
    · intro tenantId key member
      obtain ⟨user, stored, owner, same⟩ := mem_tenant_keys.mp member
      exact mem_tenant_keys.mpr ⟨user, KeyedTable.mem_insert_of_mem stored, owner, same⟩
    · intro before other member
      exact (KeyedTable.mem_of_mem_insert member).elim (before other) fun same => same ▸ listable
  · cases created

theorem patched_grows {id : Uuid} {changes : UserPatchChanges} {now : Instant}
    (patched : patchedUser locale users id changes now = some changed) : Grows users changed := by
  obtain ⟨old, found, patched⟩ := Option.bind_eq_some_iff.mp patched
  have stored := KeyedTable.mem_of_find found
  split at patched
  · rename_i row updated
    split_ifs at patched with free
    obtain rfl := Option.some.inj patched
    have built := update_user_row_ok updated
    have sameId : row.id = old.id := by rw [built]; rfl
    have sameTenant : row.tenantId = old.tenantId := by rw [built]; rfl
    have sameKey : userKey row = userKey old := by rw [built]; rfl
    have versioned : Listable old → Listable row := by
      intro listable
      rw [built]
      exact ⟨listable.versioned, listable.dated⟩
    have replaced : row ∈ users.put row :=
      KeyedTable.mem_put.mpr (Or.inl ⟨rfl, old, stored, sameId.symm⟩)
    constructor
    · intro tenantId key member
      obtain ⟨user, userStored, owner, same⟩ := mem_tenant_keys.mp member
      refine mem_tenant_keys.mpr ?_
      by_cases target : user.id = row.id
      · have isOld := KeyedTable.eq_of_key userStored stored (target.trans sameId)
        subst isOld
        exact ⟨row, replaced, sameTenant.trans owner, sameKey.trans same⟩
      · exact ⟨user, KeyedTable.mem_put.mpr (Or.inr ⟨userStored, target⟩), owner, same⟩
    · intro before other member
      rcases KeyedTable.mem_put.mp member with ⟨rfl, -⟩ | ⟨untouched, -⟩
      · exact versioned (before old stored)
      · exact before other untouched
  · cases patched

end Changes

section Runs

variable {runtime : CursorRuntime} {locale : DbLocale} {tenantId : Uuid} {start : UserTable}
  {walk next : UsersWalk}

/-- What a client has been given at its position. -/
structure Given (tenantId : Uuid) (start : UserTable) (boundary : Boundary (Nat ×ₗ Nat))
    (users : UserTable) (given : List TenantUser) (rows : List User) : Prop where
  given : given = rows.map fun row => toTenantUser (userProjection row)
  returned : Returned userKey boundary rows
  stored : ∀ row ∈ rows, userKey row ∈ tenantKeys users tenantId
  covered : ∀ key ∈ tenantKeys start tenantId, Covered userKey boundary rows key

structure Walking (runtime : CursorRuntime) (tenantId : Uuid) (start : UserTable)
    (walk : UsersWalk) : Prop where
  listable : ∀ row ∈ walk.users, Listable row
  positioned : Positioned runtime walk.phase
  present : tenantKeys start tenantId ⊆ tenantKeys walk.users tenantId
  given : ∃ rows, Given tenantId start (boundaryOf runtime walk.phase) walk.users
    (returnedUsers walk) rows

theorem walking_start (runtime : CursorRuntime) (tenantId : Uuid)
    (listable : ∀ row ∈ start, Listable row) :
    Walking runtime tenantId start (walkStart start) :=
  ⟨listable, nofun, fun _ => id, [], rfl, returned_nil _ _, nofun,
    fun key _ => covered_start key⟩

theorem walking_grows {changed : UserTable} (before : Walking runtime tenantId start walk)
    (grows : Grows walk.users changed) :
    Walking runtime tenantId start { walk with users := changed } := by
  obtain ⟨rows, given⟩ := before.given
  exact ⟨grows.listable before.listable, before.positioned,
    fun _ member => grows.keys tenantId (before.present member), rows, given.given, given.returned,
    fun row member => grows.keys tenantId (given.stored row member), given.covered⟩

/-- What a call does to a walk. -/
theorem list_step_cases {limit : Option String}
    (taken : walkStep runtime locale tenantId walk (.list limit) = some next) :
    walk.phase ≠ .ended ∧ ∃ answer,
      listUsers runtime walk.users tenantId (listQuery limit walk.phase.cursor) = .ok answer ∧
      next = { walk with phase := phaseAfter answer, pages := walk.pages ++ [answer] } := by
  have unfinished : walk.phase ≠ .ended := by
    intro ended
    simp only [walkStep, ended] at taken
    cases taken
  refine ⟨unfinished, ?_⟩
  simp only [walkStep] at taken
  split at taken
  · exact ⟨_, ‹_›, (Option.some.inj taken).symm⟩
  · cases taken

theorem accepted_of_list {limit cursor : Option String} {users : UserTable} {answer : UserListPage}
    (listed : listUsers runtime users tenantId (listQuery limit cursor) = .ok answer) :
    LimitAccepted limit := by
  obtain ⟨parsed, accepted, -⟩ := bind_ok.mp listed
  exact (parse_list_query.mp accepted).1

theorem list_step (reads : ReadsBack runtime) {limit : Option String}
    (before : Walking runtime tenantId start walk)
    (taken : walkStep runtime locale tenantId walk (.list limit) = some next) :
    Walking runtime tenantId start next ∧
      boundaryOf runtime next.phase < boundaryOf runtime walk.phase := by
  obtain ⟨unfinished, answer, listed, rfl⟩ := list_step_cases taken
  have accepted := accepted_of_list listed
  have positive := limit_of_positive accepted
  rw [list_call reads before.positioned unfinished accepted before.listable] at listed
  obtain rfl := Except.ok.inj listed
  have pageListable : ∀ row ∈ page userKey (boundaryOf runtime walk.phase) (limitOf limit)
      (tenantUsers walk.users tenantId), Listable row := page_listable before.listable
  obtain ⟨after, positioned⟩ := phase_after_page reads positive pageListable
  have distinct := tenant_keys_nodup walk.users tenantId
  obtain ⟨rows, given⟩ := before.given
  refine ⟨⟨before.listable, positioned, before.present, rows ++ (page userKey
    (boundaryOf runtime walk.phase) (limitOf limit) (tenantUsers walk.users tenantId)).take
      (limitOf limit), ?_, ?_, ?_, ?_⟩, ?_⟩
  · rw [returnedUsers, List.flatMap_append, List.flatMap_singleton, List.map_append]
    exact congrArg (· ++ _) given.given
  · dsimp only
    rw [after]
    exact returned_page given.returned distinct positive
  · intro row member
    rcases List.mem_append.mp member with old | new
    · exact given.stored row old
    · exact List.mem_map_of_mem (mem_selected new).1
  · intro key member
    dsimp only
    rw [after]
    exact covered_page (given.covered key member) distinct positive (before.present member)
  · dsimp only
    rw [after]
    exact next_boundary_lt positive (boundary_unfinished reads before.positioned unfinished)

theorem step_walking (reads : ReadsBack runtime) {action : WalkAction}
    (before : Walking runtime tenantId start walk) (creates : CreatesListable walk action)
    (taken : walkStep runtime locale tenantId walk action = some next) :
    Walking runtime tenantId start next ∧
      boundaryOf runtime next.phase ≤ boundaryOf runtime walk.phase := by
  cases action with
  | create new =>
      obtain ⟨changed, created, rfl⟩ := Option.map_eq_some_iff.mp taken
      exact ⟨walking_grows before (created_grows creates created), le_refl _⟩
  | patch id changes now =>
      obtain ⟨changed, patched, rfl⟩ := Option.map_eq_some_iff.mp taken
      exact ⟨walking_grows before (patched_grows patched), le_refl _⟩
  | list limit =>
      obtain ⟨after, lower⟩ := list_step reads before taken
      exact ⟨after, le_of_lt lower⟩

theorem list_step_answers {limit : Option String} {answer : UserListPage}
    (unfinished : walk.phase ≠ .ended)
    (listed : listUsers runtime walk.users tenantId (listQuery limit walk.phase.cursor) =
      .ok answer) :
    ∃ next, walkStep runtime locale tenantId walk (.list limit) = some next := by
  obtain ⟨users, phase, pages⟩ := walk
  cases phase with
  | ended => exact absurd rfl unfinished
  | starting | following =>
      simp only [walkStep]
      rw [listed]
      exact ⟨_, rfl⟩

theorem goes_on (reads : ReadsBack runtime) (walking : Walking runtime tenantId start walk)
    (unfinished : walk.phase ≠ .ended) : GoesOn runtime locale tenantId walk := by
  have call : ∀ limit, LimitAccepted limit →
      ∃ next, walkStep runtime locale tenantId walk (.list limit) = some next :=
    fun limit accepted => list_step_answers unfinished
      (list_call reads walking.positioned unfinished accepted walking.listable)
  exact ⟨call none nofun, fun limit accepted => call (some limit) fun _ same =>
    Option.some.inj same ▸ accepted⟩

theorem unfinished_of_more {limit : Nat} {rows : List User} (positive : 0 < limit)
    (more : limit < rows.length) : phaseAfter (pageOf runtime limit rows) ≠ .ended := by
  have nonempty : rows.take limit ≠ [] := by
    rw [← List.length_pos_iff, List.length_take]
    omega
  simp only [phaseAfter, pageOf, if_pos more, List.getLast?_eq_some_getLast nonempty,
    Option.map_some]
  nofun

/-- A call whose limit no number of users exceeds is the last one. -/
theorem last_call (reads : ReadsBack runtime) (walking : Walking runtime tenantId start walk)
    (unfinished : walk.phase ≠ .ended) {limit : Option String} (accepted : LimitAccepted limit)
    (few : walk.users.rows.length ≤ limitOf limit) :
    ∃ next, walkStep runtime locale tenantId walk (.list limit) = some next ∧
      next.phase = .ended := by
  have answered := @list_call runtime tenantId walk.users walk.phase limit reads
    walking.positioned unfinished accepted walking.listable
  obtain ⟨next, taken⟩ := @list_step_answers runtime locale tenantId walk _ _ unfinished answered
  obtain ⟨-, answer, listed, rfl⟩ := list_step_cases taken
  obtain rfl := Except.ok.inj (listed.symm.trans answered)
  have length : (page userKey (boundaryOf runtime walk.phase) (limitOf limit)
      (tenantUsers walk.users tenantId)).length ≤ limitOf limit :=
    calc (page userKey (boundaryOf runtime walk.phase) (limitOf limit)
          (tenantUsers walk.users tenantId)).length
        ≤ (tenantUsers walk.users tenantId).length := page_length_le _ _ _ _
      _ ≤ walk.users.rows.length := List.length_filter_le _ _
      _ ≤ limitOf limit := few
  refine ⟨_, taken, ?_⟩
  simp only [phaseAfter, pageOf, if_neg (Nat.not_lt.mpr length), Option.map_none]

theorem in_order (walking : Walking runtime tenantId start walk) : InOrder tenantId walk := by
  obtain ⟨rows, given⟩ := walking.given
  refine ⟨rows, given.given, given.returned.decreasing, fun row member => ?_⟩
  exact mem_tenant_keys.mp (given.stored row member)

/-- Past the last page everything has been covered. -/
theorem each_once (walking : Walking runtime tenantId start walk) (ended : walk.phase = .ended) :
    EachOnce tenantId start walk := by
  intro user stored owner
  obtain ⟨rows, given⟩ := walking.given
  have wanted : userKey user ∈ tenantKeys start tenantId :=
    mem_tenant_keys.mpr ⟨user, stored, owner, rfl⟩
  obtain ⟨current, currentStored, -, currentKey⟩ := mem_tenant_keys.mp (walking.present wanted)
  have reached : userKey user ∈ rows.map userKey := by
    refine given.covered _ wanted ?_
    rw [ended]
    exact bot_le
  -- a row has the identifier exactly when it has the key
  have sameRows : ∀ row ∈ rows, (uuidText row.id = uuidText user.id ↔
      userKey row = userKey user) := by
    intro row member
    constructor
    · intro same
      obtain ⟨other, otherStored, -, otherKey⟩ := mem_tenant_keys.mp (given.stored row member)
      have ids : other.id = current.id := by
        have otherId : other.id = row.id := congrArg (fun key => (ofLex key).2) otherKey
        have currentId : current.id = user.id := congrArg (fun key => (ofLex key).2) currentKey
        rw [otherId, currentId]
        exact uuid_text_injective same
      rw [← otherKey, ← currentKey, KeyedTable.eq_of_key otherStored currentStored ids]
    · intro same
      have ids : row.id = user.id := congrArg (fun key => (ofLex key).2) same
      rw [ids]
  have distinct : (rows.map userKey).Nodup :=
    List.pairwise_map.mpr (given.returned.decreasing.imp fun less => (ne_of_lt less).symm)
  have counted := List.count_eq_one_of_mem distinct reached
  rw [List.count, List.countP_map] at counted
  rw [given.given, List.countP_map, ← counted]
  refine List.countP_congr fun row member => ?_
  simp only [Function.comp_apply, decide_eq_true_eq, beq_iff_eq]
  exact sameRows row member

theorem walks_end (reads : ReadsBack runtime) (locale : DbLocale)
    (listable : ∀ row ∈ start, Listable row) : WalksEnd runtime locale tenantId start := by
  intro actions walks initially creates steps
  have walking : ∀ n, Walking runtime tenantId start (walks n) := by
    intro n
    induction n with
    | zero =>
        rw [initially]
        exact walking_start runtime tenantId listable
    | succ n induction => exact (step_walking reads induction (creates n) (steps n)).1
  obtain ⟨n, settled⟩ := finitely_many_falls (fun n => boundaryOf runtime (walks n).phase)
    (fun n => ∃ limit, actions n = .list limit)
    (fun n => (step_walking reads (walking n) (creates n) (steps n)).2) (by
      rintro n ⟨limit, called⟩
      have taken := steps n
      rw [called] at taken
      exact (list_step reads (walking n) taken).2)
  exact ⟨n, fun later after limit called => settled later after ⟨limit, called⟩⟩

theorem cursors_exact (reads : ReadsBack runtime) : CursorsExact runtime := by
  intro cursor
  refine ⟨fun boundary encoded => (decode_users_cursor_iff reads).mpr encoded, fun foreign => ?_⟩
  rw [decodeUsersCursor]
  cases read : readUsersCursor runtime cursor with
  | none => rfl
  | some boundary => exact absurd ((read_users_cursor_iff reads).mp read) (foreign boundary)

/-- A client that follows the cursors gets every user once, in order, and comes to an end. -/
theorem users_walk_complete (runtime : CursorRuntime) (reads : ReadsBack runtime)
    (locale : DbLocale) (tenantId : Uuid) (start : UserTable)
    (listable : ∀ row ∈ start, Listable row) :
    (∀ (schedule : List WalkAction) (walk : UsersWalk),
      Along (walkStep runtime locale tenantId) CreatesListable (walkStart start) schedule →
      execute (walkStep runtime locale tenantId) (walkStart start) schedule = some walk →
      InOrder tenantId walk ∧ (walk.phase ≠ .ended → GoesOn runtime locale tenantId walk) ∧
        (walk.phase = .ended → EachOnce tenantId start walk)) ∧
    WalksEnd runtime locale tenantId start ∧ CursorsExact runtime := by
  refine ⟨fun schedule walk creates arrived => ?_, walks_end reads locale listable,
    cursors_exact reads⟩
  have walking : Walking runtime tenantId start walk :=
    execute_preserves (fun _ _ _ before good taken => (step_walking reads before good taken).1)
      (walking_start runtime tenantId listable) creates arrived
  exact ⟨in_order walking, goes_on reads walking, each_once walking⟩

end Runs

section Example

/-- Reads the three texts of a payload. -/
def readPayload (text : String) : Option Json :=
  let fromCreated := text.toList.drop 21
  let createdAt := fromCreated.takeWhile (· != '"')
  let fromId := fromCreated.drop (createdAt.length + 8)
  let id := fromId.takeWhile (· != '"')
  let fromCheck := fromId.drop (id.length + 11)
  let check := fromCheck.takeWhile (· != '"')
  let payload := cursorPayload (String.ofList createdAt) (String.ofList id) (String.ofList check)
  if jsonText integerText payload = text.toList then some payload else none

/-- `digest` is the SHA-256 of the text that the checksum of the one cursor is taken of. -/
def exampleRuntime : CursorRuntime where
  sha256 bytes :=
    if bytes = utf8Bytes ("users-cursor:v1\n2026-01-01T00:00:00.000000Z\n" ++
        "11111111-1111-4111-8111-111111111112").toList then
      [184, 87, 4, 113, 190, 6, 138, 129, 9, 39, 77, 139, 204, 19, 48, 137, 201, 210, 254, 201,
        64, 82, 151, 218, 86, 82, 232, 152, 124, 119, 161, 86]
    else []
  decodeUtf8 bytes := String.ofList (bytes.map fun byte => Char.ofNat byte.toNat)
  parseJson := readPayload

theorem take_while_plain {text rest : List Char} (plain : text.all isPlain = true) :
    (text ++ '"' :: rest).takeWhile (· != '"') = text := by
  rw [List.takeWhile_append_of_pos, List.takeWhile_cons_of_neg (by decide), List.append_nil]
  intro character member
  have each := List.all_eq_true.mp plain character member
  simp only [isPlain, Bool.and_eq_true] at each
  exact each.1.2

theorem example_reads_back : ReadsBack exampleRuntime where
  utf8 text ascii := by
    have each : ∀ character ∈ text, Char.ofNat (UInt8.ofNat character.toNat).toNat = character := by
      intro character member
      have small := ascii character member
      rw [UInt8.toNat_ofNat', Nat.mod_eq_of_lt (by omega), Char.ofNat_toNat]
    change String.ofList _ = _
    rw [utf8_ascii ascii, List.map_map]
    exact congrArg String.ofList ((List.map_congr_left each).trans (List.map_id' text))
  json createdAt id check createdPlain idPlain checkPlain := by
    obtain ⟨text, isText⟩ : ∃ text, text =
        String.ofList (jsonText integerText (cursorPayload createdAt id check)) := ⟨_, rfl⟩
    have whole : jsonText integerText (cursorPayload createdAt id check) = text.toList := by
      rw [isText, String.toList_ofList]
    have written := payload_json_text createdPlain idPlain checkPlain
    have opening : "\x7b\"v\":1,\"created_at\":\"".toList.length = 21 := by decide
    have between : "\",\"id\":\"".toList = '"' :: ",\"id\":\"".toList := by decide
    have beforeCheck : "\",\"check\":\"".toList = '"' :: ",\"check\":\"".toList := by decide
    have closing : "\"\x7d".toList = '"' :: ['\x7d'] := by decide
    obtain ⟨fromCheck, isCheck⟩ : ∃ rest, rest = check.toList ++ '"' :: ['\x7d'] := ⟨_, rfl⟩
    obtain ⟨fromId, isId⟩ : ∃ rest, rest =
        id.toList ++ '"' :: (",\"check\":\"".toList ++ fromCheck) := ⟨_, rfl⟩
    obtain ⟨fromCreated, isCreated⟩ : ∃ rest, rest =
        createdAt.toList ++ '"' :: (",\"id\":\"".toList ++ fromId) := ⟨_, rfl⟩
    have first : text.toList.drop 21 = fromCreated := by
      rw [← whole, written, List.drop_left' opening, isCreated, isId, isCheck, between,
        beforeCheck, closing]
      rfl
    have second : fromCreated.drop (createdAt.toList.length + 8) = fromId := by
      rw [isCreated, List.drop_append, List.drop_of_length_le (by omega), Nat.add_sub_cancel_left]
      rfl
    have third : fromId.drop (id.toList.length + 11) = fromCheck := by
      rw [isId, List.drop_append, List.drop_of_length_le (by omega), Nat.add_sub_cancel_left]
      rfl
    have createdText : fromCreated.takeWhile (· != '"') = createdAt.toList := by
      rw [isCreated, take_while_plain createdPlain]
    have idText : fromId.takeWhile (· != '"') = id.toList := by
      rw [isId, take_while_plain idPlain]
    have checkText : fromCheck.takeWhile (· != '"') = check.toList := by
      rw [isCheck, take_while_plain checkPlain]
    rw [← isText]
    change readPayload text = _
    simp only [readPayload, first, createdText, second, idText, third, checkText,
      String.ofList_toList, if_pos whole]

def exampleUser (id : Uuid) (email : String) : User :=
  ⟨id, 1, email, "User", .finopsAnalyst, true, 1767225600000000, 1767225600000000⟩

/-- Three users of one creation time. -/
def exampleUsers : UserTable where
  rows := [exampleUser 22685491128062790912553268770669400337 "a@example.invalid",
    exampleUser 22685491128062790912553268770669400339 "b@example.invalid",
    exampleUser 22685491128062790912553268770669400338 "c@example.invalid"]
  distinct := by decide

def exampleLocale : DbLocale := ⟨id, fun character => character == ' '⟩

/-- The calls have limits of their own; between them a user is patched. -/
def exampleSchedule : List WalkAction :=
  [.list (some "2"),
    .patch 22685491128062790912553268770669400337 ⟨none, some "Renamed", none, none⟩
      1767225700000000,
    .list none]

def WalkPhase.isEnded : WalkPhase → Bool
  | .ended => true
  | .starting | .following _ => false

theorem example_listable : ∀ row ∈ exampleUsers, Listable row := by
  intro row member
  simp only [exampleUsers, ← KeyedTable.mem_rows, List.mem_cons, List.not_mem_nil, or_false]
    at member
  rcases member with rfl | rfl | rfl <;>
    exact ⟨by decide, by decide +kernel, by decide +kernel⟩

/-- Two calls are enough for three users. -/
theorem example_ends :
    ∃ walk, execute (walkStep exampleRuntime exampleLocale 1) (walkStart exampleUsers)
      exampleSchedule = some walk ∧ walk.phase = .ended := by
  have started := walking_start exampleRuntime 1 example_listable
  have answered := @first_call exampleRuntime 1 exampleUsers (some "2")
    (fun text same => by cases same; decide) example_listable
  obtain ⟨first, firstStep⟩ := @list_step_answers exampleRuntime exampleLocale 1
    (walkStart exampleUsers) _ _ nofun answered
  have second := (@step_walking exampleRuntime exampleLocale 1 exampleUsers _ _
    example_reads_back (.list (some "2")) started trivial firstStep).1
  obtain ⟨-, answer, listed, rfl⟩ := list_step_cases firstStep
  cases listed.symm.trans answered
  have unfinished : phaseAfter (pageOf exampleRuntime (limitOf (some "2"))
      (page userKey ⊤ (limitOf (some "2")) (tenantUsers exampleUsers 1))) ≠ .ended := by
    have three : (page userKey ⊤ (limitOf (some "2")) (tenantUsers exampleUsers 1)).length = 3 := by
      decide
    exact unfinished_of_more (by decide) (by rw [three]; decide)
  have patched : (patchedUser exampleLocale exampleUsers 22685491128062790912553268770669400337
      ⟨none, some "Renamed", none, none⟩ 1767225700000000).any
        (fun users => users.rows.length ≤ 25) = true := by
    decide
  obtain ⟨changed, change, few⟩ := (Option.any_eq_true _ _).mp patched
  have patchStep : ∀ walk : UsersWalk, walk.users = exampleUsers →
      walkStep exampleRuntime exampleLocale 1 walk (.patch 22685491128062790912553268770669400337
        ⟨none, some "Renamed", none, none⟩ 1767225700000000) =
          some { walk with users := changed } := by
    intro walk same
    rw [walkStep, same, change]
    rfl
  have third := (@step_walking exampleRuntime exampleLocale 1 exampleUsers _ _
    example_reads_back (.patch 22685491128062790912553268770669400337
      ⟨none, some "Renamed", none, none⟩ 1767225700000000) second trivial (patchStep _ rfl)).1
  obtain ⟨final, lastStep, ended⟩ := @last_call exampleRuntime exampleLocale 1 exampleUsers _
    example_reads_back third unfinished none nofun (of_decide_eq_true few)
  refine ⟨final, ?_, ended⟩
  rw [exampleSchedule, execute_cons, firstStep, Option.bind_some, execute_cons,
    patchStep _ rfl, Option.bind_some, execute_cons, lastStep]
  rfl

theorem users_walk_complete_tied :
    ∃ walk, execute (walkStep exampleRuntime exampleLocale 1) (walkStart exampleUsers)
        exampleSchedule = some walk ∧
      walk.phase.isEnded = true ∧ InOrder 1 walk ∧ EachOnce 1 exampleUsers walk := by
  obtain ⟨walk, arrived, phase⟩ := example_ends
  have complete := (users_walk_complete exampleRuntime example_reads_back exampleLocale 1
    exampleUsers example_listable).1 exampleSchedule walk
      (by simp [exampleSchedule, Along, CreatesListable]) arrived
  exact ⟨walk, arrived, by rw [phase]; rfl, complete.1, complete.2.2 phase⟩

end Example

end CommitmentOptimizer.Tenants.UsersPages
