import CommitmentOptimizer.PriceTables.PriceTableTransactions

/-!
# Active price tables do not overlap

The lock of an activation protects the active versions of its scope: no other
transaction adds one. What the `EXISTS` of the trigger has seen therefore still
holds when the activation commits.
-/

namespace CommitmentOptimizer.PriceTables.ActivePeriods

open Foundations
open Foundations.Schedules
open Foundations.SqlConstraints
open Foundations.RowLocking
open PriceTableVersions
open PriceTableItems
open PriceTableTransactions

set_option autoImplicit false

/-- The days of a version's effective period. -/
def effectiveOn (row : PriceTableVersion) (day : Int) : Prop :=
  row.effectiveFrom ≤ day ∧ ∀ last, row.effectiveTo = some last → day ≤ last

/-- No day is in the period of two active versions of one scope. -/
def ActiveApart (versions : PriceTableVersionTable) : Prop :=
  ∀ left ∈ versions, ∀ right ∈ versions, left.status = .active → right.status = .active →
    left.scope = right.scope → left ≠ right → ∀ day, ¬ (effectiveOn left day ∧ effectiveOn right day)

/-- What a key protects: a row, or the active versions of a scope against new ones. -/
def Same : PriceTablesKey → PriceTablesDb → PriceTablesDb → Prop
  | .version id, before, after => before.versions.find id = after.versions.find id
  | .activation scope, before, after => ∀ row ∈ after.versions, row.status = .active →
      row.scope = scope → row ∈ before.versions
  | .tenant _, _, _ | .label _ _, _, _ | .checksum _ _, _, _ | .item _, _, _ => True

/-- The columns of a version stay, and a version that has left `draft` is never a
draft again. -/
def Evolves (before after : PriceTablesDb) : Prop :=
  ∀ row ∈ before.versions, ∃ later ∈ after.versions,
    later.toPriceTableVersionIdentity = row.toPriceTableVersionIdentity ∧
      (row.status ≠ .draft → later.status ≠ .draft)

theorem evolves_refl (db : PriceTablesDb) : Evolves db db :=
  fun row member => ⟨row, member, rfl, fun left => left⟩

theorem evolves_trans (first second third : PriceTablesDb) (left : Evolves first second)
    (right : Evolves second third) : Evolves first third := by
  intro row member
  obtain ⟨middle, middleMember, sameMiddle, leftDraft⟩ := left row member
  obtain ⟨later, laterMember, sameLater, stays⟩ := right middle middleMember
  exact ⟨later, laterMember, sameLater.trans sameMiddle, fun status => stays (leftDraft status)⟩

theorem same_refl (key : PriceTablesKey) (db : PriceTablesDb) : Same key db db := by
  cases key with
  | version id => rfl
  | activation scope => exact fun row member _ _ => member
  | tenant id | label scope text | checksum scope text | item id => trivial

theorem same_trans (key : PriceTablesKey) (first second third : PriceTablesDb)
    (left : Same key first second) (right : Same key second third) : Same key first third := by
  cases key with
  | version id => exact Eq.trans left right
  | activation scope =>
      exact fun row member active same => left row (right row member active same) active same
  | tenant id | label scope text | checksum scope text | item id => trivial

theorem same_of_versions {key : PriceTablesKey} {before after : PriceTablesDb}
    (versions : after.versions = before.versions) : Same key before after := by
  cases key with
  | version id => exact congrArg (KeyedTable.find · id) versions.symm
  | activation scope => exact fun row member _ _ => versions ▸ member
  | tenant id | label scope text | checksum scope text | item id => trivial

theorem evolves_of_versions {before after : PriceTablesDb}
    (versions : after.versions = before.versions) : Evolves before after :=
  fun row member => ⟨row, versions.symm ▸ member, rfl, fun left => left⟩

def priceTablesContract :
    Contract PriceTablesDb PriceTablesKey PriceTablesAbort (Option PriceTableVersion)
      PriceTablesRequest where
  invariant db := ActiveApart db.versions
  evolves := Evolves
  same := Same
  onCommit _ _ _ _ _ := True
  onAbort _ _ _ _ := True
  evolves_refl := evolves_refl
  evolves_trans := evolves_trans
  same_refl := same_refl
  same_trans := same_trans

/-- The trigger's condition holds of any two periods with a common day. -/
theorem overlaps_of_day {new existing : PriceTableVersion} {day : Int}
    (active : existing.status = .active) (scope : existing.scope = new.scope)
    (other : existing.id ≠ new.id) (first : effectiveOn new day)
    (second : effectiveOn existing day) : overlaps new existing = true := by
  have ends (row : PriceTableVersion) (from_ : Int) (starts : from_ ≤ day)
      (covers : effectiveOn row day) : notAfter from_ row.effectiveTo = true := by
    unfold notAfter
    cases last : row.effectiveTo with
    | none => rfl
    | some last => simpa using le_trans starts (covers.2 _ ‹_›)
  simp [overlaps, active, scope, other, ends new _ second.1 first, ends existing _ first.1 second]

section Writes

variable {db : PriceTablesDb}

theorem insert_draft_apart {new : PriceTableVersion} (apart : ActiveApart db.versions)
    (draft : new.status = .draft) : ActiveApart (db.versions.insert new) := by
  have old (row : PriceTableVersion) (member : row ∈ db.versions.insert new)
      (active : row.status = .active) : row ∈ db.versions := by
    rcases KeyedTable.mem_of_mem_insert member with stays | rfl
    · exact stays
    · rw [draft] at active
      cases active
  intro left leftMember right rightMember leftActive rightActive
  exact apart left (old left leftMember leftActive) right (old right rightMember rightActive)
    leftActive rightActive

/-- The new row of a version is apart from every other active one. -/
theorem put_apart {new : PriceTableVersion} (apart : ActiveApart db.versions)
    (free : new.status = .active → ∀ existing ∈ db.versions, overlaps new existing = false) :
    ActiveApart (db.versions.put new) := by
  have against (row : PriceTableVersion) (member : row ∈ db.versions) (other : row.id ≠ new.id)
      (active : row.status = .active) (newActive : new.status = .active)
      (scope : row.scope = new.scope) (day : Int) : ¬ (effectiveOn new day ∧ effectiveOn row day) := by
    rintro ⟨newCovers, rowCovers⟩
    have met := overlaps_of_day active scope other newCovers rowCovers
    rw [free newActive row member] at met
    cases met
  intro left leftMember right rightMember leftActive rightActive scope different day
  rcases KeyedTable.mem_put.mp leftMember with ⟨rfl, _⟩ | ⟨leftOld, leftOther⟩
  · rcases KeyedTable.mem_put.mp rightMember with ⟨rfl, _⟩ | ⟨rightOld, rightOther⟩
    · exact absurd rfl different
    · exact against right rightOld rightOther rightActive leftActive scope.symm day
  · rcases KeyedTable.mem_put.mp rightMember with ⟨rfl, _⟩ | ⟨rightOld, _⟩
    · exact fun both => against left leftOld leftOther leftActive rightActive scope day both.symm
    · exact apart left leftOld right rightOld leftActive rightActive scope different day

end Writes

section Transactions

variable {request : PriceTablesRequest} {held : List PriceTablesKey}
  {begun seen : PriceTablesDb} {pending : PriceTablesDb → PriceTablesDb}

theorem abortable (reason : PriceTablesAbort) :
    priceTablesContract.Abortable request begun reason held seen :=
  fun _ _ => trivial

/-- A transaction that has written no version may end. -/
theorem unchanged_committable {value : Option PriceTableVersion}
    (versions : ∀ db, (pending db).versions = db.versions) :
    priceTablesContract.Committable request begun value held pending seen := by
  intro now moved
  refine ⟨?_, evolves_of_versions (versions now), fun _ _ => same_of_versions (versions now), trivial⟩
  change ActiveApart (pending now).versions
  rw [versions]
  exact moved.1

theorem admitted_from_draft {old new : PriceTableStatus} (moves : admitted old new = true) :
    new ≠ .draft ∧ (new = .active → old = .draft) := by
  cases old <;> cases new <;> simp [admitted] at moves ⊢

/-- An UPDATE of a locked version: an activation also holds the lock of its scope. -/
theorem put_committable {value : Option PriceTableVersion} {old row : PriceTableVersion}
    (versionHeld : .version old.id ∈ held)
    (scopeHeld : row.status = .active → .activation row.scope ∈ held)
    (found : seen.versions.find old.id = some old)
    (identity : row.toPriceTableVersionIdentity = old.toPriceTableVersionIdentity)
    (moves : admitted old.status row.status = true)
    (free : row.status = .active → ∀ existing ∈ seen.versions, overlaps row existing = false) :
    priceTablesContract.Committable request begun value held (PriceTablesDb.putVersion row) seen := by
  intro now moved
  have key : row.id = old.id := congrArg PriceTableVersionIdentity.id identity
  have present : now.versions.find old.id = some old :=
    (moved.2.2 _ versionHeld).symm.trans found
  refine ⟨?_, ?_, ?_, trivial⟩
  · refine put_apart moved.1 fun active existing member => ?_
    by_contra met
    have overlapping : overlaps row existing = true := by simpa using met
    have conditions := overlapping
    simp only [overlaps, Bool.and_eq_true, decide_eq_true_eq] at conditions
    obtain ⟨⟨⟨⟨scope, existingActive⟩, _⟩, _⟩, _⟩ := conditions
    have before := moved.2.2 _ (scopeHeld active) existing member existingActive scope
    rw [free active existing before] at overlapping
    cases overlapping
  · intro other member
    by_cases same : other.id = row.id
    · have sameRow : other = old := KeyedTable.eq_of_key member (KeyedTable.mem_of_find present)
        (same.trans key)
      exact ⟨row, KeyedTable.mem_put.mpr (Or.inl ⟨rfl, other, member, same⟩),
        sameRow ▸ identity, fun _ => (admitted_from_draft moves).1⟩
    · exact ⟨other, KeyedTable.mem_put.mpr (Or.inr ⟨member, same⟩), rfl, fun left => left⟩
  · intro lock notHeld
    cases lock with
    | version id =>
        have different : row.id ≠ id := by
          rintro rfl
          exact notHeld (key ▸ versionHeld)
        change now.versions.find id = (now.versions.put row).find id
        rw [KeyedTable.find_put, if_neg different]
    | activation scope =>
        intro other member active sameScope
        rcases KeyedTable.mem_put.mp member with ⟨rfl, _⟩ | ⟨stays, _⟩
        · exact absurd (sameScope ▸ scopeHeld active) notHeld
        · exact stays
    | tenant id | label scope text | checksum scope text | item id => trivial

/-- What a transaction has written that has inserted one draft. -/
def InsertsDraft (row : PriceTableVersion) (held : List PriceTablesKey)
    (pending : PriceTablesDb → PriceTablesDb) : Prop :=
  row.status = .draft ∧ .version row.id ∈ held ∧
    ∀ db, (pending db).versions = db.versions.insert row

theorem draft_committable {value : Option PriceTableVersion} {row : PriceTableVersion}
    (inserts : InsertsDraft row held pending) :
    priceTablesContract.Committable request begun value held pending seen := by
  obtain ⟨draft, versionHeld, versions⟩ := inserts
  intro now moved
  refine ⟨?_, ?_, ?_, trivial⟩
  · change ActiveApart (pending now).versions
    rw [versions]
    exact insert_draft_apart moved.1 draft
  · intro other member
    exact ⟨other, (versions now).symm ▸ KeyedTable.mem_insert_of_mem member, rfl, fun left => left⟩
  · intro lock notHeld
    cases lock with
    | version id =>
        have different : row.id ≠ id := by
          rintro rfl
          exact notHeld versionHeld
        change now.versions.find id = (pending now).versions.find id
        rw [versions, KeyedTable.find_insert, if_neg different, Option.or_none]
    | activation scope =>
        intro other member active _
        rw [versions] at member
        rcases KeyedTable.mem_of_mem_insert member with stays | rfl
        · exact stays
        · rw [draft] at active
          cases active
    | tenant id | label scope text | checksum scope text | item id => trivial

/-- Rule for the INSERT of a version. -/
theorem meets_insertVersion {new : PriceTableVersion}
    {after : PriceTableVersion → List PriceTablesKey → (PriceTablesDb → PriceTablesDb) →
      PriceTablesDb → Prop}
    (stored : ∀ now keys, new.status = .draft → .version new.id ∈ keys →
      after new keys (fun db => (pending db).insertVersion new) now) :
    (insertVersion new).Meets priceTablesContract.rely after
      (priceTablesContract.Abortable request begun) held pending seen := by
  unfold insertVersion
  rw [Txn.meets_then, Txn.meets_attempt]
  refine ⟨fun row accepted => ?_, fun reason _ => abortable reason⟩
  obtain ⟨rfl, draft⟩ := insert_price_table_version_row_ok (map_error_ok.mp accepted)
  rw [Txn.meets_then, Txn.meets_lockRow]
  intro first _
  rw [Txn.meets_then, Txn.meets_lockRow]
  intro second _
  rw [Txn.meets_then, Txn.meets_lockRow]
  intro third _
  rw [Txn.meets_then, Txn.meets_view]
  intro now _
  rw [Txn.meets_then, Txn.meets_attempt]
  refine ⟨fun _ _ => ?_, fun reason _ => abortable reason⟩
  rw [Txn.meets_then, Txn.meets_save, Txn.meets_pure]
  exact stored now _ draft (by simp)

variable (octets : Json → Nat)

theorem insertItem_meets {row : PriceTableVersion} {item : PriceTableItem}
    (inserts : InsertsDraft row held pending) :
    (insertItem octets item).Meets priceTablesContract.rely
      (fun _ held pending _ => InsertsDraft row held pending)
      (priceTablesContract.Abortable request begun) held pending seen := by
  obtain ⟨draft, versionHeld, versions⟩ := inserts
  unfold insertItem
  rw [Txn.meets_then, Txn.meets_lockRow]
  intro first _
  rw [Txn.meets_then, Txn.meets_lockRow]
  intro second _
  rw [Txn.meets_then, Txn.meets_view]
  intro now _
  rw [Txn.meets_then, Txn.meets_attempt]
  refine ⟨fun _ _ => ?_, fun reason _ => abortable reason⟩
  rw [Txn.meets_then, Txn.meets_save, Txn.meets_pure]
  exact ⟨draft, List.mem_cons_of_mem _ (List.mem_cons_of_mem _ versionHeld), versions⟩

theorem create_meets {tenantId : Uuid} {input : PriceTableCreateInput} :
    (priceTablesProgram octets (.create tenantId input) begun).Meets priceTablesContract.rely
      (priceTablesContract.Committable (.create tenantId input) begun)
      (priceTablesContract.Abortable (.create tenantId input) begun) [] (fun db => db) begun := by
  unfold priceTablesProgram create
  rw [Txn.meets_then, Txn.meets_then]
  apply Contract.meets_select
  · intro now _ _
    exact abortable _
  · intro now _
    cases (if now.tenants tenantId = true then some tenantId else none : Option Uuid) with
    | none => exact abortable _
    | some tenant =>
        rw [Txn.meets_then]
        apply meets_insertVersion
        intro later keys draft versionHeld
        rw [Txn.meets_then]
        refine Txn.meets_forEach
          (fun _ _ held pending _ => InsertsDraft (newVersion tenantId input begun.clock) held pending)
          ?_ ?_ ⟨draft, versionHeld, fun _ => rfl⟩
        · intro _ item _ _ _ _ inserts
          exact insertItem_meets octets inserts
        · intro _ _ _ _ inserts
          exact draft_committable inserts

theorem storeVersion_meets {old new : PriceTableVersion} (versionHeld : .version old.id ∈ held)
    (scopeHeld : new.status = .active → .activation new.scope ∈ held)
    (found : seen.versions.find old.id = some old)
    (identity : new.toPriceTableVersionIdentity = old.toPriceTableVersionIdentity)
    (moves : admitted old.status new.status = true) :
    (storeVersion new).Meets priceTablesContract.rely
      (priceTablesContract.Committable request begun)
      (priceTablesContract.Abortable request begun) held (fun db => db) seen := by
  unfold storeVersion
  rw [Txn.meets_then, Txn.meets_view]
  intro now moved
  rw [Txn.meets_then, Txn.meets_attempt]
  refine ⟨fun row accepted => ?_, fun reason _ => abortable reason⟩
  obtain ⟨rfl, free⟩ := store_price_table_version_ok (map_error_ok.mp accepted)
  rw [Txn.meets_then, Txn.meets_save, Txn.meets_pure]
  exact put_committable versionHeld scopeHeld ((moved.2.2 _ versionHeld).symm.trans found)
    identity moves free

theorem transition_meets {tenantId id : Uuid} {status : PriceTableStatus} :
    (transition tenantId id status).Meets priceTablesContract.rely
      (priceTablesContract.Committable request begun)
      (priceTablesContract.Abortable request begun) [] (fun db => db) begun := by
  unfold transition
  rw [Txn.meets_then]
  apply Contract.meets_select
  · intro now _ _
    exact unchanged_committable fun _ => rfl
  · intro now _
    cases matched : now.findVersion tenantId id with
    | none => exact unchanged_committable fun _ => rfl
    | some old =>
        have found := (Option.filter_eq_some_iff.mp matched).1
        have key := KeyedTable.key_of_find found
        subst key
        rw [Txn.meets_then, Txn.meets_attempt]
        refine ⟨fun _ accepted => ?_, fun reason _ => abortable reason⟩
        obtain ⟨identity, moves⟩ :=
          enforce_price_table_version_update_ok (map_error_ok.mp accepted)
        split_ifs with active
        · rw [Txn.meets_then, Txn.meets_lockRow]
          intro locked waited
          exact storeVersion_meets (by simp) (fun _ => by simp)
            ((waited.2.2 _ List.mem_cons_self).symm.trans found) identity moves
        · exact storeVersion_meets (by simp) (fun same => absurd same active) found identity moves

theorem price_tables_verified : priceTablesContract.Verified (priceTablesProgram octets)
    priceTablesDrift where
  requests request begun _ := by
    cases request with
    | create tenantId input => exact create_meets octets
    | activate tenantId id => exact transition_meets
    | block tenantId id => exact transition_meets
  drifts event db apart := by
    cases event <;> exact ⟨apart, evolves_of_versions rfl, fun key => same_of_versions rfl⟩

end Transactions

section Safety

variable {octets : Json → Nat} {db : PriceTablesDb} {system : PriceTablesSystem}

/-- Whatever the interleaving, active versions of one scope share no day. -/
theorem active_periods_apart (initially : ActiveApart db.versions)
    (reached : Reachable (priceTablesStep octets) (System.initial db) system) :
    ActiveApart system.db.versions :=
  (reachable_sound (price_tables_verified octets) (initial_sound initially) reached).invariant

def draftVersion (id : Uuid) (label : String) (effectiveFrom : Int) (effectiveTo : Option Int) :
    PriceTableVersion where
  id := id
  tenantId := 1
  provider := .gcp
  instrument := .gcpCommittedUseDiscount
  versionLabel := label
  effectiveFrom := effectiveFrom
  effectiveTo := effectiveTo
  sourceUri := "prices/gcp.json"
  checksum := "e3b0c44298fc1c149afbf4c8996fb92427ae41e4649b934ca495991b7852b8" ++ label
  createdAt := 40
  status := .draft
  updatedAt := 40

/-- Two drafts with one common day, the second without an end. -/
def twoDrafts : PriceTablesDb where
  tenants := fun id => id = 1
  versions := (KeyedTable.empty.insert (draftVersion 11 "01" 20089 (some 20119))).insert
    (draftVersion 12 "02" 20119 none)
  items := KeyedTable.empty
  clock := 50

/-- The second activation waits for the lock of the first and then sees its version. -/
def twoActivations : List PriceTablesAction :=
  [.start 1 (.activate 1 11), .start 2 (.activate 1 12)] ++
    ([1, 1, 1, 1, 2, 2, 2, 1, 1, 1, 2, 2, 2].map .advance)

theorem active_periods_apart_two_activations :
    ∃ system, execute (priceTablesStep fun _ => 2) (System.initial twoDrafts) twoActivations =
        some system ∧
      (system.db.versions.rows.map (·.status) = [.active, .draft]) ∧
      ActiveApart system.db.versions := by
  have runs : (execute (priceTablesStep fun _ => 2) (System.initial twoDrafts)
      twoActivations).isSome := by decide
  have statuses : ∀ system, execute (priceTablesStep fun _ => 2) (System.initial twoDrafts)
      twoActivations = some system →
        system.db.versions.rows.map (·.status) = [.active, .draft] := by decide
  have drafts : ∀ row ∈ twoDrafts.versions, row.status = .draft := by decide
  have apart : ActiveApart twoDrafts.versions := by
    intro left leftMember _ _ active
    rw [drafts left leftMember] at active
    cases active
  obtain ⟨system, ran⟩ := Option.isSome_iff_exists.mp runs
  exact ⟨system, ran, statuses system ran, active_periods_apart apart ⟨_, ran⟩⟩

end Safety

end CommitmentOptimizer.PriceTables.ActivePeriods
