import CommitmentOptimizer.Foundations.UuidText
import CommitmentOptimizer.Reports.ReportRequests

/-!
# Whether a report stays the same

A request that finds nothing rendered renders a snapshot of its own. The report of a
recommendation is stable as long as no snapshot of it is rendered beside another one.
-/

namespace CommitmentOptimizer.Reports.ReportStability

open Foundations
open Foundations.FaultyWorkers
open Foundations.Schedules
open Foundations.SqlConstraints
open Foundations.UuidText
open ReportSnapshots
open ReportTemplates
open ReportRequests

set_option autoImplicit false

section Promises

/-- What a request finds that looks now. -/
def foundReport (shared : Shared) (tenantId sourceId : Uuid) : Option Report := do
  let row ← getRenderedReport tenantId sourceId shared.reports
  let uri ← row.renderedHtmlUri.filter (· ≠ "")
  let renderedHtml ← shared.objects uri
  return ⟨row.id, row.snapshotJson, renderedHtml⟩

/-- A returned report is returned again by every request that looks later, and there is
such a report to find. -/
structure Stable (shared : Shared) : Prop where
  repeated : ∀ first earlier, shared.answers[first]? = some earlier →
    ∀ later ∈ shared.answers, first < later.earlier → later.tenantId = earlier.tenantId →
    later.sourceId = earlier.sourceId → later.report = earlier.report
  found : ∀ answer ∈ shared.answers,
    foundReport shared answer.tenantId answer.sourceId = some answer.report

/-- No snapshot is rendered while another one of its recommendation is rendered already. -/
def RendersAlone (state : ReportState) : ReportAction → Prop
  | .advance worker _ fault =>
      match state.workers worker with
      | some (.marking queued _ _) => fault = .beforeEffect ∨
          ∀ row ∈ state.shared.reports, isRendered queued.tenantId queued.sourceId row = false
      | _ => True
  | _ => True

instance (state : ReportState) (action : ReportAction) : Decidable (RendersAlone state action) :=
  match action with
  | .advance worker _ fault =>
      match busy : state.workers worker with
      | some (.marking queued _ _) => decidable_of_iff (fault = .beforeEffect ∨
          ∀ row ∈ state.shared.reports, isRendered queued.tenantId queued.sourceId row = false)
          (by rw [RendersAlone, busy])
      | some (.looking _ _ _) | some (.readingHtml _ _ _) | some (.gathering _ _ _ _)
      | some (.creating _ _ _ _ _) | some (.storing _ _) | some (.failing _) | none =>
          isTrue (by rw [RendersAlone, busy]; trivial)
  | .call _ _ | .stop _ | .external _ => isTrue trivial

end Promises

section Invariants

/-- A rendered report is stored under its own key, and a returned one is there. -/
structure Sound (shared : Shared) : Prop where
  located : ∀ row ∈ shared.reports, row.sourceType = .recommendation → row.status = .rendered →
    row.renderedHtmlUri = some (renderedHtmlUri row.id)
  answered : ∀ answer ∈ shared.answers, ∃ row ∈ shared.reports,
    isRendered answer.tenantId answer.sourceId row = true ∧
    row.id = answer.report.snapshotId ∧ row.snapshotJson = answer.report.snapshot ∧
    shared.objects (renderedHtmlUri row.id) = some answer.report.renderedHtml

/-- The snapshot of a request is queued until the request itself changes that. -/
def Holds (_worker : Nat) (phase : Phase) (shared : Shared) : Prop :=
  match phase with
  | .looking _ _ _ | .gathering _ _ _ _ | .creating _ _ _ _ _ => True
  | .readingHtml row uri _ => row ∈ shared.reports ∧
      isRendered row.tenantId row.sourceId row = true ∧ uri = renderedHtmlUri row.id
  | .storing queued _ => queued ∈ shared.reports ∧ queued.status = .queued ∧
      queued.sourceType = .recommendation
  | .marking queued renderedHtml _ => queued ∈ shared.reports ∧ queued.status = .queued ∧
      queued.sourceType = .recommendation ∧
      shared.objects (renderedHtmlUri queued.id) = some renderedHtml
  | .failing id => (shared.reports.find id).isSome = true

/-- The snapshot that a request works on. -/
def held : Phase → Option Uuid
  | .storing queued _ | .marking queued _ _ => some queued.id
  | .failing id => some id
  | _ => none

def Apart (left right : Phase) : Prop := ∀ id, held left = some id → held right ≠ some id

/-- A step leaves every row and object alone but those of the snapshot it works on, and
that one when it is rendered. -/
structure Kept (touched : Option Uuid) (before after : Shared) : Prop where
  rows : ∀ row ∈ before.reports, touched ≠ some row.id ∨ row.status ≠ .queued →
    row ∈ after.reports
  present : ∀ id, (before.reports.find id).isSome = true → (after.reports.find id).isSome = true
  objects : ∀ id, touched ≠ some id →
    after.objects (renderedHtmlUri id) = before.objects (renderedHtmlUri id)

variable {runtime : ReportRuntime} {shared effect : Shared} {touched : Option Uuid}

theorem kept_refl (touched : Option Uuid) (shared : Shared) : Kept touched shared shared :=
  ⟨fun _ member _ => member, fun _ found => found, fun _ _ => rfl⟩

theorem rendered_html_uri_injective {left right : Uuid}
    (same : renderedHtmlUri left = renderedHtmlUri right) : left = right := by
  unfold renderedHtmlUri at same
  have texts := congrArg String.toList same
  simp only [String.toList_append] at texts
  have middle := List.append_cancel_left (List.append_cancel_right texts)
  exact uuid_text_injective (String.toList_injective middle)

theorem rendered_html_uri_nonempty (id : Uuid) : renderedHtmlUri id ≠ "" := by
  intro empty
  have length := congrArg String.length empty
  unfold renderedHtmlUri at length
  rw [String.length_append, String.length_append] at length
  have literal : ("reports/recommendation/" : String).length = 23 := by decide
  have none : ("" : String).length = 0 := rfl
  omega

/-- What another request relies on stays. -/
theorem kept_holds {worker : Nat} {other : Phase} (kept : Kept touched shared effect)
    (apart : ∀ id, touched = some id → held other ≠ some id) (holds : Holds worker other shared) :
    Holds worker other effect := by
  have foreign : ∀ id, held other = some id → touched ≠ some id :=
    fun id own same => apart id same own
  cases other with
  | looking | gathering | creating => trivial
  | readingHtml row uri earlier =>
      obtain ⟨member, rendered, located⟩ := holds
      have status : row.status = .rendered := by
        simp only [isRendered, Bool.and_eq_true, decide_eq_true_eq] at rendered
        exact rendered.2
      exact ⟨kept.rows row member (Or.inr (by rw [status]; decide)), rendered, located⟩
  | storing queued earlier =>
      exact ⟨kept.rows queued holds.1 (Or.inl (foreign _ rfl)), holds.2⟩
  | marking queued html earlier =>
      refine ⟨kept.rows queued holds.1 (Or.inl (foreign _ rfl)), holds.2.1, holds.2.2.1, ?_⟩
      rw [kept.objects _ (foreign _ rfl)]
      exact holds.2.2.2
  | failing id => exact kept.present id holds

theorem rendered_status {tenantId sourceId : Uuid} {row : ReportSnapshot}
    (rendered : isRendered tenantId sourceId row = true) :
    row.tenantId = tenantId ∧ row.sourceType = .recommendation ∧ row.sourceId = sourceId ∧
      row.status = .rendered := by
  simp only [isRendered, Bool.and_eq_true, decide_eq_true_eq] at rendered
  exact ⟨rendered.1.1.1, rendered.1.1.2, rendered.1.2, rendered.2⟩

/-- The returned reports stay when rendered rows and their objects do. -/
theorem answered_kept (sound : Sound shared) (kept : Kept touched shared effect)
    (objects : ∀ row ∈ shared.reports, row.status = .rendered →
      effect.objects (renderedHtmlUri row.id) = shared.objects (renderedHtmlUri row.id)) :
    ∀ answer ∈ shared.answers, ∃ row ∈ effect.reports,
      isRendered answer.tenantId answer.sourceId row = true ∧
      row.id = answer.report.snapshotId ∧ row.snapshotJson = answer.report.snapshot ∧
      effect.objects (renderedHtmlUri row.id) = some answer.report.renderedHtml := by
  intro answer member
  obtain ⟨row, stored, rendered, id, snapshot, html⟩ := sound.answered answer member
  have status := (rendered_status rendered).2.2.2
  refine ⟨row, kept.rows row stored (Or.inr (by rw [status]; decide)), rendered, id, snapshot, ?_⟩
  rw [objects row stored status]
  exact html

end Invariants

section Operations

variable {runtime : ReportRuntime} {shared effect : Shared} {worker : Nat} {input : Input}

theorem report_ext {left right : Report} (id : left.snapshotId = right.snapshotId)
    (snapshot : left.snapshot = right.snapshot)
    (renderedHtml : left.renderedHtml = right.renderedHtml) : left = right := by
  cases left
  cases right
  subst id snapshot renderedHtml
  rfl

theorem get_rendered_report_some {tenantId sourceId : Uuid} {reports : ReportSnapshotTable}
    {row : ReportSnapshot} (found : getRenderedReport tenantId sourceId reports = some row) :
    row ∈ reports ∧ isRendered tenantId sourceId row = true := by
  have member := (List.mem_insertionSort _).mp (List.mem_of_mem_head? found)
  exact List.mem_filter.mp member

/-- An UPDATE of a queued row, or none. -/
theorem update_queued_ok {octets : Json → Nat} {clock : Instant} {id : Uuid}
    {change : ReportSnapshot → ReportSnapshot} {reports next : ReportSnapshotTable}
    {returned : Option ReportSnapshot}
    (done : updateQueued octets clock id change reports = .ok (returned, next)) :
    (returned = none ∧ next = reports) ∨
      ∃ old row, reports.find id = some old ∧ old.status = .queued ∧
        row = { change old with updatedAt := clock } ∧ row.identity = old.identity ∧
        returned = some row ∧ next = reports.put row := by
  unfold updateQueued at done
  split at done
  case h_1 =>
      obtain ⟨rfl, rfl⟩ := Prod.mk.inj (Except.ok.inj done)
      exact Or.inl ⟨rfl, rfl⟩
  case h_2 old selected =>
      obtain ⟨found, waiting⟩ := Option.filter_eq_some_iff.mp selected
      obtain ⟨row, stored, same⟩ := bind_ok.mp done
      obtain ⟨rfl, rfl⟩ := Prod.mk.inj (Except.ok.inj same)
      obtain ⟨isRow, identity⟩ := update_report_snapshot_row_ok stored
      refine Or.inr ⟨old, row, found, of_decide_eq_true waiting, isRow, ?_, rfl, rfl⟩
      rw [← identity, isRow]
      rfl

/-- An UPDATE of a queued row leaves every other row alone. -/
theorem kept_put {id : Uuid} {old row : ReportSnapshot} (found : shared.reports.find id = some old)
    (queued : old.status = .queued) (same : row.id = old.id) :
    Kept (some id) shared { shared with reports := shared.reports.put row } where
  rows := by
    intro other member unchanged
    have isId : old.id = id := KeyedTable.key_of_find found
    refine KeyedTable.mem_put.mpr (Or.inr ⟨member, fun same' => ?_⟩)
    have isOld : other = old :=
      KeyedTable.eq_of_key member (KeyedTable.mem_of_find found) (same'.trans same)
    rcases unchanged with foreign | settled
    · exact foreign (by rw [isOld, isId])
    · exact settled (isOld ▸ queued)
  present := by
    intro wanted present
    rw [KeyedTable.find_put]
    split_ifs
    · rw [Option.isSome_map]
      exact present
    · exact present
  objects := fun _ _ => rfl

/-- What an operation of a request leaves, and where it goes on. -/
structure Worked (worker : Nat) (phase : Phase) (shared effect : Shared) (onward : Option Phase) :
    Prop where
  sound : Sound effect
  kept : Kept (held phase) shared effect
  holds : ∀ next, onward = some next → Holds worker next effect
  own : ∀ next id, onward = some next → held next = some id →
    held phase = some id ∨ shared.reports.find id = none
  rendered : ∀ row ∈ effect.reports, row.sourceType = .recommendation → row.status = .rendered →
    row ∈ shared.reports ∨ ∃ queued html earlier, phase = .marking queued html earlier ∧
      row.id = queued.id ∧ row.tenantId = queued.tenantId ∧ row.sourceId = queued.sourceId

/-- A step that ends the request. -/
theorem worked_end {phase : Phase} (sound : Sound effect) (kept : Kept (held phase) shared effect)
    (rendered : ∀ row ∈ effect.reports, row.sourceType = .recommendation →
      row.status = .rendered → row ∈ shared.reports ∨
        ∃ queued html earlier, phase = .marking queued html earlier ∧ row.id = queued.id ∧
          row.tenantId = queued.tenantId ∧ row.sourceId = queued.sourceId) :
    Worked worker phase shared effect none where
  sound := sound
  kept := kept
  holds := by
    intro next none
    cases none
  own := by
    intro next id none
    cases none
  rendered := rendered

/-- A step that only goes on. -/
theorem worked_onward {phase : Phase} {onward : Option Phase} (sound : Sound shared)
    (holds : ∀ next, onward = some next → Holds worker next shared)
    (free : ∀ next, onward = some next → held next = none) :
    Worked worker phase shared shared onward where
  sound := sound
  kept := kept_refl _ _
  holds := holds
  own := fun next _ same own => nomatch (free next same).symm.trans own
  rendered := fun _ member _ _ => Or.inl member

theorem looking_worked {tenantId sourceId : Uuid} {actorUserId : Option Uuid}
    {onward : Option Phase} (sound : Sound shared)
    (done : operate runtime worker input (.looking tenantId sourceId actorUserId) shared =
      some (effect, onward)) :
    Worked worker (.looking tenantId sourceId actorUserId) shared effect onward := by
  delta operate at done
  dsimp only at done
  split at done
  case h_1 row found =>
      obtain ⟨member, rendered⟩ := get_rendered_report_some found
      obtain ⟨tenant, type, source, status⟩ := rendered_status rendered
      rw [sound.located row member type status, Option.filter_some,
        decide_eq_true (rendered_html_uri_nonempty row.id), if_pos rfl] at done
      obtain ⟨rfl, rfl⟩ := Prod.mk.inj (Option.some.inj done)
      refine worked_onward sound ?_ ?_
      · intro next same
        obtain rfl := Option.some.inj same
        exact ⟨member, tenant ▸ source ▸ rendered, rfl⟩
      · intro next same
        obtain rfl := Option.some.inj same
        rfl
  case h_2 =>
      obtain ⟨rfl, rfl⟩ := Prod.mk.inj (Option.some.inj done)
      refine worked_onward sound ?_ ?_
      · intro next same
        obtain rfl := Option.some.inj same
        trivial
      · intro next same
        obtain rfl := Option.some.inj same
        rfl

/-- The report of a rendered row is returned. -/
theorem answer_sound (sound : Sound shared) {row : ReportSnapshot} (member : row ∈ shared.reports)
    (rendered : isRendered row.tenantId row.sourceId row = true) {html : List Char}
    (stored : shared.objects (renderedHtmlUri row.id) = some html) (earlier : Nat) :
    Sound (shared.answer row row.snapshotJson html earlier) where
  located := sound.located
  answered := by
    intro answer returned
    rcases List.mem_append.mp returned with before | new
    · exact sound.answered answer before
    · obtain rfl := List.mem_singleton.mp new
      exact ⟨row, member, rendered, rfl, rfl, stored⟩

theorem reading_worked {row : ReportSnapshot} {uri : String} {earlier : Nat}
    {onward : Option Phase} (sound : Sound shared)
    (holds : Holds worker (.readingHtml row uri earlier) shared)
    (done : operate runtime worker input (.readingHtml row uri earlier) shared =
      some (effect, onward)) :
    Worked worker (.readingHtml row uri earlier) shared effect onward := by
  obtain ⟨member, rendered, rfl⟩ := holds
  obtain ⟨html, stored, same⟩ := Option.map_eq_some_iff.mp done
  obtain ⟨rfl, rfl⟩ := Prod.mk.inj same
  exact worked_end (answer_sound sound member rendered stored earlier)
    ⟨fun _ stays _ => stays, fun _ present => present, fun _ _ => rfl⟩
    fun _ stays _ _ => Or.inl stays

theorem gathering_worked {tenantId sourceId : Uuid} {actorUserId : Option Uuid} {earlier : Nat}
    {onward : Option Phase} (sound : Sound shared)
    (done : operate runtime worker input (.gathering tenantId sourceId actorUserId earlier) shared =
      some (effect, onward)) :
    Worked worker (.gathering tenantId sourceId actorUserId earlier) shared effect onward := by
  delta operate at done
  dsimp only at done
  split at done
  case h_1 =>
      obtain ⟨rfl, rfl⟩ := Prod.mk.inj (Option.some.inj done)
      exact worked_end sound (kept_refl _ _) fun _ stays _ _ => Or.inl stays
  case h_2 data _ =>
      obtain ⟨rfl, rfl⟩ := Prod.mk.inj (Option.some.inj done)
      refine worked_onward sound ?_ ?_
      · intro next same
        obtain rfl := Option.some.inj same
        trivial
      · intro next same
        obtain rfl := Option.some.inj same
        rfl

/-- A new row is not rendered. -/
theorem insert_kept {octets : Json → Nat} {row : ReportSnapshot} {reports : ReportSnapshotTable}
    (touched : Option Uuid)
    (inserted : insertReportSnapshotRow octets row shared.reports = .ok reports) :
    reports = shared.reports.insert row ∧ shared.reports.find row.id = none ∧
      Kept touched shared { shared with reports := reports } := by
  obtain ⟨rfl, fresh⟩ := insert_report_snapshot_row_ok inserted
  refine ⟨rfl, fresh, fun _ member _ => KeyedTable.mem_insert_of_mem member, ?_, fun _ _ => rfl⟩
  intro id present
  rw [KeyedTable.find_insert, Option.isSome_or, present, Bool.true_or]

theorem creating_worked {tenantId sourceId : Uuid} {actorUserId : Option Uuid} {snapshot : Json}
    {earlier : Nat} {onward : Option Phase} (sound : Sound shared)
    (done : operate runtime worker input (.creating tenantId sourceId actorUserId snapshot earlier)
      shared = some (effect, onward)) :
    Worked worker (.creating tenantId sourceId actorUserId snapshot earlier) shared effect
      onward := by
  delta operate at done
  dsimp only at done
  split at done
  case h_2 => cases done
  case h_1 reports inserted =>
      obtain ⟨rfl, rfl⟩ := Prod.mk.inj (Option.some.inj done)
      obtain ⟨rfl, fresh, kept⟩ := insert_kept none inserted
      have answered := answered_kept sound kept fun _ _ _ => rfl
      have added := fun row => @KeyedTable.mem_insert _ _ _ _ shared.reports _ row fresh
      exact
        { sound :=
            { located := by
                intro row member type status
                rcases (added row).mp member with old | rfl
                · exact sound.located row old type status
                · cases status
              answered := answered }
          kept := kept
          holds := by
            intro next same
            obtain rfl := Option.some.inj same
            exact ⟨(added _).mpr (Or.inr rfl), rfl, rfl⟩
          own := by
            intro next id same own
            obtain rfl := Option.some.inj same
            obtain rfl := Option.some.inj own
            exact Or.inr fresh
          rendered := by
            intro row member _ status
            rcases (added row).mp member with old | rfl
            · exact Or.inl old
            · cases status }

theorem storing_worked {queued : ReportSnapshot} {earlier : Nat} {onward : Option Phase}
    (sound : Sound shared) (holds : Holds worker (.storing queued earlier) shared)
    (done : operate runtime worker input (.storing queued earlier) shared =
      some (effect, onward)) :
    Worked worker (.storing queued earlier) shared effect onward := by
  obtain ⟨member, waiting, type⟩ := holds
  obtain ⟨html, _, same⟩ := Option.map_eq_some_iff.mp done
  obtain ⟨rfl, rfl⟩ := Prod.mk.inj same
  have elsewhere : ∀ id, queued.id ≠ id →
      (shared.putObject (renderedHtmlUri queued.id) html).objects (renderedHtmlUri id) =
        shared.objects (renderedHtmlUri id) := fun id other =>
    objects_putObject_of_ne shared html fun uri => other (rendered_html_uri_injective uri.symm)
  have kept : Kept (some queued.id) shared
      (shared.putObject (renderedHtmlUri queued.id) html) :=
    ⟨fun _ stays _ => stays, fun _ present => present,
      fun id other => elsewhere id fun same => other (congrArg some same)⟩
  have answered := answered_kept sound kept fun row stored status =>
    elsewhere row.id fun same => by
      have isRow := KeyedTable.eq_of_key member stored same
      rw [isRow, status] at waiting
      cases waiting
  exact
    { sound := ⟨sound.located, answered⟩
      kept := kept
      holds := by
        intro next same
        obtain rfl := Option.some.inj same
        exact ⟨member, waiting, type, objects_putObject_self shared _ html⟩
      own := by
        intro next id same own
        obtain rfl := Option.some.inj same
        exact Or.inl own
      rendered := fun _ stays _ _ => Or.inl stays }

/-- A queued row that is updated is the one the request holds. -/
theorem find_queued {queued old : ReportSnapshot} (member : queued ∈ shared.reports)
    (found : shared.reports.find queued.id = some old) : old = queued :=
  KeyedTable.eq_of_key (KeyedTable.mem_of_find found) member (KeyedTable.key_of_find found)

theorem marking_worked {queued : ReportSnapshot} {html : List Char} {earlier : Nat}
    {onward : Option Phase} (sound : Sound shared)
    (holds : Holds worker (.marking queued html earlier) shared)
    (done : operate runtime worker input (.marking queued html earlier) shared =
      some (effect, onward)) :
    Worked worker (.marking queued html earlier) shared effect onward := by
  obtain ⟨member, waiting, type, stored⟩ := holds
  delta operate at done
  dsimp only at done
  split at done
  case h_2 => cases done
  case h_1 row reports marked =>
      obtain ⟨rfl, rfl⟩ := Prod.mk.inj (Option.some.inj done)
      rcases update_queued_ok marked with ⟨none, _⟩ | ⟨old, new, found, _, isNew, identity, same, rfl⟩
      · cases none
      obtain rfl := Option.some.inj same
      obtain rfl := find_queued member found
      have isId : row.id = old.id := congrArg ReportSnapshotIdentity.id identity
      have isTenant : row.tenantId = old.tenantId :=
        congrArg ReportSnapshotIdentity.tenantId identity
      have isSource : row.sourceId = old.sourceId :=
        congrArg ReportSnapshotIdentity.sourceId identity
      have isType : row.sourceType = old.sourceType :=
        congrArg ReportSnapshotIdentity.sourceType identity
      have isSnapshot : row.snapshotJson = old.snapshotJson :=
        congrArg ReportSnapshotIdentity.snapshotJson identity
      have status : row.status = .rendered := by rw [isNew]
      have uri : row.renderedHtmlUri = some (renderedHtmlUri old.id) := by rw [isNew]
      have kept := kept_put found waiting isId
      have put : row ∈ shared.reports.put row :=
        KeyedTable.mem_put.mpr (Or.inl ⟨rfl, old, member, isId.symm⟩)
      have other : ∀ stays ∈ shared.reports.put row, stays = row ∨ stays ∈ shared.reports :=
        fun stays present => (KeyedTable.mem_put.mp present).imp And.left And.left
      have answered := answered_kept sound kept fun _ _ _ => rfl
      have updated : Sound { shared with reports := shared.reports.put row } :=
        { located := by
            intro stays present type status
            rcases other stays present with rfl | old
            · rw [uri, isId]
            · exact sound.located stays old type status
          answered := answered }
      have rendered : isRendered row.tenantId row.sourceId row = true := by
        unfold isRendered
        rw [isType, type, status]
        simp
      refine worked_end ?_ ⟨kept.rows, kept.present, kept.objects⟩ ?_
      · rw [← isSnapshot]
        exact answer_sound updated put rendered (by rw [isId]; exact stored) earlier
      · intro stays present _ _
        rcases other stays present with rfl | old
        · exact Or.inr ⟨_, _, _, rfl, isId, isTenant, isSource⟩
        · exact Or.inl old

theorem failing_worked {id : Uuid} {onward : Option Phase} (sound : Sound shared)
    (done : operate runtime worker input (.failing id) shared = some (effect, onward)) :
    Worked worker (.failing id) shared effect onward := by
  delta operate at done
  dsimp only at done
  split at done
  case h_2 => cases done
  case h_1 returned reports marked =>
      obtain ⟨rfl, rfl⟩ := Prod.mk.inj (Option.some.inj done)
      rcases update_queued_ok marked with ⟨_, rfl⟩ | ⟨old, row, found, waiting, isRow, identity, _, rfl⟩
      · exact worked_end sound (kept_refl _ _) fun _ stays _ _ => Or.inl stays
      have isId : row.id = old.id := congrArg ReportSnapshotIdentity.id identity
      have status : row.status = .failed := by rw [isRow]
      have kept := kept_put found waiting isId
      have other : ∀ stays ∈ shared.reports.put row, stays.status = .rendered →
          stays ∈ shared.reports := by
        intro stays present rendered
        rcases KeyedTable.mem_put.mp present with ⟨rfl, _⟩ | ⟨old, _⟩
        · rw [status] at rendered
          cases rendered
        · exact old
      have answered := answered_kept sound kept fun _ _ _ => rfl
      have located := fun stays present type rendered =>
        sound.located stays (other stays present rendered) type rendered
      exact worked_end ⟨located, answered⟩ kept fun stays present _ rendered =>
        Or.inl (other stays present rendered)

theorem operate_worked {phase : Phase} {onward : Option Phase} (sound : Sound shared)
    (holds : Holds worker phase shared)
    (done : operate runtime worker input phase shared = some (effect, onward)) :
    Worked worker phase shared effect onward := by
  cases phase with
  | looking => exact looking_worked sound done
  | readingHtml => exact reading_worked sound holds done
  | gathering => exact gathering_worked sound done
  | creating => exact creating_worked sound done
  | storing => exact storing_worked sound holds done
  | marking => exact marking_worked sound holds done
  | failing => exact failing_worked sound done

end Operations

section Runs

variable {runtime : ReportRuntime} {shared effect : Shared} {worker : Nat}

/-- The snapshot of a request is there. -/
theorem held_present {phase : Phase} {id : Uuid} (holds : Holds worker phase shared)
    (own : held phase = some id) : (shared.reports.find id).isSome = true := by
  cases phase with
  | looking | readingHtml | gathering | creating => cases own
  | storing queued _ =>
      obtain rfl := Option.some.inj own
      rw [KeyedTable.find_key holds.1]
      rfl
  | marking queued _ _ =>
      obtain rfl := Option.some.inj own
      rw [KeyedTable.find_key holds.1]
      rfl
  | failing _ =>
      obtain rfl := Option.some.inj own
      exact holds

/-- The error path goes on with the same snapshot. -/
theorem rescue_held {phase onward : Phase} (rescued : rescue phase = some onward) :
    held onward = held phase ∧ ∃ id, onward = .failing id := by
  cases phase with
  | looking | readingHtml | gathering | creating | failing => cases rescued
  | storing | marking =>
      obtain rfl := Option.some.inj rescued
      exact ⟨rfl, _, rfl⟩

theorem rescue_holds {phase onward : Phase} (present : ∀ id, held phase = some id →
    (shared.reports.find id).isSome = true) (rescued : rescue phase = some onward) :
    Holds worker onward shared := by
  obtain ⟨same, id, rfl⟩ := rescue_held rescued
  exact present id same.symm

theorem environment_kept {event : Event} (sound : Sound shared)
    (changed : environment runtime event shared = some effect) :
    Sound effect ∧ Kept none shared effect ∧
      ∀ row ∈ effect.reports, row.sourceType = .recommendation → row ∈ shared.reports := by
  cases event with
  | tick elapsed =>
      obtain rfl := Option.some.inj changed
      exact ⟨⟨sound.located, sound.answered⟩,
        ⟨fun _ stays _ => stays, fun _ present => present, fun _ _ => rfl⟩,
        fun _ stays _ => stays⟩
  | change data =>
      obtain rfl := Option.some.inj changed
      exact ⟨⟨sound.located, sound.answered⟩,
        ⟨fun _ stays _ => stays, fun _ present => present, fun _ _ => rfl⟩,
        fun _ stays _ => stays⟩
  | queue row =>
      unfold environment at changed
      dsimp only at changed
      split_ifs at changed with other
      obtain ⟨reports, accepted, rfl⟩ := Option.map_eq_some_iff.mp changed
      cases inserted : insertReportSnapshotRow runtime.octets row shared.reports with
      | error failure =>
          rw [inserted] at accepted
          cases accepted
      | ok next =>
          rw [inserted] at accepted
          obtain rfl := Option.some.inj accepted
          obtain ⟨rfl, fresh, kept⟩ := insert_kept none inserted
          have answered := answered_kept sound kept fun _ _ _ => rfl
          have only : ∀ stays ∈ shared.reports.insert row,
              stays.sourceType = .recommendation → stays ∈ shared.reports := by
            intro stays member type
            rcases (KeyedTable.mem_insert fresh).mp member with old | rfl
            · exact old
            · exact absurd type other
          exact ⟨⟨fun stays member type => sound.located stays (only stays member type) type,
            answered⟩, kept, only⟩

theorem report_discipline (runtime : ReportRuntime) :
    Discipline (program runtime) Sound Holds Apart where
  symmetric := fun apart id own other => apart id other own
  entered := by
    intro worker phase shared entered _
    cases phase with
    | looking => exact ⟨trivial, fun _ _ own => nomatch own⟩
    | readingHtml | gathering | creating | storing | marking | failing => cases entered
  operated := by
    intro worker input phase shared effect after sound holds done
    have worked := operate_worked sound holds done
    refine ⟨worked.sound, ?_⟩
    rintro onward (same | same)
    · exact worked.holds onward same
    · exact rescue_holds (fun id own => worked.kept.present id (held_present holds own)) same
  failed := by
    intro worker phase shared onward _ holds same
    exact rescue_holds (fun id own => held_present holds own) same
  undisturbed := by
    intro worker input phase shared effect after other otherPhase sound holds _ others apart done
    have worked := operate_worked sound holds done
    refine ⟨kept_holds worked.kept apart others, ?_⟩
    intro onward same id own theirs
    rcases worked.own onward id same own with old | fresh
    · exact apart id old theirs
    · have present := held_present others theirs
      rw [fresh] at present
      cases present
  still_apart := by
    intro phase onward other apart same id own
    exact apart id ((rescue_held same).1 ▸ own)
  external := by
    intro event shared effect sound changed
    obtain ⟨next, kept, _⟩ := environment_kept sound changed
    exact ⟨next, fun _ _ holds => kept_holds kept nofun holds⟩

end Runs

section Stability

variable {runtime : ReportRuntime}

/-- A recommendation has one rendered snapshot at most. -/
def OneRendered (shared : Shared) : Prop :=
  ∀ first ∈ shared.reports, ∀ second ∈ shared.reports,
    isRendered first.tenantId first.sourceId first = true →
    isRendered first.tenantId first.sourceId second = true → first = second

/-- One rendered snapshot of each recommendation is what every request returns. -/
theorem stable_of_one {shared : Shared} (sound : Sound shared) (one : OneRendered shared) :
    Stable shared where
  repeated := by
    intro first earlier returned later member _ tenant source
    obtain ⟨left, leftRow, leftRendered, leftId, leftSnapshot, leftHtml⟩ :=
      sound.answered earlier (List.mem_of_getElem? returned)
    obtain ⟨right, rightRow, rightRendered, rightId, rightSnapshot, rightHtml⟩ :=
      sound.answered later member
    obtain ⟨leftTenant, _, leftSource, _⟩ := rendered_status leftRendered
    rw [← leftTenant, ← leftSource] at leftRendered
    rw [tenant, source, ← leftTenant, ← leftSource] at rightRendered
    obtain rfl := one left leftRow right rightRow leftRendered rightRendered
    have html := leftHtml.symm.trans rightHtml
    exact report_ext (rightId.symm.trans leftId) (rightSnapshot.symm.trans leftSnapshot)
      (Option.some.inj html).symm
  found := by
    intro answer member
    obtain ⟨row, stored, rendered, id, snapshot, html⟩ := sound.answered answer member
    obtain ⟨tenant, type, source, status⟩ := rendered_status rendered
    obtain ⟨first, found⟩ : ∃ first, getRenderedReport answer.tenantId answer.sourceId
        shared.reports = some first := by
      cases looked : getRenderedReport answer.tenantId answer.sourceId shared.reports with
      | some first => exact ⟨first, rfl⟩
      | none =>
          have empty := List.head?_eq_none_iff.mp looked
          have selected := (List.mem_insertionSort standsBefore).mpr
            (List.mem_filter.mpr ⟨stored, rendered⟩)
          rw [empty] at selected
          cases selected
    obtain ⟨member, firstRendered⟩ := get_rendered_report_some found
    have isRow : row = first := by
      rw [← tenant, ← source] at rendered firstRendered
      exact one row stored first member rendered firstRendered
    unfold foundReport
    rw [found, ← isRow, Option.bind_eq_bind, Option.bind_some, sound.located row stored type status,
      Option.filter_some, decide_eq_true (rendered_html_uri_nonempty row.id), if_pos rfl,
      Option.bind_eq_bind, Option.bind_some, html, id, snapshot]
    rfl

/-- A step that renders alone leaves one rendered snapshot of each recommendation. -/
theorem one_rendered_onward {phase : Phase} {worker : Nat} {shared effect : Shared}
    {onward : Option Phase} (worked : Worked worker phase shared effect onward)
    (one : OneRendered shared)
    (alone : ∀ queued html earlier, phase = .marking queued html earlier →
      ∀ row ∈ shared.reports, isRendered queued.tenantId queued.sourceId row = false) :
    OneRendered effect := by
  intro first firstMember second secondMember firstRendered secondRendered
  obtain ⟨_, firstType, _, firstStatus⟩ := rendered_status firstRendered
  obtain ⟨tenant, secondType, source, secondStatus⟩ := rendered_status secondRendered
  rcases worked.rendered first firstMember firstType firstStatus with
    firstOld | ⟨queued, html, earlier, marking, firstId, firstTenant, firstSource⟩
  · rcases worked.rendered second secondMember secondType secondStatus with
      secondOld | ⟨queued, html, earlier, marking, _, secondTenant, secondSource⟩
    · exact one first firstOld second secondOld firstRendered secondRendered
    · have absent := alone queued html earlier marking first firstOld
      rw [← secondTenant, ← secondSource, tenant, source, firstRendered] at absent
      cases absent
  · rcases worked.rendered second secondMember secondType secondStatus with
      secondOld | ⟨queued', html', earlier', marking', secondId, _, _⟩
    · have absent := alone queued html earlier marking second secondOld
      rw [← firstTenant, ← firstSource, secondRendered] at absent
      cases absent
    · obtain ⟨rfl, _, _⟩ := Phase.marking.inj (marking.symm.trans marking')
      exact KeyedTable.eq_of_key firstMember secondMember (firstId.trans secondId.symm)

/-- What holds of a run that renders every snapshot alone. -/
structure Steady (state : ReportState) : Prop where
  consistent : Consistent Sound Holds Apart state
  one : OneRendered state.shared

theorem advance_steady {state : ReportState} {worker : Nat} {input : Input} {fault : Fault}
    {phase : Phase} (steady : Steady state) (busy : state.workers worker = some phase)
    (alone : RendersAlone state (.advance worker input fault)) :
    OneRendered (advance (program runtime) worker input fault phase state.shared).1 := by
  rw [advance_shared]
  split_ifs with unaffected
  · exact steady.one
  cases operated : (program runtime).operate worker input phase state.shared with
  | none => exact steady.one
  | some result =>
      obtain ⟨effect, onward⟩ := result
      have worked := operate_worked steady.consistent.invariant (steady.consistent.holds busy)
        operated
      refine one_rendered_onward worked steady.one ?_
      rintro queued html earlier rfl
      unfold RendersAlone at alone
      dsimp only at alone
      rw [busy] at alone
      exact alone.resolve_left unaffected

theorem step_steady {state next : ReportState} {action : ReportAction} (steady : Steady state)
    (alone : RendersAlone state action) (taken : reportStep runtime state action = some next) :
    Steady next where
  consistent := step_consistent (report_discipline runtime) steady.consistent taken
  one := by
    cases action with
    | call worker phase =>
        simp only [reportStep, step] at taken
        split_ifs at taken
        obtain rfl := Option.some.inj taken
        exact steady.one
    | stop worker =>
        obtain rfl := Option.some.inj taken
        exact steady.one
    | advance worker input fault =>
        obtain ⟨phase, busy, rfl⟩ := Option.map_eq_some_iff.mp taken
        exact advance_steady steady busy alone
    | external event =>
        obtain ⟨shared, changed, rfl⟩ := Option.map_eq_some_iff.mp taken
        obtain ⟨_, _, only⟩ := environment_kept steady.consistent.invariant changed
        intro first firstMember second secondMember firstRendered secondRendered
        exact steady.one first (only first firstMember (rendered_status firstRendered).2.1)
          second (only second secondMember (rendered_status secondRendered).2.1)
          firstRendered secondRendered

/-- Reports of recommendations are stable in every run, from a state without any, that
renders no snapshot beside another one. -/
theorem reports_stable {shared : Shared} {finish : ReportState} {schedule : List ReportAction}
    (unanswered : shared.answers = [])
    (unreported : ∀ row ∈ shared.reports, row.sourceType ≠ .recommendation)
    (alone : Along (reportStep runtime) RendersAlone ⟨shared, fun _ => none⟩ schedule)
    (ran : execute (reportStep runtime) ⟨shared, fun _ => none⟩ schedule = some finish) :
    Stable finish.shared := by
  have sound : Sound shared := by
    refine ⟨fun row member type => absurd type (unreported row member), ?_⟩
    rw [unanswered]
    intro answer returned
    cases returned
  have one : OneRendered shared := fun first member _ _ rendered _ =>
    absurd (rendered_status rendered).2.1 (unreported first member)
  have steady : Steady finish := execute_preserves
    (fun _ _ _ before good taken => step_steady before good taken)
    ⟨consistent_idle sound, one⟩ alone ran
  exact stable_of_one steady.consistent.invariant steady.one

end Stability

section Overlapping

def plainRuntime : ReportRuntime where
  octets := fun _ => 0
  numberText := fun _ => ['0']

def plainTemplate : List Char :=
  recommendationReportTokens.flatMap fun token => ['\x7b', '\x7b'] ++ token ++ ['\x7d', '\x7d']

def plainData : RecommendationReportData where
  displayName := "Acme"
  fullLegalName := "Acme Ltd"
  contactEmail := none
  contactPhone := none
  supportUrl := none
  financeOwnerEmail := none
  recommendationId := "2"
  recommendationType := "buy"
  provider := "aws"
  instrument := "compute_sp"
  termMonths := 12
  commitmentAmountCents := "1"
  expectedSavingsCents := "2"
  p95DownsideLossCents := "3"
  riskBand := "low"
  confidenceScore := "0.9"
  frontierUri := none
  priceVersionLabel := none
  forecastQuality := .null

def unreported : Shared where
  clock := 0
  reports := KeyedTable.empty
  data := fun _ _ => some plainData
  objects := fun _ => none
  answers := []

def go (worker : Nat) (drawnId : Uuid) : ReportAction :=
  .advance worker ⟨drawnId, some plainTemplate⟩ .absent

/-- One request renders the report, another one returns it. -/
def consecutiveRequests : List ReportAction :=
  [.call 0 (.looking 1 2 none), go 0 0, go 0 0, go 0 10, go 0 0, go 0 0,
    .call 1 (.looking 1 2 none), go 1 0, go 1 0]

/-- Two requests find nothing rendered; what the first one renders is returned until the
second one has rendered its own, later snapshot. -/
def overlappingRequests : List ReportAction :=
  [.call 0 (.looking 1 2 none), go 0 0, .call 1 (.looking 1 2 none), go 1 0, go 0 0, go 0 10,
    go 1 0, .external (.tick 1), go 1 11, go 0 0, go 0 0,
    .call 2 (.looking 1 2 none), go 2 0, go 2 0, go 1 0, go 1 0,
    .call 3 (.looking 1 2 none), go 3 0, go 3 0]

theorem unreported_rows : ∀ row ∈ unreported.reports, row.sourceType ≠ .recommendation :=
  fun row member => absurd member (KeyedTable.not_mem_empty row)

theorem consecutive_requests_stable :
    ∃ finish, execute (reportStep plainRuntime) ⟨unreported, fun _ => none⟩ consecutiveRequests =
        some finish ∧ finish.shared.answers.length = 2 ∧ Stable finish.shared := by
  obtain ⟨alone, length⟩ : Along (reportStep plainRuntime) RendersAlone
        ⟨unreported, fun _ => none⟩ consecutiveRequests ∧
      (execute (reportStep plainRuntime) ⟨unreported, fun _ => none⟩ consecutiveRequests).map
        (fun finish => finish.shared.answers.length) = some 2 := by
    decide +kernel
  obtain ⟨finish, ran, answers⟩ := Option.map_eq_some_iff.mp length
  exact ⟨finish, ran, answers, reports_stable rfl unreported_rows alone ran⟩

/-- Whose report an answer is, which one, and how many were returned before it was asked. -/
def Answer.summary (answer : Answer) : Uuid × Uuid × Uuid × Nat :=
  (answer.tenantId, answer.sourceId, answer.report.snapshotId, answer.earlier)

theorem overlapping_requests_unstable :
    ¬ ∀ (runtime : ReportRuntime) (shared : Shared) (finish : ReportState)
      (schedule : List ReportAction), shared.answers = [] →
      (∀ row ∈ shared.reports, row.sourceType ≠ .recommendation) →
      execute (reportStep runtime) ⟨shared, fun _ => none⟩ schedule = some finish →
      Stable finish.shared := by
  intro stable
  have outcome : (execute (reportStep plainRuntime) ⟨unreported, fun _ => none⟩
      overlappingRequests).map (fun finish => finish.shared.answers.map Answer.summary) =
      some [(1, 2, 10, 0), (1, 2, 10, 1), (1, 2, 11, 0), (1, 2, 11, 3)] := by
    decide +kernel
  obtain ⟨finish, ran, answers⟩ := Option.map_eq_some_iff.mp outcome
  have summary : ∀ index : Nat, finish.shared.answers[index]?.map Answer.summary =
      [(1, 2, 10, 0), (1, 2, 10, 1), (1, 2, 11, 0), (1, 2, 11, 3)][index]? := by
    intro index
    rw [← answers, List.getElem?_map]
  obtain ⟨first, isFirst, firstIs⟩ := Option.map_eq_some_iff.mp (summary 0)
  obtain ⟨later, isLater, laterIs⟩ := Option.map_eq_some_iff.mp (summary 3)
  simp only [Answer.summary, Prod.mk.injEq] at firstIs laterIs
  obtain ⟨firstTenant, firstSource, firstId, _⟩ := firstIs
  obtain ⟨laterTenant, laterSource, laterId, laterEarlier⟩ := laterIs
  have stays := stable plainRuntime unreported finish overlappingRequests rfl unreported_rows ran
  have same := stays.repeated 0 first isFirst later (List.mem_of_getElem? isLater)
    (laterEarlier ▸ by decide) (laterTenant.trans firstTenant.symm)
    (laterSource.trans firstSource.symm)
  have ids := (laterId.symm.trans (congrArg Report.snapshotId same)).trans firstId
  exact absurd ids (by decide)

end Overlapping

end CommitmentOptimizer.Reports.ReportStability
