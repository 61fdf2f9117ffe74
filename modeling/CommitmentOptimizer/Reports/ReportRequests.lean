import Mathlib.Data.List.Sort
import CommitmentOptimizer.Foundations.FaultyWorkers
import CommitmentOptimizer.Reports.ReportSnapshots
import CommitmentOptimizer.Reports.ReportTemplates

/-!
# Report requests

`get` of `reports-service.ts` over `reports-repository.ts` and the object store, one step
for each call it awaits.
-/

namespace CommitmentOptimizer.Reports.ReportRequests

open Foundations
open Foundations.FaultyWorkers
open Foundations.SqlConstraints
open ReportSnapshots
open ReportTemplates

set_option autoImplicit false

/-- What a request returned of a snapshot. -/
structure Report where
  snapshotId : Uuid
  snapshot : Json
  renderedHtml : List Char
  deriving DecidableEq

/-- A returned report; `earlier` counts the ones that had been returned when the request
looked for its snapshot. -/
structure Answer where
  tenantId : Uuid
  sourceId : Uuid
  report : Report
  earlier : Nat
  deriving DecidableEq

/-- `data` is what the query of `recommendationReportData` finds, `objects` holds the
rendered reports, and `answers` the returned ones, the first one first. -/
structure Shared where
  clock : Instant
  reports : ReportSnapshotTable
  data : Uuid → Uuid → Option RecommendationReportData
  objects : String → Option (List Char)
  answers : List Answer

/-- `octets` is the length of a `jsonb` value's text. -/
structure ReportRuntime where
  octets : Json → Nat
  numberText : Option Rat → List Char

section Statements

/-- `ORDER BY created_at DESC, id DESC`. -/
def standsBefore (left right : ReportSnapshot) : Prop :=
  right.createdAt < left.createdAt ∨ right.createdAt = left.createdAt ∧ right.id ≤ left.id

instance (left right : ReportSnapshot) : Decidable (standsBefore left right) :=
  inferInstanceAs (Decidable (_ ∨ _))

def isRendered (tenantId sourceId : Uuid) (row : ReportSnapshot) : Bool :=
  row.tenantId = tenantId && row.sourceType = .recommendation && row.sourceId = sourceId &&
    row.status = .rendered

def getRenderedReport (tenantId sourceId : Uuid) (reports : ReportSnapshotTable) :
    Option ReportSnapshot :=
  ((reports.rows.filter (isRendered tenantId sourceId)).insertionSort standsBefore).head?

/-- The row that `createQueuedRecommendationReport` inserts. -/
def queuedReport (id tenantId sourceId : Uuid) (snapshot : Json) (actorUserId : Option Uuid)
    (now : Instant) : ReportSnapshot where
  id := id
  tenantId := tenantId
  sourceType := .recommendation
  sourceId := sourceId
  snapshotJson := snapshot
  renderedHtmlUri := none
  renderedPdfUri := none
  status := .queued
  createdByUserId := actorUserId
  createdAt := now
  updatedAt := now

/-- `UPDATE … WHERE id = $1 AND status = 'queued' RETURNING …`: the row, if there is one, and
the table. -/
def updateQueued (octets : Json → Nat) (clock : Instant) (id : Uuid)
    (change : ReportSnapshot → ReportSnapshot) (reports : ReportSnapshotTable) :
    Except DbError (Option ReportSnapshot × ReportSnapshotTable) :=
  match (reports.find id).filter fun row => row.status = .queued with
  | none => .ok (none, reports)
  | some old => do
      let row ← updateReportSnapshotRow octets clock old (change old)
      return (some row, reports.put row)

def markRendered (octets : Json → Nat) (clock : Instant) (id : Uuid) (renderedHtmlUri : String) :
    ReportSnapshotTable → Except DbError (Option ReportSnapshot × ReportSnapshotTable) :=
  updateQueued octets clock id fun row =>
    { row with
      status := .rendered
      renderedHtmlUri := some renderedHtmlUri }

def markFailed (octets : Json → Nat) (clock : Instant) (id : Uuid) :
    ReportSnapshotTable → Except DbError (Option ReportSnapshot × ReportSnapshotTable) :=
  updateQueued octets clock id fun row => { row with status := .failed }

end Statements

def renderedHtmlUri (id : Uuid) : String :=
  "reports/recommendation/" ++ uuidText id ++ "/recommendation_report_v1.html"

/-- What a request does next. -/
inductive Phase where
  | looking (tenantId sourceId : Uuid) (actorUserId : Option Uuid)
  | readingHtml (row : ReportSnapshot) (uri : String) (earlier : Nat)
  | gathering (tenantId sourceId : Uuid) (actorUserId : Option Uuid) (earlier : Nat)
  | creating (tenantId sourceId : Uuid) (actorUserId : Option Uuid) (snapshot : Json)
      (earlier : Nat)
  | storing (queued : ReportSnapshot) (earlier : Nat)
  | marking (queued : ReportSnapshot) (renderedHtml : List Char) (earlier : Nat)
  | failing (id : Uuid)

/-- `drawnId` is the identifier that the INSERT draws, `template` the file that the
resolver reads. -/
structure Input where
  drawnId : Uuid
  template : Option (List Char)

/-- Time passes, the data behind a report changes, or a report of another kind is
queued. -/
inductive Event where
  | tick (elapsed : Nat)
  | change (data : Uuid → Uuid → Option RecommendationReportData)
  | queue (row : ReportSnapshot)

section Steps

variable (runtime : ReportRuntime)

/-- The report of a row is returned. -/
def Shared.answer (shared : Shared) (row : ReportSnapshot) (snapshot : Json)
    (renderedHtml : List Char) (earlier : Nat) : Shared :=
  { shared with
    answers := shared.answers ++
      [⟨row.tenantId, row.sourceId, ⟨row.id, snapshot, renderedHtml⟩, earlier⟩] }

def Shared.putObject (shared : Shared) (key : String) (value : List Char) : Shared :=
  { shared with objects := Function.update shared.objects key (some value) }

@[simp] theorem objects_putObject_self (shared : Shared) (key : String) (value : List Char) :
    (shared.putObject key value).objects key = some value :=
  Function.update_self ..

theorem objects_putObject_of_ne (shared : Shared) {key other : String} (value : List Char)
    (different : other ≠ key) :
    (shared.putObject key value).objects other = shared.objects other :=
  Function.update_of_ne different ..

/-- The template of a request, checked and rendered. -/
def renderedReport (template : Option (List Char)) (snapshot : Json) : Option (List Char) :=
  (template.filter assertRecommendationReportTemplateInventory).bind fun template =>
    (renderStrictTemplate runtime.numberText template snapshot).map (· ++ ['\n'])

def operate (_worker : Nat) (input : Input) (phase : Phase) (shared : Shared) :
    Option (Shared × Option Phase) :=
  match phase with
  | .looking tenantId sourceId actorUserId =>
      match getRenderedReport tenantId sourceId shared.reports with
      | some row =>
          match row.renderedHtmlUri.filter (· ≠ "") with
          | some uri => some (shared, some (.readingHtml row uri shared.answers.length))
          | none => some (shared,
              some (.gathering tenantId sourceId actorUserId shared.answers.length))
      | none => some (shared,
          some (.gathering tenantId sourceId actorUserId shared.answers.length))
  | .readingHtml row uri earlier =>
      (shared.objects uri).map fun renderedHtml =>
        (shared.answer row row.snapshotJson renderedHtml earlier, none)
  | .gathering tenantId sourceId actorUserId earlier =>
      match shared.data tenantId sourceId with
      | none => some (shared, none)
      | some data => some (shared, some
          (.creating tenantId sourceId actorUserId (captureRecommendationSnapshot data) earlier))
  | .creating tenantId sourceId actorUserId snapshot earlier =>
      let row := queuedReport input.drawnId tenantId sourceId snapshot actorUserId shared.clock
      match insertReportSnapshotRow runtime.octets row shared.reports with
      | .ok reports => some ({ shared with reports := reports }, some (.storing row earlier))
      | .error _ => none
  | .storing queued earlier =>
      (renderedReport runtime input.template queued.snapshotJson).map fun renderedHtml =>
        (shared.putObject (renderedHtmlUri queued.id) renderedHtml,
          some (.marking queued renderedHtml earlier))
  | .marking queued renderedHtml earlier =>
      match markRendered runtime.octets shared.clock queued.id (renderedHtmlUri queued.id)
          shared.reports with
      | .ok (some row, reports) =>
          some (({ shared with reports := reports }).answer row queued.snapshotJson renderedHtml
            earlier, none)
      | _ => none
  | .failing id =>
      match markFailed runtime.octets shared.clock id shared.reports with
      | .ok (_, reports) => some ({ shared with reports := reports }, none)
      | .error _ => none

/-- The `catch` of `get`; what fails outside of its `try` ends the request. -/
def rescue : Phase → Option Phase
  | .storing queued _ | .marking queued _ _ => some (.failing queued.id)
  | .looking _ _ _ | .readingHtml _ _ _ | .gathering _ _ _ _ | .creating _ _ _ _ _
  | .failing _ => none

def entry : Phase → Bool
  | .looking _ _ _ => true
  | _ => false

def environment : Event → Shared → Option Shared
  | .tick elapsed, shared => some { shared with clock := shared.clock + elapsed }
  | .change data, shared => some { shared with data := data }
  | .queue row, shared =>
      if row.sourceType = .recommendation then none
      else (insertReportSnapshotRow runtime.octets row shared.reports).toOption.map
        fun reports => { shared with reports := reports }

def program : Program Shared Phase Input Event where
  entry := entry
  operate := operate runtime
  rescue := rescue
  environment := environment runtime

end Steps

abbrev ReportState := State Shared Phase

abbrev ReportAction := Action Phase Input Event

abbrev reportStep (runtime : ReportRuntime) : ReportState → ReportAction → Option ReportState :=
  step (program runtime)

end CommitmentOptimizer.Reports.ReportRequests
