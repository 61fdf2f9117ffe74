import Mathlib.Data.List.Infix
import CommitmentOptimizer.Foundations.FaultyWorkers
import CommitmentOptimizer.Notifications.NotificationPreferences
import CommitmentOptimizer.Sessions.AccessTokens

/-!
# Emitting notifications

`emitNotification` of `notifications-service.ts` with the statements it runs.
Each `INSERT … SELECT … WHERE NOT EXISTS` looks at what is committed when it
starts and commits its row later, so other emissions may run in between.
-/

namespace CommitmentOptimizer.Notifications.NotificationEmission

open Foundations
open Foundations.SqlConstraints
open Foundations.FaultyWorkers
open Tenants.Users
open Sessions.AccessTokens (userRoleText)
open Sessions.Authentication (RequestContext)
open Imports.UsageRows (hasControlCharacter)
open NotificationTables
open NotificationPreferences

set_option autoImplicit false

structure NotificationEvent where
  tenantId : Uuid
  eventType : String
  eventId : String
  sourceType : NotificationSourceType
  sourceId : Option String
  templateName : String
  urgency : NotificationUrgency
  payload : List (String × Json)
  recipientUserIds : Option (List String)
  recipientRoles : Option (List String)
  deriving DecidableEq

/-- `readFile` reads a template; `numberText` is `String(value)` of a number. -/
structure EmissionPlatform extends Platform where
  readFile : String → Option String
  numberText : Option Rat → String
  defaultRecipientRoles : List String
  octets : Json → Nat

section Templates

def isNameCharacter (character : Char) : Bool :=
  ('a' ≤ character && character ≤ 'z') || character.isDigit || character = '_' || character = '-'

/-- `/^[a-z][a-z0-9_-]{0,80}$/`. -/
def isTemplateName : List Char → Bool
  | [] => false
  | first :: rest =>
      'a' ≤ first && first ≤ 'z' && rest.length ≤ 80 && rest.all isNameCharacter

def notificationTemplateId (normalize : List Char → List Char) (templateName : String) :
    Option String :=
  let normalized := jsTrim (normalize templateName.toList)
  if isTemplateName normalized then
    some ("notification:" ++ String.ofList normalized ++ ":v1")
  else none

/-- The check of the identifier cannot fail on what `notificationTemplateId` returns. -/
def resolveNotificationTemplate (readFile : String → Option String) (templateId : String) :
    Option String :=
  readFile (String.ofList (templateId.toList.map fun character =>
    if character = ':' then '_' else character) ++ ".hbs")

def templateValue (numberText : Option Rat → String) (event : NotificationEvent)
    (key : String) : Option String :=
  if key = "event_type" then some event.eventType
  else if key = "event_id" then some event.eventId
  else if key = "source_type" then some (sourceTypeText event.sourceType)
  else if key = "source_id" then event.sourceId
  else if key = "urgency" then some (urgencyText event.urgency)
  else if "payload.".toList <+: key.toList then
    match event.payload.lookup (String.ofList (key.toList.drop 8)) with
    | some (.string value) => some value
    | some (.number value) => some (numberText value)
    | some (.bool value) => some (if value then "true" else "false")
    | _ => none
  else none

def isKeyCharacter (character : Char) : Bool :=
  ('a' ≤ character && character ≤ 'z') || character.isDigit || character = '_' ||
    character = '.' || character = '-'

/-- The key of a placeholder whose braces have been read, and what follows it. -/
def placeholder (text : List Char) : Option (List Char × List Char) :=
  let start := text.dropWhile isJsSpace
  let key := start.takeWhile isKeyCharacter
  let named := match key with
    | [] => false
    | first :: rest => 'a' ≤ first && first ≤ 'z' && rest.length ≤ 80
  match named, (start.drop key.length).dropWhile isJsSpace with
  | true, '\x7d' :: '\x7d' :: rest => some (key, rest)
  | _, _ => none

/-- `template.replace(/…/gu, …)`; `none` where a value is missing. The first argument
bounds the characters left. -/
def replacePlaceholders (value : String → Option String) : Nat → List Char → Option (List Char)
  | 0, _ | _, [] => some []
  | bound + 1, first :: rest =>
      let found := match first, rest with
        | '\x7b', '\x7b' :: inner => placeholder inner
        | _, _ => none
      match found with
      | some (key, after) => do
          let text ← value (String.ofList key)
          let replaced ← replacePlaceholders value bound after
          return text.toList ++ replaced
      | none => do
          let replaced ← replacePlaceholders value bound rest
          return first :: replaced

def renderTemplatePart (platform : EmissionPlatform) (event : NotificationEvent)
    (template : List Char) : Option String := do
  let rendered ← replacePlaceholders (templateValue platform.numberText event) template.length
    template
  let normalized := jsTrim (platform.normalize rendered)
  if ['\x7b', '\x7b'] <:+: rendered ∨ normalized = [] ∨ 10000 < utf16Length normalized ∨
      hasControlCharacter normalized then none
  else some (String.ofList normalized)

/-- `template.split("\n---\n")` at its first separator. -/
def splitTemplate : List Char → List Char × Option (List Char)
  | [] => ([], none)
  | first :: rest =>
      match first, rest with
      | '\n', '-' :: '-' :: '-' :: '\n' :: after => ([], some after)
      | _, _ =>
          let (start, after) := splitTemplate rest
          (first :: start, after)

def renderNotificationTemplate (platform : EmissionPlatform) (template : String)
    (event : NotificationEvent) : Option (String × String) :=
  match splitTemplate template.toList with
  | (title, some body) =>
      match splitTemplate body with
      | (_, none) => do
          let renderedTitle ← renderTemplatePart platform event title
          let renderedBody ← renderTemplatePart platform event body
          return (renderedTitle, renderedBody)
      | _ => none
  | _ => none

end Templates

section Statements

structure NotificationRecipient where
  id : Uuid
  role : UserRole
  deriving DecidableEq

/-- `none` where a text is not the text of a `uuid`. -/
def listRecipients (tenantId : Uuid) (userIds roles : List String) (db : NotificationsDb) :
    Option (List NotificationRecipient) := do
  let ids ← userIds.mapM fun text => uuidOfText text.toList
  let rows := db.users.rows.filter fun row => row.tenantId = tenantId ∧ row.isActive = true ∧
    (row.id ∈ ids ∨ userRoleText row.role ∈ roles)
  return (rows.insertionSort fun left right => left.id ≤ right.id).map fun row => ⟨row.id, row.role⟩

def notificationEnabled (preferences : List NotificationPreference) (event : NotificationEvent) :
    Bool :=
  match preferences.find? fun row => row.eventType = event.eventType ∧ row.channel = .inApp with
  | none => true
  | some preference =>
      if preference.enabled then true
      else if event.urgency = .high then !preference.lockedByAdmin
      else false

/-- The columns that the subquery compares. -/
structure NotificationKey where
  tenantId : Uuid
  recipientUserId : Uuid
  eventType : String
  sourceType : NotificationSourceType
  sourceId : Option Uuid
  templateId : String
  deriving DecidableEq

def rowKey (row : Notification) : NotificationKey :=
  ⟨row.tenantId, row.recipientUserId, row.eventType, row.sourceType, row.sourceId, row.templateId⟩

/-- `$5::uuid`. -/
def sourceUuid : Option String → Option (Option Uuid)
  | none => some none
  | some text => (uuidOfText text.toList).map some

/-- `{ ...event.payload, event_id: event.eventId }`. -/
def storedPayload (event : NotificationEvent) : Json :=
  .object (event.payload.filter (·.1 ≠ "event_id") ++ [("event_id", .string event.eventId)])

def newNotification (id : Uuid) (now : Instant) (recipientUserId : Uuid)
    (event : NotificationEvent) (sourceId : Option Uuid) (templateId title body : String) :
    Notification where
  id := id
  tenantId := event.tenantId
  recipientUserId := recipientUserId
  eventType := event.eventType
  sourceType := event.sourceType
  sourceId := sourceId
  templateId := templateId
  urgency := event.urgency
  title := title
  body := body
  payload := storedPayload event
  status := .unread
  readAt := none
  createdAt := now
  updatedAt := now

end Statements

section Program

/-- An emission after its recipients have been listed; `created` is what it returns. -/
structure Emission where
  event : NotificationEvent
  templateId : String
  template : String
  recipients : List NotificationRecipient
  created : List Notification

/-- What `emitNotification` does next. -/
inductive EmissionPhase where
  | resolving (event : NotificationEvent)
  | listing (event : NotificationEvent) (templateId template : String)
  | asking (emission : Emission) (recipient : NotificationRecipient)
      (rest : List NotificationRecipient)
  | creating (emission : Emission) (recipient : NotificationRecipient)
      (rest : List NotificationRecipient)
  | inserting (emission : Emission) (recipient : NotificationRecipient)
      (rest : List NotificationRecipient) (row : Notification)

/-- An event that a recipient's preferences kept back, and the table they were read from. -/
structure Withheld where
  event : NotificationEvent
  recipientUserId : Uuid
  preferences : PreferenceTable

/-- `emitted` holds the events whose emission began, `settled` the events and recipients
whose INSERT came to its end, `finished` the emissions that came to theirs, with their
recipients, and `updates` the requests that were not refused. -/
structure EmissionState where
  db : NotificationsDb
  emitted : List NotificationEvent
  withheld : List Withheld
  settled : List (NotificationEvent × Uuid)
  finished : List (NotificationEvent × List NotificationRecipient)
  updates : List (RequestContext × Json)

inductive EmissionEvent where
  | update (circumstances : Circumstances) (context : RequestContext) (body : Json)
  | read (tenantId userId id : Uuid)
  | accounts (tenant : Uuid → Bool) (users : UserTable)
  | tick (elapsed : Nat)

/-- The loop goes on with the recipients that are left. -/
def continueWith (state : EmissionState) (emission : Emission) :
    List NotificationRecipient → EmissionState × Option EmissionPhase
  | [] =>
      ({ state with finished := state.finished ++ [(emission.event, emission.recipients)] }, none)
  | recipient :: rest => (state, some (.asking emission recipient rest))

def EmissionState.withhold (state : EmissionState) (event : NotificationEvent)
    (recipientUserId : Uuid) : EmissionState :=
  { state with withheld := state.withheld ++ [⟨event, recipientUserId, state.db.preferences⟩] }

def EmissionState.settle (state : EmissionState) (event : NotificationEvent)
    (recipientUserId : Uuid) : EmissionState :=
  { state with settled := state.settled ++ [(event, recipientUserId)] }

/-- `event.recipientRoles ?? (event.recipientUserIds ? [] : defaultRecipientRoles)`. -/
def recipientRoles (defaults : List String) (event : NotificationEvent) : List String :=
  event.recipientRoles.getD (if event.recipientUserIds.isSome then [] else defaults)

/-- One statement of an emission; `none` where it throws. -/
def emissionOperate (platform : EmissionPlatform) (newId : Uuid) (state : EmissionState) :
    EmissionPhase → Option (EmissionState × Option EmissionPhase)
  | .resolving event => do
      let templateId ← notificationTemplateId platform.normalize event.templateName
      let template ← resolveNotificationTemplate platform.readFile templateId
      return ({ state with emitted := state.emitted ++ [event] },
        some (.listing event templateId template))
  | .listing event templateId template => do
      let recipients ← listRecipients event.tenantId (event.recipientUserIds.getD [])
        (recipientRoles platform.defaultRecipientRoles event) state.db
      return continueWith state ⟨event, templateId, template, recipients, []⟩ recipients
  | .asking emission recipient rest =>
      let preferences := listPreferences platform.ordered emission.event.tenantId recipient.id
        state.db
      if notificationEnabled preferences emission.event then
        some (state, some (.creating emission recipient rest))
      else some (continueWith (state.withhold emission.event recipient.id) emission rest)
  | .creating emission recipient rest => do
      let (title, body) ← renderNotificationTemplate platform emission.template emission.event
      let sourceId ← sourceUuid emission.event.sourceId
      let row := newNotification newId state.db.clock recipient.id emission.event sourceId
        emission.templateId title body
      if state.db.notifications.rows.any fun other => rowKey other = rowKey row then
        return continueWith (state.settle emission.event recipient.id) emission rest
      else return (state, some (.inserting emission recipient rest row))
  | .inserting emission recipient rest row =>
      match insertNotification platform.octets row state.db with
      | .ok db =>
          some (continueWith ({ state with db := db }.settle emission.event recipient.id)
            { emission with created := emission.created ++ [row] } rest)
      | .error _ => none

def emissionEnvironment (platform : EmissionPlatform) (state : EmissionState) :
    EmissionEvent → EmissionState
  | .update circumstances context body =>
      match updateNotificationPreferences platform.toPlatform circumstances context body
          state.db with
      | (.refused _, db) => { state with db := db }
      | (_, db) => { state with db := db, updates := state.updates ++ [(context, body)] }
  | .read tenantId userId id => { state with db := markRead tenantId userId id state.db }
  | .accounts tenant users => { state with db := { state.db with tenant := tenant, users := users } }
  | .tick elapsed => { state with db := { state.db with clock := state.db.clock + elapsed } }

def emissions (platform : EmissionPlatform) :
    Program EmissionState EmissionPhase Uuid EmissionEvent where
  entry phase := match phase with
    | .resolving _ => true
    | _ => false
  operate _ newId phase state := emissionOperate platform newId state phase
  rescue _ := none
  environment event state := some (emissionEnvironment platform state event)

abbrev EmissionRun := State EmissionState EmissionPhase

abbrev EmissionAction := Action EmissionPhase Uuid EmissionEvent

def emissionStart (tenant : Uuid → Bool) (users : UserTable) (clock : Instant) : EmissionRun :=
  ⟨⟨⟨tenant, users, .empty, .empty, clock⟩, [], [], [], [], []⟩, fun _ => none⟩

end Program

section Operations

variable {platform : EmissionPlatform} {newId : Uuid} {state : EmissionState}

/-- Everything one statement of an emission can do. -/
inductive Operated (platform : EmissionPlatform) (newId : Uuid) (state : EmissionState) :
    EmissionPhase → EmissionState × Option EmissionPhase → Prop
  | resolved (event : NotificationEvent) (templateId template : String)
      (named : notificationTemplateId platform.normalize event.templateName = some templateId) :
      Operated platform newId state (.resolving event)
        ({ state with emitted := state.emitted ++ [event] },
          some (.listing event templateId template))
  | listed (event : NotificationEvent) (templateId template : String)
      (recipients : List NotificationRecipient) :
      Operated platform newId state (.listing event templateId template)
        (continueWith state ⟨event, templateId, template, recipients, []⟩ recipients)
  | allowed (emission : Emission) (recipient : NotificationRecipient)
      (rest : List NotificationRecipient) :
      Operated platform newId state (.asking emission recipient rest)
        (state, some (.creating emission recipient rest))
  | withheld (emission : Emission) (recipient : NotificationRecipient)
      (rest : List NotificationRecipient)
      (disabled : notificationEnabled (listPreferences platform.ordered emission.event.tenantId
        recipient.id state.db) emission.event = false) :
      Operated platform newId state (.asking emission recipient rest)
        (continueWith (state.withhold emission.event recipient.id) emission rest)
  | existing (emission : Emission) (recipient : NotificationRecipient)
      (rest : List NotificationRecipient) (title body : String) (sourceId : Option Uuid)
      (source : sourceUuid emission.event.sourceId = some sourceId) (other : Notification)
      (member : other ∈ state.db.notifications)
      (same : rowKey other = rowKey (newNotification newId state.db.clock recipient.id
        emission.event sourceId emission.templateId title body)) :
      Operated platform newId state (.creating emission recipient rest)
        (continueWith (state.settle emission.event recipient.id) emission rest)
  | missing (emission : Emission) (recipient : NotificationRecipient)
      (rest : List NotificationRecipient) (title body : String) (sourceId : Option Uuid)
      (source : sourceUuid emission.event.sourceId = some sourceId)
      (absent : ∀ other ∈ state.db.notifications, rowKey other ≠
        rowKey (newNotification newId state.db.clock recipient.id emission.event sourceId
          emission.templateId title body)) :
      Operated platform newId state (.creating emission recipient rest)
        (state, some (.inserting emission recipient rest (newNotification newId state.db.clock
          recipient.id emission.event sourceId emission.templateId title body)))
  | inserted (emission : Emission) (recipient : NotificationRecipient)
      (rest : List NotificationRecipient) (row : Notification)
      (fresh : state.db.notifications.find row.id = none) :
      Operated platform newId state (.inserting emission recipient rest row)
        (continueWith ({ state with
            db := { state.db with notifications := state.db.notifications.insert row } }.settle
              emission.event recipient.id)
          { emission with created := emission.created ++ [row] } rest)

theorem insert_notification_ok {octets : Json → Nat} {row : Notification}
    {db next : NotificationsDb} (accepted : insertNotification octets row db = .ok next) :
    db.notifications.find row.id = none ∧
      next = { db with notifications := db.notifications.insert row } := by
  obtain ⟨_, _, accepted⟩ := bind_ok.mp accepted
  obtain ⟨_, _, accepted⟩ := bind_ok.mp accepted
  obtain ⟨_, fresh, accepted⟩ := bind_ok.mp accepted
  obtain ⟨_, _, accepted⟩ := bind_ok.mp accepted
  exact ⟨Option.isNone_iff_eq_none.mp (require_ok.mp fresh), (Except.ok.inj accepted).symm⟩

theorem operate_operated {phase : EmissionPhase} {result : EmissionState × Option EmissionPhase}
    (operated : emissionOperate platform newId state phase = some result) :
    Operated platform newId state phase result := by
  cases phase with
  | resolving event =>
      obtain ⟨templateId, named, operated⟩ := Option.bind_eq_some_iff.mp operated
      obtain ⟨template, _, operated⟩ := Option.bind_eq_some_iff.mp operated
      obtain rfl := Option.some.inj operated
      exact .resolved event templateId template named
  | listing event templateId template =>
      obtain ⟨recipients, _, operated⟩ := Option.bind_eq_some_iff.mp operated
      obtain rfl := Option.some.inj operated
      exact .listed event templateId template recipients
  | asking emission recipient rest =>
      simp only [emissionOperate] at operated
      split_ifs at operated with enabled
      · obtain rfl := Option.some.inj operated
        exact .allowed emission recipient rest
      · obtain rfl := Option.some.inj operated
        exact .withheld emission recipient rest (Bool.eq_false_iff.mpr enabled)
  | creating emission recipient rest =>
      obtain ⟨⟨title, body⟩, _, operated⟩ := Option.bind_eq_some_iff.mp operated
      obtain ⟨sourceId, source, operated⟩ := Option.bind_eq_some_iff.mp operated
      dsimp only at operated
      split_ifs at operated with exists'
      · obtain ⟨other, member, same⟩ := List.any_eq_true.mp exists'
        obtain rfl := Option.some.inj operated
        exact .existing emission recipient rest title body sourceId source other member
          (of_decide_eq_true same)
      · obtain rfl := Option.some.inj operated
        refine .missing emission recipient rest title body sourceId source ?_
        intro other member same
        exact exists' (List.any_eq_true.mpr ⟨other, member, decide_eq_true same⟩)
  | inserting emission recipient rest row =>
      simp only [emissionOperate] at operated
      split at operated
      · next db accepted =>
        obtain ⟨fresh, rfl⟩ := insert_notification_ok accepted
        obtain rfl := Option.some.inj operated
        exact .inserted emission recipient rest row fresh
      · cases operated

section Loop

variable (state : EmissionState) (emission : Emission) (rest : List NotificationRecipient)

@[simp] theorem continue_with_db : (continueWith state emission rest).1.db = state.db := by
  cases rest <;> rfl

@[simp] theorem continue_with_emitted :
    (continueWith state emission rest).1.emitted = state.emitted := by
  cases rest <;> rfl

@[simp] theorem continue_with_withheld :
    (continueWith state emission rest).1.withheld = state.withheld := by
  cases rest <;> rfl

@[simp] theorem continue_with_settled :
    (continueWith state emission rest).1.settled = state.settled := by
  cases rest <;> rfl

@[simp] theorem continue_with_updates :
    (continueWith state emission rest).1.updates = state.updates := by
  cases rest <;> rfl

theorem mem_continue_with_finished {entry : NotificationEvent × List NotificationRecipient}
    (member : entry ∈ (continueWith state emission rest).1.finished) :
    entry ∈ state.finished ∨ (rest = [] ∧ entry = (emission.event, emission.recipients)) := by
  cases rest with
  | nil =>
      rcases List.mem_append.mp member with old | new
      · exact Or.inl old
      · exact Or.inr ⟨rfl, List.mem_singleton.mp new⟩
  | cons => exact Or.inl member

theorem continue_with_onward {phase : EmissionPhase}
    (onward : (continueWith state emission rest).2 = some phase) :
    ∃ recipient others, rest = recipient :: others ∧
      phase = .asking emission recipient others := by
  cases rest with
  | nil => cases onward
  | cons recipient others => exact ⟨recipient, others, rfl, (Option.some.inj onward).symm⟩

end Loop

end Operations

section Examples

def examplePlatform : EmissionPlatform where
  normalize := id
  ordered _ _ := true
  readFile _ := some "i\n---\nb"
  numberText _ := "0"
  defaultRecipientRoles := ["tenant_admin"]
  octets _ := 0

def exampleUsers : UserTable where
  rows := [⟨7, 1, "ada@example.test", "Ada", .tenantAdmin, true, 0, 0⟩]
  distinct := by decide

def exampleStart : EmissionRun := emissionStart (fun id => id = 1) exampleUsers 0

def exampleEvent (eventId : String) (urgency : NotificationUrgency) : NotificationEvent where
  tenantId := 1
  eventType := "import.completed"
  eventId := eventId
  sourceType := .importBatch
  sourceId := none
  templateName := "import_completed"
  urgency := urgency
  payload := [("line_count", .string "12")]
  recipientUserIds := none
  recipientRoles := none

end Examples

end CommitmentOptimizer.Notifications.NotificationEmission
