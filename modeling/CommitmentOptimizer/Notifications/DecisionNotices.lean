import CommitmentOptimizer.Approvals.ApprovalLifecycle
import CommitmentOptimizer.Foundations.TrimmedTexts
import CommitmentOptimizer.Foundations.UuidText
import CommitmentOptimizer.Imports.CanonicalTexts
import CommitmentOptimizer.Notifications.NotificationEmission

/-!
# Announcing decisions

`parseApprovalDecisionBody` of `approvals-input.ts`, the event that
`emitApprovalDecidedNotification` of `bootstrap.ts` makes of a decision, and what the
`approval_decided` template renders to.
-/

namespace CommitmentOptimizer.Notifications.DecisionNotices

open Foundations
open Foundations.SqlConstraints
open Foundations.TrimmedTexts
open Foundations.UuidText
open Approvals.ApprovalLifecycle
open Imports.CanonicalTexts
open Imports.UsageRows (hasControlCharacter)
open NotificationEmission
open NotificationTables

set_option autoImplicit false

section Input

structure ApprovalDecisionInput where
  approvalId : String
  decisionReason : String
  deriving DecidableEq, Repr

def boundedText (normalize : List Char → List Char) (max : Nat) : Option Json → Option String
  | some (.string value) =>
      let normalized := jsTrim (normalize value.toList)
      if normalized = [] ∨ max < utf16Length normalized ∨ hasControlCharacter normalized then none
      else some (String.ofList normalized)
  | _ => none

/-- The versions and variants are those of the pattern, whatever the case of the letters. -/
def isUuidText (text : List Char) : Bool :=
  text.length == 36 &&
    (text.zipIdx.all fun (character, position) =>
      if position ∈ [8, 13, 18, 23] then character == '-' else (hexDigit character).isSome) &&
    text[14]?.any (fun character => '1' ≤ character && character ≤ '5') &&
    text[19]?.any fun character => character.toLower ∈ ['8', '9', 'a', 'b']

def uuid : Option String → Option String
  | some value =>
      if isUuidText value.toList then some (String.ofList (value.toList.map Char.toLower)) else none
  | none => none

/-- `approvalId` is the identifier of the route, where it is a text. -/
def parseApprovalDecisionBody (normalize : List Char → List Char) (approvalId : Option String)
    (body : Json) : Option ApprovalDecisionInput := do
  let source ← NotificationPreferences.record ["decision_reason"] body
  let approvalId ← uuid approvalId
  let decisionReason ← boundedText normalize 2000 (source.field "decision_reason")
  return { approvalId, decisionReason }

end Input

section Event

def statusText : ApprovalStatus → String
  | .queued => "queued"
  | .pending => "pending"
  | .approved => "approved"
  | .rejected => "rejected"
  | .expired => "expired"
  | .failed => "failed"

/-- The event of `emitApprovalDecidedNotification`. -/
def approvalDecidedEvent (tenantId : Uuid) (approval : Approval) : NotificationEvent where
  tenantId := tenantId
  eventType := "cloud_commitment.approval.decided"
  eventId := uuidText approval.id ++ ":" ++ statusText approval.status
  sourceType := .approval
  sourceId := some (uuidText approval.id)
  templateName := "approval_decided"
  urgency := .medium
  payload :=
    [("status", .string (statusText approval.status)),
     ("decision_reason", .string (approval.decisionReason.getD "No reason supplied."))]
  recipientUserIds := approval.assignedToUserId.map fun id => [uuidText id]
  recipientRoles :=
    if approval.assignedToUserId.isSome then none else some ["finance_approver", "tenant_admin"]

def decidedTitle : String := "Approval decision · \x7b\x7burgency\x7d\x7d"

def decidedBody : String :=
  "\x7b\x7bevent_type\x7d\x7d is now \x7b\x7bpayload.status\x7d\x7d. Decision reason: \x7b\x7bpayload.decision_reason\x7d\x7d.\n"

/-- `notification_approval_decided_v1.hbs`. -/
def approvalDecidedTemplate : String := decidedTitle ++ "\n---\n" ++ decidedBody

end Event

section Rendering

variable {value : String → Option String}

/-- What is no brace is copied. -/
theorem replace_literal {literal : List Char} (plain : '\x7b' ∉ literal) (bound : Nat)
    (rest : List Char) :
    replacePlaceholders value (literal.length + bound) (literal ++ rest) =
      (replacePlaceholders value bound rest).map fun replaced => literal ++ replaced := by
  induction literal with
  | nil =>
      rw [List.length_nil, Nat.zero_add, List.nil_append]
      exact (Option.map_id_fun' ▸ rfl)
  | cons first literal induction =>
      have other : first ≠ '\x7b' := fun same => plain (by rw [same]; exact List.mem_cons_self)
      have onward := induction fun member => plain (List.mem_cons_of_mem _ member)
      rw [List.length_cons, Nat.add_right_comm, List.cons_append, replacePlaceholders, onward]
      · cases replacePlaceholders value bound rest <;> rfl
      · exact fun _ same => absurd same other

theorem replace_end (bound : Nat) : replacePlaceholders value bound [] = some [] := by
  cases bound <;> rfl

def isKey : List Char → Bool
  | [] => false
  | first :: rest =>
      ('a' ≤ first && first ≤ 'z') && rest.length ≤ 80 && (first :: rest).all isKeyCharacter

/-- The token of a key, with its braces. -/
def token (key : String) : List Char := '\x7b' :: '\x7b' :: (key.toList ++ ['\x7d', '\x7d'])

theorem key_character_visible {character : Char} (keyed : isKeyCharacter character = true) :
    isJsSpace character = false := by
  have bounds : (48 ≤ character.toNat ∧ character.toNat ≤ 57) ∨
      (97 ≤ character.toNat ∧ character.toNat ≤ 122) ∨ character.toNat = 95 ∨
      character.toNat = 46 ∨ character.toNat = 45 := by
    simp only [isKeyCharacter, Char.isDigit, Bool.or_eq_true, Bool.and_eq_true,
      decide_eq_true_eq] at keyed
    rcases keyed with (((lower | digit) | rfl) | rfl) | rfl
    · exact Or.inr (Or.inl lower)
    · exact Or.inl digit
    · exact Or.inr (Or.inr (Or.inl rfl))
    · exact Or.inr (Or.inr (Or.inr (Or.inl rfl)))
    · exact Or.inr (Or.inr (Or.inr (Or.inr rfl)))
  simp [isJsSpace]
  omega

theorem placeholder_key {key : List Char} (keyed : isKey key = true) (after : List Char) :
    placeholder (key ++ ('\x7d' :: '\x7d' :: after)) = some (key, after) := by
  cases key with
  | nil => cases keyed
  | cons first rest =>
      simp only [isKey, Bool.and_eq_true, decide_eq_true_eq] at keyed
      obtain ⟨⟨letter, short⟩, plain⟩ := keyed
      have characters := List.all_eq_true.mp plain
      have visible : isJsSpace first = false :=
        key_character_visible (characters first List.mem_cons_self)
      have start : ((first :: rest) ++ ('\x7d' :: '\x7d' :: after)).dropWhile isJsSpace =
          (first :: rest) ++ ('\x7d' :: '\x7d' :: after) := by
        rw [List.cons_append, List.dropWhile_cons, visible]
        rfl
      have key : ((first :: rest) ++ ('\x7d' :: '\x7d' :: after)).takeWhile isKeyCharacter =
          first :: rest := by
        rw [List.takeWhile_append_of_pos characters]
        exact List.append_nil _
      unfold placeholder
      dsimp only
      rw [start, key, List.drop_left]
      simp only [letter, short, decide_true, Bool.true_and]
      rfl

theorem replace_token {key text : String} (keyed : isKey key.toList = true)
    (known : value key = some text) (bound : Nat) (after : List Char) :
    replacePlaceholders value (bound + 1) (token key ++ after) =
      (replacePlaceholders value bound after).map fun replaced => text.toList ++ replaced := by
  have opened : token key ++ after =
      '\x7b' :: '\x7b' :: (key.toList ++ ('\x7d' :: '\x7d' :: after)) := by
    rw [token, List.cons_append, List.cons_append, List.append_assoc]
    rfl
  rw [opened, replacePlaceholders]
  simp only [placeholder_key keyed, String.ofList_toList, known, Option.bind_eq_bind,
    Option.bind_some]
  cases replacePlaceholders value bound after <;> rfl

end Rendering

section Announcement

/-- The body as it is rendered, without the reason and what follows it. -/
def bodyStart (status : ApprovalStatus) : List Char :=
  "cloud_commitment.approval.decided".toList ++ (" is now ".toList ++ ((statusText status).toList ++
    ". Decision reason: ".toList))

def reasonText (approval : Approval) : List Char :=
  (approval.decisionReason.getD "No reason supplied.").toList

/-- What the template is to say of a decision, and what the columns take. -/
structure Announces (approval : Approval) (title body : String) : Prop where
  titled : title = "Approval decision · medium"
  stated : body.toList = bodyStart approval.status ++ (reasonText approval ++ ['.'])
  titleCheck : isCanonicalText 300 title = true
  bodyCheck : isCanonicalText 10000 body = true

variable {platform : EmissionPlatform} {tenantId : Uuid} {approval : Approval}

theorem split_decided_template :
    splitTemplate approvalDecidedTemplate.toList =
        (decidedTitle.toList, some decidedBody.toList) ∧
      (splitTemplate decidedBody.toList).2 = none := by
  have title : decidedTitle.toList = _ := String.toList_ofList
  have separator : "\n---\n".toList = _ := String.toList_ofList
  have body : decidedBody.toList = _ := String.toList_ofList
  rw [approvalDecidedTemplate, String.toList_append, String.toList_append, title, separator, body]
  exact ⟨rfl, rfl⟩

theorem payload_value {numberText : Option Rat → String} {event : NotificationEvent}
    {name text : String} (present : event.payload.lookup name = some (.string text)) :
    templateValue numberText event ("payload." ++ name) = some text := by
  have differs {other : String} (first : other.toList.head? ≠ some 'p') :
      "payload." ++ name ≠ other := by
    rintro rfl
    exact first (by rw [String.toList_append]; rfl)
  have start : "payload.".toList <+: ("payload." ++ name).toList := by
    rw [String.toList_append]
    exact List.prefix_append _ _
  have rest : String.ofList (("payload." ++ name).toList.drop 8) = name := by
    rw [String.toList_append]
    exact String.ofList_toList
  rw [templateValue, if_neg (differs (by decide)), if_neg (differs (by decide)),
    if_neg (differs (by decide)), if_neg (differs (by decide)), if_neg (differs (by decide)),
    if_pos start, rest, present]

theorem title_rendered :
    replacePlaceholders (templateValue platform.numberText (approvalDecidedEvent tenantId approval))
        decidedTitle.toList.length decidedTitle.toList =
      some ("Approval decision · ".toList ++ "medium".toList) := by
  have start : decidedTitle.toList = "Approval decision · ".toList ++ (token "urgency" ++ []) := by
    rw [token, show decidedTitle.toList = _ from String.toList_ofList,
      show "Approval decision · ".toList = _ from String.toList_ofList,
      show "urgency".toList = _ from String.toList_ofList]
    rfl
  have length : decidedTitle.toList.length = "Approval decision · ".toList.length + (10 + 1) := by
    rw [start, show "Approval decision · ".toList = _ from String.toList_ofList, token,
      show "urgency".toList = _ from String.toList_ofList]
    rfl
  have plain : '\x7b' ∉ "Approval decision · ".toList := by
    rw [show "Approval decision · ".toList = _ from String.toList_ofList]
    decide
  have medium : templateValue platform.numberText (approvalDecidedEvent tenantId approval)
      "urgency" = some "medium" := rfl
  rw [length, start, replace_literal plain, replace_token (by decide) medium, replace_end]
  rfl

theorem body_rendered :
    replacePlaceholders (templateValue platform.numberText (approvalDecidedEvent tenantId approval))
        decidedBody.toList.length decidedBody.toList =
      some (bodyStart approval.status ++ (reasonText approval ++ ['.', '\n'])) := by
  have isNow : " is now ".toList = _ := String.toList_ofList
  have label : ". Decision reason: ".toList = _ := String.toList_ofList
  have typeKey : "event_type".toList = _ := String.toList_ofList
  have statusKey : "payload.status".toList = _ := String.toList_ofList
  have reasonKey : "payload.decision_reason".toList = _ := String.toList_ofList
  have start : decidedBody.toList = token "event_type" ++ (" is now ".toList ++
      (token "payload.status" ++ (". Decision reason: ".toList ++
        (token "payload.decision_reason" ++ (['.', '\n'] ++ []))))) := by
    rw [token, token, token, isNow, label, typeKey, statusKey, reasonKey,
      show decidedBody.toList = _ from String.toList_ofList]
    rfl
  have length : decidedBody.toList.length = (" is now ".toList.length +
      ((". Decision reason: ".toList.length + ((['.', '\n'].length + 56) + 1)) + 1)) + 1 := by
    rw [isNow, label, show decidedBody.toList = _ from String.toList_ofList]
    rfl
  have eventType : templateValue platform.numberText (approvalDecidedEvent tenantId approval)
      "event_type" = some "cloud_commitment.approval.decided" := if_pos rfl
  have status : templateValue platform.numberText (approvalDecidedEvent tenantId approval)
      "payload.status" = some (statusText approval.status) := @payload_value _ _ "status" _ rfl
  have reason : templateValue platform.numberText (approvalDecidedEvent tenantId approval)
      "payload.decision_reason" = some (approval.decisionReason.getD "No reason supplied.") :=
    @payload_value _ _ "decision_reason" _ rfl
  have typed : isKey "event_type".toList = true := by rw [typeKey]; decide
  have statusKeyed : isKey "payload.status".toList = true := by rw [statusKey]; decide
  have reasonKeyed : isKey "payload.decision_reason".toList = true := by rw [reasonKey]; decide
  have plainNow : '\x7b' ∉ " is now ".toList := by rw [isNow]; decide
  have plainLabel : '\x7b' ∉ ". Decision reason: ".toList := by rw [label]; decide
  have plainEnd : '\x7b' ∉ ['.', '\n'] := by decide
  rw [length, start, replace_token typed eventType, replace_literal plainNow,
    replace_token statusKeyed status, replace_literal plainLabel,
    replace_token reasonKeyed reason, replace_literal plainEnd, replace_end]
  have parts (first second third fourth last : List Char) :
      first ++ (second ++ (third ++ (fourth ++ last))) =
        (first ++ (second ++ (third ++ fourth))) ++ last := by
    simp only [List.append_assoc]
  exact congrArg some (parts _ _ _ _ _)

/-- An ASCII character that is neither a brace nor a control character. -/
def isPlain (character : Char) : Bool :=
  character.toNat < 0x80 && character ≠ '\x7b' && !isControl character

theorem body_start_plain (status : ApprovalStatus) :
    (bodyStart status).all isPlain = true ∧ (bodyStart status).length ≤ 100 := by
  have named : ∃ text, (statusText status).toList = text ∧ text.all isPlain = true ∧
      text.length ≤ 10 := by
    cases status <;> exact ⟨_, String.toList_ofList, by decide, by decide⟩
  obtain ⟨text, same, plain, short⟩ := named
  unfold bodyStart
  rewrite [same, show "cloud_commitment.approval.decided".toList = _ from String.toList_ofList,
    show " is now ".toList = _ from String.toList_ofList,
    show ". Decision reason: ".toList = _ from String.toList_ofList]
  constructor
  · rw [List.all_append, List.all_append, List.all_append, plain]
    decide
  · simp only [List.length_append, List.length_cons, List.length_nil]
    omega

theorem body_start_ends (status : ApprovalStatus) :
    (bodyStart status).head? = some 'c' ∧ (bodyStart status).getLast? = some ' ' := by
  unfold bodyStart
  rewrite [show "cloud_commitment.approval.decided".toList = _ from String.toList_ofList,
    show ". Decision reason: ".toList = _ from String.toList_ofList]
  constructor
  · rfl
  · rw [List.getLast?_append_of_ne_nil _ (by simp), List.getLast?_append_of_ne_nil _ (by simp),
      List.getLast?_append_of_ne_nil _ (by simp)]
    rfl

theorem plain_length {text : List Char} (plain : text.all isPlain = true) :
    utf16Length text = text.length := by
  induction text with
  | nil => rfl
  | cons first rest induction =>
      rw [List.all_cons, Bool.and_eq_true] at plain
      have small : first.toNat < 0x10000 := by
        have ascii := plain.1
        simp only [isPlain, Bool.and_eq_true, decide_eq_true_eq] at ascii
        omega
      have rest := induction plain.2
      rw [utf16Length] at rest ⊢
      rw [List.map_cons, List.sum_cons, if_pos small, rest, List.length_cons, Nat.add_comm]

/-- The text between the parts of the body, as it is when it was read as a reason. -/
structure ReasonText (normalize : List Char → List Char) (text : List Char) : Prop where
  normal : normalize text = text
  trimmed : jsTrim text = text
  nonempty : text ≠ []
  short : utf16Length text ≤ 2000
  printable : hasControlCharacter text = false

theorem bounded_text_reason {normalize : List Char → List Char} (form : ComposedForm normalize)
    {value : Option Json} {reason : String} (read : boundedText normalize 2000 value = some reason) :
    ReasonText normalize reason.toList := by
  unfold boundedText at read
  split at read
  case h_2 => cases read
  case h_1 raw =>
    dsimp only at read
    split_ifs at read with refused
    obtain rfl := Option.some.inj read
    rw [not_or, not_or] at refused
    rw [String.toList_ofList]
    exact ⟨normalize_trimmed form _, Imports.ControlTotals.js_trim_js_trim _, refused.1,
      Nat.le_of_not_lt refused.2.1, Bool.eq_false_iff.mpr refused.2.2⟩

theorem render_part_none {event : NotificationEvent} {template rendered : List Char}
    (replaced : replacePlaceholders (templateValue platform.numberText event) template.length
      template = some rendered) (leftover : ['\x7b', '\x7b'] <:+: rendered) :
    renderTemplatePart platform event template = none := by
  rw [renderTemplatePart, replaced, Option.bind_eq_bind, Option.bind_some]
  exact if_pos (Or.inl leftover)

theorem render_part_some {event : NotificationEvent} {template rendered normalized : List Char}
    (replaced : replacePlaceholders (templateValue platform.numberText event) template.length
      template = some rendered) (complete : ¬ ['\x7b', '\x7b'] <:+: rendered)
    (trimmed : jsTrim (platform.normalize rendered) = normalized) (nonempty : normalized ≠ [])
    (short : utf16Length normalized ≤ 10000) (printable : hasControlCharacter normalized = false) :
    renderTemplatePart platform event template = some (String.ofList normalized) := by
  rw [renderTemplatePart, replaced, Option.bind_eq_bind, Option.bind_some]
  dsimp only
  rw [trimmed]
  refine if_neg ?_
  rintro (leftover | empty | long | control)
  · exact complete leftover
  · exact nonempty empty
  · exact absurd short (not_le.mpr long)
  · rw [printable] at control
    cases control

theorem title_part (form : ComposedForm platform.normalize) :
    renderTemplatePart platform (approvalDecidedEvent tenantId approval) decidedTitle.toList =
      some "Approval decision · medium" := by
  have list : "Approval decision · ".toList ++ "medium".toList =
      "Approval decision · medium".toList := by
    rewrite [show "Approval decision · ".toList = _ from String.toList_ofList,
      show "medium".toList = _ from String.toList_ofList,
      show "Approval decision · medium".toList = _ from String.toList_ofList]
    rfl
  have normal : jsTrim (platform.normalize "Approval decision · medium".toList) =
      "Approval decision · medium".toList := by
    rewrite [show "Approval decision · medium".toList = _ from String.toList_ofList,
      form.latin _ (latin_of_all (by decide))]
    decide
  have complete : ¬ ['\x7b', '\x7b'] <:+: "Approval decision · medium".toList := by
    rewrite [show "Approval decision · medium".toList = _ from String.toList_ofList]
    decide
  have column : "Approval decision · medium".toList ≠ [] ∧
      utf16Length "Approval decision · medium".toList ≤ 10000 ∧
        hasControlCharacter "Approval decision · medium".toList = false := by
    rewrite [show "Approval decision · medium".toList = _ from String.toList_ofList]
    decide
  have rendered := @title_rendered platform tenantId approval
  rewrite [list] at rendered
  have part := render_part_some rendered complete normal column.1 column.2.1 column.2.2
  rwa [String.ofList_toList] at part

/-- The body as it is stored. -/
def storedBody (status : ApprovalStatus) (reason : List Char) : List Char :=
  bodyStart status ++ (reason ++ ['.'])

variable {normalize : List Char → List Char} {status : ApprovalStatus} {reason : List Char}

theorem stored_body_trimmed : jsTrim (storedBody status reason) = storedBody status reason := by
  obtain ⟨first, _⟩ := body_start_ends status
  have nonempty : bodyStart status ≠ [] := by
    intro empty
    rw [empty] at first
    cases first
  apply js_trim_visible
  · rw [storedBody, List.head?_append_of_ne_nil _ nonempty, first]
    intro character same
    obtain rfl := Option.mem_some_iff.mp same
    decide
  · rw [storedBody, ← List.append_assoc, List.getLast?_append_of_ne_nil _ (by simp)]
    intro character same
    obtain rfl := Option.mem_some_iff.mp same
    decide

/-- The body around a reason is in the composed form, but for the line's end. -/
theorem body_normalized (form : ComposedForm normalize) (read : ReasonText normalize reason) :
    jsTrim (normalize (bodyStart status ++ (reason ++ ['.', '\n']))) = storedBody status reason := by
  have latin : ∀ character ∈ bodyStart status, character.toNat < 0x100 := by
    intro character member
    have plain := List.all_eq_true.mp (body_start_plain status).1 character member
    simp only [isPlain, Bool.and_eq_true, decide_eq_true_eq] at plain
    omega
  have split : bodyStart status ++ (reason ++ ['.', '\n']) =
      [] ++ storedBody status reason ++ ['\n'] := by
    rw [storedBody, List.nil_append, List.append_assoc, List.append_assoc]
    rfl
  rw [normalize_between form latin (body_start_ends status).2 read.normal
      (latin_of_all (by decide)) rfl (by decide), split,
    js_trim_padded (fun _ member => absurd member List.not_mem_nil) (List.all_eq_true.mp (by decide)),
    stored_body_trimmed]

theorem stored_body_short (read : ReasonText normalize reason) :
    utf16Length (storedBody status reason) ≤ 10000 := by
  have start := body_start_plain status
  have appended (left right : List Char) :
      utf16Length (left ++ right) = utf16Length left + utf16Length right := by
    rw [utf16Length, List.map_append, List.sum_append]
    rfl
  have tail : utf16Length ['.'] = 1 := rfl
  have reason := read.short
  rw [storedBody, appended, appended, plain_length start.1, tail]
  omega

theorem stored_body_printable (read : ReasonText normalize reason) :
    hasControlCharacter (storedBody status reason) = false := by
  have start : (bodyStart status).any isControl = false := by
    rw [List.any_eq_false]
    intro character member
    have plain := List.all_eq_true.mp (body_start_plain status).1 character member
    simp only [isPlain, Bool.and_eq_true, Bool.not_eq_true'] at plain
    rw [plain.2]
    exact Bool.false_ne_true
  have inner : reason.any isControl = false := read.printable
  rw [hasControlCharacter, storedBody, List.any_append, List.any_append, start, inner]
  decide

theorem leftover_iff :
    ['\x7b', '\x7b'] <:+: bodyStart status ++ (reason ++ ['.', '\n']) ↔
      ['\x7b', '\x7b'] <:+: reason := by
  refine pair_between ?_ (by decide)
  intro brace
  have plain := List.all_eq_true.mp (body_start_plain status).1 _ brace
  simp [isPlain] at plain

theorem body_part (form : ComposedForm platform.normalize)
    (read : ReasonText platform.normalize (reasonText approval)) :
    renderTemplatePart platform (approvalDecidedEvent tenantId approval) decidedBody.toList =
      if ['\x7b', '\x7b'] <:+: reasonText approval then none
      else some (String.ofList (storedBody approval.status (reasonText approval))) := by
  have short := @stored_body_short _ approval.status _ read
  have printable := @stored_body_printable _ approval.status _ read
  have nonempty : storedBody approval.status (reasonText approval) ≠ [] := by
    simp [storedBody]
  by_cases leftover : ['\x7b', '\x7b'] <:+: reasonText approval
  · rw [if_pos leftover, render_part_none body_rendered (leftover_iff.mpr leftover)]
  · rw [if_neg leftover, render_part_some body_rendered (fun held => leftover (leftover_iff.mp held))
      (body_normalized form read) nonempty short printable]

theorem render_decided (form : ComposedForm platform.normalize)
    (read : ReasonText platform.normalize (reasonText approval)) :
    renderNotificationTemplate platform approvalDecidedTemplate
        (approvalDecidedEvent tenantId approval) =
      if ['\x7b', '\x7b'] <:+: reasonText approval then none
      else some ("Approval decision · medium",
        String.ofList (storedBody approval.status (reasonText approval))) := by
  obtain ⟨parts, single⟩ := split_decided_template
  have whole : splitTemplate decidedBody.toList = ((splitTemplate decidedBody.toList).1, none) :=
    Prod.ext rfl single
  unfold renderNotificationTemplate
  rewrite [parts]
  dsimp only
  rewrite [whole]
  dsimp only
  rewrite [title_part form, body_part form read]
  split_ifs <;> rfl

/-- A decision is announced exactly when its reason does not hold two opening braces. -/
theorem decision_announced_iff (form : ComposedForm platform.normalize)
    {approvalId : Option String} {body : Json} {input : ApprovalDecisionInput}
    (accepted : parseApprovalDecisionBody platform.normalize approvalId body = some input)
    (decided : approval.decisionReason = some input.decisionReason) :
    (∃ title text, renderNotificationTemplate platform approvalDecidedTemplate
        (approvalDecidedEvent tenantId approval) = some (title, text) ∧
          Announces approval title text) ↔
      ¬ ['\x7b', '\x7b'] <:+: input.decisionReason.toList := by
  have reason : reasonText approval = input.decisionReason.toList := by
    rw [reasonText, decided, Option.getD_some]
  have read : ReasonText platform.normalize (reasonText approval) := by
    unfold parseApprovalDecisionBody at accepted
    obtain ⟨source, _, accepted⟩ := Option.bind_eq_some_iff.mp accepted
    obtain ⟨id, _, accepted⟩ := Option.bind_eq_some_iff.mp accepted
    obtain ⟨text, bounded, built⟩ := Option.bind_eq_some_iff.mp accepted
    rw [reason, ← Option.some.inj built]
    exact bounded_text_reason form bounded
  rw [render_decided form read, ← reason]
  constructor
  · rintro ⟨title, text, rendered, _⟩ leftover
    rw [if_pos leftover] at rendered
    cases rendered
  · intro complete
    have canonical := @canonical_of_trimmed
      (String.ofList (storedBody approval.status (reasonText approval))) 10000
      (by rw [String.toList_ofList, stored_body_trimmed]) (by simp [storedBody])
      (by rw [String.toList_ofList, stored_body_printable read])
      (by
        rw [String.toList_ofList]
        exact (length_le_utf16_length _).trans (stored_body_short read))
    have title : isCanonicalText 300 "Approval decision · medium" = true := by
      apply canonical_of_trimmed <;>
        rewrite [show "Approval decision · medium".toList = _ from String.toList_ofList] <;>
        decide
    exact ⟨_, _, if_neg complete, rfl, String.toList_ofList, title, canonical⟩

/-- An approval whose decision was stored with the reason. -/
def decidedApproval (reason : String) : Approval where
  id := 1
  tenantId := 1
  recommendationId := 2
  requestedByUserId := none
  assignedToUserId := none
  approvalSnapshot := {
    contractVersion := "approval_packet:v1"
    tenant := ⟨"acme", "Acme", "Acme", none, none, none, none, none⟩
    recommendation := ⟨2, .buy, .aws, .awsComputeSavingsPlan, "ec2", "eu-west-1", 12, 1000, 100, 10,
      5000, 9000, 80, .low, ⟨"on_demand", [], [], "frontier.json"⟩⟩
    approval := ⟨"pending", none, 1, none, none⟩ }
  requestedAt := 0
  expiresAt := 1
  createdAt := 0
  status := .approved
  workflowExecutionId := none
  decisionReason := some reason
  decidedAt := some 0
  updatedAt := 0

def decisionBody (reason : String) : Json := .object [("decision_reason", .string reason)]

def decisionId : String := "018c4d40-0000-4000-8000-000000000001"

theorem example_form : ComposedForm examplePlatform.normalize :=
  ⟨fun _ _ => rfl, fun _ => rfl, fun _ _ _ _ => rfl, fun _ _ _ => rfl, fun _ _ _ _ _ => rfl⟩

theorem decision_read (reason : String)
    (bounded : boundedText id 2000 (some (.string reason)) = some reason) :
    parseApprovalDecisionBody examplePlatform.normalize (some decisionId) (decisionBody reason) =
      some ⟨decisionId, reason⟩ := by
  have identifier : uuid (some decisionId) = some decisionId := by decide
  have field : NotificationPreferences.record ["decision_reason"] (decisionBody reason) =
      some (decisionBody reason) := rfl
  have value : (decisionBody reason).field "decision_reason" = some (.string reason) := rfl
  unfold parseApprovalDecisionBody
  rw [field, Option.bind_eq_bind, Option.bind_some, identifier, Option.bind_eq_bind,
    Option.bind_some, value]
  exact congrArg (Option.bind · fun text => some (ApprovalDecisionInput.mk decisionId text)) bounded

theorem within_budget_announced :
    ∃ title text, renderNotificationTemplate examplePlatform approvalDecidedTemplate
        (approvalDecidedEvent 1 (decidedApproval "Within budget")) = some (title, text) ∧
      Announces (decidedApproval "Within budget") title text :=
  (decision_announced_iff example_form (decision_read "Within budget" (by decide)) rfl).mpr
    (by decide)

/-- A reason with braces is accepted, and its decision is not announced. -/
theorem braces_not_announced :
    ¬ ∀ (platform : EmissionPlatform) (_ : ComposedForm platform.normalize) (tenantId : Uuid)
      (approval : Approval) (approvalId : Option String) (body : Json)
      (input : ApprovalDecisionInput),
      parseApprovalDecisionBody platform.normalize approvalId body = some input →
      approval.decisionReason = some input.decisionReason →
        ∃ title text, renderNotificationTemplate platform approvalDecidedTemplate
          (approvalDecidedEvent tenantId approval) = some (title, text) ∧
            Announces approval title text := by
  intro always
  have read := decision_read "Use \x7b\x7bplan\x7d\x7d" (by decide)
  obtain ⟨title, text, rendered, _⟩ := always examplePlatform example_form 1
    (decidedApproval "Use \x7b\x7bplan\x7d\x7d") _ _ _ read rfl
  have reason : ReasonText examplePlatform.normalize
      (reasonText (decidedApproval "Use \x7b\x7bplan\x7d\x7d")) :=
    bounded_text_reason example_form
      (show boundedText id 2000 (some (.string "Use \x7b\x7bplan\x7d\x7d")) = _ by decide)
  have braces : ['\x7b', '\x7b'] <:+: reasonText (decidedApproval "Use \x7b\x7bplan\x7d\x7d") := by
    decide
  rw [render_decided example_form reason, if_pos braces] at rendered
  cases rendered

end Announcement

end CommitmentOptimizer.Notifications.DecisionNotices
