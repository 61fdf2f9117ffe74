import CommitmentOptimizer.Foundations.Json

/-!
# Report snapshots and their templates

`captureRecommendationSnapshot` of `reports-service.ts` and the rendering of
`report-templates.ts`, on characters.
-/

namespace CommitmentOptimizer.Reports.ReportTemplates

open Foundations

set_option autoImplicit false

section Snapshots

/-- A row of the query of `recommendationReportData`. -/
structure RecommendationReportData where
  displayName : String
  fullLegalName : String
  contactEmail : Option String
  contactPhone : Option String
  supportUrl : Option String
  financeOwnerEmail : Option String
  recommendationId : String
  recommendationType : String
  provider : String
  instrument : String
  termMonths : Int
  commitmentAmountCents : String
  expectedSavingsCents : String
  p95DownsideLossCents : String
  riskBand : String
  confidenceScore : String
  frontierUri : Option String
  priceVersionLabel : Option String
  forecastQuality : Json

def textOrNull : Option String → Json
  | none => .null
  | some text => .string text

def qualitySummary (value : Json) : String :=
  match value.field "confidence" with
  | some (.string confidence) => "confidence:" ++ confidence
  | _ => "confidence:unknown"

def recommendationReportTemplateId : String := "recommendation_report:v1"

def captureRecommendationSnapshot (data : RecommendationReportData) : Json := .object
  [("template_id", .string recommendationReportTemplateId),
   ("tenant", .object
     [("display_name", .string data.displayName), ("full_legal_name", .string data.fullLegalName),
      ("contact", .object
        [("email", textOrNull data.contactEmail), ("phone", textOrNull data.contactPhone),
         ("support_url", textOrNull data.supportUrl),
         ("finance_owner_email", textOrNull data.financeOwnerEmail)])]),
   ("recommendation", .object
     [("id", .string data.recommendationId), ("type", .string data.recommendationType),
      ("provider", .string data.provider), ("instrument", .string data.instrument),
      ("term_months", .number (some data.termMonths)),
      ("commitment_amount", .string data.commitmentAmountCents),
      ("expected_savings", .string data.expectedSavingsCents),
      ("p95_downside_loss", .string data.p95DownsideLossCents),
      ("risk_band", .string data.riskBand), ("confidence_score", .string data.confidenceScore)]),
   ("frontier", .object
     [("baseline_name", .string "on_demand"),
      ("net_savings_delta", .string data.expectedSavingsCents),
      ("uri", textOrNull data.frontierUri)]),
   ("constraints", .object [("binding", .string "risk_budget")]),
   ("price_table", .object
     [("version_label", .string (data.priceVersionLabel.getD "unknown"))]),
   ("forecast", .object [("quality_summary", .string (qualitySummary data.forecastQuality))]),
   ("approval", .object [("status", .string "not_required")])]

end Snapshots

section Tokens

def recommendationReportTokens : List (List Char) :=
  ["tenant.display_name", "tenant.full_legal_name", "tenant.contact.finance_owner_email",
    "recommendation.type", "recommendation.provider", "recommendation.instrument",
    "recommendation.term_months", "recommendation.commitment_amount",
    "recommendation.expected_savings", "recommendation.p95_downside_loss",
    "recommendation.risk_band", "recommendation.confidence_score", "frontier.baseline_name",
    "frontier.net_savings_delta", "constraints.binding", "price_table.version_label",
    "forecast.quality_summary"].map String.toList

/-- `[A-Za-z0-9_.]`. -/
def isTokenCharacter (character : Char) : Bool :=
  character.isAlphanum || character == '_' || character == '.'

/-- `TOKEN_PATTERN` at the start of a text: the token and what follows the match. No two
parts of the pattern share a character, so that the match is the only one. -/
def tokenAt : List Char → Option (List Char × List Char)
  | '\x7b' :: '\x7b' :: text =>
      let inner := text.dropWhile isJsSpace
      let token := inner.takeWhile isTokenCharacter
      match (inner.dropWhile isTokenCharacter).dropWhile isJsSpace with
      | '\x7d' :: '\x7d' :: rest => if token = [] then none else some (token, rest)
      | _ => none
  | _ => none

/-- `template.replace(TOKEN_PATTERN, …)`, from left to right; each step takes a character
at least. -/
def replaceTokens (value : List Char → Option (List Char)) : Nat → List Char → Option (List Char)
  | 0, text => some text
  | _, [] => some []
  | fuel + 1, character :: text =>
      match tokenAt (character :: text) with
      | some (token, rest) => do
          let segment ← value token
          let rendered ← replaceTokens value fuel rest
          return segment ++ rendered
      | none => (replaceTokens value fuel text).map (character :: ·)

/-- The tokens of `matchAll`, in the order of the template. -/
def matchedTokens : Nat → List Char → List (List Char)
  | 0, _ | _, [] => []
  | fuel + 1, character :: text =>
      match tokenAt (character :: text) with
      | some (token, rest) => token :: matchedTokens fuel rest
      | none => matchedTokens fuel text

def templateTokens (template : List Char) : List (List Char) :=
  (matchedTokens template.length template).foldl
    (fun tokens token => if tokens.contains token then tokens else tokens ++ [token]) []

/-- `false` where the source throws `templateInventoryInvalid()`. -/
def assertRecommendationReportTemplateInventory (template : List Char) : Bool :=
  let actual := templateTokens template
  actual.length = recommendationReportTokens.length &&
    recommendationReportTokens.all actual.contains

end Tokens

section Rendering

/-- `text.replaceAll(character, replacement)` for one character. -/
def replaceAll (pattern : Char) (replacement : List Char) (text : List Char) : List Char :=
  text.flatMap fun character => if character = pattern then replacement else [character]

def escapeHtml (value : List Char) : List Char :=
  replaceAll '\'' ['&', '#', '3', '9', ';']
    (replaceAll '"' ['&', 'q', 'u', 'o', 't', ';']
      (replaceAll '>' ['&', 'g', 't', ';']
        (replaceAll '<' ['&', 'l', 't', ';'] (replaceAll '&' ['&', 'a', 'm', 'p', ';'] value))))

/-- What a member access reads: a value, the prototype of objects or one of its functions. -/
inductive Member where
  | value (json : Json)
  | prototype
  | function

/-- The functions that every object inherits. -/
def inheritedFunctions : List (List Char) :=
  ["constructor", "__defineGetter__", "__defineSetter__", "hasOwnProperty", "__lookupGetter__",
    "__lookupSetter__", "isPrototypeOf", "propertyIsEnumerable", "toString", "valueOf",
    "toLocaleString"].map String.toList

/-- `value[segment]` of a value that is an object, no array, and has the member, its own or
an inherited one; `none` where the source throws. -/
def Member.read (segment : List Char) : Member → Option Member
  | .value (.object fields) =>
      match fields.lookup (String.ofList segment) with
      | some json => some (.value json)
      | none =>
          if segment = "__proto__".toList then some .prototype
          else if inheritedFunctions.contains segment then some .function else none
  | .prototype =>
      if segment = "__proto__".toList then some (.value .null)
      else if inheritedFunctions.contains segment then some .function else none
  | _ => none

/-- `numberText` is `String(value)` of a number. -/
def stringToken (numberText : Option Rat → List Char) (snapshot : Json) (token : List Char) :
    Option (List Char) :=
  match (token.splitOn '.').foldlM (fun value segment => Member.read segment value)
      (Member.value snapshot) with
  | some (.value .null) => some []
  | some (.value (.string text)) => some text.toList
  | some (.value (.number number)) => some (numberText number)
  | some (.value (.bool true)) => some "true".toList
  | some (.value (.bool false)) => some "false".toList
  | _ => none

/-- `none` where the source throws `tokenMissing`. -/
def renderStrictTemplate (numberText : Option Rat → List Char) (template : List Char)
    (snapshot : Json) : Option (List Char) :=
  replaceTokens (fun token => (stringToken numberText snapshot token).map escapeHtml)
    template.length template

end Rendering

end CommitmentOptimizer.Reports.ReportTemplates
