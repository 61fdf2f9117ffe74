import CommitmentOptimizer.Foundations.TrimmedTexts
import CommitmentOptimizer.Tenants.RotationHistories

/-!
# What a registration body comes to

`normalizeTenantInput` of `identity.ts` and the fields of `identity-fields.ts`, and what the
text that is hashed tells about a body.
-/

namespace CommitmentOptimizer.Tenants.TenantInputs

open Foundations
open Foundations.BigIntText
open Foundations.IsoInstants
open Foundations.JsonText
open Foundations.SqlConstraints
open Foundations.TrimmedTexts
open TenantRegistration

set_option autoImplicit false

/-- What `new URL(text)` reads. -/
structure ParsedUrl where
  protocol : String
  hostname : String
  username : String
  password : String

/-- What the runtime knows of Unicode, addresses and `Intl`; `collates` holds where
`left.localeCompare(right)` is not positive. -/
structure TenantRuntime where
  normalize : List Char → List Char
  toUpperCase : List Char → List Char
  toLowerCase : List Char → List Char
  collates : String → String → Bool
  parseUrl : String → Option ParsedUrl
  isSupportedCurrency : String → Bool
  isTimezone : String → Bool

section Catalogues

def isoAlpha2 : List String :=
  ["AD", "AE", "AF", "AG", "AI", "AL", "AM", "AO", "AQ", "AR", "AS", "AT", "AU", "AW", "AX", "AZ",
    "BA", "BB", "BD", "BE", "BF", "BG", "BH", "BI", "BJ", "BL", "BM", "BN", "BO", "BQ", "BR", "BS",
    "BT", "BV", "BW", "BY", "BZ", "CA", "CC", "CD", "CF", "CG", "CH", "CI", "CK", "CL", "CM", "CN",
    "CO", "CR", "CU", "CV", "CW", "CX", "CY", "CZ", "DE", "DJ", "DK", "DM", "DO", "DZ", "EC", "EE",
    "EG", "EH", "ER", "ES", "ET", "FI", "FJ", "FK", "FM", "FO", "FR", "GA", "GB", "GD", "GE", "GF",
    "GG", "GH", "GI", "GL", "GM", "GN", "GP", "GQ", "GR", "GS", "GT", "GU", "GW", "GY", "HK", "HM",
    "HN", "HR", "HT", "HU", "ID", "IE", "IL", "IM", "IN", "IO", "IQ", "IR", "IS", "IT", "JE", "JM",
    "JO", "JP", "KE", "KG", "KH", "KI", "KM", "KN", "KP", "KR", "KW", "KY", "KZ", "LA", "LB", "LC",
    "LI", "LK", "LR", "LS", "LT", "LU", "LV", "LY", "MA", "MC", "MD", "ME", "MF", "MG", "MH", "MK",
    "ML", "MM", "MN", "MO", "MP", "MQ", "MR", "MS", "MT", "MU", "MV", "MW", "MX", "MY", "MZ", "NA",
    "NC", "NE", "NF", "NG", "NI", "NL", "NO", "NP", "NR", "NU", "NZ", "OM", "PA", "PE", "PF", "PG",
    "PH", "PK", "PL", "PM", "PN", "PR", "PS", "PT", "PW", "PY", "QA", "RE", "RO", "RS", "RU", "RW",
    "SA", "SB", "SC", "SD", "SE", "SG", "SH", "SI", "SJ", "SK", "SL", "SM", "SN", "SO", "SR", "SS",
    "ST", "SV", "SX", "SY", "SZ", "TC", "TD", "TF", "TG", "TH", "TJ", "TK", "TL", "TM", "TN", "TO",
    "TR", "TT", "TV", "TW", "TZ", "UA", "UG", "UM", "US", "UY", "UZ", "VA", "VC", "VE", "VG", "VI",
    "VN", "VU", "WF", "WS", "YE", "YT", "ZA", "ZM", "ZW"]

def isSupportedCountryCode (value : String) : Bool := value ∈ isoAlpha2

/-- `/^[A-Z]+$/u` and its length. -/
def isCapitals (length : Nat) (text : List Char) : Bool :=
  text.length == length && text.all Char.isUpper

end Catalogues

section Fields

/-- The error is the message of the `TenantInputValidationError`. -/
def invalid {Value : Type} (field : String) : Except String Value := .error (field ++ " is invalid.")

def isRecord : JsValue → Bool
  | .object _ | .date _ => true
  | _ => false

def requireRecord (field : String) (value : JsValue) : Except String Unit :=
  if isRecord value then .ok () else invalid field

/-- `Object.entries(value)` of a record. -/
def objectEntries : JsValue → List (String × JsValue)
  | .object fields => fields
  | _ => []

variable (runtime : TenantRuntime)

/-- `value.normalize("NFC").trim()`. -/
def normalForm (text : String) : List Char := jsTrim (runtime.normalize text.toList)

def normalizeText (field : String) (maximum : Nat) : JsValue → Except String String
  | .string value =>
      let normalized := normalForm runtime value
      if normalized = [] then .error (field ++ " is required.")
      else if value.toList.any isControl || maximum < normalized.length then invalid field
      else .ok (String.ofList normalized)
  | _ => invalid field

def normalizeNullableText (field : String) (maximum : Nat) :
    JsValue → Except String (Option String)
  | .undefined => .ok none
  | .string value =>
      let normalized := normalForm runtime value
      if value.toList.any isControl then invalid field
      else if normalized = [] then .ok none
      else if maximum < normalized.length then invalid field
      else .ok (some (String.ofList normalized))
  | _ => invalid field

/-- `/^(?!-)[A-Za-z0-9-]{1,63}(?<!-)$/u`. -/
def validLabel (label : List Char) : Bool :=
  label ≠ [] && label.length ≤ 63 && label.all (fun character => character.isAlphanum ||
    character == '-') && label.head? ≠ some '-' && label.getLast? ≠ some '-'

def validDomain (domain : List Char) : Bool :=
  utf16Length domain ≤ 253 && '.' ∈ domain && (domain.splitOn '.').all validLabel

/-- What follows the reading of the text; an accepted address has one `@`. -/
def emailOf (field normalized : String) : Except String (Option String) :=
  match normalized.toList.splitOn '@' with
  | [name, host] =>
      let domain := runtime.toLowerCase host
      if name = [] || host = [] || (name ++ host).any isJsSpace || 64 < utf16Length name ||
          !validDomain domain then invalid field
      else .ok (some (String.ofList (name ++ '@' :: domain)))
  | _ => invalid field

def normalizeEmail (field : String) (value : JsValue) : Except String (Option String) := do
  match ← normalizeNullableText runtime field 254 value with
  | none => return none
  | some normalized => emailOf runtime field normalized

def supportUrlOf (normalized : String) : Except String (Option String) :=
  match runtime.parseUrl normalized with
  | none => invalid "support_url"
  | some parsed =>
      if (parsed.protocol ≠ "http:" && parsed.protocol ≠ "https:") || parsed.hostname = "" ||
          parsed.username ≠ "" || parsed.password ≠ "" then invalid "support_url"
      else .ok (some normalized)

def normalizeSupportUrl (value : JsValue) : Except String (Option String) := do
  match ← normalizeNullableText runtime "support_url" 2048 value with
  | none => return none
  | some normalized => supportUrlOf runtime normalized

def countryOf (text : String) : Except String (Option String) :=
  let country := runtime.toUpperCase text.toList
  if isCapitals 2 country && isSupportedCountryCode (String.ofList country) then
    .ok (some (String.ofList country))
  else invalid "address.country_code"

def normalizeCountry : JsValue → Except String (Option String)
  | .undefined => .ok none
  | value => do countryOf runtime (← normalizeText runtime "address.country_code" 2 value)

def emptyAddress : TenantAddress := ⟨none, none, none, none, none, none⟩

/-- An address that has a field has the ones without which it is not one. -/
def completeAddress (output : TenantAddress) : Except String TenantAddress :=
  if output ≠ emptyAddress && (output.line1.isNone || output.locality.isNone ||
      output.countryCode.isNone) then invalid "address"
  else .ok output

def normalizeAddress : JsValue → Except String TenantAddress
  | .undefined => .ok emptyAddress
  | value =>
      if !isRecord value || (objectEntries value).any (fun entry => entry.1 ∉
          ["line1", "line2", "locality", "region", "postalCode", "countryCode"]) then
        invalid "address"
      else do
        let line1 ← normalizeNullableText runtime "address.line1" 200 (value.field "line1")
        let line2 ← normalizeNullableText runtime "address.line2" 200 (value.field "line2")
        let locality ← normalizeNullableText runtime "address.locality" 100 (value.field "locality")
        let region ← normalizeNullableText runtime "address.region" 100 (value.field "region")
        let postalCode ←
          normalizeNullableText runtime "address.postalCode" 32 (value.field "postalCode")
        let countryCode ← normalizeCountry runtime (value.field "countryCode")
        completeAddress ⟨line1, line2, locality, region, postalCode, countryCode⟩

/-- `normalized.set(key, value)` of a key that is not there yet. -/
def addEntry (table : TextRecord) (key value : String) (fresh : key ∉ table.rows.map Prod.fst) :
    TextRecord where
  rows := table.rows ++ [(key, value)]
  distinct := by
    rw [List.map_append, List.nodup_append_comm]
    exact List.nodup_cons.mpr ⟨fresh, table.distinct⟩

/-- The loop of `normalizeRegistration`. -/
def addEntries (table : TextRecord) : List (String × JsValue) → Except String TextRecord
  | [] => .ok table
  | (rawKey, rawValue) :: rest => do
      let key := String.ofList (runtime.toUpperCase
        (← normalizeText runtime "registration key" 64 (.string rawKey)).toList)
      if known : key ∈ table.rows.map Prod.fst then invalid "registration"
      else
        let value ← normalizeText runtime "registration value" 256 rawValue
        addEntries (addEntry table key value known) rest

def collatedRecord (table : TextRecord) : TextRecord where
  rows := table.rows.mergeSort fun left right => runtime.collates left.1 right.1
  distinct := ((List.mergeSort_perm table.rows _).map _).nodup_iff.mpr table.distinct

def normalizeRegistration : JsValue → Except String TextRecord
  | .undefined => .ok KeyedTable.empty
  | value =>
      if !isRecord value || 32 < (objectEntries value).length then invalid "registration"
      else (addEntries runtime KeyedTable.empty (objectEntries value)).map (collatedRecord runtime)

end Fields

section Bodies

variable (runtime : TenantRuntime)

def derivedName (field fallback : String) : JsValue → Except String String
  | .undefined => .ok fallback
  | value => normalizeText runtime field 200 value

def currencyOf (text : String) : Except String String :=
  let currency := runtime.toUpperCase text.toList
  if isCapitals 3 currency && runtime.isSupportedCurrency (String.ofList currency) then
    .ok (String.ofList currency)
  else invalid "default_currency"

def normalizeCurrency : JsValue → Except String String
  | .undefined => .ok "USD"
  | value => do currencyOf runtime (← normalizeText runtime "default_currency" 3 value)

/-- `isCanonicalTimezone(timezone)`. -/
def timezoneOf (timezone : String) : Except String String :=
  if timezone = "UTC" || runtime.isTimezone timezone then .ok timezone else invalid "timezone"

def normalizeTimezone : JsValue → Except String String
  | .undefined => .ok "UTC"
  | value => do timezoneOf runtime (← normalizeText runtime "timezone" 64 value)

def normalizeRiskBudget : JsValue → Except String DecimalText
  | .undefined => .ok ⟨"0", zero_is_decimal⟩
  | .string value =>
      if decimal : isDecimal value.toList = true then
        if 9223372036854775807 < digitsValue value.toList then invalid "risk_budget_cents"
        else .ok ⟨value, decimal⟩
      else invalid "risk_budget_cents"
  | _ => invalid "risk_budget_cents"

def normalizeTenantInput (input : JsValue) : Except String NormalizedTenantInput := do
  requireRecord "request" input
  let name ← normalizeText runtime "Tenant name" 200 (input.field "name")
  let legalName ← derivedName runtime "Tenant legal name" name (input.field "legalName")
  let fullLegalName ←
    derivedName runtime "Tenant full legal name" legalName (input.field "fullLegalName")
  let displayName ← derivedName runtime "Tenant display name" name (input.field "displayName")
  let address ← normalizeAddress runtime (input.field "address")
  let registration ← normalizeRegistration runtime (input.field "registration")
  let contactEmail ← normalizeEmail runtime "contact_email" (input.field "contactEmail")
  let contactPhone ←
    normalizeNullableText runtime "contact_phone" 64 (input.field "contactPhone")
  let supportUrl ← normalizeSupportUrl runtime (input.field "supportUrl")
  let financeOwnerEmail ←
    normalizeEmail runtime "finance_owner_email" (input.field "financeOwnerEmail")
  let wordmark ← normalizeNullableText runtime "wordmark" 256 (input.field "wordmark")
  let defaultCurrency ← normalizeCurrency runtime (input.field "defaultCurrency")
  let timezone ← normalizeTimezone runtime (input.field "timezone")
  let riskBudgetCents ← normalizeRiskBudget (input.field "riskBudgetCents")
  return {
    name, legalName, fullLegalName, displayName, address, registration, contactEmail,
    contactPhone, supportUrl, financeOwnerEmail, wordmark, defaultCurrency, timezone,
    riskBudgetCents }

end Bodies

section Spellings

/-- White space is not composed with what stands next to it, and ASCII has one form. -/
structure UnicodeLaws (runtime : TenantRuntime) : Prop where
  ascii : ∀ text : List Char, (∀ character ∈ text, character.toNat < 0x80) →
    runtime.normalize text = text
  space : ∀ text : List Char, (∀ character ∈ text, isJsSpace character = true) →
    ∀ character ∈ runtime.normalize text, isJsSpace character = true
  spaceBefore : ∀ (left right : List Char) (last : Char), left.getLast? = some last →
    isJsSpace last = true →
      runtime.normalize (left ++ right) = runtime.normalize left ++ runtime.normalize right
  spaceAfter : ∀ (left right : List Char) (first : Char), right.head? = some first →
    isJsSpace first = true →
      runtime.normalize (left ++ right) = runtime.normalize left ++ runtime.normalize right

variable (runtime : TenantRuntime)

/-- The texts have the same form, or differ by white space around them. -/
inductive Respells : String → String → Prop where
  | form {left right : String} :
      runtime.normalize left.toList = runtime.normalize right.toList → Respells left right
  | padded {front text back : List Char} : (∀ character ∈ front, isJsSpace character = true) →
      (∀ character ∈ back, isJsSpace character = true) →
      Respells (String.ofList text) (String.ofList (front ++ text ++ back))
  | symm {left right : String} : Respells left right → Respells right left
  | trans {first second third : String} :
      Respells first second → Respells second third → Respells first third

inductive RespelledValue : JsValue → JsValue → Prop where
  | same (value : JsValue) : RespelledValue value value
  | text {left right : String} :
      Respells runtime left right → RespelledValue (.string left) (.string right)

inductive RespelledAddress : JsValue → JsValue → Prop where
  | same (value : JsValue) : RespelledAddress value value
  | fields {left right : List (String × JsValue)} :
      (∀ name, RespelledValue runtime ((JsValue.object left).field name)
        ((JsValue.object right).field name)) → RespelledAddress (.object left) (.object right)

/-- The entries are in another order, their names and values spelled in another way. -/
inductive RespelledRegistration : JsValue → JsValue → Prop where
  | same (value : JsValue) : RespelledRegistration value value
  | entries {left moved right : List (String × JsValue)} : left.Perm moved →
      List.Forall₂ (fun left right => Respells runtime left.1 right.1 ∧
        RespelledValue runtime left.2 right.2) moved right →
      RespelledRegistration (.object left) (.object right)

/-- The bodies differ in the spelling of texts and the order of the registration only. -/
structure RespelledBody (left right : JsValue) : Prop where
  texts : ∀ name, name ≠ "address" → name ≠ "registration" →
    RespelledValue runtime (left.field name) (right.field name)
  address : RespelledAddress runtime (left.field "address") (right.field "address")
  registration :
    RespelledRegistration runtime (left.field "registration") (right.field "registration")

variable {runtime}

theorem normalize_padded (laws : UnicodeLaws runtime) {front text back : List Char}
    (before : ∀ character ∈ front, isJsSpace character = true)
    (after : ∀ character ∈ back, isJsSpace character = true) :
    runtime.normalize (front ++ text ++ back) =
      runtime.normalize front ++ runtime.normalize text ++ runtime.normalize back := by
  have left (rest : List Char) :
      runtime.normalize (front ++ rest) = runtime.normalize front ++ runtime.normalize rest := by
    cases last : front.getLast? with
    | none =>
        rw [List.getLast?_eq_none_iff.mp last, laws.ascii [] nofun]
        rfl
    | some final =>
        exact laws.spaceBefore front rest final last (before final (List.mem_of_getLast? last))
  have right :
      runtime.normalize (text ++ back) = runtime.normalize text ++ runtime.normalize back := by
    cases back with
    | nil => rw [laws.ascii [] nofun, List.append_nil, List.append_nil]
    | cons first rest => exact laws.spaceAfter text _ first rfl (after first List.mem_cons_self)
  rw [List.append_assoc, left, right, List.append_assoc]

theorem respells_normal_form (laws : UnicodeLaws runtime) {left right : String}
    (respells : Respells runtime left right) : normalForm runtime left = normalForm runtime right := by
  induction respells with
  | form same => rw [normalForm, normalForm, same]
  | padded before after =>
      rw [normalForm, normalForm, String.toList_ofList, String.toList_ofList,
        normalize_padded laws before after, js_trim_padded (laws.space _ before) (laws.space _ after)]
  | symm _ induction => exact induction.symm
  | trans _ _ first second => exact first.trans second

/-- A value with its text in the form that is read. -/
def spelling (runtime : TenantRuntime) : JsValue → JsValue
  | .string text => .string (String.ofList (normalForm runtime text))
  | value => value

theorem respelled_spelling (laws : UnicodeLaws runtime) {left right : JsValue}
    (respelled : RespelledValue runtime left right) :
    spelling runtime left = spelling runtime right := by
  cases respelled with
  | same => rfl
  | text respells => rw [spelling, spelling, respells_normal_form laws respells]

/-- What is read from a value depends on its spelling only. -/
def SpellingOnly {Value : Type} (runtime : TenantRuntime)
    (reader : JsValue → Except String Value) : Prop :=
  ∀ left right, spelling runtime left = spelling runtime right → ∀ first second,
    reader left = .ok first → reader right = .ok second → first = second

theorem spelling_undefined {value : JsValue} (same : spelling runtime value = .undefined) :
    value = .undefined := by
  cases value with
  | string text => cases same
  | _ => exact same

theorem spelling_string {value : JsValue} {text : String}
    (same : spelling runtime value = .string text) :
    ∃ raw, value = .string raw ∧ text = String.ofList (normalForm runtime raw) := by
  cases value with
  | string raw => exact ⟨raw, rfl, (JsValue.string.inj same).symm⟩
  | _ => cases same

/-- Two values of one spelling are both undefined, are two texts of one form, or are equal. -/
theorem spelling_cases {left right : JsValue}
    (same : spelling runtime left = spelling runtime right) :
    left = right ∨ ∃ first second, left = .string first ∧ right = .string second ∧
      normalForm runtime first = normalForm runtime second := by
  cases left with
  | string first =>
      obtain ⟨second, rfl, forms⟩ := spelling_string same.symm
      exact Or.inr ⟨first, second, rfl, rfl, String.ofList_injective forms⟩
  | _ =>
      cases right with
      | string second => cases same
      | _ => exact Or.inl same

theorem spelling_only_of_texts {Value : Type} {reader : JsValue → Except String Value}
    (texts : ∀ left right, normalForm runtime left = normalForm runtime right →
      ∀ first second, reader (.string left) = .ok first → reader (.string right) = .ok second →
        first = second) : SpellingOnly runtime reader := by
  intro left right same first second one other
  rcases spelling_cases same with rfl | ⟨firstText, secondText, rfl, rfl, forms⟩
  · exact Except.ok.inj (one.symm.trans other)
  · exact texts firstText secondText forms first second one other

theorem spelling_only_bind {First Second : Type} {reader : JsValue → Except String First}
    {next : First → Except String Second} (only : SpellingOnly runtime reader) :
    SpellingOnly runtime fun value => reader value >>= next := by
  intro left right same first second one other
  obtain ⟨leftText, leftRead, one⟩ := bind_ok.mp one
  obtain ⟨rightText, rightRead, other⟩ := bind_ok.mp other
  rw [only left right same _ _ leftRead rightRead] at one
  exact Except.ok.inj (one.symm.trans other)

theorem normalize_text_string {field : String} {maximum : Nat} {raw text : String}
    (ok : normalizeText runtime field maximum (.string raw) = .ok text) :
    text = String.ofList (normalForm runtime raw) := by
  unfold normalizeText at ok
  dsimp only at ok
  split_ifs at ok
  · cases ok
  · exact (Except.ok.inj ok).symm

theorem normalize_text_spelling (field : String) (maximum : Nat) :
    SpellingOnly runtime (normalizeText runtime field maximum) := by
  refine spelling_only_of_texts fun left right forms first second one other => ?_
  rw [normalize_text_string one, normalize_text_string other, forms]

theorem normalize_nullable_text_string {field : String} {maximum : Nat} {raw : String}
    {text : Option String}
    (ok : normalizeNullableText runtime field maximum (.string raw) = .ok text) :
    text = if normalForm runtime raw = [] then none
      else some (String.ofList (normalForm runtime raw)) := by
  unfold normalizeNullableText at ok
  dsimp only at ok
  split_ifs at ok with _ empty
  · cases ok
  · rw [if_pos empty]
    exact (Except.ok.inj ok).symm
  · cases ok
  · rw [if_neg empty]
    exact (Except.ok.inj ok).symm

theorem normalize_nullable_text_spelling (field : String) (maximum : Nat) :
    SpellingOnly runtime (normalizeNullableText runtime field maximum) := by
  refine spelling_only_of_texts fun left right forms first second one other => ?_
  rw [normalize_nullable_text_string one, normalize_nullable_text_string other, forms]

theorem normalize_email_spelling (field : String) :
    SpellingOnly runtime (normalizeEmail runtime field) :=
  spelling_only_bind (normalize_nullable_text_spelling field 254)

theorem normalize_support_url_spelling : SpellingOnly runtime (normalizeSupportUrl runtime) :=
  spelling_only_bind (normalize_nullable_text_spelling "support_url" 2048)

theorem derived_name_spelling (field fallback : String) :
    SpellingOnly runtime (derivedName runtime field fallback) :=
  spelling_only_of_texts fun left right forms =>
    normalize_text_spelling field 200 (.string left) (.string right) (by rw [spelling, spelling, forms])

theorem normalize_country_spelling : SpellingOnly runtime (normalizeCountry runtime) :=
  spelling_only_of_texts fun left right forms =>
    spelling_only_bind (normalize_text_spelling "address.country_code" 2) (.string left)
      (.string right) (by rw [spelling, spelling, forms])

theorem normalize_currency_spelling : SpellingOnly runtime (normalizeCurrency runtime) :=
  spelling_only_of_texts fun left right forms =>
    spelling_only_bind (normalize_text_spelling "default_currency" 3) (.string left)
      (.string right) (by rw [spelling, spelling, forms])

theorem normalize_timezone_spelling : SpellingOnly runtime (normalizeTimezone runtime) :=
  spelling_only_of_texts fun left right forms =>
    spelling_only_bind (normalize_text_spelling "timezone" 64) (.string left)
      (.string right) (by rw [spelling, spelling, forms])

/-- A decimal text is its own form. -/
theorem decimal_normal_form (laws : UnicodeLaws runtime) {text : String}
    (decimal : isDecimal text.toList = true) : normalForm runtime text = text.toList := by
  obtain ⟨_, digits⟩ := is_decimal_digits decimal
  have ascii : ∀ character ∈ text.toList, character.toNat < 0x80 ∧ isJsSpace character = false := by
    intro character member
    have digit := digits character member
    simp only [Char.isDigit, Bool.and_eq_true, decide_eq_true_eq] at digit
    have low : 48 ≤ character.toNat := digit.1
    have high : character.toNat ≤ 57 := digit.2
    refine ⟨by omega, ?_⟩
    simp only [isJsSpace, Bool.or_eq_false_iff, Bool.and_eq_false_iff, decide_eq_false_iff_not,
      beq_eq_false_iff_ne]
    omega
  rw [normalForm, laws.ascii _ fun character member => (ascii character member).1]
  exact js_trim_visible
    (fun character head => (ascii character (List.mem_of_mem_head? head)).2)
    (fun character last => (ascii character (List.mem_of_getLast? last)).2)

theorem normalize_risk_budget_spelling (laws : UnicodeLaws runtime) :
    SpellingOnly runtime normalizeRiskBudget := by
  have text {raw : String} {budget : DecimalText} (ok : normalizeRiskBudget (.string raw) = .ok budget) :
      budget.text = raw := by
    unfold normalizeRiskBudget at ok
    dsimp only at ok
    split_ifs at ok
    · cases ok
    · rw [← Except.ok.inj ok]
    · cases ok
  refine spelling_only_of_texts fun left right forms first second one other => ?_
  have leftForm := decimal_normal_form laws first.decimal
  have rightForm := decimal_normal_form laws second.decimal
  rw [text one] at leftForm
  rw [text other] at rightForm
  refine decimal_text_ext ?_
  rw [text one, text other]
  exact String.toList_injective (leftForm.symm.trans (forms.trans rightForm))

end Spellings

section Identities

variable {runtime : TenantRuntime}

theorem normalize_address_respelled (laws : UnicodeLaws runtime) {left right : JsValue}
    (respelled : RespelledAddress runtime left right) {first second : TenantAddress}
    (one : normalizeAddress runtime left = .ok first)
    (other : normalizeAddress runtime right = .ok second) : first = second := by
  cases respelled with
  | same => exact Except.ok.inj (one.symm.trans other)
  | @fields left right fields =>
      have spelled (name : String) := respelled_spelling laws (fields name)
      simp only [normalizeAddress] at one other
      split_ifs at one other
      · cases one
      · cases one
      · cases other
      obtain ⟨line1, readLine1, one⟩ := bind_ok.mp one
      obtain ⟨line2, readLine2, one⟩ := bind_ok.mp one
      obtain ⟨locality, readLocality, one⟩ := bind_ok.mp one
      obtain ⟨region, readRegion, one⟩ := bind_ok.mp one
      obtain ⟨postalCode, readPostalCode, one⟩ := bind_ok.mp one
      obtain ⟨countryCode, readCountryCode, one⟩ := bind_ok.mp one
      obtain ⟨line1', readLine1', other⟩ := bind_ok.mp other
      obtain ⟨line2', readLine2', other⟩ := bind_ok.mp other
      obtain ⟨locality', readLocality', other⟩ := bind_ok.mp other
      obtain ⟨region', readRegion', other⟩ := bind_ok.mp other
      obtain ⟨postalCode', readPostalCode', other⟩ := bind_ok.mp other
      obtain ⟨countryCode', readCountryCode', other⟩ := bind_ok.mp other
      rw [normalize_nullable_text_spelling _ _ _ _ (spelled _) _ _ readLine1 readLine1',
        normalize_nullable_text_spelling _ _ _ _ (spelled _) _ _ readLine2 readLine2',
        normalize_nullable_text_spelling _ _ _ _ (spelled _) _ _ readLocality readLocality',
        normalize_nullable_text_spelling _ _ _ _ (spelled _) _ _ readRegion readRegion',
        normalize_nullable_text_spelling _ _ _ _ (spelled _) _ _ readPostalCode readPostalCode',
        normalize_country_spelling _ _ (spelled _) _ _ readCountryCode readCountryCode'] at one
      exact Except.ok.inj (one.symm.trans other)

/-- The entry that is added for an entry of the body. -/
def registeredEntry (runtime : TenantRuntime) (entry : String × JsValue) : String × String :=
  (String.ofList (runtime.toUpperCase (normalForm runtime entry.1)),
    match entry.2 with
    | .string text => String.ofList (normalForm runtime text)
    | _ => "")

theorem add_entries_rows {entries : List (String × JsValue)} {table output : TextRecord}
    (added : addEntries runtime table entries = .ok output) :
    output.rows = table.rows ++ entries.map (registeredEntry runtime) := by
  induction entries generalizing table with
  | nil =>
      rw [← Except.ok.inj added]
      exact (List.append_nil _).symm
  | cons entry rest induction =>
      unfold addEntries at added
      obtain ⟨rawKey, readKey, added⟩ := bind_ok.mp added
      dsimp only at added
      split_ifs at added with known
      · cases added
      · obtain ⟨value, readValue, added⟩ := bind_ok.mp added
        have key := normalize_text_string readKey
        have text : registeredEntry runtime entry =
            (String.ofList (runtime.toUpperCase rawKey.toList), value) := by
          rw [registeredEntry, key, String.toList_ofList]
          cases raw : entry.2 with
          | string source =>
              rw [raw] at readValue
              rw [normalize_text_string readValue]
          | _ =>
              rw [raw] at readValue
              cases readValue
        rw [induction added, addEntry, List.map_cons, text, List.append_assoc]
        rfl

theorem registered_entry_respelled (laws : UnicodeLaws runtime) {left right : String × JsValue}
    (names : Respells runtime left.1 right.1) (values : RespelledValue runtime left.2 right.2) :
    registeredEntry runtime left = registeredEntry runtime right := by
  have spelled := respelled_spelling laws values
  rw [registeredEntry, registeredEntry, respells_normal_form laws names]
  rcases spelling_cases spelled with same | ⟨first, second, leftText, rightText, forms⟩
  · rw [same]
  · simp only [leftText, rightText, forms]

theorem registered_entries_respelled (laws : UnicodeLaws runtime)
    {left right : List (String × JsValue)}
    (respelled : List.Forall₂ (fun left right => Respells runtime left.1 right.1 ∧
      RespelledValue runtime left.2 right.2) left right) :
    left.map (registeredEntry runtime) = right.map (registeredEntry runtime) := by
  induction respelled with
  | nil => rfl
  | cons entry _ induction =>
      rw [List.map_cons, List.map_cons, induction,
        registered_entry_respelled laws entry.1 entry.2]

theorem normalize_registration_rows {fields : List (String × JsValue)} {output : TextRecord}
    (ok : normalizeRegistration runtime (.object fields) = .ok output) :
    output.rows.Perm (fields.map (registeredEntry runtime)) := by
  simp only [normalizeRegistration] at ok
  split_ifs at ok
  · cases ok
  · obtain ⟨table, added, rfl⟩ := map_ok.mp ok
    have rows := add_entries_rows added
    rw [KeyedTable.empty, List.nil_append] at rows
    rw [← show objectEntries (.object fields) = fields from rfl, ← rows]
    exact List.mergeSort_perm table.rows _

theorem normalize_registration_respelled (laws : UnicodeLaws runtime) {left right : JsValue}
    (respelled : RespelledRegistration runtime left right) {first second : TextRecord}
    (one : normalizeRegistration runtime left = .ok first)
    (other : normalizeRegistration runtime right = .ok second) : first.rows.Perm second.rows := by
  cases respelled with
  | same =>
      rw [Except.ok.inj (one.symm.trans other)]
  | entries reordered entries =>
      have rows := (reordered.map (registeredEntry runtime)).trans
        (List.Perm.of_eq (registered_entries_respelled laws entries))
      exact ((normalize_registration_rows one).trans rows).trans
        (normalize_registration_rows other).symm

end Identities

section Order

theorem utf16_units_cons (character : Char) (rest : List Char) :
    utf16Units (character :: rest) =
      (if character.toNat < 0x10000 then [character.toNat]
        else [0xd800 + (character.toNat - 0x10000) / 0x400,
          0xdc00 + (character.toNat - 0x10000) % 0x400]) ++ utf16Units rest := rfl

/-- A character that is one unit is no surrogate. -/
theorem scalar_value (character : Char) :
    character.toNat < 0xd800 ∨ (0xdfff < character.toNat ∧ character.toNat < 0x110000) :=
  character.valid

theorem utf16_units_injective {left right : List Char}
    (same : utf16Units left = utf16Units right) : left = right := by
  induction left generalizing right with
  | nil =>
      cases right with
      | nil => rfl
      | cons other rest =>
          rw [utf16_units_cons] at same
          split_ifs at same <;> cases same
  | cons character tail induction =>
      cases right with
      | nil =>
          rw [utf16_units_cons] at same
          split_ifs at same <;> cases same
      | cons other rest =>
          have leftScalar := scalar_value character
          have rightScalar := scalar_value other
          rw [utf16_units_cons, utf16_units_cons] at same
          have parts : character.toNat = other.toNat ∧ utf16Units tail = utf16Units rest := by
            split_ifs at same <;>
              simp only [List.cons_append, List.nil_append, List.cons.injEq] at same
            · exact same
            · omega
            · omega
            · exact ⟨by omega, same.2.2⟩
          rw [Char.toNat_inj.mp parts.1, induction parts.2]

theorem text_order_antisymm {left right : String} (below : textOrder left right = true)
    (above : textOrder right left = true) : left = right := by
  simp only [textOrder, decide_eq_true_eq, List.not_lt] at below above
  exact String.toList_injective (utf16_units_injective (List.le_antisymm below above))

theorem text_order_trans {first second third : String} (below : textOrder first second = true)
    (above : textOrder second third = true) : textOrder first third = true := by
  simp only [textOrder, decide_eq_true_eq, List.not_lt] at below above ⊢
  exact List.le_trans below above

theorem text_order_total (left right : String) :
    (textOrder left right || textOrder right left) = true := by
  simp only [textOrder, Bool.or_eq_true, decide_eq_true_eq, List.not_lt]
  exact List.le_total (utf16Units left.toList) (utf16Units right.toList)

/-- The order in which a registration was added does not matter. -/
theorem sorted_registration_of_perm {left right : TextRecord}
    (same : left.rows.Perm right.rows) : sortedRegistration left = sortedRegistration right := by
  have rows (table : TextRecord) := (List.mergeSort_perm (propertyOrder table.rows)
    fun left right => textOrder left.1 right.1).trans (property_order_perm table.rows)
  have sorted (entries : List (String × String)) :=
    @List.pairwise_mergeSort _ (fun left right : String × String => textOrder left.1 right.1)
      (fun _ _ _ => text_order_trans) (fun left right => text_order_total left.1 right.1) entries
  refine congrArg propertyOrder (List.Perm.eq_of_pairwise ?_ (sorted _) (sorted _)
    ((rows left).trans (same.trans (rows right).symm)))
  intro first second firstMember secondMember below above
  have stored : first ∈ left := (rows left).subset firstMember
  have other : second ∈ left := same.symm.subset ((rows right).subset secondMember)
  exact KeyedTable.eq_of_key stored other (text_order_antisymm below above)

theorem canonical_body_of_same {left right : NormalizedTenantInput} (same : SameBody left right) :
    canonicalBody left = canonicalBody right := by
  obtain ⟨fields, entries⟩ := same
  have sorted := sorted_registration_of_perm entries
  cases left
  cases right
  cases fields
  simp only [canonicalBody, sorted]

/-- Two bodies have one text exactly when they are the same. -/
theorem canonical_registration_request_iff {left right : NormalizedTenantInput} :
    canonicalRegistrationRequest left = canonicalRegistrationRequest right ↔
      SameBody left right := by
  refine ⟨canonical_registration_request_injective, fun same => ?_⟩
  exact congrArg (fun body => String.ofList ("tenant-registration:v1\n".toList ++
    jsonText (fun _ => []) body)) (canonical_body_of_same same)

end Order

section Requests

variable {runtime : TenantRuntime}

/-- Every part of the tenant was read from its field of the body. -/
structure ReadFrom (runtime : TenantRuntime) (input : JsValue) (tenant : NormalizedTenantInput) :
    Prop where
  name : normalizeText runtime "Tenant name" 200 (input.field "name") = .ok tenant.name
  legalName : derivedName runtime "Tenant legal name" tenant.name (input.field "legalName") =
    .ok tenant.legalName
  fullLegalName : derivedName runtime "Tenant full legal name" tenant.legalName
    (input.field "fullLegalName") = .ok tenant.fullLegalName
  displayName : derivedName runtime "Tenant display name" tenant.name
    (input.field "displayName") = .ok tenant.displayName
  address : normalizeAddress runtime (input.field "address") = .ok tenant.address
  registration :
    normalizeRegistration runtime (input.field "registration") = .ok tenant.registration
  contactEmail :
    normalizeEmail runtime "contact_email" (input.field "contactEmail") = .ok tenant.contactEmail
  contactPhone : normalizeNullableText runtime "contact_phone" 64 (input.field "contactPhone") =
    .ok tenant.contactPhone
  supportUrl : normalizeSupportUrl runtime (input.field "supportUrl") = .ok tenant.supportUrl
  financeOwnerEmail : normalizeEmail runtime "finance_owner_email"
    (input.field "financeOwnerEmail") = .ok tenant.financeOwnerEmail
  wordmark : normalizeNullableText runtime "wordmark" 256 (input.field "wordmark") =
    .ok tenant.wordmark
  defaultCurrency :
    normalizeCurrency runtime (input.field "defaultCurrency") = .ok tenant.defaultCurrency
  timezone : normalizeTimezone runtime (input.field "timezone") = .ok tenant.timezone
  riskBudgetCents : normalizeRiskBudget (input.field "riskBudgetCents") = .ok tenant.riskBudgetCents

theorem tenant_read_from {input : JsValue} {tenant : NormalizedTenantInput}
    (accepted : normalizeTenantInput runtime input = .ok tenant) : ReadFrom runtime input tenant := by
  unfold normalizeTenantInput at accepted
  obtain ⟨_, _, accepted⟩ := bind_ok.mp accepted
  obtain ⟨name, readName, accepted⟩ := bind_ok.mp accepted
  obtain ⟨legalName, readLegalName, accepted⟩ := bind_ok.mp accepted
  obtain ⟨fullLegalName, readFullLegalName, accepted⟩ := bind_ok.mp accepted
  obtain ⟨displayName, readDisplayName, accepted⟩ := bind_ok.mp accepted
  obtain ⟨address, readAddress, accepted⟩ := bind_ok.mp accepted
  obtain ⟨registration, readRegistration, accepted⟩ := bind_ok.mp accepted
  obtain ⟨contactEmail, readContactEmail, accepted⟩ := bind_ok.mp accepted
  obtain ⟨contactPhone, readContactPhone, accepted⟩ := bind_ok.mp accepted
  obtain ⟨supportUrl, readSupportUrl, accepted⟩ := bind_ok.mp accepted
  obtain ⟨financeOwnerEmail, readFinanceOwnerEmail, accepted⟩ := bind_ok.mp accepted
  obtain ⟨wordmark, readWordmark, accepted⟩ := bind_ok.mp accepted
  obtain ⟨defaultCurrency, readDefaultCurrency, accepted⟩ := bind_ok.mp accepted
  obtain ⟨timezone, readTimezone, accepted⟩ := bind_ok.mp accepted
  obtain ⟨riskBudgetCents, readRiskBudgetCents, built⟩ := bind_ok.mp accepted
  obtain rfl := Except.ok.inj built
  exact ⟨readName, readLegalName, readFullLegalName, readDisplayName, readAddress,
    readRegistration, readContactEmail, readContactPhone, readSupportUrl, readFinanceOwnerEmail,
    readWordmark, readDefaultCurrency, readTimezone, readRiskBudgetCents⟩

/-- Bodies that differ in spelling only make one tenant. -/
theorem respelled_same_body (laws : UnicodeLaws runtime) {left right : JsValue}
    (respelled : RespelledBody runtime left right) {first second : NormalizedTenantInput}
    (one : ReadFrom runtime left first) (other : ReadFrom runtime right second) :
    SameBody first second := by
  have spelled {Value : Type} {reader : JsValue → Except String Value} {field : String}
      {leftPart rightPart : Value} (notAddress : field ≠ "address")
      (notRegistration : field ≠ "registration") (only : SpellingOnly runtime reader)
      (leftRead : reader (left.field field) = .ok leftPart)
      (rightRead : reader (right.field field) = .ok rightPart) : leftPart = rightPart :=
    only _ _ (respelled_spelling laws (respelled.texts field notAddress notRegistration)) _ _
      leftRead rightRead
  have name := spelled (by decide) (by decide) (normalize_text_spelling _ _) one.name other.name
  have legalName := spelled (by decide) (by decide) (derived_name_spelling _ _) one.legalName
    (name ▸ other.legalName)
  have fullLegalName := spelled (by decide) (by decide) (derived_name_spelling _ _)
    one.fullLegalName (legalName ▸ other.fullLegalName)
  have displayName := spelled (by decide) (by decide) (derived_name_spelling _ _)
    one.displayName (name ▸ other.displayName)
  have address := normalize_address_respelled laws respelled.address one.address other.address
  have contactEmail := spelled (by decide) (by decide) (normalize_email_spelling _)
    one.contactEmail other.contactEmail
  have contactPhone := spelled (by decide) (by decide) (normalize_nullable_text_spelling _ _)
    one.contactPhone other.contactPhone
  have supportUrl := spelled (by decide) (by decide) normalize_support_url_spelling
    one.supportUrl other.supportUrl
  have financeOwnerEmail := spelled (by decide) (by decide) (normalize_email_spelling _)
    one.financeOwnerEmail other.financeOwnerEmail
  have wordmark := spelled (by decide) (by decide) (normalize_nullable_text_spelling _ _)
    one.wordmark other.wordmark
  have defaultCurrency := spelled (by decide) (by decide) normalize_currency_spelling
    one.defaultCurrency other.defaultCurrency
  have timezone := spelled (by decide) (by decide) normalize_timezone_spelling
    one.timezone other.timezone
  have riskBudgetCents := spelled (by decide) (by decide) (normalize_risk_budget_spelling laws)
    one.riskBudgetCents other.riskBudgetCents
  refine ⟨?_, normalize_registration_respelled laws respelled.registration one.registration
    other.registration⟩
  clear spelled one other
  cases first
  cases second
  simp only [NormalizedTenantInput.mk.injEq, true_and]
  exact ⟨name, legalName, fullLegalName, displayName, address, contactEmail, contactPhone,
    supportUrl, financeOwnerEmail, wordmark, defaultCurrency, timezone, riskBudgetCents⟩

/-- Accepted bodies have one text exactly when they make one tenant; the spelling of texts and
the order of the registration make no difference. -/
theorem registration_request_identifies (laws : UnicodeLaws runtime) {left right : JsValue}
    {first second : NormalizedTenantInput}
    (leftAccepted : normalizeTenantInput runtime left = .ok first)
    (rightAccepted : normalizeTenantInput runtime right = .ok second) :
    (canonicalRegistrationRequest first = canonicalRegistrationRequest second ↔
        SameBody first second) ∧
      (RespelledBody runtime left right →
        canonicalRegistrationRequest first = canonicalRegistrationRequest second) := by
  refine ⟨canonical_registration_request_iff, fun respelled => ?_⟩
  exact canonical_registration_request_iff.mpr (respelled_same_body laws respelled
    (tenant_read_from leftAccepted) (tenant_read_from rightAccepted))

/-- The runtime on ASCII texts, of which no form needs to be computed. -/
def plainRuntime : TenantRuntime where
  normalize := id
  toUpperCase := List.map Char.toUpper
  toLowerCase := List.map Char.toLower
  collates := textOrder
  parseUrl _ := none
  isSupportedCurrency currency := currency == "USD"
  isTimezone _ := false

theorem plain_runtime_laws : UnicodeLaws plainRuntime :=
  ⟨fun _ _ => rfl, fun _ space => space, fun _ _ _ _ _ => rfl, fun _ _ _ _ _ => rfl⟩

def plainBody : JsValue :=
  .object [("name", .string "Acme"),
    ("registration", .object [("vat", .string "1"), ("tax", .string "2")])]

/-- The same body with blanks around the name and the registration in another order. -/
def respelledBody : JsValue :=
  .object [("name", .string " Acme "),
    ("registration", .object [("tax", .string "2"), ("vat", .string "1")])]

theorem respelled_request_identified :
    ∃ first second, normalizeTenantInput plainRuntime plainBody = .ok first ∧
      normalizeTenantInput plainRuntime respelledBody = .ok second ∧
        canonicalRegistrationRequest first = canonicalRegistrationRequest second := by
  have leftAccepted : (normalizeTenantInput plainRuntime plainBody).toOption.isSome = true := by
    decide
  have rightAccepted : (normalizeTenantInput plainRuntime respelledBody).toOption.isSome = true := by
    decide
  obtain ⟨first, one⟩ := Option.isSome_iff_exists.mp leftAccepted
  obtain ⟨second, other⟩ := Option.isSome_iff_exists.mp rightAccepted
  have name : Respells plainRuntime "Acme" " Acme " :=
    @Respells.padded plainRuntime [' '] "Acme".toList [' '] (List.all_eq_true.mp (by decide))
      (List.all_eq_true.mp (by decide))
  have respelled : RespelledBody plainRuntime plainBody respelledBody := by
    refine ⟨fun field _ notRegistration => ?_, .same _, .entries (List.Perm.swap _ _ []) ?_⟩
    · by_cases named : field = "name"
      · subst named
        exact .text name
      · have otherName : (field == "name") = false := beq_eq_false_iff_ne.mpr named
        have otherRecord : (field == "registration") = false :=
          beq_eq_false_iff_ne.mpr notRegistration
        simp only [plainBody, respelledBody, JsValue.field, List.lookup_cons, otherName, otherRecord]
        exact .same _
    · exact .cons ⟨.form rfl, .same _⟩ (.cons ⟨.form rfl, .same _⟩ .nil)
  have accepted := to_option_some.mp one
  have acceptedOther := to_option_some.mp other
  exact ⟨first, second, accepted, acceptedOther,
    (registration_request_identifies plain_runtime_laws accepted acceptedOther).2 respelled⟩

end Requests

end CommitmentOptimizer.Tenants.TenantInputs
