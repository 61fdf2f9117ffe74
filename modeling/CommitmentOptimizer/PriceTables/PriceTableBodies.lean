import CommitmentOptimizer.Foundations.PartialLists
import CommitmentOptimizer.Forecasting.SeasonalForecast
import CommitmentOptimizer.Imports.CanonicalTexts
import CommitmentOptimizer.PriceTables.PriceItemRequests

/-!
# Price table requests

`parsePriceTableCreateBody` of `price-tables-input.ts`, and what holds of every body
that it accepts.
-/

namespace CommitmentOptimizer.PriceTables.PriceTableBodies

open Foundations
open Foundations.DateTexts
open Foundations.IsoInstants
open Foundations.JsonText
open Foundations.SqlConstraints
open Forecasting.SeasonalForecast (DateText ForecastRuntime)
open Imports.CanonicalTexts
open Imports.ControlTotals
open Imports.ImportRequests (isObjectKey)
open Imports.UsageRows
open Optimizer.Candidates
open Optimizer.OptimizerPolicies
open Optimizer.OptimizerRunCreation (instrumentText)
open Optimizer.OptimizerWorker (paymentOptionText)
open PriceItemRequests
open PriceTableItems
open Recommendations.RecommendationLifecycle

set_option autoImplicit false

section Readers

/-- `parseDate` is `new Date(text)`, `sha256Hex` the digest of a text. -/
structure PriceTableRuntime extends PolicyRuntime where
  parseDate : String → Option JsDate
  sha256Hex : List Char → String

structure PriceTableFields where
  provider : Provider
  instrument : Instrument
  versionLabel : CleanText
  effectiveFrom : DateText
  effectiveTo : Option DateText
  sourceUri : String
  items : List PriceItemInput

/-- The result of the parser. -/
structure PriceTableBody extends PriceTableFields where
  checksum : String

def parseInstrument (value : Option Json) : Option Instrument := value.bind instrument

def isSupportedPair (provider : Provider) (instrument : Instrument) : Bool :=
  (provider = .aws && (instrument = .awsComputeSavingsPlan || instrument = .awsReservedInstance)) ||
    (provider = .azure && (instrument = .azureSavingsPlan || instrument = .azureReservation)) ||
    (provider = .gcp && instrument = .gcpCommittedUseDiscount)

def objectKey : Option Json → Option String
  | some (.string value) => if isObjectKey value.toList then some value else none
  | _ => none

variable (runtime : PriceTableRuntime)

/-- The reader that the forecast requests have too. -/
def dateValue : Option Json → Option DateText :=
  Forecasting.SeasonalForecast.dateValue ⟨runtime.parseDate⟩

def nullableDate : Option Json → Option (Option DateText)
  | some .null => some none
  | value => (dateValue runtime value).map some

/-- `object.items.map(priceItem)` of 1 to 5000 items. -/
def priceItems (value : Option Json) (provider : Provider) (instrument : Instrument) :
    Option (List PriceItemInput) :=
  match value with
  | some (.array items) =>
      if 1 ≤ items.length ∧ items.length ≤ 5000 then
        items.mapM fun item => priceItem runtime.toPolicyRuntime item provider instrument
      else none
  | _ => none

def itemJson (item : PriceItemInput) : Json :=
  .object
    [("sku", .string item.sku.text), ("region", .string item.region.text),
      ("term_months", .number (some item.termMonths)),
      ("payment_option", .string (paymentOptionText item.paymentOption)),
      ("hourly_rate_cents", .string item.hourlyRateCents.text),
      ("upfront_cents", .string item.upfrontCents.text), ("coverage_rules", item.coverageRules)]

def checksum (input : PriceTableFields) : String :=
  runtime.sha256Hex (jsonText runtime.numberText (.object
    [("provider", .string (providerText input.provider)),
      ("instrument", .string (instrumentText input.instrument)),
      ("version_label", .string input.versionLabel.text),
      ("effective_from", .string input.effectiveFrom.text),
      ("effective_to", (input.effectiveTo.map fun last => Json.string last.text).getD .null),
      ("source_uri", .string input.sourceUri), ("items", .array (input.items.map itemJson))]))

def priceTableFields : List String :=
  ["provider", "instrument", "version_label", "effective_from", "effective_to", "source_uri",
    "items"]

/-- `none` where the source throws `invalid()`. -/
def parseCommitmentPriceTable (body : Json) (expectedProvider : Option Provider)
    (expectedInstrument : Option Instrument) : Option PriceTableBody :=
  if closedRecord priceTableFields body then do
    let provider ← provider (body.field "provider")
    let instrument ← parseInstrument (body.field "instrument")
    if isSupportedPair provider instrument ∧ (∀ expected ∈ expectedProvider, provider = expected) ∧
        ∀ expected ∈ expectedInstrument, instrument = expected then
      let versionLabel ← cleanText runtime.normalize 128 (body.field "version_label")
      let effectiveFrom ← dateValue runtime (body.field "effective_from")
      let effectiveTo ← nullableDate runtime (body.field "effective_to")
      let sourceUri ← objectKey (body.field "source_uri")
      let items ← priceItems runtime (body.field "items") provider instrument
      let input : PriceTableFields :=
        { provider, instrument, versionLabel, effectiveFrom, effectiveTo, sourceUri, items }
      if ∃ last ∈ effectiveTo, last.text < effectiveFrom.text then none
      else return { input with checksum := checksum runtime input }
    else none
  else none

def parsePriceTableCreateBody (body : Json) : Option PriceTableBody :=
  parseCommitmentPriceTable runtime body none none

def parseAwsComputeSavingsPlanPriceTable (body : Json) : Option PriceTableBody :=
  parseCommitmentPriceTable runtime body (some .aws) (some .awsComputeSavingsPlan)

def parseAwsReservedInstancePriceTable (body : Json) : Option PriceTableBody :=
  parseCommitmentPriceTable runtime body (some .aws) (some .awsReservedInstance)

def parseAzureSavingsPlanPriceTable (body : Json) : Option PriceTableBody :=
  parseCommitmentPriceTable runtime body (some .azure) (some .azureSavingsPlan)

def parseAzureReservationPriceTable (body : Json) : Option PriceTableBody :=
  parseCommitmentPriceTable runtime body (some .azure) (some .azureReservation)

def parseGcpCommittedUseDiscountPriceTable (body : Json) : Option PriceTableBody :=
  parseCommitmentPriceTable runtime body (some .gcp) (some .gcpCommittedUseDiscount)

end Readers

section Texts

theorem clean_text_canonical {normalize : List Char → List Char} {limit : Nat}
    {value : Option Json} {text : CleanText} (accepted : cleanText normalize limit value = some text) :
    isCanonicalText limit text.text = true := by
  unfold cleanText at accepted
  split at accepted
  · have short := (Option.filter_eq_some_iff.mp accepted).2
    exact clean_canonical text ((length_le_utf16_length _).trans (of_decide_eq_true short))
  · cases accepted

theorem object_key_text {value : Option Json} {text : String}
    (accepted : objectKey value = some text) : isCanonicalText 2048 text = true := by
  unfold objectKey at accepted
  split at accepted
  · split_ifs at accepted with key
    obtain rfl := Option.some.inj accepted
    exact object_key_canonical key
  · cases accepted

end Texts

section Secrets

variable {numberText : Rat → List Char}

theorem quoted_name_inside {fields : List (String × Json)} {field : String × Json}
    (member : field ∈ fields) : quoted field.1 <:+: fieldsText numberText fields := by
  induction fields with
  | nil => cases member
  | cons first rest induction =>
      obtain ⟨name, value⟩ := first
      have own : ∀ text, quoted name <:+: quoted name ++ text :=
        fun text => (List.prefix_append _ _).isInfix
      cases rest with
      | nil =>
          obtain rfl := List.mem_singleton.mp member
          exact own _
      | cons second rest =>
          rcases List.mem_cons.mp member with rfl | later
          · exact own _
          · refine (induction later).trans (List.IsSuffix.isInfix ?_)
            exact ⟨quoted name ++ ':' :: (jsonText numberText value ++ [',']), by
              simp only [fieldsText, List.append_assoc, List.cons_append, List.nil_append]⟩

/-- A key that the table rejects has a word that the parser rejects in the whole text. -/
theorem names_secret_of_key {fields : List (String × Json)}
    (keyed : (Json.object fields).hasAnyKey secretKeys = true) :
    namesSecret (jsonText numberText (.object fields)) = true := by
  obtain ⟨field, member, secret⟩ := List.any_eq_true.mp keyed
  have inside : quoted field.1 <:+: jsonText numberText (.object fields) :=
    (quoted_name_inside member).trans ⟨['\x7b'], ['\x7d'], by
      rw [jsonText, List.cons_append, List.nil_append, List.cons_append]⟩
  have named : namesSecret (quoted field.1) = true :=
    (by decide : ∀ key ∈ secretKeys, namesSecret (quoted key) = true) field.1
      (List.contains_iff_mem.mp secret)
  obtain ⟨word, listed, found⟩ := List.any_eq_true.mp named
  refine List.any_eq_true.mpr ⟨word, listed, decide_eq_true ?_⟩
  exact (of_decide_eq_true found).trans (inside.map _)

end Secrets

section Accepted

variable {runtime : PriceTableRuntime}

/-- What the parser has checked of an item. -/
structure CheckedItem (item : PriceItemInput) : Prop where
  sku : isCanonicalText 512 item.sku.text = true
  region : isCanonicalText 128 item.region.text = true
  term : 0 < item.termMonths
  rules : item.coverageRules.isObject = true
  plain : item.coverageRules.hasAnyKey secretKeys = false

/-- The text begins the ISO text of some instant. -/
def IsoDate (date : DateText) : Prop :=
  ∃ time, (toIsoString time).toList.take 10 = date.text.toList

structure CheckedFields (input : PriceTableFields) : Prop where
  pair : input.instrument.provider = input.provider
  versionLabel : isCanonicalText 128 input.versionLabel.text = true
  effectiveFrom : IsoDate input.effectiveFrom
  effectiveTo : ∀ last ∈ input.effectiveTo,
    IsoDate last ∧ ¬ last.text < input.effectiveFrom.text
  sourceUri : isCanonicalText 2048 input.sourceUri = true
  items : ∀ item ∈ input.items, CheckedItem item

theorem coverage_checked {runtime : PolicyRuntime} {value : Option Json} {rules : Json}
    (accepted : coverage runtime value = some rules) :
    rules.isObject = true ∧ rules.hasAnyKey secretKeys = false := by
  unfold coverage configObject at accepted
  split at accepted
  · dsimp only at accepted
    split_ifs at accepted with refused
    obtain rfl := Option.some.inj accepted
    refine ⟨rfl, Bool.eq_false_iff.mpr fun keyed => ?_⟩
    exact refused (Or.inr (names_secret_of_key keyed))
  · cases accepted

theorem term_positive {value : Option Json} {months : Int} (accepted : term value = some months) :
    0 < months := by
  unfold term at accepted
  split at accepted
  · split_ifs at accepted <;> cases accepted <;> decide
  · cases accepted

theorem price_item_checked {runtime : PolicyRuntime} {value : Json} {provider : Provider}
    {instrument : Instrument} {item : PriceItemInput}
    (accepted : priceItem runtime value provider instrument = some item) : CheckedItem item := by
  unfold priceItem at accepted
  split_ifs at accepted
  obtain ⟨months, isTerm, accepted⟩ := Option.bind_eq_some_iff.mp accepted
  obtain ⟨payment, _, accepted⟩ := Option.bind_eq_some_iff.mp accepted
  obtain ⟨rules, isCoverage, accepted⟩ := Option.bind_eq_some_iff.mp accepted
  split_ifs at accepted
  obtain ⟨sku, isSku, accepted⟩ := Option.bind_eq_some_iff.mp accepted
  obtain ⟨region, isRegion, accepted⟩ := Option.bind_eq_some_iff.mp accepted
  obtain ⟨hourly, _, accepted⟩ := Option.bind_eq_some_iff.mp accepted
  obtain ⟨upfront, _, accepted⟩ := Option.bind_eq_some_iff.mp accepted
  obtain rfl := Option.some.inj accepted
  obtain ⟨object, plain⟩ := coverage_checked isCoverage
  exact ⟨clean_text_canonical isSku, clean_text_canonical isRegion, term_positive isTerm, object,
    plain⟩

theorem price_items_checked {value : Option Json} {provider : Provider} {instrument : Instrument}
    {items : List PriceItemInput}
    (accepted : priceItems runtime value provider instrument = some items) :
    ∀ item ∈ items, CheckedItem item := by
  unfold priceItems at accepted
  split at accepted
  · split_ifs at accepted
    intro item member
    obtain ⟨_, _, parsed⟩ := PartialLists.mem_of_map_m accepted member
    exact price_item_checked parsed
  · cases accepted

theorem date_value_iso {value : Option Json} {date : DateText}
    (accepted : dateValue runtime value = some date) : IsoDate date := by
  unfold dateValue Forecasting.SeasonalForecast.dateValue at accepted
  split at accepted
  · split_ifs at accepted
    split at accepted
    · split_ifs at accepted with same
      obtain rfl := Option.some.inj accepted
      rename_i parsed _
      exact ⟨parsed.time, by
        simpa only [String.toList_ofList, JsDate.text] using congrArg String.toList same⟩
    · cases accepted
  · cases accepted

theorem nullable_date_iso {value : Option Json} {date : Option DateText}
    (accepted : nullableDate runtime value = some date) : ∀ last ∈ date, IsoDate last := by
  unfold nullableDate at accepted
  split at accepted
  · cases accepted
    exact nofun
  · obtain ⟨parsed, isParsed, rfl⟩ := Option.map_eq_some_iff.mp accepted
    intro last same
    obtain rfl := Option.some.inj same
    exact date_value_iso isParsed

theorem supported_pair_provider {provider : Provider} {instrument : Instrument}
    (supported : isSupportedPair provider instrument = true) : instrument.provider = provider := by
  cases provider <;> cases instrument <;> first | rfl | cases supported

theorem price_table_checked {body : Json} {expectedProvider : Option Provider}
    {expectedInstrument : Option Instrument} {input : PriceTableBody}
    (accepted : parseCommitmentPriceTable runtime body expectedProvider expectedInstrument =
      some input) :
    CheckedFields input.toPriceTableFields ∧
      input.checksum = checksum runtime input.toPriceTableFields := by
  unfold parseCommitmentPriceTable at accepted
  split_ifs at accepted
  obtain ⟨provider, _, accepted⟩ := Option.bind_eq_some_iff.mp accepted
  obtain ⟨instrument, _, accepted⟩ := Option.bind_eq_some_iff.mp accepted
  split_ifs at accepted with expected
  obtain ⟨label, isLabel, accepted⟩ := Option.bind_eq_some_iff.mp accepted
  obtain ⟨first, isFirst, accepted⟩ := Option.bind_eq_some_iff.mp accepted
  obtain ⟨last, isLast, accepted⟩ := Option.bind_eq_some_iff.mp accepted
  obtain ⟨uri, isUri, accepted⟩ := Option.bind_eq_some_iff.mp accepted
  obtain ⟨items, isItems, accepted⟩ := Option.bind_eq_some_iff.mp accepted
  dsimp only at accepted
  split_ifs at accepted with before
  obtain rfl := Option.some.inj accepted
  refine ⟨⟨supported_pair_provider expected.1, clean_text_canonical isLabel, date_value_iso isFirst,
    fun last member => ⟨nullable_date_iso isLast last member, fun less => before ⟨last, member, less⟩⟩,
    object_key_text isUri, price_items_checked isItems⟩, rfl⟩

/-- The parsers of the single instruments accept what the general one accepts. -/
theorem expected_price_table {body : Json} {expectedProvider : Option Provider}
    {expectedInstrument : Option Instrument} {input : PriceTableBody}
    (accepted : parseCommitmentPriceTable runtime body expectedProvider expectedInstrument =
      some input) : parsePriceTableCreateBody runtime body = some input := by
  unfold parsePriceTableCreateBody
  unfold parseCommitmentPriceTable at accepted ⊢
  split_ifs at accepted ⊢ with closed
  obtain ⟨provider, isProvider, accepted⟩ := Option.bind_eq_some_iff.mp accepted
  obtain ⟨instrument, isInstrument, accepted⟩ := Option.bind_eq_some_iff.mp accepted
  split_ifs at accepted with expected
  refine Option.bind_eq_some_iff.mpr ⟨provider, isProvider, ?_⟩
  refine Option.bind_eq_some_iff.mpr ⟨instrument, isInstrument, ?_⟩
  rw [if_pos ⟨expected.1, nofun, nofun⟩]
  exact accepted

end Accepted

end CommitmentOptimizer.PriceTables.PriceTableBodies
