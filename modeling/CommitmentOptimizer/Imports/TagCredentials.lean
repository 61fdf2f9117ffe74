import CommitmentOptimizer.Imports.CsvAgreement
import CommitmentOptimizer.Imports.ImportRequests

/-!
# Credentials in usage tags

Two of the three row readers refuse tags that name a credential. The AWS parser
builds its tags from the columns of the header and does not look at them.
-/

namespace CommitmentOptimizer.Imports.TagCredentials

open Foundations
open Foundations.JsonText
open Recommendations.RecommendationLifecycle
open UsageRows
open ControlTotals
open UsageParsers
open CsvAgreement
open ImportRequests

set_option autoImplicit false

section Words

/-- No word goes beyond a quotation mark. -/
theorem names_credential_split (left right : List Char) :
    namesCredential (left ++ '"' :: right) = (namesCredential left || namesCredential right) := by
  have folded : (left ++ '"' :: right).map foldCase =
      left.map foldCase ++ '"' :: right.map foldCase := by
    rw [List.map_append, List.map_cons]
    rfl
  have plain : ∀ word ∈ credentialWords, '"' ∉ word.toList := by decide
  rw [Bool.eq_iff_iff, Bool.or_eq_true]
  simp only [namesCredential, List.any_eq_true, decide_eq_true_eq, folded]
  constructor
  · rintro ⟨word, member, inside⟩
    rcases (infix_append_separator (plain word member)).mp inside with inLeft | inRight
    · exact Or.inl ⟨word, member, inLeft⟩
    · exact Or.inr ⟨word, member, inRight⟩
  · rintro (⟨word, member, inside⟩ | ⟨word, member, inside⟩)
    · exact ⟨word, member, (infix_append_separator (plain word member)).mpr (Or.inl inside)⟩
    · exact ⟨word, member, (infix_append_separator (plain word member)).mpr (Or.inr inside)⟩

theorem names_credential_short {text : List Char} (short : text.length < 5) :
    namesCredential text = false := by
  have lengths : ∀ word ∈ credentialWords, 5 ≤ word.toList.length := by decide
  rw [Bool.eq_false_iff]
  intro named
  obtain ⟨word, member, inside⟩ := List.any_eq_true.mp named
  have long := lengths word member
  refine not_infix_of_length ?_ (of_decide_eq_true inside)
  rw [List.length_map]
  omega

/-- A text in quotes, between one character and the rest. -/
theorem names_credential_quoted (character : Char) (text : String) (rest : List Char) :
    namesCredential (character :: (quoted text ++ rest)) =
      (namesCredential (escapeText text) || namesCredential rest) := by
  have split : character :: (quoted text ++ rest) =
      [character] ++ '"' :: (escapeText text ++ '"' :: rest) := by simp [quoted]
  have short : namesCredential [character] = false := names_credential_short (by simp)
  rw [split, names_credential_split, names_credential_split, short, Bool.false_or]

variable (numberText : Rat → List Char)

/-- An object of texts names a credential in a name or in a value. -/
theorem names_credential_fields (fields : List (String × String)) (character : Char) :
    namesCredential (character ::
        (fieldsText numberText (fields.map fun field => (field.1, .string field.2)) ++
          ['\x7d'])) =
      fields.any fun field =>
        namesCredential (escapeText field.1) || namesCredential (escapeText field.2) := by
  induction fields generalizing character with
  | nil => exact names_credential_short (by simp [fieldsText])
  | cons field rest induction =>
      obtain ⟨name, value⟩ := field
      cases rest with
      | nil =>
          have text : fieldsText numberText [(name, .string value)] ++ ['\x7d'] =
              quoted name ++ ':' :: (quoted value ++ ['\x7d']) := by
            simp [fieldsText, jsonText]
          rw [List.map_cons, List.map_nil, text, names_credential_quoted, names_credential_quoted,
            names_credential_short (by decide : ['\x7d'].length < 5)]
          simp
      | cons next rest =>
          have text : fieldsText numberText
                (((name, value) :: next :: rest).map fun field => (field.1, .string field.2)) ++
                ['\x7d'] =
              quoted name ++ ':' :: (quoted value ++ ',' :: (fieldsText numberText
                ((next :: rest).map fun field => (field.1, .string field.2)) ++ ['\x7d'])) := by
            simp [fieldsText, jsonText]
          rw [text, names_credential_quoted, names_credential_quoted, induction, ← Bool.or_assoc,
            List.any_cons (a := (name, value))]

end Words

section Rows

variable {runtime : ImportRuntime}

/-- The tags of every accepted row pass the test. -/
def RowsClean (runtime : ImportRuntime) (rows : List UsageLineItem) : Prop :=
  ∀ row ∈ rows, namesCredential (jsonText runtime.numberText (.object row.tags)) = false

theorem tags_of_clean {parsed : JsValue} {tags : List (String × Json)}
    (accepted : tagsOf runtime parsed = some tags) :
    namesCredential (jsonText runtime.numberText (.object tags)) = false := by
  cases parsed with
  | object fields =>
      obtain ⟨encoded, isEncoded, accepted⟩ := Option.bind_eq_some_iff.mp accepted
      obtain ⟨written, isWritten, rfl⟩ := Option.map_eq_some_iff.mp isEncoded
      split_ifs at accepted with named
      rw [spread, isWritten] at accepted
      obtain rfl := Option.some.inj accepted
      exact Bool.eq_false_iff.mpr named
  | date time =>
      obtain ⟨_, _, accepted⟩ := Option.bind_eq_some_iff.mp accepted
      split_ifs at accepted
      obtain rfl := Option.some.inj accepted
      exact names_credential_short (by simp [jsonText, fieldsText])
  | _ => cases accepted

theorem parse_tags_clean {value : JsValue} {tags : List (String × Json)}
    (accepted : parseTags runtime value = some tags) :
    namesCredential (jsonText runtime.numberText (.object tags)) = false := by
  cases value with
  | string text =>
      obtain ⟨parsed, _, accepted⟩ := Option.bind_eq_some_iff.mp accepted
      exact tags_of_clean accepted
  | _ =>
      unfold parseTags at accepted
      exact tags_of_clean accepted

theorem forall₂_forall_iff {Left Right : Type} {related : Left → Right → Prop}
    {left : Left → Prop} {right : Right → Prop} {lefts : List Left} {rights : List Right}
    (same : ∀ first second, related first second → (right second ↔ left first))
    (all : List.Forall₂ related lefts rights) :
    (∀ second ∈ rights, right second) ↔ ∀ first ∈ lefts, left first := by
  induction all with
  | nil => simp
  | cons head _ induction =>
      rw [List.forall_mem_cons, List.forall_mem_cons, same _ _ head, induction]

theorem rows_clean_of_read {account : Provider} {Row : Type} {cell : Row → String → JsValue}
    {line : Nat} {rows : List Row} {items : List UsageLineItem}
    (accepted : readRows (fun row => parseUsageRow runtime account (cell row)) line rows =
      .ok items) : RowsClean runtime items := by
  refine (forall₂_forall_iff (fun row item isRead => ?_) (read_rows_forall₂ accepted)).mpr
    fun _ _ => trivial
  exact iff_true_intro (parse_tags_clean (parse_usage_row_read isRead).tags)

theorem canonical_rows_clean {account : Provider} {totals : List ImportControlTotal}
    {rows : List (String → JsValue)} {label : String} {warnings : List Json}
    {parsed : ParsedUsage}
    (accepted : parseCanonicalRows runtime rows account totals label warnings = .parsed parsed) :
    RowsClean runtime parsed.rows := by
  unfold parseCanonicalRows at accepted
  split_ifs at accepted
  · cases accepted
  · exact rows_clean_of_read (finish_rows_parsed accepted).1

theorem synthetic_clean {bytes : List UInt8} {account : Provider}
    {totals : List ImportControlTotal} {parsed : ParsedUsage}
    (accepted : parseSyntheticCsvImport runtime bytes account totals = .parsed parsed) :
    RowsClean runtime parsed.rows := by
  unfold parseSyntheticCsvImport at accepted
  split at accepted
  case h_1 =>
    dsimp only at accepted
    split at accepted
    case h_1 => cases accepted
    case h_2 => exact rows_clean_of_read (finish_rows_parsed accepted).1
  case h_2 => cases accepted

theorem canonical_clean {bytes : List UInt8} {account : Provider}
    {totals : List ImportControlTotal} {format : CanonicalFormat} {parsed : ParsedUsage}
    (accepted : parseCanonicalUsageImport runtime bytes account totals format =
      some (.parsed parsed)) : RowsClean runtime parsed.rows := by
  cases format with
  | csv =>
      have accepted := Option.some.inj accepted
      unfold parseCanonicalCsvImport at accepted
      split at accepted
      case h_1 =>
        dsimp only at accepted
        split at accepted
        case h_1 => cases accepted
        case h_2 => exact canonical_rows_clean accepted
      case h_2 => cases accepted
  | parquet =>
      obtain ⟨rows, _, accepted⟩ := Option.bind_eq_some_iff.mp accepted
      exact canonical_rows_clean (Option.some.inj accepted)
  | snapshot format =>
      have accepted := Option.some.inj accepted
      unfold parseCanonicalJsonImport at accepted
      split at accepted
      case h_1 => cases accepted
      case h_2 fields _ =>
        dsimp only at accepted
        split at accepted
        case h_1 =>
          split_ifs at accepted
          · cases accepted
          · cases accepted
          · exact canonical_rows_clean accepted
        case h_2 => cases accepted
      case h_3 => cases accepted

end Rows

section AwsTags

variable {runtime : ImportRuntime}

/-- `result[name] = raw` for each tag in turn. -/
theorem mem_assigned {tags result : List (String × String)} {tag : String × String}
    (single : ∀ left ∈ result ++ tags, ∀ right ∈ result ++ tags, left.1 = right.1 → left = right) :
    tag ∈ tags.foldl (fun result tag =>
        if result.any fun other => other.1 = tag.1 then result else result ++ [tag]) result ↔
      tag ∈ result ∨ tag ∈ tags := by
  induction tags generalizing result with
  | nil => simp
  | cons next rest induction =>
      rw [List.foldl_cons]
      split_ifs with assigned
      · obtain ⟨other, member, same⟩ := List.any_eq_true.mp assigned
        have isNext : other = next := single other (List.mem_append_left _ member) next
          (by simp) (of_decide_eq_true same)
        rw [induction (fun left leftMember right rightMember => single left (by
          rcases List.mem_append.mp leftMember with old | new
          · exact List.mem_append_left _ old
          · exact List.mem_append_right _ (List.mem_cons_of_mem _ new)) right (by
          rcases List.mem_append.mp rightMember with old | new
          · exact List.mem_append_left _ old
          · exact List.mem_append_right _ (List.mem_cons_of_mem _ new)))]
        rw [List.mem_cons]
        constructor
        · rintro (old | new)
          · exact Or.inl old
          · exact Or.inr (Or.inr new)
        · rintro (old | rfl | new)
          · exact Or.inl old
          · exact Or.inl (isNext ▸ member)
          · exact Or.inr new
      · rw [induction (by simpa [List.append_assoc] using single)]
        simp [or_assoc]

theorem column_tag_name {header row : List String} {column : String} {tag : String × String}
    (found : columnTag runtime header row column = some tag) :
    column.toList = tagPrefix.toList ++ tag.1.toList := by
  unfold columnTag at found
  split_ifs at found with prefixed
  obtain ⟨name, whole⟩ := List.isPrefixOf_iff_prefix.mp prefixed
  have dropped : column.toList.drop tagPrefix.length = name := by
    rw [← whole, ← String.length_toList, List.drop_left]
  dsimp only at found
  split at found
  case h_1 cell _ =>
    split_ifs at found
    obtain rfl := Option.some.inj found
    rw [String.toList_ofList, dropped, whole]
  case h_2 => cases found

/-- The tags of a row are those of its columns. -/
theorem mem_tags {header row : List String} {name value : String} :
    (name, value) ∈ (header.filterMap (columnTag runtime header row)).foldl (fun result tag =>
        if result.any fun other => other.1 = tag.1 then result else result ++ [tag]) [] ↔
      ∃ column ∈ header, columnTag runtime header row column = some (name, value) := by
  rw [mem_assigned]
  · simp
  · intro left leftMember right rightMember same
    rw [List.nil_append] at leftMember rightMember
    obtain ⟨column, _, isLeft⟩ := List.mem_filterMap.mp leftMember
    obtain ⟨other, _, isRight⟩ := List.mem_filterMap.mp rightMember
    have sameColumn : column = other := by
      rw [← String.toList_inj, column_tag_name isLeft, column_tag_name isRight, same]
    rw [sameColumn] at isLeft
    exact Option.some.inj (isLeft.symm.trans isRight)

/-- Neither the name nor the text of a tag in the row names a credential. -/
def TagsClean (runtime : ImportRuntime) (header row : List String) : Prop :=
  ∀ column ∈ header, ∀ name value, columnTag runtime header row column = some (name, value) →
    namesCredential (escapeText name) = false ∧ namesCredential (escapeText value) = false

theorem aws_tags_clean_iff {header row : List String} :
    namesCredential (jsonText runtime.numberText (.object (tags runtime header row))) = false ↔
      TagsClean runtime header row := by
  have text : jsonText runtime.numberText (.object (tags runtime header row)) =
      '\x7b' :: (fieldsText runtime.numberText (tags runtime header row) ++ ['\x7d']) := by
    rw [jsonText]
  rw [text, tags, names_credential_fields, Bool.eq_false_iff, ne_eq, List.any_eq_true]
  simp only [Prod.exists, mem_tags, Bool.or_eq_true, not_exists, not_and, not_or,
    Bool.not_eq_true]
  constructor
  · intro clean column member name value isTag
    exact clean name value ⟨column, member, isTag⟩
  · rintro clean name value ⟨column, member, isTag⟩
    exact clean column member name value isTag

theorem aws_rows_clean_iff {bytes : List UInt8} {account : Provider}
    {totals : List ImportControlTotal} {parsed : ParsedUsage}
    (accepted : parseAwsCurCsvImport runtime bytes account totals = .parsed parsed) :
    RowsClean runtime parsed.rows ↔
      ∀ header rows, awsDataRows runtime bytes = some (header, rows) →
        ∀ row ∈ rows, TagsClean runtime header row := by
  obtain ⟨header, rows, data, each, _⟩ := aws_import_read accepted
  have clean : RowsClean runtime parsed.rows ↔ ∀ row ∈ rows, TagsClean runtime header row := by
    refine forall₂_forall_iff (fun row item isRead => ?_) each
    rw [(aws_usage_row_read isRead).tags]
    exact aws_tags_clean_iff
  rw [clean]
  constructor
  · intro clean header' rows' data'
    obtain ⟨rfl, rfl⟩ := Prod.mk.inj (Option.some.inj (data.symm.trans data'))
    exact clean
  · intro clean
    exact clean header rows data

end AwsTags

section Imports

variable (runtime : ImportRuntime)

/-- No accepted row has tags that name a credential, exactly when an accepted file
of the AWS parser has none among its tag columns. -/
theorem no_credential_tags_iff (source : ImportSource) (format : ImportFormat)
    (bytes : List UInt8) (account : Provider) (totals : List ImportControlTotal) :
    (∀ parsed, parseImport runtime source format bytes account totals = some (.parsed parsed) →
        RowsClean runtime parsed.rows) ↔
      (readsAwsCur source format = true →
        (∃ parsed, parseImport runtime source format bytes account totals =
          some (.parsed parsed)) →
        ∀ header rows, awsDataRows runtime bytes = some (header, rows) →
          ∀ row ∈ rows, TagsClean runtime header row) := by
  cases aws : readsAwsCur source format with
  | true =>
      rw [parse_import_aws runtime bytes account totals aws]
      constructor
      · rintro clean _ ⟨parsed, accepted⟩
        exact (aws_rows_clean_iff (Option.some.inj accepted)).mp (clean parsed accepted)
      · intro clean parsed accepted
        exact (aws_rows_clean_iff (Option.some.inj accepted)).mpr (clean rfl ⟨parsed, accepted⟩)
  | false =>
      refine iff_of_true ?_ (fun impossible => nomatch impossible)
      intro parsed accepted
      rcases parse_import_other runtime bytes account totals aws with same | same
      · rw [same] at accepted
        exact synthetic_clean (Option.some.inj accepted)
      · rw [same] at accepted
        exact canonical_clean accepted

end Imports

section Example

/-- An AWS file with one row, whose environment tag holds a password. -/
def taggedPassword : List UInt8 := csvBytes
  [["lineItem/UsageAccountId", "lineItem/ProductCode", "lineItem/UsageType", "product/region",
      "lineItem/UsageStartDate", "lineItem/UsageEndDate", "lineItem/UsageAmount",
      "lineItem/UsageUnit", "pricing/publicOnDemandCost", "lineItem/UnblendedCost",
      "resourceTags/user:Environment"],
    ["123456789012", "AmazonEC2", "BoxUsage:m5.large", "eu-west-1", "2024-02-29T00:00:00Z",
      "2024-02-29T01:00:00Z", "1.00000000", "Hrs", "0.11", "0.07", "Password=hunter2"]]

end Example

/-- The file is accepted with the password among its tags. -/
theorem password_tag_accepted :
    ¬ ∀ (source : ImportSource) (format : ImportFormat) (bytes : List UInt8)
        (account : Provider) (values : List Json) (totals : List ImportControlTotal),
      controlTotals exampleRuntime.normalize values = some totals → ∀ parsed,
      parseImport exampleRuntime source format bytes account totals = some (.parsed parsed) →
      RowsClean exampleRuntime parsed.rows := by
  intro always
  have facts : (controlTotals exampleRuntime.normalize [exampleEntry "1"]).any (fun totals =>
      (parseImport exampleRuntime .awsCur .csv taggedPassword .aws totals).any
        fun result => (acceptedOf result).any fun accepted => accepted.2.any fun row =>
          namesCredential (jsonText exampleRuntime.numberText (.object row.tags))) = true := by
    decide +kernel
  obtain ⟨totals, passed, imports⟩ := (Option.any_eq_true _ _).mp facts
  obtain ⟨result, isResult, named⟩ := (Option.any_eq_true _ _).mp imports
  cases result with
  | parsed parsed =>
      obtain ⟨row, member, named⟩ := List.any_eq_true.mp named
      rw [always _ _ _ _ _ totals passed parsed isResult row member] at named
      cases named
  | quarantined => cases named

end CommitmentOptimizer.Imports.TagCredentials
