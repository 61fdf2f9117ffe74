import Mathlib.Data.List.Infix
import Mathlib.Data.List.TakeWhile
import CommitmentOptimizer.Reports.ReportTemplates

/-!
# What a template renders to

The text of a template with a segment in place of each token; a segment shows the value
that the token names in the snapshot, escaped.
-/

namespace CommitmentOptimizer.Reports.TemplateRendering

open Foundations
open ReportTemplates

set_option autoImplicit false

section Entities

def unescapeHtml : List Char → List Char
  | '&' :: 'a' :: 'm' :: 'p' :: ';' :: rest => '&' :: unescapeHtml rest
  | '&' :: 'l' :: 't' :: ';' :: rest => '<' :: unescapeHtml rest
  | '&' :: 'g' :: 't' :: ';' :: rest => '>' :: unescapeHtml rest
  | '&' :: 'q' :: 'u' :: 'o' :: 't' :: ';' :: rest => '"' :: unescapeHtml rest
  | '&' :: '#' :: '3' :: '9' :: ';' :: rest => '\'' :: unescapeHtml rest
  | character :: rest => character :: unescapeHtml rest
  | [] => []

/-- The characters that markup is made of. -/
def markup : List Char := ['<', '>', '"', '\'']

theorem replace_all_flat_map (pattern : Char) (replacement : List Char) (text : List Char)
    (function : Char → List Char) :
    replaceAll pattern replacement (text.flatMap function) =
      text.flatMap fun character => replaceAll pattern replacement (function character) :=
  List.flatMap_assoc

/-- One replacement after the other is one pass over the text. -/
theorem escape_html_flat_map (value : List Char) :
    escapeHtml value = value.flatMap fun character => escapeHtml [character] := by
  have start : ∀ character, replaceAll '&' ['&', 'a', 'm', 'p', ';'] [character] =
      if character = '&' then ['&', 'a', 'm', 'p', ';'] else [character] :=
    fun _ => List.flatMap_singleton ..
  have first : replaceAll '&' ['&', 'a', 'm', 'p', ';'] value = value.flatMap fun character =>
      if character = '&' then ['&', 'a', 'm', 'p', ';'] else [character] := rfl
  simp only [escapeHtml, start]
  rw [first, replace_all_flat_map, replace_all_flat_map, replace_all_flat_map,
    replace_all_flat_map]

/-- A character is replaced by its entity or stays. -/
theorem escape_html_cases (character : Char) :
    (character = '&' ∧ escapeHtml [character] = ['&', 'a', 'm', 'p', ';']) ∨
    (character = '<' ∧ escapeHtml [character] = ['&', 'l', 't', ';']) ∨
    (character = '>' ∧ escapeHtml [character] = ['&', 'g', 't', ';']) ∨
    (character = '"' ∧ escapeHtml [character] = ['&', 'q', 'u', 'o', 't', ';']) ∨
    (character = '\'' ∧ escapeHtml [character] = ['&', '#', '3', '9', ';']) ∨
    (character ≠ '&' ∧ character ∉ markup ∧ escapeHtml [character] = [character]) := by
  by_cases ampersand : character = '&'
  · exact Or.inl ⟨ampersand, by rw [ampersand]; decide⟩
  by_cases less : character = '<'
  · exact Or.inr (Or.inl ⟨less, by rw [less]; decide⟩)
  by_cases greater : character = '>'
  · exact Or.inr (Or.inr (Or.inl ⟨greater, by rw [greater]; decide⟩))
  by_cases quote : character = '"'
  · exact Or.inr (Or.inr (Or.inr (Or.inl ⟨quote, by rw [quote]; decide⟩)))
  by_cases apostrophe : character = '\''
  · exact Or.inr (Or.inr (Or.inr (Or.inr (Or.inl ⟨apostrophe, by rw [apostrophe]; decide⟩))))
  refine Or.inr (Or.inr (Or.inr (Or.inr (Or.inr ⟨ampersand, ?_, ?_⟩))))
  · simp [markup, less, greater, quote, apostrophe]
  · simp [escapeHtml, replaceAll, ampersand, less, greater, quote, apostrophe]

theorem escape_html_plain (value : List Char) : ∀ character ∈ escapeHtml value,
    character ∉ markup := by
  have each : ∀ character, (escapeHtml [character]).all (fun shown => !markup.contains shown) =
      true := by
    intro character
    rcases escape_html_cases character with
      ⟨_, entity⟩ | ⟨_, entity⟩ | ⟨_, entity⟩ | ⟨_, entity⟩ | ⟨_, entity⟩ | ⟨_, plain, same⟩
    case inr.inr.inr.inr.inr =>
      simpa [same] using plain
    all_goals
      rw [entity]
      decide
  rw [escape_html_flat_map]
  intro shown member
  obtain ⟨character, _, isShown⟩ := List.mem_flatMap.mp member
  simpa using List.all_eq_true.mp (each character) shown isShown

theorem unescape_escape_html (value : List Char) : unescapeHtml (escapeHtml value) = value := by
  rw [escape_html_flat_map]
  induction value with
  | nil => rfl
  | cons character value induction =>
      rw [List.flatMap_cons]
      rcases escape_html_cases character with
        ⟨rfl, entity⟩ | ⟨rfl, entity⟩ | ⟨rfl, entity⟩ | ⟨rfl, entity⟩ | ⟨rfl, entity⟩ |
        ⟨ampersand, _, same⟩
      case inr.inr.inr.inr.inr =>
        rw [same, List.singleton_append, unescapeHtml, induction]
        all_goals
          intros
          simp_all
      all_goals
        rw [entity]
        simp only [List.cons_append, List.nil_append, unescapeHtml, induction]

end Entities

section Scans

/-- The text starts with a token between braces, and `rest` follows. -/
def TokenOccurs (text token rest : List Char) : Prop :=
  ∃ before after, text =
      '\x7b' :: '\x7b' :: (before ++ (token ++ (after ++ '\x7d' :: '\x7d' :: rest))) ∧
    (∀ character ∈ before, isJsSpace character = true) ∧
    (∀ character ∈ after, isJsSpace character = true) ∧
    token ≠ [] ∧ ∀ character ∈ token, isTokenCharacter character = true

/-- A token stands somewhere in the template. -/
def TokenIn (template token : List Char) : Prop :=
  ∃ text rest, text <:+ template ∧ TokenOccurs text token rest

/-- The text of a template with what it shows in place of each token. -/
inductive Rendering (shows : List Char → List Char → Prop) : List Char → List Char → Prop
  | done : Rendering shows [] []
  | literal {character : Char} {text output : List Char}
      (plain : ∀ token rest, ¬ TokenOccurs (character :: text) token rest)
      (onward : Rendering shows text output) :
      Rendering shows (character :: text) (character :: output)
  | token {text token segment rest output : List Char} (occurs : TokenOccurs text token rest)
      (shown : shows token segment) (onward : Rendering shows rest output) :
      Rendering shows text (segment ++ output)

theorem token_character_not_space {character : Char} (token : isTokenCharacter character = true) :
    isJsSpace character = false := by
  have bounds : (48 ≤ character.toNat ∧ character.toNat ≤ 57) ∨
      (65 ≤ character.toNat ∧ character.toNat ≤ 90) ∨
      (97 ≤ character.toNat ∧ character.toNat ≤ 122) ∨ character.toNat = 95 ∨
      character.toNat = 46 := by
    delta isTokenCharacter Char.isAlphanum Char.isAlpha Char.isUpper Char.isLower Char.isDigit
      at token
    simp only [Bool.or_eq_true, Bool.and_eq_true, decide_eq_true_eq, beq_iff_eq] at token
    rcases token with (((upper | lower) | digit) | rfl) | rfl
    · exact Or.inr (Or.inl upper)
    · exact Or.inr (Or.inr (Or.inl lower))
    · exact Or.inl digit
    · exact Or.inr (Or.inr (Or.inr (Or.inl rfl)))
    · exact Or.inr (Or.inr (Or.inr (Or.inr rfl)))
  simp [isJsSpace]
  omega

/-- A run of characters ends where one comes that does not belong to it. -/
theorem run_ends {keep : Char → Bool} {before rest : List Char}
    (kept : ∀ character ∈ before, keep character = true)
    (ends : ∀ character, rest.head? = some character → keep character = false) :
    (before ++ rest).takeWhile keep = before ∧ (before ++ rest).dropWhile keep = rest := by
  rw [List.takeWhile_append_of_pos kept, List.dropWhile_append_of_pos kept]
  cases rest with
  | nil => exact ⟨List.append_nil _, rfl⟩
  | cons character rest =>
      have stop := ends character rfl
      rw [List.takeWhile_cons_of_neg (by rw [stop]; exact Bool.false_ne_true),
        List.dropWhile_cons_of_neg (by rw [stop]; exact Bool.false_ne_true)]
      exact ⟨List.append_nil _, rfl⟩

/-- What follows spaces after a token starts with a space or a brace. -/
theorem brace_or_space {after rest : List Char}
    (spaces : ∀ character ∈ after, isJsSpace character = true) {character : Char}
    (head : (after ++ '\x7d' :: '\x7d' :: rest).head? = some character) :
    isTokenCharacter character = false := by
  cases after with
  | nil =>
      obtain rfl := Option.some.inj head
      decide
  | cons space after =>
      obtain rfl := Option.some.inj head
      cases token : isTokenCharacter space with
      | false => rfl
      | true =>
          have isSpace := spaces space List.mem_cons_self
          rw [token_character_not_space token] at isSpace
          cases isSpace

theorem token_at_iff {text token rest : List Char} :
    tokenAt text = some (token, rest) ↔ TokenOccurs text token rest := by
  constructor
  · intro found
    unfold tokenAt at found
    split at found
    case h_2 => cases found
    case h_1 text =>
      dsimp only at found
      split at found
      case h_2 => cases found
      case h_1 after closed =>
        split_ifs at found with empty
        obtain ⟨rfl, rfl⟩ := Prod.mk.inj (Option.some.inj found)
        generalize isInner : text.dropWhile isJsSpace = inner at *
        refine ⟨text.takeWhile isJsSpace, (inner.dropWhile isTokenCharacter).takeWhile isJsSpace,
          ?_, fun _ member => List.mem_takeWhile_imp member,
          fun _ member => List.mem_takeWhile_imp member, empty,
          fun _ member => List.mem_takeWhile_imp member⟩
        rw [← closed, List.takeWhile_append_dropWhile, List.takeWhile_append_dropWhile, ← isInner,
          List.takeWhile_append_dropWhile]
  · rintro ⟨before, after, rfl, beforeSpaces, afterSpaces, nonempty, characters⟩
    have first : ∀ character, (token ++ (after ++ '\x7d' :: '\x7d' :: rest)).head? =
        some character → isJsSpace character = false := by
      intro character head
      rw [List.head?_append_of_ne_nil _ nonempty] at head
      exact token_character_not_space (characters character (List.mem_of_head? head))
    have inner := run_ends beforeSpaces first
    have name := run_ends characters fun character head =>
      @brace_or_space after rest afterSpaces character head
    have close := @run_ends isJsSpace after ('\x7d' :: '\x7d' :: rest) afterSpaces (by
      intro character head
      obtain rfl := Option.some.inj head
      decide)
    rw [tokenAt, inner.2, name.1, name.2, close.2]
    exact if_neg nonempty

/-- A suffix whose first character is not among the first ones starts after them. -/
theorem suffix_after {character : Char} {text first rest : List Char}
    (suffix : character :: text <:+ first ++ rest) (absent : character ∉ first) :
    character :: text <:+ rest := by
  induction first with
  | nil => exact suffix
  | cons other first induction =>
      rcases List.suffix_cons_iff.mp suffix with same | inner
      · obtain ⟨rfl, _⟩ := List.cons.inj same
        exact absurd List.mem_cons_self absent
      · exact induction inner fun member => absent (List.mem_cons_of_mem _ member)

theorem token_occurs_unique {text token other rest others : List Char}
    (left : TokenOccurs text token rest) (right : TokenOccurs text other others) :
    token = other ∧ rest = others := by
  have same := (token_at_iff.mpr left).symm.trans (token_at_iff.mpr right)
  exact Prod.mk.inj (Option.some.inj same)

theorem token_in_cons {character : Char} {text token : List Char}
    (plain : ∀ token rest, ¬ TokenOccurs (character :: text) token rest) :
    TokenIn (character :: text) token ↔ TokenIn text token := by
  constructor
  · rintro ⟨inner, rest, suffix, occurs⟩
    rcases List.suffix_cons_iff.mp suffix with rfl | later
    · exact absurd occurs (plain token rest)
    · exact ⟨inner, rest, later, occurs⟩
  · rintro ⟨inner, rest, suffix, occurs⟩
    exact ⟨inner, rest, suffix.trans (List.suffix_cons _ _), occurs⟩

/-- No token starts inside another one. -/
theorem token_in_occurs {text token rest other : List Char}
    (occurs : TokenOccurs text token rest) :
    TokenIn text other ↔ other = token ∨ TokenIn rest other := by
  obtain ⟨before, after, split, beforeSpaces, afterSpaces, nonempty, characters⟩ := occurs
  have noBrace : '\x7b' ∉ before ++ (token ++ (after ++ ['\x7d', '\x7d'])) := by
    intro member
    simp only [List.mem_append, List.mem_cons, List.not_mem_nil, or_false] at member
    rcases member with space | named | space | close | close
    · exact absurd (beforeSpaces _ space) (by decide)
    · exact absurd (characters _ named) (by decide)
    · exact absurd (afterSpaces _ space) (by decide)
    · exact absurd close (by decide)
    · exact absurd close (by decide)
  have closed : text =
      '\x7b' :: '\x7b' :: ((before ++ (token ++ (after ++ ['\x7d', '\x7d']))) ++ rest) := by
    rw [split]
    simp only [List.append_assoc, List.cons_append, List.nil_append]
  constructor
  · rintro ⟨inner, others, suffix, again⟩
    have isOther := again
    obtain ⟨before', after', split', _⟩ := again
    rw [closed] at suffix
    rcases List.suffix_cons_iff.mp suffix with same | suffix
    · have whole : TokenOccurs text token rest :=
        ⟨before, after, split, beforeSpaces, afterSpaces, nonempty, characters⟩
      rw [closed, ← same] at whole
      exact Or.inl (token_occurs_unique isOther whole).1
    rcases List.suffix_cons_iff.mp suffix with same | suffix
    · -- the second brace of the inner token would have to follow the second brace
      rw [split'] at same
      have second := List.tail_eq_of_cons_eq same
      have start : '\x7b' ∈ before ++ (token ++ (after ++ ['\x7d', '\x7d'])) := by
        cases head : before ++ (token ++ (after ++ ['\x7d', '\x7d'])) with
        | nil => simp at head
        | cons character tail =>
            rw [head, List.cons_append] at second
            rw [(List.cons.inj second).1]
            exact List.mem_cons_self
      exact absurd start noBrace
    · rw [split'] at suffix
      exact Or.inr ⟨inner, others, split' ▸ suffix_after suffix noBrace, isOther⟩
  · rintro (rfl | ⟨inner, others, suffix, occurs⟩)
    · exact ⟨text, rest, List.suffix_refl _,
        before, after, split, beforeSpaces, afterSpaces, nonempty, characters⟩
    · refine ⟨inner, others, suffix.trans ?_, occurs⟩
      rw [closed]
      exact ((List.suffix_append _ rest).trans (List.suffix_cons _ _)).trans (List.suffix_cons _ _)

theorem token_at_shorter {text token rest : List Char} (found : tokenAt text = some (token, rest)) :
    rest.length < text.length := by
  obtain ⟨before, after, split, _⟩ := token_at_iff.mp found
  rw [split]
  simp only [List.length_cons, List.length_append]
  omega

variable {value : List Char → Option (List Char)}

/-- The replacement scans the template once, and nothing else. -/
theorem replace_tokens_rendering {fuel : Nat} {text output : List Char}
    (enough : text.length ≤ fuel) (rendered : replaceTokens value fuel text = some output) :
    Rendering (fun token segment => value token = some segment) text output := by
  induction fuel generalizing text output with
  | zero =>
      obtain rfl := List.length_eq_zero_iff.mp (Nat.le_zero.mp enough)
      obtain rfl := Option.some.inj rendered
      exact .done
  | succ fuel induction =>
      cases text with
      | nil =>
          obtain rfl := Option.some.inj rendered
          exact .done
      | cons character text =>
          rw [replaceTokens] at rendered
          cases found : tokenAt (character :: text) with
          | none =>
              rw [found] at rendered
              obtain ⟨tail, inner, rfl⟩ := Option.map_eq_some_iff.mp rendered
              refine .literal (fun token rest occurs => ?_)
                (induction (Nat.le_of_succ_le_succ enough) inner)
              cases found.symm.trans (token_at_iff.mpr occurs)
          | some result =>
              obtain ⟨token, rest⟩ := result
              rw [found] at rendered
              obtain ⟨segment, shown, rendered⟩ := Option.bind_eq_some_iff.mp rendered
              obtain ⟨tail, inner, same⟩ := Option.bind_eq_some_iff.mp rendered
              obtain rfl := Option.some.inj same
              have shorter := token_at_shorter found
              exact .token (token_at_iff.mp found) shown
                (induction (by omega) inner)

/-- The replacement fails exactly for a token without a value. -/
theorem replace_tokens_none {fuel : Nat} {text : List Char} (enough : text.length ≤ fuel) :
    replaceTokens value fuel text = none ↔ ∃ token, TokenIn text token ∧ value token = none := by
  have empty : ∀ token, ¬ TokenIn [] token := by
    rintro token ⟨inner, rest, suffix, before, after, split, _⟩
    rw [List.suffix_nil.mp suffix] at split
    cases split
  induction fuel generalizing text with
  | zero =>
      obtain rfl := List.length_eq_zero_iff.mp (Nat.le_zero.mp enough)
      exact ⟨nofun, fun ⟨token, inside, _⟩ => absurd inside (empty token)⟩
  | succ fuel induction =>
      cases text with
      | nil => exact ⟨nofun, fun ⟨token, inside, _⟩ => absurd inside (empty token)⟩
      | cons character text =>
          rw [replaceTokens]
          cases found : tokenAt (character :: text) with
          | none =>
              have plain : ∀ token rest, ¬ TokenOccurs (character :: text) token rest := by
                intro token rest occurs
                cases found.symm.trans (token_at_iff.mpr occurs)
              have inner : replaceTokens value fuel text = none ↔
                  ∃ token, TokenIn text token ∧ value token = none :=
                induction (Nat.le_of_succ_le_succ enough)
              dsimp only
              rw [Option.map_eq_none_iff, inner]
              simp only [token_in_cons plain]
          | some result =>
              obtain ⟨token, rest⟩ := result
              have shorter := token_at_shorter found
              have inner : replaceTokens value fuel rest = none ↔
                  ∃ token, TokenIn rest token ∧ value token = none := induction (by omega)
              have split := fun other => @token_in_occurs _ _ _ other (token_at_iff.mp found)
              dsimp only
              rw [Option.bind_eq_bind]
              cases shown : value token with
              | none =>
                  refine iff_of_true rfl ⟨token, (split token).mpr (Or.inl rfl), shown⟩
              | some segment =>
                  have others : (∃ other, TokenIn rest other ∧ value other = none) ↔
                      ∃ other, TokenIn (character :: text) other ∧ value other = none := by
                    refine exists_congr fun other => ?_
                    rw [split other, or_and_right]
                    refine ⟨Or.inr, fun either => either.resolve_left ?_⟩
                    rintro ⟨rfl, none⟩
                    cases none.symm.trans shown
                  rw [← others, ← inner, Option.bind_some]
                  cases replaceTokens value fuel rest with
                  | none => exact iff_of_true rfl rfl
                  | some tail => exact iff_of_false nofun nofun

end Scans

section Values

variable (numberText : Option Rat → List Char)

/-- `String(value)`, and nothing for `null`. -/
def valueText : Json → Option (List Char)
  | .null => some []
  | .string text => some text.toList
  | .number number => some (numberText number)
  | .bool true => some "true".toList
  | .bool false => some "false".toList
  | .array _ | .object _ => none

/-- What the snapshot holds under the fields that a token names. -/
def snapshotValue (snapshot : Json) (segments : List (List Char)) : Option Json :=
  segments.foldlM (fun value segment => value.field (String.ofList segment)) snapshot

/-- The text of what a token names, if it is a string, a number, a boolean or `null`. -/
def resolved (snapshot : Json) (token : List Char) : Option (List Char) :=
  (snapshotValue snapshot (token.splitOn '.')).bind (valueText numberText)

/-- The token goes on from an object of the snapshot to the prototype of all objects and from
there to its prototype, which is `null`. -/
def ReadsPrototype (snapshot : Json) (segments : List (List Char)) : Prop :=
  ∃ path fields, segments = path ++ ["__proto__".toList, "__proto__".toList] ∧
    snapshotValue snapshot path = some (.object fields) ∧ fields.lookup "__proto__" = none

def walkMembers (start : Member) (segments : List (List Char)) : Option Member :=
  segments.foldlM (fun value segment => Member.read segment value) start

theorem walk_members_cons (start : Member) (segment : List Char) (rest : List (List Char)) :
    walkMembers start (segment :: rest) =
      (Member.read segment start).bind fun next => walkMembers next rest := by
  rw [walkMembers, List.foldlM_cons]
  rfl

theorem snapshot_value_cons (snapshot : Json) (segment : List Char) (rest : List (List Char)) :
    snapshotValue snapshot (segment :: rest) =
      (snapshot.field (String.ofList segment)).bind fun next => snapshotValue next rest := by
  rw [snapshotValue, List.foldlM_cons]
  rfl

/-- A function has no members that a token could read. -/
theorem walk_function {segments : List (List Char)} {json : Json} :
    walkMembers .function segments ≠ some (.value json) := by
  cases segments with
  | nil => nofun
  | cons segment rest =>
      rw [walk_members_cons]
      nofun

theorem walk_prototype {segments : List (List Char)} {json : Json} :
    walkMembers .prototype segments = some (.value json) ↔
      segments = ["__proto__".toList] ∧ json = .null := by
  cases segments with
  | nil => exact ⟨nofun, fun ⟨impossible, _⟩ => nomatch impossible⟩
  | cons segment rest =>
      rw [walk_members_cons]
      by_cases proto : segment = "__proto__".toList
      · have read : Member.read segment .prototype = some (.value .null) := if_pos proto
        rw [read, Option.bind_some, List.cons.injEq]
        cases rest with
        | nil =>
            constructor
            · intro same
              have isNull := Member.value.inj (Option.some.inj same)
              exact ⟨⟨proto, rfl⟩, isNull.symm⟩
            · rintro ⟨_, rfl⟩
              rfl
        | cons next rest =>
            rw [walk_members_cons]
            exact ⟨nofun, fun ⟨⟨_, impossible⟩, _⟩ => nomatch impossible⟩
      · have read : Member.read segment .prototype =
            if inheritedFunctions.contains segment then some .function else none := if_neg proto
        rw [read]
        refine iff_of_false ?_ fun ⟨same, _⟩ => proto (List.cons.inj same).1
        split_ifs
        · exact walk_function
        · nofun

theorem reads_prototype_cons {snapshot : Json} {segment : List Char} {rest : List (List Char)} :
    ReadsPrototype snapshot (segment :: rest) ↔
      (∃ child, snapshot.field (String.ofList segment) = some child ∧
        ReadsPrototype child rest) ∨
      ∃ fields, snapshot = .object fields ∧ fields.lookup "__proto__" = none ∧
        segment = "__proto__".toList ∧ rest = ["__proto__".toList] := by
  constructor
  · rintro ⟨path, fields, split, value, absent⟩
    cases path with
    | nil =>
        obtain ⟨rfl, rfl⟩ := List.cons.inj split
        exact Or.inr ⟨fields, Option.some.inj value, absent, rfl, rfl⟩
    | cons first path =>
        obtain ⟨rfl, rfl⟩ := List.cons.inj split
        rw [snapshot_value_cons] at value
        obtain ⟨child, field, value⟩ := Option.bind_eq_some_iff.mp value
        exact Or.inl ⟨child, field, path, fields, rfl, value, absent⟩
  · rintro (⟨child, field, path, fields, rfl, value, absent⟩ | ⟨fields, rfl, absent, rfl, rfl⟩)
    · refine ⟨segment :: path, fields, rfl, ?_, absent⟩
      rw [snapshot_value_cons, field]
      exact value
    · exact ⟨[], fields, rfl, rfl, absent⟩

/-- A token reads a value of the snapshot, or the prototype of all prototypes. -/
theorem walk_value {segments : List (List Char)} {snapshot json : Json} :
    walkMembers (.value snapshot) segments = some (.value json) ↔
      snapshotValue snapshot segments = some json ∨
        ReadsPrototype snapshot segments ∧ json = .null := by
  induction segments generalizing snapshot with
  | nil =>
      have none : ¬ ReadsPrototype snapshot [] := by
        rintro ⟨path, _, split, _⟩
        simp at split
      constructor
      · intro same
        exact Or.inl (congrArg some (Member.value.inj (Option.some.inj same)))
      · rintro (same | ⟨impossible, _⟩)
        · exact congrArg (fun value => some (Member.value value)) (Option.some.inj same)
        · exact absurd impossible none
  | cons segment rest induction =>
      rw [walk_members_cons, snapshot_value_cons, reads_prototype_cons]
      cases field : snapshot.field (String.ofList segment) with
      | some child =>
          have read : Member.read segment (.value snapshot) = some (.value child) := by
            cases snapshot with
            | object fields =>
                rw [Member.read]
                simp only [Json.field] at field
                rw [field]
            | null | bool | number | string | array => cases field
          have absent : ¬ ∃ fields, snapshot = .object fields ∧
              fields.lookup "__proto__" = none ∧ segment = "__proto__".toList ∧
              rest = ["__proto__".toList] := by
            rintro ⟨fields, rfl, none, rfl, _⟩
            rw [String.ofList_toList] at field
            cases none.symm.trans field
          rw [read, Option.bind_some, induction, Option.bind_some]
          simp only [absent, or_false, Option.some.injEq, exists_eq_left']
      | none =>
          simp only [Option.bind_none, reduceCtorEq, false_and, exists_false, false_or]
          cases snapshot with
          | object fields =>
              simp only [Json.field] at field
              by_cases proto : segment = "__proto__".toList
              · have read : Member.read segment (.value (.object fields)) = some .prototype := by
                  rw [Member.read, field]
                  exact if_pos proto
                rw [proto, String.ofList_toList] at field
                rw [read, Option.bind_some, walk_prototype]
                simp only [Json.object.injEq, exists_eq_left', field, proto, true_and]
              · have read : Member.read segment (.value (.object fields)) =
                    if inheritedFunctions.contains segment then some .function else none := by
                  rw [Member.read, field]
                  exact if_neg proto
                rw [read]
                refine iff_of_false ?_ ?_
                · split_ifs
                  · exact walk_function
                  · nofun
                · rintro ⟨⟨_, _, _, same, _⟩, _⟩
                  exact proto same
          | null | bool | number | string | array =>
              refine iff_of_false nofun ?_
              rintro ⟨⟨_, impossible, _⟩, _⟩
              cases impossible

theorem reads_prototype_unresolved {snapshot : Json} {token : List Char}
    (reads : ReadsPrototype snapshot (token.splitOn '.')) :
    resolved numberText snapshot token = none := by
  obtain ⟨path, fields, split, value, absent⟩ := reads
  have missing : snapshotValue snapshot (path ++ ["__proto__".toList, "__proto__".toList]) =
      none := by
    rw [snapshotValue] at value ⊢
    rw [List.foldlM_append, value, Option.bind_eq_bind, Option.bind_some, List.foldlM_cons,
      String.ofList_toList]
    simp only [Json.field]
    rw [absent]
    rfl
  rw [resolved, split, missing, Option.bind_none]

theorem string_token_some {snapshot : Json} {token text : List Char} :
    stringToken numberText snapshot token = some text ↔
      resolved numberText snapshot token = some text ∨
        ReadsPrototype snapshot (token.splitOn '.') ∧ text = [] := by
  have values : stringToken numberText snapshot token = some text ↔
      ∃ json, walkMembers (.value snapshot) (token.splitOn '.') = some (.value json) ∧
        valueText numberText json = some text := by
    unfold stringToken walkMembers
    generalize (token.splitOn '.').foldlM (fun value segment => Member.read segment value)
      (Member.value snapshot) = member
    constructor
    · intro shown
      match member with
      | some (.value json) =>
          refine ⟨json, rfl, ?_⟩
          cases json with
          | bool value => cases value <;> exact shown
          | null | string | number => exact shown
          | array | object => cases shown
      | some .prototype | some .function | none => cases shown
    · rintro ⟨json, rfl, shown⟩
      cases json with
      | bool value => cases value <;> exact shown
      | null | string | number => exact shown
      | array | object => cases shown
  rw [values, resolved, Option.bind_eq_some_iff]
  simp only [walk_value]
  constructor
  · rintro ⟨json, value | ⟨reads, rfl⟩, shown⟩
    · exact Or.inl ⟨json, value, shown⟩
    · exact Or.inr ⟨reads, (Option.some.inj shown).symm⟩
  · rintro (⟨json, value, shown⟩ | ⟨reads, rfl⟩)
    · exact ⟨json, Or.inl value, shown⟩
    · exact ⟨.null, Or.inr ⟨reads, rfl⟩, rfl⟩

theorem string_token_none {snapshot : Json} {token : List Char} :
    stringToken numberText snapshot token = none ↔
      resolved numberText snapshot token = none ∧
        ¬ ReadsPrototype snapshot (token.splitOn '.') := by
  simp only [Option.eq_none_iff_forall_ne_some, ne_eq, string_token_some, not_or]
  constructor
  · exact fun each => ⟨fun text => (each text).1, fun reads => (each []).2 ⟨reads, rfl⟩⟩
  · exact fun ⟨unresolved, plain⟩ text => ⟨unresolved text, fun reads => plain reads.1⟩

end Values

section Templates

variable (numberText : Option Rat → List Char)

/-- A segment without markup, from which the value of the token is read back. -/
def Shows (snapshot : Json) (token segment : List Char) : Prop :=
  (∀ character ∈ segment, character ∉ markup) ∧
    resolved numberText snapshot token = some (unescapeHtml segment)

/-- The output is the template with its tokens' values, and there is none exactly when a
token does not resolve in the snapshot. -/
structure RendersStrictly (template : List Char) (snapshot : Json) : Prop where
  rendered : ∀ output, renderStrictTemplate numberText template snapshot = some output →
    Rendering (Shows numberText snapshot) template output
  missing : renderStrictTemplate numberText template snapshot = none ↔
    ∃ token, TokenIn template token ∧ resolved numberText snapshot token = none

theorem rendering_mono {shows better : List Char → List Char → Prop}
    {template output : List Char} (rendering : Rendering shows template output)
    (implied : ∀ token segment, TokenIn template token → shows token segment →
      better token segment) : Rendering better template output := by
  induction rendering with
  | done => exact .done
  | literal plain _ induction =>
      exact .literal plain (induction fun token segment inside =>
        implied token segment ((token_in_cons plain).mpr inside))
  | token occurs shown _ induction =>
      have inside := fun other => @token_in_occurs _ _ _ other occurs
      exact .token occurs (implied _ _ ((inside _).mpr (Or.inl rfl)) shown)
        (induction fun token segment later =>
          implied token segment ((inside token).mpr (Or.inr later)))

theorem render_none {template : List Char} {snapshot : Json} :
    renderStrictTemplate numberText template snapshot = none ↔
      ∃ token, TokenIn template token ∧ resolved numberText snapshot token = none ∧
        ¬ ReadsPrototype snapshot (token.splitOn '.') := by
  unfold renderStrictTemplate
  rw [replace_tokens_none (Nat.le_refl _)]
  simp only [Option.map_eq_none_iff, string_token_none]

/-- A template renders strictly unless it reads the prototype of all prototypes, and nothing
in it is missing otherwise. -/
theorem renders_strictly_iff (template : List Char) (snapshot : Json) :
    RendersStrictly numberText template snapshot ↔
      ((∃ token, TokenIn template token ∧ ReadsPrototype snapshot (token.splitOn '.')) →
        ∃ token, TokenIn template token ∧ resolved numberText snapshot token = none ∧
          ¬ ReadsPrototype snapshot (token.splitOn '.')) := by
  constructor
  · rintro strict ⟨token, inside, reads⟩
    refine (render_none numberText).mp (strict.missing.mpr ⟨token, inside, ?_⟩)
    exact reads_prototype_unresolved numberText reads
  · intro accompanied
    refine ⟨?_, ?_⟩
    · intro output rendered
      have shown := replace_tokens_rendering (Nat.le_refl _) rendered
      refine rendering_mono shown fun token segment inside isShown => ?_
      obtain ⟨text, isText, rfl⟩ := Option.map_eq_some_iff.mp isShown
      refine ⟨escape_html_plain text, ?_⟩
      rw [unescape_escape_html]
      refine ((string_token_some numberText).mp isText).resolve_right ?_
      rintro ⟨reads, _⟩
      have none := (render_none numberText).mpr (accompanied ⟨token, inside, reads⟩)
      cases none.symm.trans rendered
    · rw [render_none]
      constructor
      · rintro ⟨token, inside, unresolved, _⟩
        exact ⟨token, inside, unresolved⟩
      · rintro ⟨token, inside, unresolved⟩
        by_cases reads : ReadsPrototype snapshot (token.splitOn '.')
        · exact accompanied ⟨token, inside, reads⟩
        · exact ⟨token, inside, unresolved, reads⟩

/-- `__proto__.__proto__` between braces. -/
def prototypeTemplate : List Char := "\x7b\x7b__proto__.__proto__\x7d\x7d".toList

theorem prototype_token_rendered :
    ¬ ∀ (numberText : Option Rat → List Char) (template : List Char) (snapshot : Json),
      RendersStrictly numberText template snapshot := by
  intro strict
  have rendered : renderStrictTemplate (fun _ => []) prototypeTemplate (.object []) = some [] := by
    decide
  have found : tokenAt prototypeTemplate = some ("__proto__.__proto__".toList, []) := by
    decide
  have unresolved : resolved (fun _ => []) (.object []) "__proto__.__proto__".toList = none := by
    decide
  have none := (strict (fun _ => []) prototypeTemplate (.object [])).missing.mpr
    ⟨_, ⟨_, _, List.suffix_refl _, token_at_iff.mp found⟩, unresolved⟩
  cases none.symm.trans rendered

end Templates

end CommitmentOptimizer.Reports.TemplateRendering
