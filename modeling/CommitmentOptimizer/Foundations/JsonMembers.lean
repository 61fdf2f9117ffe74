import CommitmentOptimizer.Foundations.JsonReader
import CommitmentOptimizer.Foundations.Utf8Decoding

/-!
# The members of an object text

A reader of JSON text that keeps every member of an object with the spelling of its name. Of
members with one name the later wins, and a surrogate that is not part of a pair is read as the
replacement character.
-/

namespace CommitmentOptimizer.Foundations.JsonMembers

open JsonReader
open SqlConstraints
open Utf8Decoding

set_option autoImplicit false

section Names

/-- What stands before the closing quotation mark, and what follows it. -/
def closeQuote : List Char → Option (List Char × List Char)
  | [] => none
  | '"' :: rest => some ([], rest)
  | '\\' :: escaped :: rest =>
      (closeQuote rest).map fun (spelling, rest) => ('\\' :: escaped :: spelling, rest)
  | character :: rest =>
      (closeQuote rest).map fun (spelling, rest) => (character :: spelling, rest)

/-- The text that a spelling between quotation marks stands for. -/
def unescape : List Char → Option (List Char)
  | [] => some []
  | '\\' :: 'u' :: first :: second :: third :: fourth :: rest =>
      match hexFour first second third fourth with
      | none => none
      | some code =>
          if isHighSurrogate code then
            match rest with
            | '\\' :: 'u' :: lowFirst :: lowSecond :: lowThird :: lowFourth :: after =>
                match hexFour lowFirst lowSecond lowThird lowFourth with
                | none => none
                | some low =>
                    if isLowSurrogate low then
                      (unescape after).map fun text =>
                        Char.ofNat (0x10000 + (code - 0xd800) * 0x400 + (low - 0xdc00)) :: text
                    else
                      (unescape ('\\' :: 'u' :: lowFirst :: lowSecond :: lowThird :: lowFourth ::
                        after)).map fun text => replacement :: text
            | rest => (unescape rest).map fun text => replacement :: text
          else if isLowSurrogate code then
            (unescape rest).map fun text => replacement :: text
          else (unescape rest).map fun text => Char.ofNat code :: text
  | '\\' :: escaped :: rest =>
      match simpleEscape escaped with
      | none => none
      | some character => (unescape rest).map fun text => character :: text
  | character :: rest =>
      if character.toNat < 0x20 || character = '"' || character = '\\' then none
      else (unescape rest).map fun text => character :: text

end Names

section Reader

/-- A name as it is spelled, with the text it stands for. -/
structure Spelled where
  spelling : List Char
  text : List Char
  spells : unescape spelling = some text

/-- A quoted text from behind its first quotation mark. -/
def readSpelled (text : List Char) : Option (Spelled × List Char) :=
  (closeQuote text).bind fun closed =>
    match spells : unescape closed.1 with
    | none => none
    | some text => some (⟨closed.1, text, spells⟩, closed.2)

structure Member where
  name : Spelled
  value : Json

def Member.key (member : Member) : String := String.ofList member.name.text

/-- `object[name] = value`. -/
def assign (fields : List (String × Json)) (member : Member) : List (String × Json) :=
  if fields.any fun field => field.1 = member.key then
    fields.map fun field => if field.1 = member.key then (member.key, member.value) else field
  else fields ++ [(member.key, member.value)]

def laterWins (members : List Member) : List (String × Json) := members.foldl assign []

def readMemberName (text : List Char) : Option (Spelled × List Char) :=
  match skipSpace text with
  | '"' :: rest =>
      match readSpelled rest with
      | none => none
      | some (name, rest) =>
          match skipSpace rest with
          | ':' :: rest => some (name, rest)
          | _ => none
  | _ => none

variable (readNumber : List Char → Option (Option Rat × List Char))

mutual

/-- A value and what follows it. The fuel is at least the length of the value. -/
def readValue : Nat → List Char → Option (Json × List Char)
  | 0, _ => none
  | fuel + 1, text =>
      match skipSpace text with
      | 'n' :: 'u' :: 'l' :: 'l' :: rest => some (.null, rest)
      | 't' :: 'r' :: 'u' :: 'e' :: rest => some (.bool true, rest)
      | 'f' :: 'a' :: 'l' :: 's' :: 'e' :: rest => some (.bool false, rest)
      | '"' :: rest =>
          (readSpelled rest).map fun (spelled, rest) => (.string (String.ofList spelled.text), rest)
      | '[' :: rest =>
          match skipSpace rest with
          | ']' :: rest => some (.array [], rest)
          | rest => (readItems fuel rest).map fun (items, rest) => (.array items, rest)
      | '\x7b' :: rest =>
          match skipSpace rest with
          | '\x7d' :: rest => some (.object [], rest)
          | rest =>
              (readMembers fuel rest).map fun (members, rest) => (.object (laterWins members), rest)
      | text => (readNumber text).map fun (number, rest) => (.number number, rest)

/-- The items from the first one to the closing bracket. -/
def readItems : Nat → List Char → Option (List Json × List Char)
  | 0, _ => none
  | fuel + 1, text =>
      match readValue fuel text with
      | none => none
      | some (item, rest) =>
          match skipSpace rest with
          | ']' :: rest => some ([item], rest)
          | ',' :: rest => (readItems fuel rest).map fun (items, rest) => (item :: items, rest)
          | _ => none

/-- The members from the first one to the closing brace. -/
def readMembers : Nat → List Char → Option (List Member × List Char)
  | 0, _ => none
  | fuel + 1, text =>
      match readMemberName text with
      | none => none
      | some (name, rest) =>
          match readValue fuel rest with
          | none => none
          | some (value, rest) =>
              match skipSpace rest with
              | '\x7d' :: rest => some ([⟨name, value⟩], rest)
              | ',' :: rest =>
                  (readMembers fuel rest).map fun (members, rest) => (⟨name, value⟩ :: members, rest)
              | _ => none

end

/-- `JSON.parse(text)`; `none` where it throws. -/
def parseJson (text : List Char) : Option Json :=
  match readValue readNumber (text.length + 1) text with
  | some (value, rest) => if skipSpace rest = [] then some value else none
  | none => none

/-- The members of a text that is an object, repeated ones too. -/
def objectMembers (text : List Char) : Option (List Member) :=
  match skipSpace text with
  | '\x7b' :: rest =>
      match skipSpace rest with
      | '\x7d' :: rest => if skipSpace rest = [] then some [] else none
      | rest =>
          match readMembers readNumber text.length rest with
          | some (members, rest) => if skipSpace rest = [] then some members else none
          | none => none
  | _ => none

end Reader

section Spellings

/-- The characters that escapes are made of are allowed, and where the escaped character is
allowed the letter of its escape. -/
structure AllowsEscapes (allowed : Char → Prop) : Prop where
  digits : ∀ character value, hexDigit character = some value → allowed character
  backslash : allowed '\\'
  unicode : allowed 'u'
  simple : ∀ escaped character, simpleEscape escaped = some character → allowed character →
    allowed escaped

variable {allowed : Char → Prop}

theorem unicode_escape_allowed (escapes : AllowsEscapes allowed)
    {first second third fourth : Char} {code : Nat}
    (hex : hexFour first second third fourth = some code) {rest : List Char}
    (onward : ∀ character ∈ rest, allowed character) :
    ∀ character ∈ '\\' :: 'u' :: first :: second :: third :: fourth :: rest,
      allowed character := by
  obtain ⟨_, one, hex⟩ := Option.bind_eq_some_iff.mp hex
  obtain ⟨_, two, hex⟩ := Option.bind_eq_some_iff.mp hex
  obtain ⟨_, three, hex⟩ := Option.bind_eq_some_iff.mp hex
  obtain ⟨_, four, _⟩ := Option.bind_eq_some_iff.mp hex
  simp only [List.forall_mem_cons]
  exact ⟨escapes.backslash, escapes.unicode, escapes.digits _ _ one, escapes.digits _ _ two,
    escapes.digits _ _ three, escapes.digits _ _ four, onward⟩

/-- How a spelling goes on behind the first character that is read. -/
inductive Reads : List Char → Char → List Char → Prop
  | plain {character : Char} {rest : List Char} (unescaped : character ≠ '\\') :
      Reads (character :: rest) character rest
  | simple {escaped character : Char} {rest : List Char}
      (escape : simpleEscape escaped = some character) :
      Reads ('\\' :: escaped :: rest) character rest
  | unicode {first second third fourth : Char} {code : Nat} {rest : List Char} (character : Char)
      (hex : hexFour first second third fourth = some code) :
      Reads ('\\' :: 'u' :: first :: second :: third :: fourth :: rest) character rest
  | pair {first second third fourth lowFirst lowSecond lowThird lowFourth : Char}
      {code low : Nat} {rest : List Char} (character : Char)
      (hex : hexFour first second third fourth = some code)
      (lowHex : hexFour lowFirst lowSecond lowThird lowFourth = some low) :
      Reads ('\\' :: 'u' :: first :: second :: third :: fourth ::
        '\\' :: 'u' :: lowFirst :: lowSecond :: lowThird :: lowFourth :: rest) character rest

theorem reads_mapped {spelling rest text : List Char} {character : Char}
    (reads : Reads spelling character rest)
    (mapped : (unescape rest).map (character :: ·) = some text) :
    ∃ character rest tail, Reads spelling character rest ∧ unescape rest = some tail ∧
      text = character :: tail := by
  obtain ⟨tail, read, same⟩ := Option.map_eq_some_iff.mp mapped
  exact ⟨character, rest, tail, reads, read, same.symm⟩

/-- A spelling is read one character after the other. -/
theorem unescape_reads {spelling text : List Char} (spells : unescape spelling = some text) :
    (spelling = [] ∧ text = []) ∨
      ∃ character rest tail, Reads spelling character rest ∧ unescape rest = some tail ∧
        text = character :: tail := by
  unfold unescape at spells
  split at spells
  · exact Or.inl ⟨rfl, (Option.some.inj spells).symm⟩
  · refine Or.inr ?_
    split at spells
    · cases spells
    · rename_i code hex
      split_ifs at spells
      · split at spells
        · split at spells
          · cases spells
          · rename_i low lowHex
            split_ifs at spells
            · exact reads_mapped (.pair _ hex lowHex) spells
            · exact reads_mapped (.unicode _ hex) spells
        · exact reads_mapped (.unicode _ hex) spells
      · exact reads_mapped (.unicode _ hex) spells
      · exact reads_mapped (.unicode _ hex) spells
  · refine Or.inr ?_
    split at spells
    · cases spells
    · rename_i character escape
      exact reads_mapped (.simple escape) spells
  · refine Or.inr ?_
    split_ifs at spells with special
    simp only [Bool.or_eq_true, decide_eq_true_eq, not_or] at special
    exact reads_mapped (.plain special.2) spells

/-- A spelling of a text of allowed characters is made of allowed characters. -/
theorem spelled_characters (escapes : AllowsEscapes allowed) {spelling text : List Char}
    (spells : unescape spelling = some text) (plain : ∀ character ∈ text, allowed character) :
    ∀ character ∈ spelling, allowed character := by
  induction text generalizing spelling with
  | nil =>
      rcases unescape_reads spells with ⟨rfl, -⟩ | ⟨_, _, _, _, _, same⟩
      · exact fun _ member => absurd member List.not_mem_nil
      · cases same
  | cons character tail induction =>
      rcases unescape_reads spells with ⟨-, same⟩ | ⟨_, rest, _, reads, read, same⟩
      · cases same
      · obtain ⟨rfl, rfl⟩ := List.cons.inj same
        obtain ⟨found, others⟩ := List.forall_mem_cons.mp plain
        have onward := induction read others
        cases reads with
        | plain => exact List.forall_mem_cons.mpr ⟨found, onward⟩
        | simple escape =>
            exact List.forall_mem_cons.mpr ⟨escapes.backslash,
              List.forall_mem_cons.mpr ⟨escapes.simple _ _ escape found, onward⟩⟩
        | unicode _ hex => exact unicode_escape_allowed escapes hex onward
        | pair _ hex lowHex =>
            exact unicode_escape_allowed escapes hex (unicode_escape_allowed escapes lowHex onward)

/-- A text without quotation marks is spelled without them. -/
theorem spelled_without_quotes {spelling text : List Char}
    (spells : unescape spelling = some text) (plain : '"' ∉ text) : '"' ∉ spelling := by
  have escapes : AllowsEscapes fun character => character ≠ '"' := by
    refine ⟨?_, by decide, by decide, ?_⟩
    · rintro character value digit rfl
      cases digit
    · rintro escaped character simple allowed rfl
      exact allowed (Option.some.inj simple).symm
  intro member
  exact spelled_characters escapes spells (fun character inside same =>
    plain (same ▸ inside)) _ member rfl

theorem simple_escape_ascii {escaped character : Char}
    (simple : simpleEscape escaped = some character) : escaped.toNat < 0x80 := by
  unfold simpleEscape at simple
  split at simple <;> first | decide | cases simple

theorem hex_digit_ascii {character : Char} {value : Nat}
    (digit : hexDigit character = some value) : character.toNat < 0x80 := by
  unfold hexDigit at digit
  dsimp only at digit
  split_ifs at digit <;> omega

/-- An ASCII text is spelled in ASCII. -/
theorem spelled_in_ascii {spelling text : List Char} (spells : unescape spelling = some text)
    (ascii : isAscii text = true) : isAscii spelling = true := by
  have escapes : AllowsEscapes fun character => decide (character.toNat < 0x80) = true :=
    ⟨fun _ _ digit => decide_eq_true (hex_digit_ascii digit), by decide, by decide,
      fun _ _ simple _ => decide_eq_true (simple_escape_ascii simple)⟩
  exact List.all_eq_true.mpr (spelled_characters escapes spells (List.all_eq_true.mp ascii))

/-- A spelling without escapes stands for itself. -/
theorem plain_spelling {spelling text : List Char} (spells : unescape spelling = some text)
    (plain : '\\' ∉ spelling) : text = spelling := by
  induction text generalizing spelling with
  | nil =>
      rcases unescape_reads spells with ⟨rfl, -⟩ | ⟨_, _, _, _, _, same⟩
      · rfl
      · cases same
  | cons character tail induction =>
      rcases unescape_reads spells with ⟨-, same⟩ | ⟨_, rest, _, reads, read, same⟩
      · cases same
      · obtain ⟨rfl, rfl⟩ := List.cons.inj same
        cases reads with
        | plain => rw [induction read fun member => plain (List.mem_cons_of_mem _ member)]
        | simple | unicode | pair => exact absurd List.mem_cons_self plain

end Spellings

section Texts

theorem close_quote_text {text spelling rest : List Char}
    (closed : closeQuote text = some (spelling, rest)) : text = spelling ++ '"' :: rest := by
  fun_induction closeQuote text generalizing spelling rest with
  | case1 => cases closed
  | case2 =>
      obtain ⟨rfl, rfl⟩ := Prod.mk.inj (Option.some.inj closed)
      rfl
  | case3 escaped tail later =>
      obtain ⟨⟨spelled, after⟩, read, same⟩ := Option.map_eq_some_iff.mp closed
      obtain ⟨rfl, rfl⟩ := Prod.mk.inj same
      rw [later read]
      rfl
  | case4 character tail _ _ later =>
      obtain ⟨⟨spelled, after⟩, read, same⟩ := Option.map_eq_some_iff.mp closed
      obtain ⟨rfl, rfl⟩ := Prod.mk.inj same
      rw [later read]
      rfl

theorem read_spelled_text {text rest : List Char} {spelled : Spelled}
    (read : readSpelled text = some (spelled, rest)) : text = spelled.spelling ++ '"' :: rest := by
  obtain ⟨⟨spelling, after⟩, closed, found⟩ := Option.bind_eq_some_iff.mp read
  dsimp only at found
  split at found
  · cases found
  · obtain ⟨rfl, rfl⟩ := Prod.mk.inj (Option.some.inj found)
    exact close_quote_text closed

/-- The white space in front of a token. -/
theorem skip_space_split (text : List Char) :
    ∃ spaces, (∀ character ∈ spaces, isJsonSpace character = true) ∧
      text = spaces ++ skipSpace text :=
  ⟨text.takeWhile isJsonSpace, fun _ => List.mem_takeWhile_imp,
    List.takeWhile_append_dropWhile.symm⟩

theorem skip_space_suffix (text : List Char) : skipSpace text <:+ text := List.dropWhile_suffix _

/-- A name with its colon, as it stands in a text. -/
structure NameText (name : Spelled) (text rest : List Char) : Prop where
  layout : ∃ before between, (∀ character ∈ before, isJsonSpace character = true) ∧
    (∀ character ∈ between, isJsonSpace character = true) ∧
    text = before ++ '"' :: (name.spelling ++ '"' :: (between ++ ':' :: rest))

theorem read_member_name_text {text rest : List Char} {name : Spelled}
    (read : readMemberName text = some (name, rest)) : NameText name text rest := by
  unfold readMemberName at read
  split at read
  case h_2 => cases read
  case h_1 quoted opened =>
    split at read
    case h_1 => cases read
    case h_2 spelled after readName =>
      split at read
      case h_2 => cases read
      case h_1 onward colon =>
        obtain ⟨rfl, rfl⟩ := Prod.mk.inj (Option.some.inj read)
        obtain ⟨before, blank, split⟩ := skip_space_split text
        obtain ⟨between, blankBetween, splitBetween⟩ := skip_space_split after
        refine ⟨before, between, blank, blankBetween, ?_⟩
        rw [← colon, ← splitBetween, ← read_spelled_text readName, ← opened, ← split]

variable {readNumber : List Char → Option (Option Rat × List Char)}

/-- What one member of an object was read from. -/
theorem read_members_cases {fuel : Nat} {text rest : List Char} {members : List Member}
    (read : readMembers readNumber fuel text = some (members, rest)) :
    ∃ less name afterName value afterValue, fuel = less + 1 ∧
      readMemberName text = some (name, afterName) ∧
      readValue readNumber less afterName = some (value, afterValue) ∧
      ((skipSpace afterValue = '\x7d' :: rest ∧ members = [⟨name, value⟩]) ∨
        ∃ onward others, skipSpace afterValue = ',' :: onward ∧
          readMembers readNumber less onward = some (others, rest) ∧
          members = ⟨name, value⟩ :: others) := by
  cases fuel with
  | zero => cases read
  | succ less =>
      unfold readMembers at read
      split at read
      case h_1 => cases read
      case h_2 name afterName readName =>
        split at read
        case h_1 => cases read
        case h_2 value afterValue readValue =>
          refine ⟨less, name, afterName, value, afterValue, rfl, readName, readValue, ?_⟩
          split at read
          case h_1 after closed =>
            obtain ⟨rfl, rfl⟩ := Prod.mk.inj (Option.some.inj read)
            exact Or.inl ⟨closed, rfl⟩
          case h_2 onward comma =>
            obtain ⟨⟨others, last⟩, later, same⟩ := Option.map_eq_some_iff.mp read
            obtain ⟨rfl, rfl⟩ := Prod.mk.inj same
            exact Or.inr ⟨onward, others, comma, later, rfl⟩
          case h_3 => cases read

theorem read_members_nonempty {fuel : Nat} {text rest : List Char} {members : List Member}
    (read : readMembers readNumber fuel text = some (members, rest)) : members ≠ [] := by
  obtain ⟨_, _, _, _, _, -, -, -, ⟨-, rfl⟩ | ⟨_, _, -, -, rfl⟩⟩ := read_members_cases read
  · exact List.cons_ne_nil _ _
  · exact List.cons_ne_nil _ _

/-- What is left of a text is an end of it. -/
def LeavesEnd {Result : Type} (reader : List Char → Option (Result × List Char)) : Prop :=
  ∀ {text rest result}, reader text = some (result, rest) → rest <:+ text

theorem end_after_token {text rest token last : List Char}
    (opened : skipSpace text = token ++ rest) (shorter : last <:+ rest) : last <:+ text :=
  (shorter.trans ((List.suffix_append token rest).trans (opened ▸ List.suffix_rfl))).trans
    (skip_space_suffix text)

theorem read_spelled_end : LeavesEnd readSpelled := by
  intro text rest spelled read
  exact ⟨spelled.spelling ++ ['"'], by rw [read_spelled_text read, List.append_assoc]; rfl⟩

theorem read_member_name_end : LeavesEnd readMemberName := by
  intro text rest name read
  obtain ⟨before, between, -, -, split⟩ := (read_member_name_text read).layout
  refine ⟨before ++ '"' :: (name.spelling ++ '"' :: (between ++ [':'])), ?_⟩
  rw [split]
  simp only [List.append_assoc, List.cons_append, List.nil_append]

/-- What a reader of items or members leaves behind, where the container may be empty. -/
theorem container_end {Result : Type} {text rest last : List Char} {opening closing : Char}
    {empty : Json} {filled : Result → Json} {value : Json}
    {reader : List Char → Option (Result × List Char)} (ends : LeavesEnd reader)
    (opened : skipSpace text = opening :: rest)
    (closed : (∃ after, skipSpace rest = closing :: after ∧ some (empty, after) =
        some (value, last)) ∨
      (reader (skipSpace rest)).map (fun (found, after) => (filled found, after)) =
        some (value, last)) :
    last <:+ text := by
  refine @end_after_token text rest [opening] last opened ?_
  rcases closed with ⟨after, brace, same⟩ | read
  · cases same
    exact @end_after_token rest last [closing] last brace List.suffix_rfl
  · obtain ⟨⟨found, after⟩, read, same⟩ := Option.map_eq_some_iff.mp read
    cases same
    exact (ends read).trans (skip_space_suffix rest)

mutual

theorem read_value_end (numbers : LeavesEnd readNumber) (fuel : Nat) :
    LeavesEnd (readValue readNumber fuel) := by
  intro text rest value read
  cases fuel with
  | zero => cases read
  | succ less =>
      unfold readValue at read
      split at read
      case h_1 after token =>
        cases read
        exact @end_after_token text rest ['n', 'u', 'l', 'l'] rest token List.suffix_rfl
      case h_2 after token =>
        cases read
        exact @end_after_token text rest ['t', 'r', 'u', 'e'] rest token List.suffix_rfl
      case h_3 after token =>
        cases read
        exact @end_after_token text rest ['f', 'a', 'l', 's', 'e'] rest token List.suffix_rfl
      case h_4 after token =>
        obtain ⟨⟨spelled, last⟩, quoted, same⟩ := Option.map_eq_some_iff.mp read
        cases same
        exact @end_after_token text after ['"'] rest token (read_spelled_end quoted)
      case h_5 after token =>
        refine @container_end _ text after rest _ ']' (.array []) Json.array value _
          (read_items_end numbers less) token ?_
        split at read
        case h_1 last closed => exact Or.inl ⟨last, closed, read⟩
        case h_2 => exact Or.inr read
      case h_6 after token =>
        refine @container_end _ text after rest _ '\x7d' (.object [])
          (fun members => .object (laterWins members)) value _
          (read_members_end numbers less) token ?_
        split at read
        case h_1 last closed => exact Or.inl ⟨last, closed, read⟩
        case h_2 => exact Or.inr read
      case h_7 =>
        obtain ⟨⟨number, last⟩, digits, same⟩ := Option.map_eq_some_iff.mp read
        cases same
        exact (numbers digits).trans (skip_space_suffix text)

theorem read_items_end (numbers : LeavesEnd readNumber) (fuel : Nat) :
    LeavesEnd (readItems readNumber fuel) := by
  intro text rest items read
  cases fuel with
  | zero => cases read
  | succ less =>
      unfold readItems at read
      split at read
      case h_1 => cases read
      case h_2 item afterItem readItem =>
        have itemEnd := read_value_end numbers less readItem
        split at read
        case h_1 after closed =>
          cases read
          exact (@end_after_token afterItem rest [']'] rest closed List.suffix_rfl).trans itemEnd
        case h_2 onward comma =>
          obtain ⟨⟨others, last⟩, later, same⟩ := Option.map_eq_some_iff.mp read
          cases same
          exact (@end_after_token afterItem onward [','] rest comma
            (read_items_end numbers less later)).trans itemEnd
        case h_3 => cases read

theorem read_members_end (numbers : LeavesEnd readNumber) (fuel : Nat) :
    LeavesEnd (readMembers readNumber fuel) := by
  intro text rest members read
  cases fuel with
  | zero => cases read
  | succ fuel =>
      obtain ⟨less, name, afterName, value, afterValue, same, readName, readValue, outcome⟩ :=
        read_members_cases read
      cases same
      have valueEnd := (read_value_end numbers fuel readValue).trans (read_member_name_end readName)
      rcases outcome with ⟨closed, -⟩ | ⟨onward, others, comma, later, -⟩
      · exact (@end_after_token afterValue rest ['\x7d'] rest closed List.suffix_rfl).trans valueEnd
      · exact (@end_after_token afterValue onward [','] rest comma
          (read_members_end numbers fuel later)).trans valueEnd

end

theorem read_string_value {fuel : Nat} {text rest : List Char} {content : String}
    (read : readValue readNumber fuel text = some (.string content, rest)) :
    ∃ before, ∃ spelled : Spelled, (∀ character ∈ before, isJsonSpace character = true) ∧
      text = before ++ '"' :: (spelled.spelling ++ '"' :: rest) ∧
      String.ofList spelled.text = content := by
  cases fuel with
  | zero => cases read
  | succ less =>
      unfold readValue at read
      split at read
      case h_1 | h_2 | h_3 => cases read
      case h_4 quoted opened =>
        obtain ⟨⟨spelled, last⟩, closed, same⟩ := Option.map_eq_some_iff.mp read
        cases same
        obtain ⟨before, blank, split⟩ := skip_space_split text
        refine ⟨before, spelled, blank, ?_, rfl⟩
        rw [← read_spelled_text closed, ← opened, ← split]
      case h_5 after token =>
        split at read
        case h_1 => cases read
        case h_2 =>
          obtain ⟨_, -, same⟩ := Option.map_eq_some_iff.mp read
          cases same
      case h_6 after token =>
        split at read
        case h_1 => cases read
        case h_2 =>
          obtain ⟨_, -, same⟩ := Option.map_eq_some_iff.mp read
          cases same
      case h_7 =>
        obtain ⟨_, -, same⟩ := Option.map_eq_some_iff.mp read
        cases same

/-- An object is what its members come to. -/
theorem parse_object {text : List Char} {fields : List (String × Json)}
    (parsed : parseJson readNumber text = some (.object fields)) :
    ∃ members, objectMembers readNumber text = some members ∧ fields = laterWins members := by
  unfold parseJson at parsed
  split at parsed
  case h_2 => cases parsed
  case h_1 value rest read =>
    split_ifs at parsed with ended
    cases parsed
    unfold readValue at read
    split at read
    case h_1 | h_2 | h_3 => cases read
    case h_4 =>
      obtain ⟨_, -, same⟩ := Option.map_eq_some_iff.mp read
      cases same
    case h_5 after token =>
      split at read
      case h_1 => cases read
      case h_2 =>
        obtain ⟨_, -, same⟩ := Option.map_eq_some_iff.mp read
        cases same
    case h_7 =>
      obtain ⟨_, -, same⟩ := Option.map_eq_some_iff.mp read
      cases same
    case h_6 after token =>
      split at read
      case h_1 last closed =>
        cases read
        refine ⟨[], ?_, rfl⟩
        unfold objectMembers
        rw [token]
        change (match skipSpace after with | '\x7d' :: rest => _ | rest => _) = _
        rw [closed]
        exact if_pos ended
      case h_2 filled =>
        obtain ⟨⟨members, last⟩, found, same⟩ := Option.map_eq_some_iff.mp read
        cases same
        refine ⟨members, ?_, rfl⟩
        unfold objectMembers
        rw [token]
        change (match skipSpace after with | '\x7d' :: rest => _ | rest => _) = _
        split
        case h_1 last closed => exact absurd closed (filled last)
        case h_2 => rw [found]; exact if_pos ended

/-- An object is empty, or its members were read from behind its brace. -/
theorem object_members_cases {text : List Char} {members : List Member}
    (read : objectMembers readNumber text = some members) :
    ∃ inside, skipSpace text = '\x7b' :: inside ∧ (members = [] ∨ ∃ rest,
      readMembers readNumber text.length (skipSpace inside) = some (members, rest) ∧
      skipSpace rest = []) := by
  unfold objectMembers at read
  split at read
  case h_2 => cases read
  case h_1 inside opened =>
    refine ⟨inside, opened, ?_⟩
    split at read
    case h_1 =>
      split_ifs at read
      exact Or.inl (Option.some.inj read).symm
    case h_2 =>
      split at read
      case h_2 => cases read
      case h_1 found rest onward =>
        split_ifs at read with ended
        exact Or.inr ⟨rest, (Option.some.inj read) ▸ onward, ended⟩

end Texts

section Winners

def HasName (name : String) (fields : List (String × Json)) : Prop :=
  ∃ value, (name, value) ∈ fields

theorem assign_from {fields : List (String × Json)} {member : Member} {field : String × Json}
    (found : field ∈ assign fields member) :
    field ∈ fields ∨ (member.key, member.value) = field := by
  unfold assign at found
  split_ifs at found
  · obtain ⟨former, inside, same⟩ := List.mem_map.mp found
    split_ifs at same
    · exact Or.inr same
    · exact Or.inl (same ▸ inside)
  · exact (List.mem_append.mp found).imp_right fun single => (List.mem_singleton.mp single).symm

theorem assign_has_name {fields : List (String × Json)} {member : Member} {name : String}
    (known : HasName name fields ∨ member.key = name) : HasName name (assign fields member) := by
  unfold assign
  split_ifs with repeated
  · obtain ⟨former, inside, same⟩ := List.any_eq_true.mp repeated
    rcases known with ⟨value, stored⟩ | rfl
    · by_cases replaced : name = member.key
      · exact ⟨member.value, List.mem_map.mpr ⟨(name, value), stored, by rw [if_pos replaced,
          replaced]⟩⟩
      · exact ⟨value, List.mem_map.mpr ⟨(name, value), stored, if_neg replaced⟩⟩
    · exact ⟨member.value, List.mem_map.mpr ⟨former, inside, if_pos (of_decide_eq_true same)⟩⟩
  · rcases known with ⟨value, stored⟩ | rfl
    · exact ⟨value, List.mem_append_left _ stored⟩
    · exact ⟨member.value, List.mem_append_right _ List.mem_cons_self⟩

/-- Every field of the object is one of the members. -/
theorem later_wins_from {members : List Member} {field : String × Json}
    (found : field ∈ laterWins members) :
    ∃ member ∈ members, (member.key, member.value) = field := by
  have general : ∀ fields : List (String × Json), field ∈ members.foldl assign fields →
      field ∈ fields ∨ ∃ member ∈ members, (member.key, member.value) = field := by
    clear found
    induction members with
    | nil => exact fun _ => Or.inl
    | cons member members induction =>
        intro fields found
        rcases induction _ found with former | ⟨later, inside, same⟩
        · exact (assign_from former).imp_right fun same => ⟨member, List.mem_cons_self, same⟩
        · exact Or.inr ⟨later, List.mem_cons_of_mem _ inside, same⟩
  exact (general [] found).resolve_left List.not_mem_nil

/-- The object has the name of every member. -/
theorem later_wins_names {members : List Member} {member : Member} (inside : member ∈ members) :
    HasName member.key (laterWins members) := by
  have general : ∀ fields : List (String × Json),
      (HasName member.key fields ∨ ∃ other ∈ members, other.key = member.key) →
      HasName member.key (members.foldl assign fields) := by
    clear inside
    induction members with
    | nil =>
        intro fields known
        rcases known with former | ⟨_, none, _⟩
        · exact former
        · cases none
    | cons other members induction =>
        intro fields known
        refine induction _ ?_
        rcases known with former | ⟨later, found, same⟩
        · exact Or.inl (assign_has_name (Or.inl former))
        · rcases List.mem_cons.mp found with rfl | found
          · exact Or.inl (assign_has_name (Or.inr same))
          · exact Or.inr ⟨later, found, same⟩
  exact general [] (Or.inr ⟨member, inside, rfl⟩)

end Winners

end CommitmentOptimizer.Foundations.JsonMembers
