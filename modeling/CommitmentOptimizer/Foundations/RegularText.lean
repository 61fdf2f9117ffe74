import Mathlib.Computability.RegularExpressions
import Mathlib.Data.List.Chain

/-!
# Character classes in regular expressions

The languages of the patterns that a text format is usually given by: a class of
symbols, repetitions of a class, and words of a class joined by a separator.
-/

namespace CommitmentOptimizer.Foundations.RegularText

open RegularExpression

set_option autoImplicit false

variable {Symbol : Type}

/-- `[…]`. -/
def oneOf (symbols : List Symbol) : RegularExpression Symbol :=
  symbols.foldr (fun symbol pattern => char symbol + pattern) 0

/-- `(…)+`. -/
def repeated (pattern : RegularExpression Symbol) : RegularExpression Symbol :=
  pattern * pattern.star

/-- `(…)?`. -/
def atMostOnce (pattern : RegularExpression Symbol) : RegularExpression Symbol := 1 + pattern

section Classes

variable {symbols first rest : List Symbol} {pattern : RegularExpression Symbol}
  {word : List Symbol}

theorem mem_one_of :
    word ∈ (oneOf symbols).matches' ↔ ∃ symbol ∈ symbols, word = [symbol] := by
  induction symbols with
  | nil => exact iff_of_false (Language.notMem_zero word) (by simp)
  | cons head tail induction =>
      change word ∈ (char head).matches' + (oneOf tail).matches' ↔ _
      rw [Language.mem_add, induction, List.exists_mem_cons_iff]
      rfl

theorem mem_class_then {language : Language Symbol} :
    word ∈ (oneOf symbols).matches' * language ↔
      ∃ head tail, word = head :: tail ∧ head ∈ symbols ∧ tail ∈ language := by
  rw [Language.mem_mul]
  constructor
  · rintro ⟨start, inClass, tail, inLanguage, rfl⟩
    obtain ⟨head, member, rfl⟩ := mem_one_of.mp inClass
    exact ⟨head, tail, rfl, member, inLanguage⟩
  · rintro ⟨head, tail, rfl, member, inLanguage⟩
    exact ⟨[head], mem_one_of.mpr ⟨head, member, rfl⟩, tail, inLanguage, rfl⟩

/-- A repetition is empty or a first match and a repetition. -/
theorem mem_star_iff : word ∈ pattern.star.matches' ↔
    word = [] ∨ word ∈ pattern.matches' * pattern.star.matches' := by
  rw [matches'_star, ← Language.one_add_self_mul_kstar_eq_kstar, Language.mem_add,
    Language.mem_one, Language.one_add_self_mul_kstar_eq_kstar]

theorem mem_star_one_of :
    word ∈ (oneOf symbols).star.matches' ↔ ∀ symbol ∈ word, symbol ∈ symbols := by
  induction word with
  | nil => exact iff_of_true (mem_star_iff.mpr (Or.inl rfl)) (by simp)
  | cons head tail induction =>
      rw [mem_star_iff, mem_class_then, List.forall_mem_cons, ← induction]
      constructor
      · rintro (empty | ⟨_, _, same, member, inside⟩)
        · cases empty
        · obtain ⟨rfl, rfl⟩ := List.cons.inj same
          exact ⟨member, inside⟩
      · rintro ⟨member, inside⟩
        exact Or.inr ⟨head, tail, rfl, member, inside⟩

theorem mem_one_of_then_star :
    word ∈ (oneOf first * (oneOf rest).star).matches' ↔
      ∃ head tail, word = head :: tail ∧ head ∈ first ∧ ∀ symbol ∈ tail, symbol ∈ rest := by
  rw [matches'_mul, mem_class_then]
  simp only [mem_star_one_of]

theorem mem_at_most_once :
    word ∈ (atMostOnce pattern).matches' ↔ word = [] ∨ word ∈ pattern.matches' := by
  rw [atMostOnce, matches'_add, Language.mem_add]
  rfl

theorem mem_char_then {symbol : Symbol} {language : Language Symbol} :
    word ∈ (char symbol).matches' * language ↔
      ∃ tail, word = symbol :: tail ∧ tail ∈ language := by
  rw [Language.mem_mul]
  constructor
  · rintro ⟨start, rfl, tail, inLanguage, rfl⟩
    exact ⟨tail, rfl, inLanguage⟩
  · rintro ⟨tail, rfl, inLanguage⟩
    exact ⟨[symbol], rfl, tail, inLanguage, rfl⟩

end Classes

section Ranges

/-- `[first-last]`. -/
def charRange (first last : Char) : List Char :=
  (List.range' first.toNat (last.toNat + 1 - first.toNat)).map Char.ofNat

theorem to_nat_of_nat {code : Nat} (small : code < 0xd800) : (Char.ofNat code).toNat = code := by
  rw [Char.ofNat, dif_pos (Or.inl small)]
  rfl

theorem mem_char_range {first last character : Char} (small : last.toNat < 0xd800) :
    character ∈ charRange first last ↔
      first.toNat ≤ character.toNat ∧ character.toNat ≤ last.toNat := by
  simp only [charRange, List.mem_map, List.mem_range'_1]
  constructor
  · rintro ⟨code, bounds, rfl⟩
    rw [to_nat_of_nat (by omega)]
    omega
  · intro bounds
    exact ⟨character.toNat, by omega, Char.ofNat_toNat character⟩

end Ranges

section Separated

variable (symbols : List Symbol) (separator : Symbol)

/-- Words of a class, joined by a separator. -/
def separated : RegularExpression Symbol :=
  repeated (oneOf symbols) * (char separator * repeated (oneOf symbols)).star

/-- What may follow inside a word. -/
def continued : Language Symbol :=
  (oneOf symbols).star.matches' * (char separator * repeated (oneOf symbols)).star.matches'

variable {symbols separator} {word : List Symbol}

theorem mem_separated : word ∈ (separated symbols separator).matches' ↔
    ∃ head tail, word = head :: tail ∧ head ∈ symbols ∧ tail ∈ continued symbols separator := by
  rw [separated, repeated, matches'_mul, matches'_mul, mul_assoc, mem_class_then]
  rfl

theorem mem_continued : word ∈ continued symbols separator ↔ word = [] ∨
    (∃ tail, word = separator :: tail ∧ tail ∈ (separated symbols separator).matches') ∨
    ∃ head tail, word = head :: tail ∧ head ∈ symbols ∧ tail ∈ continued symbols separator := by
  have stars : continued symbols separator =
      (char separator * repeated (oneOf symbols)).star.matches' +
        (oneOf symbols).matches' * continued symbols separator := by
    rw [continued, ← mul_assoc, ← one_add_mul, matches'_star (oneOf symbols),
      Language.one_add_self_mul_kstar_eq_kstar]
  rw [stars, Language.mem_add, mem_star_iff, matches'_mul, mul_assoc, mem_char_then, mem_class_then,
    or_assoc, ← stars]
  rfl

/-- Symbols of the class and separators, without a separator at the end or two of them
in a row. -/
structure Joined (symbols : List Symbol) (separator : Symbol) (word : List Symbol) : Prop where
  allowed : ∀ symbol ∈ word, symbol ∈ symbols ∨ symbol = separator
  ends : word.getLast? ≠ some separator
  apart : word.IsChain fun left right => left = separator → right ≠ separator

theorem joined_nil : Joined symbols separator [] := ⟨by simp, by simp, .nil⟩

theorem joined_cons {head : Symbol} {tail : List Symbol} :
    Joined symbols separator (head :: tail) ↔ Joined symbols separator tail ∧
      (head ∈ symbols ∨ head = separator) ∧
      (head = separator → tail ≠ [] ∧ tail.head? ≠ some separator) := by
  cases tail with
  | nil =>
      constructor
      · intro joined
        refine ⟨joined_nil, joined.allowed head List.mem_cons_self, ?_⟩
        rintro rfl
        exact absurd rfl joined.ends
      · rintro ⟨_, known, next⟩
        refine ⟨by simpa using known, ?_, .singleton head⟩
        intro last
        exact (next (Option.some.inj last)).1 rfl
  | cons next tail =>
      constructor
      · rintro ⟨allowed, ends, apart⟩
        rw [List.forall_mem_cons] at allowed
        rw [List.getLast?_cons_cons] at ends
        rw [List.isChain_cons_cons] at apart
        refine ⟨⟨allowed.2, ends, apart.2⟩, allowed.1, fun same => ⟨by simp, ?_⟩⟩
        simpa using apart.1 same
      · rintro ⟨⟨allowed, ends, apart⟩, known, follows⟩
        refine ⟨List.forall_mem_cons.mpr ⟨known, allowed⟩, by rwa [List.getLast?_cons_cons], ?_⟩
        exact List.isChain_cons_cons.mpr ⟨fun same => by simpa using (follows same).2, apart⟩

/-- The pattern accepts what is joined and begins with a symbol of the class. -/
theorem continued_and_separated (outside : separator ∉ symbols) (word : List Symbol) :
    (word ∈ continued symbols separator ↔ Joined symbols separator word) ∧
    (word ∈ (separated symbols separator).matches' ↔
      word ≠ [] ∧ word.head? ≠ some separator ∧ Joined symbols separator word) := by
  induction word with
  | nil => exact ⟨iff_of_true (mem_continued.mpr (Or.inl rfl)) joined_nil, by simp [mem_separated]⟩
  | cons head tail induction =>
      obtain ⟨continuedTail, separatedTail⟩ := induction
      constructor
      · rw [mem_continued, joined_cons]
        constructor
        · rintro (empty | ⟨_, same, inside⟩ | ⟨_, _, same, member, inside⟩)
          · cases empty
          · obtain ⟨rfl, rfl⟩ := List.cons.inj same
            obtain ⟨nonempty, next, joined⟩ := separatedTail.mp inside
            exact ⟨joined, Or.inr rfl, fun _ => ⟨nonempty, next⟩⟩
          · obtain ⟨rfl, rfl⟩ := List.cons.inj same
            refine ⟨continuedTail.mp inside, Or.inl member, ?_⟩
            rintro rfl
            exact absurd member outside
        · rintro ⟨joined, member | rfl, follows⟩
          · exact Or.inr (Or.inr ⟨head, tail, rfl, member, continuedTail.mpr joined⟩)
          · obtain ⟨nonempty, next⟩ := follows rfl
            exact Or.inr (Or.inl ⟨tail, rfl, separatedTail.mpr ⟨nonempty, next, joined⟩⟩)
      · rw [mem_separated, joined_cons]
        constructor
        · rintro ⟨_, _, same, member, inside⟩
          obtain ⟨rfl, rfl⟩ := List.cons.inj same
          have other : head ≠ separator := by
            rintro rfl
            exact outside member
          exact ⟨by simp, by simpa using other, continuedTail.mp inside, Or.inl member,
            fun isSeparator => absurd isSeparator other⟩
        · rintro ⟨_, other, joined, known, _⟩
          have member : head ∈ symbols := known.resolve_right (by simpa using other)
          exact ⟨head, tail, rfl, member, continuedTail.mpr joined⟩

theorem mem_separated_iff (outside : separator ∉ symbols) :
    word ∈ (separated symbols separator).matches' ↔
      word ≠ [] ∧ word.head? ≠ some separator ∧ Joined symbols separator word :=
  (continued_and_separated outside word).2

end Separated

end CommitmentOptimizer.Foundations.RegularText
