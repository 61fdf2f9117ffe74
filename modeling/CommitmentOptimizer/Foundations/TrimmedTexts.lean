import Mathlib.Data.List.Infix
import Mathlib.Data.List.TakeWhile
import CommitmentOptimizer.Foundations.Json

/-!
# Trimmed and normalized texts

What trimming does to a text and to the ends of a longer one, and the facts about the
composed form of a text that a program may rely on.
-/

namespace CommitmentOptimizer.Foundations.TrimmedTexts

set_option autoImplicit false

section Trimming

theorem js_trim_padded {front text back : List Char}
    (before : ∀ character ∈ front, isJsSpace character = true)
    (after : ∀ character ∈ back, isJsSpace character = true) :
    jsTrim (front ++ text ++ back) = jsTrim text := by
  rw [List.append_assoc, jsTrim, jsTrim, List.dropWhile_append_of_pos before, List.dropWhile_append]
  cases blank : text.dropWhile isJsSpace with
  | nil => rw [List.isEmpty_nil, if_pos rfl, List.dropWhile_eq_nil_iff.mpr after]
  | cons first rest =>
      rw [List.isEmpty_cons, if_neg Bool.false_ne_true, List.reverse_append,
        List.dropWhile_append_of_pos fun character member =>
          after character (List.mem_reverse.mp member)]

theorem drop_visible {text : List Char}
    (first : ∀ character ∈ text.head?, isJsSpace character = false) :
    text.dropWhile isJsSpace = text := by
  cases text with
  | nil => rfl
  | cons character rest =>
      rw [List.dropWhile_cons, first character rfl]
      rfl

/-- A text with visible ends is trimmed. -/
theorem js_trim_visible {text : List Char}
    (first : ∀ character ∈ text.head?, isJsSpace character = false)
    (last : ∀ character ∈ text.getLast?, isJsSpace character = false) : jsTrim text = text := by
  rw [jsTrim, drop_visible first, drop_visible (by rwa [List.head?_reverse]), List.reverse_reverse]

theorem js_trim_part (text : List Char) : jsTrim text <:+: text := by
  have front : (jsTrim text).reverse <:+ (text.dropWhile isJsSpace).reverse := by
    rw [jsTrim, List.reverse_reverse]
    exact List.dropWhile_suffix isJsSpace
  exact (List.reverse_suffix.mp front).isInfix.trans (List.dropWhile_suffix isJsSpace).isInfix

end Trimming

section Forms

/-- Facts about the composed form of a text: a blank is not composed with what follows it,
nor an ASCII character with what stands before it. -/
structure ComposedForm (normalize : List Char → List Char) : Prop where
  latin : ∀ text : List Char, (∀ character ∈ text, character.toNat < 0x100) → normalize text = text
  idempotent : ∀ text : List Char, normalize (normalize text) = normalize text
  part : ∀ text part : List Char, part <:+: text → normalize text = text → normalize part = part
  afterBlank : ∀ left right : List Char, left.getLast? = some ' ' →
    normalize (left ++ right) = normalize left ++ normalize right
  beforeAscii : ∀ (left right : List Char) (first : Char), right.head? = some first →
    first.toNat < 0x80 → normalize (left ++ right) = normalize left ++ normalize right

theorem latin_of_all {text : List Char}
    (latin : (text.all fun character => character.toNat < 0x100) = true) :
    ∀ character ∈ text, character.toNat < 0x100 :=
  fun character member => of_decide_eq_true (List.all_eq_true.mp latin character member)

variable {normalize : List Char → List Char}

/-- What was normalized and trimmed is in the composed form. -/
theorem normalize_trimmed (form : ComposedForm normalize) (text : List Char) :
    normalize (jsTrim (normalize text)) = jsTrim (normalize text) :=
  form.part _ _ (js_trim_part _) (form.idempotent text)

/-- A normalized text between a blank and an ASCII character. -/
theorem normalize_between (form : ComposedForm normalize) {before text after : List Char}
    {first : Char} (latinBefore : ∀ character ∈ before, character.toNat < 0x100)
    (blank : before.getLast? = some ' ') (normal : normalize text = text)
    (latinAfter : ∀ character ∈ after, character.toNat < 0x100) (head : after.head? = some first)
    (ascii : first.toNat < 0x80) :
    normalize (before ++ (text ++ after)) = before ++ (text ++ after) := by
  rw [form.afterBlank before _ blank, form.beforeAscii text after first head ascii,
    form.latin before latinBefore, normal, form.latin after latinAfter]

end Forms

section Pairs

variable {Item : Type} {item : Item}

/-- A pair of equal items does not begin in a part without the item. -/
theorem pair_in_append {front rest : List Item} (absent : item ∉ front) :
    [item, item] <:+: front ++ rest ↔ [item, item] <:+: rest := by
  induction front with
  | nil => rfl
  | cons first front induction =>
      have other : item ≠ first := fun same => absent (by rw [same]; exact List.mem_cons_self)
      rw [List.cons_append, List.infix_cons_iff, List.cons_prefix_cons,
        induction fun member => absent (List.mem_cons_of_mem _ member)]
      simp [other]

theorem pair_between {front text back : List Item} (before : item ∉ front) (after : item ∉ back) :
    [item, item] <:+: front ++ (text ++ back) ↔ [item, item] <:+: text := by
  rw [pair_in_append before, ← List.reverse_infix, List.reverse_append]
  rw [show [item, item].reverse = [item, item] from rfl,
    pair_in_append fun member => after (List.mem_reverse.mp member), ← List.reverse_infix,
    List.reverse_reverse]
  rfl

end Pairs

end CommitmentOptimizer.Foundations.TrimmedTexts
