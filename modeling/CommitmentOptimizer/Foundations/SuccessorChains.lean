import Mathlib.Data.List.Basic
import Mathlib.Data.List.Nodup

/-!
# Chains of successors

Keys that each have one successor at most. A chain leads from a key to one that has none, so
it repeats no key, and two chains share a key only when one continues the other.
-/

namespace CommitmentOptimizer.Foundations.SuccessorChains

set_option autoImplicit false

variable {Key : Type} {next : Key → Option Key}

/-- The chain of a key, up to the key without a successor. -/
inductive Leads (next : Key → Option Key) : Key → List Key → Prop
  | last {key : Key} (final : next key = none) : Leads next key [key]
  | onward {key other : Key} {rest : List Key} (step : next key = some other)
      (chain : Leads next other rest) : Leads next key (key :: rest)

/-- The consecutive pairs of a list. -/
def steps (path : List Key) : List (Key × Key) := path.zip path.tail

variable {start other : Key} {path others : List Key}

theorem leads_head (chain : Leads next start path) : path.head? = some start := by
  cases chain <;> rfl

theorem leads_nonempty (chain : Leads next start path) : path ≠ [] := by
  cases chain <;> exact List.cons_ne_nil _ _

/-- The chain that goes on with a successor, if there is one. -/
def LeadsFrom (next : Key → Option Key) : Option Key → List Key → Prop
  | none, path => path = []
  | some start, path => Leads next start path

theorem leads_iff : Leads next start path ↔
    ∃ rest, path = start :: rest ∧ LeadsFrom next (next start) rest := by
  constructor
  · intro chain
    cases chain with
    | last final => exact ⟨[], rfl, by rw [final]; rfl⟩
    | onward step chain => exact ⟨_, rfl, by rw [step]; exact chain⟩
  · rintro ⟨rest, rfl, onward⟩
    cases step : next start with
    | none =>
        rw [step] at onward
        obtain rfl : rest = [] := onward
        exact .last step
    | some other =>
        rw [step] at onward
        exact .onward step onward

/-- What successors inherit holds along a chain. -/
theorem leads_inherits {holds : Key → Prop} (chain : Leads next start path) (first : holds start)
    (inherited : ∀ source target, next source = some target → holds source → holds target) :
    ∀ key ∈ path, holds key := by
  induction chain with
  | last =>
      intro key member
      rw [List.mem_singleton.mp member]
      exact first
  | onward step _ induction =>
      rw [List.forall_mem_cons]
      exact ⟨first, induction (inherited _ _ step first)⟩

theorem leads_unique (left : Leads next start path) (right : Leads next start others) :
    path = others := by
  induction left generalizing others with
  | last final =>
      cases right with
      | last => rfl
      | onward step => cases final.symm.trans step
  | onward step _ induction =>
      cases right with
      | last final => cases final.symm.trans step
      | onward step' chain =>
          obtain rfl := Option.some.inj (step.symm.trans step')
          rw [induction chain]

/-- Every key of a chain has the rest of it as its own chain. -/
theorem leads_suffix (chain : Leads next start path) {key : Key} (member : key ∈ path) :
    ∃ rest, Leads next key rest ∧ rest <:+ path := by
  induction chain with
  | last final =>
      obtain rfl := List.mem_singleton.mp member
      exact ⟨_, .last final, List.suffix_refl _⟩
  | onward step chain induction =>
      rcases List.mem_cons.mp member with rfl | later
      · exact ⟨_, .onward step chain, List.suffix_refl _⟩
      · obtain ⟨rest, leads, suffix⟩ := induction later
        exact ⟨rest, leads, suffix.trans (List.suffix_cons _ _)⟩

theorem leads_nodup (chain : Leads next start path) : path.Nodup := by
  induction chain with
  | last => exact List.nodup_singleton _
  | @onward key other rest step chain induction =>
      refine List.nodup_cons.mpr ⟨fun again => ?_, induction⟩
      -- the chain of a repeated key would be longer than itself
      obtain ⟨shorter, leads, suffix⟩ := leads_suffix chain again
      obtain rfl := leads_unique leads (.onward step chain)
      have length := suffix.length_le
      rw [List.length_cons] at length
      omega

/-- Only the last key of a chain has no successor. -/
theorem leads_final (chain : Leads next start path) {key : Key} (member : key ∈ path) :
    next key = none ↔ path.getLast? = some key := by
  induction chain with
  | last final =>
      obtain rfl := List.mem_singleton.mp member
      exact ⟨fun _ => rfl, fun _ => final⟩
  | @onward first other rest step chain induction =>
      have last : (first :: rest).getLast? = rest.getLast? := by
        rw [List.getLast?_cons, List.getLast?_eq_some_getLast (leads_nonempty chain)]
        rfl
      rw [last]
      rcases List.mem_cons.mp member with rfl | later
      · refine ⟨fun none => ?_, fun isLast => ?_⟩
        · cases none.symm.trans step
        · have again := List.mem_of_getLast? isLast
          exact absurd again (List.nodup_cons.mp (leads_nodup (.onward step chain))).1
      · exact induction later

theorem steps_cons (first second : Key) (rest : List Key) :
    steps (first :: second :: rest) = (first, second) :: steps (second :: rest) := rfl

theorem steps_fst (path : List Key) : (steps path).map Prod.fst = path.dropLast := by
  induction path with
  | nil => rfl
  | cons first rest induction =>
      cases rest with
      | nil => rfl
      | cons second rest => rw [steps_cons, List.map_cons, induction, List.dropLast_cons_cons]

theorem steps_snd (path : List Key) : (steps path).map Prod.snd = path.tail := by
  unfold steps
  rw [List.map_snd_zip]
  rw [List.length_tail]
  omega

/-- The steps of disjoint paths leave a key once at most, and enter one once at most. -/
theorem steps_nodup {paths : List (List Key)} (distinct : paths.flatten.Nodup) :
    ((paths.flatMap steps).map Prod.fst).Nodup ∧ ((paths.flatMap steps).map Prod.snd).Nodup := by
  have sublists : ∀ part : List Key → List Key, (∀ path, (part path).Sublist path) →
      (paths.flatMap part).Nodup := by
    intro part shorter
    refine List.Nodup.sublist ?_ distinct
    induction paths with
    | nil => exact List.Sublist.slnil
    | cons path paths induction =>
        rw [List.flatMap_cons, List.flatten_cons]
        exact (shorter path).append (induction (List.nodup_append.mp distinct).2.1)
  rw [List.map_flatMap, List.map_flatMap, funext steps_fst, funext steps_snd]
  exact ⟨sublists _ List.dropLast_sublist, sublists _ List.tail_sublist⟩

/-- The keys of some paths are their first ones and the ones that a step enters. -/
theorem flatten_perm_heads (paths : List (List Key)) :
    paths.flatten.Perm (paths.filterMap List.head? ++ (paths.flatMap steps).map Prod.snd) := by
  rw [List.map_flatMap, funext steps_snd]
  induction paths with
  | nil => exact List.Perm.refl _
  | cons path paths induction =>
      cases path with
      | nil => exact induction
      | cons first rest =>
          have heads : ((first :: rest) :: paths).filterMap List.head? =
              first :: paths.filterMap List.head? := rfl
          rw [heads, List.flatten_cons, List.flatMap_cons, List.tail_cons, List.cons_append,
            List.cons_append]
          refine List.Perm.cons _ ((induction.append_left rest).trans ?_)
          rw [← List.append_assoc, ← List.append_assoc]
          exact List.perm_append_comm.append_right _

/-- The steps of a chain are the successors of its keys. -/
theorem mem_steps_leads (chain : Leads next start path) {source target : Key} :
    (source, target) ∈ steps path ↔ source ∈ path ∧ next source = some target := by
  induction chain with
  | last final =>
      refine ⟨nofun, ?_⟩
      rintro ⟨member, step⟩
      obtain rfl := List.mem_singleton.mp member
      cases final.symm.trans step
  | @onward first second rest step chain induction =>
      obtain ⟨tail, rfl⟩ : ∃ tail, rest = second :: tail := by
        cases chain <;> exact ⟨_, rfl⟩
      rw [steps_cons, List.mem_cons, induction, List.mem_cons (b := first), Prod.mk.injEq]
      constructor
      · rintro (⟨rfl, rfl⟩ | ⟨member, onward⟩)
        · exact ⟨Or.inl rfl, step⟩
        · exact ⟨Or.inr member, onward⟩
      · rintro ⟨rfl | member, onward⟩
        · exact Or.inl ⟨rfl, Option.some.inj (onward.symm.trans step)⟩
        · exact Or.inr ⟨member, onward⟩

/-- A list whose steps are successors and that ends without one is a chain. -/
theorem leads_of_steps {first : Key} {rest : List Key}
    (linked : ∀ step ∈ steps (first :: rest), next step.1 = some step.2)
    (final : ∀ last, (first :: rest).getLast? = some last → next last = none) :
    Leads next first (first :: rest) := by
  induction rest generalizing first with
  | nil => exact .last (final first rfl)
  | cons second rest induction =>
      rw [steps_cons] at linked
      refine .onward (linked (first, second) List.mem_cons_self) (induction ?_ ?_)
      · exact fun step member => linked step (List.mem_cons_of_mem _ member)
      · intro last isLast
        exact final last (by rw [List.getLast?_cons_cons, isLast])

section Extension

variable [DecidableEq Key] {last after : Key}

/-- The path goes on with another key when it ends with `last`. -/
def extendAt (last after : Key) (path : List Key) : List Key :=
  if path.getLast? = some last then path ++ [after] else path

theorem extend_at_of_not_mem (absent : last ∉ path) : extendAt last after path = path :=
  if_neg fun ends => absent (List.mem_of_getLast? ends)

theorem extend_at_head {first : Key} (head : path.head? = some first) :
    (extendAt last after path).head? = some first := by
  rw [extendAt]
  split_ifs
  · rw [List.head?_append, head, Option.some_or]
  · exact head

theorem extend_at_last :
    (extendAt last after path).getLast? =
      if path.getLast? = some last then some after else path.getLast? := by
  rw [extendAt]
  split_ifs
  · exact List.getLast?_concat
  · rfl

theorem mem_extend_at {key : Key} (member : key ∈ extendAt last after path) :
    key ∈ path ∨ (key = after ∧ path.getLast? = some last) := by
  rw [extendAt] at member
  split_ifs at member with ends
  · exact (List.mem_append.mp member).imp_right fun single => ⟨List.mem_singleton.mp single, ends⟩
  · exact Or.inl member

omit [DecidableEq Key] in
theorem steps_extended (ends : path.getLast? = some last) :
    steps (path ++ [after]) = steps path ++ [(last, after)] := by
  induction path with
  | nil => cases ends
  | cons first rest induction =>
      cases rest with
      | nil =>
          cases ends
          rfl
      | cons second rest =>
          rw [List.getLast?_cons_cons] at ends
          rw [List.cons_append, List.cons_append, steps_cons, steps_cons, List.cons_append,
            ← List.cons_append, induction ends]

/-- Of disjoint paths only one goes on. -/
theorem extended_split {paths : List (List Key)} (distinct : paths.flatten.Nodup)
    (member : path ∈ paths) (ends : path.getLast? = some last) :
    ∃ before behind, paths = before ++ path :: behind ∧
      paths.map (extendAt last after) = before ++ (path ++ [after]) :: behind := by
  obtain ⟨before, behind, rfl⟩ := List.append_of_mem member
  have inside := List.mem_of_getLast? ends
  rw [List.flatten_append, List.flatten_cons] at distinct
  obtain ⟨-, rest, apart⟩ := List.nodup_append.mp distinct
  have earlier : ∀ other ∈ before, extendAt last after other = other := by
    intro other isBefore
    apply extend_at_of_not_mem
    intro again
    exact apart last (List.mem_flatten.mpr ⟨other, isBefore, again⟩) last
      (List.mem_append_left _ inside) rfl
  have later : ∀ other ∈ behind, extendAt last after other = other := by
    intro other isBehind
    apply extend_at_of_not_mem
    intro again
    exact (List.nodup_append.mp rest).2.2 last inside last
      (List.mem_flatten.mpr ⟨other, isBehind, again⟩) rfl
  refine ⟨before, behind, rfl, ?_⟩
  rw [List.map_append, List.map_cons, List.map_congr_left earlier, List.map_congr_left later,
    List.map_id', List.map_id', extendAt, if_pos ends]

theorem flatten_extended {paths : List (List Key)} (distinct : paths.flatten.Nodup)
    (member : path ∈ paths) (ends : path.getLast? = some last) :
    (paths.map (extendAt last after)).flatten.Perm (paths.flatten ++ [after]) := by
  obtain ⟨before, behind, split, extended⟩ := @extended_split _ path _ last after paths distinct
    member ends
  rw [extended, split]
  simp only [List.flatten_append, List.flatten_cons, List.append_assoc]
  exact ((@List.perm_append_comm _ [after] _).append_left path).append_left before.flatten

theorem steps_of_extended {paths : List (List Key)} (distinct : paths.flatten.Nodup)
    (member : path ∈ paths) (ends : path.getLast? = some last) :
    ((paths.map (extendAt last after)).flatMap steps).Perm
      (paths.flatMap steps ++ [(last, after)]) := by
  obtain ⟨before, behind, split, extended⟩ := @extended_split _ path _ last after paths distinct
    member ends
  rw [extended, split]
  simp only [List.flatMap_append, List.flatMap_cons, steps_extended ends, List.append_assoc]
  exact ((@List.perm_append_comm _ [(last, after)] _).append_left _).append_left _

end Extension

end CommitmentOptimizer.Foundations.SuccessorChains
