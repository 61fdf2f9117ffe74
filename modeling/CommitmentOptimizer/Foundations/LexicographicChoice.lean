import Mathlib.Data.List.Sort

/-!
# The first of a lexicographic ranking

Accepted items come first, then the greater gain, then the smaller loss. The
head of the accepted items is what a program that sorts and takes the first one
chooses; these are the objectives that such a choice meets.
-/

namespace CommitmentOptimizer.Foundations.LexicographicChoice

set_option autoImplicit false

variable {Item Gain Loss : Type} [LinearOrder Gain] [LinearOrder Loss]
  {accepted : Item → Bool} {gain : Item → Gain} {loss : Item → Loss}

/-- `left` may stand before `right`. -/
def ranks (accepted : Item → Bool) (gain : Item → Gain) (loss : Item → Loss)
    (left right : Item) : Bool :=
  if accepted left ≠ accepted right then accepted left
  else if gain left ≠ gain right then decide (gain right < gain left)
  else decide (loss left ≤ loss right)

def choose (accepted : Item → Bool) (gain : Item → Gain) (loss : Item → Loss)
    (items : List Item) : Option Item :=
  ((items.insertionSort (ranks accepted gain loss · ·)).filter accepted).head?

theorem ranks_accepted {left right : Item} (same : accepted left = accepted right) :
    ranks accepted gain loss left right = true ↔
      gain right < gain left ∨ gain left = gain right ∧ loss left ≤ loss right := by
  unfold ranks
  rw [if_neg (not_not.mpr same)]
  by_cases equal : gain left = gain right
  · simp [equal]
  · simp [equal]

theorem ranks_total (left right : Item) :
    (ranks accepted gain loss left right || ranks accepted gain loss right left) = true := by
  by_cases same : accepted left = accepted right
  · rw [Bool.or_eq_true, ranks_accepted same, ranks_accepted same.symm]
    rcases lt_trichotomy (gain left) (gain right) with less | equal | more
    · exact Or.inr (Or.inl less)
    · rcases le_total (loss left) (loss right) with first | second
      · exact Or.inl (Or.inr ⟨equal, first⟩)
      · exact Or.inr (Or.inr ⟨equal.symm, second⟩)
    · exact Or.inl (Or.inl more)
  · cases acceptance : accepted left with
    | true =>
        have other : accepted right = false := by
          rw [acceptance] at same
          simpa using Ne.symm same
        simp [ranks, acceptance, other]
    | false =>
        have other : accepted right = true := by
          rw [acceptance] at same
          simpa using Ne.symm same
        simp [ranks, acceptance, other]

theorem ranks_trans (first second third : Item)
    (left : ranks accepted gain loss first second = true)
    (right : ranks accepted gain loss second third = true) :
    ranks accepted gain loss first third = true := by
  by_cases sameLeft : accepted first = accepted second
  · by_cases sameRight : accepted second = accepted third
    · rw [ranks_accepted sameLeft] at left
      rw [ranks_accepted sameRight] at right
      rw [ranks_accepted (sameLeft.trans sameRight)]
      rcases left with more | ⟨equal, less⟩
      · rcases right with again | ⟨equal, _⟩
        · exact Or.inl (again.trans more)
        · exact Or.inl (equal ▸ more)
      · rcases right with again | ⟨equalRight, lessRight⟩
        · exact Or.inl (equal ▸ again)
        · exact Or.inr ⟨equal.trans equalRight, less.trans lessRight⟩
    · have ahead : accepted second = true := by simpa [ranks, sameRight] using right
      have behind : accepted third = false := by simpa [ahead] using Ne.symm sameRight
      simp [ranks, sameLeft, ahead, behind]
  · have ahead : accepted first = true := by simpa [ranks, sameLeft] using left
    have behind : accepted second = false := by simpa [ahead] using Ne.symm sameLeft
    have rejected : accepted third = false := by
      by_contra present
      simp [ranks, behind, present] at right
    simp [ranks, ahead, rejected]

instance : Std.Total (ranks accepted gain loss · ·) where
  total left right := by
    rw [← Bool.or_eq_true]
    exact ranks_total left right

instance : IsTrans Item (ranks accepted gain loss · ·) where
  trans := ranks_trans

variable {items : List Item} {best : Item}

theorem choose_none :
    choose accepted gain loss items = none ↔ ∀ item ∈ items, accepted item = false := by
  simp [choose]

/-- The chosen item is accepted, no accepted item gains more, and none that
gains as much loses less. -/
theorem choose_some (chosen : choose accepted gain loss items = some best) :
    best ∈ items ∧ accepted best = true ∧ ∀ other ∈ items, accepted other = true →
      gain other ≤ gain best ∧ (gain other = gain best → loss best ≤ loss other) := by
  obtain ⟨rest, listed⟩ := List.head?_eq_some_iff.mp chosen
  have sorted := List.pairwise_insertionSort (ranks accepted gain loss · ·) items
  have ordered := List.Pairwise.filter accepted sorted
  have inside : best ∈ (items.insertionSort (ranks accepted gain loss · ·)).filter accepted := by
    rw [listed]
    exact List.mem_cons_self
  obtain ⟨member, acceptance⟩ := List.mem_filter.mp inside
  refine ⟨(List.mem_insertionSort _).mp member, acceptance, fun other otherMember otherAccepted => ?_⟩
  have otherInside : other ∈ (items.insertionSort (ranks accepted gain loss · ·)).filter accepted :=
    List.mem_filter.mpr ⟨(List.mem_insertionSort _).mpr otherMember, otherAccepted⟩
  rw [listed] at otherInside ordered
  rcases List.mem_cons.mp otherInside with rfl | later
  · exact ⟨le_refl _, fun _ => le_refl _⟩
  · have ranked := (ranks_accepted (acceptance.trans otherAccepted.symm)).mp
      ((List.pairwise_cons.mp ordered).1 other later)
    rcases ranked with more | ⟨equal, less⟩
    · exact ⟨le_of_lt more, fun same => absurd same (ne_of_lt more)⟩
    · exact ⟨le_of_eq equal.symm, fun _ => less⟩

/-- No accepted item is at least as good in both and better in one. -/
theorem choose_undominated (chosen : choose accepted gain loss items = some best) {other : Item}
    (member : other ∈ items) (otherAccepted : accepted other = true)
    (gains : gain best ≤ gain other) (loses : loss other ≤ loss best) :
    gain other = gain best ∧ loss other = loss best := by
  obtain ⟨_, _, bounds⟩ := choose_some chosen
  obtain ⟨most, least⟩ := bounds other member otherAccepted
  have equal := le_antisymm most gains
  exact ⟨equal, le_antisymm loses (least equal)⟩

/-- The choice also has the least loss exactly when some accepted item has both
the greatest gain and the least loss. -/
theorem choose_least_loss_iff (chosen : choose accepted gain loss items = some best) :
    (∀ other ∈ items, accepted other = true → loss best ≤ loss other) ↔
      ∃ ideal ∈ items, accepted ideal = true ∧ ∀ other ∈ items, accepted other = true →
        gain other ≤ gain ideal ∧ loss ideal ≤ loss other := by
  obtain ⟨member, acceptance, bounds⟩ := choose_some chosen
  constructor
  · intro least
    exact ⟨best, member, acceptance, fun other otherMember otherAccepted =>
      ⟨(bounds other otherMember otherAccepted).1, least other otherMember otherAccepted⟩⟩
  · rintro ⟨ideal, idealMember, idealAccepted, both⟩ other otherMember otherAccepted
    obtain ⟨most, least⟩ := bounds ideal idealMember idealAccepted
    have equal := le_antisymm most (both best member acceptance).1
    exact (least equal).trans (both other otherMember otherAccepted).2

section Order

/-- All that the ranking looks at. -/
def rankKey (accepted : Item → Bool) (gain : Item → Gain) (loss : Item → Loss) (item : Item) :
    Bool × Gain × Loss :=
  (accepted item, gain item, loss item)

variable {others : List Item}

omit [LinearOrder Gain] [LinearOrder Loss] in
theorem rank_key_found
    (permuted : (items.map (rankKey accepted gain loss)).Perm
      (others.map (rankKey accepted gain loss))) {item : Item} (member : item ∈ items) :
    ∃ other ∈ others, accepted other = accepted item ∧ gain other = gain item ∧
      loss other = loss item := by
  obtain ⟨other, otherMember, same⟩ :=
    List.mem_map.mp (permuted.subset (List.mem_map_of_mem member))
  obtain ⟨sameAccepted, sameRest⟩ := Prod.mk.inj same
  obtain ⟨sameGain, sameLoss⟩ := Prod.mk.inj sameRest
  exact ⟨other, otherMember, sameAccepted, sameGain, sameLoss⟩

/-- The gain and the loss of the choice do not depend on the order of the items. -/
theorem choose_values_perm
    (permuted : (items.map (rankKey accepted gain loss)).Perm
      (others.map (rankKey accepted gain loss))) :
    (choose accepted gain loss items).map (fun item => (gain item, loss item)) =
      (choose accepted gain loss others).map fun item => (gain item, loss item) := by
  cases left : choose accepted gain loss items with
  | none =>
      have rejected := choose_none.mp left
      have alsoNone : choose accepted gain loss others = none := by
        refine choose_none.mpr fun other member => ?_
        obtain ⟨item, itemMember, sameAccepted, _⟩ := rank_key_found permuted.symm member
        rw [← sameAccepted, rejected item itemMember]
      rw [alsoNone]
  | some best =>
      obtain ⟨member, acceptance, bounds⟩ := choose_some left
      obtain ⟨twin, twinMember, twinAccepted, twinGain, twinLoss⟩ := rank_key_found permuted member
      cases right : choose accepted gain loss others with
      | none =>
          rw [choose_none.mp right twin twinMember] at twinAccepted
          rw [acceptance] at twinAccepted
          cases twinAccepted
      | some other =>
          obtain ⟨otherMember, otherAcceptance, otherBounds⟩ := choose_some right
          obtain ⟨image, imageMember, imageAccepted, imageGain, imageLoss⟩ :=
            rank_key_found permuted.symm otherMember
          obtain ⟨gains, losses⟩ := bounds image imageMember (imageAccepted.trans otherAcceptance)
          obtain ⟨twinGains, twinLosses⟩ :=
            otherBounds twin twinMember (twinAccepted.trans acceptance)
          rw [imageGain] at gains losses
          rw [imageLoss] at losses
          rw [twinGain] at twinGains twinLosses
          rw [twinLoss] at twinLosses
          have equal : gain other = gain best := le_antisymm gains twinGains
          have lost : loss best = loss other :=
            le_antisymm (losses equal) (twinLosses equal.symm)
          rw [Option.map_some, Option.map_some, equal, lost]

end Order

end CommitmentOptimizer.Foundations.LexicographicChoice
