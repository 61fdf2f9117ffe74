import Mathlib.Algebra.Order.Group.Int
import Mathlib.Data.List.Sort
import Mathlib.Data.String.Basic

/-!
# Sorted sets that expire

The commands of a key-value store on sorted sets: members are unique, and ordered
by score and then by member. A key without members does not exist.
-/

namespace CommitmentOptimizer.Foundations.SortedSets

set_option autoImplicit false

variable {Member : Type}

structure SortedSet (Member : Type) where
  entries : List (Int × Member)
  expiresAt : Option Int

def SortedSet.missing : SortedSet Member := ⟨[], none⟩

def SortedSet.scores (set : SortedSet Member) : List Int := set.entries.map Prod.fst

/-- The set as a command finds it. -/
def SortedSet.live (set : SortedSet Member) (now : Int) : SortedSet Member :=
  match set.expiresAt with
  | some expiry => if expiry < now then .missing else set
  | none => set

/-- `ZREMRANGEBYSCORE key -inf cutoff` -/
def SortedSet.removeUpTo (set : SortedSet Member) (cutoff : Int) : SortedSet Member :=
  match set.entries.filter fun entry => cutoff < entry.1 with
  | [] => .missing
  | entry :: rest => { set with entries := entry :: rest }

/-- `ZCARD key` -/
def SortedSet.card (set : SortedSet Member) : Nat := set.entries.length

/-- `ZRANGE key 0 0 WITHSCORES` -/
def SortedSet.oldest (set : SortedSet Member) : Option Int := set.scores.head?

theorem entries_remove (set : SortedSet Member) (cutoff : Int) :
    (set.removeUpTo cutoff).entries = set.entries.filter fun entry => cutoff < entry.1 := by
  unfold SortedSet.removeUpTo
  split
  next none => exact none.symm
  next some => exact some.symm

theorem scores_remove (set : SortedSet Member) (cutoff : Int) :
    (set.removeUpTo cutoff).scores = set.scores.filter (cutoff < ·) := by
  unfold SortedSet.scores
  rw [entries_remove, List.filter_map]
  rfl

theorem expiry_remove {set : SortedSet Member} {cutoff expiry : Int}
    (expires : (set.removeUpTo cutoff).expiresAt = some expiry) : set.expiresAt = some expiry := by
  unfold SortedSet.removeUpTo at expires
  split at expires
  · cases expires
  · exact expires

variable [LinearOrder Member]

def isBefore (left right : Int × Member) : Prop :=
  left.1 < right.1 ∨ (left.1 = right.1 ∧ left.2 ≤ right.2)

instance (left right : Int × Member) : Decidable (isBefore left right) :=
  inferInstanceAs (Decidable (left.1 < right.1 ∨ _))

/-- `ZADD key score member` -/
def SortedSet.add (set : SortedSet Member) (score : Int) (member : Member) : SortedSet Member :=
  { set with
    entries := (set.entries.filter fun entry => entry.2 ≠ member).orderedInsert isBefore
      (score, member) }

/-- `PEXPIRE key milliseconds` -/
def SortedSet.expire (set : SortedSet Member) (now milliseconds : Int) : SortedSet Member :=
  { set with expiresAt := some (now + milliseconds) }

theorem insert_last {entry : Int × Member} {entries : List (Int × Member)}
    (ordered : (entries.map Prod.fst).Pairwise (· ≤ ·))
    (past : ∀ other ∈ entries, other.1 ≤ entry.1) :
    (entries.orderedInsert isBefore entry).map Prod.fst = entries.map Prod.fst ++ [entry.1] := by
  induction entries with
  | nil => rfl
  | cons first rest induction =>
      obtain ⟨lower, orderedRest⟩ := List.pairwise_cons.mp ordered
      have pastRest : ∀ other ∈ rest, other.1 ≤ entry.1 :=
        fun other member => past other (List.mem_cons_of_mem _ member)
      rw [List.orderedInsert]
      split_ifs with before
      · -- Only entries of the same score can come after the new one.
        have same : first.1 = entry.1 := by
          have below := past first List.mem_cons_self
          rcases before with less | ⟨equal, _⟩
          · omega
          · exact equal.symm
        have constant : (first :: rest).map Prod.fst =
            List.replicate (rest.length + 1) entry.1 := by
          refine List.eq_replicate_iff.mpr ⟨by simp, ?_⟩
          intro score member
          rcases List.mem_cons.mp member with isFirst | inRest
          · rw [isFirst, same]
          · have above := lower score inRest
            obtain ⟨other, otherMember, rfl⟩ := List.mem_map.mp inRest
            have below := pastRest other otherMember
            omega
        rw [List.map_cons, constant, ← List.replicate_succ, ← List.replicate_succ']
      · rw [List.map_cons, List.map_cons, induction orderedRest pastRest, List.cons_append]

/-- A new member with the latest score comes last. -/
theorem scores_add {set : SortedSet Member} {score : Int} {member : Member} (ordered : set.scores.Pairwise (· ≤ ·))
    (past : ∀ other ∈ set.scores, other ≤ score) (fresh : ∀ entry ∈ set.entries, entry.2 ≠ member) :
    (set.add score member).scores = set.scores ++ [score] := by
  have kept : (set.entries.filter fun entry => entry.2 ≠ member) = set.entries :=
    List.filter_eq_self.mpr fun entry inside => decide_eq_true (fresh entry inside)
  unfold SortedSet.add SortedSet.scores
  dsimp only
  rw [kept]
  exact insert_last ordered fun other inside => past other.1 (List.mem_map_of_mem inside)

theorem mem_add {set : SortedSet Member} {score : Int} {member : Member} {entry : Int × Member}
    (inside : entry ∈ (set.add score member).entries) :
    entry = (score, member) ∨ entry ∈ set.entries := by
  rcases (List.mem_orderedInsert isBefore).mp inside with same | earlier
  · exact Or.inl same
  · exact Or.inr (List.mem_of_mem_filter earlier)

end CommitmentOptimizer.Foundations.SortedSets
