import Mathlib.Data.List.TakeWhile
import CommitmentOptimizer.Foundations.RollingWindows
import CommitmentOptimizer.Foundations.SortedSets

/-!
# The rolling-window limiter

`rolling-window-limiter.ts`: the local limiter, and the script that the other one
has the key-value store run. Each remembers of a bucket what the window still
holds. The clock of the store is the clock of the requests.
-/

namespace CommitmentOptimizer.Shared.RollingWindowLimiter

open Foundations.RollingWindows
open Foundations.SortedSets

set_option autoImplicit false

def maxSafeInteger : Nat := 2 ^ 53 - 1

/-- The limit and the window that come with the key of a bucket. -/
structure BucketPolicy extends Policy where
  safe : window ≤ maxSafeInteger

/-- The texts of `randomUUID`, one after another. -/
structure Uuids where
  text : Nat → String
  distinct : Function.Injective text
  plain : ∀ index, ':' ∉ (text index).toList

section Local

abbrev Buckets := String → List Int

/-- `admit` of `createLocalRollingWindowLimiter`. A positive limit is not reached
by no entries. -/
def admitLocal (buckets : Buckets) (key : String) (limit window : Nat) (now : Int) :
    Decision × Buckets :=
  let admitted := (buckets key).filter fun value => now - window < value
  if limit ≤ admitted.length then
    (.denied (retry admitted window now), Function.update buckets key admitted)
  else (.allowed, Function.update buckets key (admitted ++ [now]))

variable (policy : String → BucketPolicy)

def localRolling (buckets : Buckets) (request : Timed String) : Decision × Buckets :=
  let bucket := policy request.ask
  admitLocal buckets request.ask bucket.limit bucket.window request.now

end Local

section Script

abbrev RedisKeys := String → SortedSet String

structure RedisState where
  keys : RedisKeys
  /-- The calls of `randomUUID` so far. -/
  draws : Nat

def emptyRedis : RedisState := ⟨fun _ => .missing, 0⟩

/-- `REDIS_SCRIPT`. A script that indexes a missing entry fails. -/
def redisScript (keys : RedisKeys) (key member : String) (limit window : Nat) (now : Int) :
    Option (Int × Int) × RedisKeys :=
  let pruned := ((keys key).live now).removeUpTo (now - window)
  if limit ≤ pruned.card then
    (pruned.oldest.map fun oldest => (0, max 1 (ceilSeconds (oldest + window - now))),
      Function.update keys key pruned)
  else
    (some (1, 0), Function.update keys key ((pruned.add now member).expire now (window * 2)))

/-- `none` where it throws. -/
def parseDecision (value : Int × Int) : Option Decision :=
  if (value.1 ≠ 0 ∧ value.1 ≠ 1) ∨ maxSafeInteger < value.2 ∨ value.2 < 0 then none
  else some (if value.1 = 1 then .allowed else .denied (max 1 value.2))

variable (policy : String → BucketPolicy) (keyPrefix : String) (uuids : Uuids)

def redisRolling (redis : RedisState) (request : Timed String) : Option Decision × RedisState :=
  let bucket := policy request.ask
  let (value, keys) := redisScript redis.keys (keyPrefix ++ request.ask) (uuids.text redis.draws)
    bucket.limit bucket.window request.now
  (value.bind parseDecision, ⟨keys, redis.draws + 1⟩)

end Script

section Buckets

/-- The member was made from a text drawn before. -/
def DrawnBefore (uuids : Uuids) (draws : Nat) (member : String) : Prop :=
  ∃ index, index < draws ∧ member.toList.takeWhile (· ≠ ':') = (uuids.text index).toList

/-- What a sorted set of the store says of the admitted times of its bucket. -/
structure Holds (uuids : Uuids) (window : Nat) (set : SortedSet String) (times : List Int)
    (now : Int) (draws : Nat) : Prop where
  remembers : Remembers window set.scores times now
  ordered : set.scores.Pairwise (· ≤ ·)
  past : ∀ score ∈ set.scores, score ≤ now
  drawn : ∀ entry ∈ set.entries, DrawnBefore uuids draws entry.2
  expiry : ∀ expiry, set.expiresAt = some expiry →
    ∀ score ∈ set.scores, score + window * 2 ≤ expiry

variable {uuids : Uuids} {window draws : Nat} {set : SortedSet String} {times : List Int}
  {now later : Int}

theorem holds_missing (now : Int) (draws : Nat) : Holds uuids window .missing [] now draws :=
  ⟨remembers_refl [] now, List.Pairwise.nil, nofun, nofun, nofun⟩

theorem holds_later {drawsLater : Nat} (holds : Holds uuids window set times now draws)
    (onward : now ≤ later) (drawn : draws ≤ drawsLater) :
    Holds uuids window set times later drawsLater := by
  refine ⟨remembers_later holds.remembers onward, holds.ordered,
    fun score member => (holds.past score member).trans onward, ?_, holds.expiry⟩
  intro entry member
  obtain ⟨index, before, same⟩ := holds.drawn entry member
  exact ⟨index, before.trans_le drawn, same⟩

/-- A key that has expired held nothing of the window any more. -/
theorem holds_live (holds : Holds uuids window set times now draws) (onward : now ≤ later) :
    Holds uuids window (set.live later) times later draws := by
  have still := holds_later holds onward (le_refl draws)
  unfold SortedSet.live
  split
  next expiry expires =>
    split_ifs with expired
    · refine ⟨fun last after => ?_, List.Pairwise.nil, nofun, nofun, nofun⟩
      rw [← still.remembers last after]
      refine (List.filter_eq_nil_iff.mpr fun score member => ?_).symm
      have bound := holds.expiry expiry expires score member
      rw [decide_eq_true_eq]
      omega
    · exact still
  next => exact still

/-- What the scripts do first. -/
theorem holds_prune (holds : Holds uuids window set times now draws) (onward : now ≤ later) :
    Holds uuids window ((set.live later).removeUpTo (later - window)) times later draws ∧
      ((set.live later).removeUpTo (later - window)).scores = inWindow window later times := by
  have live := holds_live holds onward
  have scores : ((set.live later).removeUpTo (later - window)).scores =
      inWindow window later (set.live later).scores := scores_remove _ _
  have kept : ((set.live later).removeUpTo (later - window)).scores.Sublist
      (set.live later).scores := by
    rw [scores]
    exact List.filter_sublist
  refine ⟨⟨?_, live.ordered.sublist kept, fun score member => live.past score (kept.subset member),
    ?_, ?_⟩, scores.trans (live.remembers later le_rfl)⟩
  · rw [scores]
    exact remembers_prune live.remembers
  · intro entry member
    rw [entries_remove] at member
    exact live.drawn entry (List.mem_of_mem_filter member)
  · intro expiry expires score member
    exact live.expiry expiry (expiry_remove expires) score (kept.subset member)

/-- What they do last when they admit. -/
theorem holds_add {member : String} (holds : Holds uuids window set times now draws)
    (drawn : member.toList.takeWhile (· ≠ ':') = (uuids.text draws).toList) :
    Holds uuids window ((set.add now member).expire now (window * 2)) (times ++ [now]) now
      (draws + 1) := by
  have fresh : ∀ entry ∈ set.entries, entry.2 ≠ member := by
    rintro entry inside rfl
    obtain ⟨index, before, same⟩ := holds.drawn entry inside
    have texts : uuids.text index = uuids.text draws :=
      String.toList_injective (same.symm.trans drawn)
    exact absurd (uuids.distinct texts) (Nat.ne_of_lt before)
  have scores : ((set.add now member).expire now (window * 2)).scores = set.scores ++ [now] :=
    scores_add holds.ordered holds.past fresh
  have atMost : ∀ score ∈ set.scores ++ [now], score ≤ now := by
    intro score inside
    rcases List.mem_append.mp inside with earlier | last
    · exact holds.past score earlier
    · exact (List.mem_singleton.mp last).le
  refine ⟨?_, ?_, ?_, ?_, ?_⟩
  · rw [scores]
    exact remembers_snoc holds.remembers now
  · rw [scores]
    refine List.pairwise_append.mpr ⟨holds.ordered, List.pairwise_singleton _ _, ?_⟩
    intro score inside last isLast
    rw [List.mem_singleton.mp isLast]
    exact holds.past score inside
  · rw [scores]
    exact atMost
  · intro entry inside
    rcases mem_add inside with rfl | earlier
    · exact ⟨draws, Nat.lt_succ_self draws, drawn⟩
    · obtain ⟨index, before, same⟩ := holds.drawn entry earlier
      exact ⟨index, Nat.lt_succ_of_lt before, same⟩
  · intro expiry expires score inside
    cases expires
    rw [scores] at inside
    have below := atMost score inside
    omega

theorem card_scores (set : SortedSet String) : set.card = set.scores.length :=
  (List.length_map _).symm

/-- The wait of a full bucket is one that `parseDecision` lets through. -/
theorem retry_safe {entries : List Int} (past : ∀ entry ∈ entries, entry ≤ now)
    (safe : window ≤ maxSafeInteger) :
    1 ≤ retry entries window now ∧ retry entries window now ≤ maxSafeInteger := by
  refine ⟨one_le_retry _ _ _, ?_⟩
  unfold maxSafeInteger at safe ⊢
  cases entries with
  | nil => simp [retry]
  | cons oldest rest =>
      have below := past oldest List.mem_cons_self
      rw [retry, max_le_iff, ceil_seconds_le]
      constructor
      · norm_num
      · push_cast
        omega

theorem parse_denied {retryAfter : Int} (positive : 1 ≤ retryAfter)
    (safe : retryAfter ≤ maxSafeInteger) :
    parseDecision (0, retryAfter) = some (.denied retryAfter) := by
  unfold parseDecision
  rw [if_neg (by simp; omega), if_neg (by simp), max_eq_right positive]

theorem parse_allowed : parseDecision (1, 0) = some .allowed := by decide

/-- The wait that a script computes from its oldest entry. -/
theorem oldest_retry {limit : Nat} (positive : 0 < limit) (full : limit ≤ set.scores.length) :
    set.oldest.map (fun oldest => ((0 : Int), max 1 (ceilSeconds (oldest + window - now)))) =
      some (0, retry set.scores window now) := by
  unfold SortedSet.oldest
  cases scores : set.scores with
  | nil =>
      rw [scores, List.length_nil] at full
      omega
  | cons oldest rest => rfl

end Buckets

section Stores

/-- The local buckets remember what the log says. -/
def LocalHolds (policy : String → Policy) (buckets : Buckets) (log : Log String) (now : Int) :
    Prop :=
  ∀ key, Remembers (policy key).window (buckets key) (log key) now

def RedisHolds (policy : String → Policy) (keyPrefix : String) (uuids : Uuids)
    (keys : RedisKeys) (draws : Nat) (log : Log String) (now : Int) : Prop :=
  ∀ key, Holds uuids (policy key).window (keys (keyPrefix ++ key)) (log key) now draws

variable {policy : String → Policy} {keyPrefix : String} {uuids : Uuids} {buckets : Buckets}
  {keys : RedisKeys} {draws drawsLater : Nat} {log recorded : Log String} {now later : Int}
  {key : String}

theorem local_later (holds : LocalHolds policy buckets log now) (onward : now ≤ later) :
    LocalHolds policy buckets log later :=
  fun key => remembers_later (holds key) onward

theorem local_update {remembered : List Int} (holds : LocalHolds policy buckets log now)
    (here : Remembers (policy key).window remembered (recorded key) now)
    (elsewhere : ∀ other, other ≠ key → recorded other = log other) :
    LocalHolds policy (Function.update buckets key remembered) recorded now := by
  intro other
  by_cases same : other = key
  · subst same
    rw [Function.update_self]
    exact here
  · rw [Function.update_of_ne same, elsewhere other same]
    exact holds other

theorem redis_update {set : SortedSet String}
    (holds : RedisHolds policy keyPrefix uuids keys draws log now) (drawn : draws ≤ drawsLater)
    (here : Holds uuids (policy key).window set (recorded key) now drawsLater)
    (elsewhere : ∀ other, other ≠ key → recorded other = log other) :
    RedisHolds policy keyPrefix uuids (Function.update keys (keyPrefix ++ key) set) drawsLater
      recorded now := by
  intro other
  by_cases same : other = key
  · subst same
    rw [Function.update_self]
    exact here
  · have apart : keyPrefix ++ other ≠ keyPrefix ++ key := by
      rwa [ne_eq, String.append_right_inj]
    rw [Function.update_of_ne apart, elsewhere other same]
    exact holds_later (holds other) le_rfl drawn

theorem redis_later (holds : RedisHolds policy keyPrefix uuids keys draws log now)
    (onward : now ≤ later) (drawn : draws ≤ drawsLater) :
    RedisHolds policy keyPrefix uuids keys drawsLater log later :=
  fun key => holds_later (holds key) onward drawn

theorem record_self (log : Log String) (now : Int) {keys : List String} (asked : key ∈ keys) :
    record log now keys key = log key ++ [now] := if_pos asked

theorem record_other (log : Log String) (now : Int) {keys : List String} (others : key ∉ keys) :
    record log now keys key = log key := if_neg others

theorem takeWhile_plain (uuids : Uuids) (index : Nat) :
    (uuids.text index).toList.takeWhile (· ≠ ':') = (uuids.text index).toList := by
  rw [List.takeWhile_eq_self_iff]
  intro character member
  rw [decide_eq_true_eq]
  rintro rfl
  exact uuids.plain index member

end Stores

section Rolling

variable (policy : String → BucketPolicy)

def rollingPolicy (key : String) : Policy := (policy key).toPolicy

/-- A rolling limiter asks one bucket. -/
def rollingKeys (key : String) : List String := [key]

variable {policy} {uuids : Uuids} {keyPrefix : String} {log : Log String} {now : Int}
  {request : Timed String}

theorem local_rolling_step {buckets : Buckets}
    (holds : LocalHolds (rollingPolicy policy) buckets log now) (onward : now ≤ request.now) :
    (localRolling policy buckets request).1 =
        (admitAsk (rollingPolicy policy) rollingKeys log request).1 ∧
      LocalHolds (rollingPolicy policy) (localRolling policy buckets request).2
        (admitAsk (rollingPolicy policy) rollingKeys log request).2 request.now := by
  have holdsNow := local_later holds onward
  have asks : rollingKeys request.ask = [request.ask] := rfl
  obtain ⟨entries, isActive⟩ : ∃ entries,
      active (rollingPolicy policy) log request.now request.ask = entries := ⟨_, rfl⟩
  have admitted : inWindow (policy request.ask).window request.now (buckets request.ask) =
      entries := (holdsNow request.ask request.now le_rfl).trans isActive
  have pruned : Remembers (rollingPolicy policy request.ask).window entries (log request.ask)
      request.now := admitted ▸ remembers_prune (holdsNow request.ask)
  rw [admit_single asks, retryOf, isActive]
  unfold localRolling admitLocal
  unfold inWindow at admitted
  dsimp only
  rw [admitted]
  by_cases full : (policy request.ask).limit ≤ entries.length
  · have fullLog : (rollingPolicy policy request.ask).limit ≤ entries.length := full
    rw [if_pos full, if_pos fullLog]
    exact ⟨rfl, local_update holdsNow pruned fun _ _ => rfl⟩
  · have freeLog : ¬ (rollingPolicy policy request.ask).limit ≤ entries.length := full
    rw [if_neg full, if_neg freeLog]
    refine ⟨rfl, local_update holdsNow ?_ fun other apart => record_other _ _ (by simpa using apart)⟩
    dsimp only
    rw [record_self _ _ (List.mem_singleton_self _)]
    exact remembers_snoc pruned request.now

theorem redis_rolling_step {redis : RedisState}
    (holds : RedisHolds (rollingPolicy policy) keyPrefix uuids redis.keys redis.draws log now)
    (onward : now ≤ request.now) :
    (redisRolling policy keyPrefix uuids redis request).1 =
        some (admitAsk (rollingPolicy policy) rollingKeys log request).1 ∧
      RedisHolds (rollingPolicy policy) keyPrefix uuids
        (redisRolling policy keyPrefix uuids redis request).2.keys
        (redisRolling policy keyPrefix uuids redis request).2.draws
        (admitAsk (rollingPolicy policy) rollingKeys log request).2 request.now := by
  have asks : rollingKeys request.ask = [request.ask] := rfl
  obtain ⟨pruned, scores⟩ := holds_prune (holds request.ask) onward
  have holdsNow : RedisHolds (rollingPolicy policy) keyPrefix uuids redis.keys redis.draws log
      request.now := redis_later holds onward le_rfl
  obtain ⟨entries, isActive⟩ : ∃ entries,
      active (rollingPolicy policy) log request.now request.ask = entries := ⟨_, rfl⟩
  have window : (rollingPolicy policy request.ask).window = (policy request.ask).window := rfl
  rw [admit_single asks, retryOf, isActive]
  unfold redisRolling redisScript
  dsimp only
  rw [window] at pruned scores
  obtain ⟨set, isSet⟩ : ∃ set, ((redis.keys (keyPrefix ++ request.ask)).live
      request.now).removeUpTo (request.now - (policy request.ask).window) = set := ⟨_, rfl⟩
  rw [isSet] at pruned scores ⊢
  have sameScores : set.scores = entries := scores.trans isActive
  rw [card_scores, sameScores]
  by_cases full : (policy request.ask).limit ≤ entries.length
  · have fullLog : (rollingPolicy policy request.ask).limit ≤ entries.length := full
    have past : ∀ entry ∈ entries, entry ≤ request.now := sameScores ▸ pruned.past
    obtain ⟨positive, safe⟩ := retry_safe past (policy request.ask).safe
    rw [if_pos full, if_pos fullLog, window,
      oldest_retry (policy request.ask).positive (sameScores ▸ full), sameScores]
    exact ⟨parse_denied positive safe, redis_update holdsNow (Nat.le_succ _)
      (holds_later pruned le_rfl (Nat.le_succ _)) fun _ _ => rfl⟩
  · have freeLog : ¬ (rollingPolicy policy request.ask).limit ≤ entries.length := full
    rw [if_neg full, if_neg freeLog]
    refine ⟨parse_allowed, redis_update holdsNow (Nat.le_succ _) ?_
      fun other apart => record_other _ _ (by simpa using apart)⟩
    dsimp only
    rw [record_self _ _ (List.mem_singleton_self _)]
    exact holds_add pruned (takeWhile_plain uuids redis.draws)

theorem local_empty (now : Int) :
    LocalHolds (rollingPolicy policy) (fun _ => []) emptyLog now :=
  fun _ => remembers_refl [] now

theorem redis_empty (now : Int) :
    RedisHolds (rollingPolicy policy) keyPrefix uuids emptyRedis.keys emptyRedis.draws emptyLog
      now :=
  fun _ => holds_missing now 0

/-- The local limiter answers as the log does. -/
theorem local_rolling_answers {requests : List (Timed String)} (clocked : Clocked requests) :
    answers (localRolling policy) (fun _ => []) requests =
      answers (admitAsk (rollingPolicy policy) rollingKeys) emptyLog requests := by
  have same := @answers_simulate_start _ _ _ (localRolling policy) _ _
    (admitAsk (rollingPolicy policy) rollingKeys) id (LocalHolds (rollingPolicy policy))
    (fun _ _ _ _ => local_rolling_step) _ _ _ local_empty clocked
  rwa [List.map_id] at same

/-- And the store's script as the local limiter. -/
theorem redis_rolling_answers {requests : List (Timed String)} (clocked : Clocked requests) :
    answers (redisRolling policy keyPrefix uuids) emptyRedis requests =
      (answers (localRolling policy) (fun _ => []) requests).map some := by
  rw [local_rolling_answers clocked]
  refine (@answers_simulate_start _ _ _ (admitAsk (rollingPolicy policy) rollingKeys) _ _
    (redisRolling policy keyPrefix uuids) some (fun log redis now =>
      RedisHolds (rollingPolicy policy) keyPrefix uuids redis.keys redis.draws log now)
    ?_ _ _ _ redis_empty clocked).symm
  intro log redis now request holds onward
  obtain ⟨same, next⟩ := redis_rolling_step holds onward
  exact ⟨same.symm, next⟩

end Rolling

end CommitmentOptimizer.Shared.RollingWindowLimiter
