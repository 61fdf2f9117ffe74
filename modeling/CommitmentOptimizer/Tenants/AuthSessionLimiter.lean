import CommitmentOptimizer.Shared.RollingWindowLimiter

/-!
# The limiter of logins and refreshes

`auth-session-limiter.ts`. A login asks the bucket of the account and that of the
address at once, a refresh asks one bucket. The digest of a key is a parameter.
-/

namespace CommitmentOptimizer.Tenants.AuthSessionLimiter

open Foundations.RollingWindows
open Foundations.SortedSets
open Shared.RollingWindowLimiter

set_option autoImplicit false

def loginWindow : Nat := 15 * 60000

def refreshWindow : Nat := 5 * 60000

section Keys

variable (digest : String → String → String)

def accountKey (value : String) : String := "account:" ++ value

def ipKey (scope value : String) : String := "ip:" ++ scope ++ ":" ++ digest scope value

def familyKey (value : String) : String := "family:" ++ digest "family" value

inductive AuthAsk where
  | login (account clientIp : String)
  | refreshIp (clientIp : String)
  | refreshFamily (familyId : String)

def authKeys : AuthAsk → List String
  | .login account clientIp => [accountKey account, ipKey digest "login" clientIp]
  | .refreshIp clientIp => [ipKey digest "refresh" clientIp]
  | .refreshFamily familyId => [familyKey digest familyId]

/-- The limit and window that the methods give with a bucket of each kind. -/
def authPolicy (key : String) : Policy :=
  match key.toList with
  | 'a' :: _ => ⟨5, loginWindow, by decide⟩
  | 'i' :: 'p' :: ':' :: 'l' :: _ => ⟨20, loginWindow, by decide⟩
  | 'i' :: _ => ⟨60, refreshWindow, by decide⟩
  | _ => ⟨10, refreshWindow, by decide⟩

theorem policy_account (value : String) :
    authPolicy (accountKey value) = ⟨5, loginWindow, by decide⟩ := by
  simp [authPolicy, accountKey, String.toList_append]

theorem policy_login_ip (value : String) :
    authPolicy (ipKey digest "login" value) = ⟨20, loginWindow, by decide⟩ := by
  simp [authPolicy, ipKey, String.toList_append]

theorem policy_refresh_ip (value : String) :
    authPolicy (ipKey digest "refresh" value) = ⟨60, refreshWindow, by decide⟩ := by
  simp [authPolicy, ipKey, String.toList_append]

theorem policy_family (value : String) :
    authPolicy (familyKey digest value) = ⟨10, refreshWindow, by decide⟩ := by
  simp [authPolicy, familyKey, String.toList_append]

theorem account_ne_ip (account scope value : String) :
    accountKey account ≠ ipKey digest scope value := by
  intro same
  have texts := congrArg String.toList same
  simp [accountKey, ipKey, String.toList_append] at texts

end Keys

section Local

def current (buckets : Buckets) (key : String) (window : Nat) (now : Int) : List Int :=
  (buckets key).filter fun entry => now - window < entry

def admitDual (buckets : Buckets) (first second : String) (firstLimit secondLimit window : Nat)
    (now : Int) : Decision × Buckets :=
  let left := current buckets first window now
  let right := current buckets second window now
  let leftFull := firstLimit ≤ left.length
  let rightFull := secondLimit ≤ right.length
  if leftFull ∨ rightFull then
    (.denied (max (if leftFull then retry left window now else 0)
      (if rightFull then retry right window now else 0)), buckets)
  else
    (.allowed, Function.update (Function.update buckets first (left ++ [now])) second
      (right ++ [now]))

def admitOne (buckets : Buckets) (key : String) (limit window : Nat) (now : Int) :
    Decision × Buckets :=
  let entries := current buckets key window now
  if limit ≤ entries.length then (.denied (retry entries window now), buckets)
  else (.allowed, Function.update buckets key (entries ++ [now]))

variable (digest : String → String → String)

def localAuth (buckets : Buckets) (request : Timed AuthAsk) : Decision × Buckets :=
  match request.ask with
  | .login account clientIp =>
      admitDual buckets (accountKey account) (ipKey digest "login" clientIp) 5 20 loginWindow
        request.now
  | .refreshIp clientIp =>
      admitOne buckets (ipKey digest "refresh" clientIp) 60 refreshWindow request.now
  | .refreshFamily familyId =>
      admitOne buckets (familyKey digest familyId) 10 refreshWindow request.now

end Local

section Scripts

/-- `ZREMRANGEBYSCORE` up to the start of the window. -/
def pruneKey (keys : RedisKeys) (key : String) (window : Nat) (now : Int) : RedisKeys :=
  Function.update keys key (((keys key).live now).removeUpTo (now - window))

/-- `ZADD` and `PEXPIRE`. -/
def admitKey (keys : RedisKeys) (key member : String) (window : Nat) (now : Int) : RedisKeys :=
  Function.update keys key (((keys key).add now member).expire now (window * 2))

/-- `retry` of `DUAL_SCRIPT`. -/
def scriptRetry (set : SortedSet String) (window : Nat) (now : Int) : Int :=
  match set.oldest with
  | none => 1
  | some oldest => max 1 (ceilSeconds (oldest + window - now))

def dualScript (keys : RedisKeys) (first second uuid : String) (firstLimit secondLimit window : Nat)
    (now : Int) : Option (Int × Int) × RedisKeys :=
  let keys := pruneKey (pruneKey keys first window now) second window now
  let firstFull := firstLimit ≤ (keys first).card
  let secondFull := secondLimit ≤ (keys second).card
  if firstFull ∨ secondFull then
    (some (0, max (if firstFull then scriptRetry (keys first) window now else 0)
      (if secondFull then scriptRetry (keys second) window now else 0)), keys)
  else
    (some (1, 0), admitKey (admitKey keys first (uuid ++ ":1") window now) second (uuid ++ ":2")
      window now)

def singleScript (keys : RedisKeys) (key uuid : String) (limit window : Nat) (now : Int) :
    Option (Int × Int) × RedisKeys :=
  let keys := pruneKey keys key window now
  if limit ≤ (keys key).card then
    ((keys key).oldest.map fun oldest => (0, max 1 (ceilSeconds (oldest + window - now))), keys)
  else (some (1, 0), admitKey keys key uuid window now)

/-- `none` where it throws. -/
def decision (value : Int × Int) : Option Decision :=
  if (value.1 ≠ 0 ∧ value.1 ≠ 1) ∨ maxSafeInteger < value.2.natAbs then none
  else some (if value.1 = 1 then .allowed else .denied (max 1 value.2))

variable (digest : String → String → String) (keyPrefix : String) (uuids : Uuids)

def redisAuth (redis : RedisState) (request : Timed AuthAsk) : Option Decision × RedisState :=
  let uuid := uuids.text redis.draws
  let (value, keys) := match request.ask with
    | .login account clientIp =>
        dualScript redis.keys (keyPrefix ++ accountKey account)
          (keyPrefix ++ ipKey digest "login" clientIp) uuid 5 20 loginWindow request.now
    | .refreshIp clientIp =>
        singleScript redis.keys (keyPrefix ++ ipKey digest "refresh" clientIp) uuid 60 refreshWindow
          request.now
    | .refreshFamily familyId =>
        singleScript redis.keys (keyPrefix ++ familyKey digest familyId) uuid 10 refreshWindow
          request.now
  (value.bind decision, ⟨keys, redis.draws + 1⟩)

end Scripts

section LocalAnswers

variable {policy : String → Policy} {Ask : Type} {keysOf : Ask → List String} {log : Log String}
  {buckets : Buckets} {now : Int} {request : Timed Ask}

theorem current_active {key : String} {window : Nat} (isWindow : (policy key).window = window)
    (holds : LocalHolds policy buckets log now) :
    current buckets key window now = active policy log now key := by
  subst isWindow
  exact holds key now le_rfl

theorem record_pair (log : Log String) (now : Int) {first second : String}
    (apart : first ≠ second) :
    record log now [first, second] = record (record log now [first]) now [second] := by
  funext key
  by_cases isFirst : key = first
  · subst isFirst
    simp [record, apart]
  · by_cases isSecond : key = second
    · subst isSecond
      simp [record, isFirst]
    · simp [record, isFirst, isSecond]

/-- A bucket remembers one more admitted time. -/
theorem local_record {key : String} {window : Nat} (isWindow : (policy key).window = window)
    (holds : LocalHolds policy buckets log now) :
    LocalHolds policy (Function.update buckets key (current buckets key window now ++ [now]))
      (record log now [key]) now := by
  subst isWindow
  refine local_update holds ?_ fun other apart => record_other _ _ (by simpa using apart)
  rw [record_self _ _ (List.mem_singleton_self _)]
  exact remembers_snoc (remembers_prune (holds key)) now

theorem local_one_step {key : String} {limit window : Nat}
    (asks : keysOf request.ask = [key])
    (isPolicy : (policy key).limit = limit ∧ (policy key).window = window)
    (holds : LocalHolds policy buckets log now) (onward : now ≤ request.now) :
    (admitOne buckets key limit window request.now).1 = (admitAsk policy keysOf log request).1 ∧
      LocalHolds policy (admitOne buckets key limit window request.now).2
        (admitAsk policy keysOf log request).2 request.now := by
  obtain ⟨isLimit, isWindow⟩ := isPolicy
  have holdsNow := local_later holds onward
  have same := current_active isWindow holdsNow
  rw [admit_single asks, retryOf, isLimit, isWindow, ← same]
  unfold admitOne
  dsimp only
  split_ifs with full
  · exact ⟨rfl, holdsNow⟩
  · exact ⟨rfl, local_record isWindow holdsNow⟩

theorem local_dual_step {first second : String} {firstLimit secondLimit window : Nat}
    (asks : keysOf request.ask = [first, second]) (apart : first ≠ second)
    (firstPolicy : (policy first).limit = firstLimit ∧ (policy first).window = window)
    (secondPolicy : (policy second).limit = secondLimit ∧ (policy second).window = window)
    (holds : LocalHolds policy buckets log now) (onward : now ≤ request.now) :
    (admitDual buckets first second firstLimit secondLimit window request.now).1 =
        (admitAsk policy keysOf log request).1 ∧
      LocalHolds policy (admitDual buckets first second firstLimit secondLimit window request.now).2
        (admitAsk policy keysOf log request).2 request.now := by
  obtain ⟨isFirstLimit, isFirstWindow⟩ := firstPolicy
  obtain ⟨isSecondLimit, isSecondWindow⟩ := secondPolicy
  have holdsNow := local_later holds onward
  have sameFirst := current_active isFirstWindow holdsNow
  have sameSecond := current_active isSecondWindow holdsNow
  rw [admit_pair asks]
  simp only [isFull, retryOf, isFirstLimit, isFirstWindow, isSecondLimit, isSecondWindow,
    ← sameFirst, ← sameSecond, decide_eq_true_eq]
  unfold admitDual
  dsimp only
  by_cases full : firstLimit ≤ (current buckets first window request.now).length ∨
      secondLimit ≤ (current buckets second window request.now).length
  · simp only [if_pos full]
    exact ⟨trivial, holdsNow⟩
  · simp only [if_neg full]
    refine ⟨trivial, ?_⟩
    have recorded := local_record isFirstWindow holdsNow
    have elsewhere : current (Function.update buckets first (current buckets first window
        request.now ++ [request.now])) second window request.now =
        current buckets second window request.now := by
      unfold current
      rw [Function.update_of_ne apart.symm]
    rw [record_pair log request.now apart, ← elsewhere]
    exact local_record isSecondWindow recorded

end LocalAnswers

section RedisAnswers

variable {policy : String → Policy} {Ask : Type} {keysOf : Ask → List String} {log : Log String}
  {keys : RedisKeys} {draws : Nat} {now later : Int} {request : Timed Ask} {keyPrefix : String}
  {uuids : Uuids}

theorem prune_holds {key : String} {window : Nat} (isWindow : (policy key).window = window)
    (holds : RedisHolds policy keyPrefix uuids keys draws log now) :
    RedisHolds policy keyPrefix uuids (pruneKey keys (keyPrefix ++ key) window now) draws log now ∧
      (pruneKey keys (keyPrefix ++ key) window now (keyPrefix ++ key)).scores =
        active policy log now key := by
  subst isWindow
  obtain ⟨pruned, scores⟩ := holds_prune (holds key) le_rfl
  refine ⟨redis_update holds le_rfl pruned fun _ _ => rfl, ?_⟩
  rw [pruneKey, Function.update_self, scores]
  rfl

theorem admit_holds {key member : String} {window : Nat} (isWindow : (policy key).window = window)
    (drawn : member.toList.takeWhile (· ≠ ':') = (uuids.text draws).toList)
    (holds : RedisHolds policy keyPrefix uuids keys draws log now) :
    Holds uuids (policy key).window
      (((keys (keyPrefix ++ key)).add now member).expire now (window * 2))
      (record log now [key] key) now (draws + 1) := by
  subst isWindow
  rw [record_self _ _ (List.mem_singleton_self _)]
  exact holds_add (holds key) drawn

theorem script_retry (set : SortedSet String) (window : Nat) (now : Int) :
    scriptRetry set window now = retry set.scores window now := by
  unfold scriptRetry SortedSet.oldest
  cases set.scores <;> rfl

theorem decision_denied {retryAfter : Int} (positive : 1 ≤ retryAfter)
    (safe : retryAfter ≤ maxSafeInteger) :
    decision (0, retryAfter) = some (.denied retryAfter) := by
  unfold decision
  rw [if_neg (by simp; omega), if_neg (by simp), max_eq_right positive]

theorem decision_allowed : decision (1, 0) = some .allowed := by decide

theorem redis_one_step {key uuid : String} {limit window : Nat}
    (asks : keysOf request.ask = [key])
    (isPolicy : (policy key).limit = limit ∧ (policy key).window = window)
    (safe : window ≤ maxSafeInteger) (isUuid : uuids.text draws = uuid)
    (holds : RedisHolds policy keyPrefix uuids keys draws log now) (onward : now ≤ request.now) :
    (singleScript keys (keyPrefix ++ key) uuid limit window request.now).1.bind decision =
        some (admitAsk policy keysOf log request).1 ∧
      RedisHolds policy keyPrefix uuids
        (singleScript keys (keyPrefix ++ key) uuid limit window request.now).2 (draws + 1)
        (admitAsk policy keysOf log request).2 request.now := by
  obtain ⟨isLimit, isWindow⟩ := isPolicy
  obtain ⟨pruned, scores⟩ := prune_holds isWindow (redis_later holds onward le_rfl)
  rw [admit_single asks, retryOf, isLimit, isWindow, ← scores]
  unfold singleScript
  dsimp only
  rw [card_scores]
  obtain ⟨set, isSet⟩ : ∃ set, pruneKey keys (keyPrefix ++ key) window request.now
    (keyPrefix ++ key) = set := ⟨_, rfl⟩
  have past : ∀ entry ∈ set.scores, entry ≤ request.now := isSet ▸ (pruned key).past
  rw [isSet]
  by_cases full : limit ≤ set.scores.length
  · obtain ⟨positive, bounded⟩ := retry_safe past safe
    rw [if_pos full, if_pos full, oldest_retry (isLimit ▸ (policy key).positive) full]
    exact ⟨decision_denied positive bounded, redis_later pruned le_rfl (Nat.le_succ _)⟩
  · rw [if_neg full, if_neg full]
    refine ⟨decision_allowed, ?_⟩
    have member : uuid.toList.takeWhile (· ≠ ':') = (uuids.text draws).toList := by
      rw [← isUuid]
      exact takeWhile_plain uuids draws
    exact redis_update pruned (Nat.le_succ _) (admit_holds isWindow member pruned)
      fun other apart => record_other _ _ (by simpa using apart)

/-- A member of either script names the text it was made from. -/
theorem takeWhile_tagged (uuids : Uuids) (index : Nat) (tag : List Char) :
    ((uuids.text index).toList ++ ':' :: tag).takeWhile (· ≠ ':') = (uuids.text index).toList := by
  rw [List.takeWhile_append_of_pos]
  · simp
  · intro character member
    rw [decide_eq_true_eq]
    rintro rfl
    exact uuids.plain index member

theorem redis_dual_step {first second uuid : String} {firstLimit secondLimit window : Nat}
    (asks : keysOf request.ask = [first, second]) (apart : first ≠ second)
    (firstPolicy : (policy first).limit = firstLimit ∧ (policy first).window = window)
    (secondPolicy : (policy second).limit = secondLimit ∧ (policy second).window = window)
    (safe : window ≤ maxSafeInteger) (isUuid : uuids.text draws = uuid)
    (holds : RedisHolds policy keyPrefix uuids keys draws log now) (onward : now ≤ request.now) :
    (dualScript keys (keyPrefix ++ first) (keyPrefix ++ second) uuid firstLimit secondLimit window
        request.now).1.bind decision = some (admitAsk policy keysOf log request).1 ∧
      RedisHolds policy keyPrefix uuids
        (dualScript keys (keyPrefix ++ first) (keyPrefix ++ second) uuid firstLimit secondLimit
          window request.now).2 (draws + 1) (admitAsk policy keysOf log request).2 request.now := by
  obtain ⟨isFirstLimit, isFirstWindow⟩ := firstPolicy
  obtain ⟨isSecondLimit, isSecondWindow⟩ := secondPolicy
  obtain ⟨prunedFirst, firstScores⟩ := prune_holds isFirstWindow (redis_later holds onward le_rfl)
  obtain ⟨pruned, secondScores⟩ := prune_holds isSecondWindow prunedFirst
  have keysApart : keyPrefix ++ first ≠ keyPrefix ++ second := by
    rwa [ne_eq, String.append_right_inj]
  have firstKept : pruneKey (pruneKey keys (keyPrefix ++ first) window request.now)
      (keyPrefix ++ second) window request.now (keyPrefix ++ first) =
      pruneKey keys (keyPrefix ++ first) window request.now (keyPrefix ++ first) :=
    Function.update_of_ne keysApart _ _
  rw [← firstKept] at firstScores
  rw [admit_pair asks]
  unfold dualScript
  dsimp only
  obtain ⟨ready, isReady⟩ : ∃ ready, pruneKey (pruneKey keys (keyPrefix ++ first) window
    request.now) (keyPrefix ++ second) window request.now = ready := ⟨_, rfl⟩
  rw [isReady] at pruned firstScores secondScores ⊢
  simp only [isFull, retryOf, isFirstLimit, isFirstWindow, isSecondLimit, isSecondWindow,
    ← firstScores, ← secondScores, decide_eq_true_eq, card_scores, script_retry]
  have pastFirst : ∀ entry ∈ (ready (keyPrefix ++ first)).scores, entry ≤ request.now :=
    (pruned first).past
  have pastSecond : ∀ entry ∈ (ready (keyPrefix ++ second)).scores, entry ≤ request.now :=
    (pruned second).past
  obtain ⟨firstPositive, firstBounded⟩ := retry_safe pastFirst safe
  obtain ⟨secondPositive, secondBounded⟩ := retry_safe pastSecond safe
  by_cases full : firstLimit ≤ (ready (keyPrefix ++ first)).scores.length ∨
      secondLimit ≤ (ready (keyPrefix ++ second)).scores.length
  · simp only [if_pos full]
    refine ⟨?_, redis_later pruned le_rfl (Nat.le_succ _)⟩
    refine decision_denied ?_ ?_
    · rcases full with firstFull | secondFull
      · rw [if_pos firstFull]
        exact le_max_of_le_left firstPositive
      · rw [if_pos secondFull]
        exact le_max_of_le_right secondPositive
    · refine max_le ?_ ?_ <;> split_ifs <;> first | assumption | simp
  · simp only [if_neg full]
    refine ⟨decision_allowed, ?_⟩
    have tagged : ∀ tag : List Char, ∀ text : String, text.toList = ':' :: tag →
        (uuid ++ text).toList.takeWhile (· ≠ ':') = (uuids.text draws).toList := by
      intro tag text isText
      rw [← isUuid, String.toList_append, isText]
      exact takeWhile_tagged uuids draws tag
    have firstAdmitted := admit_holds isFirstWindow (tagged ['1'] ":1" rfl) pruned
    have secondAdmitted := admit_holds isSecondWindow (tagged ['2'] ":2" rfl) pruned
    have firstHolds := redis_update pruned (Nat.le_succ _) firstAdmitted
      fun other others => record_other _ _ (by simpa using others)
    have secondKept : admitKey ready (keyPrefix ++ first) (uuid ++ ":1") window request.now
        (keyPrefix ++ second) = ready (keyPrefix ++ second) :=
      Function.update_of_ne keysApart.symm _ _
    rw [record_pair log request.now apart]
    refine redis_update firstHolds le_rfl ?_ fun other others => record_other _ _
      (by simpa using others)
    have sameRecord : record (record log request.now [first]) request.now [second] second =
        record log request.now [second] second := by
      rw [record_self _ _ (List.mem_singleton_self _), record_self _ _ (List.mem_singleton_self _),
        record_other _ _ (by simpa using apart.symm)]
    rw [secondKept, sameRecord]
    exact secondAdmitted

end RedisAnswers

section Limiters

variable (digest : String → String → String) (keyPrefix : String) (uuids : Uuids)

theorem login_safe : loginWindow ≤ maxSafeInteger := by decide

theorem refresh_safe : refreshWindow ≤ maxSafeInteger := by decide

theorem local_auth_step {buckets : Buckets} {log : Log String} {now : Int}
    {request : Timed AuthAsk} (holds : LocalHolds authPolicy buckets log now)
    (onward : now ≤ request.now) :
    (localAuth digest buckets request).1 = (admitAsk authPolicy (authKeys digest) log request).1 ∧
      LocalHolds authPolicy (localAuth digest buckets request).2
        (admitAsk authPolicy (authKeys digest) log request).2 request.now := by
  obtain ⟨ask, time⟩ := request
  cases ask with
  | login account clientIp =>
      have accountPolicy := policy_account account
      have ipPolicy := policy_login_ip digest clientIp
      exact local_dual_step rfl (account_ne_ip digest account "login" clientIp)
        (by simp [accountPolicy]) (by simp [ipPolicy]) holds onward
  | refreshIp clientIp =>
      have ipPolicy := policy_refresh_ip digest clientIp
      exact local_one_step rfl (by simp [ipPolicy]) holds onward
  | refreshFamily familyId =>
      have familyPolicy := policy_family digest familyId
      exact local_one_step rfl (by simp [familyPolicy]) holds onward

theorem redis_auth_step {redis : RedisState} {log : Log String} {now : Int}
    {request : Timed AuthAsk}
    (holds : RedisHolds authPolicy keyPrefix uuids redis.keys redis.draws log now)
    (onward : now ≤ request.now) :
    (redisAuth digest keyPrefix uuids redis request).1 =
        some (admitAsk authPolicy (authKeys digest) log request).1 ∧
      RedisHolds authPolicy keyPrefix uuids (redisAuth digest keyPrefix uuids redis request).2.keys
        (redisAuth digest keyPrefix uuids redis request).2.draws
        (admitAsk authPolicy (authKeys digest) log request).2 request.now := by
  obtain ⟨ask, time⟩ := request
  cases ask with
  | login account clientIp =>
      have accountPolicy := policy_account account
      have ipPolicy := policy_login_ip digest clientIp
      exact redis_dual_step rfl (account_ne_ip digest account "login" clientIp)
        (by simp [accountPolicy]) (by simp [ipPolicy]) login_safe rfl holds onward
  | refreshIp clientIp =>
      have ipPolicy := policy_refresh_ip digest clientIp
      exact redis_one_step rfl (by simp [ipPolicy]) refresh_safe rfl holds onward
  | refreshFamily familyId =>
      have familyPolicy := policy_family digest familyId
      exact redis_one_step rfl (by simp [familyPolicy]) refresh_safe rfl holds onward

theorem local_auth_answers {requests : List (Timed AuthAsk)} (clocked : Clocked requests) :
    answers (localAuth digest) (fun _ => []) requests =
      answers (admitAsk authPolicy (authKeys digest)) emptyLog requests := by
  have same := @answers_simulate_start _ _ _ (localAuth digest) _ _
    (admitAsk authPolicy (authKeys digest)) id (LocalHolds authPolicy)
    (fun _ _ _ _ => local_auth_step digest) _ _ _ (fun now _ => remembers_refl [] now) clocked
  rwa [List.map_id] at same

theorem redis_auth_answers {requests : List (Timed AuthAsk)} (clocked : Clocked requests) :
    answers (redisAuth digest keyPrefix uuids) emptyRedis requests =
      (answers (localAuth digest) (fun _ => []) requests).map some := by
  rw [local_auth_answers digest clocked]
  refine (@answers_simulate_start _ _ _ (admitAsk authPolicy (authKeys digest)) _ _
    (redisAuth digest keyPrefix uuids) some (fun log redis now =>
      RedisHolds authPolicy keyPrefix uuids redis.keys redis.draws log now)
    ?_ _ _ _ (fun now _ => holds_missing now 0) clocked).symm
  intro log redis now request holds onward
  obtain ⟨same, next⟩ := redis_auth_step digest keyPrefix uuids holds onward
  exact ⟨same.symm, next⟩

/-- The local limiters and the scripts decide alike, and as a limiter should. -/
theorem limiters_right (policy : String → BucketPolicy) :
    RightLimiter (rollingPolicy policy) rollingKeys
        (answers (localRolling policy) fun _ => []) ∧
      (∀ requests, Clocked requests →
        answers (redisRolling policy keyPrefix uuids) emptyRedis requests =
          (answers (localRolling policy) (fun _ => []) requests).map some) ∧
      RightLimiter authPolicy (authKeys digest) (answers (localAuth digest) fun _ => []) ∧
      (∀ requests, Clocked requests →
        answers (redisAuth digest keyPrefix uuids) emptyRedis requests =
          (answers (localAuth digest) (fun _ => []) requests).map some) :=
  ⟨right_of_answers fun _ => local_rolling_answers, fun _ => redis_rolling_answers,
    right_of_answers fun _ => local_auth_answers digest,
    fun _ => redis_auth_answers digest keyPrefix uuids⟩

end Limiters

end CommitmentOptimizer.Tenants.AuthSessionLimiter
