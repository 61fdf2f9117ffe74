import Mathlib.Data.List.Basic
import Mathlib.Algebra.Order.Group.Int
import Mathlib.Tactic.Ring

/-!
# Rolling windows

A bucket admits a bounded number of requests in any window of time. The log keeps
every admitted time of every bucket, and a request may ask several buckets at
once: it is admitted by all of them or by none. An implementation that forgets
old times is compared with the log by `answers_simulate`.
-/

namespace CommitmentOptimizer.Foundations.RollingWindows

set_option autoImplicit false

structure Policy where
  limit : Nat
  window : Nat
  positive : 0 < limit

inductive Decision where
  | allowed
  | denied (retryAfterSeconds : Int)
  deriving DecidableEq, Repr

/-- A request and the time at which it is made, in milliseconds. -/
structure Timed (Ask : Type) where
  ask : Ask
  now : Int

/-- The admitted times of each bucket, oldest first. -/
abbrev Log (Key : Type) := Key → List Int

def ceilSeconds (milliseconds : Int) : Int := (milliseconds + 999) / 1000

theorem ceil_seconds_le {milliseconds seconds : Int} :
    ceilSeconds milliseconds ≤ seconds ↔ milliseconds ≤ 1000 * seconds := by
  unfold ceilSeconds
  omega

/-- The seconds until the oldest of the entries leaves the window. -/
def retry (entries : List Int) (window : Nat) (now : Int) : Int :=
  match entries with
  | [] => 1
  | oldest :: _ => max 1 (ceilSeconds (oldest + window - now))

def inWindow (window : Nat) (now : Int) (times : List Int) : List Int :=
  times.filter fun time => now - window < time

section Windows

variable {limit window : Nat} {times : List Int} {now later : Int}

theorem in_window_later (onward : now ≤ later) :
    inWindow window later (inWindow window now times) = inWindow window later times := by
  unfold inWindow
  rw [List.filter_filter]
  refine List.filter_congr fun time _ => ?_
  rw [Bool.eq_iff_iff]
  simp only [Bool.and_eq_true, decide_eq_true_eq]
  omega

theorem in_window_append (added : List Int) :
    inWindow window now (times ++ added) = inWindow window now times ++ inWindow window now added :=
  List.filter_append _ _

/-- The remembered times tell as much as all of them from now on. -/
def Remembers (window : Nat) (remembered times : List Int) (now : Int) : Prop :=
  ∀ later, now ≤ later → inWindow window later remembered = inWindow window later times

theorem remembers_refl (times : List Int) (now : Int) : Remembers window times times now :=
  fun _ _ => rfl

theorem remembers_later {remembered : List Int} (remembers : Remembers window remembered times now)
    (onward : now ≤ later) : Remembers window remembered times later :=
  fun last after => remembers last (onward.trans after)

/-- Times out of the window may be forgotten. -/
theorem remembers_prune {remembered : List Int} (remembers : Remembers window remembered times now) :
    Remembers window (inWindow window now remembered) times now := by
  intro last onward
  rw [in_window_later onward, remembers last onward]

theorem remembers_snoc {remembered : List Int} (remembers : Remembers window remembered times now)
    (added : Int) : Remembers window (remembered ++ [added]) (times ++ [added]) now := by
  intro last onward
  rw [in_window_append, in_window_append, remembers last onward]

/-- Each time was admitted when fewer than `limit` were in the window. -/
inductive Admissible (limit window : Nat) : List Int → Prop
  | nil : Admissible limit window []
  | snoc {times : List Int} {now : Int} (earlier : Admissible limit window times)
      (room : (inWindow window now times).length < limit) :
      Admissible limit window (times ++ [now])

/-- A set of times that lie less than a window apart holds at most `limit` of them. -/
theorem admissible_bounded (admissible : Admissible limit window times) (inside : Int → Bool)
    (close : ∀ early late, inside early = true → inside late = true → late - window < early) :
    (times.filter inside).length ≤ limit := by
  induction admissible with
  | nil => exact Nat.zero_le _
  | @snoc times now earlier room induction =>
      rw [List.filter_append, List.length_append]
      cases last : inside now with
      | false => simpa [last] using induction
      | true =>
          have fewer : (times.filter inside).length ≤ (inWindow window now times).length := by
            refine List.Sublist.length_le (List.monotone_filter_right times fun time kept => ?_)
            exact decide_eq_true (close time now kept last)
          simp only [List.filter_cons, last, if_true, List.filter_nil, List.length_singleton]
          omega

theorem at_most_limit (admissible : Admissible limit window times) :
    (inWindow window now (times.filter (· ≤ now))).length ≤ limit := by
  unfold inWindow
  rw [List.filter_filter]
  refine admissible_bounded admissible _ ?_
  intro early late isEarly isLate
  simp only [Bool.and_eq_true, decide_eq_true_eq] at isEarly isLate
  omega

/-- A full window has room again exactly when its oldest time has left it. -/
theorem room_iff_retry (ordered : times.Pairwise (· ≤ ·))
    (past : ∀ time ∈ times, time ≤ now) (positive : 0 < limit)
    (admissible : Admissible limit window times)
    (full : limit ≤ (inWindow window now times).length) {seconds : Int} (atLeastOne : 1 ≤ seconds) :
    (inWindow window (now + 1000 * seconds) times).length < limit ↔
      retry (inWindow window now times) window now ≤ seconds := by
  have whole : times.filter (· ≤ now) = times := List.filter_eq_self.mpr (by simpa using past)
  have most : (inWindow window now (times.filter (· ≤ now))).length ≤ limit :=
    at_most_limit admissible
  rw [whole] at most
  have pruned : inWindow window (now + 1000 * seconds) (inWindow window now times) =
      inWindow window (now + 1000 * seconds) times := in_window_later (by omega)
  rw [← pruned]
  have orderedInside : (inWindow window now times).Pairwise (· ≤ ·) :=
    ordered.sublist List.filter_sublist
  cases inside : inWindow window now times with
  | nil =>
      rw [inside, List.length_nil] at full
      omega
  | cons oldest rest =>
      rw [inside] at orderedInside full most
      have lower := (List.pairwise_cons.mp orderedInside).1
      have size : (oldest :: rest).length = limit := Nat.le_antisymm most full
      rw [retry, max_le_iff, ceil_seconds_le]
      constructor
      · intro room
        refine ⟨atLeastOne, ?_⟩
        by_contra stays
        have all : inWindow window (now + 1000 * seconds) (oldest :: rest) = oldest :: rest := by
          refine List.filter_eq_self.mpr fun time member => decide_eq_true ?_
          rcases List.mem_cons.mp member with rfl | later
          · omega
          · have above := lower time later
            omega
        rw [all, size] at room
        exact Nat.lt_irrefl _ room
      · rintro ⟨_, leaves⟩
        have gone : ¬ now + 1000 * seconds - (window : Int) < oldest := by omega
        have fewer : inWindow window (now + 1000 * seconds) (oldest :: rest) =
            inWindow window (now + 1000 * seconds) rest := by
          unfold inWindow
          rw [List.filter_cons_of_neg (by simpa using gone)]
        have shorter : (inWindow window (now + 1000 * seconds) rest).length ≤ rest.length :=
          List.length_filter_le _ _
        rw [fewer]
        rw [List.length_cons] at size
        omega

end Windows

section Buckets

variable {Key Ask : Type} (policy : Key → Policy) (keysOf : Ask → List Key)

def active (log : Log Key) (now : Int) (key : Key) : List Int :=
  inWindow (policy key).window now (log key)

def isFull (log : Log Key) (now : Int) (key : Key) : Bool :=
  (policy key).limit ≤ (active policy log now key).length

def retryOf (log : Log Key) (now : Int) (key : Key) : Int :=
  retry (active policy log now key) (policy key).window now

/-- Denied by any full bucket, until all of them have room. -/
def verdict (log : Log Key) (now : Int) (keys : List Key) : Decision :=
  match keys.filter (isFull policy log now) with
  | [] => .allowed
  | key :: rest => .denied (((key :: rest).map (retryOf policy log now)).foldr max 0)

variable [DecidableEq Key]

def record (log : Log Key) (now : Int) (keys : List Key) : Log Key :=
  fun key => if key ∈ keys then log key ++ [now] else log key

def admitAsk (log : Log Key) (request : Timed Ask) : Decision × Log Key :=
  let decision := verdict policy log request.now (keysOf request.ask)
  (decision, if decision = .allowed then record log request.now (keysOf request.ask) else log)

def emptyLog : Log Key := fun _ => []

/-- What the log of a limiter is like at a time. -/
structure Sound (log : Log Key) (now : Int) : Prop where
  admissible : ∀ key, Admissible (policy key).limit (policy key).window (log key)
  ordered : ∀ key, (log key).Pairwise (· ≤ ·)
  past : ∀ key, ∀ time ∈ log key, time ≤ now

end Buckets

section Sound

variable {Key Ask : Type} {policy : Key → Policy} {keysOf : Ask → List Key} {log : Log Key}
  {now later : Int}

theorem sound_empty (now : Int) : Sound policy emptyLog now :=
  ⟨fun _ => .nil, fun _ => List.Pairwise.nil, nofun⟩

theorem sound_later (sound : Sound policy log now) (onward : now ≤ later) :
    Sound policy log later :=
  ⟨sound.admissible, sound.ordered,
    fun key time member => (sound.past key time member).trans onward⟩

theorem verdict_allowed_iff {keys : List Key} :
    verdict policy log now keys = .allowed ↔ ∀ key ∈ keys, isFull policy log now key = false := by
  unfold verdict
  split
  next none =>
    rw [List.filter_eq_nil_iff] at none
    exact iff_of_true rfl fun key member => Bool.eq_false_iff.mpr (none key member)
  next key rest some =>
    refine iff_of_false nofun fun free => ?_
    have member : key ∈ keys.filter (isFull policy log now) := by
      rw [some]
      exact List.mem_cons_self
    obtain ⟨asked, full⟩ := List.mem_filter.mp member
    rw [free key asked] at full
    cases full

theorem sound_after_asking [DecidableEq Key] {request : Timed Ask} (sound : Sound policy log now)
    (onward : now ≤ request.now) :
    Sound policy (admitAsk policy keysOf log request).2 request.now := by
  have soundLater := sound_later sound onward
  unfold admitAsk
  dsimp only
  split_ifs with allowed
  · refine ⟨fun key => ?_, fun key => ?_, fun key => ?_⟩ <;> unfold record <;>
      split_ifs with asked
    · have free := verdict_allowed_iff.mp allowed key asked
      exact .snoc (sound.admissible key) (Nat.lt_of_not_le (of_decide_eq_false free))
    · exact sound.admissible key
    · refine List.pairwise_append.mpr ⟨sound.ordered key, List.pairwise_singleton _ _, ?_⟩
      intro time member last isLast
      rw [List.mem_singleton.mp isLast]
      exact soundLater.past key time member
    · exact sound.ordered key
    · intro time member
      rcases List.mem_append.mp member with earlier | isNow
      · exact soundLater.past key time earlier
      · exact (List.mem_singleton.mp isNow).le
    · exact soundLater.past key
  · exact soundLater

theorem one_le_retry (entries : List Int) (window : Nat) (now : Int) :
    1 ≤ retry entries window now := by
  unfold retry
  split
  · exact le_rfl
  · exact le_max_left _ _

theorem foldr_max_le {seconds : Int} (values : List Int) (nonnegative : 0 ≤ seconds) :
    values.foldr max 0 ≤ seconds ↔ ∀ value ∈ values, value ≤ seconds := by
  induction values with
  | nil => simpa using nonnegative
  | cons value rest induction => simp [induction]

theorem verdict_single (key : Key) :
    verdict policy log now [key] =
      if isFull policy log now key then .denied (retryOf policy log now key) else .allowed := by
  unfold verdict
  cases full : isFull policy log now key with
  | false => simp [full]
  | true =>
      have positive := one_le_retry (active policy log now key) (policy key).window now
      simp [full, retryOf]
      omega

theorem verdict_pair (left right : Key) :
    verdict policy log now [left, right] =
      if isFull policy log now left ∨ isFull policy log now right then
        .denied (max (if isFull policy log now left then retryOf policy log now left else 0)
          (if isFull policy log now right then retryOf policy log now right else 0))
      else .allowed := by
  unfold verdict
  have leftPositive := one_le_retry (active policy log now left) (policy left).window now
  have rightPositive := one_le_retry (active policy log now right) (policy right).window now
  cases fullLeft : isFull policy log now left <;>
    cases fullRight : isFull policy log now right <;> simp [fullLeft, fullRight, retryOf]
  · rw [max_comm]
  · omega

theorem admit_single [DecidableEq Key] {request : Timed Ask} {key : Key}
    (asks : keysOf request.ask = [key]) :
    admitAsk policy keysOf log request =
      if (policy key).limit ≤ (active policy log request.now key).length then
        (.denied (retryOf policy log request.now key), log)
      else (.allowed, record log request.now [key]) := by
  unfold admitAsk
  rw [asks, verdict_single, isFull]
  by_cases full : (policy key).limit ≤ (active policy log request.now key).length <;> simp [full]

theorem admit_pair [DecidableEq Key] {request : Timed Ask} {left right : Key}
    (asks : keysOf request.ask = [left, right]) :
    admitAsk policy keysOf log request =
      if isFull policy log request.now left ∨ isFull policy log request.now right then
        (.denied (max (if isFull policy log request.now left then
            retryOf policy log request.now left else 0)
          (if isFull policy log request.now right then
            retryOf policy log request.now right else 0)), log)
      else (.allowed, record log request.now [left, right]) := by
  unfold admitAsk
  rw [asks, verdict_pair]
  by_cases full : isFull policy log request.now left ∨ isFull policy log request.now right
  · simp only [if_pos full, reduceCtorEq, if_false]
  · simp only [if_neg full, if_true]

/-- A bucket has room from now on, or has it again when its wait is over. -/
theorem free_later_iff {key : Key} (sound : Sound policy log now) {seconds : Int}
    (atLeastOne : 1 ≤ seconds) :
    isFull policy log (now + 1000 * seconds) key = false ↔
      (isFull policy log now key = true → retryOf policy log now key ≤ seconds) := by
  rw [isFull, decide_eq_false_iff_not, Nat.not_le]
  cases full : isFull policy log now key with
  | true =>
      refine Iff.trans ?_ (forall_prop_of_true rfl).symm
      exact room_iff_retry (sound.ordered key) (sound.past key) (policy key).positive
        (sound.admissible key) (of_decide_eq_true full) atLeastOne
  | false =>
      refine iff_of_true ?_ nofun
      have pruned : inWindow (policy key).window (now + 1000 * seconds)
          (inWindow (policy key).window now (log key)) =
          inWindow (policy key).window (now + 1000 * seconds) (log key) :=
        in_window_later (by omega)
      unfold active
      rw [← pruned]
      exact Nat.lt_of_le_of_lt (List.length_filter_le _ _)
        (Nat.lt_of_not_le (of_decide_eq_false full))

/-- A denial names the first whole second at which the same request has room. -/
theorem denied_until {keys : List Key} {retryAfter : Int} (sound : Sound policy log now)
    (denied : verdict policy log now keys = .denied retryAfter) :
    1 ≤ retryAfter ∧ ∀ seconds, 1 ≤ seconds →
      (verdict policy log (now + 1000 * seconds) keys = .allowed ↔ retryAfter ≤ seconds) := by
  unfold verdict at denied
  split at denied
  next => cases denied
  next key rest full =>
    cases denied
    refine ⟨le_max_of_le_left (one_le_retry _ _ _), ?_⟩
    intro seconds atLeastOne
    rw [← full, foldr_max_le _ (by omega), List.forall_mem_map, verdict_allowed_iff]
    simp only [List.mem_filter, and_imp]
    exact forall_congr' fun key => forall_congr' fun _ => free_later_iff sound atLeastOne

end Sound

section Answers

variable {State Ask Answer : Type}

/-- The answers of a limiter to requests one after another. -/
def answers (admitAsk : State → Timed Ask → Answer × State) :
    State → List (Timed Ask) → List Answer
  | _, [] => []
  | state, request :: rest =>
      (admitAsk state request).1 :: answers admitAsk (admitAsk state request).2 rest

def after (admitAsk : State → Timed Ask → Answer × State) (state : State)
    (requests : List (Timed Ask)) : State :=
  requests.foldl (fun state request => (admitAsk state request).2) state

/-- The clock does not go back. -/
def Clocked (requests : List (Timed Ask)) : Prop :=
  (requests.map fun request => request.now).Pairwise (· ≤ ·)

variable {admitAsk : State → Timed Ask → Answer × State}

theorem answers_append (state : State) (first second : List (Timed Ask)) :
    answers admitAsk state (first ++ second) =
      answers admitAsk state first ++ answers admitAsk (after admitAsk state first) second := by
  induction first generalizing state with
  | nil => rfl
  | cons request first induction =>
      rw [List.cons_append, answers, answers, induction]
      rfl

theorem length_answers (state : State) (requests : List (Timed Ask)) :
    (answers admitAsk state requests).length = requests.length := by
  induction requests generalizing state with
  | nil => rfl
  | cons request rest induction => rw [answers, List.length_cons, induction, List.length_cons]

theorem clocked_cons {request : Timed Ask} {rest : List (Timed Ask)}
    (clocked : Clocked (request :: rest)) :
    (∀ later ∈ rest, request.now ≤ later.now) ∧ Clocked rest := by
  obtain ⟨before, onward⟩ := List.pairwise_cons.mp clocked
  exact ⟨fun later member => before later.now (List.mem_map_of_mem member), onward⟩

/-- Simulation rule: a relation that says which states answer alike from a time on. -/
theorem answers_simulate {Other OtherAnswer : Type}
    {other : Other → Timed Ask → OtherAnswer × Other} {f : Answer → OtherAnswer}
    {r : State → Other → Int → Prop}
    (onward : ∀ left right now request, r left right now → now ≤ request.now →
      f (admitAsk left request).1 = (other right request).1 ∧
        r (admitAsk left request).2 (other right request).2 request.now)
    {left : State} {right : Other} {now : Int} {requests : List (Timed Ask)}
    (initially : r left right now) (clocked : Clocked requests)
    (late : ∀ request ∈ requests, now ≤ request.now) :
    (answers admitAsk left requests).map f = answers other right requests := by
  induction requests generalizing left right now with
  | nil => rfl
  | cons request rest induction =>
      obtain ⟨same, next⟩ :=
        onward left right now request initially (late request List.mem_cons_self)
      obtain ⟨before, clockedRest⟩ := clocked_cons clocked
      rw [answers, answers, List.map_cons, same, induction next clockedRest before]

/-- From states that are related at any time. -/
theorem answers_simulate_start {Other OtherAnswer : Type}
    {other : Other → Timed Ask → OtherAnswer × Other} {f : Answer → OtherAnswer}
    {r : State → Other → Int → Prop}
    (onward : ∀ left right now request, r left right now → now ≤ request.now →
      f (admitAsk left request).1 = (other right request).1 ∧
        r (admitAsk left request).2 (other right request).2 request.now)
    {left : State} {right : Other} {requests : List (Timed Ask)}
    (initially : ∀ now, r left right now) (clocked : Clocked requests) :
    (answers admitAsk left requests).map f = answers other right requests := by
  cases requests with
  | nil => rfl
  | cons request rest =>
      refine answers_simulate onward (initially request.now) clocked fun later member => ?_
      rcases List.mem_cons.mp member with rfl | inRest
      · exact le_rfl
      · exact (clocked_cons clocked).1 later inRest

/-- Invariant rule for a property that speaks of the time. -/
theorem after_preserves {p : State → Int → Prop}
    (onward : ∀ state now request, p state now → now ≤ request.now →
      p (admitAsk state request).2 request.now)
    {state : State} {now : Int} {requests : List (Timed Ask)} (initially : p state now)
    (clocked : Clocked requests) (late : ∀ request ∈ requests, now ≤ request.now) :
    ∃ last, p (after admitAsk state requests) last ∧
      ∀ time, now ≤ time → (∀ request ∈ requests, request.now ≤ time) → last ≤ time := by
  induction requests generalizing state now with
  | nil => exact ⟨now, initially, fun time above _ => above⟩
  | cons request rest induction =>
      obtain ⟨before, clockedRest⟩ := clocked_cons clocked
      obtain ⟨last, holdsLast, bound⟩ := induction
        (onward state now request initially (late request List.mem_cons_self)) clockedRest before
      refine ⟨last, holdsLast, fun time _ above => ?_⟩
      exact bound time (above request List.mem_cons_self)
        fun later member => above later (List.mem_cons_of_mem _ member)

end Answers

section Right

variable {Key Ask : Type} [DecidableEq Key] (policy : Key → Policy) (keysOf : Ask → List Key)

/-- The times of the admitted requests that asked a bucket. -/
def admittedTimes (key : Key) (requests : List (Timed Ask)) (decisions : List Decision) :
    List Int :=
  ((requests.zip decisions).filter fun entry =>
    entry.2 = .allowed && key ∈ keysOf entry.1.ask).map fun entry => entry.1.now

/-- What a limiter promises, for every list of requests along the clock. -/
structure RightLimiter (answer : List (Timed Ask) → List Decision) : Prop where
  /-- In a half-open interval of one window a bucket admits at most its limit. -/
  bounded : ∀ requests, Clocked requests → ∀ key start,
    ((admittedTimes keysOf key requests (answer requests)).filter fun time : Int =>
      start ≤ time && time < start + (policy key).window).length ≤ (policy key).limit ∧
    ((admittedTimes keysOf key requests (answer requests)).filter fun time : Int =>
      start < time && time ≤ start + (policy key).window).length ≤ (policy key).limit
  /-- Without a denied request the others are answered the same. -/
  deniedFree : ∀ first request second, Clocked (first ++ request :: second) →
    ∀ before retryAfter rest, before.length = first.length →
      answer (first ++ request :: second) = before ++ .denied retryAfter :: rest →
      answer (first ++ second) = before ++ rest
  /-- The same request is admitted after that many whole seconds and not before. -/
  retryExact : ∀ first request, Clocked (first ++ [request]) → ∀ before retryAfter,
    answer (first ++ [request]) = before ++ [.denied retryAfter] →
    1 ≤ retryAfter ∧ ∀ seconds : Int, 1 ≤ seconds →
      (answer (first ++ [request, ⟨request.ask, request.now + 1000 * seconds⟩]) =
        before ++ [.denied retryAfter, .allowed] ↔ retryAfter ≤ seconds)

variable {policy keysOf}

theorem clocked_append {first second : List (Timed Ask)} (clocked : Clocked (first ++ second)) :
    Clocked first ∧ Clocked second ∧
      ∀ early ∈ first, ∀ late ∈ second, early.now ≤ late.now := by
  unfold Clocked at clocked
  rw [List.map_append] at clocked
  obtain ⟨isFirst, isSecond, across⟩ := List.pairwise_append.mp clocked
  exact ⟨isFirst, isSecond, fun early earlyMember late lateMember =>
    across _ (List.mem_map_of_mem earlyMember) _ (List.mem_map_of_mem lateMember)⟩

variable (policy keysOf) in
/-- The log holds the admitted times. -/
theorem after_log (log : Log Key) (requests : List (Timed Ask)) (key : Key) :
    after (admitAsk policy keysOf) log requests key =
      log key ++
        admittedTimes keysOf key requests (answers (admitAsk policy keysOf) log requests) := by
  induction requests generalizing log with
  | nil => simp [after, admittedTimes]
  | cons request rest induction =>
      have onward := induction (admitAsk policy keysOf log request).2
      rw [answers]
      unfold after at onward ⊢
      rw [List.foldl_cons, onward]
      simp only [admittedTimes, List.zip_cons_cons, List.filter_cons]
      cases allowed : (admitAsk policy keysOf log request).1 with
      | denied retryAfter =>
          have same : (admitAsk policy keysOf log request).2 = log := by
            unfold admitAsk at allowed ⊢
            dsimp only at allowed ⊢
            rw [allowed, if_neg nofun]
          rw [same]
          rfl
      | allowed =>
          have recorded : (admitAsk policy keysOf log request).2 =
              record log request.now (keysOf request.ask) := by
            unfold admitAsk at allowed ⊢
            dsimp only at allowed ⊢
            rw [allowed, if_pos rfl]
          rw [recorded, record]
          by_cases asked : key ∈ keysOf request.ask
          · simp [asked]
          · simp [asked]

/-- A denied request leaves the log alone. -/
theorem admit_denied {log : Log Key} {request : Timed Ask} {retryAfter : Int}
    (denied : (admitAsk policy keysOf log request).1 = .denied retryAfter) :
    (admitAsk policy keysOf log request).2 = log := by
  unfold admitAsk at denied ⊢
  dsimp only at denied ⊢
  rw [denied, if_neg nofun]

theorem exists_late (requests : List (Timed Ask)) :
    ∃ time, ∀ request ∈ requests, request.now ≤ time := by
  induction requests with
  | nil => exact ⟨0, nofun⟩
  | cons request rest induction =>
      obtain ⟨time, late⟩ := induction
      refine ⟨max request.now time, ?_⟩
      intro other member
      rcases List.mem_cons.mp member with rfl | inRest
      · exact le_max_left _ _
      · exact (late other inRest).trans (le_max_right _ _)

variable (policy keysOf) in
theorem after_sound {requests : List (Timed Ask)} (clocked : Clocked requests) (time : Int)
    (past : ∀ request ∈ requests, request.now ≤ time) :
    Sound policy (after (admitAsk policy keysOf) emptyLog requests) time := by
  cases requests with
  | nil => exact sound_empty time
  | cons request rest =>
      obtain ⟨before, _⟩ := clocked_cons clocked
      obtain ⟨last, sound, bound⟩ := after_preserves (p := Sound policy)
        (fun _ _ _ (sound : Sound policy _ _) onward =>
          @sound_after_asking _ _ _ keysOf _ _ _ _ sound onward)
        (sound_empty request.now) clocked (by
          intro other member
          rcases List.mem_cons.mp member with rfl | later
          · exact le_rfl
          · exact before other later)
      exact sound_later sound (bound time (past request List.mem_cons_self) past)

/-- The log itself keeps the promise. -/
theorem log_right :
    RightLimiter policy keysOf (answers (admitAsk policy keysOf) (emptyLog : Log Key)) := by
  constructor
  case bounded =>
    intro requests clocked key start
    have times := after_log policy keysOf emptyLog requests key
    rw [emptyLog, List.nil_append] at times
    obtain ⟨time, past⟩ := exists_late requests
    have admissible := (after_sound policy keysOf clocked time past).admissible key
    rw [times] at admissible
    constructor
    · refine admissible_bounded admissible _ ?_
      intro early late isEarly isLate
      simp only [Bool.and_eq_true, decide_eq_true_eq] at isEarly isLate
      omega
    · refine admissible_bounded admissible _ ?_
      intro early late isEarly isLate
      simp only [Bool.and_eq_true, decide_eq_true_eq] at isEarly isLate
      omega
  case deniedFree =>
    intro first request second clocked before retryAfter rest size isAnswer
    rw [answers_append, answers] at isAnswer
    have sameSize : (answers (admitAsk policy keysOf) emptyLog first).length = before.length := by
      rw [length_answers, size]
    obtain ⟨isBefore, isRest⟩ := List.append_inj isAnswer sameSize
    obtain ⟨denied, isRest⟩ := List.cons.inj isRest
    rw [admit_denied denied] at isRest
    rw [answers_append, isBefore, isRest]
  case retryExact =>
    intro first request clocked before retryAfter isAnswer
    rw [answers_append, answers, answers] at isAnswer
    obtain ⟨isBefore, isLast⟩ := List.append_inj' isAnswer rfl
    have denied := (List.cons.inj isLast).1
    obtain ⟨clockedFirst, _, across⟩ := clocked_append clocked
    have sound := after_sound policy keysOf clockedFirst request.now
      fun early member => across early member request List.mem_cons_self
    obtain ⟨positive, least⟩ := denied_until sound denied
    refine ⟨positive, fun seconds atLeastOne => ?_⟩
    rw [← least seconds atLeastOne, answers_append, answers, answers, answers, isBefore,
      List.append_cancel_left_eq, admit_denied denied]
    constructor
    · intro same
      exact (List.cons.inj (List.cons.inj same).2).1
    · intro allowed
      rw [denied]
      exact congrArg (fun decision => [.denied retryAfter, decision]) allowed

/-- So does every limiter that answers as the log does. -/
theorem right_of_answers {answer : List (Timed Ask) → List Decision}
    (same : ∀ requests, Clocked requests →
      answer requests = answers (admitAsk policy keysOf) emptyLog requests) :
    RightLimiter policy keysOf answer := by
  have right := @log_right _ _ _ policy keysOf
  constructor
  case bounded =>
    intro requests clocked key start
    rw [same requests clocked]
    exact right.bounded requests clocked key start
  case deniedFree =>
    intro first request second clocked before retryAfter rest size
    have without : Clocked (first ++ second) := by
      refine List.Pairwise.sublist (List.Sublist.map _ ?_) clocked
      exact List.Sublist.append_left (List.sublist_cons_self request second) first
    rw [same _ clocked, same _ without]
    exact right.deniedFree first request second clocked before retryAfter rest size
  case retryExact =>
    intro first request clocked before retryAfter
    rw [same _ clocked]
    intro isAnswer
    obtain ⟨positive, least⟩ := right.retryExact first request clocked before retryAfter isAnswer
    refine ⟨positive, fun seconds atLeastOne => ?_⟩
    have onward : Clocked (first ++ [request, ⟨request.ask, request.now + 1000 * seconds⟩]) := by
      obtain ⟨clockedFirst, _, across⟩ := clocked_append clocked
      unfold Clocked
      rw [List.map_append]
      refine List.pairwise_append.mpr ⟨clockedFirst, by simp; omega, ?_⟩
      intro early earlyMember late lateMember
      obtain ⟨earlyRequest, member, rfl⟩ := List.mem_map.mp earlyMember
      have below := across earlyRequest member request List.mem_cons_self
      simp only [List.map_cons, List.map_nil, List.mem_cons, List.not_mem_nil, or_false] at lateMember
      rcases lateMember with rfl | rfl <;> omega
    rw [same _ onward]
    exact least seconds atLeastOne

end Right

end CommitmentOptimizer.Foundations.RollingWindows
