import CommitmentOptimizer.Shared.ManagedCache

/-!
# Runs of the managed cache

No two generations are in use at once, over every order of calls and callbacks.
-/

namespace CommitmentOptimizer.Shared.ManagedCacheRuns

open Foundations.Schedules
open ManagedCache

set_option autoImplicit false

variable {Resource : Type} {cache : Cache Resource}

section States

theorem alive_or_over {index : Nat} (core : Core cache) (born : index < cache.generations) :
    (cache.generation index).alive = true ∨ (cache.generation index).over = true := by
  cases status : cache.generation index with
  | absent => exact absurd ((core.born index).mp status) (Nat.not_le_of_lt born)
  | scheduled => exact Or.inl rfl
  | creating => exact Or.inl rfl
  | live => exact Or.inl rfl
  | disposing => exact Or.inl rfl
  | failed => exact Or.inr rfl
  | disposed => exact Or.inr rfl

/-- Older generations have failed or are disposed of. -/
theorem older_over {older newer : Nat} (core : Core cache) (less : older < newer)
    (born : newer < cache.generations) : (cache.generation older).over = true := by
  rcases alive_or_over core (Nat.lt_trans less born) with alive | ended
  · have newest := core.newest older alive
    omega
  · exact ended

end States

section Steps

/-- A close has taken the generation, or its failure has been handled. -/
def Spent (cache : Cache Resource) (index : Nat) : Prop :=
  (∃ operation, (cache.operation operation).took = some index) ∨
    cache.generation index = .failed true

theorem current_not_spent {index : Nat} (core : Core cache)
    (isCurrent : cache.current = some index) : ¬ Spent cache index := by
  rintro (⟨operation, took⟩ | failed)
  · exact core.currentFresh index isCurrent operation took
  · have usable := core.currentUsable index isCurrent
    rw [failed] at usable
    cases usable

theorem fresh_not_spent (core : Core cache) : ¬ Spent cache cache.generations := by
  rintro (⟨operation, took⟩ | failed)
  · exact Nat.lt_irrefl _ (core.tookBorn operation _ took)
  · rw [(core.born _).mpr (Nat.le_refl _)] at failed
    cases failed

/-- What is spent stays so, and answers no more calls. -/
structure Onward (before after : Cache Resource) : Prop where
  spent : ∀ index, Spent before index → Spent after index
  answers : ∀ getter index, Spent before index →
    (after.getter getter).answeredBy = some index →
    (before.getter getter).answeredBy = some index

theorem onward_refl (cache : Cache Resource) : Onward cache cache :=
  ⟨fun _ spent => spent, fun _ _ _ answered => answered⟩

theorem onward_trans {first second third : Cache Resource} (earlier : Onward first second)
    (later : Onward second third) : Onward first third :=
  ⟨fun index spent => later.spent index (earlier.spent index spent),
    fun getter index spent answered => earlier.answers getter index spent
      (later.answers getter index (earlier.spent index spent) answered)⟩

theorem onward_of {before after : Cache Resource}
    (took : ∀ operation index, (before.operation operation).took = some index →
      (after.operation operation).took = some index)
    (failed : ∀ index, before.generation index = .failed true →
      after.generation index = .failed true)
    (answers : ∀ getter index, (after.getter getter).answeredBy = some index →
      (before.getter getter).answeredBy = some index ∨ ¬ Spent before index) :
    Onward before after := by
  constructor
  · rintro index (⟨operation, taken⟩ | hasFailed)
    · exact Or.inl ⟨operation, took operation index taken⟩
    · exact Or.inr (failed index hasFailed)
  · intro getter index spent answered
    rcases answers getter index answered with same | notSpent
    · exact same
    · exact absurd spent notSpent

theorem update_generation_failed {generation : Nat → Generation Resource} {index : Nat}
    {later : Generation Resource} (moves : generation index = .failed true → later = .failed true)
    (other : Nat) (failed : generation other = .failed true) :
    Function.update generation index later other = .failed true := by
  by_cases same : other = index
  · subst same
    rw [Function.update_self]
    exact moves failed
  · rw [Function.update_of_ne same]
    exact failed

theorem update_operation_took {operation : Nat → Operation} {index : Nat} {later : Operation}
    (moves : ∀ generation, (operation index).took = some generation →
      later.took = some generation) (other generation : Nat)
    (took : (operation other).took = some generation) :
    (Function.update operation index later other).took = some generation := by
  by_cases same : other = index
  · subst same
    rw [Function.update_self]
    exact moves generation took
  · rw [Function.update_of_ne same]
    exact took

/-- One `get` gets the answer `status`. -/
theorem onward_getter {before after : Cache Resource} {getter : Nat} {status : Getter Resource}
    (operation : after.operation = before.operation)
    (failed : ∀ index, before.generation index = .failed true →
      after.generation index = .failed true)
    (getters : after.getter = Function.update before.getter getter status)
    (answers : ∀ index, status.answeredBy = some index →
      (before.getter getter).answeredBy = some index ∨ ¬ Spent before index) :
    Onward before after := by
  refine onward_of (fun other index took => operation ▸ took) failed ?_
  intro other index answered
  rw [getters] at answered
  by_cases same : other = getter
  · subst same
    rw [Function.update_self] at answered
    exact answers index answered
  · rw [Function.update_of_ne same] at answered
    exact Or.inl answered

theorem acquire_onward (getter : Nat) (core : Core cache) :
    Onward cache (acquire cache getter) := by
  unfold acquire
  split
  · exact onward_getter rfl (fun _ failed => failed) rfl nofun
  next =>
    split
    next generation isCurrent =>
      refine onward_getter rfl (fun _ failed => failed) rfl ?_
      rintro _ ⟨⟩
      exact Or.inr (current_not_spent core isCurrent)
    next =>
      refine onward_getter rfl (update_generation_failed ?_) rfl ?_
      · rw [(core.born _).mpr (Nat.le_refl _)]
        nofun
      · rintro _ ⟨⟩
        exact Or.inr (fresh_not_spent core)

theorem close_onward (core : Core cache) : Onward cache (close cache) := by
  unfold close
  split
  · exact onward_refl cache
  · refine onward_of (update_operation_took ?_) (fun _ failed => failed)
      fun _ _ answered => Or.inl answered
    rw [(core.operationBorn _).mpr (Nat.le_refl _)]
    nofun

theorem resume_close_onward {operation generation : Nat} {next : Cache Resource}
    (awaiting : cache.operation operation = .awaiting generation)
    (taken : resumeClose cache operation generation = some next) : Onward cache next := by
  unfold resumeClose at taken
  split at taken
  next resource live =>
    cases taken
    refine onward_of (update_operation_took ?_) (update_generation_failed ?_)
      fun _ _ answered => Or.inl answered
    · rw [awaiting]
      exact fun _ took => took
    · rw [live]
      nofun
  next failed =>
    cases taken
    refine onward_of (update_operation_took ?_) (fun _ failed => failed)
      fun _ _ answered => Or.inl answered
    rw [awaiting]
    exact fun _ took => took
  next => cases taken

theorem deliver_onward {getter generation : Nat} {next : Cache Resource}
    (answered : cache.getter getter = .answered generation)
    (taken : deliver cache getter generation = some next) : Onward cache next := by
  have same : ∀ (result : Option Resource) index,
      (Getter.settled generation result).answeredBy = some index →
      (cache.getter getter).answeredBy = some index ∨ ¬ Spent cache index := by
    rw [answered]
    exact fun _ _ same => Or.inl same
  unfold deliver at taken
  split at taken
  case h_5 => cases taken
  all_goals
    cases taken
    exact onward_getter rfl (fun _ failed => failed) rfl (same _)

/-- A call of `get` gets its own number. -/
theorem get_onward (core : Core cache) :
    Onward cache (acquire { cache with getters := cache.getters + 1 } cache.getters) := by
  have onward := acquire_onward cache.getters (core_getters core (cache.getters + 1))
  exact ⟨onward.spent, onward.answers⟩

theorem step_onward {action : Action Resource} {next : Cache Resource} (core : Core cache)
    (taken : step cache action = some next) : Onward cache next := by
  cases action with
  | get =>
      cases taken
      exact get_onward core
  | close =>
      cases taken
      exact close_onward core
  | callFactory generation =>
      simp only [step] at taken
      split at taken
      next scheduled =>
        cases taken
        refine onward_of (fun _ _ took => took) (update_generation_failed ?_)
          fun _ _ answered => Or.inl answered
        rw [scheduled]
        intro failed
        cases failed
      next => cases taken
  | create generation resource =>
      simp only [step] at taken
      split at taken
      next creating =>
        cases taken
        refine onward_of (fun _ _ took => took) (update_generation_failed ?_)
          fun _ _ answered => Or.inl answered
        rw [creating]
        intro failed
        cases failed
      next => cases taken
  | failCreation generation =>
      simp only [step] at taken
      split at taken
      next creating =>
        cases taken
        refine onward_of (fun _ _ took => took) (update_generation_failed ?_)
          fun _ _ answered => Or.inl answered
        rw [creating]
        intro failed
        cases failed
      next => cases taken
  | runCatch generation =>
      simp only [step] at taken
      split at taken
      next failed =>
        cases taken
        exact onward_of (fun _ _ took => took) (update_generation_failed fun _ => rfl)
          fun _ _ answered => Or.inl answered
      next => cases taken
  | resumeClose operation =>
      simp only [step] at taken
      split at taken
      next generation awaiting => exact resume_close_onward awaiting taken
      next => cases taken
  | settleDispose operation succeeded =>
      simp only [step] at taken
      split at taken
      next generation disposing =>
        split at taken
        next resource isDisposing =>
          cases taken
          refine onward_of (update_operation_took ?_) (update_generation_failed ?_)
            fun _ _ answered => Or.inl answered
          · rw [disposing]
            exact fun _ took => took
          · rw [isDisposing]
            intro failed
            cases failed
        next => cases taken
      next => cases taken
  | clearClosing operation =>
      simp only [step] at taken
      split at taken
      next took succeeded settled =>
        cases taken
        refine onward_of (update_operation_took ?_) (fun _ failed => failed)
          fun _ _ answered => Or.inl answered
        rw [settled]
        exact fun _ took => took
      next => cases taken
  | resumeGet getter =>
      simp only [step] at taken
      split at taken
      next operation waiting =>
        split at taken
        next =>
          cases taken
          exact acquire_onward getter core
        next =>
          cases taken
          exact onward_getter rfl (fun _ failed => failed) rfl fun _ answered => by cases answered
        next => cases taken
      next => cases taken
  | deliver getter =>
      simp only [step] at taken
      split at taken
      next generation answered => exact deliver_onward answered taken
      next => cases taken

end Steps

section Numbers

/-- Calls of `get` that have not been made yet are absent. -/
def Numbered (cache : Cache Resource) : Prop :=
  ∀ index, cache.getters ≤ index → cache.getter index = .absent

theorem acquire_elsewhere {getter other : Nat} (apart : other ≠ getter) :
    (acquire cache getter).getter other = cache.getter other := by
  unfold acquire
  split
  · exact Function.update_of_ne apart _ _
  · split <;> exact Function.update_of_ne apart _ _

theorem acquire_getters (getter : Nat) : (acquire cache getter).getters = cache.getters := by
  unfold acquire
  split
  · rfl
  · split <;> rfl

theorem close_getters (cache : Cache Resource) :
    (close cache).getters = cache.getters ∧ (close cache).getter = cache.getter := by
  unfold close
  split <;> exact ⟨rfl, rfl⟩

/-- A step on a call that has been made. -/
theorem numbered_elsewhere {next : Cache Resource} {getter : Nat} (numbered : Numbered cache)
    (made : cache.getter getter ≠ .absent) (same : next.getters = cache.getters)
    (elsewhere : ∀ other, other ≠ getter → next.getter other = cache.getter other) :
    Numbered next := by
  intro index late
  have absent := numbered index (same ▸ late)
  rw [elsewhere index fun equal => made (equal ▸ absent), absent]

theorem deliver_getters {getter generation : Nat} {next : Cache Resource}
    (taken : deliver cache getter generation = some next) :
    next.getters = cache.getters ∧
      ∀ other, other ≠ getter → next.getter other = cache.getter other := by
  unfold deliver at taken
  split at taken
  case h_5 => cases taken
  all_goals
    cases taken
    exact ⟨rfl, fun other apart => Function.update_of_ne apart _ _⟩

theorem resume_close_getters {operation generation : Nat} {next : Cache Resource}
    (taken : resumeClose cache operation generation = some next) :
    next.getters = cache.getters ∧ next.getter = cache.getter := by
  unfold resumeClose at taken
  split at taken
  case h_3 => cases taken
  all_goals
    cases taken
    exact ⟨rfl, rfl⟩

theorem step_numbered {action : Action Resource} {next : Cache Resource}
    (numbered : Numbered cache) (taken : step cache action = some next) : Numbered next := by
  cases action with
  | get =>
      cases taken
      intro index late
      rw [acquire_getters] at late
      rw [acquire_elsewhere (Nat.ne_of_gt late)]
      exact numbered index (Nat.le_of_lt late)
  | close =>
      cases taken
      obtain ⟨getters, getter⟩ := close_getters cache
      intro index late
      rw [getter]
      exact numbered index (getters ▸ late)
  | callFactory generation | create generation resource | failCreation generation
  | runCatch generation | clearClosing operation =>
      simp only [step] at taken
      split at taken
      next =>
        cases taken
        exact numbered
      next => cases taken
  | resumeClose operation =>
      simp only [step] at taken
      split at taken
      next =>
        obtain ⟨getters, getter⟩ := resume_close_getters taken
        intro index late
        rw [getter]
        exact numbered index (getters ▸ late)
      next => cases taken
  | settleDispose operation succeeded =>
      simp only [step] at taken
      split at taken
      next =>
        split at taken
        next =>
          cases taken
          exact numbered
        next => cases taken
      next => cases taken
  | resumeGet getter =>
      simp only [step] at taken
      split at taken
      next operation waiting =>
        have made : cache.getter getter ≠ .absent := by
          rw [waiting]
          intro absent
          cases absent
        split at taken
        next =>
          cases taken
          exact numbered_elsewhere numbered made (acquire_getters getter)
            fun other apart => acquire_elsewhere apart
        next =>
          cases taken
          exact numbered_elsewhere numbered made rfl
            fun other apart => Function.update_of_ne apart _ _
        next => cases taken
      next => cases taken
  | deliver getter =>
      simp only [step] at taken
      split at taken
      next generation answered =>
        have made : cache.getter getter ≠ .absent := by
          rw [answered]
          intro absent
          cases absent
        obtain ⟨getters, elsewhere⟩ := deliver_getters taken
        exact numbered_elsewhere numbered made getters elsewhere
      next => cases taken

end Numbers

section Runs

theorem run_core {first : List (Action Resource)}
    (ran : execute step (createManagedCache Resource) first = some cache) :
    Core cache ∧ Numbered cache :=
  @reachable_preserves _ _ step (fun cache => Core cache ∧ Numbered cache)
    (fun _ _ _ holds taken => ⟨step_core holds.1 taken, step_numbered holds.2 taken⟩)
    _ _ ⟨core_create, fun _ _ => rfl⟩ ⟨first, ran⟩

theorem run_onward {second : List (Action Resource)} {last : Cache Resource} (core : Core cache)
    (ran : execute step cache second = some last) : Onward cache last :=
  @reachable_relates _ _ step Core Onward onward_refl (fun _ _ _ => onward_trans)
    (fun _ _ _ holds taken => ⟨step_core holds taken, step_onward holds taken⟩)
    _ _ core ⟨second, ran⟩

/-- What every schedule of calls and callbacks leaves. -/
structure GenerationsApart (actions : List (Action Resource)) (cache : Cache Resource) :
    Prop where
  /-- When a factory is called, every earlier generation has failed or its disposal
  has settled. -/
  factoryLate : ∀ first second before generation,
    actions = first ++ .callFactory generation :: second →
    execute step (createManagedCache Resource) first = some before →
    ∀ earlier, earlier < generation → (before.generation earlier).over = true
  disposedOnce : ∀ generation, cache.disposeCalls generation ≤ 1
  createdOnce : ∀ generation, cache.factoryCalls generation ≤ 1
  /-- The calls that one generation answers get one resource. -/
  shared : ∀ left right generation leftResource rightResource,
    cache.getter left = .settled generation (some leftResource) →
    cache.getter right = .settled generation (some rightResource) → leftResource = rightResource
  /-- Calls are answered by different generations only if the older one is over. -/
  apart : ∀ left right older newer, (cache.getter left).answeredBy = some older →
    (cache.getter right).answeredBy = some newer → older < newer →
    (cache.generation older).over = true
  /-- Once a call has seen a creation fail, no further call is answered with it. -/
  failureNotCached : ∀ first second before, actions = first ++ second →
    execute step (createManagedCache Resource) first = some before →
    ∀ getter generation, before.getter getter = .settled generation none →
      before.current ≠ some generation ∧
      ∀ other, (cache.getter other).answeredBy = some generation →
        (before.getter other).answeredBy = some generation
  /-- A call made when a close has taken a generation is not answered with it. -/
  notWhileClosing : ∀ first second before, actions = first ++ .get :: second →
    execute step (createManagedCache Resource) first = some before →
    ∀ operation generation, (before.operation operation).took = some generation →
      (cache.getter before.getters).answeredBy ≠ some generation

/-- Generations never overlap, whatever the order of calls, outcomes and callbacks. -/
theorem generations_apart (actions : List (Action Resource)) (cache : Cache Resource)
    (ran : execute step (createManagedCache Resource) actions = some cache) :
    GenerationsApart actions cache := by
  obtain ⟨core, _⟩ := run_core ran
  have split : ∀ first second before, actions = first ++ second →
      execute step (createManagedCache Resource) first = some before →
      Core before ∧ Numbered before ∧ execute step before second = some cache := by
    rintro first second before rfl ranFirst
    obtain ⟨middle, isMiddle, onward⟩ := execute_append_some.mp ran
    rw [ranFirst] at isMiddle
    cases isMiddle
    exact ⟨(run_core ranFirst).1, (run_core ranFirst).2, onward⟩
  constructor
  case factoryLate =>
    intro first second before generation isSplit ranFirst earlier less
    obtain ⟨coreBefore, _, rest⟩ := split _ _ _ isSplit ranFirst
    obtain ⟨after, taken, _⟩ := execute_cons_some.mp rest
    refine older_over coreBefore less ?_
    by_contra late
    have absent := (coreBefore.born generation).mpr (Nat.le_of_not_lt late)
    simp only [step, absent] at taken
    cases taken
  case disposedOnce =>
    intro generation
    rw [core.disposeCalls]
    cases cache.generation generation <;> simp [Generation.disposeCalls]
  case createdOnce =>
    intro generation
    rw [core.factoryCalls]
    cases cache.generation generation <;> simp [Generation.factoryCalls]
  case shared =>
    intro left right generation leftResource rightResource isLeft isRight
    have leftAgrees := core.getterAgrees left
    have rightAgrees := core.getterAgrees right
    rw [isLeft] at leftAgrees
    rw [isRight] at rightAgrees
    exact Option.some.inj ((Eq.symm leftAgrees).trans rightAgrees)
  case apart =>
    intro left right older newer _ answered less
    exact older_over core less (core.answeredBorn right newer answered)
  case failureNotCached =>
    intro first second before isSplit ranFirst getter generation isSettled
    obtain ⟨coreBefore, _, rest⟩ := split _ _ _ isSplit ranFirst
    have failed := coreBefore.getterAgrees getter
    rw [isSettled] at failed
    have spent : Spent before generation := Or.inr failed
    exact ⟨fun isCurrent => current_not_spent coreBefore isCurrent spent,
      fun other => (run_onward coreBefore rest).answers other generation spent⟩
  case notWhileClosing =>
    intro first second before isSplit ranFirst operation generation took answered
    obtain ⟨coreBefore, numbered, rest⟩ := split _ _ _ isSplit ranFirst
    have spent : Spent before generation := Or.inl ⟨operation, took⟩
    have earlier := (run_onward coreBefore rest).answers _ generation spent answered
    rw [numbered before.getters (Nat.le_refl _)] at earlier
    cases earlier

end Runs

/-- A resource is closed while a second call waits, and made anew. -/
theorem reopened_apart : ∃ cache : Cache Nat,
    GenerationsApart [.get, .callFactory 0, .create 0 5, .close, .get, .resumeClose 0,
      .settleDispose 0 true, .clearClosing 0, .resumeGet 1, .callFactory 1, .create 1 6] cache :=
  ⟨_, generations_apart _ _ rfl⟩

end CommitmentOptimizer.Shared.ManagedCacheRuns
