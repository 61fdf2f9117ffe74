import CommitmentOptimizer.Backtests.BacktestReplay
import Mathlib.Algebra.BigOperators.Group.List.Basic
import Mathlib.Algebra.Order.BigOperators.Group.List

/-!
# The accounts of a backtest

What each replayed month costs and saves, the totals over the months and the choice of
the best baseline.
-/

namespace CommitmentOptimizer.Backtests.BacktestAccounting

open Foundations
open Backtests.BacktestRuns
open BacktestReplay

set_option autoImplicit false

variable {Month : Type} [LinearOrder Month]

section Sums

theorem total_sum (values : List Int) : total values = values.sum :=
  List.sum_eq_foldl.symm

theorem mean_nonneg {values : List Int} (nonneg : ∀ value ∈ values, 0 ≤ value) :
    0 ≤ mean values := by
  have sum : 0 ≤ total values := by
    rw [total_sum]
    exact List.sum_nonneg nonneg
  have half : (0 : Int) ≤ (values.length : Int).tdiv 2 :=
    Int.tdiv_nonneg (Int.natCast_nonneg _) (by decide)
  exact Int.tdiv_nonneg (Int.add_nonneg sum half) (Int.natCast_nonneg _)

end Sums

section Months

variable {baseline : ReplayBaseline} {discountBps : Int}

theorem commitment_nonneg {priorActuals : List Int} (nonneg : ∀ prior ∈ priorActuals, 0 ≤ prior) :
    0 ≤ commitmentForBaseline baseline priorActuals := by
  cases last : priorActuals.getLast? with
  | none => cases baseline <;> simp [commitmentForBaseline, last]
  | some prior =>
      cases baseline with
      | noCommitment => simp [commitmentForBaseline]
      | lastMonthSteadyState =>
          simp only [commitmentForBaseline, last]
          exact nonneg prior (List.mem_of_getLast? last)
      | seventyPercentUtilization =>
          simp only [commitmentForBaseline, last]
          exact Int.tdiv_nonneg (Int.mul_nonneg (mean_nonneg nonneg) (by decide)) (by decide)

/-- A discounted commitment costs between nothing and itself. -/
theorem committed_cost_bounds {commitment : Int} (nonneg : 0 ≤ commitment)
    (discounted : 0 ≤ discountBps) (atMost : discountBps ≤ 10000) :
    0 ≤ (commitment * (10000 - discountBps) + 5000).tdiv 10000 ∧
      (commitment * (10000 - discountBps) + 5000).tdiv 10000 ≤ commitment := by
  have lower : 0 ≤ commitment * (10000 - discountBps) := Int.mul_nonneg nonneg (by omega)
  have upper : commitment * (10000 - discountBps) ≤ commitment * 10000 :=
    Int.mul_le_mul_of_nonneg_left (by omega) nonneg
  rw [Int.tdiv_eq_ediv_of_nonneg (by omega)]
  omega

/-- What the replay says of one month. -/
structure MonthAccounted (result : ReplayMonth Month) : Prop where
  conserved : result.simulatedCostCents + result.simulatedSavingsCents = result.onDemandCostCents
  regret : result.regretCents = max 0 (-result.simulatedSavingsCents)
  unused : 0 < result.regretCents → result.onDemandCostCents < result.simulatedCommitmentCents
  covered : result.simulatedSavingsCents ≤
    min result.onDemandCostCents result.simulatedCommitmentCents
  uncommitted : result.simulatedCommitmentCents = 0 →
    result.simulatedSavingsCents = 0 ∧ result.regretCents = 0

theorem simulated_cost_accounted {cost commitment : Int} (costNonneg : 0 ≤ cost)
    (nonneg : 0 ≤ commitment) (discounted : 0 ≤ discountBps) (atMost : discountBps ≤ 10000) :
    cost - simulatedCost cost commitment discountBps ≤ min cost commitment ∧
      (cost - simulatedCost cost commitment discountBps < 0 → cost < commitment) := by
  obtain ⟨free, bounded⟩ := committed_cost_bounds nonneg discounted atMost
  unfold simulatedCost
  dsimp only
  generalize (commitment * (10000 - discountBps) + 5000).tdiv 10000 = committed at free bounded ⊢
  split_ifs <;> omega

/-- What the loop of `replayBaseline` keeps. -/
structure ReplayAccounted (baseline : ReplayBaseline) (state : ReplayState Month) : Prop where
  months : ∀ result ∈ state.monthlyResults, MonthAccounted result
  nonneg : ∀ prior ∈ state.priorActuals, 0 ≤ prior
  actuals : state.monthlyResults.map (fun result => result.onDemandCostCents) = state.priorActuals
  uncommitted : baseline = .noCommitment →
    ∀ result ∈ state.monthlyResults, result.simulatedCommitmentCents = 0

omit [LinearOrder Month] in
theorem replay_month_accounted {months : List (MonthlyTotal Month)} {state : ReplayState Month}
    {month : MonthlyTotal Month} (costNonneg : 0 ≤ month.onDemandCostCents)
    (discounted : 0 ≤ discountBps) (atMost : discountBps ≤ 10000)
    (accounted : ReplayAccounted baseline state) :
    ReplayAccounted baseline (replayMonth baseline months discountBps state month) := by
  obtain ⟨commitment, isCommitment⟩ :
    ∃ commitment, commitmentForBaseline baseline state.priorActuals = commitment := ⟨_, rfl⟩
  have nonneg : 0 ≤ commitment := isCommitment ▸ commitment_nonneg accounted.nonneg
  obtain ⟨bound, regret⟩ := simulated_cost_accounted costNonneg nonneg discounted atMost
  unfold replayMonth
  rw [isCommitment]
  refine ⟨?_, ?_, ?_, ?_⟩
  · intro result member
    rcases List.mem_append.mp member with earlier | last
    · exact accounted.months result earlier
    · rw [List.mem_singleton.mp last]
      refine ⟨?_, ?_, ?_, bound, ?_⟩
      · dsimp only
        omega
      · dsimp only
        split_ifs <;> omega
      · dsimp only
        intro positive
        apply regret
        split_ifs at positive with loss
        · exact loss
        · omega
      · dsimp only
        intro zero
        rw [zero, simulatedCost, if_pos rfl, Int.sub_self]
        exact ⟨rfl, rfl⟩
  · intro prior member
    rcases List.mem_append.mp member with earlier | last
    · exact accounted.nonneg prior earlier
    · rw [List.mem_singleton.mp last]
      exact costNonneg
  · rw [List.map_append, accounted.actuals]
    rfl
  · intro none result member
    rcases List.mem_append.mp member with earlier | last
    · exact accounted.uncommitted none result earlier
    · rw [List.mem_singleton.mp last]
      dsimp only
      rw [← isCommitment, none]
      rfl

omit [LinearOrder Month] in
theorem replay_months_accounted {months rest : List (MonthlyTotal Month)}
    {state : ReplayState Month} (costsNonneg : ∀ month ∈ rest, 0 ≤ month.onDemandCostCents)
    (discounted : 0 ≤ discountBps) (atMost : discountBps ≤ 10000)
    (accounted : ReplayAccounted baseline state) :
    ReplayAccounted baseline (rest.foldl (replayMonth baseline months discountBps) state) := by
  induction rest generalizing state with
  | nil => exact accounted
  | cons month rest induction =>
      rw [List.foldl_cons]
      apply induction fun later member => costsNonneg later (List.mem_cons_of_mem _ member)
      exact replay_month_accounted (costsNonneg month List.mem_cons_self) discounted atMost accounted

omit [LinearOrder Month] in
/-- The loop has seen the costs of all months. -/
theorem replay_months_actuals {months rest : List (MonthlyTotal Month)}
    (state : ReplayState Month) :
    (rest.foldl (replayMonth baseline months discountBps) state).priorActuals =
      state.priorActuals ++ rest.map fun month => month.onDemandCostCents := by
  induction rest generalizing state with
  | nil => exact (List.append_nil _).symm
  | cons month rest induction =>
      rw [List.foldl_cons, induction, List.map_cons]
      exact List.append_assoc _ _ _

end Months

section Totals

variable {baseline : ReplayBaseline} {discountBps : Int}

/-- What a result says of the months that it lists. -/
structure ResultAccounted (result : ReplayResult Month) : Prop where
  conserved : result.simulatedTotalCostCents + result.simulatedSavingsCents =
    result.totalOnDemandCostCents
  regret : result.regretCents = (result.monthlyResults.map fun month =>
    max 0 (-month.simulatedSavingsCents)).sum
  months : ∀ month ∈ result.monthlyResults, MonthAccounted month
  uncommitted : result.baseline = .noCommitment →
    result.simulatedSavingsCents = 0 ∧ result.regretCents = 0

omit [LinearOrder Month] in
theorem sums_conserved {results : List (ReplayMonth Month)}
    (accounted : ∀ result ∈ results, MonthAccounted result) :
    (results.map fun result => result.simulatedCostCents).sum +
      (results.map fun result => result.simulatedSavingsCents).sum =
      (results.map fun result => result.onDemandCostCents).sum := by
  rw [← List.sum_map_add]
  congr 1
  exact List.map_congr_left fun result member => (accounted result member).conserved

omit [LinearOrder Month] in
theorem replay_baseline_accounted {months : List (MonthlyTotal Month)}
    (costsNonneg : ∀ month ∈ months, 0 ≤ month.onDemandCostCents) (discounted : 0 ≤ discountBps)
    (atMost : discountBps ≤ 10000) :
    ResultAccounted (replayBaseline baseline months discountBps) := by
  obtain ⟨state, isState⟩ : ∃ state,
    months.foldl (replayMonth baseline months discountBps) ⟨[], []⟩ = state := ⟨_, rfl⟩
  have accounted : ReplayAccounted baseline state := isState ▸
    replay_months_accounted costsNonneg discounted atMost ⟨nofun, nofun, rfl, fun _ => nofun⟩
  have actuals : state.priorActuals = months.map fun month => month.onDemandCostCents :=
    isState ▸ replay_months_actuals ⟨[], []⟩
  unfold replayBaseline
  rw [isState]
  refine ⟨?_, ?_, accounted.months, ?_⟩
  · dsimp only
    rw [total_sum, total_sum, total_sum, sums_conserved accounted.months, accounted.actuals, actuals]
  · dsimp only
    rw [total_sum]
    congr 1
    exact List.map_congr_left fun result member => (accounted.months result member).regret
  · dsimp only
    intro none
    have free := fun result member =>
      (accounted.months result member).uncommitted (accounted.uncommitted none result member)
    rw [total_sum, total_sum, List.sum_eq_zero, List.sum_eq_zero]
    · exact ⟨rfl, rfl⟩
    · simp only [List.mem_map, forall_exists_index, and_imp, forall_apply_eq_imp_iff₂]
      exact fun result member => (free result member).2
    · simp only [List.mem_map, forall_exists_index, and_imp, forall_apply_eq_imp_iff₂]
      exact fun result member => (free result member).1

end Totals

section Rows

variable {rows shuffled : List (BacktestUsageMonth Month)}

theorem monthly_totals_nonneg (nonneg : ∀ row ∈ rows, 0 ≤ row.onDemandCostCents) :
    ∀ month ∈ monthlyTotals rows, 0 ≤ month.onDemandCostCents := by
  intro month member
  have stored := mem_monthly_totals.mp member
  unfold monthTotal at stored
  cases own : rows.filter fun row => row.month = month.month with
  | nil =>
      rw [own] at stored
      cases stored
  | cons first rest =>
      rw [own] at stored
      have cost : ((first :: rest).map fun row => row.onDemandCostCents).sum =
          month.onDemandCostCents := congrArg Prod.fst (Option.some.inj stored)
      rw [← cost]
      apply List.sum_nonneg
      simp only [List.mem_map, forall_exists_index, and_imp, forall_apply_eq_imp_iff₂]
      intro row listed
      exact nonneg row (List.mem_filter.mp (own ▸ listed)).1

theorem month_total_perm (permuted : rows.Perm shuffled) (month : Month) :
    monthTotal month rows = monthTotal month shuffled := by
  have own := permuted.filter fun row => row.month = month
  unfold monthTotal
  cases first : rows.filter fun row => row.month = month with
  | nil =>
      rw [first] at own
      rw [List.nil_perm.mp own]
  | cons row rest =>
      rw [first] at own
      cases second : shuffled.filter fun row => row.month = month with
      | nil =>
          rw [second] at own
          cases List.perm_nil.mp own
      | cons other others =>
          rw [second] at own
          dsimp only
          rw [(own.map _).sum_eq, (own.map fun row => row.realizedCostCents).sum_eq]

theorem monthly_totals_perm (permuted : rows.Perm shuffled) :
    monthlyTotals rows = monthlyTotals shuffled := by
  have irreflexive : Std.Irrefl fun left right : MonthlyTotal Month => left.month < right.month :=
    ⟨fun entry => lt_irrefl entry.month⟩
  apply (monthly_totals_sorted rows).eq_of_mem_iff (monthly_totals_sorted shuffled)
  intro entry
  rw [mem_monthly_totals, mem_monthly_totals, month_total_perm permuted]

/-- The artifact looks at the order of the rows nowhere. -/
theorem artifact_perm (run : BacktestRun) (inputSnapshot : Json)
    (permuted : rows.Perm shuffled) :
    buildBacktestArtifact run inputSnapshot rows =
      buildBacktestArtifact run inputSnapshot shuffled := by
  unfold buildBacktestArtifact
  rw [monthly_totals_perm permuted, (permuted.map fun row => row.lineItemCount).sum_eq]

end Rows

section Best

theorem backtest_discount_bounds (snapshot : Json) :
    0 ≤ backtestDiscountBps snapshot ∧ backtestDiscountBps snapshot ≤ 10000 := by
  unfold backtestDiscountBps
  dsimp only
  split
  · split_ifs with accepted
    · rename_i value _
      obtain ⟨whole, lower, upper⟩ := accepted
      refine ⟨Rat.num_nonneg.mpr lower, ?_⟩
      rw [← Rat.coe_int_num_of_den_eq_one whole] at upper
      exact Rat.intCast_le_intCast.mp upper
    · decide
  · decide

def better (current candidate : ReplayResult Month) : ReplayResult Month :=
  if candidate.simulatedSavingsCents > current.simulatedSavingsCents then candidate else current

omit [LinearOrder Month] in
/-- The kept result is one of those compared and none saves more. -/
theorem best_of_results (first : ReplayResult Month) (rest : List (ReplayResult Month)) :
    rest.foldl better first ∈ first :: rest ∧
      ∀ result ∈ first :: rest,
        result.simulatedSavingsCents ≤ (rest.foldl better first).simulatedSavingsCents := by
  induction rest generalizing first with
  | nil => simp
  | cons candidate rest induction =>
      rw [List.foldl_cons]
      obtain ⟨member, greatest⟩ := induction (better first candidate)
      have kept := greatest _ List.mem_cons_self
      constructor
      · rcases List.mem_cons.mp member with same | later
        · rw [same, better]
          split_ifs <;> simp
        · simp [later]
      · intro result listed
        rcases List.mem_cons.mp listed with rfl | listed
        · refine le_trans ?_ kept
          rw [better]
          split_ifs <;> omega
        · rcases List.mem_cons.mp listed with rfl | later
          · refine le_trans ?_ kept
            rw [better]
            split_ifs <;> omega
          · exact greatest result (List.mem_cons_of_mem _ later)

/-- Over the rows of any months in any order, every replay conserves the cost, its regret is
what its months lose, the artifact keeps the best of the three, and the order of the rows
does not matter. -/
theorem backtest_accounted (run : BacktestRun) (inputSnapshot : Json)
    (usageMonths : List (BacktestUsageMonth Month))
    (nonneg : ∀ row ∈ usageMonths, 0 ≤ row.onDemandCostCents) :
    (∀ baseline discountBps, 0 ≤ discountBps → discountBps ≤ 10000 →
      ResultAccounted (replayBaseline baseline (monthlyTotals usageMonths) discountBps)) ∧
    (∀ result ∈ (buildBacktestArtifact run inputSnapshot usageMonths).baselineResults,
      ResultAccounted result ∧
      result.simulatedSavingsCents ≤
        (buildBacktestArtifact run inputSnapshot usageMonths).metrics.bestSimulatedSavingsCents) ∧
    ((buildBacktestArtifact run inputSnapshot usageMonths).baselineResults.map
      fun result => result.baseline) =
        [.noCommitment, .lastMonthSteadyState, .seventyPercentUtilization] ∧
    (∃ result ∈ (buildBacktestArtifact run inputSnapshot usageMonths).baselineResults,
      result.baseline =
        (buildBacktestArtifact run inputSnapshot usageMonths).metrics.bestBaseline ∧
      result.simulatedSavingsCents =
        (buildBacktestArtifact run inputSnapshot usageMonths).metrics.bestSimulatedSavingsCents) ∧
    0 ≤ (buildBacktestArtifact run inputSnapshot usageMonths).metrics.bestSimulatedSavingsCents ∧
    ∀ shuffled, usageMonths.Perm shuffled →
      buildBacktestArtifact run inputSnapshot shuffled =
        buildBacktestArtifact run inputSnapshot usageMonths := by
  have replays : ∀ baseline discountBps, 0 ≤ discountBps → discountBps ≤ 10000 →
      ResultAccounted (replayBaseline baseline (monthlyTotals usageMonths) discountBps) :=
    fun baseline discountBps => replay_baseline_accounted (monthly_totals_nonneg nonneg)
  obtain ⟨lower, upper⟩ := backtest_discount_bounds inputSnapshot
  obtain ⟨first, isFirst⟩ : ∃ first, replayBaseline .noCommitment (monthlyTotals usageMonths)
    (backtestDiscountBps inputSnapshot) = first := ⟨_, rfl⟩
  obtain ⟨rest, isRest⟩ : ∃ rest,
    [replayBaseline .lastMonthSteadyState (monthlyTotals usageMonths)
        (backtestDiscountBps inputSnapshot),
      replayBaseline .seventyPercentUtilization (monthlyTotals usageMonths)
        (backtestDiscountBps inputSnapshot)] = rest := ⟨_, rfl⟩
  have listed : (buildBacktestArtifact run inputSnapshot usageMonths).baselineResults =
      first :: rest := by
    rw [← isFirst, ← isRest]
    rfl
  have savings :
      (buildBacktestArtifact run inputSnapshot usageMonths).metrics.bestSimulatedSavingsCents =
        (rest.foldl better first).simulatedSavingsCents := by
    rw [← isFirst, ← isRest]
    rfl
  have baseline : (buildBacktestArtifact run inputSnapshot usageMonths).metrics.bestBaseline =
      (rest.foldl better first).baseline := by
    rw [← isFirst, ← isRest]
    rfl
  obtain ⟨member, greatest⟩ := best_of_results first rest
  have accounted : ∀ result ∈ first :: rest, ResultAccounted result := by
    rw [← isFirst, ← isRest]
    simp only [List.forall_mem_cons]
    exact ⟨replays _ _ lower upper, replays _ _ lower upper, replays _ _ lower upper, nofun⟩
  have free : first.simulatedSavingsCents = 0 :=
    ((accounted first List.mem_cons_self).uncommitted (by rw [← isFirst]; rfl)).1
  rw [listed, savings, baseline]
  refine ⟨replays, fun result listed => ⟨accounted result listed, greatest result listed⟩, ?_,
    ⟨_, member, rfl, rfl⟩, ?_, fun shuffled permuted => (artifact_perm _ _ permuted).symm⟩
  · rw [← isFirst, ← isRest]
    rfl
  · rw [← free]
    exact greatest first List.mem_cons_self

theorem falling_usage_accounted :
    ResultAccounted (replayBaseline .lastMonthSteadyState
      (monthlyTotals [usageRow february 50, usageRow january 100]) 3000) := by
  let run : BacktestRun :=
    { id := 1, tenantId := 2, name := "replay", policyId := 3, baseline := .lastMonthSteadyState,
      windowStart := 20089, windowEnd := 20147, inputSnapshotUri := "backtests/1/input.json",
      createdByUserId := none, createdAt := 0, status := .running, outputUri := none,
      metrics := .object [], errorDetails := .object [], updatedAt := 0 }
  exact (backtest_accounted run (.object []) [usageRow february 50, usageRow january 100]
    (by decide)).1 .lastMonthSteadyState 3000 (by decide) (by decide)

end Best

end CommitmentOptimizer.Backtests.BacktestAccounting
