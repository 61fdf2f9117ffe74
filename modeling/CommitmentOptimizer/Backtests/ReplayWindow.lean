import CommitmentOptimizer.Backtests.BacktestAccounting
import CommitmentOptimizer.Foundations.CalendarMonths
import Mathlib.Tactic.Ring

/-!
# The window of a backtest

`listReplayUsageMonths` (`backtests-repository.ts`) and the calendar months of a
replay window. Months are numbers, whose order is that of the texts `YYYY-MM`;
times are microseconds, and the session's time zone is UTC.
-/

namespace CommitmentOptimizer.Backtests.ReplayWindow

open Foundations
open Foundations.CalendarDates
open Foundations.CalendarMonths
open Foundations.GroupedRows
open Foundations.SqlConstraints
open Backtests.BacktestRuns
open BacktestAccounting
open BacktestReplay
open Recommendations.RecommendationLifecycle

set_option autoImplicit false

section Query

/-- What the query reads of `usage_line_items`. -/
structure UsageItem where
  tenantId : Uuid
  provider : Provider
  serviceCode : String
  region : String
  usageStart : Int
  usageEnd : Int
  onDemandCostCents : Int
  realizedCostCents : Int
  commitmentAppliedCents : Int
  period : usageStart < usageEnd

def microsecondsPerDay : Int := 86400000000

/-- `to_char(date_trunc('month', usage_start AT TIME ZONE 'UTC'), 'YYYY-MM')`. -/
def UsageItem.month (item : UsageItem) : Int := monthOfDay (item.usageStart / microsecondsPerDay)

/-- The `WHERE` of the query. -/
def inReplayWindow (run : BacktestRun) (item : UsageItem) : Bool :=
  item.tenantId = run.tenantId && run.windowStart * microsecondsPerDay ≤ item.usageStart &&
    item.usageEnd ≤ (run.windowEnd + 1) * microsecondsPerDay

def UsageItem.group (item : UsageItem) : Int × Provider × String × String :=
  (item.month, item.provider, item.serviceCode, item.region)

def emptyMonth (month : Int) (provider : Provider) (serviceCode region : String) :
    BacktestUsageMonth Int :=
  { month, provider, serviceCode, region, onDemandCostCents := 0, realizedCostCents := 0,
    commitmentAppliedCents := 0, lineItemCount := 0 }

def addItem (row : BacktestUsageMonth Int) (item : UsageItem) : BacktestUsageMonth Int :=
  { row with
    onDemandCostCents := row.onDemandCostCents + item.onDemandCostCents
    realizedCostCents := row.realizedCostCents + item.realizedCostCents
    commitmentAppliedCents := row.commitmentAppliedCents + item.commitmentAppliedCents
    lineItemCount := row.lineItemCount + 1 }

/-- The groups of the query, whose `ORDER BY` the replay does not depend on. -/
def listReplayUsageMonths (items : List UsageItem) (run : BacktestRun) :
    List (BacktestUsageMonth Int) :=
  let groups : GroupMap (Int × Provider × String × String) (BacktestUsageMonth Int) :=
    groupInto UsageItem.group
      (fun item => emptyMonth item.month item.provider item.serviceCode item.region) addItem
      (items.filter (inReplayWindow run))
  groups.entries.map fun entry => entry.2

theorem add_items_month (row : BacktestUsageMonth Int) (items : List UsageItem) :
    (items.foldl addItem row).month = row.month := by
  induction items generalizing row with
  | nil => rfl
  | cons item rest induction => exact induction (addItem row item)

/-- The query returns a row for a month exactly when the window has an item that starts in it. -/
theorem replay_month_listed {items : List UsageItem} {run : BacktestRun} {month : Int} :
    (∃ row ∈ listReplayUsageMonths items run, row.month = month) ↔
      ∃ item ∈ items, inReplayWindow run item = true ∧ item.month = month := by
  let start := fun item : UsageItem =>
    emptyMonth item.month item.provider item.serviceCode item.region
  let visible := items.filter (inReplayWindow run)
  have total : ∀ wanted, (groupInto UsageItem.group start addItem visible).lookup wanted =
      totalOf UsageItem.group start addItem wanted visible :=
    lookup_group_into UsageItem.group start addItem visible
  constructor
  · rintro ⟨row, listed, rfl⟩
    obtain ⟨⟨wanted, row⟩, member, rfl⟩ := List.mem_map.mp listed
    have found := lookup_some_of_mem member
    rw [total, totalOf] at found
    cases own : rowsOf UsageItem.group wanted visible with
    | nil =>
        rw [own] at found
        cases found
    | cons item rest =>
        rw [own] at found
        have shown : item ∈ visible := by
          have kept : item ∈ rowsOf UsageItem.group wanted visible := by simp [own]
          exact (List.mem_filter.mp kept).1
        obtain ⟨stored, inside⟩ := List.mem_filter.mp shown
        refine ⟨item, stored, inside, ?_⟩
        rw [← Option.some.inj found, add_items_month]
        rfl
  · rintro ⟨item, stored, inside, rfl⟩
    have shown : item ∈ visible := List.mem_filter.mpr ⟨stored, inside⟩
    cases found : totalOf UsageItem.group start addItem item.group visible with
    | none => exact absurd rfl ((total_of_eq_none _ _ _).mp found item shown)
    | some row =>
        have month : row.month = item.month := by
          rw [totalOf] at found
          cases own : rowsOf UsageItem.group item.group visible with
          | nil =>
              rw [own] at found
              cases found
          | cons first rest =>
              rw [own] at found
              have kept : first ∈ rowsOf UsageItem.group item.group visible := by simp [own]
              have group : first.group = item.group :=
                of_decide_eq_true (List.mem_filter.mp kept).2
              rw [← Option.some.inj found, add_items_month]
              exact congrArg Prod.fst group
        have member := mem_of_lookup_some ((total item.group).trans found)
        exact ⟨row, List.mem_map.mpr ⟨_, member, rfl⟩, month⟩

end Query

section Calendar

/-- The calendar months of the replay window. -/
def windowMonths (run : BacktestRun) : List Int :=
  monthsFrom (monthOfDay run.windowStart)
    (monthOfDay run.windowEnd + 1 - monthOfDay run.windowStart).toNat

/-- The `months` of `assertWindow` (`backtests-input.ts`). -/
def assertWindowMonths (windowStart windowEnd : Int) : Int :=
  let (startYear, startMonth, _) := civilOfDay windowStart
  let (endYear, endMonth, _) := civilOfDay windowEnd
  (endYear - startYear) * 12 + (endMonth - startMonth) + 1

/-- The window has the months that its request was measured by. -/
theorem window_months_count {run : BacktestRun}
    (ordered : monthOfDay run.windowStart ≤ monthOfDay run.windowEnd) :
    ((windowMonths run).length : Int) = assertWindowMonths run.windowStart run.windowEnd := by
  have count : assertWindowMonths run.windowStart run.windowEnd =
      monthOfDay run.windowEnd + 1 - monthOfDay run.windowStart := by
    simp only [assertWindowMonths, monthOfDay, monthNumber]
    ring
  rw [windowMonths, monthsFrom, List.length_map, List.length_range, count]
  omega

def missingMonths (run : BacktestRun) (rows : List (BacktestUsageMonth Int)) : List Int :=
  (windowMonths run).filter fun month => rows.all fun row => row.month ≠ month

/-- The rows with a month of no cost for each calendar month of the window that has none. -/
def calendarRows (run : BacktestRun) (rows : List (BacktestUsageMonth Int)) :
    List (BacktestUsageMonth Int) :=
  rows ++ (missingMonths run rows).map fun month => emptyMonth month .aws "" ""

variable {run : BacktestRun} {rows : List (BacktestUsageMonth Int)}

theorem mem_missing_months {month : Int} :
    month ∈ missingMonths run rows ↔
      month ∈ windowMonths run ∧ ∀ row ∈ rows, row.month ≠ month := by
  simp [missingMonths, List.mem_filter]

theorem missing_months_empty :
    missingMonths run rows = [] ↔
      ∀ month ∈ windowMonths run, ∃ row ∈ rows, row.month = month := by
  rw [List.eq_nil_iff_forall_not_mem]
  constructor
  · intro none month inside
    by_contra absent
    simp only [not_exists, not_and] at absent
    exact none month (mem_missing_months.mpr ⟨inside, absent⟩)
  · intro every month missing
    obtain ⟨inside, absent⟩ := mem_missing_months.mp missing
    obtain ⟨row, member, same⟩ := every month inside
    exact absent row member same

theorem month_listed {month : Int} :
    (∃ entry ∈ monthlyTotals rows, entry.month = month) ↔ ∃ row ∈ rows, row.month = month := by
  constructor
  · rintro ⟨entry, member, rfl⟩
    have stored := mem_monthly_totals.mp member
    cases own : rows.filter fun row => row.month = entry.month with
    | nil =>
        rw [monthTotal, own] at stored
        cases stored
    | cons row rest =>
        have kept : row ∈ rows.filter fun row => row.month = entry.month := by simp [own]
        obtain ⟨listed, same⟩ := List.mem_filter.mp kept
        exact ⟨row, listed, of_decide_eq_true same⟩
  · rintro ⟨row, member, rfl⟩
    have kept : row ∈ rows.filter fun other => other.month = row.month :=
      List.mem_filter.mpr ⟨member, decide_eq_true rfl⟩
    cases own : rows.filter fun other => other.month = row.month with
    | nil =>
        rw [own] at kept
        cases kept
    | cons first rest =>
        have stored : monthTotal row.month rows =
            some (((first :: rest).map fun row => row.onDemandCostCents).sum,
              ((first :: rest).map fun row => row.realizedCostCents).sum) := by
          rw [monthTotal, own]
        have entry : ⟨row.month, _, _⟩ ∈ monthlyTotals rows := mem_monthly_totals.mpr stored
        exact ⟨_, entry, rfl⟩

/-- The turns of the loop add a result for each month, with its cost. -/
theorem replay_months_entries {baseline : ReplayBaseline} {discountBps : Int}
    {months rest : List (MonthlyTotal Int)} (state : ReplayState Int) :
    ((rest.foldl (replayMonth baseline months discountBps) state).monthlyResults.map
      fun result => (result.month, result.onDemandCostCents)) =
      (state.monthlyResults.map fun result => (result.month, result.onDemandCostCents)) ++
        rest.map fun entry => (entry.month, entry.onDemandCostCents) := by
  induction rest generalizing state with
  | nil => exact (List.append_nil _).symm
  | cons entry rest induction =>
      rw [List.foldl_cons, induction, List.map_cons, replayMonth, List.map_append, List.append_assoc]
      rfl

theorem entry_replayed {baseline : ReplayBaseline} {discountBps month cost : Int}
    {months : List (MonthlyTotal Int)} :
    (∃ result ∈ (replayBaseline baseline months discountBps).monthlyResults,
      result.month = month ∧ result.onDemandCostCents = cost) ↔
      ∃ entry ∈ months, entry.month = month ∧ entry.onDemandCostCents = cost := by
  have entries : ((replayBaseline baseline months discountBps).monthlyResults.map
      fun result => (result.month, result.onDemandCostCents)) =
      months.map fun entry => (entry.month, entry.onDemandCostCents) :=
    replay_months_entries ⟨[], []⟩
  have listed : (month, cost) ∈ ((replayBaseline baseline months discountBps).monthlyResults.map
      fun result => (result.month, result.onDemandCostCents)) ↔
      (month, cost) ∈ months.map fun entry => (entry.month, entry.onDemandCostCents) := by
    rw [entries]
  simpa only [List.mem_map, Prod.mk.injEq] using listed

/-- A replay has a result for each month of its rows. -/
theorem month_replayed {baseline : ReplayBaseline} {discountBps month : Int} :
    (∃ result ∈ (replayBaseline baseline (monthlyTotals rows) discountBps).monthlyResults,
      result.month = month) ↔ ∃ row ∈ rows, row.month = month := by
  rw [← month_listed]
  constructor
  · rintro ⟨result, member, own⟩
    obtain ⟨entry, listed, same, _⟩ := entry_replayed.mp ⟨result, member, own, rfl⟩
    exact ⟨entry, listed, same⟩
  · rintro ⟨entry, listed, own⟩
    obtain ⟨result, member, same, _⟩ := entry_replayed.mpr ⟨entry, listed, own, rfl⟩
    exact ⟨result, member, same⟩

/-- A replay that the added months do not change has missed none. -/
theorem window_full_of_same {baseline : ReplayBaseline} {discountBps : Int}
    (same : replayBaseline baseline (monthlyTotals (calendarRows run rows)) discountBps =
      replayBaseline baseline (monthlyTotals rows) discountBps) :
    ∀ month ∈ windowMonths run, ∃ row ∈ rows, row.month = month := by
  rw [← missing_months_empty, List.eq_nil_iff_forall_not_mem]
  intro month missing
  have added : ∃ row ∈ calendarRows run rows, row.month = month :=
    ⟨emptyMonth month .aws "" "", List.mem_append_right _ (List.mem_map_of_mem missing), rfl⟩
  obtain ⟨row, member, own⟩ := month_replayed.mp (same ▸ month_replayed.mpr added)
  exact (mem_missing_months.mp missing).2 row member own

theorem missing_month_total {month : Int} (missing : month ∈ missingMonths run rows) :
    ∃ entry ∈ monthlyTotals (calendarRows run rows),
      entry.month = month ∧ entry.onDemandCostCents = 0 := by
  obtain ⟨inside, absent⟩ := mem_missing_months.mp missing
  have none : rows.filter (fun row => row.month = month) = [] :=
    List.filter_eq_nil_iff.mpr fun row member => by simpa using absent row member
  have free : ∀ row ∈ calendarRows run rows, row.month = month →
      row.onDemandCostCents = 0 ∧ row.realizedCostCents = 0 := by
    intro row member own
    rcases List.mem_append.mp member with listed | added
    · exact absurd own (absent row listed)
    · obtain ⟨_, _, rfl⟩ := List.mem_map.mp added
      exact ⟨rfl, rfl⟩
  have listed : ∃ row ∈ calendarRows run rows, row.month = month :=
    ⟨emptyMonth month .aws "" "", List.mem_append_right _ (List.mem_map_of_mem missing), rfl⟩
  obtain ⟨entry, member, rfl⟩ := month_listed.mpr listed
  refine ⟨entry, member, rfl, ?_⟩
  have stored := mem_monthly_totals.mp member
  cases own : (calendarRows run rows).filter fun row => row.month = entry.month with
  | nil =>
      rw [monthTotal, own] at stored
      cases stored
  | cons first rest =>
      rw [monthTotal, own] at stored
      have cost : ((first :: rest).map fun row => row.onDemandCostCents).sum =
          entry.onDemandCostCents := congrArg Prod.fst (Option.some.inj stored)
      rw [← cost]
      apply List.sum_eq_zero
      simp only [List.mem_map, forall_exists_index, and_imp, forall_apply_eq_imp_iff₂]
      intro row listed
      obtain ⟨member, same⟩ := List.mem_filter.mp (own ▸ listed)
      exact (free row member (of_decide_eq_true same)).1

/-- The replay of the calendar charges the commitment in a month without usage and counts it
as regret; the replay of the rows has no such month. -/
theorem missing_month_regret {baseline : ReplayBaseline} {discountBps month : Int}
    (nonneg : ∀ row ∈ rows, 0 ≤ row.onDemandCostCents) (discounted : 0 ≤ discountBps)
    (atMost : discountBps ≤ 10000) (missing : month ∈ missingMonths run rows) :
    (∃ result ∈ (replayBaseline baseline (monthlyTotals (calendarRows run rows))
        discountBps).monthlyResults,
      result.month = month ∧ result.regretCents = result.simulatedCostCents) ∧
    ∀ result ∈ (replayBaseline baseline (monthlyTotals rows) discountBps).monthlyResults,
      result.month ≠ month := by
  constructor
  · obtain ⟨result, member, own, free⟩ := entry_replayed.mpr (missing_month_total missing)
    have allNonneg : ∀ row ∈ calendarRows run rows, 0 ≤ row.onDemandCostCents := by
      intro row listed
      rcases List.mem_append.mp listed with stored | added
      · exact nonneg row stored
      · obtain ⟨_, _, rfl⟩ := List.mem_map.mp added
        exact le_refl 0
    have accounted := (replay_baseline_accounted (monthly_totals_nonneg allNonneg) discounted
      atMost).months result member
    have conserved := accounted.conserved
    have covered := accounted.covered
    rw [free] at conserved covered
    refine ⟨result, member, own, ?_⟩
    rw [accounted.regret]
    omega
  · intro result member own
    obtain ⟨row, listed, same⟩ := month_replayed.mp ⟨result, member, own⟩
    exact (mem_missing_months.mp missing).2 row listed same

theorem calendar_replayed {baseline : ReplayBaseline} {discountBps : Int} :
    replayBaseline baseline (monthlyTotals (calendarRows run rows)) discountBps =
        replayBaseline baseline (monthlyTotals rows) discountBps ↔
      ∀ month ∈ windowMonths run, ∃ row ∈ rows, row.month = month := by
  constructor
  · exact window_full_of_same
  · intro every
    rw [calendarRows, missing_months_empty.mpr every, List.map_nil, List.append_nil]

/-- A replay is that of the calendar exactly when each month of the window has usage. -/
theorem replays_calendar_iff (run : BacktestRun) (baseline : ReplayBaseline) (discountBps : Int) :
    (∀ rows,
      replayBaseline baseline (monthlyTotals (calendarRows run rows)) discountBps =
          replayBaseline baseline (monthlyTotals rows) discountBps ↔
        ∀ month ∈ windowMonths run, ∃ row ∈ rows, row.month = month) ∧
    ∀ items,
      replayBaseline baseline
            (monthlyTotals (calendarRows run (listReplayUsageMonths items run))) discountBps =
          replayBaseline baseline (monthlyTotals (listReplayUsageMonths items run)) discountBps ↔
        ∀ month ∈ windowMonths run,
          ∃ item ∈ items, inReplayWindow run item = true ∧ item.month = month := by
  constructor
  · exact fun rows => calendar_replayed
  · intro items
    rw [calendar_replayed]
    exact forall₂_congr fun month _ => replay_month_listed

/-- A quarter with usage in its first and last month. -/
theorem february_skipped : ∃ run : BacktestRun, ∃ items : List UsageItem,
    run.windowStart = 20089 ∧ run.windowEnd = 20178 ∧
    items.map (fun item => (item.month, item.onDemandCostCents)) =
      [(monthNumber 2025 1, 100), (monthNumber 2025 3, 100)] ∧
    (∀ item ∈ items, inReplayWindow run item = true) ∧
    replayBaseline .lastMonthSteadyState
        (monthlyTotals (calendarRows run (listReplayUsageMonths items run))) 3000 ≠
      replayBaseline .lastMonthSteadyState
        (monthlyTotals (listReplayUsageMonths items run)) 3000 := by
  let run : BacktestRun :=
    { id := 1, tenantId := 2, name := "replay", policyId := 3, baseline := .lastMonthSteadyState,
      windowStart := 20089, windowEnd := 20178, inputSnapshotUri := "backtests/1/input.json",
      createdByUserId := none, createdAt := 0, status := .running, outputUri := none,
      metrics := .object [], errorDetails := .object [], updatedAt := 0 }
  let january : UsageItem :=
    { tenantId := 2, provider := .aws, serviceCode := "AmazonEC2", region := "us-east-1",
      usageStart := 20100 * microsecondsPerDay, usageEnd := 20101 * microsecondsPerDay,
      onDemandCostCents := 100, realizedCostCents := 100, commitmentAppliedCents := 0,
      period := by decide }
  let march : UsageItem :=
    { january with
      usageStart := 20160 * microsecondsPerDay, usageEnd := 20161 * microsecondsPerDay
      period := by decide }
  refine ⟨run, [january, march], rfl, rfl, by decide, by decide, ?_⟩
  rw [Ne, calendar_replayed]
  intro every
  obtain ⟨row, listed, february⟩ :=
    every (monthNumber 2025 2) (mem_months_from.mpr (by decide))
  obtain ⟨item, member, _, own⟩ := replay_month_listed.mp ⟨row, listed, february⟩
  have months : ∀ item ∈ [january, march], item.month ≠ monthNumber 2025 2 := by decide
  exact months item member own

end Calendar

end CommitmentOptimizer.Backtests.ReplayWindow
