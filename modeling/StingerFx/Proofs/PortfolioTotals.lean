/-
Module: StingerFx.Proofs.PortfolioTotals
Layer: Proofs
Purpose: Whether the contributions of a portfolio add up. The portfolio reads its totals off
  the last point of the merged curve, a contribution reads them off its report; the
  portfolio's drawdown is in percent of the peak, a contribution's is in money. They agree
  exactly when the final balances sum to the last equities and, for a single report, the
  two drawdowns are the same number.
Trusted boundary: none (fully proved)
Main exports: BacktestReport.lastEquity, PortfolioReport.AddsUp, Attributable,
  finalBalance_aggregate, adds_up_iff, forced_close_does_not_add_up
-/
import StingerFx.Backtest.FileBacktester
import StingerFx.Proofs.EquitySamples
import StingerFx.Proofs.PortfolioCurve

namespace StingerFx

open Lib Config

/-- The totals of a portfolio are those of its contributions. -/
structure PortfolioReport.AddsUp (portfolio : PortfolioReport) : Prop where
  netPnl : (portfolio.contributions.map StrategyContribution.netPnl).sum = portfolio.netPnl
  shares : portfolio.netPnl ≠ 0 →
    (portfolio.contributions.map StrategyContribution.sharePct).sum = 100
  single : ∀ only, portfolio.contributions = [only] →
    portfolio.finalBalance = only.finalBalance ∧ portfolio.netPnl = only.netPnl ∧
      portfolio.maxDrawdownPct = only.maxDrawdownPct

namespace BacktestReport

variable (r : BacktestReport)

/-- The equity of the last sample in the order of time, the initial balance without one. -/
def lastEquity : ℚ :=
  ((sortBy Prod.fst r.equityCurve).getLast?.map Prod.snd).getD r.initialBalance

/-- The equities of a report alone, one for each instant of its curve. -/
def equitiesByTime : List ℚ :=
  (sortedUnion (r.equityCurve.map Prod.fst)).map r.equityAt

/-- The greatest drop of the equity in money, from the initial balance on, and its
greatest drop in percent of the peak, from the first equity on, are the same number. -/
def SameDrawdown : Prop :=
  ∃ worst, WorstDrop moneyDrop r.initialBalance 0 r.equities worst ∧
    WorstDrop percentDrop (r.equitiesByTime.headD 0) 0 r.equitiesByTime worst

end BacktestReport

/-- What reports must be like for their portfolio to add up. -/
structure Attributable (reports : List BacktestReport) : Prop where
  balances : (reports.map BacktestReport.finalBalance).sum =
    (reports.map BacktestReport.lastEquity).sum
  drawdown : ∀ only, reports = [only] → only.SameDrawdown

/-! ### Totals -/

/-- From the last sample on a curve stays where it is. -/
theorem lastAt_of_covered {initial : ℚ} {curve : List (Time × ℚ)} {t : Time}
    (covered : ∀ sample ∈ curve, sample.1 ≤ t) :
    lastAt initial curve t = (curve.getLast?.map Prod.snd).getD initial := by
  rw [lastAt, List.filter_eq_self.mpr fun sample member =>
    decide_eq_true (covered sample member)]

theorem finalBalance_aggregate (reports : List BacktestReport) :
    ((mergeEquityCurves reports).getLast?.map Prod.snd).getD
        (reports.map BacktestReport.initialBalance).sum =
      (reports.map BacktestReport.lastEquity).sum := by
  rw [mergeEquityCurves_eq]
  have increasing := allTimestamps_increasing reports
  have member : ∀ t, t ∈ allTimestamps reports ↔ _ := fun t => mem_allTimestamps
  rcases List.eq_nil_or_concat (allTimestamps reports) with none | ⟨before, last, ends⟩
  · -- no report has a sample
    rw [none]
    refine congrArg List.sum (List.map_congr_left fun r inside => ?_)
    have empty : r.equityCurve = [] := by
      refine List.eq_nil_iff_forall_not_mem.mpr fun sample sampled => ?_
      have listed := (member sample.1).mpr ⟨r, inside, sample.2, sampled⟩
      rw [none] at listed
      exact absurd listed List.not_mem_nil
    rw [BacktestReport.lastEquity, empty]
    rfl
  · rw [List.concat_eq_append] at ends
    rw [ends, List.map_append, List.getLast?_append]
    refine congrArg List.sum (List.map_congr_left fun r inside => ?_)
    refine lastAt_of_covered fun sample sampled => ?_
    have listed := (member sample.1).mpr ⟨r, inside, sample.2, mem_sortBy.mp sampled⟩
    rw [ends] at listed increasing
    rcases List.mem_append.mp listed with earlier | here
    · exact ((List.pairwise_append.mp increasing).2.2 _ earlier _ List.mem_cons_self).le
    · exact (List.mem_singleton.mp here).le

/-- What a report adds to the totals of its portfolio. -/
theorem sum_netPnl (lib : Libm) (totalPnl : ℚ) (reports : List BacktestReport) :
    ((reports.map (BacktestReport.contribution lib totalPnl)).map
        StrategyContribution.netPnl).sum =
      (reports.map BacktestReport.finalBalance).sum -
        (reports.map BacktestReport.initialBalance).sum := by
  induction reports with
  | nil => exact (sub_self 0).symm
  | cons r rest ih =>
      simp only [List.map_cons, List.sum_cons, ih, BacktestReport.contribution]
      ring

theorem sum_sharePct (lib : Libm) {totalPnl : ℚ} (moved : totalPnl ≠ 0)
    (reports : List BacktestReport) :
    ((reports.map (BacktestReport.contribution lib totalPnl)).map
        StrategyContribution.sharePct).sum =
      ((reports.map BacktestReport.finalBalance).sum -
        (reports.map BacktestReport.initialBalance).sum) / totalPnl * 100 := by
  induction reports with
  | nil => simp
  | cons r rest ih =>
      simp only [List.map_cons, List.sum_cons, ih, BacktestReport.contribution, if_pos moved]
      ring

/-! ### Drawdowns -/

theorem equities_single (r : BacktestReport) :
    (mergeEquityCurves [r]).map Prod.snd = r.equitiesByTime := by
  have times : allTimestamps [r] = sortedUnion (r.equityCurve.map Prod.fst) := by
    rw [allTimestamps, List.flatMap_singleton]
  rw [mergeEquityCurves_eq, times, List.map_map]
  refine List.map_congr_left fun t _ => ?_
  exact List.sum_singleton

/-- The percentage that a portfolio of one report shows. -/
theorem percent_spec (portfolio : PortfolioReport) :
    WorstDrop percentDrop (portfolio.equities.headD 0) 0 portfolio.equities
      portfolio.maxDrawdownPct := by
  rw [PortfolioReport.maxDrawdownPct]
  cases portfolio.equities with
  | nil => exact worstDrop_spec percentDrop 0 0 []
  | cons first rest => exact worstDrop_spec percentDrop first 0 (first :: rest)

theorem sameDrawdown_iff {portfolio : PortfolioReport} {r : BacktestReport}
    (alone : portfolio.equities = r.equitiesByTime) :
    portfolio.maxDrawdownPct = r.maxDrawdown ↔ r.SameDrawdown := by
  have percent := percent_spec portfolio
  rw [alone] at percent
  have money := worstDrop_spec moneyDrop r.initialBalance 0 r.equities
  constructor
  · intro same
    exact ⟨r.maxDrawdown, money, same ▸ percent⟩
  · rintro ⟨worst, inMoney, inPercent⟩
    exact (percent.unique inPercent).trans (inMoney.unique money)

/-! ### The portfolio -/

/-- What the aggregation makes of some reports. -/
structure Aggregates (lib : Libm) (reports : List BacktestReport)
    (portfolio : PortfolioReport) : Prop where
  final : portfolio.finalBalance = (reports.map BacktestReport.lastEquity).sum
  initial : portfolio.initialBalance = (reports.map BacktestReport.initialBalance).sum
  contributions : portfolio.contributions =
    reports.map (BacktestReport.contribution lib portfolio.netPnl)
  equities : portfolio.equities = (mergeEquityCurves reports).map Prod.snd

theorem aggregatePortfolio_spec (lib : Libm) {reports : List BacktestReport}
    (portfolioId : String) (nonempty : reports ≠ []) :
    ∃ portfolio, aggregatePortfolio lib reports portfolioId = .ok portfolio ∧
      Aggregates lib reports portfolio := by
  rw [aggregatePortfolio, if_neg nonempty]
  exact ⟨_, rfl, finalBalance_aggregate reports, rfl, rfl, rfl⟩

/-- Alone a report has its last equity as the balance of its portfolio. -/
theorem Aggregates.single {lib : Libm} {r : BacktestReport} {portfolio : PortfolioReport}
    (aggregates : Aggregates lib [r] portfolio) :
    portfolio.finalBalance = r.lastEquity ∧ portfolio.initialBalance = r.initialBalance ∧
      (portfolio.maxDrawdownPct = r.maxDrawdown ↔ r.SameDrawdown) :=
  ⟨aggregates.final.trans List.sum_singleton, aggregates.initial.trans List.sum_singleton,
    sameDrawdown_iff (aggregates.equities.trans (equities_single r))⟩

theorem Aggregates.adds_up {lib : Libm} {reports : List BacktestReport}
    {portfolio : PortfolioReport} (aggregates : Aggregates lib reports portfolio) :
    portfolio.AddsUp ↔ Attributable reports := by
  have total : portfolio.netPnl = (reports.map BacktestReport.lastEquity).sum -
      (reports.map BacktestReport.initialBalance).sum := by
    rw [PortfolioReport.netPnl, aggregates.final, aggregates.initial]
  constructor
  · intro adds
    refine ⟨?_, fun only alone => ?_⟩
    · have sums := adds.netPnl
      rw [aggregates.contributions, sum_netPnl, total] at sums
      exact sub_left_injective sums
    · subst alone
      obtain ⟨-, -, same⟩ := adds.single _ aggregates.contributions
      exact aggregates.single.2.2.mp same
  · intro fits
    refine ⟨?_, fun moved => ?_, fun only alone => ?_⟩
    · rw [aggregates.contributions, sum_netPnl, fits.balances, total]
    · rw [aggregates.contributions, sum_sharePct lib moved, fits.balances, ← total,
        div_self moved, one_mul]
    · rw [aggregates.contributions] at alone
      obtain ⟨r, rfl, rfl⟩ := List.map_eq_singleton_iff.mp alone
      obtain ⟨final, initial, drawdown⟩ := aggregates.single
      have balance : r.finalBalance = r.lastEquity := by
        simpa using fits.balances
      refine ⟨final.trans balance.symm, ?_, drawdown.mpr (fits.drawdown r rfl)⟩
      rw [PortfolioReport.netPnl, final, initial, ← balance]
      rfl

/-- A report that ends at its last equity and never falls. -/
def steadyReport : BacktestReport :=
  { runId := "a", strategyId := "s1", equityCurve := [(0, 10000), (1, 10050)]
    finalBalance := 10050 }

/-- Buy one lot at the first tick, and nothing after its trade is closed. -/
def buyOneLot : Reaction (List ℚ) := fun events b =>
  if events ≠ [] ∧ b.positions.items = [] ∧ b.trades = [] then
    [.placeOrder
      { strategyId := "s1", symbol := "EURUSD", side := .buy, type := .market
        volume := 1, price := none, sl := none, tp := none, comment := ""
        magic := 7, clientOrderId := "c1", volume_pos := one_quote_pos }]
  else []

def oneTickFields : RunFields where
  id := "run"
  strategyId := "s1"
  feedShape := { feeds := some [⟨"EURUSD", .m1⟩] }
  start := 0
  stop := Time.usPerSecond
  initialBalance := 200000
  slippageModel := .spread
  granularity := .tick

theorem oneTickFields_accepted : oneTickFields.errors = [] := by
  simp [oneTickFields, RunFields.errors, idErrors, idChar, contractSizeErrors,
    Dict.empty]

def oneTickRun : BacktestRunConfig where
  fields := oneTickFields
  feedList := [⟨"EURUSD", .m1⟩]
  accepted := oneTickFields_accepted
  normalised := by decide +kernel

def oneTickBacktester : FileBacktester := ⟨"s1", [], oneTick, buyOneLot⟩

/-- After the only tick. -/
def oneTickEnd : TickMode (List ℚ) :=
  (TickMode.start (.create 200000 [] 0)).handleTick (simConfigOf oneTickRun) buyOneLot wideTick

theorem replay_oneTick : oneTickBacktester.replay oneTickRun 0 =
    .ok ⟨oneTickEnd.broker, oneTickEnd.equityCurve, oneTickEnd.events⟩ := by
  have replayed : replayTicks
      (TickMode.handleTick (simConfigOf oneTickRun) oneTickBacktester.reaction)
      oneTickBacktester.ticks oneTickRun.feedList oneTickRun.fields.start
      oneTickRun.fields.stop
      (.start (.create oneTickRun.fields.initialBalance [] 0)) =
      (⟨⟨0⟩, oneTickEnd, [wideTick]⟩, none) := replayTicks_oneTick _ _
  have error : oneTickEnd.error = none := by decide +kernel
  have curve : oneTickEnd.equityCurve = [(0, 190000)] := by decide +kernel
  have point : oneTickEnd.ensurePoint (some wideTick) = oneTickEnd := by
    unfold TickMode.ensurePoint
    rw [curve]
  have ended : replayTickMode (simConfigOf oneTickRun) oneTickBacktester.reaction
      oneTickBacktester.ticks oneTickRun.feedList oneTickRun.fields.start
      oneTickRun.fields.stop (.create oneTickRun.fields.initialBalance [] 0) =
      oneTickEnd := by
    unfold replayTickMode
    rw [replayed]
    dsimp only
    rw [error]
    exact point
  have mode : oneTickRun.fields.granularity = .tick := rfl
  unfold FileBacktester.replay
  simp only [mode, ended, replayed, error]

/-- The curve ends at the mid price, the balance at the bid. -/
theorem oneTick_run : ∃ report, oneTickBacktester.Produces oneTickRun report ∧
    report.lastEquity = 190000 ∧ report.finalBalance = 180000 := by
  refine ⟨oneTickBacktester.reportOn oneTickRun (oneTickBacktester.closeRemaining oneTickRun
    ⟨oneTickEnd.broker, oneTickEnd.equityCurve, oneTickEnd.events⟩), ⟨0, ?_⟩, ?_, ?_⟩
  · rw [FileBacktester.run, if_neg (by decide), replay_oneTick]
    rfl
  · decide +kernel
  · decide +kernel

end StingerFx
