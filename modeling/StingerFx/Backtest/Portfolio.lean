/-
Module: StingerFx.Backtest.Portfolio
Layer: Backtest
Purpose: Several backtest reports as one portfolio: the merged equity curve, totals read
  off it, what every report contributes, and how the curves correlate.
Trusted boundary: human-reviewed model of the source's portfolio module
Main exports: StrategyContribution, PortfolioReport, PortfolioReport.netPnl,
  PortfolioReport.maxDrawdownPct, PortfolioError, allTimestamps, mergeEquityCurves,
  deltaSeries, correlationMatrix, aggregatePortfolio
-/
import StingerFx.Backtest.Reports
import StingerFx.Lib.ForwardFill

namespace StingerFx

open Lib

/-- How much one strategy contributed to the portfolio. -/
structure StrategyContribution where
  strategyId : StrategyId
  runId : String
  netPnl : ℚ
  sharePct : ℚ
  finalBalance : ℚ
  maxDrawdownPct : ℚ
  sharpe : ℚ
  tradeCount : ℕ
deriving Repr, DecidableEq

structure PortfolioReport where
  id : String
  componentIds : List String
  initialBalance : ℚ
  finalBalance : ℚ
  equityCurve : List (Time × ℚ)
  contributions : List StrategyContribution
  correlationMatrix : Dict String (Dict String ℚ)
deriving Repr, DecidableEq

/-- A drop in percent of the peak; a peak that is not positive has none. -/
def percentDrop (peak eq : ℚ) : Option ℚ :=
  if 0 < peak then some ((peak - eq) / peak * 100) else none

namespace PortfolioReport

variable (report : PortfolioReport)

def netPnl : ℚ := report.finalBalance - report.initialBalance

def equities : List ℚ := report.equityCurve.map Prod.snd

/-- Max drawdown as a percentage of the portfolio peak equity. -/
def maxDrawdownPct : ℚ :=
  match report.equities with
  | [] => 0
  | first :: rest => worstDrop percentDrop first 0 (first :: rest)

def sharpe (lib : Libm) : ℚ := sharpeOf lib report.equities

end PortfolioReport

/-! ### Merged curves -/

/-- The union of all timestamps, in order. -/
def allTimestamps (reports : List BacktestReport) : List Time :=
  sortedUnion (reports.flatMap fun r => r.equityCurve.map Prod.fst)

/-- The sweep over the timestamps. Every curve's pointer moves up to the timestamp. -/
def sweepCurves : List (Pointer Time ℚ) → List Time → List (Time × ℚ)
  | _, [] => []
  | perStrategy, ts :: rest =>
      let moved := perStrategy.map (Pointer.advance ts)
      (ts, (moved.map Pointer.last).sum) :: sweepCurves moved rest

/-- The pointer of a report before its first sample. -/
def BacktestReport.pointer (r : BacktestReport) : Pointer Time ℚ :=
  ⟨r.initialBalance, sortBy Prod.fst r.equityCurve⟩

/-- `_merge_equity_curves`. -/
def mergeEquityCurves (reports : List BacktestReport) : List (Time × ℚ) :=
  sweepCurves (reports.map BacktestReport.pointer) (allTimestamps reports)

/-! ### Correlations -/

/-- A report's curve on a grid, with `dict(r.equity_curve)`. -/
def BacktestReport.filled (r : BacktestReport) (sortedTs : List Time) : List ℚ :=
  fillFrom (Dict.ofPairs r.equityCurve).get? r.initialBalance sortedTs

/-- The steps of every curve on the union of the timestamps, by run id. -/
def deltaSeries (reports : List BacktestReport) : Dict String (List ℚ) :=
  Dict.ofPairs (reports.map fun r => (r.runId, deltasOf (r.filled (allTimestamps reports))))

/-- `_pearson`, in exact rationals up to the root. -/
def pearson {K : Type} [Field K] [DecidableEq K] (sqrt : ℚ → K) (xs ys : List ℚ) : K :=
  if xs.length ≠ ys.length ∨ xs.length < 2 then 0
  else
    let n : ℚ := xs.length
    let mx := xs.sum / n
    let my := ys.sum / n
    let num := (List.zipWith (fun x y => (x - mx) * (y - my)) xs ys).sum
    let vx := (xs.map fun x => (x - mx) ^ 2).sum
    let vy := (ys.map fun y => (y - my) ^ 2).sum
    let denom := sqrt (vx * vy)
    if denom = 0 then 0 else num / denom

/-- `_correlation_matrix`. -/
def correlationMatrix (lib : Libm) (reports : List BacktestReport) :
    Dict String (Dict String ℚ) :=
  if reports.length < 2 then
    Dict.ofPairs (reports.map fun r => (r.runId, Dict.ofPairs [(r.runId, 1)]))
  else
    let deltas := deltaSeries reports
    Dict.ofPairs (deltas.items.map fun a =>
      (a.1, Dict.ofPairs (deltas.items.map fun b =>
        (b.1, if a.1 = b.1 then 1 else pearson lib.sqrt a.2 b.2))))

/-! ### Aggregation -/

inductive PortfolioError where
  | noReports
deriving Repr, DecidableEq

def PortfolioError.text : PortfolioError → String
  | .noReports => "aggregate_portfolio requires at least one report"

/-- What a report contributes to a total. -/
def BacktestReport.contribution (lib : Libm) (totalPnl : ℚ) (r : BacktestReport) :
    StrategyContribution :=
  let perPnl := r.finalBalance - r.initialBalance
  { strategyId := r.strategyId
    runId := r.runId
    netPnl := perPnl
    sharePct := if totalPnl ≠ 0 then perPnl / totalPnl * 100 else 0
    finalBalance := r.finalBalance
    maxDrawdownPct := r.maxDrawdown
    sharpe := r.sharpe lib
    tradeCount := r.trades.length }

def aggregatePortfolio (lib : Libm) (reports : List BacktestReport)
    (portfolioId : String := "portfolio") : Except PortfolioError PortfolioReport :=
  if reports = [] then .error .noReports
  else
    let initialBalance := (reports.map BacktestReport.initialBalance).sum
    let combinedCurve := mergeEquityCurves reports
    let finalBalance := (combinedCurve.getLast?.map Prod.snd).getD initialBalance
    let totalPnl := finalBalance - initialBalance
    .ok
      { id := portfolioId
        componentIds := reports.map BacktestReport.runId
        initialBalance := initialBalance
        finalBalance := finalBalance
        equityCurve := combinedCurve
        contributions := reports.map (BacktestReport.contribution lib totalPnl)
        correlationMatrix := correlationMatrix lib reports }

end StingerFx
