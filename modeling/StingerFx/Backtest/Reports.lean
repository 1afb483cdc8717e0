/-
Module: StingerFx.Backtest.Reports
Layer: Backtest
Purpose: The report of a backtest, with drawdown and Sharpe ratio over its equity curve, and
  the metrics that a report hands on, as a dictionary of rounded figures.
Trusted boundary: human-reviewed model of the source's reports module
Main exports: BacktestReport, BacktestReport.maxDrawdown, BacktestReport.sharpe,
  ReportFigures, ReportFigures.toMetricsDict, metricNames
-/
import StingerFx.Backtest.SimBroker
import StingerFx.Lib.Dict
import StingerFx.Lib.Drawdown
import StingerFx.Lib.PyValue

namespace StingerFx

open Lib

/-! ### Reports -/

/-- The report of a backtest. -/
structure BacktestReport where
  runId : String
  strategyId : StrategyId
  trades : List TradeRecord := []
  equityCurve : List (Time × ℚ) := []
  initialBalance : ℚ := 10000
  finalBalance : ℚ := 0
deriving Repr, DecidableEq

/-- Returns from sample to sample; a sample at zero has none. -/
def periodReturns (equities : List ℚ) : List ℚ :=
  (equities.zip equities.tail).filterMap fun (prev, cur) =>
    if prev = 0 then none else some ((cur - prev) / prev)

/-- Mean of the period returns in deviations, scaled by their number. -/
def sharpeOf (lib : Libm) (equities : List ℚ) : ℚ :=
  if equities.length < 2 then 0
  else
    let returns := periodReturns equities
    if returns = [] then 0
    else
      let n : ℚ := returns.length
      let mean := returns.sum / n
      let var := (returns.map fun r => (r - mean) ^ 2).sum / n
      let sd := lib.sqrt var
      if sd = 0 then 0 else mean / sd * lib.sqrt n

/-- A drop in money. -/
def moneyDrop (peak eq : ℚ) : Option ℚ := some (peak - eq)

namespace BacktestReport

variable (report : BacktestReport)

def equities : List ℚ := report.equityCurve.map Prod.snd

/-- Peak-to-trough drawdown on the equity curve (in account currency). -/
def maxDrawdown : ℚ := worstDrop moneyDrop report.initialBalance 0 report.equities

def sharpe (lib : Libm) : ℚ := sharpeOf lib report.equities

end BacktestReport

/-! ### Metrics -/

/-- The figures of a report, before they are rounded. -/
structure ReportFigures where
  trades : ℕ
  netPnl : PyFloat
  grossProfit : PyFloat
  grossLoss : PyFloat
  winRate : PyFloat
  /-- infinite with profits and no losses -/
  profitFactor : PyFloat
  expectancy : PyFloat
  expectancyPerLot : PyFloat
  maxDrawdown : PyFloat
  sharpe : PyFloat
  totalCommission : PyFloat
  totalSwap : PyFloat
  initialBalance : PyFloat
  finalBalance : PyFloat
deriving Repr, DecidableEq

/-- `round(x, digits)` of a float, for digits after the point. -/
def roundTo (digits : ℤ) : PyFloat → PyFloat
  | .fin q => .nearest (halfEven (q * 10 ^ digits) / 10 ^ digits)
  | .inf negative => .inf negative
  | .nan => .nan

def metricNames : List String :=
  ["trades", "net_pnl", "gross_profit", "gross_loss", "win_rate", "profit_factor",
    "expectancy", "expectancy_per_lot", "max_drawdown", "sharpe", "total_commission",
    "total_swap", "initial_balance", "final_balance"]

def ReportFigures.toMetricsDict (figures : ReportFigures) : Dict String PyValue where
  items :=
    [("trades", .int figures.trades),
      ("net_pnl", .float (roundTo 2 figures.netPnl)),
      ("gross_profit", .float (roundTo 2 figures.grossProfit)),
      ("gross_loss", .float (roundTo 2 figures.grossLoss)),
      ("win_rate", .float (roundTo 4 figures.winRate)),
      ("profit_factor",
        if figures.profitFactor = .inf false then .none
        else .float (roundTo 4 figures.profitFactor)),
      ("expectancy", .float (roundTo 2 figures.expectancy)),
      ("expectancy_per_lot", .float (roundTo 2 figures.expectancyPerLot)),
      ("max_drawdown", .float (roundTo 2 figures.maxDrawdown)),
      ("sharpe", .float (roundTo 4 figures.sharpe)),
      ("total_commission", .float (roundTo 2 figures.totalCommission)),
      ("total_swap", .float (roundTo 2 figures.totalSwap)),
      ("initial_balance", .float figures.initialBalance),
      ("final_balance", .float (roundTo 2 figures.finalBalance))]
  nodup := by
    change metricNames.Nodup
    decide

theorem keys_toMetricsDict (figures : ReportFigures) :
    figures.toMetricsDict.keys = metricNames := rfl

/-- Every report has the same metrics. -/
theorem get?_toMetricsDict_isSome (figures : ReportFigures) (name : String) :
    (figures.toMetricsDict.get? name).isSome = true ↔ name ∈ metricNames := by
  rw [Dict.get?_isSome_iff, keys_toMetricsDict]

end StingerFx
