/-
Module: StingerFx.Backtest.FileBacktester
Layer: Backtest
Purpose: A whole backtest. A configuration gives the broker its costs and slippage; bars or
  ticks are replayed; what is still open is closed at the last prices; and the report has
  the curve of the replay and the balance at the end.
Trusted boundary: human-reviewed model of the source's file backtester; strategy, router
  and risk layer are any reaction to what was published
Main exports: buildSlippageModel, simConfigOf, RunError, FileBacktester,
  FileBacktester.replay, FileBacktester.closeRemaining, FileBacktester.run
-/
import StingerFx.Backtest.Reports
import StingerFx.Backtest.TickMode
import StingerFx.Config.Backtest

namespace StingerFx

open Lib Config

/-- One pip in price units. -/
def defaultPoint : ℚ := 1 / 10000

def buildSlippageModel (model : SlippageKind) (pips volatilityFactor : ℚ) :
    SlippageModel (List ℚ) :=
  match model with
  | .fixed => fixedPipsModel pips defaultPoint
  | .spread => spreadModel
  | .volatility => volatilityModel volatilityFactor defaultPoint 20

theorem rolloverHour_bounds {f : RunFields} (accepted : backtestRunSchema.errors f = []) :
    0 ≤ f.swapRolloverHourUtc ∧ f.swapRolloverHourUtc ≤ 23 := by
  simp only [backtestRunSchema, RunFields.errors, List.append_eq_nil_iff] at accepted
  obtain ⟨⟨-, hours⟩, -⟩ := accepted
  split at hours
  · cases hours
  · rename_i low
    exact ⟨not_lt.mp low, require_eq_nil.mp hours⟩

/-- The broker's parameters, as a run sets them. -/
def simConfigOf (cfg : BacktestRunConfig) : SimConfig (List ℚ) where
  slippageFn := buildSlippageModel cfg.fields.slippageModel cfg.fields.slippagePips
    cfg.fields.slippageVolatilityFactor
  contractSize := 100000
  symbolContractSizes := cfg.fields.symbolContractSizes
  point := defaultPoint
  commissionPerLot := cfg.fields.commissionPerLot
  swapLongPerLot := cfg.fields.swapLongPerLot
  swapShortPerLot := cfg.fields.swapShortPerLot
  swapRolloverHourUtc := cfg.fields.swapRolloverHourUtc.toNat
  rolloverHour_lt := by
    have bounds := rolloverHour_bounds cfg.accepted
    omega

/-- What a run can raise. -/
inductive RunError where
  | strategyMismatch (target configured : StrategyId)
  | bars (error : ReplayError)
  | clock (error : ClockError)
  | ticks (error : TickModeError)
deriving Repr, DecidableEq

/-- The text of a refused run. -/
def strategyMismatchText (target configured : StrategyId) : String :=
  "strategy mismatch: run targets '" ++ target ++ "' but configured strategy is '" ++
    configured ++ "'"

/-- A strategy and the stored prices. -/
structure FileBacktester where
  strategyId : StrategyId
  bars : List Bar
  ticks : TickStore
  reaction : Reaction (List ℚ)

/-- Where a replay ends. -/
structure Replayed where
  broker : SimBroker (List ℚ)
  equityCurve : List (Time × ℚ)
  events : List Event

namespace FileBacktester

variable (backtester : FileBacktester) (cfg : BacktestRunConfig)

/-- The replay in the mode of the run; `now` is the clock when the broker is made. -/
def replay (now : Time) : Except RunError Replayed :=
  let broker := SimBroker.create cfg.fields.initialBalance [] now
  let sim := simConfigOf cfg
  match cfg.fields.granularity with
  | .tick =>
      let clocked := replayTicks (TickMode.handleTick sim backtester.reaction)
        backtester.ticks cfg.feedList cfg.fields.start cfg.fields.stop (.start broker)
      let ended := replayTickMode sim backtester.reaction backtester.ticks cfg.feedList
        cfg.fields.start cfg.fields.stop broker
      match clocked.2, ended.error with
      | some error, _ => .error (.clock error)
      | none, some error => .error (.ticks error)
      | none, none => .ok ⟨ended.broker, ended.equityCurve, ended.events⟩
  | .bar =>
      match replayBars sim backtester.reaction backtester.bars cfg.feedList
        cfg.fields.start cfg.fields.stop broker with
      | (_, some error) => .error (.bars error)
      | (ended, none) => .ok ⟨ended.broker, ended.equityCurve, ended.events⟩

/-- Let the strategies run. -/
def react (s : Replayed) : Replayed :=
  (backtester.reaction s.events s.broker).foldl (fun s call =>
    let performed := SimBroker.perform (simConfigOf cfg) s.broker call.op
    { s with broker := performed.1, events := s.events ++ performed.2 }) s

/-- Close any remaining positions. Strategies run until they are stopped. -/
def closeRemaining (s : Replayed) : Replayed :=
  let waited := backtester.react cfg s
  let closed := waited.broker.closeListed (simConfigOf cfg) waited.broker.getPositions
  backtester.react cfg
    { waited with broker := closed.1, events := waited.events ++ closed.2 }

/-- The report on a replay that has been closed. -/
def reportOn (ended : Replayed) : BacktestReport where
  runId := cfg.fields.id
  strategyId := backtester.strategyId
  trades := ended.broker.trades
  equityCurve := ended.equityCurve
  initialBalance := cfg.fields.initialBalance
  finalBalance := ended.broker.balance

def run (now : Time) : Except RunError BacktestReport :=
  if cfg.fields.strategyId ≠ backtester.strategyId then
    .error (.strategyMismatch cfg.fields.strategyId backtester.strategyId)
  else do
    let replayed ← backtester.replay cfg now
    return backtester.reportOn cfg (backtester.closeRemaining cfg replayed)

/-- The reports that a run can end with. -/
def Produces (report : BacktestReport) : Prop :=
  ∃ now, backtester.run cfg now = .ok report

end FileBacktester

end StingerFx
