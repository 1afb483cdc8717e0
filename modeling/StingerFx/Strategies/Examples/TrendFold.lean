/-
Module: StingerFx.Strategies.Examples.TrendFold
Layer: Strategies
Purpose: The trend filters of two scalpers. They fold the bars of their entry feed into
  bars of a higher timeframe, each of which is recorded when the first bar behind it
  comes, and let an order pass with the trend of the recorded bars only.
Trusted boundary: human-reviewed model of the source's two trend folds
Main exports: TrendFrames, TrendFrames.check, TrendFold, TrendFold.foldTrend,
  TrendCloses, TrendCloses.foldTrend, trendDir, TrendBand, trendOk
-/
import StingerFx.Brokers.BarAggregator
import StingerFx.Strategies.Indicators.Channels
import StingerFx.Strategies.Indicators.Incremental

namespace StingerFx

open Time

/-! ### The timeframes -/

/-- Two timeframes that the validators of both parameter records let pass. -/
structure TrendFrames where
  entry : Timeframe
  trend : Timeframe
  entrySeconds : Nat
  trendSeconds : Nat
  entry_seconds : entry.seconds = some entrySeconds
  trend_seconds : trend.seconds = some trendSeconds
  uncalendared : trend ≠ .w1 ∧ trend ≠ .mn1
  higher : entrySeconds < trendSeconds
  multiple : trendSeconds % entrySeconds = 0

/-- Why a validator rejects a trend timeframe. -/
inductive TrendFilterError where
  | tick
  | calendar
  /-- not higher than the entry timeframe -/
  | notHigher (trend entry : Timeframe)
  | notMultiple (trend entry : Timeframe)
  /-- the entry timeframe has no duration -/
  | noDuration
deriving Repr, DecidableEq

/-- The checks of a trend timeframe, in their order. -/
def TrendFrames.check (entry trend : Timeframe) : Except TrendFilterError TrendFrames :=
  match trendSeconds : trend.seconds with
  | none => .error .tick
  | some long =>
      if calendar : trend = .w1 ∨ trend = .mn1 then .error .calendar
      else
        match entrySeconds : entry.seconds with
        | none => .error .noDuration
        | some short =>
            if higher : long ≤ short then .error (.notHigher trend entry)
            else if multiple : long % short = 0 then
              .ok
                { entry := entry
                  trend := trend
                  entrySeconds := short
                  trendSeconds := long
                  entry_seconds := entrySeconds
                  trend_seconds := trendSeconds
                  uncalendared := not_or.mp calendar
                  higher := not_le.mp higher
                  multiple := multiple }
            else .error (.notMultiple trend entry)

/-- `int(bar.time.timestamp()) // tf.seconds`. -/
def TrendFrames.key (frames : TrendFrames) (bar : Bar) : Int :=
  Int.tdiv bar.time usPerSecond / frames.trendSeconds

/-! ### Whole bars -/

/-- The bars that the deque keeps. -/
def trendCapacity : Nat := 4096

namespace OpenBar

/-- A bucket that begins with a bar. -/
def ofBar (bar : Bar) : OpenBar where
  openTime := bar.time
  openPrice := bar.openPrice
  high := bar.high
  low := bar.low
  close := bar.close
  tickCount := bar.tickVolume
  low_pos := bar.low_pos
  low_le_open := bar.low_le_open
  open_le_high := bar.open_le_high
  low_le_close := bar.low_le_close
  close_le_high := bar.close_le_high

/-- A bucket after one more bar. -/
def join (bucket : OpenBar) (bar : Bar) : OpenBar where
  openTime := bucket.openTime
  openPrice := bucket.openPrice
  high := max bucket.high bar.high
  low := min bucket.low bar.low
  close := bar.close
  tickCount := bucket.tickCount + bar.tickVolume
  low_pos := lt_min bucket.low_pos bar.low_pos
  low_le_open := (min_le_left _ _).trans bucket.low_le_open
  open_le_high := bucket.open_le_high.trans (le_max_left _ _)
  low_le_close := (min_le_right _ _).trans bar.low_le_close
  close_le_high := bar.close_le_high.trans (le_max_right _ _)

/-- The bar of a bucket. -/
def toBar (bucket : OpenBar) (symbol : Symbol) (tf : Timeframe) : Bar where
  symbol := symbol
  timeframe := tf
  time := bucket.openTime
  openPrice := bucket.openPrice
  high := bucket.high
  low := bucket.low
  close := bucket.close
  tickVolume := bucket.tickCount
  low_pos := bucket.low_pos
  low_le_open := bucket.low_le_open
  open_le_high := bucket.open_le_high
  low_le_close := bucket.low_le_close
  close_le_high := bucket.close_le_high

end OpenBar

/-- The recorded bars, and the bucket in the making. -/
structure TrendFold where
  /-- `_trend_key` and the scratch fields, which are set together -/
  current : Option (Int × OpenBar)
  bars : List Bar

namespace TrendFold

def create : TrendFold := ⟨none, []⟩

/-- `_fold_trend` of the pullback scalper. -/
def foldTrend (frames : TrendFrames) (fold : TrendFold) (bar : Bar) : TrendFold :=
  let key := frames.key bar
  match fold.current with
  | none => { fold with current := some (key, .ofBar bar) }
  | some (open_, bucket) =>
      if key = open_ then { fold with current := some (open_, bucket.join bar) }
      else
        { current := some (key, .ofBar bar)
          bars := pushBounded trendCapacity fold.bars
            (bucket.toBar bar.symbol frames.trend) }

end TrendFold

/-! ### Closes only -/

/-- The recorded closes, and the last close of the bucket in the making. -/
structure TrendCloses where
  current : Option (Int × ℚ)
  closes : List ℚ

namespace TrendCloses

def create : TrendCloses := ⟨none, []⟩

/-- `_fold_trend` of the reversion scalper. -/
def foldTrend (frames : TrendFrames) (fold : TrendCloses) (bar : Bar) : TrendCloses :=
  let key := frames.key bar
  match fold.current with
  | none => { fold with current := some (key, bar.close) }
  | some (open_, close) =>
      if key = open_ then { fold with current := some (key, bar.close) }
      else
        { current := some (key, bar.close)
          closes := pushBounded trendCapacity fold.closes close }

end TrendCloses

/-! ### What the filters decide -/

inductive TrendDirection where
  | up
  | down
deriving Repr, DecidableEq

/-- The last close against the average of all. -/
def directionOf (closes : List ℚ) (emaPeriod : Nat) :
    Except IndicatorError (Option TrendDirection) := do
  match ← ema closes emaPeriod, closes.getLast? with
  | some average, some last => return some (if average < last then .up else .down)
  | _, _ => return none

/-- `_trend_dir` of the reversion scalper. -/
def trendDir (closes : List ℚ) (emaPeriod : Nat) :
    Except IndicatorError (Option TrendDirection) :=
  if closes.length < emaPeriod + 1 then .ok none
  else directionOf closes emaPeriod

/-- The parameters of the pullback scalper's filter. -/
structure TrendBand where
  emaPeriod : Nat
  adxPeriod : Nat
  adxMin : ℚ
  adxMax : ℚ
  emaPeriod_bounds : 2 ≤ emaPeriod ∧ emaPeriod ≤ 400
  adxPeriod_bounds : 2 ≤ adxPeriod ∧ adxPeriod ≤ 50
  band_bounds : 0 ≤ adxMin ∧ adxMin ≤ adxMax ∧ adxMax ≤ 100

/-- The side that goes with a direction. -/
def TrendDirection.side : TrendDirection → Side
  | .up => .buy
  | .down => .sell

/-- `_trend_ok` of the pullback scalper with its filter on. -/
def trendOk (band : TrendBand) (bars : List Bar) (side : Side) :
    Except IndicatorError Bool :=
  if bars.length < max (band.emaPeriod + 1) (2 * band.adxPeriod) then .ok false
  else do
    match ← directionOf (bars.map Bar.close) band.emaPeriod with
    | none => return false
    | some direction =>
        if direction.side ≠ side then return false
        else if 0 < band.adxMin ∨ band.adxMax < 100 then
          match ← adx bars band.adxPeriod with
          | none => return false
          | some result =>
              return decide (band.adxMin ≤ result.adx ∧ result.adx ≤ band.adxMax)
        else return true

end StingerFx
