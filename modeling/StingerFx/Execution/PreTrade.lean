/-
Module: StingerFx.Execution.PreTrade
Layer: Execution
Purpose: The pure checks in front of an order: lot size from a risk budget, money
  at risk of the open positions, and the trading filter.
Trusted boundary: human-reviewed model of the source's position sizing, exposure
  and trading filter
Main exports: sizeByRisk, positionRisk, aggregateOpenRisk,
  evaluateTradingFilter
-/
import StingerFx.Core.Events
import StingerFx.Risk.Config

namespace StingerFx

open Lib

/-! ### Position sizing -/

/-- Lot size that risks a percentage of equity at the stop; zero when there is
no tradable size. -/
def sizeByRisk (equity riskPct entry sl contractSize volumeMin volumeMax
    volumeStep : ℚ) : ℚ :=
  let riskAmount := equity * riskPct / 100
  let stopDist := |entry - sl|
  if stopDist ≤ 0 ∨ contractSize ≤ 0 ∨ riskAmount ≤ 0 ∨ volumeStep ≤ 0 then 0
  else
    let raw := riskAmount / (stopDist * contractSize)
    let stepped := ⌊raw / volumeStep⌋ * volumeStep
    if stepped < volumeMin then 0 else min stepped volumeMax

/-! ### Open risk -/

/-- Money lost if the stop is hit; nothing without a usable stop. -/
def positionRisk (openPrice : ℚ) (sl : Option ℚ) (volume contractSize : ℚ) :
    ℚ :=
  match sl with
  | none => 0
  | some sl =>
      if sl ≤ 0 then 0 else |openPrice - sl| * volume * contractSize

/-- Open risk of one position; unmeasurable without a contract size. -/
def openRiskOf (contractSizes : Dict Symbol ℚ) (p : Position) : ℚ :=
  match contractSizes.get? p.symbol with
  | none => 0
  | some size =>
      if size ≤ 0 then 0 else positionRisk p.openPrice p.sl p.volume size

def aggregateOpenRisk (positions : List Position)
    (contractSizes : Dict Symbol ℚ) : ℚ :=
  (positions.map (openRiskOf contractSizes)).sum

/-! ### Trading filter -/

/-- `hour` lies in `[start, stop)`, wrapping past midnight. -/
def hourInSession (hour start stop : Int) : Bool :=
  if start ≤ stop then decide (start ≤ hour ∧ hour < stop)
  else decide (start ≤ hour ∨ hour < stop)

/-- Distance in minutes to the nearest rollover. -/
def minutesToRollover (now : Time) (hour : Nat) : ℚ :=
  let base := Time.atHour now hour
  let distance (days : Int) : ℚ := |((now - (base + days * Time.usPerDay) : Int) : ℚ)|
  min (distance (-1)) (min (distance 0) (distance 1)) / Time.usPerMinute

def spreadReason (cfg : TradingFilterConfig) (spreadPoints : Option Int) :
    Option FilterReason :=
  match spreadPoints with
  | none => none
  | some points =>
      if 0 < cfg.maxSpreadPoints ∧ (cfg.maxSpreadPoints : Int) < points then
        some (.spread points cfg.maxSpreadPoints)
      else none

def sessionReason (cfg : TradingFilterConfig) (now : Time) :
    Option FilterReason :=
  match cfg.sessionStartHourUtc, cfg.sessionEndHourUtc with
  | some start, some stop =>
      if hourInSession (Time.hour now) start stop then none
      else some (.outsideSession start stop (Time.hour now))
  | _, _ => none

def rolloverReason (cfg : TradingFilterConfig) (now : Time) :
    Option FilterReason :=
  let minutes := minutesToRollover now cfg.rolloverHourUtc
  if cfg.blockRollover ∧ minutes ≤ cfg.rolloverBlockMinutes then
    some (.rollover cfg.rolloverBlockMinutes cfg.rolloverHourUtc minutes)
  else none

def newsReason (cfg : TradingFilterConfig) (now : Time) : Option FilterReason :=
  (cfg.newsBlackouts.find? fun window =>
    decide (window.start ≤ now ∧ now < window.stop)).map fun window =>
      .newsBlackout window.start window.stop

/-- Why an order is blocked at an instant, `none` when it may proceed. -/
def evaluateTradingFilter (cfg : TradingFilterConfig) (now : Time)
    (spreadPoints : Option Int) : Option FilterReason :=
  if cfg.enabled then
    spreadReason cfg spreadPoints <|> sessionReason cfg now <|>
      rolloverReason cfg now <|> newsReason cfg now
  else none

end StingerFx
