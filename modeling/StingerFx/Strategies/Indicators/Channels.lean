/-
Module: StingerFx.Strategies.Indicators.Channels
Layer: Strategies
Purpose: The exponential moving average of closing prices, the highest high and
  lowest low over some bars, and the average price weighted by volume.
Trusted boundary: human-reviewed model of the source's moving averages, Donchian
  channels and session VWAP
Main exports: emaTailFactor, ema, DonchianChannels, donchian, vwapSession
-/
import StingerFx.Strategies.Indicators.Smoothing

namespace StingerFx

def emaTailFactor : Nat := 30

/-- `ema`, seeded with the mean of the first values of the trailing slice. -/
def ema (values : List ℚ) (period : Nat) : Except IndicatorError (Option ℚ) :=
  if period = 0 then .error (.value "period must be > 0")
  else if values.length < period then .ok none
  else do
    let cap := period * emaTailFactor
    let tail := if cap < values.length then lastN cap values else values
    let alpha ← quotient 2 (period + 1)
    let seed ← quotient (tail.take period).sum period
    return some ((tail.drop period).foldl
      (fun out v => alpha * v + (1 - alpha) * out) seed)

structure DonchianChannels where
  upper : ℚ
  middle : ℚ
  lower : ℚ
deriving Repr, DecidableEq

def donchian (bars : List Bar) (period : Nat) :
    Except IndicatorError (Option DonchianChannels) :=
  if period = 0 then .error (.value "period must be > 0")
  else if bars.length < period then .ok none
  else
    let window := lastN period bars
    match (window.map Bar.high).max?, (window.map Bar.low).min? with
    | some upper, some lower => do
        let middle ← quotient (upper + lower) 2
        return some ⟨upper, middle, lower⟩
    -- not reached: the window is not empty
    | _, _ => .ok none

def typicalPrice (bar : Bar) : ℚ := (bar.high + bar.low + bar.close) / 3

/-- `vwap_session`; bars without volume count all the same. -/
def vwapSession (bars : List Bar) : Option ℚ :=
  if bars.isEmpty then none
  else
    let totalV : ℚ := (bars.map fun bar => (bar.tickVolume : ℚ)).sum
    if totalV = 0 then some ((bars.map typicalPrice).sum / bars.length)
    else some ((bars.map fun bar => typicalPrice bar * bar.tickVolume).sum / totalV)

end StingerFx
