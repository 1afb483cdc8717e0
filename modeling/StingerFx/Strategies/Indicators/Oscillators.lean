/-
Module: StingerFx.Strategies.Indicators.Oscillators
Layer: Strategies
Purpose: The indicators that place a value in a window: the stochastic oscillator,
  Aroon, and the stochastic formula over the RSI series. A loop that may give up
  early collects its values one index after the other.
Trusted boundary: human-reviewed model of the source's stochastic, aroon and
  stoch_rsi modules
Main exports: slice, collect, percentK, windowK, StochasticResult, stochastic,
  latestFrom, latest, AroonResult, aroon, StochRSIResult, stochRsiExtra,
  stochRsiNeeded, stochRsiCap, rawK, smoothedKAt, stochRsi
-/
import StingerFx.Strategies.Indicators.Wilder

namespace StingerFx

/-- `seq[a:b]`. -/
def slice {α : Type} (a b : Nat) (items : List α) : List α :=
  (items.take b).drop a

/-- A loop that appends one value for each index and may return `None`. -/
def collect (value : Nat → Except IndicatorError (Option ℚ)) :
    List Nat → Except IndicatorError (Option (List ℚ))
  | [] => .ok (some [])
  | i :: rest =>
      match value i with
      | .error error => .error error
      | .ok none => .ok none
      | .ok (some x) => (collect value rest).map (Option.map (x :: ·))

/-- A value between the lowest and the highest of its window, in percent; fifty when
they are the same. -/
def percentK (value lo hi : ℚ) : Except IndicatorError ℚ :=
  if hi = lo then .ok 50
  else (quotient (value - lo) (hi - lo)).map (· * 100)

/-! ### Stochastic oscillator -/

/-- `%K` at the end of a window of bars. -/
def windowK (window : List Bar) : Except IndicatorError ℚ :=
  match (window.map Bar.high).max?, (window.map Bar.low).min?,
    window.getLast? with
  | some high, some low, some last => percentK last.close low high
  | _, _, _ => .error (.value "max() iterable argument is empty")

structure StochasticResult where
  k : ℚ
  d : ℚ
deriving Repr, DecidableEq

/-- The last value and the mean of all. -/
def StochasticResult.ofSeries (kValues : List ℚ) :
    Except IndicatorError (Option StochasticResult) :=
  match kValues.getLast? with
  -- not reached: there is one value for each of the `d_period` bars
  | none => .ok none
  | some k => do
      let d ← quotient kValues.sum kValues.length
      return some ⟨k, d⟩

def stochastic (bars : List Bar) (kPeriod dPeriod : Nat) :
    Except IndicatorError (Option StochasticResult) :=
  if kPeriod = 0 ∨ dPeriod = 0 then .error (.value "periods must be > 0")
  else if bars.length < kPeriod + dPeriod - 1 then .ok none
  else do
    let kAt := fun i =>
      let window := slice (i - kPeriod) i bars
      if window.length < kPeriod then .ok none
      else (windowK window).map some
    let kValues ← collect kAt
      (List.range' (bars.length - dPeriod + 1) dPeriod)
    match kValues with
    | none => return none
    | some kValues => StochasticResult.ofSeries kValues

/-! ### Aroon -/

/-- The scan for the best index: of values that tie the latest wins. `tops x best`
says that a value at least ties with the best so far. -/
def latestFrom (tops : ℚ → ℚ → Bool) (bestIdx : Nat) (best : ℚ) (idx : Nat) :
    List ℚ → Nat
  | [] => bestIdx
  | x :: rest =>
      if tops x best then latestFrom tops idx x (idx + 1) rest
      else latestFrom tops bestIdx best (idx + 1) rest

def latest (tops : ℚ → ℚ → Bool) : List ℚ → Option Nat
  | [] => none
  | x :: rest => some (latestFrom tops 0 x 1 rest)

structure AroonResult where
  up : ℚ
  down : ℚ
  oscillator : ℚ
deriving Repr, DecidableEq

/-- `(period - since) / period * 100`. -/
def aroonLine (period since : Nat) : Except IndicatorError ℚ :=
  (quotient ((period : ℚ) - since) period).map (· * 100)

def aroon (bars : List Bar) (period : Nat) :
    Except IndicatorError (Option AroonResult) :=
  if period = 0 then
    .error (.value ("period must be > 0, got " ++ toString period))
  else if bars.length < period + 1 then .ok none
  else
    let window := lastN (period + 1) bars
    match latest (fun x best => decide (best ≤ x)) (window.map Bar.high),
      latest (fun x best => decide (x ≤ best)) (window.map Bar.low) with
    | some hhIdx, some llIdx => do
        let up ← aroonLine period (window.length - 1 - hhIdx)
        let down ← aroonLine period (window.length - 1 - llIdx)
        return some ⟨up, down, up - down⟩
    | _, _ => .error (.value "max() iterable argument is empty")

/-! ### Stochastic RSI -/

structure StochRSIResult where
  k : ℚ
  d : ℚ
deriving Repr, DecidableEq

/-- `extra`: how many RSI values before the current one are looked at. -/
def stochRsiExtra (stochPeriod kSmooth dSmooth : Nat) : Nat :=
  stochPeriod + kSmooth + dSmooth - 2

def stochRsiNeeded (rsiPeriod stochPeriod kSmooth dSmooth : Nat) : Nat :=
  rsiPeriod + stochRsiExtra stochPeriod kSmooth dSmooth + 1

def stochRsiCap (rsiPeriod stochPeriod kSmooth dSmooth : Nat) : Nat :=
  max (rsiPeriod * wilderTailFactor)
    (stochRsiNeeded rsiPeriod stochPeriod kSmooth dSmooth)

/-- Raw `%K` at the end of a window of RSI values. -/
def rawK (window : List ℚ) : Except IndicatorError ℚ :=
  match window.getLast?, window.min?, window.max? with
  | some cur, some lo, some hi => percentK cur lo hi
  | _, _, _ => .error (.value "min() iterable argument is empty")

/-- Raw `%K` of the window that ends `i` values before the end. -/
def rawKAt (stochPeriod : Nat) (rsiTail : List ℚ) (i : Nat) :
    Except IndicatorError (Option ℚ) :=
  let stop := rsiTail.length - i
  if stop < stochPeriod then .ok none
  else (rawK (slice (stop - stochPeriod) stop rsiTail)).map some

/-- The mean of the `i`-th window of raw values. -/
def smoothedKAt (kSmooth dSmooth : Nat) (rawKSeries : List ℚ) (i : Nat) :
    Except IndicatorError (Option ℚ) :=
  let stop := rawKSeries.length - (dSmooth - 1 - i)
  if stop < kSmooth then .ok none
  else (quotient (slice (stop - kSmooth) stop rawKSeries).sum kSmooth).map some

/-- `%K` and `%D` from the smoothed values. -/
def StochRSIResult.ofSeries (dSmooth : Nat) (smoothed : List ℚ) :
    Except IndicatorError (Option StochRSIResult) :=
  match smoothed.getLast? with
  -- not reached: there is one value for each of the `d_smooth` windows
  | none => .ok none
  | some k => do
      let d ← quotient smoothed.sum dSmooth
      return some ⟨k, d⟩

/-- What follows the RSI series. -/
def stochRsiOfTail (stochPeriod kSmooth dSmooth : Nat) (rsiTail : List ℚ) :
    Except IndicatorError (Option StochRSIResult) := do
  let raw ← collect (rawKAt stochPeriod rsiTail)
    (List.range (kSmooth + dSmooth)).reverse
  match raw with
  | none => return none
  | some rawKSeries =>
      if rawKSeries.length < kSmooth then return none
      else
        let smoothed ← collect (smoothedKAt kSmooth dSmooth rawKSeries)
          (List.range dSmooth)
        match smoothed with
        | none => return none
        | some smoothedKSeries =>
            StochRSIResult.ofSeries dSmooth smoothedKSeries

def stochRsi (closes : List ℚ) (rsiPeriod stochPeriod kSmooth dSmooth : Nat) :
    Except IndicatorError (Option StochRSIResult) :=
  if rsiPeriod < 1 ∨ stochPeriod < 1 ∨ kSmooth < 1 ∨ dSmooth < 1 then
    .error (.value "all periods must be >= 1")
  else if closes.length <
      stochRsiNeeded rsiPeriod stochPeriod kSmooth dSmooth then .ok none
  else do
    let cap := stochRsiCap rsiPeriod stochPeriod kSmooth dSmooth
    let closes := if cap < closes.length then lastN cap closes else closes
    let fullRsi ← rsiSeries closes rsiPeriod
    let extra := stochRsiExtra stochPeriod kSmooth dSmooth
    if fullRsi.length < extra + 1 then return none
    else
      stochRsiOfTail stochPeriod kSmooth dSmooth (lastN (extra + 1) fullRsi)

end StingerFx
