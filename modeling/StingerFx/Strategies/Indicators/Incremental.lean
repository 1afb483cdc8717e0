/-
Module: StingerFx.Strategies.Indicators.Incremental
Layer: Strategies
Purpose: The streaming indicators. Each carries the running state of its smoothing
  forward and takes one value at a time; none gives a value before it is warm.
Trusted boundary: human-reviewed model of the source's incremental indicators
Main exports: feedMean, IncrementalRSI, IncrementalATR, pushBounded,
  IncrementalStochRSI
-/
import StingerFx.Strategies.Indicators.Oscillators

namespace StingerFx

/-- One more value, the `n`-th, for a mean that is a plain sum until its seed is
full. -/
def feedMean (period n : Nat) (mean x : ℚ) : Except IndicatorError ℚ :=
  if n < period then .ok (mean + x)
  else if n = period then quotient (mean + x) period
  else smoothMean period mean x

/-! ### RSI -/

structure IncrementalRSI where
  period : Nat
  prev : Option ℚ
  /-- number of changes seen -/
  n : Nat
  avgGain : ℚ
  avgLoss : ℚ
  value : Option ℚ
deriving Repr, DecidableEq

namespace IncrementalRSI

def create (period : Nat) : Except IndicatorError IncrementalRSI :=
  if period = 0 then .error (.value "period must be > 0")
  else .ok ⟨period, none, 0, 0, 0, none⟩

/-- The next state and what the call returns. -/
def update (s : IncrementalRSI) (x : ℚ) :
    Except IndicatorError (IncrementalRSI × Option ℚ) :=
  match s.prev with
  | none => .ok ({ s with prev := some x }, none)
  | some prev => do
      let delta := x - prev
      let gain := if 0 < delta then delta else 0
      let loss := if delta < 0 then -delta else 0
      let avgGain ← feedMean s.period (s.n + 1) s.avgGain gain
      let avgLoss ← feedMean s.period (s.n + 1) s.avgLoss loss
      if s.n + 1 < s.period then
        return ({ s with prev := some x, n := s.n + 1, avgGain, avgLoss }, none)
      else
        let value ← rsiValue ⟨avgGain, avgLoss⟩
        return (⟨s.period, some x, s.n + 1, avgGain, avgLoss, some value⟩,
          some value)

end IncrementalRSI

/-! ### Average true range -/

structure IncrementalATR where
  period : Nat
  prevClose : Option ℚ
  /-- number of ranges seen -/
  n : Nat
  atr : ℚ
  value : Option ℚ
deriving Repr, DecidableEq

namespace IncrementalATR

def create (period : Nat) : Except IndicatorError IncrementalATR :=
  if period = 0 then .error (.value "period must be > 0")
  else .ok ⟨period, none, 0, 0, none⟩

def update (s : IncrementalATR) (bar : Bar) :
    Except IndicatorError IncrementalATR :=
  match s.prevClose with
  | none => .ok { s with prevClose := some bar.close }
  | some prevClose => do
      let atr ← feedMean s.period (s.n + 1) s.atr (trueRange prevClose bar)
      let value := if s.n + 1 < s.period then s.value else some atr
      return ⟨s.period, some bar.close, s.n + 1, atr, value⟩

end IncrementalATR

/-! ### Stochastic RSI -/

/-- `append` to a `deque` with a greatest length. -/
def pushBounded {α : Type} (maxlen : Nat) (items : List α) (x : α) : List α :=
  lastN maxlen (items ++ [x])

structure IncrementalStochRSI where
  stochPeriod : Nat
  kSmooth : Nat
  dSmooth : Nat
  rsi : IncrementalRSI
  rsiWin : List ℚ
  /-- the oldest entry is never used -/
  rawk : List ℚ
  value : Option (ℚ × ℚ)
deriving Repr, DecidableEq

namespace IncrementalStochRSI

def create (rsiPeriod stochPeriod kSmooth dSmooth : Nat) :
    Except IndicatorError IncrementalStochRSI :=
  if rsiPeriod < 1 ∨ stochPeriod < 1 ∨ kSmooth < 1 ∨ dSmooth < 1 then
    .error (.value "all periods must be >= 1")
  else do
    let rsi ← IncrementalRSI.create rsiPeriod
    return ⟨stochPeriod, kSmooth, dSmooth, rsi, [], [], none⟩

/-- Raw `%K` of the current value in the window of the last ones. -/
def rawK (rsiWin : List ℚ) (r : ℚ) : Except IndicatorError ℚ :=
  match rsiWin.min?, rsiWin.max? with
  | some lo, some hi => percentK r lo hi
  | _, _ => .error (.value "min() iterable argument is empty")

/-- `%K` and `%D` over all readings but the oldest. -/
def smooth (kSmooth dSmooth : Nat) (rawk : List ℚ) :
    Except IndicatorError (Option (ℚ × ℚ)) := do
  let smoothed ← (List.range dSmooth).mapM fun j =>
    quotient (slice (1 + j) (1 + j + kSmooth) rawk).sum kSmooth
  match smoothed.getLast? with
  -- not reached: `d_smooth` is at least one
  | none => return none
  | some k =>
      let d ← quotient smoothed.sum dSmooth
      return some (k, d)

/-- `update` from a raw `%K` on. -/
def pushRaw (s : IncrementalStochRSI) (raw : ℚ) :
    Except IndicatorError IncrementalStochRSI :=
  let rawk := pushBounded (s.kSmooth + s.dSmooth) s.rawk raw
  if rawk.length < s.kSmooth + s.dSmooth then .ok { s with rawk := rawk }
  else do
    let value ← smooth s.kSmooth s.dSmooth rawk
    return { s with rawk := rawk, value := value }

/-- `update` from an RSI value on. -/
def pushRsi (s : IncrementalStochRSI) (r : ℚ) :
    Except IndicatorError IncrementalStochRSI :=
  let rsiWin := pushBounded s.stochPeriod s.rsiWin r
  if rsiWin.length < s.stochPeriod then .ok { s with rsiWin := rsiWin }
  else do
    let raw ← rawK rsiWin r
    pushRaw { s with rsiWin := rsiWin } raw

def update (s : IncrementalStochRSI) (close : ℚ) :
    Except IndicatorError IncrementalStochRSI := do
  let (rsi, r) ← s.rsi.update close
  match r with
  | none => return { s with rsi := rsi }
  | some r => pushRsi { s with rsi := rsi } r

end IncrementalStochRSI

end StingerFx
