/-
Module: StingerFx.Strategies.Cointegration
Layer: Strategies
Purpose: Pairs trading. A hedge ratio by least squares, the Engle-Granger test on what
  it leaves, and the z-score of a spread; exact rationals up to the root. The
  Dickey-Fuller test belongs to a package that need not be installed.
Trusted boundary: human-reviewed model of the source's cointegration helpers
Main exports: olsRegression, rollingHedgeRatio, CointegrationResult,
  engleGrangerTest, heuristicStationarity, spreadZscore
-/
import StingerFx.Strategies.Indicators.Smoothing

namespace StingerFx

/-! ### OLS -/

/-- Slope and intercept of `y = slope * x + intercept`. -/
def olsRegression (y x : List ℚ) : Except IndicatorError (ℚ × ℚ) :=
  if y.length ≠ x.length then
    .error (.value ("length mismatch: y=" ++ toString y.length ++ " x=" ++
      toString x.length))
  else if x.length < 2 then .error (.value "need at least 2 samples")
  else
    let n : ℚ := x.length
    let meanX := x.sum / n
    let meanY := y.sum / n
    let num := (List.zipWith (fun xi yi => (xi - meanX) * (yi - meanY)) x y).sum
    let den := (x.map fun xi => (xi - meanX) ^ 2).sum
    if den = 0 then .error (.value "zero variance in x — can't solve OLS")
    else
      let slope := num / den
      .ok (slope, meanY - slope * meanX)

/-- Hedge ratio over the trailing window; a window without variance has none. -/
def rollingHedgeRatio (seriesA seriesB : List ℚ) (window : Nat) :
    Except IndicatorError (Option ℚ) :=
  if window ≤ 1 then
    .error (.value ("window must be > 1, got " ++ toString window))
  else if seriesA.length ≠ seriesB.length then
    .error (.value ("series lengths differ: a=" ++ toString seriesA.length ++ " b=" ++
      toString seriesB.length))
  else if seriesA.length < window then .ok none
  else
    match olsRegression (lastN window seriesA) (lastN window seriesB) with
    | .ok (slope, _) => .ok (some slope)
    | .error _ => .ok none

/-! ### Mean and deviation -/

def meanOf (values : List ℚ) : ℚ :=
  values.sum / values.length

/-- Population variance. -/
def varOf (values : List ℚ) : ℚ :=
  (values.map fun r => (r - meanOf values) ^ 2).sum / values.length

section Root

variable {K : Type} [Field K] [LinearOrder K] (sqrt : ℚ → K)

def stdOf (values : List ℚ) : K :=
  if 0 < varOf values then sqrt (varOf values) else 0

/-! ### Heuristic stationarity -/

/-- Check 1 fails: the mean is not small against the standard deviation. -/
def drifts (residuals : List ℚ) : Bool :=
  decide (((1 / 2 : ℚ) : K) * stdOf sqrt residuals < |((meanOf residuals : ℚ) : K)|)

/-- Check 2: the variances of both halves are roughly equal. -/
def halvesAgree (residuals : List ℚ) : Bool :=
  let half := residuals.length / 2
  let v1 := varOf (residuals.take half)
  let v2 := varOf (residuals.drop half)
  if v1 = 0 ∨ v2 = 0 then false else decide (max v1 v2 / min v1 v2 < 3)

def heuristicStationarity (residuals : List ℚ) : Bool :=
  if residuals.length < 10 then false
  else if stdOf sqrt residuals = 0 then false
  else if drifts sqrt residuals then false
  else halvesAgree residuals

/-! ### Engle-Granger -/

structure CointegrationResult (K : Type) where
  hedgeRatio : ℚ
  intercept : ℚ
  residuals : List ℚ
  spreadMean : ℚ
  spreadStd : K
  /-- without the package there is none -/
  adfPvalue : Option ℚ
  isStationary : Bool

/-- What the regression `a ~ b` leaves. -/
def residualsOf (slope intercept : ℚ) (seriesA seriesB : List ℚ) : List ℚ :=
  List.zipWith (fun a b => a - (intercept + slope * b)) seriesA seriesB

/-- The p-value and the verdict; `adfuller` is the package's test, which may raise. -/
def stationarity (adfuller : Option (List ℚ → Except IndicatorError ℚ))
    (residuals : List ℚ) : Except IndicatorError (Option ℚ × Bool) :=
  match adfuller with
  | none => .ok (none, heuristicStationarity sqrt residuals)
  | some adfuller => do
      let adfP ← adfuller residuals
      return (some adfP, decide (adfP < 1 / 20))

def engleGrangerTest (adfuller : Option (List ℚ → Except IndicatorError ℚ))
    (seriesA seriesB : List ℚ) (minSamples : Nat := 30) :
    Except IndicatorError (CointegrationResult K) :=
  if seriesA.length ≠ seriesB.length then
    .error (.value ("series lengths differ: a=" ++ toString seriesA.length ++ " b=" ++
      toString seriesB.length))
  else if seriesA.length < minSamples then
    .error (.value ("need at least " ++ toString minSamples ++
      " samples for cointegration test, got " ++ toString seriesA.length))
  else do
    let (slope, intercept) ← olsRegression seriesA seriesB
    let residuals := residualsOf slope intercept seriesA seriesB
    let (adfP, isStationary) ← stationarity sqrt adfuller residuals
    return {
      hedgeRatio := slope
      intercept := intercept
      residuals := residuals
      spreadMean := meanOf residuals
      spreadStd := stdOf sqrt residuals
      adfPvalue := adfP
      isStationary := isStationary }

/-! ### Z-score -/

/-- Z-score of the last value over a rolling window. -/
def spreadZscore (spreadSeries : List ℚ) (window : Nat := 20) :
    Except IndicatorError (Option K) :=
  if window ≤ 1 then
    .error (.value ("window must be > 1, got " ++ toString window))
  else
    match spreadSeries.getLast? with
    | none => .ok none
    | some newest =>
        if spreadSeries.length < window then .ok none
        else
          let w := lastN window spreadSeries
          let std := stdOf sqrt w
          if std = 0 then .ok none
          else .ok (some (((newest - meanOf w : ℚ) : K) / std))

end Root

end StingerFx
