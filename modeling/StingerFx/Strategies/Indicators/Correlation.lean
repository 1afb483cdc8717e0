/-
Module: StingerFx.Strategies.Indicators.Correlation
Layer: Strategies
Purpose: The rolling correlation of two aligned series.
Trusted boundary: human-reviewed model of the source's correlation indicator
Main exports: correlation
-/
import StingerFx.Strategies.Indicators.Smoothing

namespace StingerFx

/-- Correlation over the last `period` samples, in exact rationals up to the root;
nothing when there are too few samples or one side does not vary. -/
def correlation {K : Type} [Field K] [DecidableEq K] (sqrt : ℚ → K)
    (seriesA seriesB : List ℚ) (period : Nat := 20) : Except IndicatorError (Option K) :=
  if period ≤ 1 then .error (.value "period must be > 1")
  else if seriesA.length ≠ seriesB.length then
    .error (.value ("series lengths differ: a=" ++ toString seriesA.length ++ " b=" ++
      toString seriesB.length))
  else if seriesA.length < period then .ok none
  else
    let a := lastN period seriesA
    let b := lastN period seriesB
    let meanA := a.sum / period
    let meanB := b.sum / period
    let cov := (List.zipWith (fun x y => (x - meanA) * (y - meanB)) a b).sum
    let varA := (a.map fun x => (x - meanA) ^ 2).sum
    let varB := (b.map fun y => (y - meanB) ^ 2).sum
    let denom := sqrt (varA * varB)
    if denom = 0 then .ok none else .ok (some (cov / denom))

end StingerFx
