/-
Module: StingerFx.Backtest.MonteCarlo
Layer: Backtest
Purpose: Monte Carlo simulation. The trades of a backtest are drawn again with
  replacement; every sample has its equity curve and its figures, and percentiles over
  the samples make bands.
Trusted boundary: human-reviewed model of the source's Monte Carlo module; the random
  generator is a parameter
Main exports: percentile, distribution, CurveState, simulate, MonteCarloResult,
  MonteCarloError, bandsOf, runMonteCarlo
-/
import StingerFx.Backtest.GeneticSearch
import StingerFx.Lib.ForwardFill

namespace StingerFx

open Lib

namespace MonteCarlo

/-! ### Percentiles -/

/-- `sorted(values)`. -/
def sorted (values : List ℚ) : List ℚ :=
  values.insertionSort (· ≤ ·)

/-- The p-th percentile of a sorted list, with linear interpolation. -/
def percentile (sortedValues : List ℚ) (p : Int) : ℚ :=
  if sortedValues = [] then 0
  else if p ≤ 0 then sortedValues.getD 0 0
  else if 100 ≤ p then sortedValues.getLastD 0
  else
    let n := sortedValues.length
    let rank : ℚ := (p / 100 : ℚ) * ((n : ℚ) - 1)
    let lo := ⌊rank⌋₊
    let hi := min (lo + 1) (n - 1)
    let frac := rank - lo
    sortedValues.getD lo 0 * (1 - frac) + sortedValues.getD hi 0 * frac

def percentileKey (p : Int) : String := "p" ++ toString p

/-- Low, middle and high percentile and the mean. -/
def distribution (values : List ℚ) (lowP highP : Int) : Dict String ℚ :=
  let valuesSorted := sorted values
  Dict.ofPairs
    [(percentileKey lowP, percentile valuesSorted lowP),
      ("p50", percentile valuesSorted 50),
      (percentileKey highP, percentile valuesSorted highP),
      ("mean", if values = [] then 0 else values.sum / values.length)]

/-! ### One simulation -/

/-- The loop over the trades of a sample. -/
structure CurveState where
  equity : ℚ
  curve : List ℚ
  peak : ℚ
  maxDdPct : ℚ
deriving Repr, DecidableEq

def CurveState.trade (s : CurveState) (p : ℚ) : CurveState :=
  let equity := s.equity + p
  let peak := if s.peak < equity then equity else s.peak
  let ddPct := if 0 < peak then (peak - equity) / peak * 100 else 0
  { equity := equity
    curve := s.curve ++ [equity]
    peak := peak
    maxDdPct := if s.maxDdPct < ddPct then ddPct else s.maxDdPct }

def simulate (initialBalance : ℚ) (sample : List ℚ) : CurveState :=
  sample.foldl CurveState.trade ⟨initialBalance, [], initialBalance, 0⟩

/-- `curve[-1] - initial_balance`. -/
def CurveState.finalPnl (s : CurveState) (initialBalance : ℚ) : ℚ :=
  s.curve.getLastD 0 - initialBalance

inductive MonteCarloError where
  | noTrades
  | nSimulations (n : Int)
  | percentiles (low high : Int)
  /-- `math.sqrt` of a negative number of periods -/
  | mathDomain
deriving Repr, DecidableEq

def MonteCarloError.text : MonteCarloError → String
  | .noTrades => "trade_pnls must be non-empty"
  | .nSimulations n => "n_simulations must be > 0, got " ++ toString n
  | .percentiles low high =>
      "need 0 <= percentile_low < percentile_high <= 100, got low=" ++ toString low ++
        " high=" ++ toString high
  | .mathDomain => "math domain error"

/-- Sharpe ratio per trade; zero below two trades or without deviation. -/
def sharpe (lib : Libm) (pnls : List ℚ) (periodsPerYear : Int) :
    Except MonteCarloError ℚ :=
  if pnls.length < 2 then .ok 0
  else
    let n : ℚ := pnls.length
    let mean := pnls.sum / n
    let var := (pnls.map fun p => (p - mean) ^ 2).sum / (n - 1)
    let std := lib.sqrt var
    if std ≤ 0 then .ok 0
    else if periodsPerYear < 0 then .error .mathDomain
    else .ok (mean / std * lib.sqrt periodsPerYear)

/-! ### The run -/

structure MonteCarloResult where
  nSimulations : Int
  nTrades : Nat
  initialBalance : ℚ
  percentileLow : Int
  percentileHigh : Int
  netPnl : Dict String ℚ
  maxDrawdown : Dict String ℚ
  sharpe : Dict String ℚ
  equityEnvelopeLow : List ℚ
  equityEnvelopeMid : List ℚ
  equityEnvelopeHigh : List ℚ

section Run

variable {ρ : Type} (rng : Rng ρ)

/-- As many trades as there are, each one of them. -/
def drawSample (tradePnls : List ℚ) (some : tradePnls ≠ []) (r : ρ) : List ℚ × ρ :=
  threaded (fun _ r => rng.choose tradePnls some r) (List.range tradePnls.length) r

def drawSamples (tradePnls : List ℚ) (some : tradePnls ≠ []) (nSimulations : Nat)
    (r : ρ) : List (List ℚ) :=
  (threaded (fun _ r => drawSample rng tradePnls some r) (List.range nSimulations) r).1

/-- The equities of all curves at a step. -/
def column (runs : List CurveState) (step : Nat) : List ℚ :=
  runs.map fun run => run.curve.getD step 0

/-- A percentile of the equity at every step. -/
def envelope (runs : List CurveState) (nTrades : Nat) (p : Int) : List ℚ :=
  (List.range nTrades).map fun step => percentile (sorted (column runs step)) p

/-- The percentile bands of some simulations. -/
def bandsOf (runs : List CurveState) (sharpes : List ℚ) (nSimulations : Int)
    (nTrades : Nat) (initialBalance : ℚ) (percentileLow percentileHigh : Int) :
    MonteCarloResult where
  nSimulations := nSimulations
  nTrades := nTrades
  initialBalance := initialBalance
  percentileLow := percentileLow
  percentileHigh := percentileHigh
  netPnl :=
    distribution (runs.map (·.finalPnl initialBalance)) percentileLow percentileHigh
  maxDrawdown := distribution (runs.map (·.maxDdPct)) percentileLow percentileHigh
  sharpe := distribution sharpes percentileLow percentileHigh
  equityEnvelopeLow := envelope runs nTrades percentileLow
  equityEnvelopeMid := envelope runs nTrades 50
  equityEnvelopeHigh := envelope runs nTrades percentileHigh

def runMonteCarlo (lib : Libm) (r : ρ) (tradePnls : List ℚ) (nSimulations : Int := 1000)
    (initialBalance : ℚ := 10000) (percentileLow : Int := 5) (percentileHigh : Int := 95)
    (sharpePeriodsPerYear : Int := 252) : Except MonteCarloError MonteCarloResult :=
  if none : tradePnls = [] then .error .noTrades
  else if nSimulations ≤ 0 then .error (.nSimulations nSimulations)
  else if ¬ (0 ≤ percentileLow ∧ percentileLow < percentileHigh ∧ percentileHigh ≤ 100) then
    .error (.percentiles percentileLow percentileHigh)
  else
    let samples := drawSamples rng tradePnls none nSimulations.toNat r
    (samples.mapM fun sample => sharpe lib sample sharpePeriodsPerYear).map fun sharpes =>
      bandsOf (samples.map (simulate initialBalance)) sharpes nSimulations
        tradePnls.length initialBalance percentileLow percentileHigh

end Run

end MonteCarlo

end StingerFx
