/-
Module: StingerFx.Backtest.WalkForward
Layer: Backtest
Purpose: Walk-forward optimization. The date range is cut into folds, each with
  an in-sample and an out-of-sample window; a parameter assignment reaches the
  backtester on the first through the sweep of the fold and on the second
  directly. What is handed to the backtester is the result of both ways.
Trusted boundary: human-reviewed model of the source's walk_forward module and of
  `ParameterSweep._run_cell`
Main exports: WalkForwardFold, sliceFolds, HandOver, buildSweepCfg, runCell,
  inSampleHandOver, evaluateOos, pearson, consistencyScore
-/
import StingerFx.Config.Backtest

namespace StingerFx

open Lib Config

namespace WalkForward

/-- The windows of a fold, over any type of instants. -/
structure WalkForwardFold (τ : Type) where
  index : Nat
  inSample : τ × τ
  outOfSample : τ × τ
deriving Repr, DecidableEq

/-! ### Slicing -/

inductive SliceError where
  | nFolds (n : Int)
  | inSamplePct (pct : ℚ)
  | endNotAfterStart
deriving Repr, DecidableEq

/-- The text of an error, given the rendering of numbers. -/
def SliceError.text (number : ℚ → String) : SliceError → String
  | .nFolds n => "n_folds must be > 0, got " ++ toString n
  | .inSamplePct pct => "in_sample_pct must be in (0, 1), got " ++ number pct
  | .endNotAfterStart => "end must be after start"

def winStart (start step : ℚ) (i : Nat) : ℚ := start + i * step

def winEnd (start step : ℚ) (i : Nat) : ℚ := start + (i + 1) * step

/-- The body of the loop; instants are seconds. -/
def foldAt (start step inSamplePct : ℚ) (scheme : FoldScheme) (i : Nat) :
    WalkForwardFold ℚ :=
  let isEnd := winStart start step i + step * inSamplePct
  let isStart :=
    match scheme with
    | .expanding => start
    | .rolling => winStart start step i
  ⟨i, (isStart, isEnd), (isEnd, winEnd start step i)⟩

/-- `slice_folds`, over exact rational time. -/
def sliceFolds (start stop : ℚ) (nFolds : Int) (inSamplePct : ℚ)
    (scheme : FoldScheme) : Except SliceError (List (WalkForwardFold ℚ)) :=
  if nFolds ≤ 0 then .error (.nFolds nFolds)
  else if ¬ (0 < inSamplePct ∧ inSamplePct < 1) then
    .error (.inSamplePct inSamplePct)
  else if stop ≤ start then .error .endNotAfterStart
  else
    let stepSeconds := (stop - start) / nFolds
    .ok ((List.range nFolds.toNat).map
      (foldAt start stepSeconds inSamplePct scheme))

/-! ### Handing a parameter assignment to the backtester -/

variable {ν : Type}

/-- `{**params, **overrides}`. -/
def mergeParams (params overrides : Dict String ν) : Dict String ν :=
  overrides.items.foldl (fun merged item => merged.set item.1 item.2) params

/-- What a `FileBacktester` is built with and asked to run; where its reports go
is left out. -/
structure HandOver (ν : Type) where
  strategy : StrategyEntry (Dict String ν)
  parquetRoot : String
  runCfg : BacktestRunConfig

/-- The backtester's own check that the run is meant for its strategy. -/
def HandOver.Matches (handed : HandOver ν) : Prop :=
  handed.runCfg.fields.strategyId = handed.strategy.id

/-- `model_copy(update={"id": …, "params": …})`. -/
def withParams (base : StrategyEntry (Dict String ν)) (id : StrategyId)
    (params : Dict String ν) : StrategyEntry (Dict String ν) :=
  { base with id := id, params := params }

/-- `ParameterSweep._run_cell`, up to the run. -/
def runCell (base : StrategyEntry (Dict String ν)) (cfg : SweepRunConfig ν)
    (overrides : Dict String ν) (index : Nat) :
    Except ValidationError (HandOver ν) := do
  let cellStrategy := withParams base
    (base.id ++ "__sweep_" ++ toString index) (mergeParams base.params overrides)
  let runCfg ← backtestRunSchema.create
    { id := cfg.fields.id ++ "_cell_" ++ toString index
      mode := .file
      strategyId := cellStrategy.id
      feedShape := { feeds := some cfg.feedList }
      start := cfg.fields.start
      stop := cfg.fields.stop
      initialBalance := cfg.fields.initialBalance
      symbolContractSizes := cfg.fields.symbolContractSizes
      slippagePips := cfg.fields.slippagePips
      slippageModel := cfg.fields.slippageModel
      slippageVolatilityFactor := cfg.fields.slippageVolatilityFactor
      granularity := cfg.fields.granularity
      dataSource := some cfg.fields.dataSource }
  return ⟨cellStrategy, cfg.fields.dataSource, runCfg⟩

/-- `WalkForward._build_sweep_cfg`. -/
def buildSweepCfg (cfg : WalkForwardConfig ν) (fold : WalkForwardFold Time) :
    Except ValidationError (SweepRunConfig ν) :=
  (sweepRunSchema ν).create
    { id := cfg.fields.id ++ "_fold_" ++ toString fold.index
      strategyId := cfg.fields.strategyId
      feedShape := { feeds := some cfg.feedList }
      start := fold.inSample.1
      stop := fold.inSample.2
      initialBalance := cfg.fields.initialBalance
      dataSource := cfg.fields.dataSource
      search := cfg.fields.search }

/-- The in-sample path: the sweep of the fold, then the cell of one parameter
assignment. -/
def inSampleHandOver (base : StrategyEntry (Dict String ν))
    (cfg : WalkForwardConfig ν) (fold : WalkForwardFold Time)
    (overrides : Dict String ν) (index : Nat) :
    Except ValidationError (HandOver ν) := do
  let sweepCfg ← buildSweepCfg cfg fold
  runCell base sweepCfg overrides index

/-- `WalkForward._evaluate_oos`, up to the run. -/
def evaluateOos (base : StrategyEntry (Dict String ν))
    (cfg : WalkForwardConfig ν) (fold : WalkForwardFold Time)
    (bestParams : Dict String ν) : Except ValidationError (HandOver ν) := do
  let oosStrategy := withParams base
    (base.id ++ "__wf_" ++ cfg.fields.id ++ "_fold_" ++ toString fold.index)
    (mergeParams base.params bestParams)
  let oosRunCfg ← backtestRunSchema.create
    { id := cfg.fields.id ++ "_fold_" ++ toString fold.index ++ "_oos"
      mode := .file
      strategyId := oosStrategy.id
      feedShape := { feeds := some cfg.feedList }
      start := fold.outOfSample.1
      stop := fold.outOfSample.2
      initialBalance := cfg.fields.initialBalance
      symbolContractSizes := cfg.fields.symbolContractSizes
      dataSource := some cfg.fields.dataSource }
  return ⟨oosStrategy, cfg.fields.dataSource, oosRunCfg⟩

/-! ### The report -/

/-- `_pearson`, in exact rationals up to the root. -/
def pearson {K : Type} [Field K] [DecidableEq K] (sqrt : ℚ → K) (xs ys : List ℚ) : K :=
  if xs.length ≠ ys.length ∨ xs.length < 2 then 0
  else
    let n : ℚ := xs.length
    let mx := xs.sum / n
    let my := ys.sum / n
    let num := (List.zipWith (fun x y => (x - mx) * (y - my)) xs ys).sum
    let varX := (xs.map fun x => (x - mx) ^ 2).sum
    let varY := (ys.map fun y => (y - my) ^ 2).sum
    let denom := sqrt (varX * varY)
    if denom = 0 then 0 else num / denom

/-- The figures of a fold that the report ranks by. -/
structure FoldMetrics where
  inSample : Dict String ℚ
  oos : Dict String ℚ

/-- Correlation of a metric in sample and out of sample across the folds. -/
def consistencyScore {K : Type} [Field K] [DecidableEq K] (sqrt : ℚ → K) (rankBy : String)
    (folds : List FoldMetrics) : K :=
  if folds.length < 2 then 0
  else
    pearson sqrt (folds.map fun f => f.inSample.getD rankBy 0)
      (folds.map fun f => f.oos.getD rankBy 0)

end WalkForward

end StingerFx
