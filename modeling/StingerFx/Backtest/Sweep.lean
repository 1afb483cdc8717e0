/-
Module: StingerFx.Backtest.Sweep
Layer: Backtest
Purpose: Parameter sweeps. A search suggests the parameters of one cell after another;
  each cell is backtested, its custom metrics are added to the metrics of its report,
  and the search is told its score. The report ranks the cells by a metric.
Trusted boundary: human-reviewed model of the source's sweep module; what a backtest
  makes of parameters is a parameter
Main exports: SweepCellResult, SweepReport, SweepReport.ranked, SweepReport.best,
  compileCustoms, customValue, storeCustoms, rawScore, reportedScore, SearchStrategy,
  gridSearch, drive, runCell
-/
import StingerFx.Backtest.MetricDsl
import StingerFx.Backtest.Reports
import StingerFx.Lib.PySorted

namespace StingerFx

open Lib

/-- `_SMALLER_IS_BETTER`. -/
def smallerIsBetter : List String := ["max_drawdown"]

structure SweepCellResult (P : Type) where
  params : P
  metrics : Dict String PyValue
deriving Repr, DecidableEq

structure SweepReport (P : Type) where
  rankBy : String
  results : List (SweepCellResult P)
deriving Repr, DecidableEq

namespace SweepReport

variable {P : Type} (report : SweepReport P)

/-- What a cell is ranked by. -/
def rankKey (rankBy : String) (cell : SweepCellResult P) : PyValue :=
  let reverse := decide (rankBy ∉ smallerIsBetter)
  cell.metrics.getD rankBy (.float (.inf reverse))

def ranked : Sorted (SweepCellResult P) :=
  pySorted (rankKey report.rankBy) (decide (report.rankBy ∉ smallerIsBetter))
    report.results

/-- The best cell of the ranking that `ranked` gave. -/
def best (ranking : List (SweepCellResult P)) : Option (SweepCellResult P) :=
  if report.results.isEmpty then none else ranking.head?

end SweepReport

/-! ### Custom metrics -/

/-- The expressions of `custom_metrics`, compiled before the first cell. -/
def compileCustoms (parse : String → Except String PyNode) :
    List (String × String) → Except MetricDSLError (List (String × MetricExpression))
  | [] => .ok []
  | (name, source) :: rest => do
      let expr ← compileMetric source (parse source)
      let others ← compileCustoms parse rest
      return (name, expr) :: others

/-- The value of a custom metric: an expression that fails gives NaN. -/
def customValue (lib : Libm) (expr : MetricExpression) (metrics : Dict String PyValue) :
    Except EvalError PyValue :=
  match expr.evaluate lib metrics with
  | .error (.dsl _) => .ok (.float .nan)
  | outcome => outcome

/-- The loop over the custom metrics of a cell. -/
def storeCustoms (lib : Libm) :
    List (String × MetricExpression) → Dict String PyValue →
      Except EvalError (Dict String PyValue)
  | [], metrics => .ok metrics
  | (name, expr) :: rest, metrics => do
      let value ← customValue lib expr metrics
      storeCustoms lib rest (metrics.set name value)

/-! ### Scores -/

section Scores

variable (rankBy : String) (metrics : Dict String PyValue)

/-- `None` and NaN become the worst score. -/
def rawScore : PyValue :=
  let raw := metrics.getD rankBy (.float (.fin 0))
  if raw = .none ∨ raw = .float .nan then
    .float (.inf (decide (rankBy ∉ smallerIsBetter)))
  else raw

/-- What the search is told, to be maximised. -/
def reportedScore : Except PyError PyValue :=
  if rankBy ∈ smallerIsBetter then unary .minus (rawScore rankBy metrics)
  else .ok (rawScore rankBy metrics)

end Scores

/-! ### The run -/

/-- A search backend. -/
structure SearchStrategy (σ P S : Type) where
  suggest : σ → Option P × σ
  report : σ → P → S → σ

/-- `GridSearch`, with the combinations that it has not suggested yet. -/
def gridSearch (P S : Type) : SearchStrategy (List P) P S where
  suggest
    | [] => (none, [])
    | combo :: rest => (some combo, rest)
  report rest _ _ := rest

/-- The loop of a sweep: suggestions, turns and reports, until the search suggests
nothing or the fuel is gone. -/
def drive {σ P S R ε : Type} (search : SearchStrategy σ P S)
    (turn : P → Except ε (R × S)) : ℕ → σ → List (R × S) → Except ε (List (R × S) × σ)
  | 0, state, done => .ok (done, state)
  | fuel + 1, state, done =>
      match search.suggest state with
      | (none, after) => .ok (done, after)
      | (some params, after) => do
          let result ← turn params
          drive search turn fuel (search.report after params result.2) (done ++ [result])

/-- One turn: a cell and its score. -/
def runCell {P : Type} (lib : Libm) (rankBy : String)
    (customs : List (String × MetricExpression)) (backtest : P → ReportFigures)
    (params : P) : Except EvalError (SweepCellResult P × PyValue) := do
  let metrics ← storeCustoms lib customs (backtest params).toMetricsDict
  let score ← calling (reportedScore rankBy metrics)
  return (⟨params, metrics⟩, score)

section Drive

variable {σ P S R ε : Type} {search : SearchStrategy σ P S} {turn : P → Except ε (R × S)}

/-- Everything that a run has done is the result of a turn. -/
theorem mem_drive {fuel : ℕ} {state after : σ} {done results : List (R × S)}
    (ran : drive search turn fuel state done = .ok (results, after)) :
    ∀ result ∈ results, result ∈ done ∨ ∃ params, turn params = .ok result := by
  induction fuel generalizing state done with
  | zero =>
      cases ran
      exact fun result member => .inl member
  | succ fuel ih =>
      rw [drive] at ran
      split at ran
      · cases ran
        exact fun result member => .inl member
      · rename_i params next suggested
        cases turned : turn params with
        | error cause =>
            rw [turned] at ran
            cases ran
        | ok outcome =>
            rw [turned] at ran
            intro result member
            rcases ih ran result member with known | new
            · rcases List.mem_append.mp known with before | here
              · exact .inl before
              · rw [List.mem_singleton.mp here]
                exact .inr ⟨params, turned⟩
            · exact .inr new

end Drive

end StingerFx
