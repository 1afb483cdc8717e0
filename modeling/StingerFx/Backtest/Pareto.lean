/-
Module: StingerFx.Backtest.Pareto
Layer: Backtest
Purpose: The Pareto frontier of a sweep. Each cell is compared with all the others on
  several metrics and marked if none of them dominates it.
Trusted boundary: human-reviewed model of the source's pareto module
Main exports: Direction, Objective, ParetoPoint, ParetoResult, ParetoResult.frontier,
  coerce, dominates, extractParetoFrontier
-/
import StingerFx.Lib.Dict
import StingerFx.Lib.PyValue

namespace StingerFx

open Lib

inductive Direction where
  | max
  | min
deriving Repr, DecidableEq

structure Objective where
  metric : String
  direction : Direction := .max
deriving Repr, DecidableEq

structure ParetoPoint (P : Type) where
  params : P
  metrics : Dict String PyValue
  isPareto : Bool
deriving Repr, DecidableEq

structure ParetoResult (P : Type) where
  objectives : List Objective
  points : List (ParetoPoint P)
deriving Repr, DecidableEq

def ParetoResult.frontier {P : Type} (result : ParetoResult P) : List (ParetoPoint P) :=
  result.points.filter (·.isPareto)

inductive ParetoError where
  | noObjective
  | python (error : PyError)
deriving Repr, DecidableEq

/-- The text of the one error that is raised on purpose. -/
def ParetoError.text : ParetoError → Option String
  | .noObjective => some "at least one Objective required"
  | .python _ => none

/-- The worst value for a direction. -/
def worst : Direction → PyFloat
  | .max => .inf true
  | .min => .inf false

/-- `_coerce`: what is missing, `None` or NaN becomes the worst value. -/
def coerce (value : Option PyValue) (direction : Direction) : Except PyError PyFloat :=
  match value with
  | none | some .none | some (.float .nan) => .ok (worst direction)
  | some value => value.toFloat

/-- `x < y` of floats. -/
def floatLess (x y : PyFloat) : Bool :=
  match x.value?, y.value? with
  | some x, some y => decide (x < y)
  | _, _ => false

/-- The loop of `_dominates` over the objectives. -/
def dominatesFrom (a b : Dict String PyValue) : List Objective → Bool → Except PyError Bool
  | [], strictlyBetter => .ok strictlyBetter
  | obj :: rest, strictlyBetter => do
      let aVal ← coerce (a.get? obj.metric) obj.direction
      let bVal ← coerce (b.get? obj.metric) obj.direction
      match obj.direction with
      | .max =>
          if floatLess aVal bVal then return false
          else dominatesFrom a b rest (strictlyBetter || floatLess bVal aVal)
      | .min =>
          if floatLess bVal aVal then return false
          else dominatesFrom a b rest (strictlyBetter || floatLess aVal bVal)

def dominates (a b : Dict String PyValue) (objectives : List Objective) :
    Except PyError Bool :=
  dominatesFrom a b objectives false

/-- The loop over the other cells, which stops at one that dominates. -/
def anyDominates (objectives : List Objective) (metrics : Dict String PyValue) :
    List (Dict String PyValue) → Except PyError Bool
  | [] => .ok false
  | other :: rest => do
      let better ← dominates other metrics objectives
      if better then return true else anyDominates objectives metrics rest

section Extraction

variable {P : Type}

/-- The loop over the cells, each compared with those before and after it. -/
def markPoints (objectives : List Objective) (before : List (P × Dict String PyValue)) :
    List (P × Dict String PyValue) → Except PyError (List (ParetoPoint P))
  | [] => .ok []
  | cell :: rest => do
      let dominated ← anyDominates objectives cell.2 ((before ++ rest).map Prod.snd)
      let points ← markPoints objectives (before ++ [cell]) rest
      return ⟨cell.1, cell.2, !dominated⟩ :: points

def extractParetoFrontier (cells : List (P × Dict String PyValue))
    (objectives : List Objective) : Except ParetoError (ParetoResult P) :=
  if objectives.isEmpty then .error .noObjective
  else if cells.isEmpty then .ok ⟨objectives, []⟩
  else do
    let points ← (markPoints objectives [] cells).mapError .python
    return ⟨objectives, points⟩

end Extraction

end StingerFx
