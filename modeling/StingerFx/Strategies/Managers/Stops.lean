/-
Module: StingerFx.Strategies.Managers.Stops
Layer: Strategies
Purpose: The two managers that move stops. The trailing stop follows the price at
  a distance and remembers the best stop it has set for each ticket; the
  break-even mover sets one stop, at the open price or beyond, once the profit has
  reached its trigger.
Trusted boundary: human-reviewed model of the source's stop managers
Main exports: StopManagerError, TrailingStopManager, TrailingStopManager.onTick,
  BreakEvenMover, BreakEvenMover.onTick, Side.NoLooser
-/
import StingerFx.Lib.Visits
import StingerFx.Strategies.Context

namespace StingerFx

open Lib

/-- Arguments that the constructors refuse. -/
inductive StopManagerError where
  | distancePips (given : ℚ)
  | activateAfterPips (given : ℚ)
  | triggerPips (given : ℚ)
deriving Repr, DecidableEq

def StopManagerError.text (number : ℚ → String) : StopManagerError → String
  | .distancePips given => "distance_pips must be > 0, got " ++ number given
  | .activateAfterPips given =>
      "activate_after_pips must be ≥ 0, got " ++ number given
  | .triggerPips given => "trigger_pips must be > 0, got " ++ number given

/-- A stop of a side that gives no more away than another. -/
def Side.NoLooser (side : Side) (old new : ℚ) : Prop :=
  match side with
  | .buy => old ≤ new
  | .sell => new ≤ old

instance (side : Side) (old new : ℚ) : Decidable (side.NoLooser old new) := by
  unfold Side.NoLooser
  split <;> infer_instance

theorem Side.NoLooser.trans {side : Side} {one two three : ℚ}
    (first : side.NoLooser one two) (second : side.NoLooser two three) :
    side.NoLooser one three := by
  cases side with
  | buy => exact le_trans (α := ℚ) first second
  | sell => exact le_trans (α := ℚ) second first

/-- A chain that gets one stop more. -/
theorem Side.NoLooser.pairwise_concat {side : Side} {stops : List ℚ} {stop : ℚ}
    (ordered : stops.Pairwise side.NoLooser)
    (last : ∀ old ∈ stops.getLast?, side.NoLooser old stop) :
    (stops ++ [stop]).Pairwise side.NoLooser := by
  rw [List.pairwise_append]
  refine ⟨ordered, List.pairwise_singleton _ _, ?_⟩
  intro old member new there
  rw [List.mem_singleton.mp there]
  cases final : stops.getLast? with
  | none =>
      rw [List.getLast?_eq_none_iff.mp final] at member
      cases member
  | some newest =>
      have bound := last newest final
      obtain ⟨front, whole⟩ := List.getLast?_eq_some_iff.mp final
      rw [whole] at member ordered
      rcases List.mem_append.mp member with before | here
      · rw [List.pairwise_append] at ordered
        exact (ordered.2.2 old before newest (by simp)).trans bound
      · rw [List.mem_singleton.mp here]
        exact bound

/-- Whether a manager looks at ticks of a symbol. -/
def watches (only : Option Symbol) (symbol : Symbol) : Prop :=
  ∀ name ∈ only, symbol = name

instance (only : Option Symbol) (symbol : Symbol) :
    Decidable (watches only symbol) := by
  unfold watches
  infer_instance

/-- `ctx.position.for_symbol`. -/
def forSymbol (positions : List Position) (symbol : Symbol) : List Position :=
  positions.filter fun pos => decide (pos.symbol = symbol)

/-! ### The trailing stop -/

structure TrailingStopManager where
  distance : ℚ
  activate : ℚ
  symbol : Option Symbol
  /-- the best stop set so far -/
  bestSl : Dict Ticket ℚ

namespace TrailingStopManager

def create (distancePips activateAfterPips : ℚ) (symbol : Option Symbol)
    (point : ℚ) : Except StopManagerError TrailingStopManager :=
  if distancePips ≤ 0 then .error (.distancePips distancePips)
  else if activateAfterPips < 0 then
    .error (.activateAfterPips activateAfterPips)
  else
    .ok
      { distance := distancePips * point
        activate := activateAfterPips * point
        symbol := symbol
        bestSl := .empty }

/-- The stop to beat; without one every stop is an advance. -/
def prevBest (m : TrailingStopManager) (pos : Position) : Option ℚ :=
  m.bestSl.get? pos.ticket <|> pos.sl

/-- The stop at the distance from the price. -/
def desired (m : TrailingStopManager) (tick : Tick) (pos : Position) : ℚ :=
  match pos.side with
  | .buy => tick.bid - m.distance
  | .sell => tick.ask + m.distance

/-- The position is far enough in profit, and the stop beats the best so far. -/
def Advances (m : TrailingStopManager) (tick : Tick) (pos : Position) : Prop :=
  match pos.side with
  | .buy =>
      ¬ tick.bid - pos.openPrice < m.activate ∧
        ∀ best ∈ m.prevBest pos, ¬ m.desired tick pos ≤ best
  | .sell =>
      ¬ pos.openPrice - tick.ask < m.activate ∧
        ∀ best ∈ m.prevBest pos, ¬ best ≤ m.desired tick pos

instance (m : TrailingStopManager) (tick : Tick) (pos : Position) :
    Decidable (m.Advances tick pos) := by
  unfold Advances
  split <;> infer_instance

/-- `_maybe_advance`. -/
def maybeAdvance (m : TrailingStopManager) (ctx : StrategyContext) (tick : Tick)
    (pos : Position) : TrailingStopManager × List ModifyOrderRequest :=
  if m.Advances tick pos then
    ({ m with bestSl := m.bestSl.set pos.ticket (m.desired tick pos) },
      (ctx.moveStop pos.ticket (some (m.desired tick pos)) none
        "trailing").toList)
  else (m, [])

def onTick (m : TrailingStopManager) (ctx : StrategyContext)
    (positions : List Position) (tick : Tick) :
    TrailingStopManager × List ModifyOrderRequest :=
  if watches m.symbol tick.symbol then
    visitAll (fun m pos => m.maybeAdvance ctx tick pos) m
      (forSymbol positions tick.symbol)
  else (m, [])

end TrailingStopManager

/-! ### The break-even mover -/

structure BreakEvenMover where
  trigger : ℚ
  lock : ℚ
  symbol : Option Symbol
  /-- the tickets it has fired for -/
  fired : List Ticket
deriving Repr, DecidableEq

namespace BreakEvenMover

def create (triggerPips lockPips : ℚ) (symbol : Option Symbol) (point : ℚ) :
    Except StopManagerError BreakEvenMover :=
  if triggerPips ≤ 0 then .error (.triggerPips triggerPips)
  else
    .ok
      { trigger := triggerPips * point
        lock := lockPips * point
        symbol := symbol
        fired := [] }

/-- The one stop it sets. -/
def lockStop (m : BreakEvenMover) (pos : Position) : ℚ :=
  match pos.side with
  | .buy => pos.openPrice + m.lock
  | .sell => pos.openPrice - m.lock

/-- It has not fired for the position, and the profit has reached the trigger. -/
def Triggers (m : BreakEvenMover) (tick : Tick) (pos : Position) : Prop :=
  pos.ticket ∉ m.fired ∧
    match pos.side with
    | .buy => m.trigger ≤ tick.bid - pos.openPrice
    | .sell => m.trigger ≤ pos.openPrice - tick.ask

instance (m : BreakEvenMover) (tick : Tick) (pos : Position) :
    Decidable (m.Triggers tick pos) := by
  unfold Triggers
  split <;> infer_instance

/-- The loop's body for one position, with `_fire`. -/
def visit (m : BreakEvenMover) (ctx : StrategyContext) (tick : Tick)
    (pos : Position) : BreakEvenMover × List ModifyOrderRequest :=
  if m.Triggers tick pos then
    ({ m with fired := pos.ticket :: m.fired },
      (ctx.moveStop pos.ticket (some (m.lockStop pos)) none
        "break_even").toList)
  else (m, [])

def onTick (m : BreakEvenMover) (ctx : StrategyContext)
    (positions : List Position) (tick : Tick) :
    BreakEvenMover × List ModifyOrderRequest :=
  if watches m.symbol tick.symbol then
    visitAll (fun m pos => m.visit ctx tick pos) m
      (forSymbol positions tick.symbol)
  else (m, [])

end BreakEvenMover

end StingerFx
