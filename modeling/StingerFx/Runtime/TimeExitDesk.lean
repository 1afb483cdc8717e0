/-
Module: StingerFx.Runtime.TimeExitDesk
Layer: Runtime
Purpose: A strategy of several feeds with a time exit manager. The runner hands the
  manager every closed bar of a declared feed, and the view of the positions changes
  in between, whenever one of the position events is handled.
Trusted boundary: human-reviewed model of the source's runner and time exit manager
Main exports: ExitRequest, TimeExitDesk, ExitLabel, TimeExitDesk.boot,
  TimeExitDesk.next, TimeExitDesk.Step
-/
import StingerFx.Backtest.Replay
import StingerFx.Lib.Runs
import StingerFx.Strategies.Managers.TimeExit
import StingerFx.Strategies.Runner

namespace StingerFx

open Lib

/-- A close that the manager has asked for, with the index of the bar at which it
did among all that it has handled. -/
structure ExitRequest where
  ticket : Ticket
  bar : Nat
deriving Repr, DecidableEq

structure TimeExitDesk where
  ctx : StrategyContext
  /-- with the symbol of the context this is the primary feed -/
  timeframe : Timeframe
  /-- the keys of `ctx.histories` -/
  feeds : List Subscription
  runner : PositionRunner
  manager : TimeExitManager
  /-- the bars that the manager has handled; nothing reads it -/
  handled : List Bar
  /-- every ticket that has been in the view; nothing reads it -/
  entered : List Ticket
  /-- the closes asked for, oldest first; nothing reads it -/
  requests : List ExitRequest

inductive ExitLabel where
  | bar (isClosed : Bool) (bar : Bar)
  | tick (tick : Tick)
  /-- the runner handles an event of its positions -/
  | position (event : PositionEvent)
  /-- the runner is paused, resumed, stopped or quarantined -/
  | flags (flags : RunnerFlags)
deriving Repr, DecidableEq

namespace TimeExitDesk

def primary (s : TimeExitDesk) : Subscription := ⟨s.ctx.symbol, s.timeframe⟩

def boot (ctx : StrategyContext) (timeframe : Timeframe) (feeds : List Subscription)
    (magic : Int) (manager : TimeExitManager) : TimeExitDesk where
  ctx := ctx
  timeframe := timeframe
  feeds := feeds
  runner := .start ctx.strategyId magic
  manager := manager
  handled := []
  entered := []
  requests := []

/-- `_on_bar` reaches the managers. -/
def Reaches (s : TimeExitDesk) (isClosed : Bool) (bar : Bar) : Prop :=
  s.runner.flags.active = true ∧ bar.subscription ∈ s.feeds ∧ isClosed = true

instance (s : TimeExitDesk) (isClosed : Bool) (bar : Bar) :
    Decidable (s.Reaches isClosed bar) := by
  unfold Reaches
  infer_instance

/-- `_on_tick` reaches the managers. -/
def TickReaches (s : TimeExitDesk) (tick : Tick) : Prop :=
  s.runner.flags.active = true ∧ ∃ feed ∈ s.feeds, feed.symbol = tick.symbol

instance (s : TimeExitDesk) (tick : Tick) : Decidable (s.TickReaches tick) := by
  unfold TickReaches
  infer_instance

/-- The state after a step. -/
def next (s : TimeExitDesk) : ExitLabel → TimeExitDesk
  | .bar isClosed bar =>
      if s.Reaches isClosed bar then
        let turn := s.manager.onBar s.ctx s.runner.positions bar
        { s with
          manager := turn.1
          handled := s.handled ++ [bar]
          requests := s.requests ++
            turn.2.map fun request => ⟨request.ticket, s.handled.length⟩ }
      else s
  | .tick tick =>
      if s.TickReaches tick then
        let turn := s.manager.onTick s.ctx s.runner.positions tick
        { s with
          manager := turn.1
          requests := s.requests ++
            turn.2.map fun request => ⟨request.ticket, s.handled.length⟩ }
      else s
  | .position event =>
      let runner := s.runner.handle event
      { s with
        runner := runner
        entered := s.entered ++ runner.positions.map Position.ticket }
  | .flags flags => { s with runner := { s.runner with flags := flags } }

def Step : TimeExitDesk → ExitLabel → TimeExitDesk → Prop := stepOf next

end TimeExitDesk

end StingerFx
