/-
Module: StingerFx.Runtime.LadderDesk
Layer: Runtime
Purpose: A strategy with a ladder manager. Ticks reach the manager through the
  runner, its orders are filled or refused in any order, and each fill comes back
  into the view of positions that the next tick looks at.
Trusted boundary: human-reviewed model of the source's runtime wiring; the broker
  gives every fill a new ticket
Main exports: LadderDesk, LadderLabel, LadderDesk.boot, LadderDesk.step?,
  LadderDesk.Step
-/
import StingerFx.Lib.Runs
import StingerFx.Strategies.Managers.Ladder
import StingerFx.Strategies.Runner

namespace StingerFx

open Lib

structure LadderDesk where
  ctx : StrategyContext
  runner : PositionRunner
  manager : LadderManager
  /-- ladder orders without an answer -/
  underWay : List LadderEntry
  /-- each known ticket with the strategy's own position that it adds to; nothing
  but the counts below reads it -/
  origin : Dict Ticket Ticket
  /-- the positions that the strategy opened itself; nothing reads it -/
  opened : List Ticket
  /-- for each ladder order the position that it adds to; nothing reads it -/
  issued : List Ticket

inductive LadderLabel where
  /-- an order of the strategy itself is filled -/
  | opens (order : Order)
  /-- a ladder order is filled -/
  | fills (index : Nat) (order : Order)
  | refuses (index : Nat)
  /-- the runner handles another event of a position -/
  | notice (event : PositionEvent)
  | pause (paused : Bool)
  | tick (tick : Tick) (now : Time) (lastPrice : Option ℚ)
deriving Repr, DecidableEq

namespace LadderDesk

def boot (ctx : StrategyContext) (magic : Int) (manager : LadderManager) :
    LadderDesk where
  ctx := ctx
  runner := .start ctx.strategyId magic
  manager := manager
  underWay := []
  origin := .empty
  opened := []
  issued := []

/-- The position of the strategy that a ticket goes back to. -/
def originOf (origin : Dict Ticket Ticket) (ticket : Ticket) : Ticket :=
  origin.getD ticket ticket

/-- The manager's turn at a tick; an idle runner does not call it. -/
def runManager (s : LadderDesk) (tick : Tick) : LadderDesk :=
  if s.runner.flags.active then
    let handled := s.manager.onTick s.ctx s.runner.positions tick
    { s with
      manager := handled.1
      underWay := s.underWay ++ handled.2
      issued := s.issued ++ handled.2.map fun entry => originOf s.origin entry.rung }
  else s

/-- The state after a step, if the step can happen. -/
def step? (s : LadderDesk) : LadderLabel → Option LadderDesk
  | .opens order =>
      if s.origin.get? order.ticket = none ∧
          order.strategyId = s.ctx.strategyId then
        some
          { s with
            runner := s.runner.handle (.filled order)
            origin := s.origin.set order.ticket order.ticket
            opened := s.opened ++ [order.ticket] }
      else none
  | .fills index order =>
      match s.underWay[index]? with
      | none => none
      | some entry =>
          if s.origin.get? order.ticket = none ∧
              order.strategyId = entry.signal.strategyId ∧
              order.symbol = entry.signal.symbol ∧
              order.side = entry.signal.side then
            some
              { s with
                runner := s.runner.handle (.filled order)
                underWay := s.underWay.eraseIdx index
                origin := s.origin.set order.ticket (originOf s.origin entry.rung) }
          else none
  | .refuses index =>
      if index < s.underWay.length then
        some { s with underWay := s.underWay.eraseIdx index }
      else none
  | .notice event =>
      if event.kind = .fill then none
      else some { s with runner := s.runner.handle event }
  | .pause paused =>
      some
        { s with
          runner :=
            { s.runner with flags := { s.runner.flags with paused := paused } } }
  | .tick tick now lastPrice =>
      some
        ({ s with
          ctx := { s.ctx with now := now, lastPrice := lastPrice } }.runManager
            tick)

def Step : LadderDesk → LadderLabel → LadderDesk → Prop := stepOf? step?

end LadderDesk

end StingerFx
