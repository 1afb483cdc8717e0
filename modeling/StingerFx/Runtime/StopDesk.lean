/-
Module: StingerFx.Runtime.StopDesk
Layer: Runtime
Purpose: A strategy with a trailing stop and a break-even mover. Both read the
  runner's view of the positions when their turn comes, their requests wait on the
  bus, the router applies them at the simulated broker, and what it reports goes
  back to the view.
Trusted boundary: human-reviewed model of the source's runtime wiring; positions
  open under new tickets, and only the managers move their stops
Main exports: StopMove, StopDesk, StopLabel, StopDesk.boot, StopDesk.step?,
  StopDesk.Step
-/
import StingerFx.Lib.Runs
import StingerFx.Strategies.Managers.Stops
import StingerFx.Strategies.Runner

namespace StingerFx

open Lib

/-- A request of a manager that the broker has carried out. -/
structure StopMove where
  ticket : Ticket
  side : Side
  before : Option ℚ
  after : Option ℚ
deriving Repr, DecidableEq

structure StopDesk where
  ctx : StrategyContext
  runner : PositionRunner
  trailing : TrailingStopManager
  mover : BreakEvenMover
  /-- requests on the bus, oldest first -/
  requests : List ModifyOrderRequest
  router : RouterState
  broker : SimBroker Unit
  /-- every position as it was opened; nothing but `opens` reads it -/
  opened : Dict Ticket Position
  /-- what the broker has carried out; nothing reads it -/
  moves : List StopMove

inductive StopLabel where
  /-- an order of the strategy is filled -/
  | opens (order : Order)
  /-- the broker closes a position -/
  | closes (ticket : Ticket)
  /-- the trailing stop's turn at a tick -/
  | trail (tick : Tick) (now : Time)
  /-- the break-even mover's turn at a tick -/
  | breakEven (tick : Tick) (now : Time)
  /-- the router handles the oldest request -/
  | route
  /-- the runner handles an event of its positions -/
  | handle (kind : EventKind)
deriving Repr, DecidableEq

namespace StopDesk

def boot (ctx : StrategyContext) (magic : Int) (trailing : TrailingStopManager)
    (mover : BreakEvenMover) (initialBalance : ℚ) : StopDesk where
  ctx := ctx
  runner := .start ctx.strategyId magic
  trailing := trailing
  mover := mover
  requests := []
  router :=
    { strategyMagic := Dict.empty.set ctx.strategyId magic
      contractSizeCache := .empty }
  broker := .create initialBalance () 0
  opened := .empty
  moves := []

/-- The events of the router's answer that the runner hears. -/
def modifiedEvents (events : List Event) : List PositionEvent :=
  events.filterMap fun
    | .orderModified position _ => some (.modified position)
    | _ => none

/-- The broker's stop of a ticket. -/
def stopOf (broker : SimBroker Unit) (ticket : Ticket) : Option ℚ :=
  (broker.positions.get? ticket).bind Position.sl

/-- The router handles a request. -/
def applyRequest (s : StopDesk) (request : ModifyOrderRequest) : StopDesk :=
  let call := handleModify (simManagePort SimConfig.plain) s.router request
    s.broker
  { s with
    broker := call.broker
    runner :=
      { s.runner with
        waiting :=
          (modifiedEvents call.events).foldl receivePosition s.runner.waiting }
    moves :=
      match call.answer, s.broker.positions.get? request.ticket with
      | .ok .done, some pos =>
          s.moves ++
            [{ ticket := request.ticket
               side := pos.side
               before := pos.sl
               after := stopOf call.broker request.ticket }]
      | _, _ => s.moves }

/-- The state after a step, if the step can happen. -/
def step? (s : StopDesk) : StopLabel → Option StopDesk
  | .opens order =>
      match order.opened? with
      | none => none
      | some pos =>
          if s.opened.get? order.ticket = none ∧
              order.strategyId = s.ctx.strategyId ∧
              order.magic = s.runner.magic then
            some
              { s with
                broker :=
                  { s.broker with
                    positions := s.broker.positions.set order.ticket pos }
                opened := s.opened.set order.ticket pos
                runner :=
                  { s.runner with
                    waiting :=
                      receivePosition s.runner.waiting (.filled order) } }
          else none
  | .closes ticket =>
      match s.broker.positions.get? ticket with
      | none => none
      | some pos =>
          some
            { s with
              broker :=
                { s.broker with positions := s.broker.positions.erase ticket }
              runner :=
                { s.runner with
                  waiting :=
                    receivePosition s.runner.waiting (.closed pos) } }
  | .trail tick now =>
      if s.runner.flags.active then
        let turn := s.trailing.onTick { s.ctx with now := now }
          s.runner.positions tick
        some
          { s with trailing := turn.1, requests := s.requests ++ turn.2 }
      else none
  | .breakEven tick now =>
      if s.runner.flags.active then
        let turn := s.mover.onTick { s.ctx with now := now }
          s.runner.positions tick
        some { s with mover := turn.1, requests := s.requests ++ turn.2 }
      else none
  | .route =>
      match s.requests with
      | [] => none
      | request :: rest =>
          some ({ s with requests := rest }.applyRequest request)
  | .handle kind =>
      match takeKind kind s.runner.waiting with
      | none => none
      | some (event, rest) =>
          some
            { s with
              runner := { s.runner with waiting := rest }.handle event }

def Step : StopDesk → StopLabel → StopDesk → Prop := stepOf? step?

end StopDesk

end StingerFx
