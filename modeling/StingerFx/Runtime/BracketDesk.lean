/-
Module: StingerFx.Runtime.BracketDesk
Layer: Runtime
Purpose: A strategy with a group manager in a backtest. The replay promotes every
  order a bar or tick reaches in one pass; the runner hears of fills, cancellations
  and closes through a queue each, and the manager's requests reach the router
  through a queue each. No order among the queues is promised.
Trusted boundary: human-reviewed model of the source's runtime wiring; the runner
  is active, and other requests of strategies act as the broker calls they make
Main exports: BracketDesk, BracketLabel, BracketDesk.boot, BracketDesk.step?,
  BracketDesk.Step, BracketDesk.Drained
-/
import StingerFx.Lib.Mailbox
import StingerFx.Strategies.Managers.Oco
import StingerFx.Strategies.Runner

namespace StingerFx

open Lib

variable {σ : Type}

/-- A set of tickets registered together, with their group. -/
structure Bracket where
  groupId : GroupId
  legs : List Ticket
deriving Repr, DecidableEq

structure BracketDesk (σ : Type) where
  ctx : StrategyContext
  magic : Int
  manager : OCOGroupManager
  router : RouterState
  broker : SimBroker σ
  fills : Mailbox Order
  cancels : Mailbox Order
  closes : Mailbox Position
  cancelRequests : Mailbox CancelOrderRequest
  closeRequests : Mailbox ClosePositionRequest
  /-- the brackets registered while their orders rested; nothing reads it -/
  brackets : List Bracket
  /-- the tickets that have filled; nothing reads it -/
  filled : List Ticket

inductive BracketLabel where
  /-- market data with its pass over the resting orders, an exit, or a request -/
  | drive (op : BrokerOp)
  /-- the router places an order -/
  | place (req : OrderRequest)
  | addBracket (groupId : GroupId) (tickets : List Ticket)
  | handleFilled
  | handleCancelled
  | handleClosed
  | routeCancel
  | routeClose

namespace BracketDesk

def boot (ctx : StrategyContext) (magic : Int) (initialBalance : ℚ)
    (slippage : σ) (now : Time) : BracketDesk σ where
  ctx := ctx
  magic := magic
  manager := .create
  router :=
    { strategyMagic := Dict.empty.set ctx.strategyId magic
      contractSizeCache := .empty }
  broker := .create initialBalance slippage now
  fills := .create busQueueSize
  cancels := .create busQueueSize
  closes := .create busQueueSize
  cancelRequests := .create busQueueSize
  closeRequests := .create busQueueSize
  brackets := []
  filled := []

/-- Put an event into the queue of the runner's subscription for it. -/
def deliver (s : BracketDesk σ) : Event → BracketDesk σ
  | .orderFilled order _ =>
      { s with
        fills := s.fills.push order
        filled := s.filled ++ [order.ticket] }
  | .orderCancelled order => { s with cancels := s.cancels.push order }
  | .positionClosed position _ _ _ =>
      { s with closes := s.closes.push position }
  | _ => s

def publish (s : BracketDesk σ) (events : List Event) : BracketDesk σ :=
  events.foldl deliver s

/-- Put a request of the manager into the queue of the router's subscription. -/
def send (s : BracketDesk σ) : RouterRequest → BracketDesk σ
  | .cancel request =>
      { s with cancelRequests := s.cancelRequests.push request }
  | .close request => { s with closeRequests := s.closeRequests.push request }
  | .modify _ | .partialClose _ => s

def dispatch (s : BracketDesk σ) (requests : List RouterRequest) :
    BracketDesk σ :=
  requests.foldl send s

/-- A manager's handler has run. -/
def manage (s : BracketDesk σ)
    (handled : OCOGroupManager × List RouterRequest) : BracketDesk σ :=
  { s with manager := handled.1 }.dispatch handled.2

def onOrderFilled (s : BracketDesk σ) (order : Order) : BracketDesk σ :=
  if order.strategyId ≠ s.ctx.strategyId ∨ order.trackRaises then s
  else s.manage (s.manager.onOrderFilled s.ctx order)

def onOrderCancelled (s : BracketDesk σ) (order : Order) : BracketDesk σ :=
  if order.magic ≠ s.magic then s
  else { s with manager := s.manager.onOrderCancelled order }

def onPositionClosed (s : BracketDesk σ) (position : Position) :
    BracketDesk σ :=
  if position.magic ≠ s.magic then s
  else s.manage (s.manager.onPositionClosed s.ctx position)

/-- A resting order of the strategy. -/
def Resting (s : BracketDesk σ) (ticket : Ticket) : Prop :=
  match s.broker.pending.get? ticket with
  | none => False
  | some order =>
      order.strategyId = s.ctx.strategyId ∧ order.magic = s.magic

instance (s : BracketDesk σ) (ticket : Ticket) :
    Decidable (s.Resting ticket) := by
  unfold Resting
  split <;> infer_instance

/-- The state after a step, if the step can happen. -/
def step? (cfg : SimConfig σ) (s : BracketDesk σ) :
    BracketLabel → Option (BracketDesk σ)
  | .drive op =>
      if op.places then none
      else
        let performed := SimBroker.perform cfg s.broker op
        some ({ s with broker := performed.1 }.publish performed.2)
  | .place req =>
      let call := s.broker.placeOrder cfg req
      some
        ({ s with broker := call.broker }.publish
          (placementEvents s.broker.accountId req call))
  | .addBracket groupId tickets =>
      let joined := s.manager.addBracket groupId tickets
      some
        { s with
          manager := joined.1
          brackets :=
            if joined.2 = none ∧ ∀ ticket ∈ tickets, s.Resting ticket then
              s.brackets ++ [⟨groupId, tickets⟩]
            else s.brackets }
  | .handleFilled =>
      match s.fills.pop? with
      | none => none
      | some (order, rest) => some ({ s with fills := rest }.onOrderFilled order)
  | .handleCancelled =>
      match s.cancels.pop? with
      | none => none
      | some (order, rest) =>
          some ({ s with cancels := rest }.onOrderCancelled order)
  | .handleClosed =>
      match s.closes.pop? with
      | none => none
      | some (position, rest) =>
          some ({ s with closes := rest }.onPositionClosed position)
  | .routeCancel =>
      match s.cancelRequests.pop? with
      | none => none
      | some (request, rest) =>
          let call := handleCancel (simManagePort cfg) s.router request s.broker
          some
            ({ s with broker := call.broker, cancelRequests := rest }.publish
              call.events)
  | .routeClose =>
      match s.closeRequests.pop? with
      | none => none
      | some (request, rest) =>
          let call := handleClose (simManagePort cfg) s.router request s.broker
          some
            ({ s with broker := call.broker, closeRequests := rest }.publish
              call.events)

def Step (cfg : SimConfig σ) :
    BracketDesk σ → BracketLabel → BracketDesk σ → Prop :=
  stepOf? (step? cfg)

/-- Every event and request so far has been handled. -/
structure Drained (s : BracketDesk σ) : Prop where
  fills : s.fills.backlog = []
  cancels : s.cancels.backlog = []
  closes : s.closes.backlog = []
  cancelRequests : s.cancelRequests.backlog = []
  closeRequests : s.closeRequests.backlog = []

end BracketDesk

end StingerFx
