/-
Module: StingerFx.Runtime.TradingSystem
Layer: Runtime
Purpose: Router, simulated broker and risk monitor over the event bus. The router
  takes one signal at a time from its queue; the monitor's subscriptions have a
  queue each, and no order among the queues is promised. The router may be
  suspended between its decision, the placement and the report of the result;
  in between, market data, other requests and the monitor's consumers run.
Trusted boundary: human-reviewed model of the source's order flow over the bus
Main exports: TradingSystem, SystemLabel, TradingSystem.step?,
  TradingSystem.Step, TradingSystem.boot
-/
import StingerFx.Execution.OrderRouter
import StingerFx.Backtest.BrokerMoves
import StingerFx.Runtime.Startup

namespace StingerFx

open Lib

structure FillMessage where
  order : Order
  accountId : AccountId
deriving Repr, DecidableEq

structure CloseMessage where
  position : Position
  realizedPnl : ℚ
  accountId : AccountId
deriving Repr, DecidableEq

structure PartialMessage where
  position : Position
  realizedPnl : ℚ
deriving Repr, DecidableEq

/-- Where the router stands with the signal it handles. -/
inductive RouterTask where
  | idle
  /-- the decision is recorded, the placement is to come -/
  | accepted (req : OrderRequest)
  /-- the broker has answered, the outcome is not published yet -/
  | answered (req : OrderRequest) (result : OrderResult)
deriving Repr, DecidableEq

namespace RouterTask

def afterGate : Gate → RouterTask
  | .accepted req => .accepted req
  | .rejected _ | .invalid => .idle

/-- After the broker's answer; the consumer logs an exception and goes on. -/
def afterPlacement (req : OrderRequest) :
    Except BrokerError OrderResult → RouterTask
  | .ok result => .answered req result
  | .error _ => .idle

end RouterTask

structure TradingSystem (σ : Type) where
  broker : SimBroker σ
  monitor : RiskMonitor
  router : RouterState
  task : RouterTask
  signals : Mailbox Signal
  fills : Mailbox FillMessage
  closes : Mailbox CloseMessage
  partials : Mailbox PartialMessage

/-- One step of some task. -/
inductive SystemLabel where
  /-- a strategy publishes a signal -/
  | emitSignal (signal : Signal)
  /-- the router takes the oldest signal and decides on it -/
  | handleSignal (now : Time) (clientOrderId : ClientOrderId)
  | placeOrder
  | publishResult
  /-- market data, a modification, a close or a cancellation -/
  | drive (op : BrokerOp)
  | handleFilled
  | handleClosed (now : Time)
  | handlePartialClosed (now : Time)
  | handleSnapshot (snap : AccountSnapshot)

namespace TradingSystem

variable {σ : Type}

def boot (cfg : RiskConfig) (router : RouterState) (initialBalance : ℚ)
    (slippage : σ) (now : Time) : TradingSystem σ where
  broker := .create initialBalance slippage now
  monitor := .create cfg
  router := router
  task := .idle
  signals := .create busQueueSize
  fills := .create busQueueSize
  closes := .create busQueueSize
  partials := .create busQueueSize

/-- Put an event into the queue of the monitor's subscription for it. -/
def deliver (s : TradingSystem σ) : Event → TradingSystem σ
  | .orderFilled order accountId =>
      { s with fills := s.fills.push ⟨order, accountId⟩ }
  | .positionClosed position realizedPnl accountId _ =>
      { s with closes := s.closes.push ⟨position, realizedPnl, accountId⟩ }
  | .partialClosed position _ realizedPnl _ _ =>
      { s with partials := s.partials.push ⟨position, realizedPnl⟩ }
  | _ => s

def publish (s : TradingSystem σ) (events : List Event) : TradingSystem σ :=
  events.foldl deliver s

/-- The state after a step, if the step can happen. -/
def step? (cfg : SimConfig σ) (s : TradingSystem σ) :
    SystemLabel → Option (TradingSystem σ)
  | .emitSignal signal => some { s with signals := s.signals.push signal }
  | .handleSignal now clientOrderId =>
      match s.task, s.signals.pop? with
      | .idle, some (signal, rest) =>
          let gated := preTrade (simPort cfg) s.router (some s.monitor) now
            clientOrderId signal s.broker
          some
            { s with
              broker := gated.broker
              monitor := gated.risk.getD s.monitor
              router := { s.router with contractSizeCache := gated.cache }
              task := .afterGate gated.gate
              signals := rest }
      | _, _ => none
  | .placeOrder =>
      match s.task with
      | .accepted req =>
          let call := s.broker.placeOrder cfg req
          let placed := { s with broker := call.broker }.publish call.events
          some { placed with task := .afterPlacement req call.outcome }
      | _ => none
  | .publishResult =>
      match s.task with
      | .answered req result =>
          some
            ({ s with task := .idle }.publish
              (submissionEvents s.broker.accountId req result))
      | _ => none
  | .drive op =>
      if op.places then none
      else
        let performed := SimBroker.perform cfg s.broker op
        some ({ s with broker := performed.1 }.publish performed.2)
  | .handleFilled =>
      match s.fills.pop? with
      | none => none
      | some (fill, rest) =>
          some
            { s with
              monitor := s.monitor.onFilled fill.order fill.accountId
              fills := rest }
  | .handleClosed now =>
      match s.closes.pop? with
      | none => none
      | some (close, rest) =>
          some
            { s with
              monitor :=
                s.monitor.onClosed now close.position close.realizedPnl
                  close.accountId
              closes := rest }
  | .handlePartialClosed now =>
      match s.partials.pop? with
      | none => none
      | some (chunk, rest) =>
          some
            { s with
              monitor :=
                s.monitor.onPartialClosed now chunk.position chunk.realizedPnl
              partials := rest }
  | .handleSnapshot snap =>
      some { s with monitor := (s.monitor.onSnapshot snap).1 }

def Step (cfg : SimConfig σ) :
    TradingSystem σ → SystemLabel → TradingSystem σ → Prop :=
  stepOf? (step? cfg)

end TradingSystem

end StingerFx
