/-
Module: StingerFx.Runtime.OrderFlowBus
Layer: Runtime
Purpose: The consumers of the order flow on the bus: the risk monitor, the trade
  persister and the order router, each with the subscriptions its `start` makes.
  Publishers and consumers run in any order; a stop cancels the consumers of a
  component, and closing the bus cancels all.
Trusted boundary: human-reviewed model of the source's bus subscriptions
Main exports: BusHandler, OrderFlowBus, FlowLabel, OrderFlowBus.step?,
  OrderFlowBus.Step, OrderFlowBus.boot
-/
import StingerFx.Core.EventBus
import StingerFx.Data.TradePersister
import StingerFx.Risk.Monitor
import StingerFx.Lib.Runs

namespace StingerFx

open Lib

/-- The handlers of the three consumers, and those of everybody else. -/
inductive BusHandler where
  | riskFill
  | riskClose
  | riskPartialClose
  | riskSnapshot
  | routerSignal
  | routerModify
  | routerPartial
  | routerClose
  | routerCancel
  | persisterClose
  | persisterPartialClose
  | other
deriving Repr, DecidableEq

namespace BusHandler

/-- The subscriptions that are made at startup, in the order in which they are
made, and the event class of each. -/
def startup : List (EventType × BusHandler) :=
  [(.orderFilled, .riskFill),
    (.positionClosed, .riskClose),
    (.partialClosed, .riskPartialClose),
    (.accountSnapshot, .riskSnapshot),
    (.signal, .routerSignal),
    (.modifyOrderRequest, .routerModify),
    (.partialCloseRequest, .routerPartial),
    (.closePositionRequest, .routerClose),
    (.cancelOrderRequest, .routerCancel),
    (.positionClosed, .persisterClose),
    (.partialClosed, .persisterPartialClose)]

end BusHandler

structure OrderFlowBus where
  bus : AsyncEventBus EventType BusHandler Event
  monitor : RiskMonitor
  trades : List TradeRow
  strategyMagic : Dict StrategyId Int

/-- One step of some task. -/
inductive FlowLabel where
  | publish (event : Event)
  /-- a consumer takes its oldest event; `stored` tells whether a row that it
  writes reaches the database -/
  | handle (index : Nat) (now : Time) (stored : Bool)
  /-- another component subscribes -/
  | subscribe (eventType : EventType)
  /-- the router asks the monitor about a signal -/
  | checkSignal (now : Time) (signal : Signal)
  | reloadStrategies (strategyMagic : Dict StrategyId Int)
  | unsubscribe (index : Nat)
  | close

namespace OrderFlowBus

/-- No subscription of the engine names a size or a policy. -/
def subscription (eventType : EventType) (handler : BusHandler) :
    BusSubscription EventType BusHandler Event :=
  .create eventType handler busQueueSize .dropOldest

def boot (cfg : RiskConfig) (strategyMagic : Dict StrategyId Int) :
    OrderFlowBus where
  bus :=
    { subs := BusHandler.startup.map fun entry => subscription entry.1 entry.2
      closed := false
      waiting := []
      published := [] }
  monitor := .create cfg
  trades := []
  strategyMagic := strategyMagic

/-- A consumer gives an event to its handler. -/
def dispatch (s : OrderFlowBus) (now : Time) (stored : Bool) :
    BusHandler → Event → OrderFlowBus
  | .riskFill, .orderFilled order accountId =>
      { s with monitor := s.monitor.onFilled order accountId }
  | .riskClose, .positionClosed position realizedPnl accountId _ =>
      { s with
        monitor := s.monitor.onClosed now position realizedPnl accountId }
  | .riskPartialClose, .partialClosed position _ realizedPnl _ _ =>
      { s with monitor := s.monitor.onPartialClosed now position realizedPnl }
  | .riskSnapshot, .accountSnapshot snap =>
      { s with monitor := (s.monitor.onSnapshot snap).1 }
  | .persisterClose, .positionClosed position realizedPnl _ closePrice =>
      { s with
        trades := TradePersister.onClosed s.strategyMagic now stored position
          realizedPnl (some closePrice) s.trades }
  | .persisterPartialClose,
      .partialClosed position closedVolume realizedPnl _ closePrice =>
      { s with
        trades := TradePersister.onPartialClosed s.strategyMagic now stored
          position closedVolume realizedPnl (some closePrice) s.trades }
  | _, _ => s

/-- The state after a step, if the step can happen. -/
def step? (s : OrderFlowBus) : FlowLabel → Option OrderFlowBus
  | .publish event =>
      some { s with bus := s.bus.publish Event.isInstance event }
  | .handle index now stored =>
      match s.bus.take? index with
      | none => none
      | some (handler, event, bus) =>
          some ({ s with bus := bus }.dispatch now stored handler event)
  | .subscribe eventType =>
      match s.bus.subscribe? eventType .other busQueueSize .dropOldest with
      | none => none
      | some bus => some { s with bus := bus }
  | .checkSignal now signal =>
      some { s with monitor := (s.monitor.checkSignal now signal).2 }
  | .reloadStrategies strategyMagic =>
      some { s with strategyMagic := strategyMagic }
  | .unsubscribe index => some { s with bus := s.bus.unsubscribe index }
  | .close => some { s with bus := s.bus.close }

def Step : OrderFlowBus → FlowLabel → OrderFlowBus → Prop := stepOf? step?

end OrderFlowBus

end StingerFx
