/-
Module: StingerFx.Core.BusTasks
Layer: Core
Purpose: The bus with its tasks. First one publisher, and one consumer for each
  subscription. Any consumer that has something to take may go on at any time. A
  handler that raises is logged; one that is cancelled ends its consumer. Then
  everything that tasks can do with the bus, in any order: subscribe, unsubscribe,
  publish from any number of tasks, close, and what the consumers do. A publish call
  that waits walks over the live list of subscriptions, so it also comes by those that
  joined meanwhile.
Trusted boundary: human-reviewed model of the source's event bus; under the calls of
  several tasks a handler lets the cancellation of its consumer through
Main exports: HandlerEnd, BusTasks, BusTaskLabel, BusTasks.start, BusTasks.step?,
  BusTasks.Step, AsyncEventBus.offered, BusCall, AsyncEventBus.call?,
  AsyncEventBus.Calls, AsyncEventBus.carriedTo, BusSubscription.seen
-/
import StingerFx.Core.EventBus
import StingerFx.Lib.Runs

namespace StingerFx

open Lib

/-- How a handler ends. -/
inductive HandlerEnd where
  | returned
  /-- with an `Exception` -/
  | raised
  /-- with `CancelledError`, or anything else that is no `Exception` -/
  | cancelled
deriving Repr, DecidableEq

/-- What a subscribe call names. -/
structure SubscriptionSpec (τ κ : Type) where
  eventType : τ
  handler : κ
  maxsize : Nat
  overflow : OverflowPolicy
deriving Repr, DecidableEq

structure BusTasks (τ κ ε : Type) where
  bus : AsyncEventBus τ κ ε
  /-- the subscriptions whose consumer task has ended -/
  ended : List Nat

inductive BusTaskLabel (ε : Type) where
  /-- the publisher's next publish call, up to the first full queue -/
  | publish (event : ε)
  /-- the publish call under way finds room -/
  | resume
  /-- a consumer takes an event, and its handler ends -/
  | take (index : Nat) (outcome : HandlerEnd)
deriving Repr, DecidableEq

namespace AsyncEventBus

variable {τ κ ε : Type}

/-- The events that the publisher has brought to a subscription. -/
def offered (bus : AsyncEventBus τ κ ε) (index : Nat) : List ε :=
  match bus.waiting with
  | [] => bus.published
  -- the last event is still on its way past the subscriptions
  | call :: _ =>
      if index < call.waitsAt then bus.published else bus.published.dropLast

end AsyncEventBus

namespace BusTasks

variable {τ κ ε : Type} (isInstance : ε → τ → Bool)

/-- The subscriptions are there before the first event. -/
def start (specs : List (SubscriptionSpec τ κ)) : BusTasks τ κ ε where
  bus :=
    { (AsyncEventBus.create : AsyncEventBus τ κ ε) with
      subs := specs.map fun spec =>
        .create spec.eventType spec.handler spec.maxsize spec.overflow }
  ended := []

/-- The state after a step, if the step can happen. -/
def step? (s : BusTasks τ κ ε) :
    BusTaskLabel ε → Option (BusTasks τ κ ε)
  | .publish event =>
      match s.bus.waiting with
      | [] => some { s with bus := s.bus.publish isInstance event }
      | _ :: _ => none
  | .resume =>
      (s.bus.resume? isInstance 0).map fun bus => { s with bus := bus }
  | .take index outcome =>
      if index ∈ s.ended then none
      else
        match s.bus.take? index with
        | none => none
        | some (_, _, bus) =>
            some
              { s with
                bus := bus
                ended :=
                  if outcome = .cancelled then index :: s.ended else s.ended }

def Step : BusTasks τ κ ε → BusTaskLabel ε → BusTasks τ κ ε → Prop :=
  stepOf? (step? isInstance)

end BusTasks

/-! ### Calls from any number of tasks -/

inductive BusCall (τ κ ε : Type) where
  | subscribe (spec : SubscriptionSpec τ κ)
  | unsubscribe (index : Nat)
  | close
  /-- a task publishes, up to the first full queue -/
  | publish (event : ε)
  /-- one of the publish calls under way finds room -/
  | resume (call : Nat)
  /-- a consumer takes an event -/
  | take (index : Nat)
deriving Repr, DecidableEq

/-- The events of the publish calls that wait at a subscription or before it. -/
def PublishCall.carried {ε : Type} (waiting : List (PublishCall ε))
    (index : Nat) : List ε :=
  (waiting.filter fun call => decide (call.waitsAt ≤ index)).map
    PublishCall.event

namespace AsyncEventBus

variable {τ κ ε : Type} (isInstance : ε → τ → Bool)

/-- The bus after a call, if the call can happen. -/
def call? (bus : AsyncEventBus τ κ ε) :
    BusCall τ κ ε → Option (AsyncEventBus τ κ ε)
  | .subscribe spec =>
      bus.subscribe? spec.eventType spec.handler spec.maxsize spec.overflow
  | .unsubscribe index =>
      if index < bus.subs.length then some (bus.unsubscribe index) else none
  | .close => some bus.close
  | .publish event => some (bus.publish isInstance event)
  | .resume call => bus.resume? isInstance call
  | .take index => (bus.take? index).map fun taken => taken.2.2

def Calls : AsyncEventBus τ κ ε → BusCall τ κ ε → AsyncEventBus τ κ ε → Prop :=
  stepOf? (call? isInstance)

/-- The events whose publish call has not come by a subscription yet. -/
def carriedTo (bus : AsyncEventBus τ κ ε) (index : Nat) : List ε :=
  PublishCall.carried bus.waiting index

end AsyncEventBus

/-- Every event that a publisher brought to a subscription: handled, evicted,
waiting in the queue, or too late. -/
def BusSubscription.seen {τ κ ε : Type} (sub : BusSubscription τ κ ε) : List ε :=
  sub.handled ++ sub.queue.lost ++ sub.queue.items ++ sub.passedBy

end StingerFx
