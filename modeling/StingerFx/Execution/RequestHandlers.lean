/-
Module: StingerFx.Execution.RequestHandlers
Layer: Execution
Purpose: The router's handlers of a strategy's own requests: modify, partial
  close, close, cancel. Each looks the ticket up, compares magic numbers, calls
  the broker and looks at its answer. The broker is the one the router picked for
  the strategy; an exception of a broker call leaves the handler.
Trusted boundary: human-reviewed model of the source's order router
Main exports: ModifyOrderRequest, PartialCloseRequest, ClosePositionRequest,
  CancelOrderRequest, RouterRequest, ManagePort, BrokerCall, handleModify,
  handlePartialClose, handleClose, handleCancel, handleRequest
-/
import StingerFx.Execution.OrderRouter
import StingerFx.Backtest.BrokerMoves

namespace StingerFx

open Lib

/-! ### Requests -/

structure ModifyOrderRequest where
  strategyId : StrategyId
  ticket : Ticket
  sl : Option ℚ
  tp : Option ℚ
  price : Option ℚ
  stopPrice : Option ℚ
  volume : Option ℚ
  reason : String
deriving Repr, DecidableEq

structure PartialCloseRequest where
  strategyId : StrategyId
  ticket : Ticket
  volume : ℚ
  reason : String
  volume_pos : 0 < volume
deriving Repr

instance : DecidableEq PartialCloseRequest := fun one two =>
  decidable_of_iff
    (one.strategyId = two.strategyId ∧ one.ticket = two.ticket ∧
      one.volume = two.volume ∧ one.reason = two.reason) <| by
    cases one
    cases two
    simp

structure ClosePositionRequest where
  strategyId : StrategyId
  ticket : Ticket
  reason : String
deriving Repr, DecidableEq

structure CancelOrderRequest where
  strategyId : StrategyId
  ticket : Ticket
  reason : String
deriving Repr, DecidableEq

/-- The requests a strategy can make about what it already has. -/
inductive RouterRequest where
  | modify (request : ModifyOrderRequest)
  | partialClose (request : PartialCloseRequest)
  | close (request : ClosePositionRequest)
  | cancel (request : CancelOrderRequest)
deriving Repr, DecidableEq

namespace RouterRequest

def strategyId : RouterRequest → StrategyId
  | .modify request => request.strategyId
  | .partialClose request => request.strategyId
  | .close request => request.strategyId
  | .cancel request => request.strategyId

def ticket : RouterRequest → Ticket
  | .modify request => request.ticket
  | .partialClose request => request.ticket
  | .close request => request.ticket
  | .cancel request => request.ticket

end RouterRequest

/-! ### Broker calls -/

/-- What a broker call leaves: the broker, what it published, and its answer. -/
structure BrokerCall (β ε α : Type) where
  broker : β
  events : List Event
  answer : Except ε α

namespace BrokerCall

variable {β ε α γ : Type}

def returns (b : β) (value : α) : BrokerCall β ε α := ⟨b, [], .ok value⟩

/-- Continue with the answer; an exception ends the handler where it is. -/
def andThen (call : BrokerCall β ε α) (next : α → β → BrokerCall β ε γ) :
    BrokerCall β ε γ :=
  match call.answer with
  | .error error => ⟨call.broker, call.events, .error error⟩
  | .ok value =>
      let later := next value call.broker
      ⟨later.broker, call.events ++ later.events, later.answer⟩

@[simp] theorem returns_andThen (b : β) (value : α)
    (next : α → β → BrokerCall β ε γ) :
    (returns b value).andThen next = next value b := rfl

end BrokerCall

/-- The broker calls behind the request handlers. -/
structure ManagePort (β ε : Type) where
  getPositions : β → BrokerCall β ε (List Position)
  getOpenOrders : β → BrokerCall β ε (List Order)
  modifyOrder : β → Ticket → OrderChanges → BrokerCall β ε OrderResult
  closePosition : β → Ticket → Option ℚ → BrokerCall β ε OrderResult
  cancelOrder : β → Ticket → BrokerCall β ε OrderResult

def SimBroker.asCall {σ α : Type} (call : Call σ α) :
    BrokerCall (SimBroker σ) BrokerError α :=
  ⟨call.broker, call.events, call.outcome⟩

/-- The simulated broker behind the handlers. -/
def simManagePort {σ : Type} (cfg : SimConfig σ) :
    ManagePort (SimBroker σ) BrokerError where
  getPositions := fun b => .returns b b.getPositions
  getOpenOrders := fun b => .returns b b.getOpenOrders
  modifyOrder := fun b ticket changes =>
    SimBroker.asCall (b.modifyOrder ticket changes)
  closePosition := fun b ticket volume =>
    SimBroker.asCall (b.closePosition cfg ticket volume)
  cancelOrder := fun b ticket => SimBroker.asCall (b.cancelOrder ticket)

/-! ### Handlers -/

/-- Why a request changes nothing. -/
inductive Refusal where
  | unknownTicket
  | crossStrategy (magic expectedMagic : Int)
  | volumeTooLarge (requested positionVolume : ℚ)
  | failed (reason : Option RejectMessage)
deriving Repr, DecidableEq

/-- How a handler ends: each end but `done` is one of its log lines. -/
inductive RequestOutcome where
  | done
  | refused (refusal : Refusal)
  | collapsedToFull
  | noShrink (before after : ℚ)
deriving Repr, DecidableEq

/-- The magic number a strategy's orders carry, zero for an unknown strategy. -/
def RouterState.expectedMagic (router : RouterState) (strategyId : StrategyId) :
    Int :=
  router.strategyMagic.getD strategyId 0

/-- `next((p for p in positions if p.ticket == ticket), None)`. -/
def findPosition (positions : List Position) (ticket : Ticket) :
    Option Position :=
  positions.find? fun pos => decide (pos.ticket = ticket)

def findOrder (orders : List Order) (ticket : Ticket) : Option Order :=
  orders.find? fun order => decide (order.ticket = ticket)

section Handlers

variable {β ε : Type} (port : ManagePort β ε) (router : RouterState)

/-- Stop at a refused broker call, else continue. -/
def whenAccepted (result : OrderResult) (b : β)
    (next : β → BrokerCall β ε RequestOutcome) :
    BrokerCall β ε RequestOutcome :=
  if result.ok then next b
  else .returns b (.refused (.failed result.message))

/-- The branch of `handle_modify` for a pending order. No event: there is no
position to report yet. -/
def modifyPending (evt : ModifyOrderRequest) (pending : Order) (b : β) :
    BrokerCall β ε RequestOutcome :=
  let expectedMagic := router.expectedMagic evt.strategyId
  if pending.magic ≠ expectedMagic then
    .returns b (.refused (.crossStrategy pending.magic expectedMagic))
  else
    let changes : OrderChanges :=
      { sl := evt.sl <|> pending.sl
        tp := evt.tp <|> pending.tp
        price := evt.price <|> pending.price
        volume := some (evt.volume.getD pending.volume) }
    (port.modifyOrder b evt.ticket changes).andThen fun result b =>
      whenAccepted result b fun b => .returns b .done

/-- The branch of `handle_modify` for an open position: the stops only. The
position is read again for the event. -/
def modifyOpen (evt : ModifyOrderRequest) (pos : Position) (b : β) :
    BrokerCall β ε RequestOutcome :=
  let expectedMagic := router.expectedMagic evt.strategyId
  if pos.magic ≠ expectedMagic then
    .returns b (.refused (.crossStrategy pos.magic expectedMagic))
  else
    let changes : OrderChanges :=
      { sl := evt.sl <|> pos.sl
        tp := evt.tp <|> pos.tp
        price := none
        volume := none }
    (port.modifyOrder b evt.ticket changes).andThen fun result b =>
      whenAccepted result b fun b =>
        (port.getPositions b).andThen fun positions b =>
          let updated := (findPosition positions evt.ticket).getD pos
          ⟨b, [.orderModified updated evt.reason], .ok .done⟩

def handleModify (evt : ModifyOrderRequest) (b : β) :
    BrokerCall β ε RequestOutcome :=
  (port.getOpenOrders b).andThen fun pendings b =>
    match findOrder pendings evt.ticket with
    | some pending => modifyPending port router evt pending b
    | none =>
        (port.getPositions b).andThen fun positions b =>
          match findPosition positions evt.ticket with
          | none => .returns b (.refused .unknownTicket)
          | some pos => modifyOpen port router evt pos b

/-- What `handle_partial_close` makes of the positions after the close. -/
def partialOutcome (ticket : Ticket) (beforeVolume : ℚ)
    (positions : List Position) : RequestOutcome :=
  match findPosition positions ticket with
  | none => .collapsedToFull
  | some remaining =>
      if beforeVolume ≤ remaining.volume then
        .noShrink beforeVolume remaining.volume
      else .done

def handlePartialClose (evt : PartialCloseRequest) (b : β) :
    BrokerCall β ε RequestOutcome :=
  (port.getPositions b).andThen fun positions b =>
    match findPosition positions evt.ticket with
    | none => .returns b (.refused .unknownTicket)
    | some pos =>
        let expectedMagic := router.expectedMagic evt.strategyId
        if pos.magic ≠ expectedMagic then
          .returns b (.refused (.crossStrategy pos.magic expectedMagic))
        else if pos.volume ≤ evt.volume then
          .returns b (.refused (.volumeTooLarge evt.volume pos.volume))
        else
          (port.closePosition b evt.ticket (some evt.volume)).andThen
            fun result b =>
              whenAccepted result b fun b =>
                (port.getPositions b).andThen fun positions b =>
                  .returns b (partialOutcome evt.ticket pos.volume positions)

def handleClose (evt : ClosePositionRequest) (b : β) :
    BrokerCall β ε RequestOutcome :=
  (port.getPositions b).andThen fun positions b =>
    match findPosition positions evt.ticket with
    | none => .returns b (.refused .unknownTicket)
    | some pos =>
        let expectedMagic := router.expectedMagic evt.strategyId
        if pos.magic ≠ expectedMagic then
          .returns b (.refused (.crossStrategy pos.magic expectedMagic))
        else
          (port.closePosition b evt.ticket none).andThen fun result b =>
            whenAccepted result b fun b => .returns b .done

def handleCancel (evt : CancelOrderRequest) (b : β) :
    BrokerCall β ε RequestOutcome :=
  (port.getOpenOrders b).andThen fun pending b =>
    match findOrder pending evt.ticket with
    | none => .returns b (.refused .unknownTicket)
    | some order =>
        let expectedMagic := router.expectedMagic evt.strategyId
        if order.magic ≠ expectedMagic then
          .returns b (.refused (.crossStrategy order.magic expectedMagic))
        else
          (port.cancelOrder b evt.ticket).andThen fun result b =>
            whenAccepted result b fun b => .returns b .done

def handleRequest : RouterRequest → β → BrokerCall β ε RequestOutcome
  | .modify evt => handleModify port router evt
  | .partialClose evt => handlePartialClose port router evt
  | .close evt => handleClose port router evt
  | .cancel evt => handleCancel port router evt

/-- The broker after a sequence of requests, handled one after the other. -/
def handleRequests (requests : List RouterRequest) (b : β) : β :=
  requests.foldl
    (fun broker request => (handleRequest port router request broker).broker) b

end Handlers

end StingerFx
