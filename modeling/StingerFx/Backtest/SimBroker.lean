/-
Module: StingerFx.Backtest.SimBroker
Layer: Backtest
Purpose: The in-memory broker of the backtester. Every coroutine of the source
  runs without suspending, so a call is a function of the broker's state; it
  leaves a new state, the events it published in order, and its return value or
  the exception it raised. What a raising call changed before it raised stays.
Trusted boundary: human-reviewed model of the source's replay broker
Main exports: SimConfig, SimBroker, Call, placeOrder, checkPending,
  checkPendingBar, modifyOrder, closePosition, cancelOrder, checkSlTp,
  checkSlTpTick, getAccountSnapshot, getSymbolInfo, BrokerOp, SimBroker.run
-/
import StingerFx.Core.Events
import StingerFx.Lib.Dict
import StingerFx.Backtest.Slippage

namespace StingerFx

open Lib

/-- Construction parameters of the broker. -/
structure SimConfig (σ : Type) where
  slippageFn : SlippageModel σ
  contractSize : ℚ
  symbolContractSizes : Dict Symbol ℚ
  point : ℚ
  commissionPerLot : ℚ
  swapLongPerLot : ℚ
  swapShortPerLot : ℚ
  swapRolloverHourUtc : Nat
  rolloverHour_lt : swapRolloverHourUtc < 24

/-- Fills at the quote and no costs; the other parameters as by default. -/
def SimConfig.plain : SimConfig Unit where
  slippageFn := spreadModel
  contractSize := 100000
  symbolContractSizes := .empty
  point := 1 / 10000
  commissionPerLot := 0
  swapLongPerLot := 0
  swapShortPerLot := 0
  swapRolloverHourUtc := 21
  rolloverHour_lt := by decide

/-- One closed trade, or one closed chunk of a position. -/
structure TradeRecord where
  openTs : Time
  closeTs : Time
  side : Side
  openPrice : ℚ
  closePrice : ℚ
  volume : ℚ
  pnl : ℚ
  fees : ℚ
  swap : ℚ
deriving Repr, DecidableEq

structure SimBroker (σ : Type) where
  accountId : AccountId
  balance : ℚ
  slippageState : σ
  nextTicket : Ticket
  positions : Dict Ticket Position
  pending : Dict Ticket Order
  simTime : Time
  lastPrice : Dict Symbol ℚ
  lastBid : Dict Symbol ℚ
  lastAsk : Dict Symbol ℚ
  trades : List TradeRecord
  strategyIdByTicket : Dict Ticket StrategyId
deriving DecidableEq

/-- Exceptions that a broker call can raise: a record that fails validation. -/
inductive BrokerError where
  | positionOpenPrice
  | partialClosedVolume
  | symbolInfoContractSize
deriving Repr, DecidableEq

/-- What a broker call leaves behind. -/
structure Call (σ : Type) (α : Type) where
  broker : SimBroker σ
  events : List Event
  outcome : Except BrokerError α

variable {σ : Type}

namespace SimBroker

/-- A fresh broker at a given instant. -/
def create (initialBalance : ℚ) (slippageState : σ) (now : Time) :
    SimBroker σ where
  accountId := "default"
  balance := initialBalance
  slippageState := slippageState
  nextTicket := 1
  positions := .empty
  pending := .empty
  simTime := now
  lastPrice := .empty
  lastBid := .empty
  lastAsk := .empty
  trades := []
  strategyIdByTicket := .empty

/-- Return without an event. -/
def returns {α : Type} (b : SimBroker σ) (value : α) : Call σ α :=
  ⟨b, [], .ok value⟩

def raises {α : Type} (b : SimBroker σ) (error : BrokerError) : Call σ α :=
  ⟨b, [], .error error⟩

/-! ### Driving the simulation -/

def advanceClock (b : SimBroker σ) (t : Time) : SimBroker σ :=
  { b with simTime := t }

/-- Bar-mode entry point: bid and ask are the price. -/
def setMarket (b : SimBroker σ) (symbol : Symbol) (price : ℚ) : SimBroker σ :=
  { b with
    lastPrice := b.lastPrice.set symbol price
    lastBid := b.lastBid.set symbol price
    lastAsk := b.lastAsk.set symbol price }

/-- Tick-mode entry point: the bid is the mark-to-market reference. -/
def setMarketTick (b : SimBroker σ) (symbol : Symbol) (bid ask : ℚ) :
    SimBroker σ :=
  { b with
    lastBid := b.lastBid.set symbol bid
    lastAsk := b.lastAsk.set symbol ask
    lastPrice := b.lastPrice.set symbol bid }

end SimBroker

def SimConfig.contractSizeFor (cfg : SimConfig σ) (symbol : Symbol) : ℚ :=
  cfg.symbolContractSizes.getD symbol cfg.contractSize

/-- Number of swap rollovers in `(openTime, closeTime]`. -/
def rolloverCount (openTime closeTime : Time) (hour : Nat) : Int :=
  if closeTime ≤ openTime then 0
  else
    let sameDay := Time.atHour openTime hour
    let first := if sameDay ≤ openTime then sameDay + Time.usPerDay else sameDay
    if closeTime < first then 0
    else (closeTime - first) / Time.usPerDay + 1

/-- Whether the current quote triggers a pending order. -/
def pendingTriggered (order : Order) (bid ask : ℚ) : Bool :=
  match order.price with
  | none => false
  | some price =>
      match order.type, order.side with
      | .stop, .buy => decide (price ≤ ask)
      | .stop, .sell => decide (bid ≤ price)
      | .limit, .buy => decide (ask ≤ price)
      | .limit, .sell => decide (price ≤ bid)
      -- STOP_LIMIT is treated like STOP
      | .stopLimit, .buy => decide (price ≤ ask)
      | .stopLimit, .sell => decide (bid ≤ price)
      | .market, _ => false

namespace SimBroker

/-! ### Placing orders -/

/-- `Position(...)` for a fill: refused unless the open price is positive. -/
def buildPosition (ticket : Ticket) (symbol : Symbol) (side : Side)
    (volume openPrice : ℚ) (openTime : Time) (sl tp : Option ℚ)
    (comment : String) (magic : Int) (volume_pos : 0 < volume) :
    Option Position :=
  if openPrice_pos : 0 < openPrice then
    some
      { ticket := ticket
        symbol := symbol
        side := side
        volume := volume
        openPrice := openPrice
        openTime := openTime
        sl := sl
        tp := tp
        comment := comment
        magic := magic
        volume_pos := volume_pos
        openPrice_pos := openPrice_pos }
  else none

/-- The order that waits for its trigger. -/
def pendingOrder (b : SimBroker σ) (req : OrderRequest) : Order where
  ticket := b.nextTicket
  strategyId := req.strategyId
  symbol := req.symbol
  side := req.side
  type := req.type
  volume := req.volume
  filledVolume := 0
  price := req.price
  fillPrice := none
  sl := req.sl
  tp := req.tp
  status := .submitted
  comment := req.comment
  magic := req.magic
  clientOrderId := req.clientOrderId
  requestedAt := some b.simTime
  filledAt := none
  volume_pos := req.volume_pos

/-- The order reported for a market fill. -/
def marketOrder (b : SimBroker σ) (req : OrderRequest) (mid fillPrice : ℚ) :
    Order where
  ticket := b.nextTicket
  strategyId := req.strategyId
  symbol := req.symbol
  side := req.side
  type := .market
  volume := req.volume
  filledVolume := req.volume
  price := some mid
  fillPrice := some fillPrice
  sl := req.sl
  tp := req.tp
  status := .filled
  comment := req.comment
  magic := req.magic
  clientOrderId := req.clientOrderId
  requestedAt := some b.simTime
  filledAt := some b.simTime
  volume_pos := req.volume_pos

/-- Park a non-market order and announce it. -/
def parkPending (b : SimBroker σ) (req : OrderRequest) : Call σ OrderResult :=
  let pending := b.pendingOrder req
  { broker :=
      { b with
        nextTicket := b.nextTicket + 1
        pending := b.pending.set b.nextTicket pending }
    events := [.orderSubmitted pending]
    outcome := .ok ⟨true, some b.nextTicket, .submitted, none, some pending⟩ }

/-- Register a position under its ticket and charge the open-side commission. -/
def openPosition (b : SimBroker σ) (cfg : SimConfig σ) (pos : Position)
    (strategyId : StrategyId) : SimBroker σ :=
  { b with
    positions := b.positions.set pos.ticket pos
    strategyIdByTicket := b.strategyIdByTicket.set pos.ticket strategyId
    balance := b.balance - cfg.commissionPerLot * pos.volume }

/-- Fill a market order. The router announces the fill, not the broker. -/
def fillMarket (b : SimBroker σ) (cfg : SimConfig σ) (req : OrderRequest)
    (bid ask : ℚ) : Call σ OrderResult :=
  let fill := cfg.slippageFn b.slippageState req.side bid ask
  let mid := (bid + ask) / 2
  let ticketed :=
    { b with slippageState := fill.2, nextTicket := b.nextTicket + 1 }
  match buildPosition b.nextTicket req.symbol req.side req.volume fill.1
      b.simTime req.sl req.tp req.comment req.magic req.volume_pos with
  | none => ticketed.raises .positionOpenPrice
  | some pos =>
      (ticketed.openPosition cfg pos req.strategyId).returns
        ⟨true, some b.nextTicket, .filled, none,
          some (b.marketOrder req mid fill.1)⟩

def placeOrder (b : SimBroker σ) (cfg : SimConfig σ) (req : OrderRequest) :
    Call σ OrderResult :=
  match b.lastBid.get? req.symbol, b.lastAsk.get? req.symbol with
  | some bid, some ask =>
      if req.type ≠ .market then
        match req.price with
        | none => b.returns (.refused (.orderRequiresPrice req.type))
        | some _ => b.parkPending req
      else b.fillMarket cfg req bid ask
  | _, _ => b.returns (.refused (.noMarketPriceFor req.symbol))

/-! ### Pending orders -/

/-- A triggered order as reported once filled. -/
def filledOrder (b : SimBroker σ) (pending : Order) (fillPrice : ℚ) : Order :=
  { pending with
    status := .filled
    filledVolume := pending.volume
    fillPrice := some fillPrice
    filledAt := some b.simTime }

/-- Turn a triggered order into an open position and announce the fill. -/
def promotePending (b : SimBroker σ) (cfg : SimConfig σ) (ticket : Ticket)
    (pending : Order) (fillPrice : ℚ) : Call σ Order :=
  match buildPosition ticket pending.symbol pending.side pending.volume fillPrice
      b.simTime pending.sl pending.tp pending.comment pending.magic
      pending.volume_pos with
  | none => b.raises .positionOpenPrice
  | some pos =>
      let filled := b.filledOrder pending fillPrice
      let opened := b.openPosition cfg pos pending.strategyId
      { broker := { opened with pending := opened.pending.erase ticket }
        events := [.orderFilled filled b.accountId]
        outcome := .ok filled }

/-- The loop shared by both trigger checks: promote every order that fires, at
its fill price, in the order of the listing taken before the loop. -/
def promoteAll (cfg : SimConfig σ) (fires : Order → Bool)
    (fillPrice : Order → σ → ℚ × σ) :
    List (Ticket × Order) → SimBroker σ → Call σ (List Order)
  | [], b => b.returns []
  | (ticket, pending) :: rest, b =>
      if fires pending then
        let fill := fillPrice pending b.slippageState
        let priced := { b with slippageState := fill.2 }
        let promoted := priced.promotePending cfg ticket pending fill.1
        match promoted.outcome with
        | .error error => ⟨promoted.broker, promoted.events, .error error⟩
        | .ok filled =>
            let later := promoteAll cfg fires fillPrice rest promoted.broker
            ⟨later.broker, promoted.events ++ later.events,
              later.outcome.map (filled :: ·)⟩
      else promoteAll cfg fires fillPrice rest b

/-- Whether `check_pending` fires an order. -/
def firesOnTick (symbol : Symbol) (bid ask : ℚ) (pending : Order) : Bool :=
  decide (pending.symbol = symbol) && pendingTriggered pending bid ask

/-- Fill price of an order fired by `check_pending`. -/
def tickFillPrice (cfg : SimConfig σ) (bid ask : ℚ) (pending : Order)
    (slippage : σ) : ℚ × σ :=
  match pending.type with
  | .limit | .stopLimit => ((truthy pending.price).getD bid, slippage)
  | .stop | .market => cfg.slippageFn slippage pending.side bid ask

/-- Trigger the pending orders whose condition the current quote meets. -/
def checkPending (b : SimBroker σ) (cfg : SimConfig σ) (symbol : Symbol)
    (bid ask : ℚ) : Call σ (List Order) :=
  promoteAll cfg (firesOnTick symbol bid ask) (tickFillPrice cfg bid ask)
    b.pending.items b

/-- Whether `check_pending_bar` fires an order: the bar's range covers its
price. -/
def firesOnBar (symbol : Symbol) (barHigh barLow : ℚ) (pending : Order) :
    Bool :=
  match pending.price with
  | none => false
  | some price =>
      decide (pending.symbol = symbol) &&
        decide (barLow ≤ price ∧ price ≤ barHigh)

/-- Fill price of an order fired by `check_pending_bar`; an order without a
price never fires there. -/
def barFillPrice (cfg : SimConfig σ) (pending : Order) (slippage : σ) : ℚ × σ :=
  let price := pending.price.getD 0
  match pending.type with
  | .limit | .stopLimit => (price, slippage)
  | .stop | .market => cfg.slippageFn slippage pending.side price price

/-- Bar-mode variant of `checkPending`. -/
def checkPendingBar (b : SimBroker σ) (cfg : SimConfig σ) (symbol : Symbol)
    (barHigh barLow : ℚ) : Call σ (List Order) :=
  promoteAll cfg (firesOnBar symbol barHigh barLow) (barFillPrice cfg)
    b.pending.items b

end SimBroker

/-- The fields a modification may set; `none` leaves a field as it is. -/
structure OrderChanges where
  sl : Option ℚ
  tp : Option ℚ
  price : Option ℚ
  volume : Option ℚ
deriving Repr, DecidableEq

namespace OrderChanges

/-- A modification of a pending order; `none` when the new volume is refused. -/
def amendOrder (changes : OrderChanges) (pending : Order) : Option Order :=
  match changes.volume with
  | none =>
      some
        { pending with
          sl := changes.sl <|> pending.sl
          tp := changes.tp <|> pending.tp
          price := changes.price <|> pending.price }
  | some volume =>
      if volume_pos : 0 < volume then
        some
          { pending with
            sl := changes.sl <|> pending.sl
            tp := changes.tp <|> pending.tp
            price := changes.price <|> pending.price
            volume := volume
            volume_pos := volume_pos }
      else none

/-- Only the stops of an open position can change. -/
def amendPosition (changes : OrderChanges) (pos : Position) : Position :=
  { pos with
    sl := changes.sl <|> pos.sl
    tp := changes.tp <|> pos.tp }

end OrderChanges

namespace SimBroker

/-! ### Modifying, closing, cancelling -/

def modifyOrder (b : SimBroker σ) (ticket : Ticket) (changes : OrderChanges) :
    Call σ OrderResult :=
  match b.pending.get? ticket with
  | some pending =>
      match changes.amendOrder pending with
      | none =>
          b.returns (.refused (.modifyPendingVolume (changes.volume.getD 0)))
      | some updated =>
          { b with pending := b.pending.set ticket updated }.returns
            ⟨true, some ticket, .submitted, none, some updated⟩
  | none =>
      match b.positions.get? ticket with
      | none => b.returns (.refused .notFound)
      | some pos =>
          { b with
            positions :=
              b.positions.set ticket (changes.amendPosition pos) }.returns
            ⟨true, some ticket, .submitted, none, none⟩

/-- The trade booked for a closed chunk, and the cash it moves. The open side
of the commission left the balance when the position was opened, so only the
close side moves now while the trade reports both. -/
def settle (b : SimBroker σ) (cfg : SimConfig σ) (pos : Position)
    (closeQty closePrice : ℚ) : TradeRecord × ℚ :=
  let gross := (closePrice - pos.openPrice) * pos.side.sign * closeQty *
    cfg.contractSizeFor pos.symbol
  let commissionClose := cfg.commissionPerLot * closeQty
  let fees := 2 * commissionClose
  let swapRate :=
    match pos.side with
    | .buy => cfg.swapLongPerLot
    | .sell => cfg.swapShortPerLot
  let nights := rolloverCount pos.openTime b.simTime cfg.swapRolloverHourUtc
  let swap := nights * swapRate * closeQty
  ({ openTs := pos.openTime
     closeTs := b.simTime
     side := pos.side
     openPrice := pos.openPrice
     closePrice := closePrice
     volume := closeQty
     pnl := gross - fees + swap
     fees := fees
     swap := swap },
    gross - commissionClose + swap)

/-- The side of the deal that leaves a position. -/
def closeSide : Side → Side
  | .buy => .sell
  | .sell => .buy

/-- The price at which a position would be closed now. -/
def closePriceFor (b : SimBroker σ) (cfg : SimConfig σ) (pos : Position)
    (mid : ℚ) : ℚ × σ :=
  cfg.slippageFn b.slippageState (closeSide pos.side)
    (b.lastBid.getD pos.symbol mid) (b.lastAsk.getD pos.symbol mid)

/-- What is left of a position after a chunk smaller than its volume. -/
def remainder (pos : Position) (chunk : ℚ) (smaller : chunk < pos.volume) :
    Position :=
  { pos with
    volume := pos.volume - chunk
    volume_pos := sub_pos.mpr smaller }

/-- Book a trade: cash, trade log and the slippage state move together. -/
def book (b : SimBroker σ) (settled : TradeRecord × ℚ) (slippage : σ) :
    SimBroker σ :=
  { b with
    balance := b.balance + settled.2
    trades := b.trades ++ [settled.1]
    slippageState := slippage }

/-- The books after a full close. -/
def removePosition (b : SimBroker σ) (settled : TradeRecord × ℚ) (slippage : σ)
    (ticket : Ticket) : SimBroker σ :=
  { b.book settled slippage with
    strategyIdByTicket := b.strategyIdByTicket.erase ticket
    positions := b.positions.erase ticket }

/-- The books after a partial close. -/
def shrinkPosition (b : SimBroker σ) (settled : TradeRecord × ℚ) (slippage : σ)
    (ticket : Ticket) (remaining : Position) : SimBroker σ :=
  { b.book settled slippage with
    positions := b.positions.set ticket remaining }

/-- What a full close publishes: the close itself, then the record that the
live tables read. -/
def closeEvents (b : SimBroker σ) (ticket : Ticket) (pos : Position)
    (pnl closePrice : ℚ) : List Event :=
  [.positionClosed pos pnl b.accountId closePrice,
    .backtestTradeClosed pos.ticket (b.strategyIdByTicket.getD ticket "")
      pos.symbol pos.side pos.volume pos.openPrice closePrice pos.openTime
      b.simTime pnl]

def closeFully (b : SimBroker σ) (cfg : SimConfig σ) (ticket : Ticket)
    (pos : Position) (mid : ℚ) : Call σ OrderResult :=
  let price := b.closePriceFor cfg pos mid
  let settled := b.settle cfg pos pos.volume price.1
  { broker := b.removePosition settled price.2 ticket
    events := b.closeEvents ticket pos settled.1.pnl price.1
    outcome := .ok ⟨true, some ticket, .filled, none, none⟩ }

def closePartly (b : SimBroker σ) (cfg : SimConfig σ) (ticket : Ticket)
    (pos : Position) (mid chunk : ℚ) (smaller : chunk < pos.volume) :
    Call σ OrderResult :=
  let price := b.closePriceFor cfg pos mid
  let settled := b.settle cfg pos chunk price.1
  let remaining := remainder pos chunk smaller
  let shrunk := b.shrinkPosition settled price.2 ticket remaining
  if 0 < chunk then
    { broker := shrunk
      events :=
        [.partialClosed remaining chunk settled.1.pnl b.accountId price.1]
      outcome := .ok ⟨true, some ticket, .partiallyFilled, none, none⟩ }
  else
    -- the event refuses the quantity after the books have moved
    shrunk.raises .partialClosedVolume

/-- Close a position, or a chunk of it when `volume` is smaller. -/
def closePosition (b : SimBroker σ) (cfg : SimConfig σ) (ticket : Ticket)
    (volume : Option ℚ) : Call σ OrderResult :=
  match b.positions.get? ticket with
  | none => b.returns (.refused .notFound)
  | some pos =>
      match b.lastPrice.get? pos.symbol with
      | none => b.returns (.refused .noMarketPrice)
      | some mid =>
          match volume with
          | none => b.closeFully cfg ticket pos mid
          | some chunk =>
              if smaller : chunk < pos.volume then
                b.closePartly cfg ticket pos mid chunk smaller
              else b.closeFully cfg ticket pos mid

def cancelOrder (b : SimBroker σ) (ticket : Ticket) : Call σ OrderResult :=
  match b.pending.get? ticket with
  | none => b.returns (.refused .noPendingOrder)
  | some pending =>
      let cancelled := { pending with status := .cancelled }
      { broker := { b with pending := b.pending.erase ticket }
        events := [.orderCancelled cancelled]
        outcome := .ok ⟨true, some ticket, .cancelled, none, some cancelled⟩ }

/-! ### Queries -/

def getPositions (b : SimBroker σ) : List Position := b.positions.values

def getOpenOrders (b : SimBroker σ) : List Order := b.pending.values

/-- Stop-loss and take-profit of one position against the prices that would
close it: `worst` for the stop, `best` for the target. -/
def stopReached (pos : Position) (high low : ℚ) : Bool :=
  match pos.side, pos.sl with
  | _, none => false
  | .buy, some sl => decide (low ≤ sl)
  | .sell, some sl => decide (sl ≤ high)

def targetReached (pos : Position) (high low : ℚ) : Bool :=
  match pos.side, pos.tp with
  | _, none => false
  | .buy, some tp => decide (tp ≤ high)
  | .sell, some tp => decide (low ≤ tp)

/-- Positions whose stop or target the bar's range reaches. -/
def checkSlTp (b : SimBroker σ) (symbol : Symbol) (barHigh barLow : ℚ) :
    List Position :=
  b.positions.values.filter fun pos =>
    decide (pos.symbol = symbol) &&
      (stopReached pos barHigh barLow || targetReached pos barHigh barLow)

/-- The quote side at which a position is left: the bid for a long one. -/
def exitQuote (pos : Position) (bid ask : ℚ) : ℚ :=
  match pos.side with
  | .buy => bid
  | .sell => ask

/-- Positions whose stop or target the current quote reaches. -/
def checkSlTpTick (b : SimBroker σ) (symbol : Symbol) (bid ask : ℚ) :
    List Position :=
  b.positions.values.filter fun pos =>
    let quote := exitQuote pos bid ask
    decide (pos.symbol = symbol) &&
      (stopReached pos quote quote || targetReached pos quote quote)

/-- Unrealized profit of one position at the last price of its symbol. -/
def unrealizedOf (b : SimBroker σ) (cfg : SimConfig σ) (pos : Position) : ℚ :=
  match b.lastPrice.get? pos.symbol with
  | none => 0
  | some mid =>
      (mid - pos.openPrice) * pos.side.sign * pos.volume *
        cfg.contractSizeFor pos.symbol

def getAccountSnapshot (b : SimBroker σ) (cfg : SimConfig σ) :
    AccountSnapshot :=
  let unrealized := (b.positions.values.map (b.unrealizedOf cfg)).sum
  { accountId := "sim"
    time := b.simTime
    balance := b.balance
    equity := b.balance + unrealized
    freeMargin := b.balance + unrealized
    marginLevel := 0 }

end SimBroker

/-- Python's `round` to the nearest integer, ties to the even one. -/
def roundHalfEven (x : ℚ) : Int :=
  let low := ⌊x⌋
  let rest := x - low
  if rest < 1 / 2 then low
  else if 1 / 2 < rest then low + 1
  else if low % 2 = 0 then low
  else low + 1

namespace SimBroker

/-- Spread in points of the last quote, zero before the first one. -/
def currentSpread (b : SimBroker σ) (cfg : SimConfig σ) (symbol : Symbol) :
    Int :=
  match b.lastBid.get? symbol, b.lastAsk.get? symbol with
  | some bid, some ask => max 0 (roundHalfEven ((ask - bid) / cfg.point))
  | _, _ => 0

def getSymbolInfo (b : SimBroker σ) (cfg : SimConfig σ) (symbol : Symbol) :
    Except BrokerError SymbolInfo :=
  if contractSize_pos : 0 < cfg.contractSizeFor symbol then
    .ok
      { symbol := symbol
        contractSize := cfg.contractSizeFor symbol
        volumeMin := 1 / 100
        volumeMax := 100
        volumeStep := 1 / 100
        spread := b.currentSpread cfg symbol
        contractSize_pos := contractSize_pos
        volumeMin_pos := by norm_num
        volumeMax_pos := by norm_num
        volumeStep_pos := by norm_num }
  else .error .symbolInfoContractSize

end SimBroker

/-! ### Runs -/

/-- One operation on the broker. -/
inductive BrokerOp where
  | setMarket (symbol : Symbol) (price : ℚ)
  | setMarketTick (symbol : Symbol) (bid ask : ℚ)
  | advanceClock (t : Time)
  | placeOrder (req : OrderRequest)
  | checkPending (symbol : Symbol) (bid ask : ℚ)
  | checkPendingBar (symbol : Symbol) (barHigh barLow : ℚ)
  | modifyOrder (ticket : Ticket) (changes : OrderChanges)
  | closePosition (ticket : Ticket) (volume : Option ℚ)
  | cancelOrder (ticket : Ticket)

/-- Only a placement issues tickets. -/
def BrokerOp.places : BrokerOp → Bool
  | .placeOrder _ => true
  | _ => false

namespace SimBroker

/-- The state an operation leaves and the events it publishes, whether it
returns, refuses or raises. -/
def perform (cfg : SimConfig σ) (b : SimBroker σ) :
    BrokerOp → SimBroker σ × List Event
  | .setMarket symbol price => (b.setMarket symbol price, [])
  | .setMarketTick symbol bid ask => (b.setMarketTick symbol bid ask, [])
  | .advanceClock t => (b.advanceClock t, [])
  | .placeOrder req =>
      let call := b.placeOrder cfg req
      (call.broker, call.events)
  | .checkPending symbol bid ask =>
      let call := b.checkPending cfg symbol bid ask
      (call.broker, call.events)
  | .checkPendingBar symbol barHigh barLow =>
      let call := b.checkPendingBar cfg symbol barHigh barLow
      (call.broker, call.events)
  | .modifyOrder ticket changes =>
      let call := b.modifyOrder ticket changes
      (call.broker, call.events)
  | .closePosition ticket volume =>
      let call := b.closePosition cfg ticket volume
      (call.broker, call.events)
  | .cancelOrder ticket =>
      let call := b.cancelOrder ticket
      (call.broker, call.events)

/-- The state after a finite run of operations. -/
def run (cfg : SimConfig σ) (b : SimBroker σ) (ops : List BrokerOp) :
    SimBroker σ :=
  ops.foldl (fun broker op => (perform cfg broker op).1) b

end SimBroker

end StingerFx
