/-
Module: StingerFx.Runtime.Mt5Desk
Layer: Runtime
Purpose: The router and the MT5 broker around an account that lives at a server.
  Every call of the terminal is an await, so any number of the bot's calls are in
  flight at once, each at the point where it waits, and between two points the
  account may change in any way: stops, stop-outs, manual trades, resting orders
  that trigger. What an `order_send` does to the account is for the server to say as
  well. Only the bot's own calls publish.
Trusted boundary: human-reviewed model of the source's runtime wiring; signals and
  requests are those of configured strategies, and a signal's order carries the
  magic number of its strategy
Main exports: placedEvents, Mt5Call, Mt5Desk, Mt5DeskLabel, Mt5Desk.boot,
  Mt5Desk.getPositions, Mt5Desk.step?, Mt5Desk.Step
-/
import StingerFx.Brokers.Mt5Orders
import StingerFx.Execution.RequestHandlers
import StingerFx.Lib.Runs

namespace StingerFx

open Lib

/-- A magic number of a configured strategy. -/
def RouterState.Owns (router : RouterState) (magic : Int) : Prop :=
  magic ∈ router.strategyMagic.values

instance (router : RouterState) (magic : Int) : Decidable (router.Owns magic) :=
  inferInstanceAs (Decidable (_ ∈ _))

/-- What broker and router publish for a placement: the broker announces an order
that rests, the router a fill or a refusal. -/
def placedEvents (accountId : AccountId) (req : OrderRequest) (result : OrderResult) :
    List Event :=
  (match result.order with
    | some order => if result.status = .submitted then [.orderSubmitted order] else []
    | none => []) ++ submissionEvents accountId req result

namespace Mt5Account

/-- The tickets of the bot's open positions. -/
def held (account : Mt5Account) (router : RouterState) : Finset Ticket :=
  ((account.positions.filter fun pos => decide (router.Owns pos.magic)).map
    Position.ticket).toFinset

/-- The tickets of the bot's resting orders. -/
def resting (account : Mt5Account) (router : RouterState) : Finset Ticket :=
  ((account.orders.filter fun order => decide (router.Owns order.magic)).map
    Order.ticket).toFinset

end Mt5Account

/-- A call of the bot, at the point where it waits. -/
inductive Mt5Call where
  /-- `place_order` is about to send; the price is that of the first attempt -/
  | placing (req : OrderRequest) (price : ℚ) (attempt : Nat)
  /-- the router has checked a close; `close_position` is about to read -/
  | closing (ticket : Ticket) (volume : Option ℚ)
  | closeSending (raw : Position) (price volume : ℚ)
  /-- the deal was accepted; its result is looked up -/
  | settling (deal : CloseDeal)
  /-- the router has checked a modification, of a position or of a resting order -/
  | modifying (evt : ModifyOrderRequest) (pos : Option Position) (changes : OrderChanges)
  | modifySending (evt : ModifyOrderRequest) (pos : Option Position)
  | rereading (evt : ModifyOrderRequest) (pos : Position)
  | cancelling (ticket : Ticket)
  | cancelSending (ticket : Ticket) (snapshot : Option Order)
  /-- the call's events are about to go out -/
  | telling (events : List Event)

structure Mt5Desk where
  router : RouterState
  accountId : AccountId
  connected : Bool
  /-- the terminal answers; the health check has not always noticed that it does not -/
  answers : Bool
  account : Mt5Account
  /-- the calls in flight -/
  calls : List Mt5Call
  published : List Event
  /-- the tickets of the bot's positions up to now; nothing reads it -/
  opened : Finset Ticket
  /-- the tickets of the bot's resting orders up to now; nothing reads it -/
  rested : Finset Ticket

inductive Mt5DeskLabel where
  /-- the account changes on its own -/
  | server (account : Mt5Account)
  /-- the terminal fails, or works again -/
  | terminal (answers : Bool)
  | disconnect
  | reconnect
  /-- the router places an order -/
  | place (req : OrderRequest) (quote : Option Quote)
  /-- the router takes a request and checks it -/
  | request (request : RouterRequest)
  /-- a call reads the account -/
  | read (index : Nat) (quote : Option Quote)
  /-- a call sends; the terminal's answer, and the account after it -/
  | send (index : Nat) (answer : Option TradeResult) (account : Mt5Account)
      (lastError : String) (now : Time)
  | settle (index : Nat) (contractSize : Option ℚ) (deals : List HistoryDeal)
  | publish (index : Nat)
  /-- a call raises, or its task ends -/
  | abort (index : Nat)

namespace Mt5Desk

def boot (router : RouterState) (accountId : AccountId) (account : Mt5Account) :
    Mt5Desk where
  router := router
  accountId := accountId
  connected := true
  answers := true
  account := account
  calls := []
  published := []
  opened := account.held router
  rested := account.resting router

/-- `positions_get() or []`. -/
def positions (s : Mt5Desk) : List Position :=
  if s.answers then s.account.positions else []

/-- `orders_get() or []`. -/
def orders (s : Mt5Desk) : List Order :=
  if s.answers then s.account.orders else []

/-- `get_positions`; it raises without a connection. -/
def getPositions (s : Mt5Desk) : Option (List Position) :=
  if s.connected then some s.positions else none

def held (s : Mt5Desk) : Finset Ticket := s.account.held s.router

/-- The account is another one now. -/
def observe (s : Mt5Desk) (account : Mt5Account) : Mt5Desk :=
  { s with
    account := account
    opened := s.opened ∪ account.held s.router
    rested := s.rested ∪ account.resting s.router }

def start (s : Mt5Desk) (call : Mt5Call) : Mt5Desk :=
  { s with calls := call :: s.calls }

/-- The call at an index waits at another point. -/
def resume (s : Mt5Desk) (index : Nat) (call : Mt5Call) : Mt5Desk :=
  { s with calls := call :: s.calls.eraseIdx index }

def finish (s : Mt5Desk) (index : Nat) : Mt5Desk :=
  { s with calls := s.calls.eraseIdx index }

/-! ### The start of a call -/

/-- `place_order` up to its first `order_send`. Without a connection it raises, and
nothing is published. -/
def place (s : Mt5Desk) (req : OrderRequest) (quote : Option Quote) : Mt5Desk :=
  if s.connected then
    match req.price, quote with
    | some price, _ => s.start (.placing req price 0)
    | none, some quote => s.start (.placing req (quote.entryPrice req.side) 0)
    | none, none => s.start (.telling (placedEvents s.accountId req noQuoteToPlace))
  else s

/-- The checks of `handle_modify`. -/
def checkModify (s : Mt5Desk) (evt : ModifyOrderRequest) : Mt5Desk :=
  match findOrder s.orders evt.ticket with
  | some pending =>
      if pending.magic ≠ s.router.expectedMagic evt.strategyId then s
      else
        s.start (.modifying evt none
          { sl := evt.sl <|> pending.sl
            tp := evt.tp <|> pending.tp
            price := evt.price <|> pending.price
            volume := some (evt.volume.getD pending.volume) })
  | none =>
      match findPosition s.positions evt.ticket with
      | none => s
      | some pos =>
          if pos.magic ≠ s.router.expectedMagic evt.strategyId then s
          else
            s.start (.modifying evt (some pos)
              { sl := evt.sl <|> pos.sl
                tp := evt.tp <|> pos.tp
                price := none
                volume := none })

/-- The checks of `handle_partial_close`. -/
def checkPartialClose (s : Mt5Desk) (evt : PartialCloseRequest) : Mt5Desk :=
  match findPosition s.positions evt.ticket with
  | none => s
  | some pos =>
      if pos.magic ≠ s.router.expectedMagic evt.strategyId then s
      else if pos.volume ≤ evt.volume then s
      else s.start (.closing evt.ticket (some evt.volume))

/-- The checks of `handle_close`. -/
def checkClose (s : Mt5Desk) (evt : ClosePositionRequest) : Mt5Desk :=
  match findPosition s.positions evt.ticket with
  | none => s
  | some pos =>
      if pos.magic ≠ s.router.expectedMagic evt.strategyId then s
      else s.start (.closing evt.ticket none)

/-- The checks of `handle_cancel`. -/
def checkCancel (s : Mt5Desk) (evt : CancelOrderRequest) : Mt5Desk :=
  match findOrder s.orders evt.ticket with
  | none => s
  | some order =>
      if order.magic ≠ s.router.expectedMagic evt.strategyId then s
      else s.start (.cancelling evt.ticket)

/-- A request reaches the router; without a connection its first read raises. -/
def handle (s : Mt5Desk) (request : RouterRequest) : Mt5Desk :=
  if s.connected then
    match request with
    | .modify evt => s.checkModify evt
    | .partialClose evt => s.checkPartialClose evt
    | .close evt => s.checkClose evt
    | .cancel evt => s.checkCancel evt
  else s

/-! ### A call goes on -/

/-- The reads of a call before it sends, or before it publishes. -/
def readBy (s : Mt5Desk) (index : Nat) (quote : Option Quote) :
    Mt5Call → Option Mt5Desk
  | .closing ticket volume =>
      match findPosition s.positions ticket, quote with
      | some raw, some quote =>
          some (s.resume index
            (.closeSending raw (quote.closePrice raw.side) (closeVolume raw volume)))
      -- no such position, or no quote: rejected, and nothing is published
      | _, _ => some (s.finish index)
  | .modifying evt pos changes =>
      if (findPosition s.positions evt.ticket).isSome ∧
          (changes.price ≠ none ∨ changes.volume ≠ none) then
        some (s.finish index)
      else some (s.resume index (.modifySending evt pos))
  | .rereading evt pos =>
      let updated := (findPosition s.positions evt.ticket).getD pos
      some (s.resume index (.telling [.orderModified updated evt.reason]))
  | .cancelling ticket =>
      some (s.resume index
        (.cancelSending ticket (findOrder s.orders ticket)))
  | _ => none

/-- What a call does with the answer to its `order_send`. -/
def answered (s : Mt5Desk) (index : Nat) (answer : Option TradeResult)
    (lastError : String) (now : Time) : Mt5Call → Option Mt5Desk
  | .placing req price attempt =>
      match placeAnswered req price attempt now lastError answer with
      | .again => some (s.resume index (.placing req price (attempt + 1)))
      | .over result =>
          some (s.resume index (.telling (placedEvents s.accountId req result)))
  | .closeSending raw price volume =>
      match answer.filter closeAccepted with
      | some result =>
          some (s.resume index (.settling (.create raw price volume result)))
      | none => some (s.finish index)
  | .modifySending evt pos =>
      match answer.filter (fun result => decide (result.retcode = retcodeDone)), pos with
      | some _, some pos => some (s.resume index (.rereading evt pos))
      | _, _ => some (s.finish index)
  | .cancelSending ticket snapshot =>
      match answer.filter (fun result => decide (result.retcode = retcodeDone)),
        snapshot with
      | some _, some snapshot =>
          some (s.resume index
            (.telling [.orderCancelled (cancelledOrder ticket snapshot)]))
      | _, _ => some (s.finish index)
  | _ => none

/-- The state after a step, if the step can happen. -/
def step? (s : Mt5Desk) : Mt5DeskLabel → Option Mt5Desk
  | .server account => some (s.observe account)
  | .terminal answers => some { s with answers := answers }
  | .disconnect => some { s with connected := false }
  -- the reconnect replays ticks, and no orders
  | .reconnect => if s.answers then some { s with connected := true } else none
  | .place req quote =>
      if s.router.strategyMagic.get? req.strategyId = some req.magic then
        some (s.place req quote)
      else none
  | .request request =>
      if s.router.strategyMagic.contains request.strategyId then
        some (s.handle request)
      else none
  | .read index quote =>
      match s.calls[index]? with
      | none => none
      | some call => if s.connected then s.readBy index quote call else none
  | .send index answer account lastError now =>
      match s.calls[index]? with
      | none => none
      | some call => (s.observe account).answered index answer lastError now call
  | .settle index contractSize deals =>
      match s.calls[index]? with
      | some (.settling deal) =>
          some (s.resume index
            (.telling [deal.event s.accountId contractSize deals]))
      | _ => none
  | .publish index =>
      match s.calls[index]? with
      | some (.telling events) =>
          some { s.finish index with published := s.published ++ events }
      | _ => none
  | .abort index =>
      if index < s.calls.length then some (s.finish index) else none

def Step : Mt5Desk → Mt5DeskLabel → Mt5Desk → Prop := stepOf? step?

end Mt5Desk

end StingerFx
