/-
Module: StingerFx.Brokers.Mt5Orders
Layer: Brokers
Purpose: The order side of the MT5 broker: what its calls make of the terminal's
  answers. A new order is sent up to three times while the answer is one that may
  pass. An accepted closing deal is a full close when it covers the volume that was
  read before the deal was sent, and its result is taken from the account's history
  of deals where that has it.
Trusted boundary: human-reviewed model of the source's MT5 broker; what the terminal
  answers is data, and the fields of a request that nothing reads are left out
Main exports: Quote, TradeResult, Mt5Account, Placement, placeAnswered, CloseDeal,
  CloseDeal.event, cancelledOrder
-/
import StingerFx.Core.Events

namespace StingerFx

/-- `symbol_info_tick`, as far as orders read it. -/
structure Quote where
  bid : ℚ
  ask : ℚ
deriving Repr, DecidableEq

def Quote.entryPrice (quote : Quote) : Side → ℚ
  | .buy => quote.ask
  | .sell => quote.bid

/-- A position is closed by a deal on the other side. -/
def Quote.closePrice (quote : Quote) : Side → ℚ
  | .buy => quote.bid
  | .sell => quote.ask

/-- What `order_send` returns. -/
structure TradeResult where
  retcode : Int
  order : Ticket
  deal : Int
  volume : ℚ
  price : ℚ
  comment : String
deriving Repr, DecidableEq

/-- The account at the server. -/
structure Mt5Account where
  positions : List Position
  /-- the resting orders -/
  orders : List Order
deriving Repr, DecidableEq

def retcodeDone : Int := 10009
def retcodePlaced : Int := 10008
def retcodeDonePartial : Int := 10010

def retryableRetcodes : List Int := [10004, 10006, 10021, 10024]

def orderMaxRetries : Nat := 3

/-! ### Placing -/

/-- The status of an order that was accepted. -/
def acceptedStatus (retcode : Int) : Option OrderStatus :=
  if retcode = retcodeDone then some .filled
  else if retcode = retcodePlaced then some .submitted
  else if retcode = retcodeDonePartial then some .partiallyFilled
  else none

/-- A status with which an order counts as filled. -/
def OrderStatus.isFilled (status : OrderStatus) : Bool :=
  status = .filled || status = .partiallyFilled

/-- The order behind an accepted answer; `price` is that of the first attempt. -/
def acceptedOrder (req : OrderRequest) (price : ℚ) (now : Time) (result : TradeResult)
    (status : OrderStatus) : Order where
  ticket := result.order
  strategyId := req.strategyId
  symbol := req.symbol
  side := req.side
  type := req.type
  volume := req.volume
  filledVolume := if status.isFilled then result.volume else 0
  price := some price
  fillPrice :=
    if status.isFilled then some ((truthy (some result.price)).getD price) else none
  sl := req.sl
  tp := req.tp
  status := status
  comment := req.comment
  magic := req.magic
  clientOrderId := req.clientOrderId
  requestedAt := some now
  filledAt := if status.isFilled then some now else none
  volume_pos := req.volume_pos

/-- What `place_order` does after an `order_send`. -/
inductive Placement where
  /-- another attempt, after a pause -/
  | again
  | over (result : OrderResult)
deriving Repr, DecidableEq

/-- An answer, or none from a terminal that does not work, to an attempt; the
attempts are counted from zero. -/
def placeAnswered (req : OrderRequest) (price : ℚ) (attempt : Nat) (now : Time)
    (lastError : String) : Option TradeResult → Placement
  | none =>
      .over (.refused (.broker
        s!"order_send() returned None after {attempt + 1} attempt(s): {lastError}"))
  | some result =>
      match acceptedStatus result.retcode with
      | some status =>
          .over
            { ok := true
              ticket := some result.order
              status := status
              message := some (.broker result.comment)
              order := some (acceptedOrder req price now result status) }
      | none =>
          if result.retcode ∈ retryableRetcodes ∧ attempt + 1 < orderMaxRetries then .again
          else .over (.refused (.broker result.comment))

def noQuoteToPlace : OrderResult :=
  .refused (.broker "no current tick — cannot price market order")

/-! ### Closing -/

/-- `volume or pos_volume`. -/
def closeVolume (raw : Position) (volume : Option ℚ) : ℚ :=
  (truthy volume).getD raw.volume

def closeAccepted (result : TradeResult) : Bool :=
  result.retcode = retcodeDone || result.retcode = retcodeDonePartial

/-- An accepted closing deal on its way to its event; `raw` is the position as it was
read before the deal was sent. -/
structure CloseDeal where
  raw : Position
  fillPrice : ℚ
  filledChunk : ℚ
  deal : Int
  order : Ticket
deriving DecidableEq

/-- A row of the account's history. -/
structure HistoryDeal where
  profit : ℚ
  commission : ℚ
  swap : ℚ
  fee : ℚ
deriving Repr, DecidableEq

def HistoryDeal.net (deal : HistoryDeal) : ℚ :=
  deal.profit + deal.commission + deal.swap + deal.fee

namespace CloseDeal

def create (raw : Position) (price volume : ℚ) (result : TradeResult) : CloseDeal where
  raw := raw
  fillPrice := (truthy (some result.price)).getD price
  filledChunk := (truthy (some result.volume)).getD volume
  deal := result.deal
  order := result.order

/-- The deal covers the volume that was read, up to `1e-9`. -/
def FullClose (deal : CloseDeal) : Prop :=
  deal.raw.volume - 1 / 10 ^ 9 ≤ deal.filledChunk

instance (deal : CloseDeal) : Decidable deal.FullClose :=
  inferInstanceAs (Decidable (_ ≤ _))

theorem remaining_pos {deal : CloseDeal} (part : ¬deal.FullClose) :
    0 < max 0 (deal.raw.volume - deal.filledChunk) := by
  have less : deal.filledChunk < deal.raw.volume - 1 / 10 ^ 9 := not_le.mp part
  apply lt_max_of_lt_right
  linarith

/-- `_realized_pnl`, the estimate from prices; without the symbol's data a lot is
100 000 units. -/
def estimatedPnl (deal : CloseDeal) (contractSize : Option ℚ) : ℚ :=
  (deal.fillPrice - deal.raw.openPrice) * deal.raw.side.sign * deal.filledChunk *
    contractSize.getD 100000

/-- `_net_realized_pnl_from_deal`; there are no deals where the call fails or the
history has not caught up. -/
def netRealizedPnl (deal : CloseDeal) (deals : List HistoryDeal) (fallback : ℚ) : ℚ :=
  if deal.deal ≤ 0 ∨ deal.order ≤ 0 ∨ deals = [] then fallback
  else (deals.map HistoryDeal.net).sum

/-- The event of an accepted closing deal. -/
def event (deal : CloseDeal) (accountId : AccountId) (contractSize : Option ℚ)
    (deals : List HistoryDeal) : Event :=
  let realizedPnl := deal.netRealizedPnl deals (deal.estimatedPnl contractSize)
  if part : ¬deal.FullClose then
    .partialClosed
      { deal.raw with
        volume := max 0 (deal.raw.volume - deal.filledChunk)
        volume_pos := remaining_pos part }
      deal.filledChunk realizedPnl accountId deal.fillPrice
  else .positionClosed deal.raw realizedPnl accountId deal.fillPrice

end CloseDeal

/-! ### Cancelling -/

/-- The order in the event of a cancellation; MT5 does not know the strategy. -/
def cancelledOrder (ticket : Ticket) (snapshot : Order) : Order where
  ticket := ticket
  strategyId := ""
  symbol := snapshot.symbol
  side := snapshot.side
  type := snapshot.type
  volume := snapshot.volume
  filledVolume := 0
  price := truthy snapshot.price
  fillPrice := none
  sl := none
  tp := none
  status := .cancelled
  comment := snapshot.comment
  magic := snapshot.magic
  clientOrderId := ""
  requestedAt := none
  filledAt := none
  volume_pos := snapshot.volume_pos

end StingerFx
