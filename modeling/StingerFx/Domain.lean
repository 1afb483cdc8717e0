/-
Module: StingerFx.Domain
Layer: Domain
Purpose: The records the engine passes around: sides, orders, positions, bars,
  ticks, signals, account snapshots and symbol data. Prices, volumes and money
  are exact rationals, instants are microseconds since the epoch (UTC). What the
  source validates when a record is built is a field of the structure here.
Trusted boundary: human-reviewed model of the source's domain package
Main exports: Side, OrderRequest, Order, OrderResult, Position, Bar, Tick,
  Timeframe, Signal, AccountSnapshot, SymbolInfo
-/
import Mathlib

namespace StingerFx

abbrev Symbol := String
abbrev StrategyId := String
abbrev AccountId := String
abbrev ClientOrderId := String
/-- Broker order and position ids. -/
abbrev Ticket := Int
/-- Microseconds since the epoch, UTC. -/
abbrev Time := Int

namespace Time

def usPerSecond : Int := 1000000
def usPerMinute : Int := 60 * usPerSecond
def usPerHour : Int := 3600 * usPerSecond
def usPerDay : Int := 24 * usPerHour

/-- The calendar day of an instant, `datetime.date()`. -/
def date (t : Time) : Int := t / usPerDay

/-- The hour of the day of an instant, `datetime.hour`. -/
def hour (t : Time) : Int := t % usPerDay / usPerHour

/-- `t.replace(hour=hour, minute=0, second=0, microsecond=0)`. -/
def atHour (t : Time) (hour : Nat) : Time :=
  date t * usPerDay + hour * usPerHour

end Time

/-! Prices and volumes of worked examples. -/

theorem one_quote_pos : (0 : ℚ) < 1 := by decide

theorem two_quote_pos : (0 : ℚ) < 2 := by decide

inductive Side where
  | buy
  | sell
deriving Repr, DecidableEq, Inhabited

/-- `+1` for a buy, `-1` for a sell. -/
def Side.sign : Side → ℚ
  | .buy => 1
  | .sell => -1

inductive OrderType where
  | market
  | limit
  | stop
  | stopLimit
deriving Repr, DecidableEq, Inhabited

def OrderType.value : OrderType → String
  | .market => "market"
  | .limit => "limit"
  | .stop => "stop"
  | .stopLimit => "stop_limit"

inductive OrderStatus where
  | pending
  | submitted
  | partiallyFilled
  | filled
  | cancelled
  | rejected
  | expired
deriving Repr, DecidableEq, Inhabited

/-- A strategy's intent to place an order. -/
structure OrderRequest where
  strategyId : StrategyId
  symbol : Symbol
  side : Side
  type : OrderType
  volume : ℚ
  price : Option ℚ
  sl : Option ℚ
  tp : Option ℚ
  comment : String
  magic : Int
  clientOrderId : ClientOrderId
  volume_pos : 0 < volume
deriving Repr, DecidableEq

/-- An order as tracked after submission. -/
structure Order where
  ticket : Ticket
  strategyId : StrategyId
  symbol : Symbol
  side : Side
  type : OrderType
  volume : ℚ
  filledVolume : ℚ
  price : Option ℚ
  fillPrice : Option ℚ
  sl : Option ℚ
  tp : Option ℚ
  status : OrderStatus
  comment : String
  magic : Int
  clientOrderId : ClientOrderId
  requestedAt : Option Time
  filledAt : Option Time
  volume_pos : 0 < volume
deriving Repr, DecidableEq

/-- Why a broker call was refused. -/
inductive RejectMessage where
  | noMarketPriceFor (symbol : Symbol)
  | orderRequiresPrice (type : OrderType)
  | modifyPendingVolume (volume : ℚ)
  | notFound
  | noMarketPrice
  | noPendingOrder
  | duplicateClientOrderId (prevStatus : String)
  | broker (text : String)
deriving Repr, DecidableEq

/-- The text of a refusal, given the rendering of numbers. -/
def RejectMessage.text (number : ℚ → String) : RejectMessage → String
  | .noMarketPriceFor symbol => s!"no market price for {symbol}"
  | .orderRequiresPrice type => type.value ++ " order requires a price"
  | .modifyPendingVolume volume =>
      "modify pending volume must be > 0 (got " ++ number volume ++ ")"
  | .notFound => "not found"
  | .noMarketPrice => "no market price"
  | .noPendingOrder => "no pending order with that ticket"
  | .duplicateClientOrderId prevStatus =>
      s!"duplicate client_order_id (prev_status={prevStatus})"
  | .broker text => text

/-- Outcome of a place, modify, close or cancel call. -/
structure OrderResult where
  ok : Bool
  ticket : Option Ticket
  status : OrderStatus
  message : Option RejectMessage
  order : Option Order
deriving Repr, DecidableEq

def OrderResult.refused (message : RejectMessage) : OrderResult :=
  ⟨false, none, .rejected, some message, none⟩

/-- An open position at the broker. -/
structure Position where
  ticket : Ticket
  symbol : Symbol
  side : Side
  volume : ℚ
  openPrice : ℚ
  openTime : Time
  sl : Option ℚ
  tp : Option ℚ
  comment : String
  magic : Int
  volume_pos : 0 < volume
  openPrice_pos : 0 < openPrice
deriving Repr, DecidableEq

inductive Timeframe where
  | tick
  | m1
  | m2
  | m3
  | m5
  | m10
  | m15
  | m30
  | m45
  | h1
  | h2
  | h4
  | d1
  | w1
  | mn1
deriving Repr, DecidableEq, Inhabited

/-- Bar duration in seconds; `none` where the source raises. -/
def Timeframe.seconds : Timeframe → Option Nat
  | .tick => none
  | .m1 => some 60
  | .m2 => some 120
  | .m3 => some 180
  | .m5 => some 300
  | .m10 => some 600
  | .m15 => some 900
  | .m30 => some 1800
  | .m45 => some 2700
  | .h1 => some 3600
  | .h2 => some 7200
  | .h4 => some 14400
  | .d1 => some 86400
  | .w1 => some 604800
  | .mn1 => some (30 * 86400)

/-- A feed of bars that a strategy declares. -/
structure Subscription where
  symbol : Symbol
  timeframe : Timeframe
deriving Repr, DecidableEq

/-- A closed OHLC bar; `time` is the instant at which it opens. -/
structure Bar where
  symbol : Symbol
  timeframe : Timeframe
  time : Time
  openPrice : ℚ
  high : ℚ
  low : ℚ
  close : ℚ
  tickVolume : Nat
  low_pos : 0 < low
  low_le_open : low ≤ openPrice
  open_le_high : openPrice ≤ high
  low_le_close : low ≤ close
  close_le_high : close ≤ high
deriving Repr, DecidableEq

/-- A single market price observation. -/
structure Tick where
  symbol : Symbol
  time : Time
  bid : ℚ
  ask : ℚ
  bid_pos : 0 < bid
  ask_pos : 0 < ask
deriving Repr, DecidableEq

/-- A strategy's recommendation, before it is an order. -/
structure Signal where
  strategyId : StrategyId
  time : Time
  symbol : Symbol
  side : Side
  suggestedVolume : Option ℚ
  suggestedSl : Option ℚ
  suggestedTp : Option ℚ
  orderType : OrderType
  suggestedPrice : Option ℚ
  entryRefPrice : Option ℚ
  comment : String
deriving Repr, DecidableEq

/-- Point-in-time account figures. -/
structure AccountSnapshot where
  accountId : AccountId
  time : Time
  balance : ℚ
  equity : ℚ
  freeMargin : ℚ
  marginLevel : ℚ
deriving Repr, DecidableEq

/-- Broker-provided metadata of a tradable symbol. -/
structure SymbolInfo where
  symbol : Symbol
  contractSize : ℚ
  volumeMin : ℚ
  volumeMax : ℚ
  volumeStep : ℚ
  spread : Int
  contractSize_pos : 0 < contractSize
  volumeMin_pos : 0 < volumeMin
  volumeMax_pos : 0 < volumeMax
  volumeStep_pos : 0 < volumeStep
deriving Repr, DecidableEq

/-- Python's `a or b` on an optional number: zero counts as missing. -/
def truthy (value : Option ℚ) : Option ℚ :=
  value.filter (fun x => decide (x ≠ 0))

end StingerFx
