/-
Module: StingerFx.Strategies.Examples.SessionScalper
Layer: Strategies
Purpose: What the three session strategies share: the book of a session, with its
  trades, its cooldown and the bar at which each position was filled, and the test of
  a setup's reward against its risk. A session strategy is one whose hooks keep such
  a book: they close what it holds too long, and they send an order only where the
  book and the positions let them.
Trusted boundary: human-reviewed model of what the source's three session strategies
  have in common
Main exports: ScalperCadence, SessionBook, SessionBook.nextBar,
  SessionBook.timeExits, SessionBook.mayEnter, ScalperScene, ScalperEntry,
  ScalperTurn, rrOk, SessionScalper
-/
import StingerFx.Strategies.Aggregation
import StingerFx.Strategies.Context
import StingerFx.Strategies.Indicators.Channels
import StingerFx.Strategies.Indicators.Wilder
import StingerFx.Strategies.Managers.Stops

namespace StingerFx

open Lib Time

/-- The parameters that the three have in common, within the bounds that validation
checks. -/
structure ScalperCadence where
  symbol : Symbol
  entryTimeframe : Timeframe
  structureTimeframe : Timeframe
  sessionStartHourUtc : Fin 24
  sessionEndHourUtc : Nat
  volume : ℚ
  maxHoldBars : Nat
  cooldownBars : Nat
  maxTradesPerSession : Nat
  sessionEnd_bounds : 1 ≤ sessionEndHourUtc ∧ sessionEndHourUtc ≤ 24
  cadence_bounds : 0 < volume ∧ 1 ≤ maxHoldBars ∧ 1 ≤ maxTradesPerSession
deriving Repr

/-! The defaults that two of them have in common are within their bounds. -/

theorem sixteen_sessionEnd : 1 ≤ 16 ∧ 16 ≤ 24 := by decide

theorem fourteen_atrPeriod : 5 ≤ 14 ∧ 14 ≤ 50 := by decide

/-- A bar of the entry feed; the hooks ignore all others. -/
def ScalperCadence.isEntry (cadence : ScalperCadence) (bar : Bar) : Bool :=
  decide (bar.symbol = cadence.symbol ∧ bar.timeframe = cadence.entryTimeframe)

/-- `_session_start`. -/
def sessionStart (now : Time) (sessionStartHourUtc : Fin 24) : Time :=
  anchoredDayStart now sessionStartHourUtc

/-- `_in_session`; a session that ends at 24 lasts until midnight. -/
def ScalperCadence.inSession (cadence : ScalperCadence) (now : Time) : Bool :=
  decide ((cadence.sessionStartHourUtc.val : Int) ≤ hour now ∧
    hour now < cadence.sessionEndHourUtc)

/-- What a strategy counts. -/
structure SessionBook where
  lastCloseBarIndex : Option Nat
  tradesThisSession : Nat
  /-- the day on which the session began -/
  sessionKey : Option Int
  /-- the entry bar at which the position of a ticket was filled -/
  entryBarByTicket : Dict Ticket Nat
  /-- the entry bars so far -/
  barIndex : Nat

namespace SessionBook

def create : SessionBook := ⟨none, 0, none, .empty, 0⟩

variable (book : SessionBook) (cadence : ScalperCadence)

/-- `_maybe_roll_session`. -/
def rollSession (now : Time) : SessionBook :=
  let key := date (sessionStart now cadence.sessionStartHourUtc)
  if book.sessionKey = some key then book
  else { book with sessionKey := some key, tradesThisSession := 0 }

/-- The book at the next entry bar. -/
def nextBar (now : Time) : SessionBook :=
  { book with barIndex := book.barIndex + 1 }.rollSession cadence now

/-- `_maybe_time_exit`: the requests it sends. -/
def timeExits (ctx : StrategyContext) (reason : String) : List ClosePositionRequest :=
  (book.entryBarByTicket.items.filter fun held =>
    decide (held.2 + cadence.maxHoldBars ≤ book.barIndex)).map fun held =>
      ctx.close held.1 reason

/-- `_on_cooldown`. -/
def onCooldown : Bool :=
  book.lastCloseBarIndex.any fun last =>
    decide (book.barIndex < last + cadence.cooldownBars)

/-- The cap of the session, the cooldown, and no position on the symbol. -/
def mayEnter (positions : List Position) : Bool :=
  decide (book.tradesThisSession < cadence.maxTradesPerSession) &&
    !book.onCooldown cadence && (forSymbol positions cadence.symbol).isEmpty

def onOrderFilled (ctx : StrategyContext) (order : Order) : SessionBook :=
  if order.strategyId = ctx.strategyId ∧ order.ticket ≠ 0 then
    { book with
      entryBarByTicket := book.entryBarByTicket.set order.ticket book.barIndex }
  else book

def onPositionClosed (position : Position) : SessionBook :=
  { book with
    entryBarByTicket := book.entryBarByTicket.erase position.ticket
    lastCloseBarIndex := some book.barIndex
    tradesThisSession := book.tradesThisSession + 1 }

end SessionBook

/-- What a hook sees. -/
structure ScalperScene where
  ctx : StrategyContext
  /-- `ctx.position.all()` -/
  positions : List Position
  /-- the same, once the hook has sent its first order -/
  positionsLater : List Position
  /-- the bars of `ctx.history_for(params.symbol, timeframe)` -/
  history : Timeframe → Option (List Bar)

/-- An order that a hook sends, and the manager that it attaches before. -/
structure ScalperEntry where
  signal : Signal
  trailing : Option TrailingStopManager

/-- Why a hook raises. -/
inductive ScalperError where
  | indicator (error : IndicatorError)
  | manager (error : StopManagerError)
deriving Repr, DecidableEq

/-- What `on_bar` leaves behind: the strategy, the closes that it asks for, and the
orders that it sends, unless it raises before the first of them. -/
structure ScalperTurn (σ : Type) where
  strategy : σ
  closes : List ClosePositionRequest
  entries : Except ScalperError (List ScalperEntry)

/-- The orders that are sent. -/
def ScalperTurn.sent {σ : Type} (turn : ScalperTurn σ) : List ScalperEntry :=
  match turn.entries with
  | .ok entries => entries
  | .error _ => []

/-- A hook that does nothing. -/
def ScalperTurn.idle {σ : Type} (strategy : σ) : ScalperTurn σ :=
  ⟨strategy, [], .ok []⟩

/-- An indicator of a hook. -/
def indicated {α : Type} (value : Except IndicatorError α) : Except ScalperError α :=
  value.mapError .indicator

/-- `_rr_ok`: without a target there is no reward. -/
def rrOk (entry sl : ℚ) (tp : Option ℚ) (side : Side) (minRr : ℚ) : Bool :=
  match tp with
  | none => false
  | some tp =>
      let risk := |sl - entry|
      let reward :=
        match side with
        | .buy => tp - entry
        | .sell => entry - tp
      if risk ≤ 0 ∨ reward ≤ 0 then false else decide (minRr ≤ reward / risk)

/-- A target at a multiple of the risk; without a risk there is none. -/
def riskTarget (entry sl : ℚ) (side : Side) (takeProfitR : ℚ) : Option ℚ :=
  let risk := |sl - entry|
  if risk ≤ 0 then none
  else
    match side with
    | .buy => some (entry + takeProfitR * risk)
    | .sell => some (entry - takeProfitR * risk)

/-- The trailing manager of an entry, with its distances in multiples of the average
true range. -/
structure TrailingAtr where
  distanceAtr : ℚ
  activateAtr : ℚ
  point : ℚ
  trailing_bounds : 0 < distanceAtr ∧ 0 ≤ activateAtr ∧ 0 < point
deriving Repr

def TrailingAtr.manager (trailing : TrailingAtr) (symbol : Symbol) (atrValue : ℚ) :
    Except ScalperError TrailingStopManager :=
  (TrailingStopManager.create (trailing.distanceAtr * atrValue / trailing.point)
    (trailing.activateAtr * atrValue / trailing.point) (some symbol)
      trailing.point).mapError .manager

/-- The order of an entry on a side, at the market. -/
def StrategyContext.enter (ctx : StrategyContext) (side : Side) (volume sl : ℚ)
    (tp : Option ℚ) (comment : String) : Signal :=
  match side with
  | .buy => ctx.buy volume (some sl) tp comment
  | .sell => ctx.sell volume (some sl) tp comment

@[simp] theorem StrategyContext.enter_symbol (ctx : StrategyContext) (side : Side)
    (volume sl : ℚ) (tp : Option ℚ) (comment : String) :
    (ctx.enter side volume sl tp comment).symbol = ctx.symbol := by
  cases side <;> rfl

/-- A strategy whose hooks keep a session book. -/
structure SessionScalper where
  State : Type
  cadence : ScalperCadence
  /-- why its time exits close -/
  exitReason : String
  start : State
  book : State → SessionBook
  onBar : ScalperScene → Bar → State → ScalperTurn State
  onOrderFilled : StrategyContext → Order → State → State
  onPositionClosed : Position → State → State
  book_start : book start = .create
  book_onOrderFilled : ∀ ctx order state,
    book (onOrderFilled ctx order state) = (book state).onOrderFilled ctx order
  book_onPositionClosed : ∀ position state,
    book (onPositionClosed position state) = (book state).onPositionClosed position
  onBar_other : ∀ scene bar state, cadence.isEntry bar = false →
    onBar scene bar state = .idle state
  book_onBar : ∀ scene bar state, cadence.isEntry bar = true →
    book (onBar scene bar state).strategy = (book state).nextBar cadence bar.time
  closes_onBar : ∀ scene bar state, cadence.isEntry bar = true →
    (onBar scene bar state).closes =
      ((book state).nextBar cadence bar.time).timeExits cadence scene.ctx exitReason
  mayEnter_onBar : ∀ scene bar state, (onBar scene bar state).sent ≠ [] →
    ((book state).nextBar cadence bar.time).mayEnter cadence scene.positions = true
  symbol_onBar : ∀ scene bar state, ∀ entry ∈ (onBar scene bar state).sent,
    entry.signal.symbol = scene.ctx.symbol

end StingerFx
