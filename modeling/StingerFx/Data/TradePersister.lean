/-
Module: StingerFx.Data.TradePersister
Layer: Data
Purpose: The writer of the trades table: one row for each close and for each
  partial close. A database error is logged and leaves the table as it is. A restart
  sums the rows since midnight.
Trusted boundary: human-reviewed model of the source's trade persister and of
  `TradeRepo.realized_since`
Main exports: TradeRow, strategyForMagic, TradePersister.onClosed,
  TradePersister.onPartialClosed, TradeEvent, TradePersister.handle,
  TradeRepo.realizedSince
-/
import StingerFx.Core.Events
import StingerFx.Lib.Dict

namespace StingerFx

open Lib

structure TradeRow where
  positionId : Ticket
  strategyId : StrategyId
  symbol : Symbol
  side : Side
  openTs : Time
  closeTs : Time
  openPrice : ℚ
  closePrice : ℚ
  volume : ℚ
  pnl : ℚ
  fees : ℚ
  swap : ℚ
deriving Repr, DecidableEq

/-- The strategy behind a magic number; of two with the same number the one that
was configured last. -/
def strategyForMagic (strategyMagic : Dict StrategyId Int) (magic : Int) :
    Option StrategyId :=
  (strategyMagic.items.reverse.find? fun entry =>
    decide (entry.2 = magic)).map Prod.fst

namespace TradePersister

/-- The row of a closed chunk; the open price stands in for a missing close
price. -/
def row (strategyMagic : Dict StrategyId Int) (now : Time) (pos : Position)
    (volume realizedPnl : ℚ) (closePrice : Option ℚ) : TradeRow where
  positionId := pos.ticket
  strategyId := (strategyForMagic strategyMagic pos.magic).getD ""
  symbol := pos.symbol
  side := pos.side
  openTs := pos.openTime
  closeTs := now
  openPrice := pos.openPrice
  closePrice := closePrice.getD pos.openPrice
  volume := volume
  pnl := realizedPnl
  fees := 0
  swap := 0

/-- Add a row unless the database refuses it. -/
def add (trades : List TradeRow) (stored : Bool) (new : TradeRow) :
    List TradeRow :=
  if stored then trades ++ [new] else trades

def onClosed (strategyMagic : Dict StrategyId Int) (now : Time) (stored : Bool)
    (pos : Position) (realizedPnl : ℚ) (closePrice : Option ℚ)
    (trades : List TradeRow) : List TradeRow :=
  add trades stored
    (row strategyMagic now pos pos.volume realizedPnl closePrice)

def onPartialClosed (strategyMagic : Dict StrategyId Int) (now : Time)
    (stored : Bool) (pos : Position) (closedVolume realizedPnl : ℚ)
    (closePrice : Option ℚ) (trades : List TradeRow) : List TradeRow :=
  add trades stored
    (row strategyMagic now pos closedVolume realizedPnl closePrice)

end TradePersister

/-- A close or a partial close, as the bus carries it. -/
inductive TradeEvent where
  | closed (position : Position) (realizedPnl : ℚ) (closePrice : Option ℚ)
      (accountId : AccountId)
  | partialClosed (position : Position) (closedVolume realizedPnl : ℚ)
      (closePrice : Option ℚ)
deriving Repr, DecidableEq

namespace TradePersister

/-- One delivery of the two subscriptions; the write succeeds. -/
def handle (strategyMagic : Dict StrategyId Int) (trades : List TradeRow)
    (now : Time) : TradeEvent → List TradeRow
  | .closed position realizedPnl closePrice _ =>
      onClosed strategyMagic now true position realizedPnl closePrice trades
  | .partialClosed position closedVolume realizedPnl closePrice =>
      onPartialClosed strategyMagic now true position closedVolume realizedPnl
        closePrice trades

end TradePersister

namespace TradeRepo

/-- The loop body of `realized_since`. -/
def addRow (sums : ℚ × Dict Symbol ℚ) (row : TradeRow) : ℚ × Dict Symbol ℚ :=
  (sums.1 + row.pnl, sums.2.set row.symbol (sums.2.getD row.symbol 0 + row.pnl))

/-- `realized_since`: total and per-symbol profit of the trades closed at an instant
or after it. -/
def realizedSince (since : Time) (trades : List TradeRow) : ℚ × Dict Symbol ℚ :=
  (trades.filter fun row => decide (since ≤ row.closeTs)).foldl addRow (0, .empty)

end TradeRepo

end StingerFx
