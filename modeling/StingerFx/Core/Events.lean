/-
Module: StingerFx.Core.Events
Layer: Core
Purpose: The events that the order flow publishes on the bus, the decisions the
  router records, and the texts of the reasons it gives. Numbers and instants
  inside a text are rendered by a `TextFormat`, the rest of the text is fixed.
Trusted boundary: human-reviewed model of the source's core events
Main exports: TextFormat, FilterReason, RiskReason, DecisionReason, Decision,
  Event
-/
import StingerFx.Domain

namespace StingerFx

/-- Python's rendering of the values that appear inside a message. -/
structure TextFormat where
  number : ℚ → String
  fixed : Nat → ℚ → String
  twoDigits : Int → String
  isoformat : Time → String

/-- Why the pre-trade filter blocks an order. -/
inductive FilterReason where
  | spread (points maxPoints : Int)
  | outsideSession (start stop hour : Int)
  | rollover (blockMinutes : Nat) (hour : Nat) (minutes : ℚ)
  | newsBlackout (start stop : Time)
deriving Repr, DecidableEq

def FilterReason.text (f : TextFormat) : FilterReason → String
  | .spread points maxPoints =>
      s!"spread {points} > max {maxPoints} points"
  | .outsideSession start stop hour =>
      "outside session " ++ f.twoDigits start ++ ":00-" ++ f.twoDigits stop ++
        ":00 UTC (now " ++ f.twoDigits hour ++ ":00)"
  | .rollover blockMinutes hour minutes =>
      s!"within {blockMinutes}min of " ++ f.twoDigits hour ++ ":00 rollover (" ++
        f.fixed 1 minutes ++ "min away)"
  | .newsBlackout start stop =>
      "news blackout " ++ f.isoformat start ++ "-" ++ f.isoformat stop

/-- Why the risk monitor rejects a signal. -/
inductive RiskReason where
  | killSwitchTripped
  | profitLockTripped
  | maxOpenPositionsPerStrategy (cap : Int) (strategyId : StrategyId) (openN : Int)
  | maxDailyLossPct (limit lossPct : ℚ)
  | minMarginLevelPct (limit level : ℚ)
  | minFreeMargin (limit free : ℚ)
  | symbolMaxOpenPositions (cap : Int) (symbol : Symbol) (openN : Int)
  | symbolMaxDailyLossUsd (limit : ℚ) (symbol : Symbol) (loss : ℚ)
deriving Repr, DecidableEq

def RiskReason.text (f : TextFormat) : RiskReason → String
  | .killSwitchTripped => "kill_switch_tripped"
  | .profitLockTripped => "profit_lock_tripped"
  | .maxOpenPositionsPerStrategy cap strategyId openN =>
      s!"max_open_positions_per_strategy={cap} reached " ++
        s!"(strategy {strategyId} has {openN} open)"
  | .maxDailyLossPct limit lossPct =>
      "max_daily_loss_pct=" ++ f.number limit ++ " hit (today loss " ++
        f.fixed 2 lossPct ++ "%)"
  | .minMarginLevelPct limit level =>
      "margin_floor.min_margin_level_pct=" ++ f.number limit ++ " (level " ++
        f.fixed 1 level ++ "%)"
  | .minFreeMargin limit free =>
      "margin_floor.min_free_margin=" ++ f.number limit ++ " (free " ++
        f.fixed 2 free ++ ")"
  | .symbolMaxOpenPositions cap symbol openN =>
      s!"per_symbol.max_open_positions={cap} reached ({symbol} has {openN} open)"
  | .symbolMaxDailyLossUsd limit symbol loss =>
      "per_symbol.max_daily_loss_usd=" ++ f.number limit ++ " hit (" ++ symbol ++
        " today loss $" ++ f.fixed 2 loss ++ ")"

/-- Reason recorded with a rejected signal. -/
inductive DecisionReason where
  | tradingFilter (reason : FilterReason)
  | risk (reason : RiskReason)
  | maxAggregateRiskPct (maxPct existing new cap : ℚ)
deriving Repr, DecidableEq

def DecisionReason.text (f : TextFormat) : DecisionReason → String
  | .tradingFilter reason => "trading_filter: " ++ reason.text f
  | .risk reason => reason.text f
  | .maxAggregateRiskPct maxPct existing new cap =>
      "max_aggregate_risk_pct=" ++ f.number maxPct ++ " (open $" ++
        f.fixed 2 existing ++ " + new $" ++ f.fixed 2 new ++ " > cap $" ++
        f.fixed 2 cap ++ ")"

inductive DecisionAction where
  | placed
  | rejected
deriving Repr, DecidableEq, Inhabited

/-- The router's verdict on a signal, kept for the trade journal. -/
structure Decision where
  signal : Signal
  time : Time
  action : DecisionAction
  reason : Option DecisionReason
  riskCheckPassed : Bool
  clientOrderId : Option ClientOrderId
deriving Repr, DecidableEq

/-- Events of the order flow. -/
inductive Event where
  | bar (bar : Bar)
  | tick (tick : Tick)
  | decision (decision : Decision)
  | orderSubmitted (order : Order)
  | orderFilled (order : Order) (accountId : AccountId)
  | orderRejected (order : Order) (reason : Option RejectMessage)
  | orderCancelled (order : Order)
  | orderModified (position : Position) (reason : String)
  | positionClosed (position : Position) (realizedPnl : ℚ)
      (accountId : AccountId) (closePrice : ℚ)
  | partialClosed (position : Position) (closedVolume realizedPnl : ℚ)
      (accountId : AccountId) (closePrice : ℚ)
  | backtestTradeClosed (ticket : Ticket) (strategyId : StrategyId)
      (symbol : Symbol) (side : Side)
      (volume openPrice closePrice : ℚ) (openTs closeTs : Time) (pnl : ℚ)
  | backtestEquitySample (time : Time) (balance equity : ℚ)
  | accountSnapshot (snapshot : AccountSnapshot)
deriving Repr, DecidableEq

end StingerFx
