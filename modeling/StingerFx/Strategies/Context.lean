/-
Module: StingerFx.Strategies.Context
Layer: Strategies
Purpose: What a strategy and its position managers ask for through their context:
  market signals at the moment's price, and requests on a ticket.
Trusted boundary: human-reviewed model of the source's strategy context
Main exports: StrategyContext, StrategyContext.buy, StrategyContext.sell,
  StrategyContext.moveStop, StrategyContext.cancelOrder, StrategyContext.close
-/
import StingerFx.Execution.RequestHandlers

namespace StingerFx

/-- The context of a strategy, with what its clock and its primary history answer
at the moment. -/
structure StrategyContext where
  strategyId : StrategyId
  symbol : Symbol
  now : Time
  lastPrice : Option ℚ
deriving Repr, DecidableEq

namespace StrategyContext

variable (ctx : StrategyContext)

def market (side : Side) (volume : ℚ) (sl tp : Option ℚ) (comment : String) :
    Signal where
  strategyId := ctx.strategyId
  time := ctx.now
  symbol := ctx.symbol
  side := side
  suggestedVolume := some volume
  suggestedSl := sl
  suggestedTp := tp
  orderType := .market
  suggestedPrice := none
  entryRefPrice := ctx.lastPrice
  comment := comment

def buy (volume : ℚ) (sl tp : Option ℚ) (comment : String) : Signal :=
  ctx.market .buy volume sl tp comment

def sell (volume : ℚ) (sl tp : Option ℚ) (comment : String) : Signal :=
  ctx.market .sell volume sl tp comment

/-- `move_stop`; without a stop and a target there is nothing to ask for. -/
def moveStop (ticket : Ticket) (sl tp : Option ℚ) (reason : String) :
    Option ModifyOrderRequest :=
  match sl, tp with
  | none, none => none
  | _, _ =>
      some
        { strategyId := ctx.strategyId
          ticket := ticket
          sl := sl
          tp := tp
          price := none
          stopPrice := none
          volume := none
          reason := reason }

def cancelOrder (ticket : Ticket) (reason : String) : CancelOrderRequest where
  strategyId := ctx.strategyId
  ticket := ticket
  reason := reason

def close (ticket : Ticket) (reason : String) : ClosePositionRequest where
  strategyId := ctx.strategyId
  ticket := ticket
  reason := reason

end StrategyContext

end StingerFx
