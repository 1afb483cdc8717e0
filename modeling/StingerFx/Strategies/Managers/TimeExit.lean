/-
Module: StingerFx.Strategies.Managers.TimeExit
Layer: Strategies
Purpose: The manager that closes positions which have been open too long, by time at
  each tick or by a count of bars. A ticket whose close it has asked for is not
  looked at again; what it knows of a ticket that has left the view is dropped.
Trusted boundary: human-reviewed model of the source's time exit manager
Main exports: TimeExitError, TimeExitManager, TimeExitManager.create,
  TimeExitManager.visitTick, TimeExitManager.onTick, TimeExitManager.visitBar,
  TimeExitManager.onBar
-/
import StingerFx.Strategies.Managers.Stops

namespace StingerFx

open Lib

/-- Arguments that the constructor refuses. -/
inductive TimeExitError where
  | missing
  | both
  | maxSeconds (given : ℚ)
  | maxBars (given : Int)
deriving Repr, DecidableEq

def TimeExitError.text (number : ℚ → String) : TimeExitError → String
  | .missing => "TimeExitManager requires max_seconds or max_bars"
  | .both => "TimeExitManager accepts max_seconds XOR max_bars, not both"
  | .maxSeconds given => "max_seconds must be > 0, got " ++ number given
  | .maxBars given => "max_bars must be >= 1, got " ++ number given

/-- `timedelta(seconds=...)` in microseconds, a tie rounded to even. -/
def timedeltaSeconds (seconds : ℚ) : Int :=
  let us := seconds * Time.usPerSecond
  let rest := us - ⌊us⌋
  if rest < 1 / 2 then ⌊us⌋
  else if 1 / 2 < rest then ⌊us⌋ + 1
  else if ⌊us⌋ % 2 = 0 then ⌊us⌋
  else ⌊us⌋ + 1

structure TimeExitManager where
  maxSeconds : Option ℚ
  maxBars : Option Int
  symbol : Symbol
  /-- bars counted, for each ticket -/
  bars : Dict Ticket Nat
  /-- tickets whose close is asked for -/
  closing : List Ticket

namespace TimeExitManager

def create (ctx : StrategyContext) (maxSeconds : Option ℚ) (maxBars : Option Int)
    (symbol : Option Symbol) : Except TimeExitError TimeExitManager :=
  let manager : TimeExitManager :=
    { maxSeconds := maxSeconds
      maxBars := maxBars
      symbol := if symbol.getD "" = "" then ctx.symbol else symbol.getD ""
      bars := .empty
      closing := [] }
  match maxSeconds, maxBars with
  | none, none => .error .missing
  | some _, some _ => .error .both
  | some seconds, none =>
      if seconds ≤ 0 then .error (.maxSeconds seconds) else .ok manager
  | none, some bars => if bars < 1 then .error (.maxBars bars) else .ok manager

/-- Ask for the close of a ticket. -/
def requestClose (m : TimeExitManager) (ctx : StrategyContext) (pos : Position)
    (reason : String) : TimeExitManager × List ClosePositionRequest :=
  ({ m with closing := pos.ticket :: m.closing }, [ctx.close pos.ticket reason])

/-- Drop the tickets that are not live any more. -/
def purgeClosing (m : TimeExitManager) (live : List Ticket) : TimeExitManager :=
  { m with closing := m.closing.filter fun ticket => decide (ticket ∈ live) }

def purgeBars (m : TimeExitManager) (live : List Ticket) : TimeExitManager :=
  { m with
    bars := m.bars.eraseAll
      (m.bars.keys.filter fun ticket => decide (ticket ∉ live)) }

/-! ### By time -/

def visitTick (ctx : StrategyContext) (tick : Tick) (limit : Int)
    (m : TimeExitManager) (pos : Position) :
    TimeExitManager × List ClosePositionRequest :=
  if pos.ticket ∈ m.closing then (m, [])
  else if limit ≤ tick.time - pos.openTime then m.requestClose ctx pos "time_exit"
  else (m, [])

def onTick (m : TimeExitManager) (ctx : StrategyContext) (positions : List Position)
    (tick : Tick) : TimeExitManager × List ClosePositionRequest :=
  match m.maxSeconds with
  | none => (m, [])
  | some seconds =>
      if tick.symbol ≠ m.symbol then (m, [])
      else
        let mine := forSymbol positions m.symbol
        let visited := visitAll (visitTick ctx tick (timedeltaSeconds seconds)) m mine
        (visited.1.purgeClosing (mine.map Position.ticket), visited.2)

/-! ### By bars -/

/-- Count a bar for a position: only bars from its open time on. -/
def countBar (m : TimeExitManager) (bar : Bar) (pos : Position) : TimeExitManager :=
  if pos.openTime ≤ bar.time then
    { m with bars := m.bars.set pos.ticket (m.bars.getD pos.ticket 0 + 1) }
  else m

def visitBar (ctx : StrategyContext) (bar : Bar) (limit : Int) (m : TimeExitManager)
    (pos : Position) : TimeExitManager × List ClosePositionRequest :=
  if pos.ticket ∈ m.closing then (m, [])
  else
    let counted := m.countBar bar pos
    if limit ≤ counted.bars.getD pos.ticket 0 then
      counted.requestClose ctx pos "time_exit_bars"
    else (counted, [])

def onBar (m : TimeExitManager) (ctx : StrategyContext) (positions : List Position)
    (bar : Bar) : TimeExitManager × List ClosePositionRequest :=
  match m.maxBars with
  | none => (m, [])
  | some limit =>
      if bar.symbol ≠ m.symbol then (m, [])
      else
        let mine := forSymbol positions m.symbol
        let live := mine.map Position.ticket
        let visited := visitAll (visitBar ctx bar limit) m mine
        ((visited.1.purgeBars live).purgeClosing live, visited.2)

end TimeExitManager

end StingerFx
