/-
Module: StingerFx.Observability.CircuitBreaker
Layer: Observability
Purpose: The breaker that pauses a strategy on drift or on a losing streak,
  together with the runners it acts on and the operator who pauses and resumes
  them as well. One step is the handling of one event or one operator call: no
  subscriber of the state event blocks its publisher, so a pause call does not
  yield once it has begun.
Trusted boundary: human-reviewed model of the source's
  `StrategyCircuitBreaker`; how a pause call ends is part of the step
Main exports: CircuitBreakerConfig, StrategyCircuitBreaker, PauseCall,
  BreakerDesk, BreakerLabel, BreakerDesk.next?
-/
import StingerFx.Lib.Runs
import StingerFx.Strategies.Runner

namespace StingerFx

open Lib

/-- The settings of an enabled breaker. -/
structure CircuitBreakerConfig where
  pauseOnDrift : Bool
  /-- zero is off -/
  maxConsecutiveLosses : Nat
deriving Repr, DecidableEq

structure StrategyCircuitBreaker where
  losingStreak : Dict StrategyId Nat
  /-- the strategies that it has paused -/
  paused : List StrategyId
deriving DecidableEq

/-- How the call of `pause_strategy` ends, when it is made. -/
inductive PauseCall where
  | returns
  /-- before or after the flag of the runner was set -/
  | raises (flagSet : Bool)
deriving Repr, DecidableEq

def PauseCall.setsFlag : PauseCall → Bool
  | .returns => true
  | .raises flagSet => flagSet

/-- What a breaker handles, and what others do to the runners. -/
inductive BreakerLabel where
  /-- `_on_closed`, with the magic and the realised pnl of the closed position -/
  | closed (magic : Int) (realizedPnl : ℚ) (call : PauseCall)
  /-- `_on_drift` -/
  | drift (strategy : StrategyId) (call : PauseCall)
  /-- the operator's `pause_strategy` -/
  | operatorPause (strategy : StrategyId)
  /-- the operator's `resume_strategy` -/
  | operatorResume (strategy : StrategyId)
  /-- a runner is started, in place of an earlier one if there was one -/
  | launch (strategy : StrategyId)
  | remove (strategy : StrategyId)
deriving Repr, DecidableEq

/-- The breaker and the runners. -/
structure BreakerDesk where
  breaker : StrategyCircuitBreaker
  runners : Dict StrategyId RunnerFlags
  /-- what happened, the newest first; nothing reads it -/
  history : List BreakerLabel
deriving DecidableEq

/-- Write the flag of a strategy's runner, when there is one. -/
def setPaused (paused : Bool) (strategy : StrategyId)
    (runners : Dict StrategyId RunnerFlags) : Dict StrategyId RunnerFlags :=
  match runners.get? strategy with
  | none => runners
  | some flags => runners.set strategy { flags with paused := paused }

/-- `_losing_streak` after a close. -/
def countClose (streaks : Dict StrategyId Nat) (strategy : StrategyId)
    (realizedPnl : ℚ) : Dict StrategyId Nat :=
  if realizedPnl < 0 then
    streaks.set strategy (streaks.getD strategy 0 + 1)
  else streaks.set strategy 0

namespace BreakerDesk

def start (runners : Dict StrategyId RunnerFlags) : BreakerDesk where
  breaker := ⟨.empty, []⟩
  runners := runners
  history := []

/-- `_pause`. What the call raises is logged. -/
def pause (desk : BreakerDesk) (strategy : StrategyId) (call : PauseCall) :
    BreakerDesk :=
  if strategy ∈ desk.breaker.paused then desk
  else
    { desk with
      breaker :=
        { desk.breaker with paused := strategy :: desk.breaker.paused }
      runners :=
        if call.setsFlag then setPaused true strategy desk.runners
        else desk.runners }

/-- `_on_drift`. -/
def onDrift (desk : BreakerDesk) (config : CircuitBreakerConfig)
    (strategy : StrategyId) (call : PauseCall) : BreakerDesk :=
  if config.pauseOnDrift then desk.pause strategy call else desk

/-- The streaks with one more close. -/
def count (desk : BreakerDesk) (strategy : StrategyId) (realizedPnl : ℚ) :
    BreakerDesk :=
  { desk with
    breaker :=
      { desk.breaker with
        losingStreak :=
          countClose desk.breaker.losingStreak strategy realizedPnl } }

/-- `_on_closed`. -/
def onClosed (desk : BreakerDesk) (config : CircuitBreakerConfig)
    (strategyForMagic : Int → Option StrategyId) (magic : Int)
    (realizedPnl : ℚ) (call : PauseCall) : BreakerDesk :=
  if config.maxConsecutiveLosses = 0 then desk
  else
    match strategyForMagic magic with
    | none => desk
    | some strategy =>
        let counted := desk.count strategy realizedPnl
        if config.maxConsecutiveLosses ≤
            counted.breaker.losingStreak.getD strategy 0 then
          counted.pause strategy call
        else counted

/-- One step without its record. An event that `start` did not subscribe to is not
handled. -/
def act? (config : CircuitBreakerConfig)
    (strategyForMagic : Int → Option StrategyId) (desk : BreakerDesk) :
    BreakerLabel → Option BreakerDesk
  | .closed magic realizedPnl call =>
      if 0 < config.maxConsecutiveLosses then
        some (desk.onClosed config strategyForMagic magic realizedPnl call)
      else none
  | .drift strategy call =>
      if config.pauseOnDrift then some (desk.onDrift config strategy call)
      else none
  | .operatorPause strategy =>
      some { desk with runners := setPaused true strategy desk.runners }
  | .operatorResume strategy =>
      some { desk with runners := setPaused false strategy desk.runners }
  | .launch strategy =>
      some { desk with runners := desk.runners.set strategy .fresh }
  | .remove strategy =>
      some { desk with runners := desk.runners.erase strategy }

def next? (config : CircuitBreakerConfig)
    (strategyForMagic : Int → Option StrategyId) (desk : BreakerDesk)
    (label : BreakerLabel) : Option BreakerDesk :=
  (desk.act? config strategyForMagic label).map fun acted =>
    { acted with history := label :: desk.history }

end BreakerDesk

end StingerFx
