/-
Module: StingerFx.Strategies.Runner
Layer: Strategies
Purpose: The runner of one strategy. It keeps a rolling view of the bars of each
  declared feed and runs the strategy's hook on each closed bar, and it keeps a
  view of the strategy's positions that it learns from events alone. Paused,
  stopped or quarantined it ignores what its consumers hand it.
Trusted boundary: human-reviewed model of the source's strategy runner
Main exports: RunnerFlags, StrategyEntry, Bar.subscription, appendBar, BarRunner,
  BarRunner.start, BarRunner.onBar, BarRunner.stop, PositionEvent, EventKind,
  PositionRunner, PositionRunner.handle, receivePosition, takeKind
-/
import StingerFx.Core.EventBus
import StingerFx.Lib.Dict

namespace StingerFx

open Lib

/-- Why a runner may be idle. -/
structure RunnerFlags where
  paused : Bool
  stopped : Bool
  quarantined : Bool
deriving Repr, DecidableEq

namespace RunnerFlags

def fresh : RunnerFlags := ⟨false, false, false⟩

/-- `_active`. -/
def active (flags : RunnerFlags) : Bool :=
  !(flags.stopped || flags.paused || flags.quarantined)

end RunnerFlags

/-- A strategy of the configuration, with the feeds that its class declares for its
parameters. -/
structure StrategyEntry where
  id : StrategyId
  account : AccountId
  enabled : Bool
  subscriptions : List Subscription
deriving Repr, DecidableEq

/-- The feed of a bar. -/
def Bar.subscription (bar : Bar) : Subscription := ⟨bar.symbol, bar.timeframe⟩

/-- `HistoryView.append_bar`: a bar that is not newer than the last one is dropped.
The buffer keeps the latest bars only; a view here keeps all. -/
def appendBar (view : List Bar) (bar : Bar) : List Bar :=
  match view.getLast? with
  | none => view ++ [bar]
  | some last => if bar.time ≤ last.time then view else view ++ [bar]

/-- The bar side of a runner. -/
structure BarRunner where
  id : StrategyId
  flags : RunnerFlags
  /-- what the strategy declares for its current parameters -/
  subscriptions : List Subscription
  /-- `ctx.histories`, one view for each feed declared at the start -/
  histories : Dict Subscription (List Bar)
  /-- the subscription for bar events -/
  inbox : BusSubscription Unit Unit Bar
  /-- the bars on which `on_bar` ran; nothing reads it -/
  ran : List Bar

namespace BarRunner

/-- A started runner. Without a feed it subscribes to nothing. -/
def start (entry : StrategyEntry) : BarRunner where
  id := entry.id
  flags := .fresh
  subscriptions := entry.subscriptions
  histories := entry.subscriptions.foldl (fun views sub => views.set sub [])
    .empty
  inbox :=
    { BusSubscription.create () () busQueueSize .dropOldest with
      closed := entry.subscriptions.isEmpty }
  ran := []

/-- `_on_bar` for a closed bar. -/
def onBar (runner : BarRunner) (bar : Bar) : BarRunner :=
  if runner.flags.active then
    match runner.histories.get? bar.subscription with
    -- not a feed of this strategy
    | none => runner
    | some view =>
        { runner with
          histories := runner.histories.set bar.subscription
            (appendBar view bar)
          ran := runner.ran ++ [bar] }
  else runner

def stop (runner : BarRunner) : BarRunner :=
  { runner with
    flags := { runner.flags with stopped := true }
    inbox := runner.inbox.unsubscribe }

def pause (paused : Bool) (runner : BarRunner) : BarRunner :=
  { runner with flags := { runner.flags with paused := paused } }

def quarantine (runner : BarRunner) : BarRunner :=
  { runner with flags := { runner.flags with quarantined := true } }

def updateParams (subscriptions : List Subscription) (runner : BarRunner) :
    BarRunner :=
  { runner with subscriptions := subscriptions }

end BarRunner

/-! ### The positions of a strategy -/

/-- What the runner's four position queues carry. -/
inductive PositionEvent where
  | filled (order : Order)
  | modified (position : Position)
  /-- with the remaining leg -/
  | partialClosed (position : Position)
  | closed (position : Position)
deriving Repr, DecidableEq

/-- Each class of event has a queue of its own. -/
inductive EventKind where
  | fill
  | modify
  | partialClose
  | close
deriving Repr, DecidableEq

namespace PositionEvent

def kind : PositionEvent → EventKind
  | .filled _ => .fill
  | .modified _ => .modify
  | .partialClosed _ => .partialClose
  | .closed _ => .close

def ticket : PositionEvent → Ticket
  | .filled order => order.ticket
  | .modified position | .partialClosed position | .closed position =>
      position.ticket

def magic : PositionEvent → Int
  | .filled order => order.magic
  | .modified position | .partialClosed position | .closed position =>
      position.magic

end PositionEvent

/-- The volume of the position that a fill opens. -/
def Order.openedVolume (order : Order) : ℚ :=
  if order.filledVolume = 0 then order.volume else order.filledVolume

/-- The position that a fill opens; without price or time there is none, and a
value that validation refuses raises. -/
def Order.opened? (order : Order) : Option Position :=
  match order.fillPrice, order.filledAt with
  | some price, some time =>
      if volume_pos : 0 < order.openedVolume then
        if openPrice_pos : 0 < price then
          some
            { ticket := order.ticket
              symbol := order.symbol
              side := order.side
              volume := order.openedVolume
              openPrice := price
              openTime := time
              sl := order.sl
              tp := order.tp
              comment := order.comment
              magic := order.magic
              volume_pos := volume_pos
              openPrice_pos := openPrice_pos }
        else none
      else none
  | _, _ => none

/-- Tracking the position of a fill raises when validation refuses it. -/
def Order.trackRaises (order : Order) : Bool :=
  match order.fillPrice, order.filledAt with
  | some _, some _ => order.opened?.isNone
  | _, _ => false

/-- The oldest event of a kind, and what else waits. -/
def takeKind (kind : EventKind) :
    List PositionEvent → Option (PositionEvent × List PositionEvent)
  | [] => none
  | event :: rest =>
      if event.kind = kind then some (event, rest)
      else (takeKind kind rest).map fun taken => (taken.1, event :: taken.2)

/-- What is left once the oldest event of a kind is gone. -/
def dropKind (kind : EventKind) (waiting : List PositionEvent) :
    List PositionEvent :=
  ((takeKind kind waiting).map Prod.snd).getD waiting

def waitingOf (kind : EventKind) (waiting : List PositionEvent) :
    List PositionEvent :=
  waiting.filter fun event => decide (event.kind = kind)

/-- The four queues, in one list by the time of publishing. A full queue drops its
oldest event for a new one. -/
def receivePosition (waiting : List PositionEvent) (event : PositionEvent) :
    List PositionEvent :=
  if busQueueSize ≤ (waitingOf event.kind waiting).length then
    dropKind event.kind waiting ++ [event]
  else waiting ++ [event]

/-- The position side of a started runner. -/
structure PositionRunner where
  id : StrategyId
  magic : Int
  flags : RunnerFlags
  /-- `ctx.position` -/
  positions : List Position
  waiting : List PositionEvent

namespace PositionRunner

def start (id : StrategyId) (magic : Int) : PositionRunner where
  id := id
  magic := magic
  flags := .fresh
  positions := []
  waiting := []

/-- `PositionView.update`. -/
def update (runner : PositionRunner) (positions : List Position) :
    PositionRunner :=
  { runner with
    positions := positions.filter fun p => decide (p.magic = runner.magic) }

def trackOpen (runner : PositionRunner) (position : Position) :
    PositionRunner :=
  if position.magic = runner.magic then
    runner.update
      ((runner.positions.filter fun p => decide (p.ticket ≠ position.ticket)) ++
        [position])
  else runner

def trackRemove (runner : PositionRunner) (ticket : Ticket) : PositionRunner :=
  runner.update
    (runner.positions.filter fun p => decide (p.ticket ≠ ticket))

def onOrderFilled (runner : PositionRunner) (order : Order) : PositionRunner :=
  if runner.flags.active = false ∨ order.strategyId ≠ runner.id then runner
  else
    match order.opened? with
    | none => runner
    | some position => runner.trackOpen position

def onPositionClosed (runner : PositionRunner) (position : Position) :
    PositionRunner :=
  if runner.flags.active = false ∨ position.magic ≠ runner.magic then runner
  else runner.trackRemove position.ticket

def onOrderModified (runner : PositionRunner) (position : Position) :
    PositionRunner :=
  if runner.flags.active = false ∨ position.magic ≠ runner.magic then runner
  else runner.trackOpen position

def onPartialClosed (runner : PositionRunner) (position : Position) :
    PositionRunner :=
  if runner.flags.active = false ∨ position.magic ≠ runner.magic then runner
  else runner.trackOpen position

/-- A consumer hands an event to its handler. -/
def handle (runner : PositionRunner) : PositionEvent → PositionRunner
  | .filled order => runner.onOrderFilled order
  | .modified position => runner.onOrderModified position
  | .partialClosed position => runner.onPartialClosed position
  | .closed position => runner.onPositionClosed position

end PositionRunner

end StingerFx
