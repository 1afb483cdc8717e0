/-
Module: StingerFx.Runtime.TrendDesk
Layer: Runtime
Purpose: An account, the runner of the daily trend strategy and its state file.
  Hooks wait for the reload lock in the order of their events; an order is under way
  from its signal to its fill; positions change at the broker at any time. A restart
  loses everything but the account, the file and the orders that are under way.
Trusted boundary: human-reviewed model of the source's runtime wiring; the account
  holds the positions of this strategy only
Main exports: TrendOrder, TrendDesk, TrendLabel, TrendDesk.boot, TrendDesk.step?,
  TrendDesk.Step
-/
import StingerFx.Runtime.PositionTracking
import StingerFx.Strategies.Examples.D1H4Trend

namespace StingerFx

open Lib

/-- An order under way. -/
structure TrendOrder where
  signal : Signal
  /-- the engine that sent it is gone; nobody publishes its fill -/
  orphaned : Bool
deriving Repr, DecidableEq

structure TrendDesk where
  params : D1H4TrendParams
  /-- the feed that the strategy declared at its start -/
  feed : Subscription
  tracking : PositionTracking
  /-- hooks that wait for the lock, oldest first -/
  hooks : List TrendHook
  strategy : D1H4TrendStrategy
  store : JsonFileStateStore
  orders : List TrendOrder
  /-- the side of every position so far; nothing reads it -/
  sides : Dict Ticket Side
  /-- every stop that was committed in memory; nothing reads it -/
  committed : List StopCommit
  /-- every stop that was written to the file; nothing reads it -/
  stored : List StopCommit

inductive TrendLabel where
  /-- the runner handles a bar -/
  | bar (h1 : Bar)
  /-- the runner handles an event of its positions -/
  | handle (kind : EventKind)
  /-- the oldest hook that waits takes its turn -/
  | turn (disk : StoreSite → StoreAccess) (now : Time) (lastPrice : Option ℚ)
  /-- the broker fills an order -/
  | fill (index : Nat) (order : Order) (position : Position)
  /-- an order is refused or lost -/
  | refuse (index : Nat)
  /-- a position is changed or closed, or a call goes on -/
  | account (label : TrackingLabel)
  /-- the server closes a position, and nobody publishes it -/
  | vanish (ticket : Ticket)
  /-- another strategy uses the file -/
  | other (call : StoreCall)
  /-- new parameters -/
  | reload (params : D1H4TrendParams)
  /-- the class is replaced: the old runner is stopped, a new one is started -/
  | replace (read : ReadResult)
  /-- the engine goes down and comes up again -/
  | restart (read : ReadResult)

/-- The account changes of a label are its own: it opens nothing, it wakes no
consumer and it starts no runner. What a call has read before is of the position's
side. -/
def TrackingLabel.ChangesOnly (label : TrackingLabel) (sides : Dict Ticket Side) :
    Prop :=
  match label with
  | .modify read _ _ | .reduce read _ | .close read =>
      sides.get? read.ticket = some read.side
  | .reread _ | .publish _ | .pause _ | .quarantine => True
  | .fill _ _ | .handle _ | .replace | .restart => False

instance (label : TrackingLabel) (sides : Dict Ticket Side) :
    Decidable (label.ChangesOnly sides) :=
  match label with
  | .modify _ _ _ | .reduce _ _ | .close _ => inferInstanceAs (Decidable (_ = _))
  | .reread _ | .publish _ | .pause _ | .quarantine => instDecidableTrue
  | .fill _ _ | .handle _ | .replace | .restart => instDecidableFalse

namespace TrendDesk

def boot (id : StrategyId) (magic : Int) (params : D1H4TrendParams) : TrendDesk where
  params := params
  feed := ⟨params.symbol, .h1⟩
  tracking := .boot id magic
  hooks := []
  strategy := .start params none []
  store := .create
  orders := []
  sides := .empty
  committed := []
  stored := []

def id (s : TrendDesk) : StrategyId := s.tracking.runner.id

/-- What the hooks see at their turn. -/
def scene (s : TrendDesk) (disk : StoreSite → StoreAccess) (now : Time)
    (lastPrice : Option ℚ) : TrendScene where
  ctx := ⟨s.id, s.feed.symbol, now, lastPrice⟩
  params := s.params
  positions := s.tracking.runner.positions
  disk := disk

def work (s : TrendDesk) : TrendWork where
  strategy := s.strategy
  store := s.store
  signals := []
  moves := []
  closes := []
  committed := s.committed
  stored := s.stored

/-- The desk behind a hook. What the hook asks of a position, the broker may carry
out at any time, as it may any other change. -/
def worked (s : TrendDesk) (w : TrendWork) : TrendDesk :=
  { s with
    strategy := w.strategy
    store := w.store
    orders := s.orders ++ w.signals.map fun signal => ⟨signal, false⟩
    committed := w.committed
    stored := w.stored }

/-- The hook that the runner queues once its view has an event. -/
def hookOf (runner : PositionRunner) (event : PositionEvent) : List TrendHook :=
  if runner.flags.active then
    match event with
    | .filled order =>
        if order.strategyId = runner.id ∧ order.trackRaises = false then
          [.filled order]
        else []
    | .closed position => if position.magic = runner.magic then [.closed position] else []
    | .modified _ | .partialClosed _ => []
  else []

/-- A new instance of the strategy that reads the file. -/
def started (s : TrendDesk) (tracking : PositionTracking) (read : ReadResult) :
    TrendDesk :=
  { s with
    feed := ⟨s.params.symbol, .h1⟩
    tracking := tracking
    hooks := []
    strategy := .start s.params (s.store.load s.id read) [] }

/-- The state after a step, if the step can happen. -/
def step? (s : TrendDesk) : TrendLabel → Option TrendDesk
  | .bar h1 =>
      if s.tracking.runner.flags.active ∧ h1.subscription = s.feed then
        some { s with hooks := s.hooks ++ [.bar h1] }
      else none
  | .handle kind =>
      match takeKind kind s.tracking.runner.waiting, s.tracking.step? (.handle kind) with
      | some (event, _), some tracking =>
          some
            { s with
              tracking := tracking
              hooks := s.hooks ++ hookOf s.tracking.runner event }
      | _, _ => none
  | .turn disk now lastPrice =>
      match s.hooks with
      | [] => none
      | hook :: hooks =>
          match hook.run (s.scene disk now lastPrice) s.work with
          | .ok w | .error w => some ({ s with hooks := hooks }.worked w)
  | .fill index order position =>
      match s.orders[index]? with
      | none => none
      | some sent =>
          if order.strategyId = s.id ∧ order.magic = s.tracking.runner.magic ∧
              order.symbol = sent.signal.symbol ∧ order.side = sent.signal.side ∧
              position.symbol = order.symbol ∧ position.side = order.side then
            match s.tracking.step? (.fill order position) with
            | none => none
            | some tracking =>
                some
                  { s with
                    tracking :=
                      if sent.orphaned then { tracking with jobs := s.tracking.jobs }
                      else tracking
                    orders := s.orders.eraseIdx index
                    sides := s.sides.set order.ticket order.side }
          else none
  | .refuse index =>
      if index < s.orders.length then some { s with orders := s.orders.eraseIdx index }
      else none
  | .account label =>
      if label.ChangesOnly s.sides then
        match s.tracking.step? label with
        | none => none
        | some tracking => some { s with tracking := tracking }
      else none
  | .vanish ticket =>
      some
        { s with
          tracking :=
            { s.tracking with account := s.tracking.account.erase ticket } }
  | .other call =>
      match call with
      | .save state _ _ =>
          if state.strategyId = s.id then none
          else some { s with store := s.store.call call }
      | .clear strategyId _ _ | .load strategyId _ =>
          if strategyId = s.id then none
          else some { s with store := s.store.call call }
  | .reload params => some { s with params := params }
  | .replace read =>
      match s.tracking.step? .replace with
      | none => none
      | some tracking => some (s.started tracking read)
  | .restart read =>
      match s.tracking.step? .restart with
      | none => none
      | some tracking =>
          some
            { s.started tracking read with
              orders := s.orders.map fun sent => { sent with orphaned := true } }

def Step : TrendDesk → TrendLabel → TrendDesk → Prop := stepOf? step?

end TrendDesk

end StingerFx
