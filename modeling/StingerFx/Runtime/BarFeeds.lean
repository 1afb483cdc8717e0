/-
Module: StingerFx.Runtime.BarFeeds
Layer: Runtime
Purpose: Who makes bars and who gets them. At startup and after a hot reload the
  runtime goes through the feeds of the strategies concerned and creates an
  aggregator for each; no reload takes an aggregator away. Every aggregator hears
  the ticks of every broker, every runner the bars of every aggregator.
Trusted boundary: human-reviewed model of the source's runtime wiring
Main exports: LiveAggregator, BarFeeds, BarFeedsLabel, BarFeeds.boot,
  BarFeeds.step?, BarFeeds.Step
-/
import StingerFx.Brokers.BarAggregator
import StingerFx.Brokers.Mt5Ticks
import StingerFx.Lib.Runs
import StingerFx.Strategies.Runner

namespace StingerFx

open Lib

/-- An aggregator with its subscription for ticks. -/
structure LiveAggregator where
  agg : BarAggregator
  inbox : BusSubscription Unit Unit TickEvent

namespace LiveAggregator

def create (symbol : Symbol) (tf : Timeframe) (tf_ne : tf ≠ .tick) :
    LiveAggregator where
  agg := .create symbol tf tf_ne
  inbox := .create () () busQueueSize .dropOldest

def subscription (live : LiveAggregator) : Subscription :=
  ⟨live.agg.symbol, live.agg.tf⟩

/-- `_backfill_aggregator`: historical ticks, without bars. -/
def backfill (ticks : List Tick) (live : LiveAggregator) : LiveAggregator :=
  let warmed := ({ live.agg with emitBars := false }.feed ticks).1
  { live with agg := { warmed with emitBars := true } }

end LiveAggregator

structure BarFeeds where
  /-- the accounts of the pool, the primary first -/
  pool : List AccountId
  strategyAccounts : Dict StrategyId AccountId
  /-- every runner that was ever started -/
  started : List BarRunner
  /-- `self.runners`, by their place in `started` -/
  runners : Dict StrategyId Nat
  aggregators : List LiveAggregator
  /-- the calls of `_subscribe_one` still to come -/
  wiring : List Subscription
  /-- the bar events so far; nothing reads it -/
  published : List Bar

inductive BarFeedsLabel where
  /-- a broker publishes a tick -/
  | tick (event : TickEvent)
  /-- an aggregator handles its oldest tick -/
  | aggregate (index : Nat)
  /-- a runner handles its oldest bar -/
  | deliver (index : Nat)
  /-- the next call of `_subscribe_one` -/
  | wire
  | backfill (index : Nat) (ticks : List Tick)
  | add (entry : StrategyEntry)
  | remove (id : StrategyId)
  | replace (entry : StrategyEntry)
  | updateParams (id : StrategyId) (subscriptions : List Subscription)
  /-- `found` is the entry of the configuration, if it has one -/
  | setEnabled (id : StrategyId) (enabled : Bool) (found : Option StrategyEntry)
  | changeAccount (id : StrategyId) (account : AccountId)
  /-- hooks of a strategy have raised too often -/
  | quarantine (index : Nat)

namespace BarFeeds

def isEvent {ε : Type} (_ : ε) (_ : Unit) : Bool := true

/-- `_add_strategy_internal`. -/
def startRunner (s : BarFeeds) (entry : StrategyEntry) : BarFeeds :=
  { s with
    started := s.started ++ [.start entry]
    runners := s.runners.set entry.id s.started.length }

/-- `_subscribe_for_strategy`: each declared feed once. -/
def subscribeForStrategy (s : BarFeeds) (id : StrategyId) : BarFeeds :=
  match s.runners.get? id with
  | none => s
  | some index =>
      match s.started[index]? with
      | none => s
      | some runner =>
          { s with wiring := s.wiring ++ runner.subscriptions.eraseDups }

/-- `_wire_broker_subscriptions_multi`: each feed once for each account. -/
def wireMulti (s : BarFeeds) : List Subscription :=
  let feeds := s.runners.items.flatMap fun entry =>
    let account := (s.strategyAccounts.get? entry.1).getD
      (s.pool.headD "")
    match s.started[entry.2]? with
    | none => []
    | some runner => runner.subscriptions.map fun sub => (account, sub)
  feeds.eraseDups.map Prod.snd

/-- Before a strategy is started; a disabled one has its account, too. -/
def idle (pool : List AccountId) (entries : List StrategyEntry) : BarFeeds where
  pool := pool
  strategyAccounts := entries.foldl
    (fun accounts entry => accounts.set entry.id entry.account) .empty
  started := []
  runners := .empty
  aggregators := []
  wiring := []
  published := []

/-- The engine with its strategies started and the feeds still to be wired. -/
def boot (pool : List AccountId) (entries : List StrategyEntry) : BarFeeds :=
  let started := (entries.filter StrategyEntry.enabled).foldl startRunner
    (idle pool entries)
  { started with wiring := started.wireMulti }

def addStrategy (s : BarFeeds) (entry : StrategyEntry) : BarFeeds :=
  let added := s.startRunner entry
  { added with
    strategyAccounts := added.strategyAccounts.set entry.id entry.account }
    |>.subscribeForStrategy entry.id

def removeStrategy (s : BarFeeds) (id : StrategyId) : BarFeeds :=
  match s.runners.get? id with
  | none => s
  | some index =>
      { s with
        started := s.started.modify index BarRunner.stop
        runners := s.runners.erase id
        strategyAccounts := s.strategyAccounts.erase id }

/-- A bar event reaches every runner. -/
def publishBar (s : BarFeeds) (bar : Bar) : BarFeeds :=
  { s with
    started := s.started.map fun runner =>
      { runner with inbox := runner.inbox.receive isEvent bar }
    published := s.published ++ [bar] }

/-- The state after a step, if the step can happen. -/
def step? (s : BarFeeds) : BarFeedsLabel → Option BarFeeds
  | .tick event =>
      some
        { s with
          aggregators := s.aggregators.map fun live =>
            { live with inbox := live.inbox.receive isEvent event } }
  | .aggregate index =>
      match s.aggregators[index]? with
      | none => none
      | some live =>
          match live.inbox.take? with
          | none => none
          | some (event, inbox) =>
              let handled := live.agg.onTick event.tick
              let after :=
                { s with
                  aggregators := s.aggregators.set index ⟨handled.1, inbox⟩ }
              some (handled.2.elim after after.publishBar)
  | .deliver index =>
      match s.started[index]? with
      | none => none
      | some runner =>
          match runner.inbox.take? with
          | none => none
          | some (bar, inbox) =>
              some
                { s with
                  started := s.started.set index
                    ({ runner with inbox := inbox }.onBar bar) }
  | .wire =>
      match s.wiring with
      | [] => none
      | sub :: rest =>
          -- strategies consume ticks directly
          if tick : sub.timeframe = .tick then some { s with wiring := rest }
          else
            some
              { s with
                wiring := rest
                aggregators := s.aggregators ++
                  [.create sub.symbol sub.timeframe tick] }
  | .backfill index ticks =>
      some
        { s with
          aggregators :=
            s.aggregators.modify index (LiveAggregator.backfill ticks) }
  | .add entry => some (s.addStrategy entry)
  | .remove id => some (s.removeStrategy id)
  | .replace entry => some ((s.removeStrategy entry.id).addStrategy entry)
  | .updateParams id subscriptions =>
      match s.runners.get? id with
      | none => some s
      | some index =>
          some
            { s with
              started :=
                s.started.modify index (BarRunner.updateParams subscriptions) }
  | .setEnabled id enabled found =>
      match s.runners.get? id with
      | some index =>
          some
            { s with
              started := s.started.modify index (BarRunner.pause (!enabled)) }
      | none =>
          -- disabled at startup: a fresh add
          match enabled, found with
          | true, some entry => some (s.addStrategy entry)
          | _, _ => some s
  | .changeAccount id account =>
      -- an unknown account raises
      if s.pool.contains account then
        if (s.runners.get? id).isSome then
          some
            ({ s with
              strategyAccounts := s.strategyAccounts.set id account
              }.subscribeForStrategy id)
        else some s
      else none
  | .quarantine index =>
      some
        { s with started := s.started.modify index BarRunner.quarantine }

def Step : BarFeeds → BarFeedsLabel → BarFeeds → Prop := stepOf? step?

/-- The feeds that have an aggregator, as in `self.aggregators`. -/
def wired (s : BarFeeds) : List Subscription :=
  s.aggregators.map LiveAggregator.subscription

end BarFeeds

end StingerFx
