/-
Module: StingerFx.Backtest.Replay
Layer: Backtest
Purpose: The bar replay of the backtester. Stored bars of every feed are merged by
  open time; each bar moves the clock and the market to its close, exits stops,
  triggers pending orders, is delivered to the strategies, and ends in an equity
  sample. Strategies are any reaction to what was published.
Trusted boundary: human-reviewed model of the source's `_replay_bars`
Main exports: iterBars, Reaction, ReplayState, replayLoop,
  replayBars, Bar.closeTime
-/
import StingerFx.Backtest.SimBroker
import StingerFx.Lib.StableMerge

namespace StingerFx

open Lib

/-- The instant up to which a bar carries prices. -/
def Bar.closeTime (bar : Bar) : Time :=
  bar.time + (bar.timeframe.seconds.getD 0) * Time.usPerSecond

/-- The stored bars of a feed that open in `[start, stop)`, by open time. -/
def iterBars (stored : List Bar) (start stop : Time) (sub : Subscription) :
    List Bar :=
  (stored.filter fun bar =>
    decide (bar.symbol = sub.symbol ∧ bar.timeframe = sub.timeframe ∧
      start ≤ bar.time ∧ bar.time < stop)).insertionSort
        (fun a b => a.time ≤ b.time)

/-- What strategies can have the router do at the broker. -/
inductive StrategyCall where
  | placeOrder (req : OrderRequest)
  | modifyOrder (ticket : Ticket) (changes : OrderChanges)
  | closePosition (ticket : Ticket) (volume : Option ℚ)
  | cancelOrder (ticket : Ticket)

def StrategyCall.op : StrategyCall → BrokerOp
  | .placeOrder req => .placeOrder req
  | .modifyOrder ticket changes => .modifyOrder ticket changes
  | .closePosition ticket volume => .closePosition ticket volume
  | .cancelOrder ticket => .cancelOrder ticket

variable {σ : Type}

/-- Strategies, router and risk layer: the calls they make while the replay
yields, given everything published so far. -/
abbrev Reaction (σ : Type) := List Event → SimBroker σ → List StrategyCall

/-- A bar as it reaches the strategies, and the broker they find then. -/
structure Delivery (σ : Type) where
  bar : Bar
  broker : SimBroker σ

inductive ReplayError where
  | clockBackwards
  | broker (error : BrokerError)
deriving Repr, DecidableEq

structure ReplayState (σ : Type) where
  clock : Time
  broker : SimBroker σ
  lastClose : Dict Symbol ℚ
  equityCurve : List (Time × ℚ)
  events : List Event
  count : Nat
  /-- history of the deliveries; nothing in the replay reads it -/
  deliveries : List (Delivery σ)

/-- Close the listed positions one after the other. -/
def SimBroker.closeListed (b : SimBroker σ) (cfg : SimConfig σ) :
    List Position → SimBroker σ × List Event
  | [] => (b, [])
  | pos :: rest =>
      let call := b.closePosition cfg pos.ticket none
      let later := call.broker.closeListed cfg rest
      (later.1, call.events ++ later.2)

/-- Unrealized profit at the closes seen so far. -/
def markToMarket (cfg : SimConfig σ) (lastClose : Dict Symbol ℚ)
    (positions : List Position) : ℚ :=
  (positions.map fun pos =>
    match lastClose.get? pos.symbol with
    | none => 0
    | some ref =>
        (ref - pos.openPrice) * pos.side.sign * pos.volume *
          cfg.contractSizeFor pos.symbol).sum

namespace ReplayState

/-- The state before the first bar. -/
def start (clock : Time) (broker : SimBroker σ) : ReplayState σ where
  clock := clock
  broker := broker
  lastClose := .empty
  equityCurve := []
  events := []
  count := 0
  deliveries := []

def call (cfg : SimConfig σ) (s : ReplayState σ) (call : StrategyCall) :
    ReplayState σ :=
  let performed := SimBroker.perform cfg s.broker call.op
  { s with broker := performed.1, events := s.events ++ performed.2 }

/-- Let the strategies run. -/
def react (s : ReplayState σ) (cfg : SimConfig σ) (reaction : Reaction σ) :
    ReplayState σ :=
  (reaction s.events s.broker).foldl (call cfg) s

/-- Clock and market move to the bar; the market price is its close. -/
def quote (s : ReplayState σ) (bar : Bar) : ReplayState σ :=
  { s with
    clock := bar.time
    broker := (s.broker.advanceClock bar.time).setMarket bar.symbol bar.close
    lastClose := s.lastClose.set bar.symbol bar.close }

/-- Close every position whose stop or target the bar's range reaches. -/
def exitStops (s : ReplayState σ) (cfg : SimConfig σ) (bar : Bar) :
    ReplayState σ :=
  let closed := s.broker.closeListed cfg
    (s.broker.checkSlTp bar.symbol bar.high bar.low)
  { s with broker := closed.1, events := s.events ++ closed.2 }

/-- All that happens with a bar before it is published. -/
def takeUp (s : ReplayState σ) (cfg : SimConfig σ) (bar : Bar) :
    ReplayState σ × Except BrokerError (List Order) :=
  let exited := (s.quote bar).exitStops cfg bar
  let checked := exited.broker.checkPendingBar cfg bar.symbol bar.high bar.low
  ({ exited with
      broker := checked.broker
      events := exited.events ++ checked.events }, checked.outcome)

def deliver (s : ReplayState σ) (bar : Bar) : ReplayState σ :=
  { s with
    events := s.events ++ [.bar bar]
    deliveries := s.deliveries ++ [⟨bar, s.broker⟩] }

def sampleEquity (s : ReplayState σ) (cfg : SimConfig σ) (bar : Bar) :
    ReplayState σ :=
  let equity := s.broker.balance +
    markToMarket cfg s.lastClose s.broker.getPositions
  { s with
    equityCurve := s.equityCurve ++ [(bar.time, equity)]
    events := s.events ++
      [.backtestEquitySample bar.time s.broker.balance equity,
        .accountSnapshot (s.broker.getAccountSnapshot cfg)]
    count := s.count + 1 }

/-- Publish a bar, let the strategies run, and sample the equity. -/
def publishBar (s : ReplayState σ) (cfg : SimConfig σ) (reaction : Reaction σ)
    (bar : Bar) : ReplayState σ :=
  ((s.deliver bar).react cfg reaction).sampleEquity cfg bar

end ReplayState

/-- The replay loop. It ends early when a call of its own raises. -/
def replayLoop (cfg : SimConfig σ) (reaction : Reaction σ) :
    List Bar → ReplayState σ → ReplayState σ × Option ReplayError
  | [], s => (s, none)
  | bar :: bars, s =>
      -- a playback throttle may yield before the bar is taken up
      let waited := s.react cfg reaction
      if bar.time < waited.clock then (waited, some .clockBackwards)
      else
        let taken := waited.takeUp cfg bar
        match taken.2 with
        | .error error => (taken.1, some (.broker error))
        | .ok _ =>
            replayLoop cfg reaction bars (taken.1.publishBar cfg reaction bar)

/-- `_replay_bars`: the feeds merged by open time, then the loop. -/
def replayBars (cfg : SimConfig σ) (reaction : Reaction σ) (stored : List Bar)
    (feedList : List Subscription) (start stop : Time) (broker : SimBroker σ) :
    ReplayState σ × Option ReplayError :=
  replayLoop cfg reaction
    (mergeFeeds Bar.time (feedList.map (iterBars stored start stop)))
    (.start start broker)

end StingerFx
