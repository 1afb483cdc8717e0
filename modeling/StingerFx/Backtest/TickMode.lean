/-
Module: StingerFx.Backtest.TickMode
Layer: Backtest
Purpose: What a tick does in the tick replay of the backtester: clock and market move
  to it, stops are left and pending orders triggered at its quote, it is delivered
  to the strategies, and the first tick of a minute ends in an equity sample.
  Strategies and aggregators are any reaction to what was published.
Trusted boundary: human-reviewed model of the source's `_replay_ticks`
Main exports: StoredTick.tick?, TickMode, TickMode.handleTick, replayTickMode
-/
import StingerFx.Backtest.Replay
import StingerFx.Backtest.TickReplay

namespace StingerFx

open Lib

variable {σ : Type}

/-- The tick of a stored row; its prices are validated. -/
def StoredTick.tick? (stored : StoredTick) : Option Tick :=
  if quoted : 0 < stored.values.bid ∧ 0 < stored.values.ask then
    some
      { symbol := stored.symbol
        time := stored.time
        bid := stored.values.bid
        ask := stored.values.ask
        bid_pos := quoted.1
        ask_pos := quoted.2 }
  else none

inductive TickModeError where
  | invalidTick
  | broker (error : BrokerError)
deriving Repr, DecidableEq

/-- The minute of an instant: `int(timestamp) // 60`. -/
def equityMinute (t : Time) : Int := Int.fdiv (Int.tdiv t Time.usPerSecond) 60

/-- Everything that a tick acts on. -/
structure TickMode (σ : Type) where
  broker : SimBroker σ
  lastMid : Dict Symbol ℚ
  lastEquityMinute : Option Int
  equityCurve : List (Time × ℚ)
  events : List Event
  /-- the exception that ended the replay -/
  error : Option TickModeError
  /-- the broker at every equity sample; nothing in the replay reads it -/
  sampled : List (SimBroker σ)

namespace TickMode

/-- The state before the first tick. -/
def start (broker : SimBroker σ) : TickMode σ where
  broker := broker
  lastMid := .empty
  lastEquityMinute := none
  equityCurve := []
  events := []
  error := none
  sampled := []

def call (cfg : SimConfig σ) (s : TickMode σ) (call : StrategyCall) :
    TickMode σ :=
  let performed := SimBroker.perform cfg s.broker call.op
  { s with broker := performed.1, events := s.events ++ performed.2 }

/-- Let the strategies run. -/
def react (s : TickMode σ) (cfg : SimConfig σ) (reaction : Reaction σ) :
    TickMode σ :=
  (reaction s.events s.broker).foldl (call cfg) s

/-- Clock and market move to the tick. -/
def quote (s : TickMode σ) (tick : Tick) : TickMode σ :=
  { s with
    broker := (s.broker.advanceClock tick.time).setMarketTick tick.symbol
      tick.bid tick.ask
    lastMid := s.lastMid.set tick.symbol ((tick.bid + tick.ask) / 2) }

/-- Close every position whose stop or target the quote reaches. -/
def exitStops (s : TickMode σ) (cfg : SimConfig σ) (tick : Tick) :
    TickMode σ :=
  let closed := s.broker.closeListed cfg
    (s.broker.checkSlTpTick tick.symbol tick.bid tick.ask)
  { s with broker := closed.1, events := s.events ++ closed.2 }

/-- Trigger the pending orders that the quote reaches. -/
def triggerPending (s : TickMode σ) (cfg : SimConfig σ) (tick : Tick) :
    TickMode σ :=
  let checked := s.broker.checkPending cfg tick.symbol tick.bid tick.ask
  { s with
    broker := checked.broker
    events := s.events ++ checked.events
    error :=
      match checked.outcome with
      | .error error => some (.broker error)
      | .ok _ => none }

def deliver (s : TickMode σ) (tick : Tick) : TickMode σ :=
  { s with events := s.events ++ [.tick tick] }

/-- Whether a sample is due at an instant: the first one, or a later minute. -/
def sampleDue (s : TickMode σ) (time : Time) : Bool :=
  match s.lastEquityMinute with
  | none => true
  | some last => decide (last < equityMinute time)

def sampleEquity (s : TickMode σ) (cfg : SimConfig σ) (time : Time) :
    TickMode σ :=
  if s.sampleDue time then
    let equity := s.broker.balance +
      markToMarket cfg s.lastMid s.broker.getPositions
    { s with
      lastEquityMinute := some (equityMinute time)
      equityCurve := s.equityCurve ++ [(time, equity)]
      events := s.events ++
        [.backtestEquitySample time s.broker.balance equity,
          .accountSnapshot (s.broker.getAccountSnapshot cfg)]
      sampled := s.sampled ++ [s.broker] }
  else s

/-- One tick of the replay loop. A playback throttle may yield to the strategies
before the tick is taken up. After an exception nothing happens any more. -/
def takeTick (s : TickMode σ) (cfg : SimConfig σ) (reaction : Reaction σ)
    (tick : Tick) : TickMode σ :=
  let triggered := (((s.react cfg reaction).quote tick).exitStops cfg
    tick).triggerPending cfg tick
  match triggered.error with
  | some _ => triggered
  | none =>
      ((triggered.deliver tick).react cfg reaction).sampleEquity cfg tick.time

def handleTick (cfg : SimConfig σ) (reaction : Reaction σ) (s : TickMode σ)
    (stored : StoredTick) : TickMode σ :=
  match s.error with
  | some _ => s
  | none =>
      match stored.tick? with
      | none => { s with error := some .invalidTick }
      | some tick => s.takeTick cfg reaction tick

/-- A replay that took up ticks has at least one point of the curve. -/
def ensurePoint (s : TickMode σ) (lastTick : Option StoredTick) : TickMode σ :=
  match s.equityCurve, lastTick with
  | [], some tick => { s with equityCurve := [(tick.time, s.broker.balance)] }
  | _, _ => s

end TickMode

/-- `_replay_ticks` on a broker; after an exception the last step is left out. -/
def replayTickMode (cfg : SimConfig σ) (reaction : Reaction σ)
    (store : TickStore) (feedList : List Subscription) (start stop : Time)
    (broker : SimBroker σ) : TickMode σ :=
  let replayed := replayTicks (TickMode.handleTick cfg reaction) store feedList
    start stop (.start broker)
  match replayed.2, replayed.1.state.error with
  | none, none => replayed.1.state.ensurePoint replayed.1.ticks.getLast?
  | _, _ => replayed.1.state

end StingerFx
