/-
Module: StingerFx.Runtime.TickFeed
Layer: Runtime
Purpose: Ticks of a live broker on the bus, and the bar aggregators behind their
  queues. A poll publishes one tick; the replay of a gap publishes its ticks
  without giving way to a consumer. A consumer hands a tick to its aggregator, so
  the bars of an aggregator are what it makes of the ticks it was handed.
Trusted boundary: human-reviewed model of the source's runtime wiring
Main exports: FeedHandler, TickFeed, FeedLabel, TickFeed.step?, TickFeed.Step,
  TickFeed.boot, FeedSubscription.bars
-/
import StingerFx.Brokers.BarAggregator
import StingerFx.Brokers.Mt5Ticks
import StingerFx.Core.EventBus
import StingerFx.Lib.Runs

namespace StingerFx

open Lib

/-- Who listens to ticks. A live aggregator starts with what the backfill left and
emits its bars. -/
inductive FeedHandler where
  | aggregator (start : BarAggregator) (emits : start.emitBars = true)
  | other

/-- Every subscription here is for ticks. -/
abbrev FeedSubscription := BusSubscription Unit FeedHandler TickEvent

abbrev FeedBus := AsyncEventBus Unit FeedHandler TickEvent

def isTick (_ : TickEvent) (_ : Unit) : Bool := true

/-- The bars that the handler has emitted. -/
def FeedSubscription.bars (sub : FeedSubscription) : List Bar :=
  match sub.handler with
  | .aggregator start _ => (start.feed (sub.handled.map TickEvent.tick)).2
  | .other => []

structure TickFeed where
  memory : TickMemory
  bus : FeedBus

inductive FeedLabel where
  /-- the live poller gets an answer of the terminal -/
  | poll (symbol : Symbol) (raw : RawTick)
  /-- the gap-fill gets the rows of one symbol -/
  | gapFill (symbol : Symbol) (rows : List RawTick)
  | consume (index : Nat)
  | subscribe (handler : FeedHandler)

namespace TickFeed

def boot : TickFeed := ⟨.empty, .create⟩

/-- What a poll or a gap-fill publishes. -/
def publishes (s : TickFeed) : FeedLabel → List TickEvent
  | .poll symbol raw =>
      match (s.memory.handlePoll symbol raw).2 with
      | .published event => [event]
      | .seen | .raised => []
  | .gapFill symbol rows =>
      match s.memory.get? symbol with
      -- no baseline
      | none => []
      | some lastSeen => (s.memory.replayRows symbol lastSeen rows).2
  | .consume _ | .subscribe _ => []

/-- The times of the last ticks after a step. -/
def remembers (s : TickFeed) : FeedLabel → TickMemory
  | .poll symbol raw => (s.memory.handlePoll symbol raw).1
  | .gapFill symbol rows =>
      match s.memory.get? symbol with
      | none => s.memory
      | some lastSeen => (s.memory.replayRows symbol lastSeen rows).1
  | .consume _ | .subscribe _ => s.memory

/-- The state after a step, if the step can happen. -/
def step? (s : TickFeed) : FeedLabel → Option TickFeed
  | .poll symbol raw =>
      some
        { memory := s.remembers (.poll symbol raw)
          bus := s.bus.publishAll isTick (s.publishes (.poll symbol raw)) }
  | .gapFill symbol rows =>
      some
        { memory := s.remembers (.gapFill symbol rows)
          bus := s.bus.publishAll isTick (s.publishes (.gapFill symbol rows)) }
  | .consume index =>
      match s.bus.take? index with
      | none => none
      | some (_, _, bus) => some { s with bus := bus }
  | .subscribe handler =>
      match s.bus.subscribe? () handler busQueueSize .dropOldest with
      | none => none
      | some bus => some { s with bus := bus }

def Step : TickFeed → FeedLabel → TickFeed → Prop := stepOf? step?

end TickFeed

end StingerFx
