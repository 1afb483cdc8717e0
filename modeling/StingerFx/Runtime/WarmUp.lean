/-
Module: StingerFx.Runtime.WarmUp
Layer: Runtime
Purpose: The start of one live bar aggregator. It is on the bus before its warm-up
  begins: the broker's past ticks of a window are fetched, and replayed through the
  same aggregator without output while live ticks wait in its queue or have been
  handled already.
Trusted boundary: human-reviewed model of the source's runtime wiring; a tick is
  known by its place in the broker's history
Main exports: WarmUpPhase, WarmUp, WarmUpLabel, WarmUp.boot, WarmUp.step?,
  WarmUp.Step
-/
import StingerFx.Brokers.BarAggregator
import StingerFx.Core.EventBus
import StingerFx.Lib.Runs

namespace StingerFx

open Lib

/-- How far `_subscribe_one` is. -/
inductive WarmUpPhase where
  /-- waiting for the history -/
  | starting
  /-- the broker has answered with these ticks -/
  | fetched (rows : List Nat)
  | started
deriving Repr, DecidableEq

structure WarmUp where
  /-- the broker's ticks of the symbol, oldest first -/
  history : List Tick
  /-- live ticks that the aggregator has not handled -/
  queue : Mailbox Nat
  phase : WarmUpPhase
  agg : BarAggregator
  /-- the ticks the aggregator was given so far; nothing reads it -/
  given : List Nat
  /-- the bars of the started aggregator; nothing reads it -/
  emitted : List Bar

inductive WarmUpLabel where
  /-- the broker gets a tick -/
  | arrive (tick : Tick)
  /-- a live tick reaches the aggregator's queue -/
  | publish (index : Nat)
  /-- `get_history_ticks` answers with the ticks from one instant to another -/
  | fetch (fromTime now : Time)
  /-- there is no history to be had -/
  | fetchFails
  /-- the replay, which gives way to nothing -/
  | replay
  /-- the aggregator handles a live tick -/
  | handle
deriving Repr, DecidableEq

namespace WarmUp

def boot (symbol : Symbol) (tf : Timeframe) (tf_ne : tf ≠ .tick) : WarmUp where
  history := []
  queue := .create busQueueSize
  phase := .starting
  agg := .create symbol tf tf_ne
  given := []
  emitted := []

/-- The places of the ticks of a window. -/
def window (s : WarmUp) (fromTime now : Time) : List Nat :=
  (List.range s.history.length).filter fun index =>
    (s.history[index]?).any fun tick =>
      decide (fromTime ≤ tick.time ∧ tick.time ≤ now)

/-- The ticks at some places. -/
def ticksAt (s : WarmUp) (indices : List Nat) : List Tick :=
  indices.filterMap fun index => s.history[index]?

/-- The aggregator after a warm-up without output. -/
def warmed (s : WarmUp) (rows : List Nat) : BarAggregator :=
  ((s.agg.setEmitBars false).feed (s.ticksAt rows)).1.setEmitBars true

/-- The state after a step, if the step can happen. -/
def step? (s : WarmUp) : WarmUpLabel → Option WarmUp
  | .arrive tick =>
      if tick.symbol = s.agg.symbol ∧
          ∀ last ∈ s.history.getLast?, last.time ≤ tick.time then
        some { s with history := s.history ++ [tick] }
      else none
  | .publish index =>
      if index < s.history.length then
        some { s with queue := s.queue.push index }
      else none
  | .fetch fromTime now =>
      match s.phase with
      | .starting => some { s with phase := .fetched (s.window fromTime now) }
      | .fetched _ | .started => none
  | .fetchFails =>
      match s.phase with
      | .starting => some { s with phase := .started }
      | .fetched _ | .started => none
  | .replay =>
      match s.phase with
      | .fetched rows =>
          some
            { s with
              phase := .started
              agg := s.warmed rows
              given := s.given ++ rows }
      | .starting | .started => none
  | .handle =>
      match s.queue.pop? with
      | none => none
      | some (index, rest) =>
          match s.history[index]? with
          | none => none
          | some tick =>
              let handled := s.agg.onTick tick
              some
                { s with
                  queue := rest
                  agg := handled.1
                  given := s.given ++ [index]
                  emitted :=
                    if s.phase = .started then
                      s.emitted ++ handled.2.toList
                    else s.emitted }

def Step : WarmUp → WarmUpLabel → WarmUp → Prop := stepOf? step?

end WarmUp

end StingerFx
