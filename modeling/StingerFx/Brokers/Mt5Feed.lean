/-
Module: StingerFx.Brokers.Mt5Feed
Layer: Brokers
Purpose: The tick side of the MT5 broker as two tasks around one terminal. The
  poller asks for the latest tick of each subscribed symbol and looks at the
  connection once per round; the recovery task notices a loss, brings the SDK up
  again, and replays what each symbol missed before it reports the connection.
  Both share the time of the last tick of each symbol, and every await is a point
  where the other may run.
Trusted boundary: human-reviewed model of the source's MT5 broker
Main exports: Poller, Recovery, PublishedTick, Mt5Feed, Mt5Label,
  Mt5Feed.step?, Mt5Feed.Step, Mt5Feed.boot
-/
import StingerFx.Brokers.Mt5Ticks
import StingerFx.Lib.Runs

namespace StingerFx

open Lib

/-- A tick the terminal holds, with its number among those of its symbol. -/
structure HeldTick where
  raw : RawTick
  number : Nat
deriving Repr, DecidableEq

/-- Where `_tick_loop` is. -/
inductive Poller where
  /-- between two rounds -/
  | resting
  /-- an answer for the symbol is awaited -/
  | asking (symbol : Symbol) (rest : List Symbol)
  /-- the SDK has answered, or has nothing to say -/
  | holding (symbol : Symbol) (answer : Option HeldTick) (rest : List Symbol)
  /-- an exception has ended the task -/
  | dead
deriving Repr, DecidableEq

/-- The next symbol of a round, or the sleep after it. -/
def Poller.next : List Symbol → Poller
  | [] => .resting
  | symbol :: rest => .asking symbol rest

/-- Where `_health_loop` and the reconnect are. -/
inductive Recovery where
  | watching
  /-- attempts to bring the SDK up -/
  | backingOff
  /-- the SDK is up, the symbols are selected again -/
  | selecting
  /-- the gap-fill, before the next symbol -/
  | filling (now : Time) (todo : List Symbol)
  /-- rows after the baseline are awaited -/
  | fetching (now : Time) (symbol : Symbol) (lastSeen : Time)
      (todo : List Symbol)
  /-- the SDK has returned the rows -/
  | replaying (now : Time) (symbol : Symbol) (lastSeen : Time)
      (rows : List HeldTick) (todo : List Symbol)
deriving Repr, DecidableEq

/-- A tick event on the bus, with the number of its tick. -/
structure PublishedTick where
  event : TickEvent
  number : Nat
deriving Repr, DecidableEq

namespace PublishedTick

def symbol (published : PublishedTick) : Symbol := published.event.tick.symbol

def time (published : PublishedTick) : Time := published.event.tick.time

end PublishedTick

structure Mt5Feed where
  connected : Bool
  tickSubs : List Symbol
  /-- `_last_tick_time` -/
  memory : TickMemory
  /-- what the terminal holds of each symbol -/
  held : Symbol → List RawTick
  poller : Poller
  recovery : Recovery
  published : List PublishedTick
  /-- what was published when the last loss was noticed; nothing reads it -/
  lost : List PublishedTick
  /-- what the terminal held at the last reconnect after the last tick published
  before the loss; nothing reads it -/
  owed : Symbol → List HeldTick

inductive Mt5Label where
  /-- a tick reaches the terminal -/
  | arrive (symbol : Symbol) (raw : RawTick)
  | pollRound
  /-- the SDK works on `symbol_info_tick` -/
  | sdkTick (answers : Bool)
  | pollHandle
  /-- `terminal_info` fails -/
  | detect
  /-- `initialize` succeeds -/
  | reconnect
  | startFill (now : Time)
  /-- the gap-fill reads the baseline of the next symbol -/
  | fetch
  /-- the SDK works on `copy_ticks_range`, or raises -/
  | sdkTicks (returns : Bool)
  | replay
  /-- a call or the whole gap-fill takes too long -/
  | timeout
  | finish
deriving Repr, DecidableEq

namespace Mt5Feed

def boot (tickSubs : List Symbol) : Mt5Feed where
  connected := true
  tickSubs := tickSubs
  memory := .empty
  held := fun _ => []
  poller := .resting
  recovery := .watching
  published := []
  lost := []
  owed := fun _ => []

/-- The ticks the terminal holds of a symbol, oldest first. -/
def holdings (s : Mt5Feed) (symbol : Symbol) : List HeldTick :=
  (s.held symbol).zipIdx.map fun entry => ⟨entry.1, entry.2⟩

/-- `symbol_info_tick`: the latest tick. -/
def symbolInfoTick (s : Mt5Feed) (symbol : Symbol) : Option HeldTick :=
  (s.holdings symbol).getLast?

/-- `copy_ticks_range`: both ends belong to the range. -/
def copyTicksRange (s : Mt5Feed) (symbol : Symbol) (start stop : Time) :
    List HeldTick :=
  (s.holdings symbol).filter fun tick =>
    decide (start ≤ tick.raw.tickTime ∧ tick.raw.tickTime ≤ stop)

/-- What was published of a symbol, oldest first. -/
def streamOf (published : List PublishedTick) (symbol : Symbol) :
    List PublishedTick :=
  published.filter fun tick => decide (tick.symbol = symbol)

def stream (s : Mt5Feed) : Symbol → List PublishedTick :=
  streamOf s.published

/-- What the terminal holds after the last tick published before the loss. -/
def missed (s : Mt5Feed) (symbol : Symbol) : List HeldTick :=
  match (streamOf s.lost symbol).getLast? with
  | none => []
  | some last =>
      (s.holdings symbol).filter fun tick =>
        decide (last.time < tick.raw.tickTime)

/-- The events of a replay, each with the number of its tick. -/
def replayed (symbol : Symbol) (lastSeen : Time) (rows : List HeldTick) :
    List PublishedTick :=
  (rows.filter fun tick => decide (lastSeen < tick.raw.tickTime)).filterMap
    fun tick =>
      (tick.raw.tick? symbol).map fun made => ⟨⟨made, true⟩, tick.number⟩

/-- The state after a step, if the step can happen. -/
def step? (s : Mt5Feed) : Mt5Label → Option Mt5Feed
  | .arrive symbol raw =>
      some
        { s with
          held := Function.update s.held symbol (s.held symbol ++ [raw]) }
  | .pollRound =>
      match s.poller with
      | .resting =>
          -- the only look at the connection
          if s.connected then some { s with poller := .next s.tickSubs }
          else none
      | .asking _ _ | .holding _ _ _ | .dead => none
  | .sdkTick answers =>
      match s.poller with
      | .asking symbol rest =>
          let answer := if answers then s.symbolInfoTick symbol else none
          some { s with poller := .holding symbol answer rest }
      | .resting | .holding _ _ _ | .dead => none
  | .pollHandle =>
      match s.poller with
      | .holding _ none rest => some { s with poller := .next rest }
      | .holding symbol (some tick) rest =>
          match s.memory.handlePoll symbol tick.raw with
          | (_, .seen) => some { s with poller := .next rest }
          | (memory, .published event) =>
              some
                { s with
                  memory := memory
                  poller := .next rest
                  published := s.published ++ [⟨event, tick.number⟩] }
          | (memory, .raised) =>
              some { s with memory := memory, poller := .dead }
      | .resting | .asking _ _ | .dead => none
  | .detect =>
      match s.recovery with
      | .watching =>
          some
            { s with
              connected := false
              recovery := .backingOff
              lost := s.published }
      | _ => none
  | .reconnect =>
      match s.recovery with
      | .backingOff =>
          some { s with recovery := .selecting, owed := s.missed }
      | _ => none
  | .startFill now =>
      match s.recovery with
      | .selecting => some { s with recovery := .filling now s.tickSubs }
      | _ => none
  | .fetch =>
      match s.recovery with
      | .filling now (symbol :: todo) =>
          match s.memory.get? symbol with
          -- no baseline
          | none => some { s with recovery := .filling now todo }
          | some lastSeen =>
              some { s with recovery := .fetching now symbol lastSeen todo }
      | _ => none
  | .sdkTicks returns =>
      match s.recovery with
      | .fetching now symbol lastSeen todo =>
          if returns then
            let rows := s.copyTicksRange symbol lastSeen now
            some { s with recovery := .replaying now symbol lastSeen rows todo }
          else some { s with recovery := .filling now todo }
      | _ => none
  | .replay =>
      match s.recovery with
      | .replaying now symbol lastSeen rows todo =>
          some
            { s with
              memory :=
                (s.memory.replayRows symbol lastSeen
                  (rows.map HeldTick.raw)).1
              recovery := .filling now todo
              published := s.published ++ replayed symbol lastSeen rows }
      | _ => none
  | .timeout =>
      match s.recovery with
      | .filling now _ | .fetching now _ _ _ | .replaying now _ _ _ _ =>
          some { s with recovery := .filling now [] }
      | .watching | .backingOff | .selecting => none
  | .finish =>
      match s.recovery with
      | .filling _ [] =>
          some { s with connected := true, recovery := .watching }
      | _ => none

def Step : Mt5Feed → Mt5Label → Mt5Feed → Prop := stepOf? step?

/-- The events are those of the shared replay. -/
theorem replayed_events (symbol : Symbol) (lastSeen : Time)
    (rows : List HeldTick) (memory : TickMemory) :
    (replayed symbol lastSeen rows).map PublishedTick.event =
      (memory.replayRows symbol lastSeen (rows.map HeldTick.raw)).2 := by
  rw [TickMemory.replayRows_events, replayed, TickMemory.freshRows,
    List.filter_map, List.filterMap_map, List.map_filterMap]
  congr 1
  funext tick
  rw [Option.map_map]
  rfl

/-- What the terminal holds, by number. -/
theorem mem_holdings {s : Mt5Feed} {symbol : Symbol} {tick : HeldTick} :
    tick ∈ s.holdings symbol ↔
      (s.held symbol)[tick.number]? = some tick.raw := by
  rw [holdings, List.mem_map]
  constructor
  · rintro ⟨entry, member, rfl⟩
    exact List.mem_zipIdx_iff_getElem?.mp member
  · intro found
    exact ⟨(tick.raw, tick.number), List.mem_zipIdx_iff_getElem?.mpr found, rfl⟩

/-- The numbers go up along what the terminal holds. -/
theorem holdings_sorted (s : Mt5Feed) (symbol : Symbol) :
    (s.holdings symbol).Pairwise fun a b => a.number < b.number := by
  have numbers : ((s.held symbol).zipIdx.map Prod.snd).Pairwise (· < ·) := by
    rw [List.zipIdx_map_snd]
    exact List.pairwise_lt_range'
  rw [List.pairwise_map] at numbers
  rw [holdings, List.pairwise_map]
  exact numbers

end Mt5Feed

end StingerFx
