/-
Module: StingerFx.Backtest.TickReplay
Layer: Backtest
Purpose: The tick replay of the backtester. The range is walked in chunks that end
  at midnight UTC; for each chunk the ticks of every symbol are read from the
  store and merged by time, and each tick first moves the simulated clock and then
  does whatever it does to broker and strategies.
Trusted boundary: human-reviewed model of the source's `_replay_ticks`, of its
  simulated clock and of `iter_ticks_from_table`; what a tick does to the broker,
  the bus and the strategies is any function
Main exports: SimClock, SimClock.advance, StoredTick, iterTicksFromTable, TickStore,
  replaySymbols, mergedTicks, processTicks, replayChunks, replayTicks
-/
import StingerFx.Data.ParquetStore

namespace StingerFx

open Lib ParquetStore

/-! ### The clock -/

structure SimClock where
  now : Time
deriving Repr, DecidableEq

inductive ClockError where
  | backwards (now requested : Time)
deriving Repr, DecidableEq

/-- The text of an error, given the rendering of instants. -/
def ClockError.text (instant : Time → String) : ClockError → String
  | .backwards now requested => "clock cannot run backwards (now=" ++ instant now ++
      ", requested=" ++ instant requested ++ ")"

def SimClock.advance (clock : SimClock) (requested : Time) :
    Except ClockError SimClock :=
  if requested < clock.now then .error (.backwards clock.now requested)
  else .ok ⟨requested⟩

/-! ### Ticks of a table -/

/-- A tick as the replay reads it. -/
structure StoredTick where
  symbol : Symbol
  time : Time
  values : TickValues
deriving Repr, DecidableEq

/-- `datetime.fromtimestamp(time_ns / 1e9, UTC)`; exact for whole microseconds. -/
def fromTimestamp (ns : Int) : Time := ns / 1000

def tickOfRow (symbol : Symbol) (row : Row TickValues) : StoredTick :=
  ⟨symbol, fromTimestamp row.time, row.values⟩

/-- `iter_ticks_from_table`. -/
def iterTicksFromTable (symbol : Symbol) (table : List (Row TickValues)) :
    List StoredTick :=
  table.map (tickOfRow symbol)

/-- The tick folders by symbol. -/
abbrev TickStore := Dict Symbol (Folder TickValues)

/-- `read_ticks` of a symbol; a symbol without a folder has no ticks. -/
def TickStore.readTicks (store : TickStore) (symbol : Symbol) (start stop : Time) :
    List (Row TickValues) :=
  match store.get? symbol with
  | none => []
  | some folder => ParquetStore.readTicks folder start stop

/-- `append_ticks` of a symbol. -/
def TickStore.append (store : TickStore) (symbol : Symbol)
    (batch : Batch TickValues) : TickStore :=
  if batch.items = [] then store
  else store.set symbol
    (appendTicks batch.fails (store.getD symbol .empty) batch.items).folder

/-! ### The replay -/

/-- `sorted({sub.symbol for sub in cfg.feed_list})`. -/
def replaySymbols (feedList : List Subscription) : List Symbol :=
  sortBy id (feedList.map (·.symbol)).dedup

/-- `heapq.merge` of the symbols' ticks in a range, by time. -/
def mergedTicks (store : TickStore) (symbols : List Symbol) (start stop : Time) :
    List StoredTick :=
  mergeFeeds StoredTick.time
    (symbols.map fun symbol =>
      iterTicksFromTable symbol (store.readTicks symbol start stop))

/-- The replay under way: the clock, everything a tick acts on, and the ticks taken
up so far. -/
structure TickReplay (S : Type) where
  clock : SimClock
  state : S
  ticks : List StoredTick

variable {S : Type} (handle : S → StoredTick → S)

/-- The loop over merged ticks; an error of the clock ends the replay. -/
def processTicks : List StoredTick → TickReplay S →
    TickReplay S × Option ClockError
  | [], replay => (replay, none)
  | tick :: rest, replay =>
      match replay.clock.advance tick.time with
      | .error error => (replay, some error)
      | .ok clock =>
          processTicks rest
            ⟨clock, handle replay.state tick, replay.ticks ++ [tick]⟩

def nextMidnight (cursor : Time) : Time :=
  (Time.date cursor + 1) * Time.usPerDay

theorem lt_nextMidnight (cursor : Time) : cursor < nextMidnight cursor := by
  simp only [nextMidnight, Time.date, Time.usPerDay, Time.usPerHour,
    Time.usPerSecond]
  dsimp only [Time] at *
  omega

/-- `while cursor < end`: one chunk up to the next midnight or the end. -/
def replayChunks (store : TickStore) (symbols : List Symbol) (stop : Time)
    (cursor : Time) (replay : TickReplay S) : TickReplay S × Option ClockError :=
  if _before : cursor < stop then
    let chunkEnd := min (nextMidnight cursor) stop
    match processTicks handle (mergedTicks store symbols cursor chunkEnd) replay with
    | (replay, some error) => (replay, some error)
    | (replay, none) => replayChunks store symbols stop chunkEnd replay
  else (replay, none)
termination_by (stop - cursor).toNat
decreasing_by
  have later := lt_nextMidnight cursor
  dsimp only [Time] at *
  omega

/-- `_replay_ticks`. -/
def replayTicks (store : TickStore) (feedList : List Subscription)
    (start stop : Time) (state : S) : TickReplay S × Option ClockError :=
  replayChunks handle store (replaySymbols feedList) stop start ⟨⟨start⟩, state, []⟩

end StingerFx
