/-
Module: StingerFx.Brokers.Mt5Ticks
Layer: Brokers
Purpose: Ticks of the terminal on their way to the bus. The live poller and the
  gap-fill after a reconnect share the time of the last tick of each symbol: the
  poller drops an answer with exactly this time, the gap-fill drops the rows up
  to the time it read before it asked for them.
Trusted boundary: human-reviewed model of the source's MT5 broker
Main exports: RawTick, RawTick.tickTime, TickEvent, TickMemory, PollResult,
  TickMemory.handlePoll, TickMemory.replayRows
-/
import StingerFx.Domain
import StingerFx.Lib.Dict

namespace StingerFx

open Lib

/-- A tick as the terminal reports it; `timeMsc` is missing where the SDK does
not expose it. -/
structure RawTick where
  time : Int
  timeMsc : Option Int
  bid : ℚ
  ask : ℚ
  last : ℚ
  volume : Int
  flags : Int
deriving Repr, DecidableEq

namespace RawTick

/-- The instant of a tick: milliseconds when they are there and positive, else
whole seconds. -/
def tickTime (raw : RawTick) : Time :=
  match raw.timeMsc with
  | some msc => if 0 < msc then msc * 1000 else raw.time * Time.usPerSecond
  | none => raw.time * Time.usPerSecond

/-- The tick of a raw one, unless a price is refused. -/
def tick? (symbol : Symbol) (raw : RawTick) : Option Tick :=
  if bid_pos : 0 < raw.bid then
    if ask_pos : 0 < raw.ask then
      some
        { symbol := symbol
          time := raw.tickTime
          bid := raw.bid
          ask := raw.ask
          bid_pos := bid_pos
          ask_pos := ask_pos }
    else none
  else none

/-- Both prices pass validation. -/
def Valid (raw : RawTick) : Prop := 0 < raw.bid ∧ 0 < raw.ask

instance (raw : RawTick) : Decidable raw.Valid := by
  unfold Valid
  infer_instance

theorem tick?_of_valid {raw : RawTick} (valid : raw.Valid) (symbol : Symbol) :
    ∃ tick, raw.tick? symbol = some tick ∧ tick.symbol = symbol ∧
      tick.time = raw.tickTime := by
  unfold tick?
  rw [dif_pos valid.1, dif_pos valid.2]
  exact ⟨_, rfl, rfl, rfl⟩

theorem tick?_spec {symbol : Symbol} {raw : RawTick} {tick : Tick}
    (made : raw.tick? symbol = some tick) :
    tick.symbol = symbol ∧ tick.time = raw.tickTime := by
  unfold RawTick.tick? at made
  split at made
  · split at made
    · cases made
      exact ⟨rfl, rfl⟩
    · cases made
  · cases made

/-- The times of a sorted list are at most that of its last entry. -/
theorem le_getLast {rows : List RawTick} {raw last : RawTick}
    (sorted : (rows.map RawTick.tickTime).Pairwise (· ≤ ·))
    (member : raw ∈ rows) (final : rows.getLast? = some last) :
    raw.tickTime ≤ last.tickTime := by
  induction rows with
  | nil => cases member
  | cons first rest ih =>
      rw [List.map_cons, List.pairwise_cons] at sorted
      cases rest with
      | nil =>
          have only : first = last := Option.some.inj final
          rw [List.mem_singleton.mp member, only]
      | cons second others =>
          rw [List.getLast?_cons_cons] at final
          rcases List.mem_cons.mp member with rfl | later
          · apply sorted.1
            apply List.mem_map_of_mem
            exact List.mem_of_getLast? final
          · exact ih sorted.2 later final

end RawTick

/-- A tick on the bus; `replayed` marks one that a gap-fill publishes again. -/
structure TickEvent where
  tick : Tick
  replayed : Bool
deriving Repr, DecidableEq

/-- `_last_tick_time`. -/
abbrev TickMemory := Dict Symbol Time

/-- What the live poller makes of one answer. -/
inductive PollResult where
  /-- the time of the last tick again -/
  | seen
  | published (event : TickEvent)
  /-- the tick is refused, the exception ends the poller -/
  | raised
deriving Repr, DecidableEq

namespace TickMemory

/-- The body of the poller's loop for an answer of the terminal. -/
def handlePoll (memory : TickMemory) (symbol : Symbol) (raw : RawTick) :
    TickMemory × PollResult :=
  if memory.get? symbol = some raw.tickTime then (memory, .seen)
  else
    let noted := memory.set symbol raw.tickTime
    match raw.tick? symbol with
    | some tick => (noted, .published ⟨tick, false⟩)
    | none => (noted, .raised)

/-- Replay the rows after the baseline; a row that is refused is skipped once
its time is noted. -/
def replayRows (symbol : Symbol) (lastSeen : Time) :
    List RawTick → TickMemory → TickMemory × List TickEvent
  | [], memory => (memory, [])
  | raw :: rows, memory =>
      if raw.tickTime ≤ lastSeen then replayRows symbol lastSeen rows memory
      else
        let later :=
          replayRows symbol lastSeen rows (memory.set symbol raw.tickTime)
        (later.1, ((raw.tick? symbol).map (⟨·, true⟩)).toList ++ later.2)

/-- The rows that are replayed. -/
def freshRows (lastSeen : Time) (rows : List RawTick) : List RawTick :=
  rows.filter fun raw => decide (lastSeen < raw.tickTime)

theorem handlePoll_of_seen {memory : TickMemory} {symbol : Symbol}
    {raw : RawTick} (seen : memory.get? symbol = some raw.tickTime) :
    memory.handlePoll symbol raw = (memory, .seen) := by
  unfold handlePoll
  exact if_pos seen

theorem handlePoll_of_fresh {memory : TickMemory} {symbol : Symbol}
    {raw : RawTick} (fresh : memory.get? symbol ≠ some raw.tickTime) :
    memory.handlePoll symbol raw =
      (memory.set symbol raw.tickTime,
        match raw.tick? symbol with
        | some tick => .published ⟨tick, false⟩
        | none => .raised) := by
  unfold handlePoll
  rw [if_neg fresh]
  cases raw.tick? symbol <;> rfl

theorem replayRows_events (symbol : Symbol) (lastSeen : Time)
    (rows : List RawTick) (memory : TickMemory) :
    (replayRows symbol lastSeen rows memory).2 =
      (freshRows lastSeen rows).filterMap fun raw =>
        (raw.tick? symbol).map (⟨·, true⟩) := by
  induction rows generalizing memory with
  | nil => rfl
  | cons raw rows ih =>
      unfold replayRows freshRows
      by_cases old : raw.tickTime ≤ lastSeen
      · rw [if_pos old, ih, List.filter_cons,
          if_neg (by simpa using old)]
        rfl
      · rw [if_neg old, List.filter_cons, if_pos (by simpa using old),
          List.filterMap_cons]
        dsimp only
        rw [ih]
        cases raw.tick? symbol <;> rfl

/-- Afterwards the last tick of the symbol is the last row that was replayed. -/
theorem replayRows_memory (symbol : Symbol) (lastSeen : Time)
    (rows : List RawTick) (memory : TickMemory) (other : Symbol) :
    (replayRows symbol lastSeen rows memory).1.get? other =
      if other = symbol then
        match (freshRows lastSeen rows).getLast? with
        | some raw => some raw.tickTime
        | none => memory.get? other
      else memory.get? other := by
  induction rows generalizing memory with
  | nil => simp [replayRows, freshRows]
  | cons raw rows ih =>
      unfold replayRows
      by_cases old : raw.tickTime ≤ lastSeen
      · have dropped : freshRows lastSeen (raw :: rows) =
            freshRows lastSeen rows := by
          unfold freshRows
          rw [List.filter_cons, if_neg (by simpa using old)]
        rw [if_pos old, ih, dropped]
      · have kept : freshRows lastSeen (raw :: rows) =
            raw :: freshRows lastSeen rows := by
          unfold freshRows
          rw [List.filter_cons, if_pos (by simpa using old)]
        rw [if_neg old, kept]
        dsimp only
        rw [ih, Dict.get?_set]
        by_cases same : other = symbol
        · rw [if_pos same, if_pos same, if_pos same]
          cases fresh : freshRows lastSeen rows with
          | nil => rfl
          | cons next others =>
              rw [List.getLast?_cons_cons]
              cases found : (next :: others).getLast? with
              | none => simp at found
              | some lastRow => rfl
        · rw [if_neg same, if_neg same, if_neg same]

theorem freshRows_sorted {lastSeen : Time} {rows : List RawTick}
    (sorted : (rows.map RawTick.tickTime).Pairwise (· ≤ ·)) :
    ((freshRows lastSeen rows).map
      RawTick.tickTime).Pairwise (· ≤ ·) :=
  sorted.sublist (List.filter_sublist.map RawTick.tickTime)

/-- The events of a replay: replayed ticks of the symbol, made of fresh rows. -/
theorem mem_replayRows {symbol : Symbol} {lastSeen : Time}
    {rows : List RawTick} {memory : TickMemory} {event : TickEvent}
    (member : event ∈ (memory.replayRows symbol lastSeen rows).2) :
    ∃ raw ∈ freshRows lastSeen rows, event.replayed = true ∧
      event.tick.symbol = symbol ∧ event.tick.time = raw.tickTime := by
  rw [replayRows_events] at member
  rcases List.mem_filterMap.mp member with ⟨raw, there, made⟩
  rcases Option.map_eq_some_iff.mp made with ⟨tick, built, rfl⟩
  rcases RawTick.tick?_spec built with ⟨same, time⟩
  exact ⟨raw, there, rfl, same, time⟩

end TickMemory

end StingerFx
