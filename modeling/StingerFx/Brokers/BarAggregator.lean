/-
Module: StingerFx.Brokers.BarAggregator
Layer: Brokers
Purpose: From ticks to closed bars. An aggregator folds the bids of its symbol into
  the bar of the current period and emits it when a tick of a later period
  arrives. Each emitted bar spans a stretch of consecutive ticks, and the
  stretches follow one another without a gap.
Trusted boundary: human-reviewed model of the source's bar aggregator
Main exports: barOpenTime, OpenBar, BarAggregator, BarAggregator.onTick,
  BarAggregator.feed, BarAggregator.copyStateInto, BarOf, BarAggregator.feed_spec
-/
import StingerFx.Domain

namespace StingerFx

namespace Time

/-- Day of the month of a date, in the proleptic Gregorian calendar. Years start
in March here, so that leap days come last. -/
def dayOfMonth (date : Int) : Int :=
  let shifted := date + 719468
  let dayOfEra := shifted % 146097
  let yearOfEra :=
    (dayOfEra - dayOfEra / 1460 + dayOfEra / 36524 - dayOfEra / 146096) / 365
  let dayOfYear := dayOfEra - (365 * yearOfEra + yearOfEra / 4 - yearOfEra / 100)
  let month := (5 * dayOfYear + 2) / 153
  dayOfYear - (153 * month + 2) / 5 + 1

/-- Days since the Monday of the week; the epoch was a Thursday. -/
def weekday (date : Int) : Int := (date + 3) % 7

end Time

/-- The instant at which the bar of an instant opens. -/
def barOpenTime (t : Time) (tf : Timeframe) : Time :=
  match tf with
  | .w1 => (Time.date t - Time.weekday (Time.date t)) * Time.usPerDay
  | .mn1 => (Time.date t - Time.dayOfMonth (Time.date t) + 1) * Time.usPerDay
  | tf =>
      match tf.seconds with
      -- no aggregator is built for TICK
      | none => t
      | some seconds =>
          let epoch := Int.tdiv t Time.usPerSecond
          (epoch - epoch % seconds) * Time.usPerSecond

/-- The bar of the current period. -/
structure OpenBar where
  openTime : Time
  openPrice : ℚ
  high : ℚ
  low : ℚ
  close : ℚ
  tickCount : Nat
  low_pos : 0 < low
  low_le_open : low ≤ openPrice
  open_le_high : openPrice ≤ high
  low_le_close : low ≤ close
  close_le_high : close ≤ high
deriving Repr

namespace OpenBar

/-- A bar that begins with a tick. -/
def reset (openTime : Time) (t : Tick) : OpenBar where
  openTime := openTime
  openPrice := t.bid
  high := t.bid
  low := t.bid
  close := t.bid
  tickCount := 1
  low_pos := t.bid_pos
  low_le_open := le_rfl
  open_le_high := le_rfl
  low_le_close := le_rfl
  close_le_high := le_rfl

/-- The bar after one more tick of its period. -/
def update (bar : OpenBar) (t : Tick) : OpenBar where
  openTime := bar.openTime
  openPrice := bar.openPrice
  high := max bar.high t.bid
  low := min bar.low t.bid
  close := t.bid
  tickCount := bar.tickCount + 1
  low_pos := lt_min bar.low_pos t.bid_pos
  low_le_open := (min_le_left _ _).trans bar.low_le_open
  open_le_high := bar.open_le_high.trans (le_max_left _ _)
  low_le_close := min_le_right _ _
  close_le_high := le_max_right _ _

end OpenBar

structure BarAggregator where
  symbol : Symbol
  tf : Timeframe
  emitBars : Bool
  current : Option OpenBar
  tf_ne : tf ≠ .tick

theorem minute_ne_tick : Timeframe.m1 ≠ .tick := by decide

namespace BarAggregator

def create (symbol : Symbol) (tf : Timeframe) (tf_ne : tf ≠ .tick) :
    BarAggregator where
  symbol := symbol
  tf := tf
  emitBars := true
  current := none
  tf_ne := tf_ne

/-- The closed bar; nothing during a warm-up. -/
def emit (agg : BarAggregator) (bar : OpenBar) : Option Bar :=
  if agg.emitBars then
    some
      { symbol := agg.symbol
        timeframe := agg.tf
        time := bar.openTime
        openPrice := bar.openPrice
        high := bar.high
        low := bar.low
        close := bar.close
        tickVolume := bar.tickCount
        low_pos := bar.low_pos
        low_le_open := bar.low_le_open
        open_le_high := bar.open_le_high
        low_le_close := bar.low_le_close
        close_le_high := bar.close_le_high }
  else none

/-- Handle a tick; a tick of a later period closes the current bar. -/
def onTick (agg : BarAggregator) (t : Tick) : BarAggregator × Option Bar :=
  if t.symbol ≠ agg.symbol then (agg, none)
  else
    let boundary := barOpenTime t.time agg.tf
    match agg.current with
    | none => ({ agg with current := some (.reset boundary t) }, none)
    | some bar =>
        if bar.openTime < boundary then
          ({ agg with current := some (.reset boundary t) }, agg.emit bar)
        else ({ agg with current := some (bar.update t) }, none)

/-- Handle ticks in order and collect the bars. -/
def feed (agg : BarAggregator) : List Tick → BarAggregator × List Bar
  | [] => (agg, [])
  | t :: ticks =>
      let handled := agg.onTick t
      let later := handled.1.feed ticks
      (later.1, handled.2.toList ++ later.2)

/-- `copy_state_into`: the receiver goes on with the bar of this aggregator. A
receiver of another feed raises. -/
def copyStateInto (agg other : BarAggregator) : Option BarAggregator :=
  if other.symbol ≠ agg.symbol ∨ other.tf ≠ agg.tf then none
  else some { other with current := agg.current }

/-- Switch `emit_bars`. -/
def setEmitBars (agg : BarAggregator) (emitBars : Bool) : BarAggregator :=
  { agg with emitBars := emitBars }

end BarAggregator

/-! ### What a bar says about its ticks -/

/-- Prices that bids stay between, that they reach, and where they end. -/
structure Spans (high low close : ℚ) (count : Nat) (chunk : List Tick) : Prop where
  counted : count = chunk.length
  nonempty : chunk ≠ []
  within : ∀ tick ∈ chunk, low ≤ tick.bid ∧ tick.bid ≤ high
  highest : ∃ tick ∈ chunk, tick.bid = high
  lowest : ∃ tick ∈ chunk, tick.bid = low
  last : ∃ before tick, chunk = before ++ [tick] ∧ tick.bid = close

/-- A bar made of a stretch of ticks. -/
def BarOf (bar : Bar) (chunk : List Tick) : Prop :=
  Spans bar.high bar.low bar.close bar.tickVolume chunk

def OpenBar.Of (bar : OpenBar) (chunk : List Tick) : Prop :=
  Spans bar.high bar.low bar.close bar.tickCount chunk

namespace OpenBar

theorem reset_of (openTime : Time) (t : Tick) : (reset openTime t).Of [t] where
  counted := rfl
  nonempty := List.cons_ne_nil _ _
  within := by
    intro tick member
    rw [List.mem_singleton.mp member]
    exact ⟨le_rfl, le_rfl⟩
  highest := ⟨t, List.mem_cons_self, rfl⟩
  lowest := ⟨t, List.mem_cons_self, rfl⟩
  last := ⟨[], t, rfl, rfl⟩

theorem update_of {bar : OpenBar} {chunk : List Tick} (spans : bar.Of chunk)
    (t : Tick) : (bar.update t).Of (chunk ++ [t]) where
  counted := by
    have counted : bar.tickCount = chunk.length := spans.counted
    simp [update, counted]
  nonempty := by simp
  within := by
    intro tick member
    rcases List.mem_append.mp member with old | new
    · rcases spans.within tick old with ⟨above, below⟩
      exact ⟨(min_le_left _ _).trans above, below.trans (le_max_left _ _)⟩
    · rw [List.mem_singleton.mp new]
      exact ⟨min_le_right _ _, le_max_right _ _⟩
  highest := by
    rcases spans.highest with ⟨top, member, reached⟩
    rcases max_choice bar.high t.bid with old | new
    · exact ⟨top, List.mem_append_left _ member, reached.trans old.symm⟩
    · exact ⟨t, List.mem_append_right _ List.mem_cons_self, new.symm⟩
  lowest := by
    rcases spans.lowest with ⟨bottom, member, reached⟩
    rcases min_choice bar.low t.bid with old | new
    · exact ⟨bottom, List.mem_append_left _ member, reached.trans old.symm⟩
    · exact ⟨t, List.mem_append_right _ List.mem_cons_self, new.symm⟩
  last := ⟨chunk, t, rfl, rfl⟩

end OpenBar

namespace BarAggregator

/-- The current bar, if any, is made of the ticks since it began. -/
def Tracks (agg : BarAggregator) (chunk : List Tick) : Prop :=
  match agg.current with
  | none => chunk = []
  | some bar => bar.Of chunk

/-- Ticks of the symbol fall into consecutive stretches, one for each bar, and
the ticks of the bar that is still open. -/
theorem feed_spec :
    ∀ (ticks : List Tick) (agg : BarAggregator) (chunk : List Tick),
      agg.emitBars = true → agg.Tracks chunk →
      (∀ tick ∈ ticks, tick.symbol = agg.symbol) →
      ∃ chunks rest, chunk ++ ticks = chunks.flatten ++ rest ∧
        List.Forall₂ BarOf (agg.feed ticks).2 chunks
  | [], _, chunk, _, _, _ =>
      ⟨[], chunk, List.append_nil chunk, .nil⟩
  | t :: ticks, agg, chunk, emits, tracks, mine => by
      have same : t.symbol = agg.symbol := mine t List.mem_cons_self
      have others : ∀ tick ∈ ticks, tick.symbol = agg.symbol :=
        fun tick member => mine tick (List.mem_cons_of_mem _ member)
      have whole : chunk ++ t :: ticks = (chunk ++ [t]) ++ ticks := by simp
      unfold feed onTick
      rw [if_neg (not_not.mpr same)]
      unfold Tracks at tracks
      dsimp only
      split
      · -- the first tick begins a bar
        rename_i nothing
        rw [nothing] at tracks
        dsimp only at tracks
        subst tracks
        exact feed_spec ticks
          { agg with current := some (.reset (barOpenTime t.time agg.tf) t) }
          [t] emits (OpenBar.reset_of _ t) others
      · rename_i bar current
        rw [current] at tracks
        split
        · -- the bar closes with the ticks it has
          rcases feed_spec ticks
            { agg with current := some (.reset (barOpenTime t.time agg.tf) t) }
            [t] emits (OpenBar.reset_of _ t) others with
            ⟨chunks, rest, split, bars⟩
          refine ⟨chunk :: chunks, rest, ?_, ?_⟩
          · rw [List.flatten_cons, List.append_assoc, ← split]
            rfl
          · unfold emit
            rw [if_pos emits]
            exact .cons tracks bars
        · rw [whole]
          exact feed_spec ticks { agg with current := some (bar.update t) }
            (chunk ++ [t]) emits (OpenBar.update_of tracks t) others

/-- Bars carry the symbol of their aggregator. -/
theorem feed_symbol :
    ∀ (ticks : List Tick) (agg : BarAggregator),
      ∀ bar ∈ (agg.feed ticks).2, bar.symbol = agg.symbol
  | [], _, _, member => by cases member
  | t :: ticks, agg, bar, member => by
      unfold feed at member
      rcases List.mem_append.mp member with now | later
      · unfold onTick emit at now
        split at now
        · cases now
        · dsimp only at now
          split at now
          · cases now
          · split at now
            · split at now
              · cases List.mem_singleton.mp now
                rfl
              · cases now
            · cases now
      · have same : (agg.onTick t).1.symbol = agg.symbol := by
          unfold onTick
          split
          · rfl
          · dsimp only
            split
            · rfl
            · split <;> rfl
        exact (feed_symbol ticks _ bar later).trans same

end BarAggregator

end StingerFx
