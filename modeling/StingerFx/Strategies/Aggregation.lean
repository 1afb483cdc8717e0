/-
Module: StingerFx.Strategies.Aggregation
Layer: Strategies
Purpose: From closed H1 bars to H4 and D1 bars. Buckets are anchored at an hour of
  the day, and the hours before the first anchor of a trading week belong to its
  first day. A bucket is emitted when a bar of another one arrives, and only if
  every hour of it that the session calendar marks open has its bar.
Trusted boundary: human-reviewed model of the source's H1 aggregation
Main exports: SessionCalendar, ForexWeekCalendar, h4BucketKey, d1BucketKey,
  expectedOpenSlots, Bucketer, MultiTimeframeAggregator,
  MultiTimeframeAggregator.feed, MultiTimeframeAggregator.feedAll
-/
import StingerFx.Brokers.BarAggregator

namespace StingerFx

open Time

/-- The most recent anchor hour at or before an instant. -/
def anchoredDayStart (t : Time) (anchorHour : Nat) : Time :=
  let d := atHour t anchorHour
  if t < d then d - usPerDay else d

/-- Which hours the market is open for, and where the week opens. -/
structure SessionCalendar where
  isOpen : Time → Bool
  weekOpenBefore : Time → Time

/-- A clock has hours. -/
instance clockHours : NeZero 24 := ⟨by decide⟩

/-- The week of the currency market. -/
structure ForexWeekCalendar where
  /-- on a Sunday; a clock has no other hours -/
  weekOpenHour : Fin 24
  /-- on a Friday -/
  weekCloseHour : Nat
  /-- hours closed on every day -/
  dailyBreakHours : List Nat
deriving Repr, DecidableEq

namespace ForexWeekCalendar

def friday : Int := 4
def saturday : Int := 5
def sunday : Int := 6

def isOpen (calendar : ForexWeekCalendar) (slotStart : Time) : Bool :=
  if (hour slotStart).toNat ∈ calendar.dailyBreakHours then false
  else if weekday (date slotStart) = saturday then false
  else if weekday (date slotStart) = sunday then
    decide ((calendar.weekOpenHour.val : Int) ≤ hour slotStart)
  else if weekday (date slotStart) = friday then
    decide (hour slotStart < calendar.weekCloseHour)
  else true

/-- The most recent opening of the week at or before an instant. -/
def weekOpenBefore (calendar : ForexWeekCalendar) (t : Time) : Time :=
  let daysSinceSunday := (weekday (date t) - sunday) % 7
  let candidate := atHour (t - daysSinceSunday * usPerDay) calendar.weekOpenHour
  if t < candidate then candidate - 7 * usPerDay else candidate

def session (calendar : ForexWeekCalendar) : SessionCalendar :=
  ⟨calendar.isOpen, calendar.weekOpenBefore⟩

end ForexWeekCalendar

/-- Open time of the four-hour bucket of an instant. -/
def h4BucketKey (t : Time) (anchorHour : Nat) : Time :=
  let a := anchoredDayStart t anchorHour
  let hoursSince := (t - a) / usPerHour
  a + 4 * (hoursSince / 4) * usPerHour

/-- The trading day of an instant. A day that begins before the week opens is
merged into the next one. -/
def d1BucketKey (t : Time) (anchorHour : Nat) (calendar : SessionCalendar) :
    Time :=
  let b := anchoredDayStart t anchorHour
  let weekOpen := calendar.weekOpenBefore t
  if b < weekOpen then
    let nb := anchoredDayStart weekOpen anchorHour
    if nb < weekOpen then nb + usPerDay else nb
  else b

/-- The open hours of a bucket, searched from some hours before its key to some
hours after it. -/
def expectedOpenSlots (key : Time) (before after : Nat)
    (keyFn : Time → Time) (calendar : SessionCalendar) : List Time :=
  ((List.range (before + after)).map fun i : Nat =>
    key - before * usPerHour + i * usPerHour).filter fun t =>
      calendar.isOpen t && decide (keyFn t = key)

/-! ### One timeframe -/

theorem foldl_max_ge (start : ℚ) (values : List ℚ) :
    start ≤ values.foldl max start ∧
      ∀ value ∈ values, value ≤ values.foldl max start := by
  induction values generalizing start with
  | nil => exact ⟨le_rfl, fun _ member => by cases member⟩
  | cons first rest ih =>
      rcases ih (max start first) with ⟨base, others⟩
      refine ⟨(le_max_left _ _).trans base, ?_⟩
      intro value member
      rcases List.mem_cons.mp member with rfl | later
      · exact (le_max_right _ _).trans base
      · exact others value later

theorem foldl_min_le (start : ℚ) (values : List ℚ) :
    values.foldl min start ≤ start ∧
      ∀ value ∈ values, values.foldl min start ≤ value := by
  induction values generalizing start with
  | nil => exact ⟨le_rfl, fun _ member => by cases member⟩
  | cons first rest ih =>
      rcases ih (min start first) with ⟨base, others⟩
      refine ⟨base.trans (min_le_left _ _), ?_⟩
      intro value member
      rcases List.mem_cons.mp member with rfl | later
      · exact base.trans (min_le_right _ _)
      · exact others value later

theorem foldl_max_mem (start : ℚ) (values : List ℚ) :
    values.foldl max start ∈ start :: values := by
  induction values generalizing start with
  | nil => exact List.mem_cons_self
  | cons first rest ih =>
      rcases List.mem_cons.mp (ih (max start first)) with base | later
      · rw [List.foldl_cons, base]
        rcases max_choice start first with left | right
        · rw [left]
          exact List.mem_cons_self
        · rw [right]
          exact List.mem_cons_of_mem _ List.mem_cons_self
      · exact List.mem_cons_of_mem _ (List.mem_cons_of_mem _ later)

theorem foldl_min_mem (start : ℚ) (values : List ℚ) :
    values.foldl min start ∈ start :: values := by
  induction values generalizing start with
  | nil => exact List.mem_cons_self
  | cons first rest ih =>
      rcases List.mem_cons.mp (ih (min start first)) with base | later
      · rw [List.foldl_cons, base]
        rcases min_choice start first with left | right
        · rw [left]
          exact List.mem_cons_self
        · rw [right]
          exact List.mem_cons_of_mem _ List.mem_cons_self
      · exact List.mem_cons_of_mem _ (List.mem_cons_of_mem _ later)

/-- The bar that some bars in the order of their times make. -/
def foldBars (symbol : Symbol) (tf : Timeframe) (key : Time) (first : Bar)
    (rest : List Bar) : Bar where
  symbol := symbol
  timeframe := tf
  time := key
  openPrice := first.openPrice
  high := (rest.map Bar.high).foldl max first.high
  low := (rest.map Bar.low).foldl min first.low
  close := (rest.getLast?.getD first).close
  tickVolume := ((first :: rest).map Bar.tickVolume).sum
  low_pos := by
    have reached := foldl_min_mem first.low (rest.map Bar.low)
    rcases List.mem_cons.mp reached with base | later
    · rw [base]
      exact first.low_pos
    · rcases List.mem_map.mp later with ⟨bar, -, same⟩
      rw [← same]
      exact bar.low_pos
  low_le_open := (foldl_min_le _ _).1.trans first.low_le_open
  open_le_high := first.open_le_high.trans (foldl_max_ge _ _).1
  low_le_close := by
    cases last : rest.getLast? with
    | none => exact (foldl_min_le _ _).1.trans first.low_le_close
    | some bar =>
        have member := List.mem_map_of_mem (f := Bar.low)
          (List.mem_of_getLast? last)
        exact ((foldl_min_le _ _).2 _ member).trans bar.low_le_close
  close_le_high := by
    cases last : rest.getLast? with
    | none => exact first.close_le_high.trans (foldl_max_ge _ _).1
    | some bar =>
        have member := List.mem_map_of_mem (f := Bar.high)
          (List.mem_of_getLast? last)
        exact bar.close_le_high.trans ((foldl_max_ge _ _).2 _ member)

/-- The bars of one timeframe's current bucket. -/
structure Bucketer where
  symbol : Symbol
  tf : Timeframe
  keyFn : Time → Time
  expectedFn : Time → List Time
  /-- the bucket and its bars -/
  current : Option (Time × List Bar)

namespace Bucketer

def create (symbol : Symbol) (tf : Timeframe) (keyFn : Time → Time)
    (expectedFn : Time → List Time) : Bucketer :=
  ⟨symbol, tf, keyFn, expectedFn, none⟩

/-- `_finalize`: the bar of a bucket, unless it has no open hour or one of them is
missing. -/
def finalize (b : Bucketer) (key : Time) (bars : List Bar) : Option Bar :=
  let expected := b.expectedFn key
  let received := bars.map Bar.time
  if expected.isEmpty || !expected.all fun slot => decide (slot ∈ received) then
    none
  else
    match bars.insertionSort (fun one two => one.time ≤ two.time) with
    -- a bucket begins with a bar
    | [] => none
    | first :: rest => some (foldBars b.symbol b.tf key first rest)

def feed (b : Bucketer) (bar : Bar) : Bucketer × Option Bar :=
  let key := b.keyFn bar.time
  match b.current with
  | none => ({ b with current := some (key, [bar]) }, none)
  | some (open_, bars) =>
      if key = open_ then
        ({ b with current := some (open_, bars ++ [bar]) }, none)
      else
        ({ b with current := some (key, [bar]) }, b.finalize open_ bars)

end Bucketer

/-! ### Both timeframes -/

structure MultiTimeframeAggregator where
  symbol : Symbol
  lastTime : Option Time
  h4 : Bucketer
  d1 : Bucketer

namespace MultiTimeframeAggregator

/-- An anchor is an hour of the day; any other one raises. -/
def create (symbol : Symbol) (anchorHour : Fin 24)
    (calendar : SessionCalendar) : MultiTimeframeAggregator where
  symbol := symbol
  lastTime := none
  h4 :=
    .create symbol .h4 (fun t => h4BucketKey t anchorHour) fun k =>
      expectedOpenSlots k 0 4 (fun t => h4BucketKey t anchorHour) calendar
  d1 :=
    .create symbol .d1 (fun t => d1BucketKey t anchorHour calendar) fun k =>
      expectedOpenSlots k 26 26 (fun t => d1BucketKey t anchorHour calendar)
        calendar

/-- The bars of the feed that are newer than the last one. -/
def accepts (agg : MultiTimeframeAggregator) (bar : Bar) : Bool :=
  decide (bar.symbol = agg.symbol ∧ bar.timeframe = .h1 ∧
    ∀ last ∈ agg.lastTime, last < bar.time)

/-- The H4 and the D1 bar that an H1 bar completes. -/
def feed (agg : MultiTimeframeAggregator) (bar : Bar) :
    MultiTimeframeAggregator × Option Bar × Option Bar :=
  if agg.accepts bar then
    let h4 := agg.h4.feed bar
    let d1 := agg.d1.feed bar
    ({ agg with lastTime := some bar.time, h4 := h4.1, d1 := d1.1 }, h4.2, d1.2)
  else (agg, none, none)

/-- `fold_h1`: feed bars in order and collect what they complete. -/
def feedAll (agg : MultiTimeframeAggregator) :
    List Bar → MultiTimeframeAggregator × List Bar × List Bar
  | [] => (agg, [], [])
  | bar :: bars =>
      let fed := agg.feed bar
      let later := fed.1.feedAll bars
      (later.1, fed.2.1.toList ++ later.2.1, fed.2.2.toList ++ later.2.2)

end MultiTimeframeAggregator

end StingerFx
