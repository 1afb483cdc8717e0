/-
Module: StingerFx.Proofs.TrendFolds
Layer: Proofs
Purpose: The trend that a scalper folds from its entry bars is that of the live feed of
  the higher timeframe. Whatever the ticks, at every entry bar the recorded bars are
  those that the aggregator of the higher timeframe closes before the period of the
  entry bar, figure for figure, and the filters decide as on these.
Trusted boundary: none (fully proved)
Main exports: TrendFrames.barOpenTime_nested, Candle, trend_follows_feed
-/
import StingerFx.Lib.Groups
import StingerFx.Proofs.BarGroups
import StingerFx.Proofs.StreamingIndicators
import StingerFx.Strategies.Examples.TrendFold

namespace StingerFx

open Lib

/-! ### Periods in periods -/

/-- The boundary of a timeframe that does not follow the calendar. -/
theorem barOpenTime_eq {tf : Timeframe} {seconds : Nat}
    (fixed : tf.seconds = some seconds) (uncalendared : tf ≠ .w1 ∧ tf ≠ .mn1)
    (t : Time) :
    barOpenTime t tf =
      Int.tdiv t Time.usPerSecond / seconds * seconds * Time.usPerSecond := by
  have floored : ∀ epoch : Int,
      epoch - epoch % seconds = epoch / seconds * seconds := by
    intro epoch
    have whole := Int.emod_add_mul_ediv epoch seconds
    rw [mul_comm] at whole
    omega
  cases tf with
  | w1 => exact absurd rfl uncalendared.1
  | mn1 => exact absurd rfl uncalendared.2
  | tick => cases fixed
  | _ =>
      cases fixed
      simp only [barOpenTime, Timeframe.seconds, floored]

/-- The seconds of a whole second. -/
theorem tdiv_whole (seconds : Int) :
    Int.tdiv (seconds * Time.usPerSecond) Time.usPerSecond = seconds :=
  Int.mul_tdiv_cancel _ (by decide)

theorem seconds_pos {tf : Timeframe} {seconds : Nat}
    (fixed : tf.seconds = some seconds) : 0 < seconds := by
  cases tf <;> cases fixed <;> decide

/-- Only the timeframes of the calendar are longer than a day. -/
theorem uncalendared_iff {tf : Timeframe} {seconds : Nat}
    (fixed : tf.seconds = some seconds) :
    (tf ≠ .w1 ∧ tf ≠ .mn1) ↔ seconds ≤ 86400 := by
  cases tf <;> cases fixed <;> decide

namespace TrendFrames

variable (frames : TrendFrames)

/-- The entry timeframe does not follow the calendar either. -/
theorem entry_uncalendared : frames.entry ≠ .w1 ∧ frames.entry ≠ .mn1 := by
  have day := (uncalendared_iff frames.trend_seconds).mp frames.uncalendared
  exact (uncalendared_iff frames.entry_seconds).mpr (frames.higher.le.trans day)

/-- A bar opens in the period that its ticks have in the higher timeframe. -/
theorem barOpenTime_nested (t : Time) :
    barOpenTime (barOpenTime t frames.entry) frames.trend =
      barOpenTime t frames.trend := by
  obtain ⟨times, long⟩ := Nat.dvd_of_mod_eq_zero frames.multiple
  have short := seconds_pos frames.entry_seconds
  rw [barOpenTime_eq frames.entry_seconds frames.entry_uncalendared,
    barOpenTime_eq frames.trend_seconds frames.uncalendared,
    barOpenTime_eq frames.trend_seconds frames.uncalendared, tdiv_whole, long]
  push_cast
  rw [← Int.ediv_ediv_of_nonneg (Int.natCast_nonneg _),
    ← Int.ediv_ediv_of_nonneg (Int.natCast_nonneg _),
    Int.mul_ediv_cancel _ (by exact_mod_cast short.ne')]

/-- The period of the fold's key. -/
theorem key_period (bar : Bar) :
    barOpenTime bar.time frames.trend =
      frames.key bar * frames.trendSeconds * Time.usPerSecond :=
  barOpenTime_eq frames.trend_seconds frames.uncalendared bar.time

end TrendFrames

/-! ### The folds as streams -/

namespace TrendFrames

def barStream (frames : TrendFrames) : GroupStream Bar Int OpenBar :=
  ⟨frames.key, .ofBar, .join⟩

variable {frames : TrendFrames} {symbol : Symbol} {bars : List Bar} {bar : Bar}

theorem foldTrend_step (same : bar.symbol = symbol)
    (state : Option (Int × OpenBar) × List (Int × OpenBar)) :
    TrendFold.foldTrend frames
        ⟨state.1, lastN trendCapacity (state.2.map fun closed =>
          closed.2.toBar symbol frames.trend)⟩ bar =
      ⟨(frames.barStream.step state.1 bar).1,
        lastN trendCapacity ((state.2 ++
          (frames.barStream.step state.1 bar).2.toList).map fun closed =>
            closed.2.toBar symbol frames.trend)⟩ := by
  obtain ⟨current, closed⟩ := state
  cases current with
  | none => simp [TrendFold.foldTrend, barStream]
  | some open_ =>
      obtain ⟨k, bucket⟩ := open_
      by_cases here : frames.key bar = k
      · have stays := @GroupStream.step_same _ _ _ _ frames.barStream bar k bucket here
        rw [stays]
        simp [TrendFold.foldTrend, here, barStream]
      · have ends := @GroupStream.step_other _ _ _ _ frames.barStream bar k bucket here
        rw [ends]
        simp [TrendFold.foldTrend, here, barStream, same, pushBounded_lastN]

theorem lastN_nil {α : Type} (n : Nat) : lastN n ([] : List α) = [] :=
  List.drop_nil

theorem foldTrend_run (own : ∀ bar ∈ bars, bar.symbol = symbol) :
    bars.foldl (TrendFold.foldTrend frames) .create =
      ⟨(frames.barStream.run bars).1,
        lastN trendCapacity ((frames.barStream.run bars).2.map fun closed =>
          closed.2.toBar symbol frames.trend)⟩ := by
  induction bars using List.reverseRecOn with
  | nil => exact congrArg (TrendFold.mk none) (lastN_nil _).symm
  | append_singleton bars bar ih =>
      rw [List.foldl_append, ih fun other member => own other (by simp [member]),
        GroupStream.run_concat]
      exact foldTrend_step (own bar (by simp)) _

theorem lastN_map {α β : Type} (n : Nat) (f : α → β) (items : List α) :
    lastN n (items.map f) = (lastN n items).map f := by
  rw [lastN, lastN, List.length_map, List.map_drop]

/-- The fold of the closes. -/
def closesOf (fold : TrendFold) : TrendCloses where
  current := fold.current.map fun open_ => (open_.1, open_.2.close)
  closes := fold.bars.map Bar.close

theorem closesOf_foldTrend (fold : TrendFold) (bar : Bar) :
    TrendCloses.foldTrend frames (closesOf fold) bar =
      closesOf (TrendFold.foldTrend frames fold bar) := by
  obtain ⟨current, recorded⟩ := fold
  cases current with
  | none => rfl
  | some open_ =>
      by_cases here : frames.key bar = open_.1
      · simp [TrendCloses.foldTrend, TrendFold.foldTrend, closesOf, here, OpenBar.join]
      · simp [TrendCloses.foldTrend, TrendFold.foldTrend, closesOf, here, OpenBar.ofBar,
          pushBounded, ← lastN_map, OpenBar.toBar]

/-- Folding closes only loses nothing of the closes. -/
theorem closes_run (bars : List Bar) :
    bars.foldl (TrendCloses.foldTrend frames) .create =
      closesOf (bars.foldl (TrendFold.foldTrend frames) .create) := by
  induction bars using List.reverseRecOn with
  | nil => rfl
  | append_singleton bars bar ih =>
      rw [List.foldl_append, List.foldl_append, ih]
      exact closesOf_foldTrend _ bar

end TrendFrames

/-! ### A bucket of bars and its ticks -/

/-- The figures of some ticks. -/
structure Candle (bucket : OpenBar) (chunk : List Tick) : Prop where
  opens : chunk.head?.map Tick.bid = some bucket.openPrice
  spans : bucket.Of chunk

variable {symbol : Symbol} {tf : Timeframe} {bar : Bar} {group : Time × List Tick}

/-- A bar of a group has the figures of its ticks. -/
theorem GroupBar.candle (grouped : GroupBar symbol tf bar group) :
    Candle (.ofBar bar) group.2 where
  opens := grouped.openPrice
  spans :=
    { counted := grouped.tickVolume
      nonempty := by
        intro empty
        have first := grouped.openPrice
        rw [empty] at first
        cases first
      within := fun tick member =>
        ⟨grouped.low.2 ⟨tick, member, rfl⟩, grouped.high.2 ⟨tick, member, rfl⟩⟩
      highest := grouped.high.1
      lowest := grouped.low.1
      last := by
        obtain ⟨tick, here, close⟩ := Option.map_eq_some_iff.mp grouped.close
        obtain ⟨before, split⟩ := List.getLast?_eq_some_iff.mp here
        exact ⟨before, tick, split, close⟩ }

/-- A bar that joins a bucket brings the figures of its ticks. -/
theorem Candle.join {bucket : OpenBar} {chunk : List Tick} (candle : Candle bucket chunk)
    (grouped : GroupBar symbol tf bar group) :
    Candle (bucket.join bar) (chunk ++ group.2) := by
  obtain ⟨counted, nonempty, within, highest, lowest, -⟩ := candle.spans
  have joined := grouped.candle.spans
  constructor
  · rw [List.head?_append_of_ne_nil _ nonempty]
    exact candle.opens
  · refine ⟨?_, ?_, ?_, ?_, ?_, ?_⟩
    · rw [List.length_append, ← counted]
      exact congrArg (bucket.tickCount + ·) grouped.tickVolume
    · simp [nonempty]
    · intro tick member
      rcases List.mem_append.mp member with old | new
      · obtain ⟨above, below⟩ := within tick old
        exact ⟨(min_le_left _ _).trans above, below.trans (le_max_left _ _)⟩
      · obtain ⟨above, below⟩ := joined.within tick new
        exact ⟨(min_le_right _ _).trans above, below.trans (le_max_right _ _)⟩
    · rcases max_choice bucket.high bar.high with old | new
      · obtain ⟨top, member, reached⟩ := highest
        exact ⟨top, List.mem_append_left _ member, reached.trans old.symm⟩
      · obtain ⟨top, member, reached⟩ := joined.highest
        exact ⟨top, List.mem_append_right _ member, reached.trans new.symm⟩
    · rcases min_choice bucket.low bar.low with old | new
      · obtain ⟨bottom, member, reached⟩ := lowest
        exact ⟨bottom, List.mem_append_left _ member, reached.trans old.symm⟩
      · obtain ⟨bottom, member, reached⟩ := joined.lowest
        exact ⟨bottom, List.mem_append_right _ member, reached.trans new.symm⟩
    · obtain ⟨before, tick, split, close⟩ := joined.last
      refine ⟨chunk ++ before, tick, ?_, close⟩
      rw [split, List.append_assoc]

/-- The figures of ticks are their own. -/
theorem Spans.unique {high low close high' low' close' : ℚ} {count count' : Nat}
    {chunk : List Tick} (one : Spans high low close count chunk)
    (two : Spans high' low' close' count' chunk) :
    high = high' ∧ low = low' ∧ close = close' ∧ count = count' := by
  have below : ∀ {h l c h' l' c' : ℚ} {n n' : Nat}, Spans h l c n chunk →
      Spans h' l' c' n' chunk → h ≤ h' ∧ l' ≤ l := by
    intro h l c h' l' c' n n' this that
    obtain ⟨top, above, reached⟩ := this.highest
    obtain ⟨bottom, under, bottomed⟩ := this.lowest
    exact ⟨reached ▸ (that.within top above).2, bottomed ▸ (that.within bottom under).1⟩
  refine ⟨(below one two).1.antisymm (below two one).1,
    (below two one).2.antisymm (below one two).2, ?_, one.counted.trans two.counted.symm⟩
  obtain ⟨before, tick, split, close⟩ := one.last
  obtain ⟨before', tick', split', close'⟩ := two.last
  have last := congrArg List.getLast? (split.symm.trans split')
  rw [List.getLast?_concat, List.getLast?_concat] at last
  rw [← close, ← close', Option.some.inj last]

/-- A bar that a scalper recorded has the figures of a bar of the live feed, and began
in its period. -/
structure SameCandle (tf : Timeframe) (folded bar : Bar) : Prop where
  symbol : folded.symbol = bar.symbol
  timeframe : folded.timeframe = tf ∧ bar.timeframe = tf
  openPrice : folded.openPrice = bar.openPrice
  high : folded.high = bar.high
  low : folded.low = bar.low
  close : folded.close = bar.close
  tickVolume : folded.tickVolume = bar.tickVolume
  period : barOpenTime folded.time tf = bar.time

theorem Candle.same {bucket : OpenBar} (candle : Candle bucket group.2)
    (grouped : GroupBar symbol tf bar group)
    (period : barOpenTime bucket.openTime tf = group.1) :
    SameCandle tf (bucket.toBar symbol tf) bar := by
  obtain ⟨high, low, close, count⟩ := candle.spans.unique grouped.candle.spans
  have opens := Option.some.inj (candle.opens.symm.trans grouped.openPrice)
  exact ⟨grouped.symbol.symm, ⟨rfl, grouped.timeframe⟩, opens, high, low, close, count,
    period.trans grouped.time.symm⟩

/-! ### The recorded bars -/

namespace TrendFrames

variable {frames : TrendFrames} {symbol : Symbol}

/-- The number of a period of the higher timeframe. -/
def period (frames : TrendFrames) (t : Time) : Int :=
  Int.tdiv t Time.usPerSecond / frames.trendSeconds

/-- Where a period begins. -/
def periodStart (frames : TrendFrames) (n : Int) : Time :=
  n * frames.trendSeconds * Time.usPerSecond

theorem period_mono {s t : Time} (order : s ≤ t) : frames.period s ≤ frames.period t :=
  Int.ediv_le_ediv (by exact_mod_cast seconds_pos frames.trend_seconds)
    (Int.tdiv_le_tdiv (by decide) order)

theorem periodStart_strictMono : StrictMono frames.periodStart := by
  intro m n order
  have long : (0 : Int) < frames.trendSeconds := by
    exact_mod_cast seconds_pos frames.trend_seconds
  exact Int.mul_lt_mul_of_pos_right (Int.mul_lt_mul_of_pos_right order long) (by decide)

theorem periodStart_period (t : Time) :
    frames.periodStart (frames.period t) = barOpenTime t frames.trend :=
  (barOpenTime_eq frames.trend_seconds frames.uncalendared t).symm

/-- The period of a tick is that of its entry bar. -/
theorem periodStart_entry (t : Time) :
    frames.periodStart (frames.period (barOpenTime t frames.entry)) =
      barOpenTime t frames.trend :=
  (periodStart_period _).trans (frames.barOpenTime_nested t)

/-- The bucket that a group of entry bars makes. -/
theorem summary_candle {members : List Bar} {parts : List (Time × List Tick)}
    (rel : List.Forall₂ (GroupBar symbol frames.entry) members parts)
    (some_ : members ≠ []) :
    ∃ bucket, frames.barStream.summary members = some bucket ∧
      Candle bucket (parts.flatMap Prod.snd) ∧
        ∃ first ∈ members, bucket.openTime = first.time := by
  cases rel with
  | nil => exact absurd rfl some_
  | @cons first part rest parts head tail =>
      have joined : ∀ {bucket : OpenBar} {chunk : List Tick}, Candle bucket chunk →
          Candle (rest.foldl OpenBar.join bucket) (chunk ++ parts.flatMap Prod.snd) ∧
            (rest.foldl OpenBar.join bucket).openTime = bucket.openTime := by
        clear some_
        induction tail with
        | nil =>
            intro bucket chunk candle
            simpa using candle
        | cons next tail ih =>
            intro bucket chunk candle
            obtain ⟨whole, opened⟩ := ih (candle.join next)
            rw [List.append_assoc, ← List.flatMap_cons] at whole
            exact ⟨whole, opened⟩
      obtain ⟨whole, opened⟩ := joined head.candle
      exact ⟨_, rfl, whole, first, List.mem_cons_self, opened⟩

end TrendFrames

/-- The aggregator emits its groups but the last. -/
theorem BarAggregator.emits_groups (symbol : Symbol) {tf : Timeframe} (tf_ne : tf ≠ .tick)
    {ticks : List Tick}
    (ordered : ((ticks.filter fun tick => decide (tick.symbol = symbol)).map
      Tick.time).Pairwise (· ≤ ·)) :
    List.Forall₂ (GroupBar symbol tf) ((create symbol tf tf_ne).feed ticks).2
      (groups (fun tick => barOpenTime tick.time tf)
        (ticks.filter fun tick => decide (tick.symbol = symbol))).dropLast := by
  have sorted : (((create symbol tf tf_ne).ownTicks ticks).map
      (create symbol tf tf_ne).bucket).Pairwise (· ≤ ·) := by
    rw [List.pairwise_map] at ordered ⊢
    exact ordered.imp fun order => barOpenTime_mono order tf
  have own : ∀ tick ∈ (create symbol tf tf_ne).ownTicks ticks,
      (create symbol tf tf_ne).Own tick := by
    intro tick member
    have mine : tick.symbol = symbol := of_decide_eq_true (List.mem_filter.mp member).2
    exact mine
  have same : (create symbol tf tf_ne).feed ((create symbol tf tf_ne).ownTicks ticks) =
      (create symbol tf tf_ne).feed ticks := feed_own _ ticks
  cases @follows_of_sorted (create symbol tf tf_ne) rfl rfl _ own sorted with
  | idle none still =>
      have empty : (ticks.filter fun tick => decide (tick.symbol = symbol)) = [] := none
      rw [← same, still, empty]
      exact .nil
  | making closed openTime first rest split current bars =>
      have whole : groups (fun tick => barOpenTime tick.time tf)
          (ticks.filter fun tick => decide (tick.symbol = symbol)) =
            closed ++ [(openTime, first :: rest)] := split
      rw [whole, List.dropLast_concat, ← same]
      exact bars

namespace TrendFrames

variable {frames : TrendFrames} {symbol : Symbol}

theorem entry_ne (frames : TrendFrames) : frames.entry ≠ .tick := by
  intro tick
  have fixed := frames.entry_seconds
  rw [tick] at fixed
  cases fixed

theorem trend_ne (frames : TrendFrames) : frames.trend ≠ .tick := by
  intro tick
  have fixed := frames.trend_seconds
  rw [tick] at fixed
  cases fixed

/-- The periods of the higher timeframe, as groups of entry groups. -/
theorem groups_trend {ticks : List Tick}
    (sorted : (ticks.map fun tick => barOpenTime tick.time frames.entry).Pairwise
      (· ≤ ·)) :
    groups (fun tick => barOpenTime tick.time frames.trend) ticks =
      (groups (fun group => frames.period group.1)
        (groups (fun tick => barOpenTime tick.time frames.entry) ticks)).map
          fun big => (frames.periodStart big.1, big.2.flatMap Prod.snd) := by
  have nested : (fun tick : Tick => barOpenTime tick.time frames.trend) =
      fun tick => frames.periodStart
        (frames.period (barOpenTime tick.time frames.entry)) := by
    funext tick
    exact (periodStart_entry tick.time).symm
  rw [nested, groups_rename frames.periodStart_strictMono.injective,
    groups_coarse frames.period sorted, List.map_map]
  rfl

/-- What the fold gives away are the groups of entry bars but the last, each with the
figures of its ticks. -/
theorem run_candles {bars : List Bar} {parts : List (Time × List Tick)}
    (rel : List.Forall₂ (GroupBar symbol frames.entry) bars parts)
    (sorted : (parts.map fun part => frames.period part.1).Pairwise (· ≤ ·)) :
    List.Forall₂
      (fun (closed : Int × OpenBar) (big : Int × List (Time × List Tick)) =>
        Candle closed.2 (big.2.flatMap Prod.snd) ∧
          frames.period closed.2.openTime = big.1)
      (frames.barStream.run bars).2
      (groups (fun part => frames.period part.1) parts).dropLast := by
  have same : ∀ (bar : Bar) (part : Time × List Tick),
      GroupBar symbol frames.entry bar part →
        frames.key bar = frames.period part.1 := by
    intro bar part grouped
    rw [← grouped.time]
    rfl
  have keys : bars.map frames.key = parts.map fun part => frames.period part.1 := by
    clear sorted
    induction rel with
    | nil => rfl
    | cons head tail ih => rw [List.map_cons, List.map_cons, same _ _ head, ih]
  have ordered : (bars.map frames.barStream.key).Pairwise (· ≤ ·) := by
    rw [← keys] at sorted
    exact sorted
  have agree := groups_forall₂ same rel
  have known : ∀ group ∈ groups frames.key bars,
      group.2 ≠ [] ∧ ∀ bar ∈ group.2, frames.key bar = group.1 := by
    intro group member
    obtain ⟨⟨bar, inside, named⟩, members⟩ := mem_groups.mp member
    rw [members]
    constructor
    · exact List.ne_nil_of_mem (List.mem_filter.mpr ⟨inside, decide_eq_true named⟩)
    · exact fun other there => of_decide_eq_true (List.mem_filter.mp there).2
  have dropped := List.forall₂_take ((groups frames.key bars).length - 1)
    ((List.forall₂_and_left _ _).mpr ⟨known, agree⟩)
  rw [(GroupStream.run_eq ordered).2]
  have count : (groups frames.key bars).length =
      (groups (fun part => frames.period part.1) parts).length := agree.length_eq
  rw [← List.dropLast_eq_take, count, ← List.dropLast_eq_take] at dropped
  apply forall₂_filterMap dropped
  rintro group big ⟨⟨some_, named⟩, number, members⟩
  obtain ⟨bucket, summed, candle, first, inside, opened⟩ := summary_candle members some_
  refine ⟨(group.1, bucket), ?_, candle, ?_⟩
  · simp [GroupStream.summarised, summed]
  · rw [opened, ← number]
    exact named first inside

/-! ### Against the live feed -/

/-- The closed bars of the entry feed. -/
def entryBars (frames : TrendFrames) (symbol : Symbol) (ticks : List Tick) : List Bar :=
  ((BarAggregator.create symbol frames.entry frames.entry_ne).feed ticks).2

/-- The closed bars of a live feed of the higher timeframe. -/
def trendBars (frames : TrendFrames) (symbol : Symbol) (ticks : List Tick) : List Bar :=
  ((BarAggregator.create symbol frames.trend frames.trend_ne).feed ticks).2

/-- Those that are over before the period of an entry bar. -/
def closedBefore (frames : TrendFrames) (last : Bar) (bars : List Bar) : List Bar :=
  lastN trendCapacity
    (bars.filter fun bar => decide (bar.time < barOpenTime last.time frames.trend))

theorem recorded_candles {ticks : List Tick} {last : Bar}
    (ordered : ((ticks.filter fun tick => decide (tick.symbol = symbol)).map
      Tick.time).Pairwise (· ≤ ·))
    (latest : (frames.entryBars symbol ticks).getLast? = some last) :
    List.Forall₂ (SameCandle frames.trend)
      ((frames.entryBars symbol ticks).foldl (TrendFold.foldTrend frames) .create).bars
      (frames.closedBefore last (frames.trendBars symbol ticks)) := by
  have emitted := BarAggregator.emits_groups symbol frames.entry_ne ordered
  have higher := BarAggregator.emits_groups symbol frames.trend_ne ordered
  have sorted : ((ticks.filter fun tick => decide (tick.symbol = symbol)).map
      fun tick => barOpenTime tick.time frames.entry).Pairwise (· ≤ ·) := by
    rw [List.pairwise_map] at ordered ⊢
    exact ordered.imp fun order => barOpenTime_mono order frames.entry
  rw [groups_trend sorted] at higher
  have increasing := groups_increasing sorted
  rw [List.pairwise_map] at increasing
  generalize groups (fun tick => barOpenTime tick.time frames.entry)
    (ticks.filter fun tick => decide (tick.symbol = symbol)) = parts at *
  have periods : (parts.map fun part => frames.period part.1).Pairwise (· ≤ ·) := by
    rw [List.pairwise_map]
    exact increasing.imp fun order => period_mono order.le
  have own : ∀ bar ∈ frames.entryBars symbol ticks, bar.symbol = symbol :=
    ((List.forall₂_and_left _ _).mp
      (emitted.imp fun _ _ grouped => ⟨grouped.symbol, grouped⟩)).1
  -- the last entry bar, and the group that is still in the making
  obtain ⟨front, split⟩ := List.getLast?_eq_some_iff.mp latest
  obtain ⟨early, lastPart, next, whole, grouped⟩ : ∃ early lastPart next,
      parts = early ++ [lastPart] ++ [next] ∧
        GroupBar symbol frames.entry last lastPart := by
    change List.Forall₂ _ (frames.entryBars symbol ticks) _ at emitted
    rw [split] at emitted
    rcases List.eq_nil_or_concat parts with rfl | ⟨closed, next, rfl⟩
    · cases emitted.length_eq.symm.trans (List.length_append ..)
    · rw [List.concat_eq_append, List.dropLast_concat] at emitted
      rcases List.eq_nil_or_concat closed with rfl | ⟨early, lastPart, rfl⟩
      · have none_ := emitted.length_eq
        simp at none_
      · rw [List.concat_eq_append] at emitted
        have backwards := List.rel_reverse emitted
        simp only [List.reverse_append, List.reverse_singleton, List.singleton_append,
          List.forall₂_cons] at backwards
        exact ⟨early, lastPart, next, by simp, backwards.1⟩
  subst whole
  rw [List.dropLast_concat] at emitted
  have before : ((early ++ [lastPart]).map fun part => frames.period part.1).Pairwise
      (· ≤ ·) := by
    rw [List.map_append, List.pairwise_append] at periods
    exact periods.1
  have folded := run_candles emitted before
  have boundary : barOpenTime last.time frames.trend =
      frames.periodStart (frames.period lastPart.1) := by
    rw [← periodStart_period, grouped.time]
  have seen : List.Forall₂ (GroupBar symbol frames.trend)
      ((frames.trendBars symbol ticks).filter fun bar =>
        decide (bar.time < barOpenTime last.time frames.trend))
      ((groups (fun part => frames.period part.1) (early ++ [lastPart])).dropLast.map
        fun big => (frames.periodStart big.1, big.2.flatMap Prod.snd)) := by
    have cut : (((groups (fun part => frames.period part.1)
        (early ++ [lastPart] ++ [next])).map fun big =>
          (frames.periodStart big.1, big.2.flatMap Prod.snd)).dropLast.filter fun group =>
            decide (group.1 < frames.periodStart (frames.period lastPart.1))) =
        (groups (fun part => frames.period part.1) (early ++ [lastPart])).dropLast.map
          fun big => (frames.periodStart big.1, big.2.flatMap Prod.snd) := by
      rw [← List.map_dropLast, List.filter_map, ← groups_before periods]
      congr 1
      apply List.filter_congr
      intro big _
      exact decide_eq_decide.mpr frames.periodStart_strictMono.lt_iff_lt
    rw [← cut, boundary]
    apply List.rel_filter (fun bar group same => ?_) higher
    dsimp only
    rw [same.time]
  have same : List.Forall₂
      (fun closed bar => SameCandle frames.trend
        (OpenBar.toBar closed.2 symbol frames.trend) bar)
      (frames.barStream.run (frames.entryBars symbol ticks)).2
      ((frames.trendBars symbol ticks).filter fun bar =>
        decide (bar.time < barOpenTime last.time frames.trend)) := by
    rw [List.forall₂_map_right_iff] at seen
    apply forall₂_meet folded seen
    rintro closed bar big ⟨candle, number⟩ feed
    apply candle.same feed
    rw [← periodStart_period, number]
  rw [foldTrend_run own, closedBefore, lastN, lastN, List.length_map, same.length_eq]
  apply List.forall₂_drop
  rw [List.forall₂_map_left_iff]
  exact same

/-! ### What the filters see -/

/-- The directional index sees the high, the low and the close of a bar. -/
theorem adx_congr {one two : List Bar} (period : Nat)
    (same : (one.map fun bar => (bar.high, bar.low, bar.close)) =
      two.map fun bar => (bar.high, bar.low, bar.close)) :
    adx one period = adx two period := by
  have moves : ∀ bars : List Bar, directionalMoves bars =
      List.zipWith
        (fun (prev curr : ℚ × ℚ × ℚ) =>
          ({ tr := max (max (curr.1 - curr.2.1) |curr.1 - prev.2.2|)
                |curr.2.1 - prev.2.2|
             plusDm := if prev.2.1 - curr.2.1 < curr.1 - prev.1 ∧ 0 < curr.1 - prev.1
               then curr.1 - prev.1 else 0
             minusDm := if curr.1 - prev.1 < prev.2.1 - curr.2.1 ∧
                 0 < prev.2.1 - curr.2.1
               then prev.2.1 - curr.2.1 else 0 } : DirectionalMove))
        (bars.map fun bar => (bar.high, bar.low, bar.close))
        (bars.map fun bar => (bar.high, bar.low, bar.close)).tail := by
    intro bars
    rw [← List.map_tail, List.zipWith_map]
    rfl
  have count : one.length = two.length := by
    simpa using congrArg List.length same
  unfold adx
  rw [moves one, moves two, same, count]

/-- Bars with the same figures. -/
theorem same_figures {tf : Timeframe} {recorded closed : List Bar}
    (same : List.Forall₂ (SameCandle tf) recorded closed) :
    recorded.map Bar.close = closed.map Bar.close ∧
      (recorded.map fun bar => (bar.high, bar.low, bar.close)) =
        closed.map fun bar => (bar.high, bar.low, bar.close) := by
  induction same with
  | nil => exact ⟨rfl, rfl⟩
  | cons head tail ih =>
      simp only [List.map_cons, head.high, head.low, head.close, ih.1, ih.2, and_self]

/-- Whatever the ticks of a symbol, in time order and with ticks of other symbols
between them: at every entry bar, the trend that was folded from the entry bars is that
of the bars which a live feed of the higher timeframe closes before the period of the
entry bar, and the filters decide as on these. -/
theorem trend_follows_feed {ticks : List Tick} {last : Bar}
    (ordered : ((ticks.filter fun tick => decide (tick.symbol = symbol)).map
      Tick.time).Pairwise (· ≤ ·))
    (latest : (frames.entryBars symbol ticks).getLast? = some last) :
    let recorded :=
      ((frames.entryBars symbol ticks).foldl (TrendFold.foldTrend frames) .create).bars
    let closes :=
      ((frames.entryBars symbol ticks).foldl (TrendCloses.foldTrend frames) .create).closes
    let closed := frames.closedBefore last (frames.trendBars symbol ticks)
    List.Forall₂ (SameCandle frames.trend) recorded closed ∧
      (∀ band side, trendOk band recorded side = trendOk band closed side) ∧
        closes = closed.map Bar.close := by
  intro recorded closes closed
  have same := recorded_candles ordered latest
  obtain ⟨figures, all⟩ := same_figures same
  refine ⟨same, fun band side => ?_, ?_⟩
  · unfold trendOk
    rw [same.length_eq, figures, adx_congr band.adxPeriod all]
  · exact (congrArg TrendCloses.closes (closes_run _)).trans figures

/-! Four minutes of ticks: of the two periods of two minutes that are over, the fold has
the first one. -/

def twoMinuteTrend : TrendFrames where
  entry := .m1
  trend := .m2
  entrySeconds := 60
  trendSeconds := 120
  entry_seconds := rfl
  trend_seconds := rfl
  uncalendared := by decide
  higher := by decide
  multiple := rfl

theorem aboveFloor_pos (points : Nat) : (0 : ℚ) < 99 + points := by positivity

def minuteTick (seconds points : Nat) : Tick :=
  BarAggregator.quoteAt "EURUSD" seconds (99 + points) (aboveFloor_pos points)

def fourMinutes : List Tick :=
  [minuteTick 10 1, minuteTick 70 4, minuteTick 130 2, minuteTick 190 3,
    minuteTick 250 0]

theorem fourMinutes_follow :
    ∃ last, (twoMinuteTrend.entryBars "EURUSD" fourMinutes).getLast? = some last ∧
      List.Forall₂ (SameCandle .m2)
        ((twoMinuteTrend.entryBars "EURUSD" fourMinutes).foldl
          (TrendFold.foldTrend twoMinuteTrend) .create).bars
        (twoMinuteTrend.closedBefore last
          (twoMinuteTrend.trendBars "EURUSD" fourMinutes)) ∧
      ((twoMinuteTrend.closedBefore last
        (twoMinuteTrend.trendBars "EURUSD" fourMinutes)).map fun bar =>
          (bar.time, bar.openPrice, bar.close, bar.tickVolume)) =
            [(0, 100, 103, 2)] := by
  have one : ((twoMinuteTrend.entryBars "EURUSD" fourMinutes).getLast?.map fun last =>
      (twoMinuteTrend.closedBefore last
        (twoMinuteTrend.trendBars "EURUSD" fourMinutes)).map fun bar =>
          (bar.time, bar.openPrice, bar.close, bar.tickVolume)) =
      some [(0, 100, 103, 2)] := by
    decide +kernel
  obtain ⟨last, latest, seen⟩ := Option.map_eq_some_iff.mp one
  refine ⟨last, latest, ?_, seen⟩
  exact (trend_follows_feed (by decide +kernel) latest).1

end TrendFrames

end StingerFx
