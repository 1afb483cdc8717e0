/-
Module: StingerFx.Brokers.BarBuckets
Layer: Brokers
Purpose: Buckets of the bar aggregator. The bar of a later instant never opens
  earlier, months included. When the ticks of one bucket arrive together, after
  those of earlier and before those of later buckets, exactly one bar of this
  bucket is emitted, and it is made of exactly these ticks.
Trusted boundary: none (fully proved)
Main exports: barOpenTime_mono, OpenBar.ofTicks, BarAggregator.Before,
  BarAggregator.feed_bucket
-/
import StingerFx.Brokers.BarAggregator
import StingerFx.Lib.StableMerge

namespace StingerFx

open Lib

/-! ### Boundaries are monotone -/

namespace Time

/-- Year of the era, counted from March. -/
def yearOfEra (dayOfEra : Int) : Int :=
  (dayOfEra - dayOfEra / 1460 + dayOfEra / 36524 - dayOfEra / 146096) / 365

/-- Day of the era on which a year begins. -/
def yearStart (year : Int) : Int := 365 * year + year / 4 - year / 100

/-- Day of the month of a day of the year. -/
def dayInMonth (dayOfYear : Int) : Int :=
  dayOfYear - (153 * ((5 * dayOfYear + 2) / 153) + 2) / 5 + 1

theorem dayOfMonth_eq (date : Int) :
    dayOfMonth date =
      dayInMonth ((date + 719468) % 146097 -
        yearStart (yearOfEra ((date + 719468) % 146097))) := rfl

/-- One day later is at most one day further in a month. -/
theorem dayInMonth_succ (dayOfYear : Int) :
    0 ≤ dayInMonth dayOfYear ∧
      dayInMonth (dayOfYear + 1) ≤ dayInMonth dayOfYear + 1 := by
  unfold dayInMonth
  omega

theorem yearStart_mono {one two : Int} (order : one ≤ two) :
    yearStart one ≤ yearStart two := by
  unfold yearStart
  omega

/-- The quotients of a day of the era: `a` centuries, `b` spans of 1460 days,
`y` years, `q` and `g` leap days before this year and the next. -/
theorem year_quotients {e a b y q g : Int} (century : 0 ≤ a ∧ a ≤ 3)
    (inCentury : 36524 * a ≤ e ∧ e ≤ 36524 * a + 36523)
    (spans : 1460 * b ≤ e ∧ e ≤ 1460 * b + 1459)
    (years : 365 * y ≤ e - b + a ∧ e - b + a ≤ 365 * y + 364)
    (leaps : 4 * q ≤ y ∧ y ≤ 4 * q + 3)
    (next : 4 * g ≤ y + 1 ∧ y + 1 ≤ 4 * g + 3) :
    (100 * a ≤ y ∧ y ≤ 100 * a + 99) ∧ 365 * y + q - a ≤ e ∧
      (y < 100 * a + 99 → e < 365 * (y + 1) + g - a) ∧
      (y = 100 * a + 99 → g = 25 * a + 25) := by
  have bounded : b ≤ 25 * a + 26 := by omega
  refine ⟨by omega, ?_, ?_, ?_⟩
  · by_contra late
    omega
  · intro inside
    by_contra late
    have more : g + 1 ≤ b := by omega
    have fewer : 1459 * b ≤ 1460 * g + 1094 := by omega
    omega
  · omega

/-- The year of a day begins no later than the day and ends after it. -/
theorem yearOfEra_spec {e : Int} (nonneg : 0 ≤ e) (below : e < 146096) :
    yearStart (yearOfEra e) ≤ e ∧ e < yearStart (yearOfEra e + 1) := by
  have early : e / 146096 = 0 := by omega
  have years : 365 * yearOfEra e ≤ e - e / 1460 + e / 36524 ∧
      e - e / 1460 + e / 36524 ≤ 365 * yearOfEra e + 364 := by
    unfold yearOfEra
    rw [early]
    omega
  unfold yearStart
  generalize yearOfEra e = y at *
  have quotients := year_quotients (e := e) (a := e / 36524) (b := e / 1460)
    (y := y) (q := y / 4) (g := (y + 1) / 4) (by omega) (by omega) (by omega)
    years (by omega) (by omega)
  rcases quotients with ⟨within, start, inside, last⟩
  have century : y / 100 = e / 36524 := by omega
  constructor
  · omega
  · by_cases before : y < 100 * (e / 36524) + 99
    · have bound := inside before
      have same : (y + 1) / 100 = e / 36524 := by omega
      omega
    · have final : y = 100 * (e / 36524) + 99 := by omega
      have leap := last final
      omega

/-- The day of the year goes up by one or starts again. -/
theorem dayOfYear_succ {e : Int} (nonneg : 0 ≤ e) (below : e + 1 < 146096) :
    e + 1 - yearStart (yearOfEra (e + 1)) = e - yearStart (yearOfEra e) + 1 ∨
      e + 1 - yearStart (yearOfEra (e + 1)) = 0 := by
  rcases yearOfEra_spec nonneg (by omega) with ⟨start, stop⟩
  rcases yearOfEra_spec (e := e + 1) (by omega) below with ⟨start', stop'⟩
  have later : yearOfEra e ≤ yearOfEra (e + 1) := by
    by_contra earlier
    have bound := yearStart_mono
      (show yearOfEra (e + 1) + 1 ≤ yearOfEra e by omega)
    omega
  by_cases same : yearOfEra (e + 1) = yearOfEra e
  · rw [same]
    omega
  · have bound := yearStart_mono
      (show yearOfEra e + 1 ≤ yearOfEra (e + 1) by omega)
    omega

theorem dayOfMonth_succ (date : Int) :
    dayOfMonth (date + 1) ≤ dayOfMonth date + 1 := by
  rw [dayOfMonth_eq, dayOfMonth_eq]
  have nonneg : 0 ≤ (date + 719468) % 146097 := by omega
  have wraps : (date + 719468) % 146097 = 146096 ∧
        (date + 1 + 719468) % 146097 = 0 ∨
      (date + 719468) % 146097 < 146096 ∧
        (date + 1 + 719468) % 146097 = (date + 719468) % 146097 + 1 := by
    omega
  generalize (date + 719468) % 146097 = e at *
  generalize (date + 1 + 719468) % 146097 = e' at *
  rcases wraps with ⟨rfl, rfl⟩ | ⟨below, rfl⟩
  · decide
  · by_cases last : e + 1 = 146096
    · have known : e = 146095 := by omega
      rw [known]
      decide
    · have day := dayInMonth_succ (e - yearStart (yearOfEra e))
      rcases dayOfYear_succ nonneg (by omega) with same | new
      · rw [same]
        exact day.2
      · rw [new]
        have first : dayInMonth 0 = 1 := by decide
        omega

/-- The first day of the month of a date. -/
theorem monthStart_mono {one two : Int} (order : one ≤ two) :
    one - dayOfMonth one ≤ two - dayOfMonth two := by
  obtain ⟨days, rfl⟩ := Int.le.dest order
  induction days with
  | zero => simp
  | succ days ih =>
      have next := dayOfMonth_succ (one + days)
      have before := ih (by omega)
      push_cast
      rw [← add_assoc]
      omega

theorem weekStart_mono {one two : Int} (order : one ≤ two) :
    one - weekday one ≤ two - weekday two := by
  unfold weekday
  omega

theorem date_le_date {one two : Time} (order : one ≤ two) :
    date one ≤ date two :=
  Int.ediv_le_ediv (by decide) order

end Time

/-- The boundary of a period of fixed length. -/
theorem fixedBoundary_mono {one two : Time} (order : one ≤ two)
    (seconds : Nat) :
    (Int.tdiv one Time.usPerSecond - Int.tdiv one Time.usPerSecond % seconds) *
        Time.usPerSecond ≤
      (Int.tdiv two Time.usPerSecond - Int.tdiv two Time.usPerSecond % seconds) *
        Time.usPerSecond := by
  have epochs : Int.tdiv one Time.usPerSecond ≤ Int.tdiv two Time.usPerSecond :=
    Int.tdiv_le_tdiv (by decide) order
  apply Int.mul_le_mul_of_nonneg_right ?_ (by decide)
  rcases Nat.eq_zero_or_pos seconds with rfl | positive
  · simp
  · have floors : Int.tdiv one Time.usPerSecond / seconds ≤
        Int.tdiv two Time.usPerSecond / seconds :=
      Int.ediv_le_ediv (by exact_mod_cast positive) epochs
    have left := Int.emod_add_mul_ediv (Int.tdiv one Time.usPerSecond) seconds
    have right := Int.emod_add_mul_ediv (Int.tdiv two Time.usPerSecond) seconds
    have scaled := Int.mul_le_mul_of_nonneg_left floors
      (show (0 : Int) ≤ seconds by exact_mod_cast positive.le)
    omega

/-- A later tick belongs to the same bar or to a later one. -/
theorem barOpenTime_mono {one two : Time} (order : one ≤ two) (tf : Timeframe) :
    barOpenTime one tf ≤ barOpenTime two tf := by
  have dates := Time.date_le_date order
  have day : (0 : Int) ≤ Time.usPerDay := by decide
  cases tf with
  | tick => exact order
  | w1 => exact Int.mul_le_mul_of_nonneg_right (Time.weekStart_mono dates) day
  | mn1 =>
      apply Int.mul_le_mul_of_nonneg_right ?_ day
      have months := Time.monthStart_mono dates
      omega
  | _ => exact fixedBoundary_mono order _

/-! ### The bar of one bucket -/

namespace OpenBar

/-- The bar that some ticks of one period make. -/
def ofTicks (openTime : Time) (t : Tick) (rest : List Tick) : OpenBar :=
  rest.foldl update (reset openTime t)

theorem foldl_update_openTime (bar : OpenBar) (ticks : List Tick) :
    (ticks.foldl update bar).openTime = bar.openTime := by
  induction ticks generalizing bar with
  | nil => rfl
  | cons t rest ih => exact ih (bar.update t)

theorem foldl_update_openPrice (bar : OpenBar) (ticks : List Tick) :
    (ticks.foldl update bar).openPrice = bar.openPrice := by
  induction ticks generalizing bar with
  | nil => rfl
  | cons t rest ih => exact ih (bar.update t)

theorem foldl_update_of {bar : OpenBar} {chunk : List Tick} (of : bar.Of chunk)
    (ticks : List Tick) : (ticks.foldl update bar).Of (chunk ++ ticks) := by
  induction ticks generalizing bar chunk with
  | nil => simpa using of
  | cons t rest ih => simpa using ih (update_of of t)

@[simp] theorem ofTicks_openTime (openTime : Time) (t : Tick)
    (rest : List Tick) : (ofTicks openTime t rest).openTime = openTime :=
  foldl_update_openTime _ rest

/-- It opens with the first tick. -/
theorem ofTicks_openPrice (openTime : Time) (t : Tick) (rest : List Tick) :
    (ofTicks openTime t rest).openPrice = t.bid :=
  foldl_update_openPrice _ rest

/-- High, low, close and volume are those of the ticks. -/
theorem ofTicks_of (openTime : Time) (t : Tick) (rest : List Tick) :
    (ofTicks openTime t rest).Of (t :: rest) :=
  foldl_update_of (reset_of openTime t) rest

end OpenBar

namespace BarAggregator

variable {agg : BarAggregator} {b : Time}

/-- The bar in the making, if any, opened before an instant. -/
def Before (agg : BarAggregator) (b : Time) : Prop :=
  ∀ bar, agg.current = some bar → bar.openTime < b

/-- Ticks of the aggregator's symbol. -/
def Own (agg : BarAggregator) (tick : Tick) : Prop := tick.symbol = agg.symbol

/-- The bucket of a tick. -/
def bucket (agg : BarAggregator) (tick : Tick) : Time :=
  barOpenTime tick.time agg.tf

/-- The aggregator with a new bar. -/
def opening (agg : BarAggregator) (t : Tick) : BarAggregator :=
  { agg with current := some (.reset (agg.bucket t) t) }

/-- What one tick can do. -/
theorem onTick_cases (agg : BarAggregator) (t : Tick) :
    (¬ agg.Own t ∧ agg.onTick t = (agg, none)) ∨
      (agg.Own t ∧ agg.current = none ∧ agg.onTick t = (agg.opening t, none)) ∨
      (∃ bar, agg.Own t ∧ agg.current = some bar ∧
        bar.openTime < agg.bucket t ∧
        agg.onTick t = (agg.opening t, agg.emit bar)) ∨
      (∃ bar, agg.Own t ∧ agg.current = some bar ∧
        ¬ bar.openTime < agg.bucket t ∧
        agg.onTick t = ({ agg with current := some (bar.update t) }, none)) := by
  by_cases own : agg.Own t
  · have same : ¬ t.symbol ≠ agg.symbol := not_not.mpr own
    cases current : agg.current with
    | none =>
        refine .inr (.inl ⟨own, rfl, ?_⟩)
        simp only [onTick, if_neg same, current]
        rfl
    | some bar =>
        by_cases later : bar.openTime < agg.bucket t
        · refine .inr (.inr (.inl ⟨bar, own, rfl, later, ?_⟩))
          simp only [onTick, if_neg same, current]
          exact if_pos later
        · refine .inr (.inr (.inr ⟨bar, own, rfl, later, ?_⟩))
          simp only [onTick, if_neg same, current]
          exact if_neg later
  · exact .inl ⟨own, by simp only [onTick, if_pos (show t.symbol ≠ agg.symbol
      from own)]⟩

/-- An aggregator keeps its feed. -/
theorem onTick_key (agg : BarAggregator) (t : Tick) :
    (agg.onTick t).1.symbol = agg.symbol ∧ (agg.onTick t).1.tf = agg.tf ∧
      (agg.onTick t).1.emitBars = agg.emitBars := by
  rcases agg.onTick_cases t with ⟨-, done⟩ | ⟨-, -, done⟩ |
    ⟨bar, -, -, -, done⟩ | ⟨bar, -, -, -, done⟩ <;> rw [done] <;>
    exact ⟨rfl, rfl, rfl⟩

theorem feed_cons (agg : BarAggregator) (t : Tick) (ticks : List Tick) :
    agg.feed (t :: ticks) =
      (((agg.onTick t).1.feed ticks).1,
        (agg.onTick t).2.toList ++ ((agg.onTick t).1.feed ticks).2) := rfl

theorem feed_append (agg : BarAggregator) (one two : List Tick) :
    agg.feed (one ++ two) =
      (((agg.feed one).1.feed two).1,
        (agg.feed one).2 ++ ((agg.feed one).1.feed two).2) := by
  induction one generalizing agg with
  | nil => rfl
  | cons t rest ih =>
      rw [List.cons_append, feed_cons, feed_cons, ih, List.append_assoc]

theorem feed_key (agg : BarAggregator) (ticks : List Tick) :
    (agg.feed ticks).1.symbol = agg.symbol ∧ (agg.feed ticks).1.tf = agg.tf ∧
      (agg.feed ticks).1.emitBars = agg.emitBars := by
  induction ticks generalizing agg with
  | nil => exact ⟨rfl, rfl, rfl⟩
  | cons t rest ih =>
      rcases ih (agg.onTick t).1 with ⟨symbol, tf, emits⟩
      rcases agg.onTick_key t with ⟨symbol', tf', emits'⟩
      exact ⟨symbol.trans symbol', tf.trans tf', emits.trans emits'⟩

/-- Ticks of other symbols do nothing. -/
theorem feed_own (agg : BarAggregator) (ticks : List Tick) :
    agg.feed (ticks.filter fun t => decide (t.symbol = agg.symbol)) =
      agg.feed ticks := by
  induction ticks generalizing agg with
  | nil => rfl
  | cons t rest ih =>
      by_cases own : t.symbol = agg.symbol
      · have later := ih (agg.onTick t).1
        rw [(agg.onTick_key t).1] at later
        rw [List.filter_cons, if_pos (decide_eq_true own), feed_cons, later,
          feed_cons]
      · have still : agg.onTick t = (agg, none) := by
          rcases agg.onTick_cases t with ⟨-, done⟩ | ⟨mine, -⟩ |
            ⟨bar, mine, -⟩ | ⟨bar, mine, -⟩
          · exact done
          all_goals exact absurd mine own
        rw [List.filter_cons, if_neg (by simp [own]), ih, feed_cons, still]
        rfl

/-- Emitted bars open one after the other, none before the bar that was in the
making. -/
theorem feed_increasing (agg : BarAggregator) (ticks : List Tick) :
    ((agg.feed ticks).2.map Bar.time).Pairwise (· < ·) ∧
      ∀ bar, agg.current = some bar →
        ∀ emitted ∈ (agg.feed ticks).2, bar.openTime ≤ emitted.time := by
  induction ticks generalizing agg with
  | nil => exact ⟨.nil, fun _ _ _ member => by cases member⟩
  | cons t rest ih =>
      rw [feed_cons]
      rcases agg.onTick_cases t with ⟨-, done⟩ | ⟨-, none, done⟩ |
        ⟨bar, -, current, later, done⟩ | ⟨bar, -, current, -, done⟩
      · rw [done]
        exact ih agg
      · rw [done]
        refine ⟨(ih _).1, ?_⟩
        intro bar current
        rw [none] at current
        cases current
      · rw [done]
        rcases ih (agg.opening t) with ⟨increasing, bound⟩
        have after : ∀ emitted ∈ ((agg.opening t).feed rest).2,
            bar.openTime < emitted.time := fun emitted member =>
          lt_of_lt_of_le later (bound _ rfl emitted member)
        cases emits : agg.emitBars with
        | false =>
            have silent : agg.emit bar = none := by simp [emit, emits]
            rw [silent]
            refine ⟨increasing, ?_⟩
            intro held same emitted member
            rw [current] at same
            cases same
            exact (after emitted member).le
        | true =>
            refine ⟨?_, ?_⟩
            · simp only [emit, emits, if_true, Option.toList_some,
                List.cons_append, List.nil_append, List.map_cons,
                List.pairwise_cons]
              refine ⟨?_, increasing⟩
              intro time member
              rcases List.mem_map.mp member with ⟨emitted, there, rfl⟩
              exact after emitted there
            · intro held same emitted member
              rw [current] at same
              cases same
              rcases List.mem_append.mp member with now | later
              · simp only [emit, emits, if_true, Option.toList_some,
                  List.mem_singleton] at now
                rw [now]
              · exact (after emitted later).le
      · rw [done]
        rcases ih { agg with current := some (bar.update t) } with
          ⟨increasing, bound⟩
        refine ⟨increasing, ?_⟩
        intro held same emitted member
        rw [current] at same
        cases same
        exact bound _ rfl emitted member

/-- Ticks of earlier buckets leave an earlier bar in the making and emit earlier
bars. -/
theorem feed_before (before : agg.Before b) (ticks : List Tick)
    (earlier : ∀ t ∈ ticks, agg.Own t → agg.bucket t < b) :
    (agg.feed ticks).1.Before b ∧ ∀ bar ∈ (agg.feed ticks).2, bar.time < b := by
  induction ticks generalizing agg with
  | nil => exact ⟨before, fun _ member => by cases member⟩
  | cons t rest ih =>
      have others : ∀ next : BarAggregator,
          next.symbol = agg.symbol → next.tf = agg.tf →
          ∀ later ∈ rest, next.Own later → next.bucket later < b := by
        intro next symbol tf later member own
        unfold bucket
        rw [tf]
        exact earlier later (List.mem_cons_of_mem _ member)
          (show later.symbol = agg.symbol from own.trans symbol)
      rw [feed_cons]
      rcases agg.onTick_cases t with ⟨-, done⟩ | ⟨own, -, done⟩ |
        ⟨bar, own, current, -, done⟩ | ⟨bar, -, current, -, done⟩
      · rw [done]
        exact ih before (others agg rfl rfl)
      · rw [done]
        refine ih ?_ (others (agg.opening t) rfl rfl)
        intro bar same
        cases same
        exact earlier t List.mem_cons_self own
      · rw [done]
        have opened : (agg.opening t).Before b := by
          intro bar same
          cases same
          exact earlier t List.mem_cons_self own
        rcases ih opened (others (agg.opening t) rfl rfl) with ⟨kept, emitted⟩
        refine ⟨kept, ?_⟩
        intro held member
        rcases List.mem_append.mp member with now | later
        · unfold emit at now
          split at now
          · rw [List.mem_singleton.mp now]
            exact before bar current
          · cases now
        · exact emitted held later
      · rw [done]
        refine ih ?_ (others _ rfl rfl)
        intro held same
        cases same
        exact before bar current

/-- The aggregator with a given bar in the making. -/
def holding (agg : BarAggregator) (bar : OpenBar) : BarAggregator :=
  { agg with current := some bar }

theorem holding_extends {bar : OpenBar} {t : Tick} (own : agg.Own t)
    (same : agg.bucket t = bar.openTime) :
    (agg.holding bar).onTick t = (agg.holding (bar.update t), none) := by
  rcases (agg.holding bar).onTick_cases t with ⟨other, -⟩ | ⟨-, current, -⟩ |
    ⟨held, -, current, later, -⟩ | ⟨held, -, current, -, done⟩
  · exact absurd own other
  · cases current
  · cases current
    exact absurd (same ▸ later : bar.openTime < bar.openTime) (lt_irrefl _)
  · cases current
    exact done

theorem holding_closes {bar : OpenBar} {t : Tick} (own : agg.Own t)
    (later : bar.openTime < agg.bucket t) :
    (agg.holding bar).onTick t = (agg.opening t, agg.emit bar) := by
  rcases (agg.holding bar).onTick_cases t with ⟨other, -⟩ | ⟨-, current, -⟩ |
    ⟨held, -, current, -, done⟩ | ⟨held, -, current, stays, -⟩
  · exact absurd own other
  · cases current
  · cases current
    exact done
  · cases current
    exact absurd later stays

/-- Ticks of the bucket in the making only extend its bar. -/
theorem feed_within {bar : OpenBar} (ticks : List Tick)
    (mine : ∀ t ∈ ticks, agg.Own t ∧ agg.bucket t = bar.openTime) :
    (agg.holding bar).feed ticks =
      (agg.holding (ticks.foldl OpenBar.update bar), []) := by
  induction ticks generalizing bar with
  | nil => rfl
  | cons t rest ih =>
      rcases mine t List.mem_cons_self with ⟨own, same⟩
      have others : ∀ later ∈ rest,
          agg.Own later ∧ agg.bucket later = (bar.update t).openTime :=
        fun later member => mine later (List.mem_cons_of_mem _ member)
      rw [feed_cons, holding_extends own same, ih others]
      rfl

/-- The first ticks of a bucket: what was in the making closes, at most, and
their bar is in the making. -/
theorem feed_opens (before : agg.Before b) {t : Tick} {rest : List Tick}
    (mine : ∀ x ∈ t :: rest, agg.Own x ∧ agg.bucket x = b) :
    ∃ closed, agg.feed (t :: rest) =
        (agg.holding (.ofTicks b t rest), closed) ∧
      ∀ bar ∈ closed, bar.time < b := by
  rcases mine t List.mem_cons_self with ⟨own, same⟩
  have opened : agg.opening t = agg.holding (.reset b t) := by
    unfold opening holding
    rw [same]
  have others : ∀ later ∈ rest,
      agg.Own later ∧ agg.bucket later = (OpenBar.reset b t).openTime :=
    fun later member => mine later (List.mem_cons_of_mem _ member)
  have within : (agg.opening t).feed rest =
      (agg.holding (.ofTicks b t rest), []) := by
    rw [opened]
    exact feed_within rest others
  rcases agg.onTick_cases t with ⟨other, -⟩ | ⟨-, -, done⟩ |
    ⟨bar, -, current, -, done⟩ | ⟨bar, -, current, stays, -⟩
  · exact absurd own other
  · refine ⟨[], ?_, fun _ member => by cases member⟩
    rw [feed_cons, done, within]
    rfl
  · refine ⟨(agg.emit bar).toList, ?_, ?_⟩
    · rw [feed_cons, done, within, List.append_nil]
    · intro emitted member
      unfold emit at member
      split at member
      · rw [List.mem_singleton.mp member]
        exact before bar current
      · cases member
  · rw [same] at stays
    exact absurd (before bar current) stays

/-- A tick of a later bucket emits the bar in the making; every bar after it
opens later. -/
theorem feed_closes {bar : OpenBar} {closing : Tick} (back : List Tick)
    (own : agg.Own closing) (later : bar.openTime < agg.bucket closing) :
    ∃ others, ((agg.holding bar).feed (closing :: back)).2 =
        (agg.emit bar).toList ++ others ∧
      ∀ other ∈ others, bar.openTime < other.time := by
  refine ⟨((agg.opening closing).feed back).2, ?_, ?_⟩
  · rw [feed_cons, holding_closes own later]
  · intro other member
    have bound := (feed_increasing (agg.opening closing) back).2 _ rfl other
      member
    exact lt_of_lt_of_le later bound

theorem filter_time_eq_nil {bars : List Bar}
    (apart : ∀ bar ∈ bars, bar.time ≠ b) :
    bars.filter (fun bar => decide (bar.time = b)) = [] := by
  apply List.filter_eq_nil_iff.mpr
  intro bar member
  simpa using apart bar member

theorem filter_time_emit {bar : OpenBar} (opens : bar.openTime = b) :
    (agg.emit bar).toList.filter (fun bar => decide (bar.time = b)) =
      (agg.emit bar).toList := by
  apply List.filter_eq_self.mpr
  intro emitted member
  unfold emit at member
  split at member
  · rw [List.mem_singleton.mp member]
    exact decide_eq_true opens
  · cases member

/-- The ticks of a bucket, after earlier and before later ones: of all the bars
emitted exactly one is for the bucket, and it is made of these ticks. -/
theorem feed_bucket (before : agg.Before b) {front back : List Tick}
    {t closing : Tick} {rest : List Tick}
    (earlier : ∀ x ∈ front, agg.Own x → agg.bucket x < b)
    (mine : ∀ x ∈ t :: rest, agg.Own x ∧ agg.bucket x = b)
    (closes : agg.Own closing ∧ b < agg.bucket closing) :
    (agg.feed (front ++ (t :: rest) ++ closing :: back)).2.filter
        (fun bar => decide (bar.time = b)) =
      (agg.emit (.ofTicks b t rest)).toList := by
  rcases feed_before before front earlier with ⟨untouched, old⟩
  rcases agg.feed_key front with ⟨symbol, tf, emits⟩
  rw [feed_append, feed_append]
  generalize (agg.feed front).1 = mid at *
  have same : ∀ x, agg.Own x → mid.Own x ∧ mid.bucket x = agg.bucket x := by
    intro x own
    refine ⟨own.trans symbol.symm, ?_⟩
    unfold bucket
    rw [tf]
  have mineMid : ∀ x ∈ t :: rest, mid.Own x ∧ mid.bucket x = b := by
    intro x member
    rcases mine x member with ⟨own, here⟩
    exact ⟨(same x own).1, (same x own).2.trans here⟩
  rcases feed_opens untouched mineMid with ⟨closed, opened, earlierBars⟩
  rcases same closing closes.1 with ⟨ownClosing, bucketClosing⟩
  have later : (OpenBar.ofTicks b t rest).openTime < mid.bucket closing := by
    rw [OpenBar.ofTicks_openTime, bucketClosing]
    exact closes.2
  rcases feed_closes back ownClosing later with ⟨others, closing_, laterBars⟩
  have emitted : mid.emit (.ofTicks b t rest) =
      agg.emit (.ofTicks b t rest) := by
    simp only [emit, symbol, tf, emits]
  have noFront := filter_time_eq_nil fun bar member => (old bar member).ne
  have noClosed :=
    filter_time_eq_nil fun bar member => (earlierBars bar member).ne
  have noOthers : others.filter (fun bar => decide (bar.time = b)) = [] := by
    apply filter_time_eq_nil
    intro bar member
    have bound := laterBars bar member
    rw [OpenBar.ofTicks_openTime] at bound
    exact bound.ne'
  rw [opened]
  dsimp only
  rw [closing_, emitted, List.filter_append, List.filter_append,
    List.filter_append, noFront, noClosed, noOthers,
    filter_time_emit (OpenBar.ofTicks_openTime b t rest), List.append_nil,
    List.append_nil, List.nil_append]

/-- The same for a stretch of own ticks in the order of their buckets, between
ticks of any symbol. -/
theorem feed_sorted_bucket (before : agg.Before b)
    {front middle back : List Tick} (own : ∀ t ∈ middle, agg.Own t)
    (sorted : (middle.map agg.bucket).Pairwise (· ≤ ·))
    (earlier : ∀ t ∈ front, agg.Own t → agg.bucket t < b)
    (beyond : ∀ t ∈ back, agg.Own t → b < agg.bucket t)
    (closed : ∃ t ∈ middle ++ back, agg.Own t ∧ b < agg.bucket t)
    {first : Tick} {rest : List Tick}
    (ticks : (middle.filter fun t => decide (agg.bucket t = b)) =
      first :: rest) :
    (agg.feed (front ++ middle ++ back)).2.filter
        (fun bar => decide (bar.time = b)) =
      (agg.emit (.ofTicks b first rest)).toList := by
  have cut := split_at_key sorted b
  rw [ticks] at cut
  have mineAll : middle.filter (fun t => decide (t.symbol = agg.symbol)) =
      middle := by
    apply List.filter_eq_self.mpr
    intro t member
    exact decide_eq_true (show t.symbol = agg.symbol from own t member)
  have inBucket : ∀ t ∈ first :: rest, agg.Own t ∧ agg.bucket t = b := by
    intro t member
    rw [← ticks] at member
    rcases List.mem_filter.mp member with ⟨there, here⟩
    exact ⟨own t there, of_decide_eq_true here⟩
  -- the ticks of later buckets, and the first of them
  have late : ∀ t ∈ (middle.filter fun t => decide (b < agg.bucket t)) ++
      back.filter (fun t => decide (t.symbol = agg.symbol)),
      agg.Own t ∧ b < agg.bucket t := by
    intro t member
    rcases List.mem_append.mp member with inside | after
    · rcases List.mem_filter.mp inside with ⟨there, later⟩
      exact ⟨own t there, of_decide_eq_true later⟩
    · rcases List.mem_filter.mp after with ⟨there, mine⟩
      have same : t.symbol = agg.symbol := of_decide_eq_true mine
      exact ⟨same, beyond t there same⟩
  have closing : ∃ t ∈ (middle.filter fun t => decide (b < agg.bucket t)) ++
      back.filter (fun t => decide (t.symbol = agg.symbol)), True := by
    rcases closed with ⟨t, there, mine, later⟩
    refine ⟨t, ?_, trivial⟩
    rcases List.mem_append.mp there with inside | after
    · exact List.mem_append_left _
        (List.mem_filter.mpr ⟨inside, decide_eq_true later⟩)
    · exact List.mem_append_right _
        (List.mem_filter.mpr
          ⟨after, decide_eq_true (show t.symbol = agg.symbol from mine)⟩)
  cases tail : (middle.filter fun t => decide (b < agg.bucket t)) ++
      back.filter (fun t => decide (t.symbol = agg.symbol)) with
  | nil =>
      rcases closing with ⟨t, member, -⟩
      rw [tail] at member
      cases member
  | cons closer others =>
      have whole : (front ++ middle ++ back).filter
          (fun t => decide (t.symbol = agg.symbol)) =
            (front.filter (fun t => decide (t.symbol = agg.symbol)) ++
              middle.filter fun t => decide (agg.bucket t < b)) ++
              (first :: rest) ++ closer :: others := by
        rw [List.filter_append, List.filter_append, mineAll, ← tail]
        nth_rewrite 1 [cut]
        simp only [List.append_assoc]
      rw [← feed_own, whole]
      apply feed_bucket before ?_ inBucket
      · apply late
        rw [tail]
        exact List.mem_cons_self
      · intro t member mine
        rcases List.mem_append.mp member with old | inside
        · exact earlier t (List.mem_of_mem_filter old) mine
        · exact of_decide_eq_true (List.mem_filter.mp inside).2

end BarAggregator

end StingerFx
