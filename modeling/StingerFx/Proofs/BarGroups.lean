/-
Module: StingerFx.Proofs.BarGroups
Layer: Proofs
Purpose: The bar aggregator is a grouping of its symbol's ticks by the boundary of
  their period: each group but the last is one bar. A warm-up without output can
  hand its bar over at any tick, and what follows is what a single aggregator does.
Trusted boundary: none (fully proved)
Main exports: GroupBar, BarAggregator.Grouped, BarAggregator.bars_group_ticks,
  BarAggregator.two_minutes_grouped
-/
import StingerFx.Brokers.BarBuckets
import StingerFx.Lib.Groups

namespace StingerFx

open Lib

/-- A bar of a feed that holds exactly the ticks of a group. -/
structure GroupBar (symbol : Symbol) (tf : Timeframe) (bar : Bar)
    (group : Time × List Tick) : Prop where
  symbol : bar.symbol = symbol
  timeframe : bar.timeframe = tf
  time : bar.time = group.1
  openPrice : group.2.head?.map Tick.bid = some bar.openPrice
  high : IsGreatest {price | ∃ tick ∈ group.2, tick.bid = price} bar.high
  low : IsLeast {price | ∃ tick ∈ group.2, tick.bid = price} bar.low
  close : group.2.getLast?.map Tick.bid = some bar.close
  tickVolume : bar.tickVolume = group.2.length

namespace BarAggregator

variable {agg : BarAggregator}

/-- The ticks of the aggregator's symbol. -/
def ownTicks (agg : BarAggregator) (ticks : List Tick) : List Tick :=
  ticks.filter fun tick => decide (tick.symbol = agg.symbol)

/-! ### The bar of a group -/

theorem emit_ofTicks (emits : agg.emitBars = true) (openTime : Time)
    (first : Tick) (rest : List Tick) :
    ∃ bar, agg.emit (.ofTicks openTime first rest) = some bar ∧
      GroupBar agg.symbol agg.tf bar (openTime, first :: rest) := by
  have of := OpenBar.ofTicks_of openTime first rest
  refine ⟨_, if_pos emits, ?_⟩
  exact
    { symbol := rfl
      timeframe := rfl
      time := OpenBar.ofTicks_openTime openTime first rest
      openPrice := congrArg some
        (OpenBar.ofTicks_openPrice openTime first rest).symm
      high := by
        refine ⟨of.highest, ?_⟩
        rintro price ⟨tick, member, rfl⟩
        exact (of.within tick member).2
      low := by
        refine ⟨of.lowest, ?_⟩
        rintro price ⟨tick, member, rfl⟩
        exact (of.within tick member).1
      close := by
        rcases of.last with ⟨before, tick, split, ends⟩
        have last : (first :: rest).getLast? = some tick := by
          rw [split]
          simp
        dsimp only
        rw [last]
        exact congrArg some ends
      tickVolume := of.counted }

theorem ofTicks_concat (openTime : Time) (first : Tick) (rest : List Tick)
    (tick : Tick) :
    OpenBar.ofTicks openTime first (rest ++ [tick]) =
      (OpenBar.ofTicks openTime first rest).update tick := by
  unfold OpenBar.ofTicks
  rw [List.foldl_append]
  rfl

/-! ### The stream follows the groups -/

/-- After some ticks all groups but the last are bars, and the bar in the making
is that of the last. -/
inductive Follows (agg : BarAggregator) (ticks : List Tick) : Prop where
  | idle (none : ticks = []) (same : agg.feed ticks = (agg, []))
  | making (closed : List (Time × List Tick)) (openTime : Time) (first : Tick)
      (rest : List Tick)
      (split : groups agg.bucket ticks =
        closed ++ [(openTime, first :: rest)])
      (current : (agg.feed ticks).1 =
        agg.holding (.ofTicks openTime first rest))
      (bars : List.Forall₂ (GroupBar agg.symbol agg.tf) (agg.feed ticks).2
        closed)

theorem feed_concat (agg : BarAggregator) (ticks : List Tick) (tick : Tick) :
    agg.feed (ticks ++ [tick]) =
      (((agg.feed ticks).1.onTick tick).1,
        (agg.feed ticks).2 ++ ((agg.feed ticks).1.onTick tick).2.toList) := by
  rw [feed_append]
  simp [feed]

/-- One more tick of the symbol. -/
theorem Follows.step {ticks : List Tick} {tick : Tick}
    (follows : agg.Follows ticks) (emits : agg.emitBars = true)
    (cold : agg.current = none) (own : agg.Own tick)
    (sorted : ((ticks ++ [tick]).map agg.bucket).Pairwise (· ≤ ·)) :
    agg.Follows (ticks ++ [tick]) := by
  cases follows with
  | idle none same =>
      subst none
      rcases agg.onTick_cases tick with ⟨other, -⟩ | ⟨-, -, done⟩ |
        ⟨bar, -, current, -⟩ | ⟨bar, -, current, -⟩
      · exact absurd own other
      · refine .making [] (agg.bucket tick) tick [] (groups_singleton tick) ?_ ?_
        · rw [feed_concat, same, done]
          rfl
        · rw [feed_concat, same, done]
          exact .nil
      · rw [cold] at current
        cases current
      · rw [cold] at current
        cases current
  | making closed openTime first rest split current bars =>
      rcases groups_snoc sorted split with ⟨here, grown⟩ | ⟨later, begun⟩
      · have same : agg.bucket tick =
            (OpenBar.ofTicks openTime first rest).openTime :=
          here.trans (OpenBar.ofTicks_openTime openTime first rest).symm
        have extended := holding_extends own same
        refine .making closed openTime first (rest ++ [tick]) grown ?_ ?_
        · rw [feed_concat, current, extended, ofTicks_concat]
        · rw [feed_concat, current, extended]
          simpa using bars
      · have beyond : (OpenBar.ofTicks openTime first rest).openTime <
            agg.bucket tick :=
          lt_of_eq_of_lt (OpenBar.ofTicks_openTime openTime first rest) later
        have closes := holding_closes own beyond
        rcases emit_ofTicks emits openTime first rest with
          ⟨bar, emitted, grouped⟩
        refine .making (closed ++ [(openTime, first :: rest)])
          (agg.bucket tick) tick [] begun ?_ ?_
        · rw [feed_concat, current, closes]
          rfl
        · rw [feed_concat, current, closes, emitted]
          exact List.rel_append bars (.cons grouped .nil)

theorem follows_of_sorted (emits : agg.emitBars = true)
    (cold : agg.current = none) (ticks : List Tick)
    (own : ∀ tick ∈ ticks, agg.Own tick)
    (sorted : (ticks.map agg.bucket).Pairwise (· ≤ ·)) :
    agg.Follows ticks := by
  induction ticks using List.reverseRecOn with
  | nil => exact .idle rfl rfl
  | append_singleton ticks tick ih =>
      have before : (ticks.map agg.bucket).Pairwise (· ≤ ·) := by
        rw [List.map_append, List.pairwise_append] at sorted
        exact sorted.1
      apply (ih (fun t member => own t (List.mem_append_left _ member))
        before).step emits cold ?_ sorted
      exact own tick (by simp)

/-! ### Handing the bar over -/

theorem onTick_silent (agg : BarAggregator) (t : Tick) :
    (agg.setEmitBars false).onTick t =
      ((agg.onTick t).1.setEmitBars false, none) := by
  rcases agg.onTick_cases t with ⟨other, done⟩ | ⟨own, cold, done⟩ |
    ⟨bar, own, current, later, done⟩ | ⟨bar, own, current, stays, done⟩
  · have same : t.symbol ≠ (agg.setEmitBars false).symbol := other
    rw [done, onTick, if_pos same]
  all_goals
    have same : ¬ t.symbol ≠ (agg.setEmitBars false).symbol :=
      not_not.mpr own
    rw [done, onTick, if_neg same]
  · have cold' : (agg.setEmitBars false).current = none := cold
    simp only [cold']
    rfl
  · have current' : (agg.setEmitBars false).current = some bar := current
    simp only [current']
    exact if_pos later
  · have current' : (agg.setEmitBars false).current = some bar := current
    simp only [current']
    exact if_neg stays

/-- Without output an aggregator comes to the same bar. -/
theorem feed_silent (agg : BarAggregator) (ticks : List Tick) :
    (agg.setEmitBars false).feed ticks =
      ((agg.feed ticks).1.setEmitBars false, []) := by
  induction ticks generalizing agg with
  | nil => rfl
  | cons t rest ih =>
      rw [feed_cons, feed_cons, onTick_silent, ih]
      rfl

theorem setEmitBars_self (agg : BarAggregator) (silent : Bool) :
    (agg.setEmitBars silent).setEmitBars agg.emitBars = agg := rfl

/-! ### The grouping -/

/-- What the claim says of the ticks of a fresh aggregator: the bars are the
groups, in increasing time, and at every split a silent aggregator can take the
first part. -/
structure Grouped (symbol : Symbol) (tf : Timeframe) (tf_ne : tf ≠ .tick)
    (ticks : List Tick) : Prop where
  groups : List.Forall₂ (GroupBar symbol tf)
    ((create symbol tf tf_ne).feed ticks).2
    (groups (fun tick => barOpenTime tick.time tf)
      (ticks.filter fun tick => decide (tick.symbol = symbol))).dropLast
  increasing :
    (((create symbol tf tf_ne).feed ticks).2.map Bar.time).Pairwise (· < ·)
  /-- a silent aggregator that is copied into a fresh one -/
  copied : ∀ one two, ticks = one ++ two →
    ∃ live,
      (((create symbol tf tf_ne).setEmitBars false).feed one).1.copyStateInto
          (create symbol tf tf_ne) = some live ∧
        (((create symbol tf tf_ne).setEmitBars false).feed one).2 = [] ∧
          ((create symbol tf tf_ne).feed ticks).2 =
            ((create symbol tf tf_ne).feed one).2 ++ (live.feed two).2
  /-- a silent aggregator that is switched on -/
  switched : ∀ one two, ticks = one ++ two →
    ((create symbol tf tf_ne).feed ticks).2 =
      ((create symbol tf tf_ne).feed one).2 ++
        (((((create symbol tf tf_ne).setEmitBars false).feed one).1.setEmitBars
          true).feed two).2

/-- For ticks of the symbol in time order, with ticks of other symbols anywhere
between them. -/
theorem bars_group_ticks (symbol : Symbol) (tf : Timeframe) (tf_ne : tf ≠ .tick)
    (ticks : List Tick)
    (ordered : ((ticks.filter fun tick => decide (tick.symbol = symbol)).map
      Tick.time).Pairwise (· ≤ ·)) :
    Grouped symbol tf tf_ne ticks := by
  have sorted : (((create symbol tf tf_ne).ownTicks ticks).map
      (create symbol tf tf_ne).bucket).Pairwise (· ≤ ·) := by
    rw [List.pairwise_map] at ordered ⊢
    exact ordered.imp fun order => barOpenTime_mono order tf
  have own : ∀ tick ∈ (create symbol tf tf_ne).ownTicks ticks,
      (create symbol tf tf_ne).Own tick := by
    intro tick member
    have same : tick.symbol = symbol :=
      of_decide_eq_true (List.mem_filter.mp member).2
    exact same
  have follows := follows_of_sorted rfl rfl _ own sorted
  have same : (create symbol tf tf_ne).feed
      ((create symbol tf tf_ne).ownTicks ticks) =
        (create symbol tf tf_ne).feed ticks :=
    feed_own _ ticks
  have handover : ∀ one two, ticks = one ++ two →
      ((create symbol tf tf_ne).feed ticks).2 =
        ((create symbol tf tf_ne).feed one).2 ++
          (((create symbol tf tf_ne).feed one).1.feed two).2 := by
    intro one two split
    rw [split, feed_append]
  exact
    { groups := by
        cases follows with
        | idle none still =>
            rw [← same, still]
            have empty : (ticks.filter fun tick =>
                decide (tick.symbol = symbol)) = [] := none
            rw [empty]
            exact .nil
        | making closed openTime first rest split current bars =>
            have whole : Lib.groups (fun tick => barOpenTime tick.time tf)
                (ticks.filter fun tick => decide (tick.symbol = symbol)) =
                  closed ++ [(openTime, first :: rest)] := split
            rw [whole, List.dropLast_concat, ← same]
            exact bars
      increasing := (feed_increasing _ ticks).1
      copied := by
        intro one two split
        refine ⟨((create symbol tf tf_ne).feed one).1, ?_, ?_, ?_⟩
        · rcases (create symbol tf tf_ne).feed_key one with
            ⟨keptSymbol, keptTf, keptEmits⟩
          rw [feed_silent]
          generalize ((create symbol tf tf_ne).feed one).1 = mid at *
          obtain ⟨midSymbol, midTf, midEmits, midCurrent, midNe⟩ := mid
          dsimp only at keptSymbol keptTf keptEmits
          subst keptSymbol keptTf keptEmits
          simp [copyStateInto, setEmitBars, create]
        · rw [feed_silent]
        · exact handover one two split
      switched := by
        intro one two split
        have on : ((create symbol tf tf_ne).feed one).1.emitBars = true :=
          ((create symbol tf tf_ne).feed_key one).2.2
        rw [feed_silent, handover one two split, ← on, setEmitBars_self] }

/-! ### Two minutes of ticks -/

/-- A tick of a quote, with an ask one above its bid. -/
def quoteAt (symbol : Symbol) (seconds : Nat) (bid : ℚ) (bid_pos : 0 < bid) :
    Tick where
  symbol := symbol
  time := seconds * Time.usPerSecond
  bid := bid
  ask := bid + 1
  bid_pos := bid_pos
  ask_pos := by linarith

/-- Two ticks of one minute, one of another symbol, one of the next minute. -/
def twoMinutes : List Tick :=
  [quoteAt "EURUSD" 10 100 (by decide), quoteAt "XAUUSD" 5 7 (by decide),
    quoteAt "EURUSD" 50 103 (by decide), quoteAt "EURUSD" 65 101 (by decide)]

theorem two_minutes_grouped :
    Grouped "EURUSD" .m1 (by decide) twoMinutes ∧
      (((create "EURUSD" .m1 (by decide)).feed twoMinutes).2.map
        fun bar => (bar.time, bar.openPrice, bar.close, bar.tickVolume)) =
          [(0, 100, 103, 2)] :=
  ⟨bars_group_ticks "EURUSD" .m1 (by decide) twoMinutes (by decide), by
    decide +kernel⟩

end BarAggregator

end StingerFx
