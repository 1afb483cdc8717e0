/-
Module: StingerFx.Proofs.HistoryViews
Layer: Proofs
Purpose: The streaming indicators of a history view. The view feeds each of them the
  bars that it has taken, whenever it was first asked for, so its value is the one
  of the batch function on these bars.
Trusted boundary: none (fully proved)
Main exports: IndicatorKey.Valid, Indicator.after, backFilled_eq, enteredBars,
  HistoryView.Tracking, HistoryView.run_tracking, streaming_matches_batch
-/
import StingerFx.Proofs.StreamingIndicators
import StingerFx.Strategies.HistoryView
import StingerFx.Strategies.Runner

namespace StingerFx

open Lib

/-- Periods that the constructors accept. -/
def IndicatorKey.Valid : IndicatorKey → Prop
  | .rsi period => 0 < period
  | .atr period => 0 < period
  | .stoch rsiPeriod stochPeriod kSmooth dSmooth =>
      0 < rsiPeriod ∧ 0 < stochPeriod ∧ 0 < kSmooth ∧ 0 < dSmooth

namespace Indicator

/-- The instance of a key that was fed some bars. -/
def after : IndicatorKey → List Bar → Indicator
  | .rsi period, bars => .rsi (.after period (bars.map Bar.close))
  | .atr period, bars => .atr (.after period bars)
  | .stoch rsiPeriod stochPeriod kSmooth dSmooth, bars =>
      .stoch (.after rsiPeriod stochPeriod kSmooth dSmooth (bars.map Bar.close))

theorem create_eq {key : IndicatorKey} (valid : key.Valid) :
    create key = .ok (after key []) := by
  cases key with
  | rsi period =>
      rw [create, IncrementalRSI.create_eq valid]
      rfl
  | atr period =>
      rw [create, IncrementalATR.create_eq valid]
      rfl
  | stoch rsiPeriod stochPeriod kSmooth dSmooth =>
      obtain ⟨rsi_pos, stoch_pos, k_pos, d_pos⟩ := valid
      rw [create, IncrementalStochRSI.create_eq rsi_pos stoch_pos k_pos d_pos]
      rfl

theorem create_raises {key : IndicatorKey} (invalid : ¬key.Valid) :
    ∃ error, create key = .error error := by
  cases key with
  | rsi period =>
      have zero : period = 0 := Nat.eq_zero_of_not_pos invalid
      exact ⟨_, by rw [create, IncrementalRSI.create, if_pos zero]; rfl⟩
  | atr period =>
      have zero : period = 0 := Nat.eq_zero_of_not_pos invalid
      exact ⟨_, by rw [create, IncrementalATR.create, if_pos zero]; rfl⟩
  | stoch rsiPeriod stochPeriod kSmooth dSmooth =>
      have small :
          rsiPeriod < 1 ∨ stochPeriod < 1 ∨ kSmooth < 1 ∨ dSmooth < 1 := by
        unfold IndicatorKey.Valid at invalid
        omega
      exact ⟨_, by rw [create, IncrementalStochRSI.create, if_pos small]; rfl⟩

/-- One more bar. -/
theorem update_after {key : IndicatorKey} (valid : key.Valid) (bars : List Bar)
    (bar : Bar) : (after key bars).update bar = .ok (after key (bars ++ [bar])) := by
  have closes : (bars ++ [bar]).map Bar.close = bars.map Bar.close ++ [bar.close] :=
    List.map_append
  cases key with
  | rsi period =>
      rw [after, after, closes, update, IncrementalRSI.update_after valid]
      rfl
  | atr period =>
      rw [after, after, update, IncrementalATR.update_after valid]
      rfl
  | stoch rsiPeriod stochPeriod kSmooth dSmooth =>
      obtain ⟨rsi_pos, stoch_pos, k_pos, d_pos⟩ := valid
      rw [after, after, closes, update,
        IncrementalStochRSI.update_after rsi_pos stoch_pos k_pos d_pos]
      rfl

theorem foldlM_update_after {key : IndicatorKey} (valid : key.Valid)
    (later seen : List Bar) :
    later.foldlM (fun (inst : Indicator) bar => inst.update bar) (after key seen) =
      .ok (after key (seen ++ later)) := by
  induction later generalizing seen with
  | nil =>
      rw [List.append_nil]
      rfl
  | cons bar rest ih =>
      rw [List.foldlM_cons, update_after valid]
      have step := ih (seen ++ [bar])
      rwa [List.append_assoc] at step

/-- A new instance is brought up to date from the buffer. -/
theorem backFilled_eq {key : IndicatorKey} (valid : key.Valid) (bars : List Bar) :
    backFilled key bars = .ok (after key bars) := by
  rw [backFilled, create_eq valid]
  exact foldlM_update_after valid bars []

theorem backFilled_raises {key : IndicatorKey} (invalid : ¬key.Valid)
    (bars : List Bar) : ∃ error, backFilled key bars = .error error := by
  obtain ⟨error, raised⟩ := create_raises invalid
  refine ⟨error, ?_⟩
  rw [backFilled, raised]
  rfl

end Indicator

/-! ### The bars that a view has taken -/

/-- A closed bar that is newer than all before it is taken. -/
def acceptBar (seen : List Bar) : ViewEvent → List Bar
  | .offer true bar => appendBar seen bar
  | .offer false _ => seen
  | .ask _ => seen

def enteredBars (events : List ViewEvent) : List Bar :=
  events.foldl acceptBar []

theorem length_le_acceptBar (seen : List Bar) (event : ViewEvent) :
    seen.length ≤ (acceptBar seen event).length := by
  cases event with
  | ask key => exact le_refl _
  | offer isClosed bar =>
      cases isClosed with
      | false => exact le_refl _
      | true =>
          change seen.length ≤ (appendBar seen bar).length
          unfold appendBar
          split
          · rw [List.length_append]
            exact Nat.le_add_right _ _
          · split
            · exact le_refl _
            · rw [List.length_append]
              exact Nat.le_add_right _ _

theorem length_le_foldl_acceptBar (events : List ViewEvent) (seen : List Bar) :
    seen.length ≤ (events.foldl acceptBar seen).length := by
  induction events generalizing seen with
  | nil => exact le_refl _
  | cons event rest ih =>
      exact (length_le_acceptBar seen event).trans (ih (acceptBar seen event))

namespace HistoryView

/-- The buffer holds the bars taken, and every indicator was fed exactly these. -/
structure Tracking (seen : List Bar) (view : HistoryView) : Prop where
  bars : view.bars = seen
  fits : seen.length ≤ view.capacity
  fed : ∀ key inst, view.inc.get? key = some inst →
    key.Valid ∧ inst = Indicator.after key seen

/-- The loop over the indicators feeds the bar to each. -/
theorem foldlM_update {bar : Bar} {seen : List Bar}
    (todo : List (IndicatorKey × Indicator)) {inc : Dict IndicatorKey Indicator}
    (waiting : ∀ entry ∈ todo,
      entry.1.Valid ∧ entry.2 = Indicator.after entry.1 seen)
    (done : ∀ key inst, inc.get? key = some inst → key ∉ todo.map Prod.fst →
      key.Valid ∧ inst = Indicator.after key (seen ++ [bar])) :
    Returns
      (todo.foldlM (fun (inc : Dict IndicatorKey Indicator) entry =>
        (entry.2.update bar).map fun inst => inc.set entry.1 inst) inc)
      fun next => ∀ key inst, next.get? key = some inst →
        key.Valid ∧ inst = Indicator.after key (seen ++ [bar]) := by
  induction todo generalizing inc with
  | nil => exact Returns.pure fun key inst found => done key inst found List.not_mem_nil
  | cons entry rest ih =>
      obtain ⟨valid, same⟩ := waiting entry List.mem_cons_self
      have fed := Indicator.update_after valid seen bar
      rw [List.foldlM_cons, same, fed]
      apply ih fun other member => waiting other (List.mem_cons_of_mem entry member)
      intro key inst found new
      rw [Dict.get?_set] at found
      split at found
      · rename_i here
        cases found
        exact ⟨here ▸ valid, here ▸ rfl⟩
      · rename_i apart
        apply done key inst found
        rw [List.map_cons, List.mem_cons]
        exact fun either => either.elim apart new

theorem updateAll_tracking {view : HistoryView} {seen : List Bar}
    (tracking : view.Tracking seen) (bar : Bar) :
    Returns (updateAll bar view.inc) fun next =>
      ∀ key inst, next.get? key = some inst →
        key.Valid ∧ inst = Indicator.after key (seen ++ [bar]) := by
  apply foldlM_update
  · intro entry member
    exact tracking.fed entry.1 entry.2 ((view.inc.get?_eq_some_iff).mpr member)
  · intro key inst found new
    have member := (view.inc.get?_eq_some_iff).mp found
    exact absurd (List.mem_map_of_mem member) new

theorem lastN_of_le {α : Type} {n : Nat} {items : List α} (short : items.length ≤ n) :
    lastN n items = items := by
  rw [lastN, Nat.sub_eq_zero_of_le short, List.drop_zero]

/-- A bar that is newer than the last enters the buffer and every indicator. -/
theorem take_tracking {view : HistoryView} {seen : List Bar}
    (tracking : view.Tracking seen) {bar : Bar}
    (room : (seen ++ [bar]).length ≤ view.capacity)
    (newer : view.bars.getLast?.any (fun last => decide (bar.time ≤ last.time)) =
      false) :
    Returns (view.appendBar true bar) fun next =>
      next.capacity = view.capacity ∧ next.Tracking (seen ++ [bar]) := by
  rw [appendBar, if_neg Bool.noConfusion, newer, if_neg Bool.noConfusion]
  apply Returns.bind (updateAll_tracking tracking bar)
  intro inc fed
  apply Returns.pure
  refine ⟨rfl, ?_, room, fed⟩
  change pushBounded view.capacity view.bars bar = seen ++ [bar]
  rw [pushBounded, tracking.bars, lastN_of_le room]

theorem appendBar_tracking {view : HistoryView} {seen : List Bar}
    (tracking : view.Tracking seen) {bar : Bar}
    (room : (StingerFx.appendBar seen bar).length ≤ view.capacity) :
    Returns (view.appendBar true bar) fun next =>
      next.capacity = view.capacity ∧
        next.Tracking (StingerFx.appendBar seen bar) := by
  unfold StingerFx.appendBar at room ⊢
  cases isLast : seen.getLast? with
  | none =>
      simp only [isLast] at room ⊢
      apply take_tracking tracking room
      rw [tracking.bars, isLast]
      rfl
  | some last =>
      simp only [isLast] at room ⊢
      by_cases late : bar.time ≤ last.time
      · rw [if_pos late]
        have dropped : view.bars.getLast?.any
            (fun last => decide (bar.time ≤ last.time)) = true := by
          rw [tracking.bars, isLast]
          exact decide_eq_true late
        rw [appendBar, if_neg Bool.noConfusion, if_pos dropped]
        exact Returns.pure ⟨rfl, tracking⟩
      · rw [if_neg late] at room ⊢
        apply take_tracking tracking room
        rw [tracking.bars, isLast]
        exact decide_eq_false late

/-- A request with valid periods returns the instance that was fed the bars taken. -/
theorem incremental_tracking {view : HistoryView} {seen : List Bar}
    (tracking : view.Tracking seen) {key : IndicatorKey} (valid : key.Valid) :
    ∃ next, view.incremental key = .ok (next, Indicator.after key seen) ∧
      next.capacity = view.capacity ∧ next.Tracking seen := by
  cases found : view.inc.get? key with
  | some inst =>
      obtain ⟨-, same⟩ := tracking.fed key inst found
      refine ⟨view, ?_, rfl, tracking⟩
      rw [incremental, found, same]
  | none =>
      refine ⟨{ view with inc := view.inc.set key (.after key seen) }, ?_, rfl,
        tracking.bars, tracking.fits, ?_⟩
      · rw [incremental, found, tracking.bars]
        change (Indicator.backFilled key seen >>= _) = _
        rw [Indicator.backFilled_eq valid]
        rfl
      · intro other inst stored
        rw [Dict.get?_set] at stored
        split at stored
        · rename_i same
          cases stored
          exact ⟨same ▸ valid, same ▸ rfl⟩
        · exact tracking.fed other inst stored

theorem step_tracking {view : HistoryView} {seen : List Bar}
    (tracking : view.Tracking seen) (event : ViewEvent)
    (room : (acceptBar seen event).length ≤ view.capacity) :
    Returns (view.step event) fun next =>
      next.capacity = view.capacity ∧ next.Tracking (acceptBar seen event) := by
  cases event with
  | offer isClosed bar =>
      cases isClosed with
      | false => exact Returns.pure ⟨rfl, tracking⟩
      | true => exact appendBar_tracking tracking room
  | ask key =>
      by_cases valid : key.Valid
      · obtain ⟨next, returned, kept, tracked⟩ := incremental_tracking tracking valid
        rw [step, returned]
        exact Returns.pure ⟨kept, tracked⟩
      · have fresh : view.inc.get? key = none := by
          cases found : view.inc.get? key with
          | none => rfl
          | some inst => exact absurd (tracking.fed key inst found).1 valid
        obtain ⟨error, raised⟩ := Indicator.backFilled_raises valid view.bars
        have refused : view.incremental key = .error error := by
          rw [incremental, fresh]
          dsimp only
          rw [raised]
          rfl
        rw [step, refused]
        exact Returns.pure ⟨rfl, tracking⟩

/-- Over every sequence of offers and requests. -/
theorem run_tracking (events : List ViewEvent) {view : HistoryView} {seen : List Bar}
    (tracking : view.Tracking seen)
    (room : (events.foldl acceptBar seen).length ≤ view.capacity) :
    Returns (view.run events) fun next =>
      next.Tracking (events.foldl acceptBar seen) := by
  induction events generalizing view seen with
  | nil => exact Returns.pure tracking
  | cons event rest ih =>
      have roomNow : (acceptBar seen event).length ≤ view.capacity :=
        (length_le_foldl_acceptBar rest _).trans room
      rw [run, List.foldlM_cons]
      apply Returns.bind (step_tracking tracking event roomNow)
      rintro next ⟨kept, tracked⟩
      exact ih tracked (kept ▸ room)

theorem create_tracking (capacity : Nat) : (create capacity).Tracking [] :=
  ⟨rfl, Nat.zero_le _, fun _ _ found => nomatch found⟩

/-- What a request for RSI returns. -/
theorem rsi_tracking {view : HistoryView} {seen : List Bar}
    (tracking : view.Tracking seen) {period : Nat} (positive : 0 < period) :
    (view.rsi period).map Prod.snd =
      .ok (IncrementalRSI.valueOn period (seen.map Bar.close)) := by
  have valid : (IndicatorKey.rsi period).Valid := positive
  obtain ⟨next, returned, -⟩ := incremental_tracking tracking valid
  rw [rsi, returned]
  rfl

theorem atr_tracking {view : HistoryView} {seen : List Bar}
    (tracking : view.Tracking seen) {period : Nat} (positive : 0 < period) :
    (view.atr period).map Prod.snd = .ok (IncrementalATR.valueOn period seen) := by
  have valid : (IndicatorKey.atr period).Valid := positive
  obtain ⟨next, returned, -⟩ := incremental_tracking tracking valid
  rw [atr, returned]
  rfl

theorem stochRsi_tracking {view : HistoryView} {seen : List Bar}
    (tracking : view.Tracking seen) {rsiPeriod stochPeriod kSmooth dSmooth : Nat}
    (valid : (IndicatorKey.stoch rsiPeriod stochPeriod kSmooth dSmooth).Valid) :
    (view.stochRsi rsiPeriod stochPeriod kSmooth dSmooth).map Prod.snd =
      .ok (IncrementalStochRSI.valueOfRaw kSmooth dSmooth
        (rawKs stochPeriod (rsiSeriesOf (seen.map Bar.close) rsiPeriod))) := by
  obtain ⟨next, returned, -⟩ := incremental_tracking tracking valid
  rw [stochRsi, returned]
  rfl

end HistoryView

/-! ### The series and the moment of the first request -/

theorem deltas_take (values : List ℚ) (n : Nat) :
    deltas (values.take (n + 1)) = (deltas values).take n := by
  induction values generalizing n with
  | nil => simp [deltas]
  | cons first rest ih =>
      cases rest with
      | nil => simp [deltas]
      | cons second rest =>
          cases n with
          | zero => rfl
          | succ n =>
              have step := ih n
              change (second - first) :: deltas ((second :: rest).take (n + 1)) = _
              rw [step]
              rfl

/-- An element of the series is the value on the prefix that ends there. -/
theorem rsiSeries_getElem {values : List ℚ} {period i : Nat} (positive : 0 < period)
    (inside : period + i + 1 ≤ values.length)
    (short : period + i + 1 ≤ period * wilderTailFactor) :
    ∃ series v, rsiSeries values period = .ok series ∧ series[i]? = some v ∧
      rsi (values.take (period + i + 1)) period = .ok (some v) := by
  have full : (values.take (period + i + 1)).length = period + i + 1 :=
    List.length_take_of_le inside
  have warm : period < (values.take (period + i + 1)).length := by omega
  refine ⟨_, rsiAfter period ((deltas values).take (period + i)),
    rsiSeries_eq positive values, ?_, ?_⟩
  · rw [rsiSeriesOf, List.getElem?_map, List.getElem?_range (by omega)]
    rfl
  · rw [rsi_eq_valueOn positive (full.trans_le short), IncrementalRSI.valueOn,
      if_pos warm, deltas_take]

/-- The offers among the events. -/
def offersOf (events : List ViewEvent) : List ViewEvent :=
  events.filter fun
    | .offer _ _ => true
    | .ask _ => false

theorem foldl_acceptBar_offersOf (events : List ViewEvent) (seen : List Bar) :
    (offersOf events).foldl acceptBar seen = events.foldl acceptBar seen := by
  induction events generalizing seen with
  | nil => rfl
  | cons event rest ih =>
      cases event with
      | offer isClosed bar => exact ih (acceptBar seen (.offer isClosed bar))
      | ask key => exact ih seen

theorem enteredBars_offersOf (events : List ViewEvent) :
    enteredBars (offersOf events) = enteredBars events :=
  foldl_acceptBar_offersOf events []

/-- After every sequence of offers and requests that fits into the buffer, the values
of the streaming indicators are the batch values on the bars taken, and a different
timing of the requests makes no difference. -/
theorem streaming_matches_batch {capacity : Nat} (events : List ViewEvent)
    (fits : (enteredBars events).length ≤ capacity) :
    ∃ view, (HistoryView.create capacity).run events = .ok view ∧
      (∀ period, 0 < period →
        (enteredBars events).length ≤ period * wilderTailFactor →
        (view.rsi period).map Prod.snd =
          rsi ((enteredBars events).map Bar.close) period) ∧
      (∀ period, 0 < period →
        (enteredBars events).length ≤ period * wilderTailFactor →
        (view.atr period).map Prod.snd = atr (enteredBars events) period) ∧
      (∀ rsiPeriod stochPeriod kSmooth dSmooth,
        (IndicatorKey.stoch rsiPeriod stochPeriod kSmooth dSmooth).Valid →
        (enteredBars events).length ≤
          stochRsiCap rsiPeriod stochPeriod kSmooth dSmooth →
        (view.stochRsi rsiPeriod stochPeriod kSmooth dSmooth).map Prod.snd =
          (stochRsi ((enteredBars events).map Bar.close) rsiPeriod stochPeriod
            kSmooth dSmooth).map (Option.map fun s => (s.k, s.d))) ∧
      (∀ (values : List ℚ) (period i : Nat), 0 < period →
        period + i + 1 ≤ values.length →
        period + i + 1 ≤ period * wilderTailFactor →
        ∃ series v, rsiSeries values period = .ok series ∧ series[i]? = some v ∧
          rsi (values.take (period + i + 1)) period = .ok (some v)) ∧
      (∀ others, offersOf others = offersOf events →
        ∃ other, (HistoryView.create capacity).run others = .ok other ∧
          ∀ key : IndicatorKey, key.Valid →
            (other.incremental key).map Prod.snd =
              (view.incremental key).map Prod.snd) := by
  obtain ⟨view, ran, tracking⟩ := HistoryView.run_tracking events
    (HistoryView.create_tracking capacity) fits
  change view.Tracking (enteredBars events) at tracking
  refine ⟨view, ran, ?_, ?_, ?_, ?_, ?_⟩
  · intro period positive short
    have closes : ((enteredBars events).map Bar.close).length ≤
        period * wilderTailFactor := by
      rwa [List.length_map]
    rw [HistoryView.rsi_tracking tracking positive, rsi_eq_valueOn positive closes]
  · intro period positive short
    rw [HistoryView.atr_tracking tracking positive, atr_eq_valueOn positive short]
  · intro rsiPeriod stochPeriod kSmooth dSmooth valid short
    have closes : ((enteredBars events).map Bar.close).length ≤
        stochRsiCap rsiPeriod stochPeriod kSmooth dSmooth := by
      rwa [List.length_map]
    rw [HistoryView.stochRsi_tracking tracking valid]
    obtain ⟨rsi_pos, stoch_pos, k_pos, d_pos⟩ := valid
    exact (stochRsi_eq_valueOfRaw rsi_pos stoch_pos k_pos d_pos closes).symm
  · exact fun values period i => rsiSeries_getElem
  · intro others same
    have accepted : enteredBars others = enteredBars events := by
      rw [← enteredBars_offersOf, same, enteredBars_offersOf]
    obtain ⟨other, ranOther, trackingOther⟩ := HistoryView.run_tracking others
      (HistoryView.create_tracking capacity)
      (show (enteredBars others).length ≤ capacity from accepted ▸ fits)
    refine ⟨other, ranOther, ?_⟩
    intro key valid
    obtain ⟨_, here, -⟩ := HistoryView.incremental_tracking tracking valid
    obtain ⟨_, there, -⟩ := HistoryView.incremental_tracking trackingOther valid
    rw [here, there]
    change Except.ok (Indicator.after key (enteredBars others)) =
      Except.ok (Indicator.after key (enteredBars events))
    rw [accepted]

/-- A bar of euro against dollar with a range of two around its close. -/
def rangeBar (time : Time) (close : ℚ) (wide : 1 < close) : Bar where
  symbol := "EURUSD"
  timeframe := .h1
  time := time
  openPrice := close
  high := close + 1
  low := close - 1
  close := close
  tickVolume := 1
  low_pos := sub_pos.mpr wide
  low_le_open := sub_le_self close zero_le_one
  open_le_high := le_add_of_nonneg_right zero_le_one
  low_le_close := sub_le_self close zero_le_one
  close_le_high := le_add_of_nonneg_right zero_le_one

/-- Three bars, the second offered twice and the first once more at the end, with a
request in between. -/
def viewEvents : List ViewEvent :=
  [.offer true (rangeBar 0 10 (by decide)), .offer true (rangeBar 1 12 (by decide)),
    .ask (.rsi 2), .offer true (rangeBar 1 12 (by decide)),
    .offer true (rangeBar 2 11 (by decide)), .offer true (rangeBar 0 10 (by decide))]

theorem streaming_matches_batch_three :
    (enteredBars viewEvents).length = 3 ∧
      ∃ view, (HistoryView.create 2000).run viewEvents = .ok view ∧
        (view.rsi 2).map Prod.snd = rsi ((enteredBars viewEvents).map Bar.close) 2 ∧
        rsi ((enteredBars viewEvents).map Bar.close) 2 = .ok (some (200 / 3)) := by
  have three : (enteredBars viewEvents).length = 3 := by decide +kernel
  have fits : (enteredBars viewEvents).length ≤ 2000 := three.trans_le (by decide)
  obtain ⟨view, ran, ofRsi, -⟩ := streaming_matches_batch viewEvents fits
  refine ⟨three, view, ran, ?_, by decide +kernel⟩
  exact ofRsi 2 (by decide) (three.trans_le (by decide))

end StingerFx
