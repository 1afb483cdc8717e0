/-
Module: StingerFx.Proofs.OscillatorRanges
Layer: Proofs
Purpose: The oscillators return for every series of bars, without a division by
  zero, and what they return is a percentage. For the directional index the three
  smoothed sums are related: the two movements never exceed the range together.
Trusted boundary: none (fully proved)
Main exports: Percent, rsi_percent, collect_eq, collect_returns,
  stochastic_percent, aroon_percent, stochRsi_percent, RangeBound, Directed,
  adx_percent, oscillators_in_range
-/
import StingerFx.Lib.Attempts
import StingerFx.Proofs.WilderMeans
import StingerFx.Strategies.Indicators.Oscillators

namespace StingerFx

open Lib

/-- A value from zero to a hundred. -/
def Percent (x : ℚ) : Prop := 0 ≤ x ∧ x ≤ 100

/-! ### Means of percentages -/

theorem runningMean_percent {period : Nat} (positive : 0 < period) {values : List ℚ}
    (seeded : period ≤ values.length) (percents : ∀ x ∈ values, Percent x) :
    Percent (runningMean period values) :=
  ⟨le_runningMean positive seeded fun x member => (percents x member).1,
    runningMean_le positive seeded fun x member => (percents x member).2⟩

/-- The mean of as many percentages as the divisor says. -/
theorem mean_percent {count : Nat} (positive : 0 < count) {values : List ℚ}
    (full : values.length = count) (percents : ∀ x ∈ values, Percent x) :
    Returns (quotient values.sum count) Percent := by
  apply Returns.of_eq (quotient_of_ne (cast_ne_zero positive))
  rw [← runningMean_of_length full]
  exact runningMean_percent positive full.ge percents

/-! ### RSI -/

theorem rsiOf_percent {averages : Averages} (gain_nonneg : 0 ≤ averages.gain)
    (loss_nonneg : 0 ≤ averages.loss) : Percent (rsiOf averages) := by
  unfold rsiOf
  split
  · exact ⟨by norm_num, le_refl 100⟩
  · have ratio_nonneg : 0 ≤ averages.gain / averages.loss :=
      div_nonneg gain_nonneg loss_nonneg
    have denominator_ge : 1 ≤ 1 + averages.gain / averages.loss :=
      le_add_of_nonneg_right ratio_nonneg
    have rest_nonneg : 0 ≤ 100 / (1 + averages.gain / averages.loss) := by
      positivity
    have rest_le : 100 / (1 + averages.gain / averages.loss) ≤ 100 :=
      div_le_self (by norm_num) denominator_ge
    constructor
    · exact sub_nonneg.mpr rest_le
    · exact sub_le_self 100 rest_nonneg

theorem rsiAfter_percent {period : Nat} (positive : 0 < period) {changes : List ℚ}
    (seeded : period ≤ changes.length) : Percent (rsiAfter period changes) :=
  rsiOf_percent (averagesOf_gain_nonneg positive seeded)
    (averagesOf_loss_nonneg positive seeded)

theorem rsi_percent {period : Nat} (positive : 0 < period) (values : List ℚ) :
    Returns (rsi values period) fun r => ∀ v ∈ r, Percent v := by
  by_cases long : period < values.length
  · apply Returns.of_eq (rsi_eq positive long)
    intro v member
    cases member
    apply rsiAfter_percent positive
    rw [length_deltas]
    exact Nat.le_sub_one_of_lt (lt_length_wilderTail positive long)
  · rw [rsi, if_neg positive.ne', if_pos (not_lt.mp long)]
    apply Returns.pure
    intro v member
    cases member

theorem rsiSeriesOf_percent {period : Nat} (positive : 0 < period)
    (values : List ℚ) : ∀ v ∈ rsiSeriesOf values period, Percent v := by
  intro v member
  obtain ⟨i, inside, rfl⟩ := List.mem_map.mp member
  have small := List.mem_range.mp inside
  apply rsiAfter_percent positive
  rw [List.length_take, length_deltas]
  omega

theorem rsiSeries_percent {period : Nat} (positive : 0 < period)
    (values : List ℚ) :
    Returns (rsiSeries values period) fun r => ∀ v ∈ r, Percent v :=
  Returns.of_eq (rsiSeries_eq positive values) (rsiSeriesOf_percent positive values)

/-! ### Values in a window -/

theorem percentK_percent {value lo hi : ℚ} (lo_le : lo ≤ value)
    (le_hi : value ≤ hi) : Returns (percentK value lo hi) Percent := by
  unfold percentK
  split
  · exact Returns.pure ⟨by norm_num, by norm_num⟩
  · rename_i apart
    have lo_lt : lo < hi := lt_of_le_of_ne (lo_le.trans le_hi) (Ne.symm apart)
    have width_pos : 0 < hi - lo := sub_pos.mpr lo_lt
    apply Returns.map (Returns.of_eq (quotient_of_ne width_pos.ne') rfl)
    rintro share rfl
    have share_nonneg : 0 ≤ (value - lo) / (hi - lo) :=
      div_nonneg (sub_nonneg.mpr lo_le) width_pos.le
    have share_le : (value - lo) / (hi - lo) ≤ 1 := by
      rw [div_le_one width_pos]
      exact sub_le_sub_right le_hi lo
    constructor
    · exact mul_nonneg share_nonneg (by norm_num)
    · linarith

/-- The value at the end of a window lies between its extremes. -/
theorem rawK_percent {window : List ℚ} (nonempty : window ≠ []) :
    Returns (rawK window) Percent := by
  obtain ⟨cur, isLast⟩ : ∃ cur, window.getLast? = some cur :=
    Option.isSome_iff_exists.mp (List.getLast?_isSome.mpr nonempty)
  have inside : cur ∈ window := List.mem_of_getLast? isLast
  obtain ⟨lo, isMin⟩ : ∃ lo, window.min? = some lo :=
    Option.isSome_iff_exists.mp (List.isSome_min?_of_mem inside)
  obtain ⟨hi, isMax⟩ : ∃ hi, window.max? = some hi :=
    Option.isSome_iff_exists.mp (List.isSome_max?_of_mem inside)
  rw [rawK, isLast, isMin, isMax]
  apply percentK_percent
  · exact (List.min?_eq_some_iff.mp isMin).2 cur inside
  · exact (List.max?_eq_some_iff.mp isMax).2 cur inside

/-- So does the close of the last bar between the lowest low and the highest high. -/
theorem windowK_percent {window : List Bar} (nonempty : window ≠ []) :
    Returns (windowK window) Percent := by
  obtain ⟨last, isLast⟩ : ∃ last, window.getLast? = some last :=
    Option.isSome_iff_exists.mp (List.getLast?_isSome.mpr nonempty)
  have inside : last ∈ window := List.mem_of_getLast? isLast
  have highInside := List.mem_map_of_mem (f := Bar.high) inside
  have lowInside := List.mem_map_of_mem (f := Bar.low) inside
  obtain ⟨high, isMax⟩ : ∃ high, (window.map Bar.high).max? = some high :=
    Option.isSome_iff_exists.mp (List.isSome_max?_of_mem highInside)
  obtain ⟨low, isMin⟩ : ∃ low, (window.map Bar.low).min? = some low :=
    Option.isSome_iff_exists.mp (List.isSome_min?_of_mem lowInside)
  rw [windowK, isLast, isMax, isMin]
  apply percentK_percent
  · exact ((List.min?_eq_some_iff.mp isMin).2 _ lowInside).trans last.low_le_close
  · exact last.close_le_high.trans ((List.max?_eq_some_iff.mp isMax).2 _ highInside)

/-! ### Collecting loops -/

/-- A loop that never gives up returns one value for each index. -/
theorem collect_eq {value : Nat → Except IndicatorError (Option ℚ)} {f : Nat → ℚ}
    {indices : List Nat} (each : ∀ i ∈ indices, value i = .ok (some (f i))) :
    collect value indices = .ok (some (indices.map f)) := by
  induction indices with
  | nil => rfl
  | cons i rest ih =>
      have there := ih fun j member => each j (List.mem_cons_of_mem i member)
      rw [collect, each i List.mem_cons_self, there]
      rfl

/-- What holds of each value holds of what the loop returns. -/
theorem collect_returns {value : Nat → Except IndicatorError (Option ℚ)}
    {indices : List Nat} {P : ℚ → Prop}
    (each : ∀ i ∈ indices, Returns (value i) fun r => ∃ x, r = some x ∧ P x) :
    Returns (collect value indices) fun r =>
      ∃ xs, r = some xs ∧ xs.length = indices.length ∧ ∀ x ∈ xs, P x := by
  have values : ∀ i ∈ indices, ∃ x, value i = .ok (some x) ∧ P x := by
    intro i member
    obtain ⟨r, here, x, rfl, holds⟩ := each i member
    exact ⟨x, here, holds⟩
  choose! f collected holds using values
  refine Returns.of_eq (collect_eq collected) ⟨_, rfl, List.length_map _, ?_⟩
  intro x member
  obtain ⟨i, inside, rfl⟩ := List.mem_map.mp member
  exact holds i inside

theorem length_slice {α : Type} {a b : Nat} {items : List α}
    (inside : b ≤ items.length) : (slice a b items).length = b - a := by
  rw [slice, List.length_drop, List.length_take_of_le inside]

theorem slice_ne_nil {α : Type} {a b : Nat} {items : List α} (before : a < b)
    (inside : b ≤ items.length) : slice a b items ≠ [] := by
  apply List.ne_nil_of_length_pos
  rw [length_slice inside]
  exact Nat.sub_pos_of_lt before

theorem mem_of_mem_slice {α : Type} {a b : Nat} {items : List α} {x : α}
    (member : x ∈ slice a b items) : x ∈ items :=
  List.mem_of_mem_take (List.mem_of_mem_drop member)

/-! ### Stochastic oscillator -/

theorem stochasticOfSeries_percent {kValues : List ℚ} (nonempty : 0 < kValues.length)
    (percents : ∀ x ∈ kValues, Percent x) :
    Returns (StochasticResult.ofSeries kValues) fun r =>
      ∀ s ∈ r, Percent s.k ∧ Percent s.d := by
  obtain ⟨k, isLast⟩ : ∃ k, kValues.getLast? = some k :=
    Option.isSome_iff_exists.mp
      (List.getLast?_isSome.mpr (List.ne_nil_of_length_pos nonempty))
  rw [StochasticResult.ofSeries, isLast]
  apply Returns.bind (mean_percent nonempty rfl percents)
  intro d percent
  apply Returns.pure
  intro s member
  cases member
  exact ⟨percents k (List.mem_of_getLast? isLast), percent⟩

theorem stochastic_percent (bars : List Bar) {kPeriod dPeriod : Nat}
    (k_pos : 0 < kPeriod) (d_pos : 0 < dPeriod) :
    Returns (stochastic bars kPeriod dPeriod) fun r =>
      ∀ s ∈ r, Percent s.k ∧ Percent s.d := by
  unfold stochastic
  rw [if_neg (by omega)]
  split
  · exact Returns.pure fun s member => nomatch member
  · rename_i long
    apply Returns.bind
    · apply collect_returns (P := Percent)
      intro i member
      obtain ⟨low, high⟩ := List.mem_range'_1.mp member
      have inside : i ≤ bars.length := by omega
      have full : ¬(slice (i - kPeriod) i bars).length < kPeriod := by
        rw [length_slice inside]
        omega
      dsimp only
      rw [if_neg full]
      apply Returns.map (windowK_percent (slice_ne_nil (by omega) inside))
      exact fun x percent => ⟨x, rfl, percent⟩
    · rintro r ⟨kValues, rfl, count, percents⟩
      apply stochasticOfSeries_percent
      · rw [count, List.length_range']
        exact d_pos
      · exact percents

/-! ### Aroon -/

/-- The scan ends at an index that it has seen. -/
theorem latestFrom_lt (tops : ℚ → ℚ → Bool) (best : ℚ) (rest : List ℚ)
    {bestIdx idx : Nat} (seen : bestIdx < idx) :
    latestFrom tops bestIdx best idx rest < idx + rest.length := by
  induction rest generalizing bestIdx best idx with
  | nil => exact seen
  | cons x rest ih =>
      rw [latestFrom, List.length_cons]
      split
      · have found := ih x (Nat.lt_add_one idx)
        omega
      · have found := ih best (seen.trans (Nat.lt_add_one idx))
        omega

theorem latest_lt (tops : ℚ → ℚ → Bool) {values : List ℚ}
    (nonempty : 0 < values.length) :
    ∃ i, latest tops values = some i ∧ i < values.length := by
  cases values with
  | nil => exact absurd nonempty (Nat.lt_irrefl 0)
  | cons x rest =>
      refine ⟨_, rfl, ?_⟩
      have found := latestFrom_lt tops x rest Nat.zero_lt_one
      rwa [Nat.add_comm] at found

theorem aroonLine_percent {period since : Nat} (positive : 0 < period)
    (recent : since ≤ period) : Returns (aroonLine period since) Percent := by
  have period_pos : (0 : ℚ) < period := Nat.cast_pos.mpr positive
  have since_le : (since : ℚ) ≤ period := Nat.cast_le.mpr recent
  have since_nonneg : (0 : ℚ) ≤ since := Nat.cast_nonneg since
  apply Returns.map (Returns.of_eq (quotient_of_ne period_pos.ne') rfl)
  rintro share rfl
  have share_nonneg : 0 ≤ ((period : ℚ) - since) / period :=
    div_nonneg (sub_nonneg.mpr since_le) period_pos.le
  have share_le : ((period : ℚ) - since) / period ≤ 1 := by
    rw [div_le_one period_pos]
    exact sub_le_self _ since_nonneg
  constructor
  · exact mul_nonneg share_nonneg (by norm_num)
  · linarith

theorem aroon_percent (bars : List Bar) {period : Nat} (positive : 0 < period) :
    Returns (aroon bars period) fun r =>
      ∀ a ∈ r, Percent a.up ∧ Percent a.down := by
  unfold aroon
  rw [if_neg positive.ne']
  split
  · exact Returns.pure fun a member => nomatch member
  · rename_i long
    have count : (lastN (period + 1) bars).length = period + 1 := by
      rw [lastN, List.length_drop]
      omega
    have highs : 0 < ((lastN (period + 1) bars).map Bar.high).length := by
      rw [List.length_map, count]
      exact Nat.succ_pos period
    have lows : 0 < ((lastN (period + 1) bars).map Bar.low).length := by
      rw [List.length_map, count]
      exact Nat.succ_pos period
    obtain ⟨hhIdx, isHigh, highInside⟩ :=
      latest_lt (fun x best => decide (best ≤ x)) highs
    obtain ⟨llIdx, isLow, lowInside⟩ :=
      latest_lt (fun x best => decide (x ≤ best)) lows
    dsimp only
    rw [isHigh, isLow, count]
    apply Returns.bind (aroonLine_percent positive (by omega))
    intro up upPercent
    apply Returns.bind (aroonLine_percent positive (by omega))
    intro down downPercent
    apply Returns.pure
    intro a member
    cases member
    exact ⟨upPercent, downPercent⟩

/-! ### Stochastic RSI -/

theorem stochRsiOfSeries_percent {dSmooth : Nat} {smoothed : List ℚ}
    (positive : 0 < dSmooth) (full : smoothed.length = dSmooth)
    (percents : ∀ x ∈ smoothed, Percent x) :
    Returns (StochRSIResult.ofSeries dSmooth smoothed) fun r =>
      ∀ s ∈ r, Percent s.k ∧ Percent s.d := by
  obtain ⟨k, isLast⟩ : ∃ k, smoothed.getLast? = some k :=
    Option.isSome_iff_exists.mp
      (List.getLast?_isSome.mpr (List.ne_nil_of_length_pos (full ▸ positive)))
  rw [StochRSIResult.ofSeries, isLast]
  apply Returns.bind (mean_percent positive full percents)
  intro d percent
  apply Returns.pure
  intro s member
  cases member
  exact ⟨percents k (List.mem_of_getLast? isLast), percent⟩

theorem rawKAt_percent {stochPeriod : Nat} {rsiTail : List ℚ} {i : Nat}
    (positive : 0 < stochPeriod) (reaches : stochPeriod + i ≤ rsiTail.length) :
    Returns (rawKAt stochPeriod rsiTail i) fun r => ∃ x, r = some x ∧ Percent x := by
  unfold rawKAt
  dsimp only
  rw [if_neg (by omega)]
  apply Returns.map (rawK_percent (slice_ne_nil (by omega) (Nat.sub_le _ _)))
  exact fun x percent => ⟨x, rfl, percent⟩

theorem smoothedKAt_percent {kSmooth dSmooth : Nat} {rawKSeries : List ℚ} {i : Nat}
    (positive : 0 < kSmooth) (reaches : kSmooth + dSmooth ≤ rawKSeries.length)
    (percents : ∀ x ∈ rawKSeries, Percent x) :
    Returns (smoothedKAt kSmooth dSmooth rawKSeries i) fun r =>
      ∃ x, r = some x ∧ Percent x := by
  unfold smoothedKAt
  dsimp only
  rw [if_neg (by omega)]
  apply Returns.map
  · apply mean_percent positive
    · rw [length_slice (Nat.sub_le _ _)]
      omega
    · exact fun x member => percents x (mem_of_mem_slice member)
  · exact fun x percent => ⟨x, rfl, percent⟩

theorem stochRsiOfTail_percent {stochPeriod kSmooth dSmooth : Nat}
    {rsiTail : List ℚ} (stoch_pos : 0 < stochPeriod) (k_pos : 0 < kSmooth)
    (d_pos : 0 < dSmooth)
    (long : rsiTail.length = stochRsiExtra stochPeriod kSmooth dSmooth + 1) :
    Returns (stochRsiOfTail stochPeriod kSmooth dSmooth rsiTail) fun r =>
      ∀ s ∈ r, Percent s.k ∧ Percent s.d := by
  unfold stochRsiExtra at long
  unfold stochRsiOfTail
  apply Returns.bind
  · apply collect_returns (P := Percent)
    intro i member
    have small := List.mem_range.mp (List.mem_reverse.mp member)
    exact rawKAt_percent stoch_pos (by omega)
  · rintro r ⟨rawKSeries, rfl, count, percents⟩
    rw [List.length_reverse, List.length_range] at count
    dsimp only
    rw [if_neg (by omega)]
    apply Returns.bind
    · apply collect_returns (P := Percent)
      intro i _
      exact smoothedKAt_percent k_pos count.ge percents
    · rintro r ⟨smoothed, rfl, full, smooths⟩
      rw [List.length_range] at full
      exact stochRsiOfSeries_percent d_pos full smooths

theorem length_lastN {α : Type} {n : Nat} {items : List α}
    (enough : n ≤ items.length) : (lastN n items).length = n := by
  rw [lastN, List.length_drop]
  omega

theorem stochRsi_percent (closes : List ℚ)
    {rsiPeriod stochPeriod kSmooth dSmooth : Nat} (rsi_pos : 0 < rsiPeriod)
    (stoch_pos : 0 < stochPeriod) (k_pos : 0 < kSmooth) (d_pos : 0 < dSmooth) :
    Returns (stochRsi closes rsiPeriod stochPeriod kSmooth dSmooth) fun r =>
      ∀ s ∈ r, Percent s.k ∧ Percent s.d := by
  unfold stochRsi
  rw [if_neg (by omega)]
  split
  · exact Returns.pure fun s member => nomatch member
  · dsimp only
    apply Returns.bind (Returns.of_eq (rsiSeries_eq rsi_pos _) rfl)
    rintro fullRsi rfl
    generalize rsiSeriesOf _ rsiPeriod = fullRsi
    split
    · exact Returns.pure fun s member => nomatch member
    · rename_i enough
      exact stochRsiOfTail_percent stoch_pos k_pos d_pos
        (length_lastN (not_lt.mp enough))

/-! ### Directional index -/

/-- Range against movements. -/
structure RangeBound (tr plus minus : ℚ) : Prop where
  plus_nonneg : 0 ≤ plus
  minus_nonneg : 0 ≤ minus
  within : plus + minus ≤ tr

theorem high_move_le (prev curr : Bar) :
    curr.high - prev.high ≤ trueRange prev.close curr :=
  calc curr.high - prev.high
      ≤ curr.high - prev.close := sub_le_sub_left prev.close_le_high curr.high
    _ ≤ |curr.high - prev.close| := le_abs_self _
    _ ≤ trueRange prev.close curr := (le_max_right _ _).trans (le_max_left _ _)

theorem low_move_le (prev curr : Bar) :
    prev.low - curr.low ≤ trueRange prev.close curr :=
  calc prev.low - curr.low
      ≤ prev.close - curr.low := sub_le_sub_right prev.low_le_close curr.low
    _ ≤ |curr.low - prev.close| := by
        rw [abs_sub_comm]
        exact le_abs_self _
    _ ≤ trueRange prev.close curr := le_max_right _ _

theorem trueRange_nonneg (prevClose : ℚ) (bar : Bar) : 0 ≤ trueRange prevClose bar :=
  (abs_nonneg _).trans (le_max_right _ _)

/-- At most one of the two movements counts, and it stays inside the range. -/
theorem directionalMove_bound (prev curr : Bar) :
    RangeBound (directionalMove prev curr).tr (directionalMove prev curr).plusDm
      (directionalMove prev curr).minusDm := by
  have up_le := high_move_le prev curr
  have down_le := low_move_le prev curr
  have range_nonneg := trueRange_nonneg prev.close curr
  unfold directionalMove
  dsimp only
  split
  · rename_i upward
    rw [if_neg fun downward => lt_asymm upward.1 downward.1]
    exact ⟨upward.2.le, le_refl 0, by rwa [add_zero]⟩
  · split
    · rename_i downward
      exact ⟨le_refl 0, downward.2.le, by rwa [zero_add]⟩
    · exact ⟨le_refl 0, le_refl 0, by rwa [add_zero]⟩

theorem directionalMoves_bound (bars : List Bar) :
    ∀ move ∈ directionalMoves bars, RangeBound move.tr move.plusDm move.minusDm := by
  intro move (member : move ∈ bars.zipWith directionalMove bars.tail)
  obtain ⟨n, small, rfl⟩ := List.mem_iff_getElem.mp member
  rw [List.getElem_zipWith]
  exact directionalMove_bound _ _

theorem seed_bound {moves : List DirectionalMove}
    (bounds : ∀ move ∈ moves, RangeBound move.tr move.plusDm move.minusDm) :
    RangeBound (Smoothed.seed moves).tr (Smoothed.seed moves).plus
      (Smoothed.seed moves).minus := by
  unfold Smoothed.seed
  induction moves with
  | nil => exact ⟨le_refl 0, le_refl 0, by simp⟩
  | cons move rest ih =>
      have here := bounds move List.mem_cons_self
      have there := ih fun m member => bounds m (List.mem_cons_of_mem move member)
      dsimp only at there
      constructor
      · exact add_nonneg here.plus_nonneg there.plus_nonneg
      · exact add_nonneg here.minus_nonneg there.minus_nonneg
      · have sum_le := add_le_add here.within there.within
        simp only [List.map_cons, List.sum_cons]
        linarith

/-- Smoothing shrinks the three sums alike and adds a move within its range. -/
theorem Smoothed.next_bound {period : Nat} (positive : 0 < period) {sums : Smoothed}
    {move : DirectionalMove} (bound : RangeBound sums.tr sums.plus sums.minus)
    (moveBound : RangeBound move.tr move.plusDm move.minusDm) :
    Returns (sums.next period move) fun next =>
      RangeBound next.tr next.plus next.minus := by
  have period_ne := cast_ne_zero positive
  have period_ge : (1 : ℚ) ≤ period := Nat.one_le_cast.mpr positive
  have kept_nonneg : 0 ≤ 1 - 1 / (period : ℚ) :=
    sub_nonneg.mpr (div_le_one_of_le₀ period_ge (by linarith))
  have shrink : ∀ x : ℚ, x - x / period = x * (1 - 1 / (period : ℚ)) := by
    intro x
    ring
  apply Returns.bind (Returns.of_eq (quotient_of_ne period_ne) rfl)
  rintro tr rfl
  apply Returns.bind (Returns.of_eq (quotient_of_ne period_ne) rfl)
  rintro plus rfl
  apply Returns.bind (Returns.of_eq (quotient_of_ne period_ne) rfl)
  rintro minus rfl
  apply Returns.pure
  dsimp only
  rw [shrink sums.tr, shrink sums.plus, shrink sums.minus]
  constructor
  · exact add_nonneg (mul_nonneg bound.plus_nonneg kept_nonneg) moveBound.plus_nonneg
  · exact add_nonneg (mul_nonneg bound.minus_nonneg kept_nonneg)
      moveBound.minus_nonneg
  · have scaled := mul_le_mul_of_nonneg_right bound.within kept_nonneg
    have within := moveBound.within
    linarith

/-- The two indicators are non-negative and a percentage together. -/
structure Directed (plusDi minusDi : ℚ) : Prop where
  plus_nonneg : 0 ≤ plusDi
  minus_nonneg : 0 ≤ minusDi
  within : plusDi + minusDi ≤ 100

theorem Smoothed.directional_percent {sums : Smoothed}
    (bound : RangeBound sums.tr sums.plus sums.minus) (ranged : sums.tr ≠ 0) :
    Returns sums.directional fun d =>
      Directed d.plusDi d.minusDi ∧ Percent d.dx := by
  have movement_nonneg := add_nonneg bound.plus_nonneg bound.minus_nonneg
  have range_pos : 0 < sums.tr :=
    lt_of_le_of_ne (movement_nonneg.trans bound.within) ranged.symm
  have plus_nonneg : 0 ≤ 100 * sums.plus / sums.tr :=
    div_nonneg (mul_nonneg (by norm_num) bound.plus_nonneg) range_pos.le
  have minus_nonneg : 0 ≤ 100 * sums.minus / sums.tr :=
    div_nonneg (mul_nonneg (by norm_num) bound.minus_nonneg) range_pos.le
  have within : 100 * sums.plus / sums.tr + 100 * sums.minus / sums.tr ≤ 100 := by
    rw [← add_div, div_le_iff₀ range_pos, ← mul_add]
    exact mul_le_mul_of_nonneg_left bound.within (by norm_num)
  apply Returns.bind (Returns.of_eq (quotient_of_ne ranged) rfl)
  rintro plusDi rfl
  apply Returns.bind (Returns.of_eq (quotient_of_ne ranged) rfl)
  rintro minusDi rfl
  dsimp only
  generalize 100 * sums.plus / sums.tr = plusDi at *
  generalize 100 * sums.minus / sums.tr = minusDi at *
  split
  · rename_i moved
    have apart_le : |plusDi - minusDi| ≤ plusDi + minusDi := by
      rw [abs_le]
      constructor <;> linarith
    apply Returns.bind (Returns.of_eq (quotient_of_ne moved.ne') rfl)
    rintro dx rfl
    refine Returns.pure ⟨⟨plus_nonneg, minus_nonneg, within⟩, ?_, ?_⟩
    · exact div_nonneg (mul_nonneg (by norm_num) (abs_nonneg _)) moved.le
    · rw [div_le_iff₀ moved]
      exact mul_le_mul_of_nonneg_left apart_le (by norm_num)
  · exact Returns.pure
      ⟨⟨plus_nonneg, minus_nonneg, within⟩, le_refl 0, by norm_num⟩

/-- What the loop keeps. -/
structure AdxState.Bounded (s : AdxState) : Prop where
  range : RangeBound s.sums.tr s.sums.plus s.sums.minus
  directed : Directed s.plusDi s.minusDi
  percents : ∀ dx ∈ s.dxs, Percent dx

theorem AdxState.step_bounded {period : Nat} (positive : 0 < period) {s : AdxState}
    {move : DirectionalMove} (bounded : s.Bounded)
    (moveBound : RangeBound move.tr move.plusDm move.minusDm) :
    Returns (s.step period move) AdxState.Bounded := by
  apply Returns.bind (Smoothed.next_bound positive bounded.range moveBound)
  intro sums bound
  split
  · -- a flat stretch keeps the last indicators
    exact Returns.pure ⟨bound, bounded.directed, bounded.percents⟩
  · rename_i ranged
    apply Returns.bind (Smoothed.directional_percent bound ranged)
    rintro d ⟨directed, percent⟩
    apply Returns.pure
    refine ⟨bound, directed, ?_⟩
    intro dx member
    rcases List.mem_append.mp member with earlier | last
    · exact bounded.percents dx earlier
    · rw [List.mem_singleton.mp last]
      exact percent

theorem AdxState.result_percent {period : Nat} (positive : 0 < period) {s : AdxState}
    (bounded : s.Bounded) :
    Returns (s.result period) fun r =>
      ∀ a ∈ r, Percent a.adx ∧ Directed a.plusDi a.minusDi := by
  unfold AdxState.result
  split
  · exact Returns.pure fun a member => nomatch member
  · rename_i enough
    have smoothed := smoothing_bind positive s.dxs fun adxVal =>
      (pure (some ⟨adxVal, s.plusDi, s.minusDi⟩) :
        Except IndicatorError (Option ADXResult))
    rw [smoothed]
    apply Returns.pure
    intro a member
    cases member
    exact ⟨runningMean_percent positive (not_lt.mp enough) bounded.percents,
      bounded.directed⟩

theorem adx_percent (bars : List Bar) {period : Nat} (valid : 1 < period) :
    Returns (adx bars period) fun r =>
      ∀ a ∈ r, Percent a.adx ∧ Directed a.plusDi a.minusDi := by
  have positive : 0 < period := Nat.zero_lt_of_lt valid
  have bounds := directionalMoves_bound bars
  unfold adx
  rw [if_neg (not_le.mpr valid)]
  split
  · exact Returns.pure fun a member => nomatch member
  · dsimp only
    split
    · exact Returns.pure fun a member => nomatch member
    · rename_i ranged
      have seeded := seed_bound fun move member =>
        bounds move (List.mem_of_mem_take (i := period) member)
      apply Returns.bind (Smoothed.directional_percent seeded ranged)
      rintro d ⟨directed, percent⟩
      apply Returns.bind (P := AdxState.Bounded)
      · apply Returns.foldlM
        · exact ⟨seeded, directed, fun dx member => by
            rwa [List.mem_singleton.mp member]⟩
        · intro s move member bounded
          exact s.step_bounded positive bounded
            (bounds move (List.mem_of_mem_drop member))
      · exact fun s bounded => s.result_percent positive bounded

/-- For all series and all valid periods: nothing raises, and every value that an
oscillator returns is in its range. -/
theorem oscillators_in_range :
    (∀ (values : List ℚ) (period : Nat), 0 < period →
      Returns (rsi values period) fun r => ∀ v ∈ r, Percent v) ∧
    (∀ (values : List ℚ) (period : Nat), 0 < period →
      Returns (rsiSeries values period) fun r => ∀ v ∈ r, Percent v) ∧
    (∀ (closes : List ℚ) (rsiPeriod stochPeriod kSmooth dSmooth : Nat),
      0 < rsiPeriod → 0 < stochPeriod → 0 < kSmooth → 0 < dSmooth →
      Returns (stochRsi closes rsiPeriod stochPeriod kSmooth dSmooth) fun r =>
        ∀ s ∈ r, Percent s.k ∧ Percent s.d) ∧
    (∀ (bars : List Bar) (kPeriod dPeriod : Nat), 0 < kPeriod → 0 < dPeriod →
      Returns (stochastic bars kPeriod dPeriod) fun r =>
        ∀ s ∈ r, Percent s.k ∧ Percent s.d) ∧
    (∀ (bars : List Bar) (period : Nat), 0 < period →
      Returns (aroon bars period) fun r =>
        ∀ a ∈ r, Percent a.up ∧ Percent a.down) ∧
    (∀ (bars : List Bar) (period : Nat), 1 < period →
      Returns (adx bars period) fun r =>
        ∀ a ∈ r, Percent a.adx ∧
          0 ≤ a.plusDi ∧ 0 ≤ a.minusDi ∧ a.plusDi + a.minusDi ≤ 100) := by
  refine ⟨?_, ?_, ?_, ?_, ?_, ?_⟩
  · exact fun values period positive => rsi_percent positive values
  · exact fun values period positive => rsiSeries_percent positive values
  · exact fun closes _ _ _ _ => stochRsi_percent closes
  · exact fun bars _ _ => stochastic_percent bars
  · exact fun bars _ => aroon_percent bars
  · intro bars period valid
    apply (adx_percent bars valid).mono
    intro r percents a member
    obtain ⟨percent, directed⟩ := percents a member
    exact ⟨percent, directed.plus_nonneg, directed.minus_nonneg, directed.within⟩

/-- A bar of euro against dollar that opens and closes at one price. -/
def plainBar (low high close : ℚ) (low_pos : 0 < low) (low_le : low ≤ close)
    (le_high : close ≤ high) : Bar where
  symbol := "EURUSD"
  timeframe := .h1
  time := 0
  openPrice := close
  high := high
  low := low
  close := close
  tickVolume := 1
  low_pos := low_pos
  low_le_open := low_le
  open_le_high := le_high
  low_le_close := low_le
  close_le_high := le_high

/-- Two flat bars, a gap up, and a bar that is not flat. -/
def gapBars : List Bar :=
  [plainBar 10 10 10 (by norm_num) (by decide) (by decide),
    plainBar 10 10 10 (by norm_num) (by decide) (by decide),
    plainBar 20 20 20 (by decide) (by decide) (by decide),
    plainBar 19 22 20 (by decide) (by decide) (by decide)]

/-- After the gap RSI is at its upper end, since there are no losses. -/
theorem oscillators_in_range_gap :
    (rsi (gapBars.map Bar.close) 2 = .ok (some 100) ∧
      Returns (rsi (gapBars.map Bar.close) 2) fun r => ∀ v ∈ r, Percent v) ∧
    (Returns (rsiSeries (gapBars.map Bar.close) 2) fun r => ∀ v ∈ r, Percent v) ∧
    (Returns (stochRsi (gapBars.map Bar.close) 1 1 1 1) fun r =>
      ∀ s ∈ r, Percent s.k ∧ Percent s.d) ∧
    (Returns (stochastic gapBars 2 1) fun r =>
      ∀ s ∈ r, Percent s.k ∧ Percent s.d) ∧
    (Returns (aroon gapBars 3) fun r => ∀ a ∈ r, Percent a.up ∧ Percent a.down) ∧
    (∃ a, adx gapBars 2 = .ok (some a) ∧ Percent a.adx ∧
      0 ≤ a.plusDi ∧ 0 ≤ a.minusDi ∧ a.plusDi + a.minusDi ≤ 100) := by
  obtain ⟨ofRsi, ofSeries, ofStochRsi, ofStochastic, ofAroon, ofAdx⟩ :=
    oscillators_in_range
  refine ⟨⟨by decide +kernel, ofRsi _ 2 (by decide)⟩, ofSeries _ 2 (by decide),
    ofStochRsi _ 1 1 1 1 (by decide) (by decide) (by decide) (by decide),
    ofStochastic _ 2 1 (by decide) (by decide), ofAroon _ 3 (by decide), ?_⟩
  obtain ⟨r, returned, percents⟩ := ofAdx gapBars 2 (by decide)
  cases r with
  | none => exact absurd returned (by decide +kernel)
  | some a => exact ⟨a, returned, percents a rfl⟩

end StingerFx
