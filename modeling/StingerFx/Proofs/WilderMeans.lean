/-
Module: StingerFx.Proofs.WilderMeans
Layer: Proofs
Purpose: RSI, its series and the average true range in closed form. None of their
  divisions raises, and each average is the running mean of its gains, losses or
  ranges.
Trusted boundary: none (fully proved)
Main exports: smoothMean_eq, smoothing_bind, averagesOf, averagesOf_concat,
  rsiOf, rsiValue_eq, rsi_eq, rsiSeries_eq, trueRangesOf, atr_eq
-/
import StingerFx.Lib.RunningMean
import StingerFx.Strategies.Indicators.Wilder

namespace StingerFx

open Lib

variable {period : Nat}

theorem cast_ne_zero (positive : 0 < period) : (period : ℚ) ≠ 0 :=
  Nat.cast_ne_zero.mpr positive.ne'

theorem smoothMean_eq (positive : 0 < period) (mean x : ℚ) :
    smoothMean period mean x = .ok (meanStep period mean x) :=
  quotient_of_ne (cast_ne_zero positive)

theorem foldlM_smoothMean (positive : 0 < period) (values : List ℚ) (mean : ℚ) :
    values.foldlM (smoothMean period) mean =
      .ok (values.foldl (meanStep period) mean) := by
  induction values generalizing mean with
  | nil => rfl
  | cons x rest ih =>
      rw [List.foldlM_cons, smoothMean_eq positive]
      exact ih (meanStep period mean x)

/-- Seed and smoothing of a series are its running mean. -/
theorem smoothing_bind {β : Type} (positive : 0 < period) (values : List ℚ)
    (next : ℚ → Except IndicatorError β) :
    (do
      let mean ← quotient (values.take period).sum period
      let out ← (values.drop period).foldlM (smoothMean period) mean
      next out) = next (runningMean period values) := by
  rw [quotient_of_ne (cast_ne_zero positive)]
  change ((values.drop period).foldlM (smoothMean period) _ >>= next) = _
  rw [foldlM_smoothMean positive]
  rfl

/-! ### Gains and losses -/

def gains (changes : List ℚ) : List ℚ := changes.map fun delta => max delta 0

def losses (changes : List ℚ) : List ℚ := changes.map fun delta => max (-delta) 0

/-- The averages after some changes. -/
def averagesOf (period : Nat) (changes : List ℚ) : Averages :=
  ⟨runningMean period (gains changes), runningMean period (losses changes)⟩

theorem gains_nonneg {changes : List ℚ} {x : ℚ} (member : x ∈ gains changes) :
    0 ≤ x := by
  obtain ⟨delta, -, rfl⟩ := List.mem_map.mp member
  exact le_max_right delta 0

theorem losses_nonneg {changes : List ℚ} {x : ℚ} (member : x ∈ losses changes) :
    0 ≤ x := by
  obtain ⟨delta, -, rfl⟩ := List.mem_map.mp member
  exact le_max_right (-delta) 0

section Averages

variable {changes : List ℚ}

theorem averagesOf_gain_nonneg (positive : 0 < period)
    (seeded : period ≤ changes.length) :
    0 ≤ (averagesOf period changes).gain := by
  apply le_runningMean positive
  · rw [gains, List.length_map]
    exact seeded
  · exact fun x => gains_nonneg

theorem averagesOf_loss_nonneg (positive : 0 < period)
    (seeded : period ≤ changes.length) :
    0 ≤ (averagesOf period changes).loss := by
  apply le_runningMean positive
  · rw [losses, List.length_map]
    exact seeded
  · exact fun x => losses_nonneg

/-- One more change smooths both averages. -/
theorem averagesOf_concat (seeded : period ≤ changes.length) (delta : ℚ) :
    averagesOf period (changes ++ [delta]) =
      ⟨meanStep period (averagesOf period changes).gain (max delta 0),
        meanStep period (averagesOf period changes).loss (max (-delta) 0)⟩ := by
  have gainSeeded : period ≤ (gains changes).length := by
    rwa [gains, List.length_map]
  have lossSeeded : period ≤ (losses changes).length := by
    rwa [losses, List.length_map]
  have moreGains : gains (changes ++ [delta]) = gains changes ++ [max delta 0] :=
    List.map_append
  have moreLosses : losses (changes ++ [delta]) =
      losses changes ++ [max (-delta) 0] := List.map_append
  rw [averagesOf, moreGains, moreLosses, runningMean_append gainSeeded,
    runningMean_append lossSeeded]
  rfl

end Averages

theorem seedStep_eq (sums : Averages) (delta : ℚ) :
    seedStep sums delta =
      ⟨sums.gain + max delta 0, sums.loss + max (-delta) 0⟩ := by
  unfold seedStep
  split
  · rename_i up
    rw [max_eq_left up, max_eq_right (neg_nonpos.mpr up), add_zero]
  · rename_i down
    have negative : delta ≤ 0 := (not_le.mp down).le
    rw [max_eq_right negative, max_eq_left (neg_nonneg.mpr negative), add_zero,
      sub_eq_add_neg]

theorem foldl_seedStep (changes : List ℚ) (sums : Averages) :
    changes.foldl seedStep sums =
      ⟨sums.gain + (gains changes).sum, sums.loss + (losses changes).sum⟩ := by
  induction changes generalizing sums with
  | nil => simp [gains, losses]
  | cons delta rest ih =>
      rw [List.foldl_cons, ih, seedStep_eq]
      simp only [gains, losses, List.map_cons, List.sum_cons, add_assoc]

theorem seedAverages_eq (positive : 0 < period) {changes : List ℚ}
    (seeded : period ≤ changes.length) :
    seedAverages period changes =
      .ok (averagesOf period (changes.take period)) := by
  have full : (changes.take period).length = period :=
    List.length_take_of_le seeded
  have ofGains : runningMean period (gains (changes.take period)) =
      (gains (changes.take period)).sum / period :=
    runningMean_of_length (by rw [gains, List.length_map, full])
  have ofLosses : runningMean period (losses (changes.take period)) =
      (losses (changes.take period)).sum / period :=
    runningMean_of_length (by rw [losses, List.length_map, full])
  rw [averagesOf, ofGains, ofLosses, seedAverages, foldl_seedStep, zero_add,
    zero_add, quotient_of_ne (cast_ne_zero positive),
    quotient_of_ne (cast_ne_zero positive)]
  rfl

theorem smoothAverages_eq (positive : 0 < period) {changes : List ℚ}
    (seeded : period ≤ changes.length) (delta : ℚ) :
    smoothAverages period (averagesOf period changes) delta =
      .ok (averagesOf period (changes ++ [delta])) := by
  rw [smoothAverages, smoothMean_eq positive, smoothMean_eq positive,
    averagesOf_concat seeded]
  rfl

theorem foldlM_smoothAverages (positive : 0 < period) (later : List ℚ)
    {changes : List ℚ} (seeded : period ≤ changes.length) :
    later.foldlM (smoothAverages period) (averagesOf period changes) =
      .ok (averagesOf period (changes ++ later)) := by
  induction later generalizing changes with
  | nil =>
      rw [List.append_nil]
      rfl
  | cons delta rest ih =>
      rw [List.foldlM_cons, smoothAverages_eq positive seeded]
      have grown : period ≤ (changes ++ [delta]).length := by
        rw [List.length_append]
        exact seeded.trans (Nat.le_add_right _ _)
      have step := ih grown
      rwa [List.append_assoc] at step

/-! ### RSI -/

/-- The value of the averages. -/
def rsiOf (averages : Averages) : ℚ :=
  if averages.loss = 0 then 100 else 100 - 100 / (1 + averages.gain / averages.loss)

theorem rsiValue_eq {averages : Averages} (gain_nonneg : 0 ≤ averages.gain)
    (loss_nonneg : 0 ≤ averages.loss) :
    rsiValue averages = .ok (rsiOf averages) := by
  unfold rsiValue rsiOf
  split
  · rfl
  · rename_i losing
    have ratio_nonneg : 0 ≤ averages.gain / averages.loss :=
      div_nonneg gain_nonneg loss_nonneg
    have denominator : 1 + averages.gain / averages.loss ≠ 0 := by
      positivity
    rw [quotient_of_ne losing]
    change (quotient 100 (1 + averages.gain / averages.loss) >>= _) = _
    rw [quotient_of_ne denominator]
    rfl

/-- The value after some changes. -/
def rsiAfter (period : Nat) (changes : List ℚ) : ℚ :=
  rsiOf (averagesOf period changes)

theorem rsiValue_after (positive : 0 < period) {changes : List ℚ}
    (seeded : period ≤ changes.length) :
    rsiValue (averagesOf period changes) = .ok (rsiAfter period changes) :=
  rsiValue_eq (averagesOf_gain_nonneg positive seeded)
    (averagesOf_loss_nonneg positive seeded)

theorem length_deltas (values : List ℚ) :
    (deltas values).length = values.length - 1 := by
  rw [deltas, List.length_zipWith, List.length_tail]
  exact min_eq_left (Nat.sub_le _ _)

theorem length_wilderTail {α : Type} (items : List α) (period : Nat) :
    (wilderTail items period).length =
      min items.length (period * wilderTailFactor) := by
  unfold wilderTail lastN
  dsimp only
  split
  · rename_i long
    rw [List.length_drop]
    omega
  · rename_i short
    exact (min_eq_left (not_lt.mp short)).symm

theorem lt_length_wilderTail {α : Type} {items : List α} (positive : 0 < period)
    (long : period < items.length) : period < (wilderTail items period).length := by
  rw [length_wilderTail]
  apply lt_min long
  unfold wilderTailFactor
  omega

theorem rsi_eq (positive : 0 < period) {values : List ℚ}
    (long : period < values.length) :
    rsi values period =
      .ok (some (rsiAfter period (deltas (wilderTail values period)))) := by
  have seeded : period ≤ (deltas (wilderTail values period)).length := by
    have longer := lt_length_wilderTail positive long
    rw [length_deltas]
    exact Nat.le_sub_one_of_lt longer
  have half : period ≤
      ((deltas (wilderTail values period)).take period).length := by
    rw [List.length_take_of_le seeded]
  rw [rsi, if_neg positive.ne', if_neg (not_le.mpr long)]
  dsimp only
  rw [seedAverages_eq positive seeded]
  have smoothed := foldlM_smoothAverages positive
    ((deltas (wilderTail values period)).drop period) half
  rw [List.take_append_drop] at smoothed
  change (List.foldlM (smoothAverages period) _ _ >>= _) = _
  rw [smoothed]
  change (rsiValue _ >>= _) = _
  rw [rsiValue_after positive seeded]
  rfl

theorem rsiSeriesFrom_eq (positive : 0 < period) (later : List ℚ)
    {changes : List ℚ} (seeded : period ≤ changes.length) :
    rsiSeriesFrom period (averagesOf period changes) later =
      .ok ((List.range later.length).map fun i =>
        rsiAfter period (changes ++ later.take (i + 1))) := by
  induction later generalizing changes with
  | nil => rfl
  | cons delta rest ih =>
      have grown : period ≤ (changes ++ [delta]).length := by
        rw [List.length_append]
        exact seeded.trans (Nat.le_add_right _ _)
      rw [rsiSeriesFrom, smoothAverages_eq positive seeded]
      change (rsiValue _ >>= _) = _
      rw [rsiValue_after positive grown]
      change (rsiSeriesFrom _ _ _ >>= _) = _
      rw [ih grown, List.length_cons, List.range_succ_eq_map, List.map_cons,
        List.map_map]
      simp only [List.append_assoc, List.singleton_append]
      rfl

/-- The series: at index `i` the value after `period + i` changes. -/
def rsiSeriesOf (values : List ℚ) (period : Nat) : List ℚ :=
  (List.range (values.length - period)).map fun i =>
    rsiAfter period ((deltas values).take (period + i))

theorem rsiSeries_eq (positive : 0 < period) (values : List ℚ) :
    rsiSeries values period = .ok (rsiSeriesOf values period) := by
  rw [rsiSeries, if_neg positive.ne']
  split
  · rename_i short
    rw [rsiSeriesOf, Nat.sub_eq_zero_of_le short]
    rfl
  · rename_i long
    have seeded : period ≤ (deltas values).length := by
      rw [length_deltas]
      exact Nat.le_sub_one_of_lt (not_le.mp long)
    have half : period ≤ ((deltas values).take period).length := by
      rw [List.length_take_of_le seeded]
    have count : values.length - period =
        ((deltas values).drop period).length + 1 := by
      rw [List.length_drop, length_deltas]
      omega
    rw [seedAverages_eq positive seeded]
    change (rsiValue _ >>= _) = _
    rw [rsiValue_after positive half]
    change (rsiSeriesFrom _ _ _ >>= _) = _
    rw [rsiSeriesFrom_eq positive _ half, rsiSeriesOf, count, List.range_succ_eq_map,
      List.map_cons, List.map_map]
    simp only [← List.take_add]
    rfl

/-! ### Average true range -/

/-- The true ranges of a sequence of bars, from the second bar on. -/
def trueRangesOf : List Bar → List ℚ
  | [] => []
  | first :: rest => trueRanges first.close rest

theorem length_trueRanges (prevClose : ℚ) (bars : List Bar) :
    (trueRanges prevClose bars).length = bars.length := by
  induction bars generalizing prevClose with
  | nil => rfl
  | cons bar rest ih => rw [trueRanges, List.length_cons, ih, List.length_cons]

theorem length_trueRangesOf (bars : List Bar) :
    (trueRangesOf bars).length = bars.length - 1 := by
  cases bars with
  | nil => rfl
  | cons first rest => exact length_trueRanges first.close rest

theorem atr_eq (positive : 0 < period) {bars : List Bar}
    (long : period < bars.length) :
    atr bars period =
      .ok (some (runningMean period (trueRangesOf (wilderTail bars period)))) := by
  have longer := lt_length_wilderTail positive long
  rw [atr, if_neg positive.ne', if_neg (not_le.mpr long)]
  cases tail : wilderTail bars period with
  | nil =>
      rw [tail] at longer
      exact absurd longer (Nat.not_lt_zero _)
  | cons first rest =>
      have seeded : ¬(trueRanges first.close rest).length < period := by
        rw [tail, List.length_cons] at longer
        rw [length_trueRanges]
        omega
      dsimp only
      rw [if_neg seeded]
      exact smoothing_bind positive (trueRanges first.close rest)
        fun out => .ok (some out)

end StingerFx
