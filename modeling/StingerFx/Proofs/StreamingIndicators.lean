/-
Module: StingerFx.Proofs.StreamingIndicators
Layer: Proofs
Purpose: A streaming indicator is a function of the bars that it was fed, and its
  value is the one of the batch function on these bars.
Trusted boundary: none (fully proved)
Main exports: IncrementalRSI.after, IncrementalATR.after, rawKs,
  IncrementalStochRSI.after, rsi_eq_valueOn, atr_eq_valueOn, stochRsi_eq_valueOfRaw
-/
import StingerFx.Proofs.OscillatorRanges
import StingerFx.Strategies.Indicators.Incremental

namespace StingerFx

open Lib

/-! ### Series and their last element -/

theorem deltas_concat {values : List ℚ} {last : ℚ}
    (isLast : values.getLast? = some last) (x : ℚ) :
    deltas (values ++ [x]) = deltas values ++ [x - last] := by
  induction values with
  | nil => exact nomatch isLast
  | cons first rest ih =>
      cases rest with
      | nil =>
          cases isLast
          rfl
      | cons second rest =>
          rw [List.getLast?_cons_cons] at isLast
          have step := ih isLast
          change (second - first) :: deltas (second :: rest ++ [x]) = _
          rw [step]
          rfl

theorem deltas_initial (values : List ℚ) (x : ℚ) {n : Nat}
    (inside : n ≤ (deltas values).length) :
    (deltas (values ++ [x])).take n = (deltas values).take n := by
  cases isLast : values.getLast? with
  | none =>
      rw [List.getLast?_eq_none_iff] at isLast
      subst isLast
      rw [Nat.le_zero.mp inside]
      rfl
  | some last =>
      rw [deltas_concat isLast, List.take_append_of_le_length inside]

theorem trueRanges_concat (prevClose : ℚ) (bars : List Bar) (bar : Bar) :
    trueRanges prevClose (bars ++ [bar]) =
      trueRanges prevClose bars ++
        [trueRange ((bars.getLast?.map Bar.close).getD prevClose) bar] := by
  induction bars generalizing prevClose with
  | nil => rfl
  | cons first rest ih =>
      rw [List.cons_append, trueRanges, ih, trueRanges]
      cases rest with
      | nil => rfl
      | cons second rest =>
          rw [List.getLast?_cons_cons]
          obtain ⟨last, isLast⟩ : ∃ last, (second :: rest).getLast? = some last :=
            Option.isSome_iff_exists.mp
              (List.getLast?_isSome.mpr (List.cons_ne_nil _ _))
          rw [isLast]
          rfl

theorem trueRangesOf_concat {bars : List Bar} {last : Bar}
    (isLast : bars.getLast? = some last) (bar : Bar) :
    trueRangesOf (bars ++ [bar]) =
      trueRangesOf bars ++ [trueRange last.close bar] := by
  cases bars with
  | nil => exact nomatch isLast
  | cons first rest =>
      rw [List.cons_append, trueRangesOf, trueRanges_concat, trueRangesOf]
      cases rest with
      | nil =>
          cases isLast
          rfl
      | cons second rest =>
          rw [List.getLast?_cons_cons] at isLast
          rw [isLast]
          rfl

/-! ### Sums that become means -/

theorem feedMean_eq {period : Nat} (positive : 0 < period) (values : List ℚ) (x : ℚ) :
    feedMean period (values.length + 1) (partialMean period values) x =
      .ok (partialMean period (values ++ [x])) := by
  unfold feedMean
  rcases Nat.lt_trichotomy (values.length + 1) period with short | full | long
  · rw [if_pos short, partialMean_append_of_lt short]
  · rw [if_neg full.not_lt, if_pos full, quotient_of_ne (cast_ne_zero positive),
      partialMean_append_of_eq full]
  · rw [if_neg long.not_gt, if_neg long.ne', smoothMean_eq positive,
      partialMean_append_of_le (Nat.le_of_lt_succ long)]

theorem gain_eq (delta : ℚ) : (if 0 < delta then delta else 0) = max delta 0 := by
  split
  · rename_i up
    exact (max_eq_left up.le).symm
  · rename_i flat
    exact (max_eq_right (not_lt.mp flat)).symm

theorem loss_eq (delta : ℚ) : (if delta < 0 then -delta else 0) = max (-delta) 0 := by
  split
  · rename_i down
    exact (max_eq_left (neg_nonneg.mpr down.le)).symm
  · rename_i flat
    exact (max_eq_right (neg_nonpos.mpr (not_lt.mp flat))).symm

/-! ### RSI -/

namespace IncrementalRSI

/-- The value on a series of closes, once there are enough. -/
def valueOn (period : Nat) (closes : List ℚ) : Option ℚ :=
  if period < closes.length then some (rsiAfter period (deltas closes)) else none

/-- The state that a series of closes leaves. -/
def after (period : Nat) (closes : List ℚ) : IncrementalRSI where
  period := period
  prev := closes.getLast?
  n := (deltas closes).length
  avgGain := partialMean period (gains (deltas closes))
  avgLoss := partialMean period (losses (deltas closes))
  value := valueOn period closes

theorem create_eq {period : Nat} (positive : 0 < period) :
    create period = .ok (after period []) := by
  have unseeded : partialMean period ([] : List ℚ) = 0 := if_pos positive
  rw [create, if_neg positive.ne']
  change _ = Except.ok (⟨period, none, 0, partialMean period [],
    partialMean period [], none⟩ : IncrementalRSI)
  rw [unseeded]

/-- One more close. -/
theorem update_after {period : Nat} (positive : 0 < period) (closes : List ℚ)
    (x : ℚ) :
    (after period closes).update x =
      .ok (after period (closes ++ [x]), valueOn period (closes ++ [x])) := by
  cases isLast : closes.getLast? with
  | none =>
      rw [List.getLast?_eq_none_iff] at isLast
      subst isLast
      have cold : ¬period < ([x] : List ℚ).length := not_lt.mpr positive
      rw [update, List.nil_append]
      simp only [after, valueOn, if_neg cold]
      rfl
  | some last =>
      have changes := deltas_concat isLast x
      have count := length_deltas closes
      have nonempty : 0 < closes.length :=
        List.length_pos_of_ne_nil (List.getLast?_isSome.mp (isLast ▸ rfl))
      have moreGains : gains (deltas closes ++ [x - last]) =
          gains (deltas closes) ++ [max (x - last) 0] := List.map_append
      have moreLosses : losses (deltas closes ++ [x - last]) =
          losses (deltas closes) ++ [max (-(x - last)) 0] := List.map_append
      have gainFed := feedMean_eq positive (gains (deltas closes)) (max (x - last) 0)
      have lossFed :=
        feedMean_eq positive (losses (deltas closes)) (max (-(x - last)) 0)
      rw [gains, List.length_map, ← gains, ← moreGains] at gainFed
      rw [losses, List.length_map, ← losses, ← moreLosses] at lossFed
      rw [update]
      simp only [after, isLast, gain_eq, loss_eq, gainFed, lossFed, changes,
        List.length_append, List.length_singleton, List.getLast?_concat, valueOn]
      dsimp only [bind, Except.bind]
      by_cases cold : (deltas closes).length + 1 < period
      · rw [if_pos cold, if_neg (by omega), if_neg (by omega)]
        rfl
      · have grown : period ≤ (deltas closes ++ [x - last]).length := by
          rw [List.length_append]
          exact not_lt.mp cold
        have gainSeeded : period ≤ (gains (deltas closes ++ [x - last])).length := by
          rwa [gains, List.length_map]
        have lossSeeded :
            period ≤ (losses (deltas closes ++ [x - last])).length := by
          rwa [losses, List.length_map]
        have valued := rsiValue_after positive grown
        rw [averagesOf, ← partialMean_of_le gainSeeded, ← partialMean_of_le lossSeeded]
          at valued
        rw [if_neg cold, valued, if_pos (by omega)]
        rfl

end IncrementalRSI

/-! ### Average true range -/

namespace IncrementalATR

def valueOn (period : Nat) (bars : List Bar) : Option ℚ :=
  if period < bars.length then some (runningMean period (trueRangesOf bars)) else none

/-- The state that a series of bars leaves. -/
def after (period : Nat) (bars : List Bar) : IncrementalATR where
  period := period
  prevClose := bars.getLast?.map Bar.close
  n := (trueRangesOf bars).length
  atr := partialMean period (trueRangesOf bars)
  value := valueOn period bars

theorem create_eq {period : Nat} (positive : 0 < period) :
    create period = .ok (after period []) := by
  have unseeded : partialMean period ([] : List ℚ) = 0 := if_pos positive
  rw [create, if_neg positive.ne']
  change _ = Except.ok (⟨period, none, 0, partialMean period [], none⟩ :
    IncrementalATR)
  rw [unseeded]

/-- One more bar. -/
theorem update_after {period : Nat} (positive : 0 < period) (bars : List Bar)
    (bar : Bar) :
    (after period bars).update bar = .ok (after period (bars ++ [bar])) := by
  cases isLast : bars.getLast? with
  | none =>
      rw [List.getLast?_eq_none_iff] at isLast
      subst isLast
      have cold : ¬period < ([bar] : List Bar).length := not_lt.mpr positive
      rw [update, List.nil_append]
      simp only [after, valueOn, if_neg cold]
      rfl
  | some last =>
      have ranges := trueRangesOf_concat isLast bar
      have count := length_trueRangesOf bars
      have nonempty : 0 < bars.length :=
        List.length_pos_of_ne_nil (List.getLast?_isSome.mp (isLast ▸ rfl))
      have fed := feedMean_eq positive (trueRangesOf bars)
        (trueRange last.close bar)
      rw [update]
      simp only [after, isLast, Option.map_some, fed, ranges, List.length_append,
        List.length_singleton, List.getLast?_concat, valueOn]
      dsimp only [bind, Except.bind]
      by_cases cold : (trueRangesOf bars).length + 1 < period
      · rw [if_pos cold, if_neg (by omega), if_neg (by omega)]
        rfl
      · have grown : period ≤
            (trueRangesOf bars ++ [trueRange last.close bar]).length := by
          rw [List.length_append]
          exact not_lt.mp cold
        rw [if_neg cold, if_pos (by omega), partialMean_of_le grown]
        rfl

end IncrementalATR

/-! ### Windows -/

/-- A bounded deque holds the end of all that was appended. -/
theorem pushBounded_lastN {α : Type} (maxlen : Nat) (items : List α) (x : α) :
    pushBounded maxlen (lastN maxlen items) x = lastN maxlen (items ++ [x]) := by
  unfold pushBounded lastN
  rw [← List.drop_append_of_le_length (Nat.sub_le _ _), List.drop_drop]
  congr 1
  simp only [List.length_drop, List.length_append, List.length_singleton]
  omega

/-- Raw `%K` of a window that is not empty. -/
def rawOf (window : List ℚ) : ℚ :=
  match rawK window with
  | .ok x => x
  | .error _ => 0

theorem rawK_eq {window : List ℚ} (nonempty : window ≠ []) :
    rawK window = .ok (rawOf window) := by
  obtain ⟨x, same, -⟩ := rawK_percent nonempty
  rw [rawOf, same]

/-- Raw `%K` of every full window of a series. -/
def rawKs (stochPeriod : Nat) (series : List ℚ) : List ℚ :=
  (List.range (series.length + 1 - stochPeriod)).map fun m =>
    rawOf (slice m (m + stochPeriod) series)

theorem length_rawKs (stochPeriod : Nat) (series : List ℚ) :
    (rawKs stochPeriod series).length = series.length + 1 - stochPeriod := by
  rw [rawKs, List.length_map, List.length_range]

theorem rawKs_short {stochPeriod : Nat} {series : List ℚ}
    (short : series.length < stochPeriod) : rawKs stochPeriod series = [] := by
  rw [rawKs, Nat.sub_eq_zero_of_le short]
  rfl

/-- One more value completes one more window. -/
theorem rawKs_concat {stochPeriod : Nat} {series : List ℚ} {x : ℚ}
    (enough : stochPeriod ≤ (series ++ [x]).length) :
    rawKs stochPeriod (series ++ [x]) =
      rawKs stochPeriod series ++ [rawOf (lastN stochPeriod (series ++ [x]))] := by
  rw [List.length_append, List.length_singleton] at enough
  have count : (series ++ [x]).length + 1 - stochPeriod =
      (series.length + 1 - stochPeriod) + 1 := by
    rw [List.length_append, List.length_singleton]
    omega
  have newest : slice (series.length + 1 - stochPeriod)
      (series.length + 1 - stochPeriod + stochPeriod) (series ++ [x]) =
      lastN stochPeriod (series ++ [x]) := by
    rw [slice, lastN, List.take_of_length_le]
    · rw [List.length_append, List.length_singleton]
    · rw [List.length_append, List.length_singleton]
      omega
  rw [rawKs, count, List.range_succ, List.map_append, List.map_singleton, newest]
  congr 1
  apply List.map_congr_left
  intro m member
  have small := List.mem_range.mp member
  rw [slice, slice, List.take_append_of_le_length (by omega)]


theorem length_lastN_min {α : Type} (n : Nat) (items : List α) :
    (lastN n items).length = min n items.length := by
  rw [lastN, List.length_drop]
  omega

/-- One more close gives one more RSI value once there are enough. -/
theorem rsiSeriesOf_concat {period : Nat} {closes : List ℚ} {x : ℚ}
    (warm : period < (closes ++ [x]).length) :
    rsiSeriesOf (closes ++ [x]) period =
      rsiSeriesOf closes period ++ [rsiAfter period (deltas (closes ++ [x]))] := by
  have count := length_deltas (closes ++ [x])
  have before := length_deltas closes
  rw [List.length_append, List.length_singleton] at warm count
  have more : (closes ++ [x]).length - period = (closes.length - period) + 1 := by
    rw [List.length_append, List.length_singleton]
    omega
  rw [rsiSeriesOf, more, List.range_succ, List.map_append, List.map_singleton,
    List.take_of_length_le (by omega)]
  congr 1
  apply List.map_congr_left
  intro i member
  have small := List.mem_range.mp member
  rw [deltas_initial closes x (by omega)]

theorem rsiSeriesOf_short {period : Nat} {closes : List ℚ}
    (cold : closes.length ≤ period) : rsiSeriesOf closes period = [] := by
  rw [rsiSeriesOf, Nat.sub_eq_zero_of_le cold]
  rfl

theorem length_rsiSeriesOf (closes : List ℚ) (period : Nat) :
    (rsiSeriesOf closes period).length = closes.length - period := by
  rw [rsiSeriesOf, List.length_map, List.length_range]

/-! ### Stochastic RSI -/

namespace IncrementalStochRSI

/-- The means of the windows behind the oldest reading. -/
def smoothedOf (kSmooth dSmooth : Nat) (rawk : List ℚ) : List ℚ :=
  (List.range dSmooth).map fun j =>
    (slice (1 + j) (1 + j + kSmooth) rawk).sum / kSmooth

def valueOf (kSmooth dSmooth : Nat) (rawk : List ℚ) : Option (ℚ × ℚ) :=
  (smoothedOf kSmooth dSmooth rawk).getLast?.map fun k =>
    (k, (smoothedOf kSmooth dSmooth rawk).sum / dSmooth)

theorem smooth_eq {kSmooth dSmooth : Nat} (k_pos : 0 < kSmooth)
    (d_pos : 0 < dSmooth) (rawk : List ℚ) :
    smooth kSmooth dSmooth rawk = .ok (valueOf kSmooth dSmooth rawk) := by
  have divides : ∀ x : ℚ, quotient x kSmooth = .ok (x / kSmooth) := fun x =>
    quotient_of_ne (cast_ne_zero k_pos)
  have means : ((List.range dSmooth).mapM fun j =>
      quotient (slice (1 + j) (1 + j + kSmooth) rawk).sum kSmooth) =
      (Except.ok (smoothedOf kSmooth dSmooth rawk) :
        Except IndicatorError (List ℚ)) := by
    simp only [divides]
    exact List.mapM_pure
  rw [smooth, means, valueOf]
  dsimp only [bind, Except.bind]
  cases (smoothedOf kSmooth dSmooth rawk).getLast? with
  | none => rfl
  | some k =>
      dsimp only
      rw [quotient_of_ne (cast_ne_zero d_pos)]
      rfl

/-- The value of all raw readings. -/
def valueOfRaw (kSmooth dSmooth : Nat) (raw : List ℚ) : Option (ℚ × ℚ) :=
  if raw.length < kSmooth + dSmooth then none
  else valueOf kSmooth dSmooth (lastN (kSmooth + dSmooth) raw)

/-- The state that a series of RSI values leaves. -/
def ofSeries (stochPeriod kSmooth dSmooth : Nat) (rsi : IncrementalRSI)
    (series : List ℚ) : IncrementalStochRSI where
  stochPeriod := stochPeriod
  kSmooth := kSmooth
  dSmooth := dSmooth
  rsi := rsi
  rsiWin := lastN stochPeriod series
  rawk := lastN (kSmooth + dSmooth) (rawKs stochPeriod series)
  value := valueOfRaw kSmooth dSmooth (rawKs stochPeriod series)

/-- The state that a series of closes leaves. -/
def after (rsiPeriod stochPeriod kSmooth dSmooth : Nat) (closes : List ℚ) :
    IncrementalStochRSI :=
  ofSeries stochPeriod kSmooth dSmooth (.after rsiPeriod closes)
    (rsiSeriesOf closes rsiPeriod)

theorem ofSeries_nil {stochPeriod kSmooth : Nat} (stoch_pos : 0 < stochPeriod)
    (k_pos : 0 < kSmooth) (dSmooth : Nat) (rsi : IncrementalRSI) :
    ofSeries stochPeriod kSmooth dSmooth rsi [] =
      ⟨stochPeriod, kSmooth, dSmooth, rsi, [], [], none⟩ := by
  have noWindow : rawKs stochPeriod [] = [] := rawKs_short stoch_pos
  have noValue : valueOfRaw kSmooth dSmooth [] = none :=
    if_pos (Nat.add_pos_left k_pos dSmooth)
  have emptied : ∀ n, lastN n ([] : List ℚ) = [] := fun n => List.drop_nil
  rw [ofSeries, noWindow, noValue, emptied, emptied]

theorem create_eq {rsiPeriod stochPeriod kSmooth dSmooth : Nat}
    (rsi_pos : 0 < rsiPeriod) (stoch_pos : 0 < stochPeriod) (k_pos : 0 < kSmooth)
    (d_pos : 0 < dSmooth) :
    create rsiPeriod stochPeriod kSmooth dSmooth =
      .ok (after rsiPeriod stochPeriod kSmooth dSmooth []) := by
  have noSeries : rsiSeriesOf [] rsiPeriod = [] :=
    rsiSeriesOf_short (Nat.zero_le rsiPeriod)
  rw [create, if_neg (by omega), IncrementalRSI.create_eq rsi_pos, after, noSeries,
    ofSeries_nil stoch_pos k_pos]
  rfl

/-- In a window that ends with the current value this is the batch reading. -/
theorem rawK_of_last {window : List ℚ} {r : ℚ} (isLast : window.getLast? = some r) :
    rawK window r = .ok (rawOf window) := by
  have nonempty : window ≠ [] := List.getLast?_isSome.mp (isLast ▸ rfl)
  rw [← rawK_eq nonempty, StingerFx.rawK, isLast, rawK]
  cases window.min? <;> cases window.max? <;> rfl

/-- One more RSI value. -/
theorem pushRsi_ofSeries {stochPeriod kSmooth dSmooth : Nat}
    (stoch_pos : 0 < stochPeriod) (k_pos : 0 < kSmooth) (d_pos : 0 < dSmooth)
    (rsi : IncrementalRSI) (series : List ℚ) (r : ℚ) :
    (ofSeries stochPeriod kSmooth dSmooth rsi series).pushRsi r =
      .ok (ofSeries stochPeriod kSmooth dSmooth rsi (series ++ [r])) := by
  have windowed := pushBounded_lastN stochPeriod series r
  have count := length_lastN_min stochPeriod (series ++ [r])
  rw [pushRsi]
  simp only [ofSeries, windowed, count]
  by_cases enough : stochPeriod ≤ (series ++ [r]).length
  · have isLast : (lastN stochPeriod (series ++ [r])).getLast? = some r := by
      rw [lastN, List.getLast?_drop, if_neg (by omega), List.getLast?_concat]
    have readings := rawKs_concat enough
    have pushed := pushBounded_lastN (kSmooth + dSmooth) (rawKs stochPeriod series)
      (rawOf (lastN stochPeriod (series ++ [r])))
    rw [← readings] at pushed
    have kept := length_lastN_min (kSmooth + dSmooth)
      (rawKs stochPeriod (series ++ [r]))
    rw [if_neg (by omega), rawK_of_last isLast]
    change pushRaw _ _ = _
    rw [pushRaw]
    simp only [pushed, kept]
    by_cases ready : (rawKs stochPeriod (series ++ [r])).length < kSmooth + dSmooth
    · have before : (rawKs stochPeriod series).length < kSmooth + dSmooth := by
        rw [readings, List.length_append] at ready
        omega
      rw [if_pos (by omega), valueOfRaw, valueOfRaw, if_pos before, if_pos ready]
    · rw [if_neg (by omega), smooth_eq k_pos d_pos, valueOfRaw, if_neg ready]
      rfl
  · have short : series.length < stochPeriod := by
      rw [List.length_append, List.length_singleton] at enough
      omega
    rw [if_pos (by omega), rawKs_short short, rawKs_short (not_le.mp enough)]

/-- One more close. -/
theorem update_after {rsiPeriod stochPeriod kSmooth dSmooth : Nat}
    (rsi_pos : 0 < rsiPeriod) (stoch_pos : 0 < stochPeriod) (k_pos : 0 < kSmooth)
    (d_pos : 0 < dSmooth) (closes : List ℚ) (x : ℚ) :
    (after rsiPeriod stochPeriod kSmooth dSmooth closes).update x =
      .ok (after rsiPeriod stochPeriod kSmooth dSmooth (closes ++ [x])) := by
  have fed := IncrementalRSI.update_after rsi_pos closes x
  rw [update]
  change (IncrementalRSI.update (.after rsiPeriod closes) x >>= _) = _
  rw [fed]
  by_cases warm : rsiPeriod < (closes ++ [x]).length
  · have target : after rsiPeriod stochPeriod kSmooth dSmooth (closes ++ [x]) =
        ofSeries stochPeriod kSmooth dSmooth (.after rsiPeriod (closes ++ [x]))
          (rsiSeriesOf closes rsiPeriod ++
            [rsiAfter rsiPeriod (deltas (closes ++ [x]))]) := by
      rw [after, rsiSeriesOf_concat warm]
    rw [IncrementalRSI.valueOn, if_pos warm, target]
    exact pushRsi_ofSeries stoch_pos k_pos d_pos _ _ _
  · have before : closes.length ≤ rsiPeriod := by
      rw [List.length_append, List.length_singleton] at warm
      omega
    have target : after rsiPeriod stochPeriod kSmooth dSmooth (closes ++ [x]) =
        ofSeries stochPeriod kSmooth dSmooth (.after rsiPeriod (closes ++ [x]))
          (rsiSeriesOf closes rsiPeriod) := by
      rw [after, rsiSeriesOf_short before, rsiSeriesOf_short (not_lt.mp warm)]
    rw [IncrementalRSI.valueOn, if_neg warm, target]
    rfl

end IncrementalStochRSI

/-! ### Streaming against batch -/

theorem rsi_eq_valueOn {period : Nat} (positive : 0 < period) {closes : List ℚ}
    (short : closes.length ≤ period * wilderTailFactor) :
    rsi closes period = .ok (IncrementalRSI.valueOn period closes) := by
  unfold IncrementalRSI.valueOn
  split
  · rename_i warm
    rw [rsi_eq positive warm, wilderTail_of_le short]
  · rename_i cold
    rw [rsi, if_neg positive.ne', if_pos (not_lt.mp cold)]

theorem atr_eq_valueOn {period : Nat} (positive : 0 < period) {bars : List Bar}
    (short : bars.length ≤ period * wilderTailFactor) :
    atr bars period = .ok (IncrementalATR.valueOn period bars) := by
  unfold IncrementalATR.valueOn
  split
  · rename_i warm
    rw [atr_eq positive warm, wilderTail_of_le short]
  · rename_i cold
    rw [atr, if_neg positive.ne', if_pos (not_lt.mp cold)]

theorem slice_lastN {α : Type} (a b n : Nat) (items : List α) :
    slice a b (lastN n items) =
      slice (items.length - n + a) (items.length - n + b) items := by
  rw [slice, lastN, slice, List.take_drop, List.drop_drop]

section StochasticRsi

variable {stochPeriod kSmooth dSmooth : Nat}

/-- The batch loop reads the last windows of the whole series. -/
theorem collect_rawKAt (stoch_pos : 0 < stochPeriod) (k_pos : 0 < kSmooth)
    (d_pos : 0 < dSmooth) {series : List ℚ}
    (long : stochRsiExtra stochPeriod kSmooth dSmooth + 1 ≤ series.length) :
    collect
        (rawKAt stochPeriod
          (lastN (stochRsiExtra stochPeriod kSmooth dSmooth + 1) series))
        (List.range (kSmooth + dSmooth)).reverse =
      .ok (some (lastN (kSmooth + dSmooth) (rawKs stochPeriod series))) := by
  have count := length_lastN long
  have windows := length_rawKs stochPeriod series
  unfold stochRsiExtra at *
  have each : ∀ i ∈ (List.range (kSmooth + dSmooth)).reverse,
      rawKAt stochPeriod (lastN (stochPeriod + kSmooth + dSmooth - 2 + 1) series) i =
        .ok (some (rawOf (slice (series.length - i - stochPeriod)
          (series.length - i) series))) := by
    intro i member
    have small := List.mem_range.mp (List.mem_reverse.mp member)
    have nonempty : slice (series.length - i - stochPeriod) (series.length - i)
        series ≠ [] := slice_ne_nil (by omega) (Nat.sub_le _ _)
    rw [rawKAt]
    rw [count, if_neg (by omega), slice_lastN]
    have low : series.length - (stochPeriod + kSmooth + dSmooth - 2 + 1) +
        (stochPeriod + kSmooth + dSmooth - 2 + 1 - i - stochPeriod) =
        series.length - i - stochPeriod := by omega
    have high : series.length - (stochPeriod + kSmooth + dSmooth - 2 + 1) +
        (stochPeriod + kSmooth + dSmooth - 2 + 1 - i) = series.length - i := by
      omega
    rw [low, high, rawK_eq nonempty]
    rfl
  rw [collect_eq each]
  congr 2
  apply List.ext_getElem
  · rw [List.length_map, List.length_reverse, List.length_range, length_lastN_min,
      windows]
    omega
  · intro j left right
    rw [List.length_map, List.length_reverse, List.length_range] at left
    simp only [List.getElem_map, List.getElem_reverse, List.length_range,
      List.getElem_range, lastN, rawKs, List.getElem_drop, List.length_map]
    congr 2 <;> omega

/-- The batch means are the ones of the machine. -/
theorem collect_smoothedKAt (k_pos : 0 < kSmooth) {rawk : List ℚ}
    (full : rawk.length = kSmooth + dSmooth) :
    collect (smoothedKAt kSmooth dSmooth rawk) (List.range dSmooth) =
      .ok (some (IncrementalStochRSI.smoothedOf kSmooth dSmooth rawk)) := by
  apply collect_eq
  intro i member
  have small := List.mem_range.mp member
  have stop : rawk.length - (dSmooth - 1 - i) = 1 + i + kSmooth := by omega
  rw [smoothedKAt]
  rw [stop, if_neg (by omega), Nat.add_sub_cancel,
    quotient_of_ne (cast_ne_zero k_pos)]
  rfl

theorem ofSeries_smoothedOf (d_pos : 0 < dSmooth) (rawk : List ℚ) :
    (StochRSIResult.ofSeries dSmooth
        (IncrementalStochRSI.smoothedOf kSmooth dSmooth rawk)).map
        (Option.map fun s => (s.k, s.d)) =
      .ok (IncrementalStochRSI.valueOf kSmooth dSmooth rawk) := by
  rw [StochRSIResult.ofSeries, IncrementalStochRSI.valueOf]
  cases (IncrementalStochRSI.smoothedOf kSmooth dSmooth rawk).getLast? with
  | none => rfl
  | some k =>
      dsimp only
      rw [quotient_of_ne (cast_ne_zero d_pos)]
      rfl

theorem stochRsi_eq_valueOfRaw {rsiPeriod : Nat} (rsi_pos : 0 < rsiPeriod)
    (stoch_pos : 0 < stochPeriod) (k_pos : 0 < kSmooth) (d_pos : 0 < dSmooth)
    {closes : List ℚ}
    (short : closes.length ≤ stochRsiCap rsiPeriod stochPeriod kSmooth dSmooth) :
    (stochRsi closes rsiPeriod stochPeriod kSmooth dSmooth).map
        (Option.map fun s => (s.k, s.d)) =
      .ok (IncrementalStochRSI.valueOfRaw kSmooth dSmooth
        (rawKs stochPeriod (rsiSeriesOf closes rsiPeriod))) := by
  have count := length_rsiSeriesOf closes rsiPeriod
  have windows := length_rawKs stochPeriod (rsiSeriesOf closes rsiPeriod)
  rw [stochRsi, if_neg (by omega), IncrementalStochRSI.valueOfRaw]
  by_cases enough : closes.length < stochRsiNeeded rsiPeriod stochPeriod kSmooth dSmooth
  · rw [if_pos enough]
    unfold stochRsiNeeded stochRsiExtra at enough
    rw [if_pos (by omega)]
    rfl
  · have long : stochRsiExtra stochPeriod kSmooth dSmooth + 1 ≤
        (rsiSeriesOf closes rsiPeriod).length := by
      unfold stochRsiNeeded at enough
      omega
    have ready : ¬(rawKs stochPeriod (rsiSeriesOf closes rsiPeriod)).length <
        kSmooth + dSmooth := by
      unfold stochRsiExtra at long
      omega
    have full := length_lastN (not_lt.mp ready)
    rw [if_neg enough, if_neg ready]
    dsimp only
    rw [if_neg (not_lt.mpr short), rsiSeries_eq rsi_pos]
    change (if _ then _ else stochRsiOfTail _ _ _ _ : Except _ _).map _ = _
    rw [if_neg (not_lt.mpr long), stochRsiOfTail,
      collect_rawKAt stoch_pos k_pos d_pos long]
    change (if _ then _ else (collect _ _ >>= _) : Except _ _).map _ = _
    rw [if_neg (by omega), collect_smoothedKAt k_pos full]
    exact ofSeries_smoothedOf d_pos _

end StochasticRsi

end StingerFx
