/-
Module: StingerFx.Lib.RunningMean
Layer: Library
Purpose: Wilder's running mean over a linearly ordered field: the mean of the first
  `n` values, into which every later value enters with weight one in `n`. It is
  fixed by one equation for each new value, and it stays between the bounds of the
  values.
Trusted boundary: none (fully proved)
Main exports: meanStep, runningMean, runningMean_append, runningMean_of_length,
  partialMean, partialMean_append_of_lt, partialMean_append_of_eq,
  partialMean_append_of_le, le_runningMean, runningMean_le
-/
import Mathlib

namespace Lib

variable {K : Type} [Field K]

/-- The mean after one more value. -/
def meanStep (n : ℕ) (mean x : K) : K := (mean * ((n : K) - 1) + x) / n

/-- The mean of the first `n` values, and one step for each value after them. -/
def runningMean (n : ℕ) (values : List K) : K :=
  (values.drop n).foldl (meanStep n) ((values.take n).sum / n)

section Equations

variable {n : ℕ} {values : List K}

theorem runningMean_of_length (full : values.length = n) :
    runningMean n values = values.sum / n := by
  rw [runningMean, List.drop_of_length_le full.le, List.take_of_length_le full.le]
  rfl

theorem runningMean_append (seeded : n ≤ values.length) (x : K) :
    runningMean n (values ++ [x]) = meanStep n (runningMean n values) x := by
  rw [runningMean, List.drop_append_of_le_length seeded,
    List.take_append_of_le_length seeded, List.foldl_append]
  rfl

/-- What one step keeps, a fold of steps keeps. -/
theorem foldl_meanStep_keeps {P : K → Prop} {seed : K} (start : P seed)
    (keeps : ∀ mean x, P mean → x ∈ values → P (meanStep n mean x)) :
    P (values.foldl (meanStep n) seed) := by
  induction values generalizing seed with
  | nil => exact start
  | cons x rest ih =>
      apply ih (keeps seed x start List.mem_cons_self)
      exact fun mean y holds member =>
        keeps mean y holds (List.mem_cons_of_mem _ member)

/-- The mean as it is built up: a plain sum until the first `n` values are there. -/
def partialMean (n : ℕ) (values : List K) : K :=
  if values.length < n then values.sum else runningMean n values

theorem partialMean_append_of_lt (short : values.length + 1 < n) (x : K) :
    partialMean n (values ++ [x]) = partialMean n values + x := by
  have shorter : values.length < n := (Nat.lt_succ_self _).trans short
  have appended : (values ++ [x]).length < n := by
    rwa [List.length_append, List.length_singleton]
  rw [partialMean, partialMean, if_pos appended, if_pos shorter, List.sum_append,
    List.sum_singleton]

theorem partialMean_append_of_eq (full : values.length + 1 = n) (x : K) :
    partialMean n (values ++ [x]) = (partialMean n values + x) / n := by
  have shorter : values.length < n := full ▸ Nat.lt_succ_self _
  have appended : (values ++ [x]).length = n := by
    rwa [List.length_append, List.length_singleton]
  rw [partialMean, partialMean, if_neg appended.not_lt, if_pos shorter,
    runningMean_of_length appended, List.sum_append, List.sum_singleton]

theorem partialMean_of_le (seeded : n ≤ values.length) :
    partialMean n values = runningMean n values :=
  if_neg (not_lt.mpr seeded)

theorem partialMean_append_of_le (seeded : n ≤ values.length) (x : K) :
    partialMean n (values ++ [x]) = meanStep n (partialMean n values) x := by
  have longer : n ≤ (values ++ [x]).length := by
    rw [List.length_append]
    exact seeded.trans (Nat.le_add_right _ _)
  rw [partialMean_of_le longer, partialMean_of_le seeded, runningMean_append seeded]

end Equations

section Bounds

variable [LinearOrder K] [IsStrictOrderedRing K] {n : ℕ} {values : List K}

theorem le_meanStep {bound mean x : K} (positive : 0 < n) (mean_ge : bound ≤ mean)
    (x_ge : bound ≤ x) : bound ≤ meanStep n mean x := by
  have n_ge : (1 : K) ≤ n := by exact_mod_cast positive
  have n_pos : (0 : K) < n := zero_lt_one.trans_le n_ge
  rw [meanStep, le_div_iff₀ n_pos]
  have scaled := mul_le_mul_of_nonneg_right mean_ge (sub_nonneg.mpr n_ge)
  linarith

theorem meanStep_le {bound mean x : K} (positive : 0 < n) (mean_le : mean ≤ bound)
    (x_le : x ≤ bound) : meanStep n mean x ≤ bound := by
  have n_ge : (1 : K) ≤ n := by exact_mod_cast positive
  have n_pos : (0 : K) < n := zero_lt_one.trans_le n_ge
  rw [meanStep, div_le_iff₀ n_pos]
  have scaled := mul_le_mul_of_nonneg_right mean_le (sub_nonneg.mpr n_ge)
  linarith

theorem le_sum_div {bound : K} (positive : 0 < n) (full : values.length = n)
    (above : ∀ x ∈ values, bound ≤ x) : bound ≤ values.sum / n := by
  have n_pos : (0 : K) < n := by exact_mod_cast positive
  rw [le_div_iff₀ n_pos, mul_comm, ← nsmul_eq_mul, ← full]
  exact List.card_nsmul_le_sum values bound above

theorem sum_div_le {bound : K} (positive : 0 < n) (full : values.length = n)
    (below : ∀ x ∈ values, x ≤ bound) : values.sum / n ≤ bound := by
  have n_pos : (0 : K) < n := by exact_mod_cast positive
  rw [div_le_iff₀ n_pos, mul_comm, ← nsmul_eq_mul, ← full]
  exact List.sum_le_card_nsmul values bound below

/-- A lower bound of the values bounds their mean. -/
theorem le_runningMean {bound : K} (positive : 0 < n) (seeded : n ≤ values.length)
    (above : ∀ x ∈ values, bound ≤ x) : bound ≤ runningMean n values := by
  apply foldl_meanStep_keeps (P := fun mean => bound ≤ mean)
  · apply le_sum_div positive (List.length_take_of_le seeded)
    exact fun x member => above x (List.mem_of_mem_take member)
  · exact fun mean x holds member =>
      le_meanStep positive holds (above x (List.mem_of_mem_drop member))

/-- An upper bound of the values bounds their mean. -/
theorem runningMean_le {bound : K} (positive : 0 < n) (seeded : n ≤ values.length)
    (below : ∀ x ∈ values, x ≤ bound) : runningMean n values ≤ bound := by
  apply foldl_meanStep_keeps (P := fun mean => mean ≤ bound)
  · apply sum_div_le positive (List.length_take_of_le seeded)
    exact fun x member => below x (List.mem_of_mem_take member)
  · exact fun mean x holds member =>
      meanStep_le positive holds (below x (List.mem_of_mem_drop member))

end Bounds

end Lib
