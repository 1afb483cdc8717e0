/-
Module: StingerFx.Proofs.Correlations
Layer: Proofs
Purpose: The three correlations of the source. Their sums satisfy the inequality of
  Cauchy and Schwarz, so the value lies between minus one and one; order, scale and
  origin of the series do not matter; and the three agree, with their exits for series
  without variance taken on the same inputs.
Trusted boundary: none (fully proved)
Main exports: Flat, exactSqrt, CorrelationsAgree, pearson_copies_agree,
  WalkForward.consistencyScore_range
-/
import StingerFx.Backtest.Portfolio
import StingerFx.Backtest.WalkForward
import StingerFx.Lib.Moments
import StingerFx.Strategies.Indicators.Correlation

namespace StingerFx

open Lib

/-- One of the series does not vary. -/
def Flat (xs ys : List ℚ) : Prop :=
  squares xs = 0 ∨ squares ys = 0

/-- The root itself, where `math.sqrt` rounds. -/
noncomputable def exactSqrt (q : ℚ) : ℝ :=
  Real.sqrt q

variable {xs ys : List ℚ}

/-! ### What the functions compute -/

section Values

variable {K : Type} [Field K] [DecidableEq K] (sqrt : ℚ → K)

theorem pearson_eq (same : xs.length = ys.length) (long : 2 ≤ xs.length) :
    pearson sqrt xs ys =
      if sqrt (squares xs * squares ys) = 0 then 0
      else products xs ys / sqrt (squares xs * squares ys) := by
  have regular : ¬ (xs.length ≠ ys.length ∨ xs.length < 2) := by omega
  unfold pearson squares products
  rw [if_neg regular, ← same]

/-- The copy of the walk-forward module is the same function. -/
theorem WalkForward.pearson_eq (xs ys : List ℚ) :
    WalkForward.pearson sqrt xs ys = StingerFx.pearson sqrt xs ys :=
  rfl

theorem lastN_length {α : Type} (items : List α) {n : Nat} (whole : items.length = n) :
    lastN n items = items := by
  rw [lastN, whole, Nat.sub_self, List.drop_zero]

/-- The indicator over the whole of the series. -/
theorem correlation_eq (same : xs.length = ys.length) (long : 2 ≤ xs.length) :
    correlation sqrt xs ys xs.length =
      if sqrt (squares xs * squares ys) = 0 then .ok none
      else .ok (some (pearson sqrt xs ys)) := by
  have tooShort : ¬ xs.length ≤ 1 := by omega
  rw [StingerFx.pearson_eq sqrt same long]
  unfold correlation squares products
  rw [if_neg tooShort, if_neg (not_not.mpr same), if_neg (lt_irrefl _),
    lastN_length xs rfl, lastN_length ys same.symm, ← same]
  split
  · rename_i zero
    rw [if_pos zero]
  · rename_i nonzero
    rw [if_neg nonzero]

end Values

/-! ### The exact root -/

theorem exactSqrt_eq_zero_iff (xs ys : List ℚ) :
    exactSqrt (squares xs * squares ys) = 0 ↔ Flat xs ys := by
  have nonneg : (0 : ℝ) ≤ ((squares xs * squares ys : ℚ) : ℝ) :=
    Rat.cast_nonneg.mpr (mul_nonneg (squares_nonneg xs) (squares_nonneg ys))
  rw [exactSqrt, Real.sqrt_eq_zero nonneg, Rat.cast_eq_zero, mul_eq_zero]
  rfl

/-- The quotient that all three return. -/
noncomputable def coefficient (xs ys : List ℚ) : ℝ :=
  products xs ys / exactSqrt (squares xs * squares ys)

theorem pearson_exact (same : xs.length = ys.length) (long : 2 ≤ xs.length) :
    pearson exactSqrt xs ys = coefficient xs ys := by
  rw [pearson_eq exactSqrt same long, coefficient]
  split
  · rename_i zero
    rw [zero, div_zero]
  · rfl

theorem abs_coefficient_le (same : xs.length = ys.length) : |coefficient xs ys| ≤ 1 := by
  have bound : ((products xs ys : ℚ) : ℝ) ^ 2 ≤ ((squares xs * squares ys : ℚ) : ℝ) := by
    exact_mod_cast products_sq_le same
  rw [coefficient, abs_div, exactSqrt, abs_of_nonneg (Real.sqrt_nonneg _)]
  refine div_le_one_of_le₀ ?_ (Real.sqrt_nonneg _)
  exact Real.abs_le_sqrt bound

theorem coefficient_comm (same : xs.length = ys.length) :
    coefficient xs ys = coefficient ys xs := by
  rw [coefficient, coefficient, products_comm same, mul_comm (squares xs)]

/-- Neither a positive factor nor a shift of a series is seen. -/
theorem coefficient_affine (same : xs.length = ys.length) {a c : ℚ} (apos : 0 < a)
    (cpos : 0 < c) (b d : ℚ) :
    coefficient (xs.map fun x => a * x + b) (ys.map fun y => c * y + d) =
      coefficient xs ys := by
  have factor : ((a * c : ℚ) : ℝ) ≠ 0 := Rat.cast_ne_zero.mpr (mul_pos apos cpos).ne'
  have roots : exactSqrt (a ^ 2 * squares xs * (c ^ 2 * squares ys)) =
      ((a * c : ℚ) : ℝ) * exactSqrt (squares xs * squares ys) := by
    have split : a ^ 2 * squares xs * (c ^ 2 * squares ys) =
        (a * c) ^ 2 * (squares xs * squares ys) := by ring
    rw [split, exactSqrt, exactSqrt, Rat.cast_mul, Rat.cast_pow,
      Real.sqrt_mul (sq_nonneg _), Real.sqrt_sq (Rat.cast_nonneg.mpr (mul_pos apos cpos).le)]
  rw [coefficient, products_affine same, squares_affine, squares_affine, roots,
    Rat.cast_mul (a * c)]
  exact mul_div_mul_left _ _ factor

theorem flat_affine (xs ys : List ℚ) {a c : ℚ} (apos : 0 < a) (cpos : 0 < c) (b d : ℚ) :
    Flat (xs.map fun x => a * x + b) (ys.map fun y => c * y + d) ↔ Flat xs ys := by
  unfold Flat
  rw [squares_affine, squares_affine, mul_eq_zero_iff_left (pow_ne_zero 2 apos.ne'),
    mul_eq_zero_iff_left (pow_ne_zero 2 cpos.ne')]

/-! ### Agreement -/

/-- What holds of two series, whichever of the three functions correlates them. -/
structure CorrelationsAgree (xs ys : List ℚ) : Prop where
  bound : products xs ys ^ 2 ≤ squares xs * squares ys
  range : -1 ≤ pearson exactSqrt xs ys ∧ pearson exactSqrt xs ys ≤ 1
  symm : pearson exactSqrt ys xs = pearson exactSqrt xs ys ∧
    correlation exactSqrt ys xs ys.length = correlation exactSqrt xs ys xs.length
  affine : ∀ a b c d : ℚ, 0 < a → 0 < c →
    pearson exactSqrt (xs.map fun x => a * x + b) (ys.map fun y => c * y + d) =
        pearson exactSqrt xs ys ∧
      correlation exactSqrt (xs.map fun x => a * x + b) (ys.map fun y => c * y + d)
        xs.length = correlation exactSqrt xs ys xs.length
  /-- the two copies of `_pearson`, on all lists -/
  copies : ∀ us vs : List ℚ,
    WalkForward.pearson exactSqrt us vs = pearson exactSqrt us vs
  value : ¬ Flat xs ys →
    pearson exactSqrt xs ys = products xs ys / exactSqrt (squares xs * squares ys) ∧
      correlation exactSqrt xs ys xs.length = .ok (some (pearson exactSqrt xs ys))
  /-- the test in front of the exit -/
  exit_iff : exactSqrt (squares xs * squares ys) = 0 ↔ Flat xs ys
  none_iff : correlation exactSqrt xs ys xs.length = .ok none ↔ Flat xs ys
  /-- zero without variance, and for series that do not vary together -/
  zero_iff : pearson exactSqrt xs ys = 0 ↔ Flat xs ys ∨ products xs ys = 0

theorem correlation_exact (same : xs.length = ys.length) (long : 2 ≤ xs.length) :
    (Flat xs ys → correlation exactSqrt xs ys xs.length = .ok none) ∧
      (¬ Flat xs ys →
        correlation exactSqrt xs ys xs.length = .ok (some (coefficient xs ys))) := by
  rw [correlation_eq exactSqrt same long, pearson_exact same long]
  constructor
  · intro flat
    exact if_pos ((exactSqrt_eq_zero_iff xs ys).mpr flat)
  · intro varies
    exact if_neg (mt (exactSqrt_eq_zero_iff xs ys).mp varies)

theorem correlation_congr {us vs : List ℚ} (same : xs.length = ys.length)
    (long : 2 ≤ xs.length) (same' : us.length = vs.length) (long' : 2 ≤ us.length)
    (flat : Flat us vs ↔ Flat xs ys) (value : coefficient us vs = coefficient xs ys) :
    correlation exactSqrt us vs us.length = correlation exactSqrt xs ys xs.length := by
  by_cases constant : Flat xs ys
  · rw [(correlation_exact same long).1 constant,
      (correlation_exact same' long').1 (flat.mpr constant)]
  · rw [(correlation_exact same long).2 constant,
      (correlation_exact same' long').2 (mt flat.mp constant), value]

/-- For every pair of equally long series of at least two samples. -/
theorem pearson_copies_agree (same : xs.length = ys.length) (long : 2 ≤ xs.length) :
    CorrelationsAgree xs ys where
  bound := products_sq_le same
  range := by
    rw [pearson_exact same long]
    exact abs_le.mp (abs_coefficient_le same)
  symm := by
    have long' : 2 ≤ ys.length := same ▸ long
    constructor
    · rw [pearson_exact same long, pearson_exact same.symm long', coefficient_comm same]
    · exact correlation_congr same long same.symm long' or_comm (coefficient_comm same).symm
  affine := by
    intro a b c d apos cpos
    have same' : (xs.map fun x => a * x + b).length = (ys.map fun y => c * y + d).length := by
      rw [List.length_map, List.length_map, same]
    have long' : 2 ≤ (xs.map fun x => a * x + b).length := by
      rw [List.length_map]
      exact long
    constructor
    · rw [pearson_exact same long, pearson_exact same' long',
        coefficient_affine same apos cpos]
    · have moved := correlation_congr same long same' long'
        (flat_affine xs ys apos cpos b d) (coefficient_affine same apos cpos b d)
      rw [List.length_map] at moved
      exact moved
  copies := WalkForward.pearson_eq exactSqrt
  value := by
    intro varies
    rw [pearson_exact same long]
    exact ⟨rfl, (correlation_exact same long).2 varies⟩
  exit_iff := exactSqrt_eq_zero_iff xs ys
  none_iff := by
    constructor
    · intro none_
      by_contra varies
      rw [(correlation_exact same long).2 varies] at none_
      cases none_
    · exact (correlation_exact same long).1
  zero_iff := by
    rw [pearson_exact same long, coefficient, div_eq_zero_iff, exactSqrt_eq_zero_iff,
      Rat.cast_eq_zero, or_comm]

/-- Series that vary, but not together. -/
theorem pearson_copies_agree_uncorrelated : CorrelationsAgree [-1, 0, 1] [1, 0, 1] :=
  pearson_copies_agree rfl (by decide)

namespace WalkForward

/-- The score of a report is a correlation. -/
theorem consistencyScore_range (rankBy : String) (folds : List FoldMetrics) :
    -1 ≤ consistencyScore exactSqrt rankBy folds ∧
      consistencyScore exactSqrt rankBy folds ≤ 1 := by
  unfold consistencyScore
  split
  · exact ⟨by norm_num, by norm_num⟩
  · rename_i long
    have same : (folds.map fun f => f.inSample.getD rankBy 0).length =
        (folds.map fun f => f.oos.getD rankBy 0).length := by
      rw [List.length_map, List.length_map]
    rw [WalkForward.pearson_eq, pearson_exact same (by rw [List.length_map]; omega)]
    exact abs_le.mp (abs_coefficient_le same)

end WalkForward

end StingerFx
