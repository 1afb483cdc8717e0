/-
Module: StingerFx.Proofs.HedgeRatio
Layer: Proofs
Purpose: The regression of the cointegration test finds the one line with the least sum
  of squared residuals among all real ones. What the line leaves has mean zero, so the
  first of the two heuristic checks never rejects it.
Trusted boundary: none (fully proved)
Main exports: squaredResiduals, IsLeastSquares, olsRegression_eq, drifts_of_sum_zero,
  olsRegression_fits, rollingHedgeRatio_fits, ols_is_least_squares
-/
import StingerFx.Lib.LeastSquares
import StingerFx.Proofs.Correlations
import StingerFx.Strategies.Cointegration

namespace StingerFx

open Lib

/-- Sum of the squared residuals of a line. -/
noncomputable def squaredResiduals (y x : List ℚ) (slope intercept : ℝ) : ℝ :=
  (List.zipWith (fun yi xi : ℚ => ((yi : ℝ) - (intercept + slope * xi)) ^ 2) y x).sum

/-- No real line has less, and no other one as little. -/
structure IsLeastSquares (y x : List ℚ) (slope intercept : ℚ) : Prop where
  least : ∀ m b : ℝ, squaredResiduals y x slope intercept ≤ squaredResiduals y x m b
  unique : ∀ m b : ℝ, squaredResiduals y x m b ≤ squaredResiduals y x slope intercept →
    m = slope ∧ b = intercept

/-! ### The regression -/

section Samples

variable (ps : List (ℚ × ℚ))

/-- Both coordinates as real numbers. -/
noncomputable def realFst (p : ℚ × ℚ) : ℝ := p.1

noncomputable def realSnd (p : ℚ × ℚ) : ℝ := p.2

theorem squaredResiduals_eq (m b : ℝ) :
    squaredResiduals (ps.map Prod.snd) (ps.map Prod.fst) m b =
      LeastSquares.cost ps realFst realSnd m b := by
  unfold squaredResiduals LeastSquares.cost
  rw [List.zipWith_map, List.zipWith_self]
  rfl

theorem joint_real :
    ((joint ps Prod.fst Prod.fst : ℚ) : ℝ) = joint ps realFst realFst :=
  map_joint (Rat.castHom ℝ) ps Prod.fst Prod.fst

theorem slope_real : ((LeastSquares.slope ps Prod.fst Prod.snd : ℚ) : ℝ) =
    LeastSquares.slope ps realFst realSnd := by
  unfold LeastSquares.slope
  rw [Rat.cast_div, joint_real]
  exact congrArg (· / _) (map_joint (Rat.castHom ℝ) ps Prod.fst Prod.snd)

theorem intercept_real : ((LeastSquares.intercept ps Prod.fst Prod.snd : ℚ) : ℝ) =
    LeastSquares.intercept ps realFst realSnd := by
  have first : ((mean ps Prod.fst : ℚ) : ℝ) = mean ps realFst :=
    map_mean (Rat.castHom ℝ) ps Prod.fst
  have second : ((mean ps Prod.snd : ℚ) : ℝ) = mean ps realSnd :=
    map_mean (Rat.castHom ℝ) ps Prod.snd
  unfold LeastSquares.intercept
  rw [Rat.cast_sub, Rat.cast_mul, slope_real, first, second]

/-- The sums of the source are the moments of the samples. -/
theorem olsRegression_eq (long : 2 ≤ ps.length)
    (varies : joint ps Prod.fst Prod.fst ≠ 0) :
    olsRegression (ps.map Prod.snd) (ps.map Prod.fst) =
      .ok (LeastSquares.slope ps Prod.fst Prod.snd,
        LeastSquares.intercept ps Prod.fst Prod.snd) := by
  have numerator := products_map ps Prod.fst Prod.snd
  have denominator := squares_map ps Prod.fst
  unfold products at numerator
  unfold squares at denominator
  rw [List.length_map] at numerator denominator
  rw [List.length_map] at numerator
  unfold olsRegression
  rw [List.length_map, List.length_map, if_neg (not_not.mpr rfl),
    if_neg (not_lt.mpr long)]
  simp only [numerator, denominator]
  rw [if_neg varies]
  rfl

theorem isLeastSquares (varies : joint ps Prod.fst Prod.fst ≠ 0) :
    IsLeastSquares (ps.map Prod.snd) (ps.map Prod.fst)
      (LeastSquares.slope ps Prod.fst Prod.snd)
      (LeastSquares.intercept ps Prod.fst Prod.snd) := by
  have realVaries : joint ps realFst realFst ≠ 0 := by
    rw [← joint_real]
    exact Rat.cast_ne_zero.mpr varies
  constructor
  · intro m b
    rw [squaredResiduals_eq, squaredResiduals_eq, slope_real, intercept_real]
    exact LeastSquares.cost_le realVaries m b
  · intro m b
    rw [squaredResiduals_eq, squaredResiduals_eq, slope_real, intercept_real]
    exact LeastSquares.cost_unique realVaries

/-! ### What the line leaves -/

theorem residualsOf_eq : residualsOf (LeastSquares.slope ps Prod.fst Prod.snd)
    (LeastSquares.intercept ps Prod.fst Prod.snd) (ps.map Prod.snd) (ps.map Prod.fst) =
      ps.map (LeastSquares.best ps Prod.fst Prod.snd) := by
  unfold residualsOf
  rw [List.zipWith_map, List.zipWith_self]
  rfl

end Samples

/-- A regression that returns has fitted. -/
theorem olsRegression_fits {y x : List ℚ} {line : ℚ × ℚ}
    (fit : olsRegression y x = .ok line) : IsLeastSquares y x line.1 line.2 := by
  have lengths : y.length = x.length := by
    by_contra apart
    unfold olsRegression at fit
    rw [if_pos apart] at fit
    cases fit
  have long : 2 ≤ x.length := by
    by_contra short
    unfold olsRegression at fit
    rw [if_neg (not_not.mpr lengths), if_pos (not_le.mp short)] at fit
    cases fit
  have varies : squares x ≠ 0 := by
    intro flat
    unfold squares at flat
    unfold olsRegression at fit
    rw [if_neg (not_not.mpr lengths), if_neg (not_lt.mpr long)] at fit
    simp only [flat, if_true] at fit
    cases fit
  obtain ⟨ps, rfl, rfl⟩ := samples_of_length lengths.symm
  rw [squares_map] at varies
  rw [List.length_map] at long
  rw [olsRegression_eq ps long varies] at fit
  cases fit
  exact isLeastSquares ps varies

/-- The rolling hedge ratio is that of the window. -/
theorem rollingHedgeRatio_fits {seriesA seriesB : List ℚ} {window : Nat} {ratio : ℚ}
    (returned : rollingHedgeRatio seriesA seriesB window = .ok (some ratio)) :
    ∃ intercept, IsLeastSquares (lastN window seriesA) (lastN window seriesB) ratio
      intercept := by
  unfold rollingHedgeRatio at returned
  split at returned
  · cases returned
  · split at returned
    · cases returned
    · split at returned
      · cases returned
      · split at returned
        · rename_i slope intercept fit
          cases returned
          exact ⟨intercept, olsRegression_fits fit⟩
        · cases returned

/-- A mean of zero is small against any standard deviation. -/
theorem drifts_of_sum_zero {K : Type} [Field K] [LinearOrder K] [IsStrictOrderedRing K]
    {sqrt : ℚ → K} (root : ∀ v, 0 < v → 0 ≤ sqrt v) {residuals : List ℚ}
    (zero : residuals.sum = 0) : drifts sqrt residuals = false := by
  have deviation : 0 ≤ stdOf sqrt residuals := by
    unfold stdOf
    split
    · rename_i pos
      exact root _ pos
    · exact le_rfl
  have center : meanOf residuals = 0 := by
    rw [meanOf, zero, zero_div]
  unfold drifts
  rw [center, Rat.cast_zero, abs_zero]
  refine decide_eq_false (not_lt.mpr ?_)
  positivity

/-! ### The test -/

section Test

variable {K : Type} [Field K] [LinearOrder K] {sqrt : ℚ → K}
variable {adfuller : Option (List ℚ → Except IndicatorError ℚ)}
variable {a b : List ℚ} {minSamples : Nat}

/-- The parts of a result that the regression decides. -/
theorem engleGrangerTest_result {result : CointegrationResult K}
    (returned : engleGrangerTest sqrt adfuller a b minSamples = .ok result) :
    olsRegression a b = .ok (result.hedgeRatio, result.intercept) ∧
      result.residuals = residualsOf result.hedgeRatio result.intercept a b := by
  unfold engleGrangerTest at returned
  split at returned
  · cases returned
  · split at returned
    · cases returned
    · cases fit : olsRegression a b with
      | error e =>
          rw [fit] at returned
          cases returned
      | ok line =>
          rw [fit] at returned
          cases verdict : stationarity sqrt adfuller (residualsOf line.1 line.2 a b) with
          | error e =>
              simp [bind, Except.bind, verdict] at returned
          | ok judged =>
              simp only [bind, Except.bind, verdict, pure, Except.pure,
                Except.ok.injEq] at returned
              rw [← returned]
              exact ⟨rfl, rfl⟩

/-- Without the package the test returns for every regression there is. -/
theorem engleGrangerTest_returns {line : ℚ × ℚ} (same : a.length = b.length)
    (enough : minSamples ≤ a.length) (fit : olsRegression a b = .ok line) :
    ∃ result, engleGrangerTest sqrt none a b minSamples = .ok result := by
  unfold engleGrangerTest
  rw [if_neg (not_not.mpr same), if_neg (not_lt.mpr enough), fit]
  exact ⟨_, rfl⟩

end Test

/-- For every pair of equally long series with variance in the regressor. -/
theorem ols_is_least_squares {y x : List ℚ} (same : y.length = x.length)
    (long : 2 ≤ x.length) (varies : squares x ≠ 0) :
    ∃ slope intercept : ℚ,
      olsRegression y x = .ok (slope, intercept) ∧
      IsLeastSquares y x slope intercept ∧
      (∀ minSamples ≤ x.length, ∃ result,
        engleGrangerTest exactSqrt none y x minSamples = .ok result) ∧
      ∀ (adfuller : Option (List ℚ → Except IndicatorError ℚ)) (minSamples : Nat)
        (result : CointegrationResult ℝ),
        engleGrangerTest exactSqrt adfuller y x minSamples = .ok result →
          result.hedgeRatio = slope ∧ result.intercept = intercept ∧
          result.residuals.sum = 0 ∧ products result.residuals x = 0 ∧
          drifts exactSqrt result.residuals = false := by
  obtain ⟨ps, rfl, rfl⟩ := samples_of_length same.symm
  rw [squares_map] at varies
  rw [List.length_map] at long
  have fit := olsRegression_eq ps long varies
  refine ⟨_, _, fit, isLeastSquares ps varies, ?_, ?_⟩
  · intro minSamples enough
    exact engleGrangerTest_returns same (same ▸ enough) fit
  · intro adfuller minSamples result returned
    obtain ⟨line, rest⟩ := engleGrangerTest_result returned
    rw [fit, Except.ok.injEq, Prod.mk.injEq] at line
    rw [← line.1, ← line.2, residualsOf_eq] at rest
    have zero : result.residuals.sum = 0 := by
      rw [rest]
      exact LeastSquares.sum_residual ps Prod.fst Prod.snd
    refine ⟨line.1.symm, line.2.symm, zero, ?_, ?_⟩
    · rw [rest, products_map]
      exact LeastSquares.joint_residual varies
    · exact drifts_of_sum_zero (fun _ _ => Real.sqrt_nonneg _) zero

/-- Three samples that are not on a line. -/
theorem ols_is_least_squares_three :
    IsLeastSquares [1, 3, 2] [0, 1, 2] (1 / 2) (3 / 2) := by
  obtain ⟨slope, intercept, fit, least, -⟩ :=
    ols_is_least_squares (y := [1, 3, 2]) (x := [0, 1, 2]) rfl (by decide)
      (by decide +kernel)
  have computed : olsRegression [1, 3, 2] [0, 1, 2] = .ok (1 / 2, 3 / 2) := by
    decide +kernel
  rw [computed] at fit
  cases fit
  exact least

end StingerFx
