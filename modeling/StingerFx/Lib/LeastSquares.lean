/-
Module: StingerFx.Lib.LeastSquares
Layer: Lib
Purpose: The line through samples with the least sum of squared residuals. Its
  residuals sum to zero and do not vary with the regressor, so the cost of any other
  line is larger by the sum of the squared differences of both.
Trusted boundary: none (fully proved)
Main exports: slope, intercept, residual, cost, sum_residual, joint_residual, cost_eq,
  cost_le, cost_unique
-/
import StingerFx.Lib.Moments

namespace Lib

namespace LeastSquares

universe u w

variable {ι : Type u} {F : Type w}

section Line

variable [Field F]

def slope (ps : List ι) (x y : ι → F) : F :=
  joint ps x y / joint ps x x

def intercept (ps : List ι) (x y : ι → F) : F :=
  mean ps y - slope ps x y * mean ps x

/-- What a line leaves of a sample. -/
def residual (x y : ι → F) (m b : F) (p : ι) : F :=
  y p - (b + m * x p)

def cost (ps : List ι) (x y : ι → F) (m b : F) : F :=
  (ps.map fun p => residual x y m b p ^ 2).sum

/-- The residuals of the best line. -/
def best (ps : List ι) (x y : ι → F) : ι → F :=
  residual x y (slope ps x y) (intercept ps x y)

variable {ps : List ι} {x y : ι → F}

theorem best_eq (p : ι) :
    best ps x y p = y p - mean ps y + -slope ps x y * (x p - mean ps x) := by
  simp only [best, residual, intercept]
  ring

theorem nonempty_of_varies (varies : joint ps x x ≠ 0) : ps ≠ [] := by
  rintro rfl
  exact varies rfl

variable [CharZero F]

theorem sum_residual (ps : List ι) (x y : ι → F) : (ps.map (best ps x y)).sum = 0 := by
  have split : best ps x y = fun p =>
      y p - mean ps y + -slope ps x y * (x p - mean ps x) := funext fun p => best_eq p
  rw [split, List.sum_map_add, List.sum_map_mul_left, sum_deviation, sum_deviation,
    mul_zero, add_zero]

theorem mean_residual (ps : List ι) (x y : ι → F) : mean ps (best ps x y) = 0 := by
  rw [mean, sum_residual, zero_div]

/-- What the best line leaves does not vary with the regressor. -/
theorem joint_residual (varies : joint ps x x ≠ 0) : joint ps (best ps x y) x = 0 := by
  have split : ∀ p, (best ps x y p - mean ps (best ps x y)) * (x p - mean ps x) =
      (y p - mean ps y) * (x p - mean ps x) +
        -slope ps x y * ((x p - mean ps x) * (x p - mean ps x)) := by
    intro p
    rw [mean_residual, best_eq]
    ring
  have sum : joint ps (best ps x y) x =
      joint ps y x + -slope ps x y * joint ps x x := by
    unfold joint at *
    simp only [split, List.sum_map_add, List.sum_map_mul_left]
  rw [sum, slope, neg_mul, div_mul_cancel₀ _ varies, joint_comm ps y x, add_neg_cancel]

theorem sum_residual_mul (varies : joint ps x x ≠ 0) (c d : F) :
    (ps.map fun p => best ps x y p * (c * x p + d)).sum = 0 := by
  have products := sum_mul_eq ps (best ps x y) x
  rw [joint_residual varies, mean_residual, zero_mul, mul_zero, add_zero] at products
  have split : ∀ p, best ps x y p * (c * x p + d) =
      c * (best ps x y p * x p) + d * best ps x y p := by
    intro p
    ring
  simp only [split, List.sum_map_add, List.sum_map_mul_left, products]
  rw [sum_residual, mul_zero, mul_zero, add_zero]

/-- Any line costs more by what it differs from the best one. -/
theorem cost_eq (varies : joint ps x x ≠ 0) (m b : F) :
    cost ps x y m b = cost ps x y (slope ps x y) (intercept ps x y) +
      ((slope ps x y - m) ^ 2 * joint ps x x +
        ps.length * ((slope ps x y - m) * mean ps x + (intercept ps x y - b)) ^ 2) := by
  have some_ := nonempty_of_varies varies
  have split : ∀ p, residual x y m b p ^ 2 =
      residual x y (slope ps x y) (intercept ps x y) p ^ 2 +
        (2 * (best ps x y p * ((slope ps x y - m) * x p + (intercept ps x y - b))) +
          ((slope ps x y - m) * x p + (intercept ps x y - b)) *
            ((slope ps x y - m) * x p + (intercept ps x y - b))) := by
    intro p
    simp only [best, residual]
    ring
  have shift := sum_mul_eq ps (fun p => (slope ps x y - m) * x p + (intercept ps x y - b))
    fun p => (slope ps x y - m) * x p + (intercept ps x y - b)
  rw [joint_affine, mean_affine some_] at shift
  unfold cost
  simp only [split, List.sum_map_add, List.sum_map_mul_left, sum_residual_mul varies]
  rw [shift]
  ring

end Line

section Order

variable [Field F] [LinearOrder F] [IsStrictOrderedRing F]
variable {ps : List ι} {x y : ι → F}

theorem cost_le (varies : joint ps x x ≠ 0) (m b : F) :
    cost ps x y (slope ps x y) (intercept ps x y) ≤ cost ps x y m b := by
  rw [cost_eq varies m b]
  have moment := joint_self_nonneg ps x
  have extra : 0 ≤ (slope ps x y - m) ^ 2 * joint ps x x +
      ps.length * ((slope ps x y - m) * mean ps x + (intercept ps x y - b)) ^ 2 := by
    positivity
  linarith

/-- No other line costs as little. -/
theorem cost_unique (varies : joint ps x x ≠ 0) {m b : F}
    (least : cost ps x y m b ≤ cost ps x y (slope ps x y) (intercept ps x y)) :
    m = slope ps x y ∧ b = intercept ps x y := by
  rw [cost_eq varies m b] at least
  have moment := (joint_self_nonneg ps x).lt_of_ne' varies
  have count : (0 : F) < ps.length := by
    exact_mod_cast List.length_pos_iff.mpr (nonempty_of_varies varies)
  have one : 0 ≤ (slope ps x y - m) ^ 2 * joint ps x x := by positivity
  have two : 0 ≤ ps.length *
      ((slope ps x y - m) * mean ps x + (intercept ps x y - b)) ^ 2 := by positivity
  have slopes : slope ps x y - m = 0 := by
    have zero : (slope ps x y - m) ^ 2 * joint ps x x = 0 := by linarith
    exact pow_eq_zero_iff two_ne_zero |>.mp ((mul_eq_zero.mp zero).resolve_right varies)
  have heights : (slope ps x y - m) * mean ps x + (intercept ps x y - b) = 0 := by
    have zero : ps.length *
        ((slope ps x y - m) * mean ps x + (intercept ps x y - b)) ^ 2 = 0 := by linarith
    exact pow_eq_zero_iff two_ne_zero |>.mp ((mul_eq_zero.mp zero).resolve_left count.ne')
  rw [slopes, zero_mul, zero_add] at heights
  exact ⟨(sub_eq_zero.mp slopes).symm, (sub_eq_zero.mp heights).symm⟩

end Order

end LeastSquares

end Lib
