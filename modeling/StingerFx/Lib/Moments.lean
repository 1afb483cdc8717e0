/-
Module: StingerFx.Lib.Moments
Layer: Lib
Purpose: First and second moments of figures of the samples of a list: deviations from
  a mean sum to zero, joint moments are bilinear and do not see shifts, and the square
  of one is at most the product of the two moments of its figures.
Trusted boundary: none (fully proved)
Main exports: mean, joint, map_joint, sum_deviation, joint_comm, joint_affine,
  joint_self_nonneg, sum_mul_eq, joint_sq_le, squares, products,
  products_affine, squares_affine, products_sq_le
-/
import Mathlib

namespace Lib

universe u v w

variable {ι : Type u} {F : Type w}

section Field

variable [Field F]

def mean (ps : List ι) (x : ι → F) : F :=
  (ps.map x).sum / ps.length

/-- The sum of the products of the deviations from both means. -/
def joint (ps : List ι) (x y : ι → F) : F :=
  (ps.map fun p => (x p - mean ps x) * (y p - mean ps y)).sum

variable {ps : List ι} {x y : ι → F}

theorem joint_comm (ps : List ι) (x y : ι → F) : joint ps x y = joint ps y x := by
  unfold joint
  simp only [mul_comm]

theorem sum_map_const (ps : List ι) (c : F) : (ps.map fun _ => c).sum = ps.length * c := by
  rw [List.map_const', List.sum_replicate, nsmul_eq_mul]

/-! ### Changing the field -/

section Map

variable {G : Type v} [Field G] (f : F →+* G)

theorem map_mean (ps : List ι) (x : ι → F) :
    f (mean ps x) = mean ps fun p => f (x p) := by
  unfold mean
  rw [map_div₀, map_list_sum, List.map_map, map_natCast]
  rfl

theorem map_joint (ps : List ι) (x y : ι → F) :
    f (joint ps x y) = joint ps (fun p => f (x p)) fun p => f (y p) := by
  unfold joint
  rw [map_list_sum, List.map_map, ← map_mean, ← map_mean]
  congr 2
  funext p
  simp only [Function.comp_apply, map_mul, map_sub]

end Map

/-! ### Means and shifts -/

section CharZero

variable [CharZero F]

theorem length_mul_mean (some_ : ps ≠ []) (x : ι → F) :
    ps.length * mean ps x = (ps.map x).sum := by
  have ne : (ps.length : F) ≠ 0 := by
    rw [Nat.cast_ne_zero]
    exact mt List.length_eq_zero_iff.mp some_
  unfold mean
  field_simp

/-- The deviations from the mean cancel. -/
theorem sum_deviation (ps : List ι) (x : ι → F) :
    (ps.map fun p => x p - mean ps x).sum = 0 := by
  by_cases some_ : ps = []
  · rw [some_]
    rfl
  · have split : (ps.map fun p => x p - mean ps x).sum =
        (ps.map x).sum + ps.length * -mean ps x := by
      simp only [sub_eq_add_neg, List.sum_map_add, sum_map_const]
    rw [split, mul_neg, length_mul_mean some_, add_neg_cancel]

theorem mean_affine (some_ : ps ≠ []) (a b : F) (x : ι → F) :
    mean ps (fun p => a * x p + b) = a * mean ps x + b := by
  have ne : (ps.length : F) ≠ 0 := by
    rw [Nat.cast_ne_zero]
    exact mt List.length_eq_zero_iff.mp some_
  unfold mean
  rw [List.sum_map_add, List.sum_map_mul_left, sum_map_const]
  field_simp

/-- Shifts are not seen, factors come out. -/
theorem joint_affine (a b c d : F) (ps : List ι) (x y : ι → F) :
    joint ps (fun p => a * x p + b) (fun p => c * y p + d) = a * c * joint ps x y := by
  by_cases some_ : ps = []
  · rw [some_]
    simp [joint]
  · unfold joint
    rw [mean_affine some_, mean_affine some_, ← List.sum_map_mul_left]
    congr 2
    funext p
    ring

/-- A sum of products is the joint moment and the product of the means. -/
theorem sum_mul_eq (ps : List ι) (x y : ι → F) :
    (ps.map fun p => x p * y p).sum =
      joint ps x y + ps.length * (mean ps x * mean ps y) := by
  have split : ∀ p, x p * y p = (x p - mean ps x) * (y p - mean ps y) +
      (mean ps x * (y p - mean ps y) +
        (mean ps y * (x p - mean ps x) + mean ps x * mean ps y)) := by
    intro p
    ring
  simp only [split, List.sum_map_add, List.sum_map_mul_left, sum_deviation, sum_map_const,
    mul_zero, zero_add]
  unfold joint
  ring

end CharZero

end Field

section Order

variable [Field F] [LinearOrder F] [IsStrictOrderedRing F]

theorem joint_self_nonneg (ps : List ι) (x : ι → F) : 0 ≤ joint ps x x := by
  refine List.sum_nonneg ?_
  intro square member
  rcases List.mem_map.mp member with ⟨p, -, rfl⟩
  exact mul_self_nonneg _

/-- The inequality of Cauchy and Schwarz. -/
theorem joint_sq_le (ps : List ι) (x y : ι → F) :
    joint ps x y ^ 2 ≤ joint ps x x * joint ps y y := by
  unfold joint
  simp only [← Fin.sum_univ_fun_getElem, ← pow_two]
  exact Finset.sum_mul_sq_le_sq_mul_sq _ _ _

end Order

/-! ### Two lists of figures -/

section Lists

/-- Lists of one length are the figures of samples. -/
theorem samples_of_length {xs ys : List F} (same : xs.length = ys.length) :
    ∃ ps : List (F × F), xs = ps.map Prod.fst ∧ ys = ps.map Prod.snd :=
  ⟨xs.zip ys, (List.map_fst_zip same.le).symm, (List.map_snd_zip same.ge).symm⟩

variable [Field F]

def squares (xs : List F) : F :=
  (xs.map fun x => (x - xs.sum / xs.length) ^ 2).sum

def products (xs ys : List F) : F :=
  (List.zipWith (fun x y => (x - xs.sum / xs.length) * (y - ys.sum / ys.length)) xs ys).sum

theorem squares_map (ps : List ι) (x : ι → F) : squares (ps.map x) = joint ps x x := by
  unfold squares joint
  rw [List.map_map, List.length_map]
  congr 2
  funext p
  exact pow_two _

theorem products_map (ps : List ι) (x y : ι → F) :
    products (ps.map x) (ps.map y) = joint ps x y := by
  unfold products joint
  rw [List.zipWith_map, List.zipWith_self, List.length_map, List.length_map]
  rfl

theorem products_comm {xs ys : List F} (same : xs.length = ys.length) :
    products xs ys = products ys xs := by
  obtain ⟨ps, rfl, rfl⟩ := samples_of_length same
  rw [products_map, products_map, joint_comm]

theorem products_affine [CharZero F] {xs ys : List F} (same : xs.length = ys.length)
    (a b c d : F) :
    products (xs.map fun x => a * x + b) (ys.map fun y => c * y + d) =
      a * c * products xs ys := by
  obtain ⟨ps, rfl, rfl⟩ := samples_of_length same
  rw [List.map_map, List.map_map, products_map, products_map]
  exact joint_affine a b c d ps Prod.fst Prod.snd

theorem squares_affine [CharZero F] (xs : List F) (a b : F) :
    squares (xs.map fun x => a * x + b) = a ^ 2 * squares xs := by
  have moments := squares_map xs (fun x : F => x)
  rw [List.map_id'] at moments
  rw [squares_map, moments, pow_two]
  exact joint_affine a b a b xs (fun x => x) fun x => x

theorem products_sq_le [LinearOrder F] [IsStrictOrderedRing F] {xs ys : List F}
    (same : xs.length = ys.length) :
    products xs ys ^ 2 ≤ squares xs * squares ys := by
  obtain ⟨ps, rfl, rfl⟩ := samples_of_length same
  rw [products_map, squares_map, squares_map]
  exact joint_sq_le ps Prod.fst Prod.snd

theorem squares_nonneg [LinearOrder F] [IsStrictOrderedRing F] (xs : List F) :
    0 ≤ squares xs := by
  refine List.sum_nonneg ?_
  intro square member
  rcases List.mem_map.mp member with ⟨x, -, rfl⟩
  exact sq_nonneg _

end Lists

end Lib
