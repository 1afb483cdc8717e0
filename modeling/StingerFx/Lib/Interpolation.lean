/-
Module: StingerFx.Lib.Interpolation
Layer: Lib
Purpose: Linear interpolation between the terms of a sequence. Between two terms it
  stays between them, so for a sequence that does not fall it does not fall either; and
  a shift of the terms is a shift of the values.
Trusted boundary: none (fully proved)
Main exports: interpolate, interpolate_natCast, le_interpolate, interpolate_le,
  interpolate_mono, interpolate_add
-/
import Mathlib

namespace Lib

universe u

variable {F : Type u} [Field F] [LinearOrder F] [FloorSemiring F]

/-- The value at a rank between two terms. -/
def interpolate (s : ℕ → F) (rank : F) : F :=
  s ⌊rank⌋₊ * (1 - (rank - ⌊rank⌋₊)) + s (⌊rank⌋₊ + 1) * (rank - ⌊rank⌋₊)

variable {s : ℕ → F} {rank other : F}

/-- From the lower term on. -/
theorem interpolate_eq (s : ℕ → F) (rank : F) :
    interpolate s rank =
      s ⌊rank⌋₊ + (s (⌊rank⌋₊ + 1) - s ⌊rank⌋₊) * (rank - ⌊rank⌋₊) := by
  unfold interpolate
  ring

theorem interpolate_add (s : ℕ → F) (c rank : F) :
    interpolate (fun i => s i + c) rank = interpolate s rank + c := by
  unfold interpolate
  ring

variable [IsStrictOrderedRing F]

@[simp] theorem interpolate_natCast (s : ℕ → F) (n : ℕ) : interpolate s n = s n := by
  simp [interpolate]

/-- The part of a step that is done. -/
theorem frac_mem (nonneg : 0 ≤ rank) :
    0 ≤ rank - ⌊rank⌋₊ ∧ rank - ⌊rank⌋₊ < 1 := by
  have low := Nat.floor_le nonneg
  have high := Nat.lt_floor_add_one rank
  constructor
  · linarith
  · linarith

theorem le_interpolate (rises : Monotone s) (nonneg : 0 ≤ rank) :
    s ⌊rank⌋₊ ≤ interpolate s rank := by
  have step : 0 ≤ s (⌊rank⌋₊ + 1) - s ⌊rank⌋₊ := sub_nonneg.mpr (rises (Nat.le_succ _))
  rw [interpolate_eq]
  exact le_add_of_nonneg_right (mul_nonneg step (frac_mem nonneg).1)

theorem interpolate_le (rises : Monotone s) (nonneg : 0 ≤ rank) :
    interpolate s rank ≤ s (⌊rank⌋₊ + 1) := by
  have step : 0 ≤ s (⌊rank⌋₊ + 1) - s ⌊rank⌋₊ := sub_nonneg.mpr (rises (Nat.le_succ _))
  have part := mul_le_of_le_one_right step (frac_mem nonneg).2.le
  rw [interpolate_eq]
  linarith

/-- A later rank has no smaller value. -/
theorem interpolate_mono (rises : Monotone s) (nonneg : 0 ≤ rank) (order : rank ≤ other) :
    interpolate s rank ≤ interpolate s other := by
  rcases (Nat.floor_mono order).eq_or_lt with same | earlier
  -- within one step the value grows with the rank
  · have step : 0 ≤ s (⌊rank⌋₊ + 1) - s ⌊rank⌋₊ := sub_nonneg.mpr (rises (Nat.le_succ _))
    rw [interpolate_eq, interpolate_eq, ← same]
    have part := mul_le_mul_of_nonneg_left (sub_le_sub_right order (⌊rank⌋₊ : F)) step
    linarith
  -- else there is a term in between
  · calc interpolate s rank ≤ s (⌊rank⌋₊ + 1) := interpolate_le rises nonneg
      _ ≤ s ⌊other⌋₊ := rises earlier
      _ ≤ interpolate s other := le_interpolate rises (nonneg.trans order)

end Lib
