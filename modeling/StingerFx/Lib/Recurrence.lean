/-
Module: StingerFx.Lib.Recurrence
Layer: Lib
Purpose: Points that recur with a period on the line of the integers. How many of them
  lie in an interval, and how far the nearest one is from a point, are told by a
  division.
Trusted boundary: none (fully proved)
Main exports: Recurs, Recurs.card_Ioc, Recurs.card_Ioc_add, Recurs.nearest
-/
import Mathlib

namespace Lib

/-- A point that lies an offset after a multiple of the period. -/
def Recurs (period offset point : ℤ) : Prop :=
  ∃ k : ℤ, point = k * period + offset

namespace Recurs

variable {period offset point a b c : ℤ}

theorem iff_modEq : Recurs period offset point ↔ point ≡ offset [ZMOD period] := by
  rw [Int.modEq_comm, Int.modEq_iff_add_fac]
  constructor
  · rintro ⟨k, rfl⟩
    exact ⟨k, by ring⟩
  · rintro ⟨k, rfl⟩
    exact ⟨k, by ring⟩

instance : DecidablePred (Recurs period offset) := fun _ => decidable_of_iff _ iff_modEq.symm

/-! ### Counting -/

/-- The points in a half-open interval. -/
theorem card_Ioc (pos : 0 < period) :
    (((Finset.Ioc a b).filter (Recurs period offset)).card : ℤ) =
      max ((b - offset) / period - (a - offset) / period) 0 := by
  have whole : ∀ n : ℤ, ⌊((n : ℚ) - offset) / period⌋ = (n - offset) / period := by
    intro n
    obtain ⟨r, rfl⟩ := Int.eq_ofNat_of_zero_le pos.le
    have floor := Rat.floor_intCast_div_natCast (n - offset) r
    push_cast at floor ⊢
    exact floor
  have count := Int.Ioc_filter_modEq_card a b pos offset
  rw [whole, whole] at count
  rw [← count]
  simp only [iff_modEq]

/-- Intervals that meet at a point have their recurring points together. -/
theorem card_Ioc_add (first : a ≤ b) (second : b ≤ c) :
    ((Finset.Ioc a b).filter (Recurs period offset)).card +
        ((Finset.Ioc b c).filter (Recurs period offset)).card =
      ((Finset.Ioc a c).filter (Recurs period offset)).card := by
  have apart : Disjoint ((Finset.Ioc a b).filter (Recurs period offset))
      ((Finset.Ioc b c).filter (Recurs period offset)) := by
    refine Finset.disjoint_left.mpr ?_
    intro x left right
    have below := (Finset.mem_Ioc.mp (Finset.mem_filter.mp left).1).2
    have above := (Finset.mem_Ioc.mp (Finset.mem_filter.mp right).1).1
    omega
  rw [← Finset.card_union_of_disjoint apart, ← Finset.filter_union,
    Finset.Ioc_union_Ioc_eq_Ioc first second]

/-! ### The nearest point -/

/-- The recurring point of the period that holds `t`, and those of the periods beside
it, have the nearest one among them. -/
theorem nearest (low : 0 ≤ offset) (high : offset < period) (t : ℤ) :
    let base := t / period * period + offset
    IsLeast {distance | ∃ at_, Recurs period offset at_ ∧ distance = |t - at_|}
      (min |t - (base - period)| (min |t - base| |t - (base + period)|)) := by
  intro base
  have here : Recurs period offset base := ⟨t / period, rfl⟩
  have before : Recurs period offset (base - period) := ⟨t / period - 1, by ring⟩
  have after : Recurs period offset (base + period) := ⟨t / period + 1, by ring⟩
  constructor
  · rcases min_choice |t - (base - period)| (min |t - base| |t - (base + period)|) with
      first | rest
    · exact ⟨_, before, first⟩
    · rcases min_choice |t - base| |t - (base + period)| with second | third
      · exact ⟨_, here, rest.trans second⟩
      · exact ⟨_, after, rest.trans third⟩
  · rintro distance ⟨at_, ⟨k, rfl⟩, rfl⟩
    have inside : 0 ≤ t - t / period * period ∧ t - t / period * period < period := by
      have split := Int.emod_add_mul_ediv t period
      have range := Int.emod_nonneg t (by omega : period ≠ 0)
      have bound := Int.emod_lt_of_pos t (by omega : 0 < period)
      constructor
      · linarith
      · linarith
    -- a point of a period further away is not nearer than the one on the same side
    rcases lt_trichotomy k (t / period) with earlier | same | later
    · have gap : k * period ≤ t / period * period - period := by nlinarith
      refine (min_le_left _ _).trans (abs_le_abs_of_nonneg ?_ ?_)
      · simp only [base]
        linarith
      · simp only [base]
        linarith
    · rw [same]
      exact (min_le_right _ _).trans (min_le_left _ _)
    · have gap : t / period * period + period ≤ k * period := by nlinarith
      refine (min_le_right _ _).trans ((min_le_right _ _).trans ?_)
      rw [abs_sub_comm t, abs_sub_comm t]
      refine abs_le_abs_of_nonneg ?_ ?_
      · simp only [base]
        linarith
      · simp only [base]
        linarith

end Recurs

end Lib
