/-
Module: StingerFx.Lib.Domination
Layer: Lib
Purpose: Items compared on several axes. One dominates another if it is at least as good
  on every axis and better on one, which is the strict order of their profiles. Among
  finitely many items, what is dominated is dominated by one that is not.
Trusted boundary: none (fully proved)
Main exports: profile, Dominates, dominates_iff, Undominated, exists_dominating,
  exists_undominated, dominates_perm, undominated_perm
-/
import Mathlib

namespace Lib

universe u v w

section Axes

variable {ι : Type u} {α : Type v} {L : Type w} [LinearOrder L] (worth : ι → α → L)
  (axes : List ι)

/-- The worth of an item on each axis. -/
def profile (item : α) : {axis // axis ∈ axes} → L := fun axis => worth axis item

/-- At least as good on every axis and better on one. -/
def Dominates (a b : α) : Prop := profile worth axes b < profile worth axes a

variable {worth axes}

theorem profile_le_iff {a b : α} :
    profile worth axes b ≤ profile worth axes a ↔
      ∀ axis ∈ axes, worth axis b ≤ worth axis a :=
  ⟨fun le axis member => le ⟨axis, member⟩, fun le axis => le axis axis.2⟩

theorem dominates_iff {a b : α} :
    Dominates worth axes a b ↔
      (∀ axis ∈ axes, worth axis b ≤ worth axis a) ∧
        ∃ axis ∈ axes, worth axis b < worth axis a := by
  rw [Dominates, Pi.lt_def, profile_le_iff]
  refine and_congr_right fun _ => ?_
  exact ⟨fun ⟨axis, less⟩ => ⟨axis, axis.2, less⟩,
    fun ⟨axis, member, less⟩ => ⟨⟨axis, member⟩, less⟩⟩

theorem Dominates.irrefl (a : α) : ¬Dominates worth axes a a := lt_irrefl _

theorem Dominates.trans {a b c : α} (first : Dominates worth axes a b)
    (second : Dominates worth axes b c) : Dominates worth axes a c :=
  lt_trans second first

/-- The order of the axes does not matter. -/
theorem dominates_perm {others : List ι} (same : others.Perm axes) (a b : α) :
    Dominates worth others a b ↔ Dominates worth axes a b := by
  simp only [dominates_iff, same.mem_iff]

end Axes

section Items

variable {ι : Type u} {α : Type v} {L : Type w} [LinearOrder L] {worth : ι → α → L}
  {axes : List ι} {items : List α}

/-- Dominated by none of some items. -/
def Undominated (worth : ι → α → L) (axes : List ι) (items : List α) (item : α) : Prop :=
  ∀ other ∈ items, ¬Dominates worth axes other item

theorem undominated_perm {others : List α} {axes' : List ι} (same : others.Perm items)
    (alike : axes'.Perm axes) (item : α) :
    Undominated worth axes' others item ↔ Undominated worth axes items item := by
  simp only [Undominated, same.mem_iff, dominates_perm alike]

/-- Above every item there is one that is not dominated. -/
theorem exists_undominated_ge (worth : ι → α → L) (axes : List ι) {item : α} (member : item ∈ items) :
    ∃ top ∈ items, Undominated worth axes items top ∧
      profile worth axes item ≤ profile worth axes top := by
  let above : Set α := {other | other ∈ items ∧ profile worth axes item ≤ profile worth axes other}
  have finite : above.Finite := items.finite_toSet.subset fun _ held => held.1
  obtain ⟨top, isAbove, greatest⟩ :=
    finite.exists_maximalFor (profile worth axes) above ⟨item, member, le_rfl⟩
  refine ⟨top, isAbove.1, fun other isOther better => ?_, isAbove.2⟩
  have reached := greatest ⟨isOther, isAbove.2.trans (le_of_lt better)⟩ (le_of_lt better)
  exact absurd reached (not_le_of_gt better)

/-- Among some items one is not dominated. -/
theorem exists_undominated (worth : ι → α → L) (axes : List ι) (some : items ≠ []) :
    ∃ item ∈ items, Undominated worth axes items item := by
  obtain ⟨item, member⟩ := List.exists_mem_of_ne_nil items some
  obtain ⟨top, isItem, undominated, -⟩ := exists_undominated_ge worth axes member
  exact ⟨top, isItem, undominated⟩

/-- What is dominated is dominated by an item that is not. -/
theorem exists_dominating {item : α} (dominated : ¬Undominated worth axes items item) :
    ∃ top ∈ items, Undominated worth axes items top ∧ Dominates worth axes top item := by
  simp only [Undominated, not_forall, not_not] at dominated
  obtain ⟨other, isOther, better⟩ := dominated
  obtain ⟨top, isItem, undominated, least⟩ := exists_undominated_ge worth axes isOther
  exact ⟨top, isItem, undominated, lt_of_lt_of_le better least⟩

end Items

end Lib
