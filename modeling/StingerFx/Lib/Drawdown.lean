/-
Module: StingerFx.Lib.Drawdown
Layer: Lib
Purpose: Drawdowns of a series. One pass that keeps the peak so far finds the greatest of
  all drops from a peak to a later value, whatever a drop is measured in.
Trusted boundary: none (fully proved)
Main exports: worstDrop, IsPeak, Drops, WorstDrop, worstDrop_spec, WorstDrop.unique
-/
import Mathlib.Order.Bounds.Basic
import Mathlib.Order.MinMax

namespace Lib

universe u v

variable {V : Type u} {W : Type v} [LinearOrder V]

/-- Keep the peak so far and the worst drop from it. -/
def worstDrop [LinearOrder W] (drop : V → V → Option W) (peak : V) (worst : W) : List V → W
  | [] => worst
  | value :: rest =>
      let peak := if peak < value then value else peak
      let worst :=
        match drop peak value with
        | none => worst
        | some loss => if worst < loss then loss else worst
      worstDrop drop peak worst rest

/-- The highest of a starting value and the values after it. -/
def IsPeak (start : V) (values : List V) (peak : V) : Prop :=
  IsGreatest {value | value = start ∨ value ∈ values} peak

/-- Some value of a series lies this much below the peak that it has behind it. -/
def Drops (drop : V → V → Option W) (start : V) (values : List V) (loss : W) : Prop :=
  ∃ before value after peak, values = before ++ value :: after ∧
    IsPeak start (before ++ [value]) peak ∧ drop peak value = some loss

/-- The greatest drop of a series, at least a given one. -/
def WorstDrop [LinearOrder W] (drop : V → V → Option W) (start : V) (least : W)
    (values : List V) (worst : W) : Prop :=
  IsGreatest {loss | loss = least ∨ Drops drop start values loss} worst

theorem WorstDrop.unique [LinearOrder W] {drop : V → V → Option W} {start : V} {least one two : W}
    {values : List V} (first : WorstDrop drop start least values one)
    (second : WorstDrop drop start least values two) : one = two :=
  IsGreatest.unique first second

theorem IsPeak.unique {start one two : V} {values : List V} (first : IsPeak start values one)
    (second : IsPeak start values two) : one = two :=
  IsGreatest.unique first second

/-- A peak can be carried along the series. -/
theorem isPeak_cons {start value peak : V} {values : List V} :
    IsPeak start (value :: values) peak ↔ IsPeak (max start value) values peak := by
  constructor
  · rintro ⟨reached, above⟩
    have low : max start value ≤ peak :=
      max_le (above (.inl rfl)) (above (.inr List.mem_cons_self))
    refine ⟨?_, ?_⟩
    · rcases reached with rfl | inside
      · exact .inl (le_antisymm (le_max_left _ _) low)
      · rcases List.mem_cons.mp inside with rfl | later
        · exact .inl (le_antisymm (le_max_right _ _) low)
        · exact .inr later
    · rintro other (rfl | later)
      · exact low
      · exact above (.inr (List.mem_cons_of_mem _ later))
  · rintro ⟨reached, above⟩
    have low : max start value ≤ peak := above (.inl rfl)
    refine ⟨?_, ?_⟩
    · rcases reached with same | later
      · rcases max_choice start value with left | right
        · exact .inl (same.trans left)
        · exact .inr (List.mem_cons.mpr (.inl (same.trans right)))
      · exact .inr (List.mem_cons_of_mem _ later)
    · rintro other (rfl | inside)
      · exact (le_max_left _ _).trans low
      · rcases List.mem_cons.mp inside with rfl | later
        · exact (le_max_right _ _).trans low
        · exact above (.inr later)

theorem isPeak_nil {start peak : V} : IsPeak start [] peak ↔ peak = start := by
  constructor
  · rintro ⟨reached, -⟩
    exact reached.resolve_right List.not_mem_nil
  · rintro rfl
    exact ⟨.inl rfl, fun _ inside => (inside.resolve_right List.not_mem_nil).le⟩

theorem drops_nil {drop : V → V → Option W} {start : V} {loss : W} :
    ¬ Drops drop start [] loss := by
  rintro ⟨before, value, after, peak, parts, -⟩
  exact absurd parts (by simp)

/-- The drops of a series: the one of its first value, and those that follow with the
peak raised to it. -/
theorem drops_cons {drop : V → V → Option W} {start value : V} {rest : List V} {loss : W} :
    Drops drop start (value :: rest) loss ↔
      drop (max start value) value = some loss ∨ Drops drop (max start value) rest loss := by
  constructor
  · rintro ⟨before, here, after, peak, parts, isPeak, dropped⟩
    cases before with
    | nil =>
        obtain ⟨rfl, rfl⟩ := List.cons.inj parts
        have same : peak = max start value := isPeak_nil.mp (isPeak_cons.mp isPeak)
        exact .inl (same ▸ dropped)
    | cons first before =>
        obtain ⟨rfl, rfl⟩ := List.cons.inj parts
        exact .inr ⟨before, here, after, peak, rfl, isPeak_cons.mp isPeak, dropped⟩
  · rintro (dropped | ⟨before, here, after, peak, rfl, isPeak, dropped⟩)
    · exact ⟨[], value, rest, _, rfl, isPeak_cons.mpr (isPeak_nil.mpr rfl), dropped⟩
    · exact ⟨value :: before, here, after, peak, rfl, isPeak_cons.mpr isPeak, dropped⟩

/-- The pass finds the greatest drop. -/
theorem worstDrop_spec [LinearOrder W] (drop : V → V → Option W) (peak : V) (worst : W)
    (values : List V) :
    WorstDrop drop peak worst values (worstDrop drop peak worst values) := by
  induction values generalizing peak worst with
  | nil => exact ⟨.inl rfl, fun _ inside => (inside.resolve_right drops_nil).le⟩
  | cons value rest ih =>
      have raised : (if peak < value then value else peak) = max peak value := by
        rw [max_def_lt]
      rw [worstDrop]
      simp only [raised]
      cases dropped : drop (max peak value) value with
      | none =>
          have same : {loss | loss = worst ∨ Drops drop peak (value :: rest) loss} =
              {loss | loss = worst ∨ Drops drop (max peak value) rest loss} := by
            ext loss
            simp [drops_cons, dropped]
          rw [WorstDrop, same]
          exact ih _ _
      | some here =>
          have kept : (if worst < here then here else worst) = max worst here := by
            rw [max_def_lt]
          dsimp only
          rw [kept]
          obtain ⟨reached, above⟩ := ih (max peak value) (max worst here)
          have low : max worst here ≤
              worstDrop drop (max peak value) (max worst here) rest := above (.inl rfl)
          refine ⟨?_, ?_⟩
          · rcases reached with same | later
            · rw [same]
              rcases max_choice worst here with left | right
              · exact .inl left
              · exact .inr (drops_cons.mpr (.inl (dropped.trans (congrArg some right.symm))))
            · exact .inr (drops_cons.mpr (.inr later))
          · rintro loss (rfl | inside)
            · exact (le_max_left _ _).trans low
            · rcases drops_cons.mp inside with first | later
              · have same : here = loss := Option.some.inj (dropped.symm.trans first)
                exact same ▸ (le_max_right _ _).trans low
              · exact above (.inr later)

end Lib
