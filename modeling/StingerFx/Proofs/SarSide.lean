/-
Module: StingerFx.Proofs.SarSide
Layer: Proofs
Purpose: The side of the parabolic stop-and-reverse. As long as the trend goes on the
  value stays behind the last bar; a bar that ends the trend puts the value at the
  old extreme, which is on the right side unless that bar reaches beyond it.
Trusted boundary: none (fully proved)
Main exports: PsarResult.RightSide, OutsideFlip, sarStep_rightSide_iff,
  psar_right_side_iff
-/
import StingerFx.Strategies.Indicators.Psar

namespace StingerFx

/-- Below the bar in an up-trend, above it in a down-trend. -/
def PsarResult.RightSide (result : PsarResult) (bar : Bar) : Prop :=
  match result.trend with
  | .up => result.value ≤ bar.low
  | .down => bar.high ≤ result.value

/-- The bar crosses the value and so ends the trend. -/
def Flips (twoPrev prev curr : Bar) (s : SarState) : Prop :=
  match s.trend with
  | .up => curr.low < tentativeSar s twoPrev prev
  | .down => tentativeSar s twoPrev prev < curr.high

instance (twoPrev prev curr : Bar) :
    (s : SarState) → Decidable (Flips twoPrev prev curr s)
  | ⟨.up, _, _, _⟩ => inferInstanceAs (Decidable (_ < _))
  | ⟨.down, _, _, _⟩ => inferInstanceAs (Decidable (_ < _))

/-- The bar reaches beyond the extreme point of the trend. -/
def ExceedsExtreme (curr : Bar) (s : SarState) : Prop :=
  match s.trend with
  | .up => s.ep < curr.high
  | .down => curr.low < s.ep

/-- A bar that ends the trend although it reaches beyond its extreme point. -/
def OutsideFlip (twoPrev prev curr : Bar) (s : SarState) : Prop :=
  Flips twoPrev prev curr s ∧ ExceedsExtreme curr s

/-- The step lemma: what one bar makes of any state. -/
theorem sarStep_rightSide_iff (p : SarParams) (twoPrev prev curr : Bar)
    (s : SarState) :
    let after := sarStep p twoPrev prev curr s
    PsarResult.RightSide ⟨after.sar, after.trend⟩ curr ↔
      ¬OutsideFlip twoPrev prev curr s := by
  intro after
  cases direction : s.trend with
  | up =>
      simp only [OutsideFlip, Flips, ExceedsExtreme, direction]
      by_cases flips : curr.low < tentativeSar s twoPrev prev
      · have flipped : after = ⟨.down, s.ep, curr.low, p.afStart⟩ := by
          simp only [after, sarStep, direction, if_pos flips]
        rw [flipped]
        simp only [PsarResult.RightSide, flips, true_and, not_lt]
      · have goesOn : after.trend = .up ∧
            after.sar = tentativeSar s twoPrev prev := by
          simp only [after, sarStep, direction, if_neg flips]
          split <;> exact ⟨rfl, rfl⟩
        simp only [PsarResult.RightSide, goesOn, flips, false_and, not_false_eq_true,
          iff_true]
        exact not_lt.mp flips
  | down =>
      simp only [OutsideFlip, Flips, ExceedsExtreme, direction]
      by_cases flips : tentativeSar s twoPrev prev < curr.high
      · have flipped : after = ⟨.up, s.ep, curr.high, p.afStart⟩ := by
          simp only [after, sarStep, direction, if_pos flips]
        rw [flipped]
        simp only [PsarResult.RightSide, flips, true_and, not_lt]
      · have goesOn : after.trend = .down ∧
            after.sar = tentativeSar s twoPrev prev := by
          simp only [after, sarStep, direction, if_neg flips]
          split <;> exact ⟨rfl, rfl⟩
        simp only [PsarResult.RightSide, goesOn, flips, false_and, not_false_eq_true,
          iff_true]
        exact not_lt.mp flips

/-! ### Whole sequences of bars -/

section Sequences

variable (p : SarParams) (twoPrev prev curr : Bar)

/-- The last bar is taken last, with the two bars in front of it. -/
theorem sarLoop_append (middle : List Bar) :
    ∀ (first second : Bar) (s : SarState),
      sarLoop p first second (middle ++ [twoPrev, prev, curr]) s =
        sarStep p twoPrev prev curr
          (sarLoop p first second (middle ++ [twoPrev, prev]) s) := by
  induction middle with
  | nil => exact fun _ _ _ => rfl
  | cons bar middle ih => exact fun _ second s => ih second bar _

theorem sarState_append (earlier : List Bar) :
    ∃ s, sarState p (earlier ++ [twoPrev, prev]) = some s ∧
      sarState p (earlier ++ [twoPrev, prev, curr]) =
        some (sarStep p twoPrev prev curr s) := by
  match earlier with
  | [] => exact ⟨_, rfl, rfl⟩
  | [first] => exact ⟨_, rfl, rfl⟩
  | first :: second :: middle =>
      refine ⟨_, rfl, congrArg some ?_⟩
      exact sarLoop_append p twoPrev prev curr (second :: middle) first first _

end Sequences

/-- For every sequence of at least three bars, the value is on the right side of the
last one if and only if that bar does not end the trend while it reaches beyond the
extreme point. -/
theorem psar_right_side_iff (p : SarParams) (accepted : p.check = .ok ())
    (earlier : List Bar) (twoPrev prev curr : Bar) :
    ∃ s result, sarState p (earlier ++ [twoPrev, prev]) = some s ∧
      psar (earlier ++ [twoPrev, prev, curr]) p = .ok (some result) ∧
      (result.RightSide curr ↔ ¬OutsideFlip twoPrev prev curr s) := by
  obtain ⟨s, before, after⟩ := sarState_append p twoPrev prev curr earlier
  refine ⟨s, _, before, ?_, sarStep_rightSide_iff p twoPrev prev curr s⟩
  have enough : ¬(earlier ++ [twoPrev, prev, curr]).length < 3 := by
    rw [List.length_append]
    exact not_lt.mpr (Nat.le_add_left 3 _)
  simp only [psar, accepted, if_neg enough, after, Option.map_some]

/-- A bar of euro against dollar. -/
def sarBar (low high close : ℚ) (low_pos : 0 < low) (low_le : low ≤ close)
    (le_high : close ≤ high) : Bar where
  symbol := "EURUSD"
  timeframe := .h1
  time := 0
  openPrice := close
  high := high
  low := low
  close := close
  tickVolume := 1
  low_pos := low_pos
  low_le_open := low_le
  open_le_high := le_high
  low_le_close := low_le
  close_le_high := le_high

def sarBars : List Bar :=
  [sarBar 10 12 11 (by decide) (by decide) (by decide),
    sarBar 11 13 12 (by decide) (by decide) (by decide)]

def outsideBar : Bar := sarBar 9 14 10 (by decide) (by decide) (by decide)

/-- In a steady rise the value is below the last bar. -/
theorem psar_right_side_iff_rise :
    ∃ result, psar (sarBars ++
        [sarBar 12 14 13 (by decide) (by decide) (by decide)]) .default =
      .ok (some result) ∧ result.RightSide
        (sarBar 12 14 13 (by decide) (by decide) (by decide)) := by
  obtain ⟨s, result, before, made, side⟩ := psar_right_side_iff .default (by decide +kernel) []
    (sarBar 10 12 11 (by decide) (by decide) (by decide))
    (sarBar 11 13 12 (by decide) (by decide) (by decide))
    (sarBar 12 14 13 (by decide) (by decide) (by decide))
  refine ⟨result, made, side.mpr ?_⟩
  cases before
  rintro ⟨flips, -⟩
  exact absurd flips (by decide +kernel)

/-- The outside bar ends the up-trend: the value is the old extreme 13, under its
high of 14. -/
theorem psar_below_outside_bar :
    psar (sarBars ++ [outsideBar]) .default = .ok (some ⟨13, .down⟩) ∧
      ¬PsarResult.RightSide ⟨13, .down⟩ outsideBar := by
  constructor
  · decide +kernel
  · intro above
    exact absurd (show (14 : ℚ) ≤ 13 from above) (by norm_num)

end StingerFx
