/-
Module: StingerFx.Lib.Watermark
Layer: Lib
Purpose: Values observed one after the other, with resets in between. A reset starts
  a new window at the value that is current, so the window since the last reset is
  never without it; the running maximum and the first value are those of the window,
  and what has happened since the reset is told by the windows of its observations.
Trusted boundary: none (fully proved)
Main exports: Sample, lastValue, windowSince, SinceReset
-/
import Mathlib

namespace Lib

universe u

/-- What an observer takes from an event. -/
inductive Sample (α : Type u) where
  | value (a : α)
  | reset
  | other
deriving Repr, DecidableEq

variable {α : Type u}

/-- The current value; histories have the newest event first. -/
def lastValue : List (Sample α) → Option α
  | [] => none
  | .value a :: _ => some a
  | .reset :: earlier | .other :: earlier => lastValue earlier

/-- The values since the last reset, the newest first, with the one that was current
at the reset. -/
def windowSince : List (Sample α) → List α
  | [] => []
  | .value a :: earlier => a :: windowSince earlier
  | .reset :: earlier => (lastValue earlier).toList
  | .other :: earlier => windowSince earlier

/-- At some value since the last reset, the window of that moment was as told. -/
def SinceReset (P : List α → Prop) : List (Sample α) → Prop
  | [] => False
  | .value a :: earlier => P (a :: windowSince earlier) ∨ SinceReset P earlier
  | .reset :: _ => False
  | .other :: earlier => SinceReset P earlier

/-- Without a value there is no window. -/
theorem windowSince_eq_nil {history : List (Sample α)}
    (unseen : lastValue history = none) : windowSince history = [] := by
  induction history with
  | nil => rfl
  | cons sample earlier ih =>
      cases sample with
      | value a => cases unseen
      | reset =>
          have before : lastValue earlier = none := unseen
          simp [windowSince, before]
      | other => exact ih unseen

/-- What a reset makes of a figure of the window: that of the current value alone, or,
when there is none, what it was. -/
theorem reset_figure {β : Type u} {history : List (Sample α)} {read : List α → Option β}
    {single : α → β} (empty : read [] = none) (one : ∀ a, read [a] = some (single a)) :
    read (windowSince (.reset :: history)) =
      ((lastValue history).map single <|> read (windowSince history)) := by
  cases seen : lastValue history with
  | none => simp [windowSince, seen, windowSince_eq_nil seen, empty]
  | some a => simp [windowSince, seen, one]

end Lib
