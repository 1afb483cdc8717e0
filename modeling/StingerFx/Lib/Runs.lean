/-
Module: StingerFx.Lib.Runs
Layer: Lib
Purpose: Finite runs of a labelled transition system. A run records the labels
  of its steps in order; a guard restricts the runs to those whose steps all meet
  a condition on the state before the step. One induction gives every invariant
  of a reachable state.
Trusted boundary: none (fully proved)
Main exports: Run, Guarded, Run.invariant, Run.trans, foldRun, stepOf?, replay?,
  run_of_replay?
-/
import Mathlib

namespace Lib

universe u v

variable {S : Type u} {L : Type v}

/-- Finite runs, labels in the order of the steps. -/
inductive Run (step : S → L → S → Prop) : S → List L → S → Prop where
  | refl (s : S) : Run step s [] s
  | step {first middle last : S} {label : L} {labels : List L}
      (head : step first label middle) (tail : Run step middle labels last) :
      Run step first (label :: labels) last

/-- The steps of a system that meet a condition on their starting state. -/
def Guarded (guard : S → L → Prop) (step : S → L → S → Prop) :
    S → L → S → Prop :=
  fun s label s' => guard s label ∧ step s label s'

namespace Run

variable {step : S → L → S → Prop}

/-- A property that holds at the start and survives every step holds at the end
of every run. -/
theorem invariant {P : S → Prop} {first last : S} {labels : List L}
    (run : Run step first labels last) (start : P first)
    (keeps : ∀ {s label s'}, step s label s' → P s → P s') : P last := by
  induction run with
  | refl => exact start
  | step head tail ih => exact ih (keeps head start)

theorem single {s s' : S} {label : L} (head : step s label s') :
    Run step s [label] s' :=
  .step head (.refl s')

theorem trans {first middle last : S} {left right : List L}
    (one : Run step first left middle) (two : Run step middle right last) :
    Run step first (left ++ right) last := by
  induction one with
  | refl => exact two
  | step head tail ih => exact .step head (ih two)

/-- Runs of a smaller system are runs of a larger one. -/
theorem mono {other : S → L → S → Prop} {first last : S} {labels : List L}
    (run : Run step first labels last)
    (embeds : ∀ {s label s'}, step s label s' → other s label s') :
    Run other first labels last := by
  induction run with
  | refl s => exact .refl s
  | step head tail ih => exact .step (embeds head) ih

/-- Forgetting the guard. -/
theorem unguard {guard : S → L → Prop} {first last : S} {labels : List L}
    (run : Run (Guarded guard step) first labels last) :
    Run step first labels last :=
  run.mono fun guarded => guarded.2

end Run

/-! ### Runs of a function -/

/-- The step relation of a total transition function. -/
def stepOf (next : S → L → S) : S → L → S → Prop :=
  fun s label s' => s' = next s label

/-- A fold over the labels is a run of the function's step relation. -/
theorem foldRun (next : S → L → S) (first : S) (labels : List L) :
    Run (stepOf next) first labels (labels.foldl next first) := by
  induction labels generalizing first with
  | nil => exact .refl first
  | cons label labels ih => exact .step rfl (ih (next first label))

/-! ### Runs of a partial function -/

/-- The step relation of a transition function that may refuse a label. -/
def stepOf? (next : S → L → Option S) : S → L → S → Prop :=
  fun s label s' => next s label = some s'

/-- Take some steps one after the other, each under a condition on the state
before it. -/
def replay? (guard : S → L → Prop) [∀ s label, Decidable (guard s label)]
    (next : S → L → Option S) : S → List L → Option S
  | s, [] => some s
  | s, label :: labels =>
      if guard s label then
        match next s label with
        | none => none
        | some s' => replay? guard next s' labels
      else none

/-- A replay that goes through is a guarded run. -/
theorem run_of_replay? {guard : S → L → Prop}
    [∀ s label, Decidable (guard s label)] {next : S → L → Option S}
    {first last : S} {labels : List L}
    (reached : replay? guard next first labels = some last) :
    Run (Guarded guard (stepOf? next)) first labels last := by
  induction labels generalizing first with
  | nil =>
      cases reached
      exact .refl _
  | cons label labels ih =>
      simp only [replay?] at reached
      split at reached
      · rename_i allowed
        split at reached
        · cases reached
        · rename_i middle taken
          exact .step ⟨allowed, taken⟩ (ih reached)
      · cases reached

end Lib
