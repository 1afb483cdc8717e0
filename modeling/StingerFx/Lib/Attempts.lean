/-
Module: StingerFx.Lib.Attempts
Layer: Lib
Purpose: Work that may stop on the way. For work on a state, which stops with the
  state that it has reached, what holds where it is done and what holds where it
  stopped are two conditions. For a computation that must not raise, total correctness:
  it returns, and what it returns has a property. One rule puts a piece of work behind
  another.
Trusted boundary: none (fully proved)
Main exports: Ends, Ends.bind, Ends.imp, Ends.halt, Ends.both, Ends.all, Returns,
  Returns.pure, Returns.bind, Returns.map, Returns.mono, Returns.of_eq, Returns.foldlM
-/
import Mathlib

namespace Lib

universe u

/-! ### Work that stops with its state -/

section Stopping

variable {S : Type u} {done done' between stopped stopped' : S → Prop}

/-- Where the work is done one condition holds, where it has stopped another. -/
def Ends (done stopped : S → Prop) : Except S S → Prop
  | .ok s => done s
  | .error s => stopped s

namespace Ends

theorem imp {attempt : Except S S} (ends : Ends done stopped attempt)
    (good : ∀ s, done s → done' s) (bad : ∀ s, stopped s → stopped' s) :
    Ends done' stopped' attempt := by
  cases attempt with
  | ok s => exact good s ends
  | error s => exact bad s ends

/-- One piece of work behind another. -/
theorem bind {attempt : Except S S} {next : S → Except S S}
    (first : Ends between stopped attempt)
    (then_ : ∀ s, between s → Ends done stopped (next s)) :
    Ends done stopped (attempt >>= next) := by
  cases attempt with
  | ok s => exact then_ s first
  | error s => exact first

/-- Work that is done may still stop where it is. -/
theorem halt {c : Prop} [Decidable c] {s : S} (good : done s) (bad : stopped s) :
    Ends done stopped (if c then .error s else .ok s) := by
  split
  · exact bad
  · exact good

theorem both {attempt : Except S S} (one : Ends done stopped attempt)
    (two : Ends done' stopped' attempt) :
    Ends (fun s => done s ∧ done' s) (fun s => stopped s ∧ stopped' s) attempt := by
  cases attempt with
  | ok s => exact ⟨one, two⟩
  | error s => exact ⟨one, two⟩

theorem all {ι : Type u} {good bad : ι → S → Prop} {attempt : Except S S}
    (each : ∀ i, Ends (good i) (bad i) attempt) :
    Ends (fun s => ∀ i, good i s) (fun s => ∀ i, bad i s) attempt := by
  cases attempt with
  | ok s => exact each
  | error s => exact each

end Ends

end Stopping

/-! ### Computations that return -/

section Raising

variable {ε α β : Type} {P : α → Prop} {Q : β → Prop}

/-- The computation raises nothing and its result has the property. -/
def Returns (x : Except ε α) (P : α → Prop) : Prop := ∃ a, x = .ok a ∧ P a

namespace Returns

theorem of_eq {x : Except ε α} {a : α} (same : x = .ok a) (holds : P a) :
    Returns x P :=
  ⟨a, same, holds⟩

theorem pure {a : α} (holds : P a) : Returns (.ok a : Except ε α) P :=
  of_eq rfl holds

theorem mono {x : Except ε α} {P' : α → Prop} (returns : Returns x P)
    (weaker : ∀ a, P a → P' a) : Returns x P' := by
  obtain ⟨a, same, holds⟩ := returns
  exact ⟨a, same, weaker a holds⟩

theorem bind {x : Except ε α} {f : α → Except ε β} (first : Returns x P)
    (second : ∀ a, P a → Returns (f a) Q) : Returns (x >>= f) Q := by
  obtain ⟨a, rfl, holds⟩ := first
  exact second a holds

theorem map {x : Except ε α} {f : α → β} (returns : Returns x P)
    (image : ∀ a, P a → Q (f a)) : Returns (x.map f) Q := by
  obtain ⟨a, rfl, holds⟩ := returns
  exact ⟨f a, rfl, image a holds⟩

/-- What every step keeps, the loop keeps. -/
theorem foldlM {f : β → α → Except ε β} {items : List α} {start : β}
    (init : Q start)
    (step : ∀ state, ∀ item ∈ items, Q state → Returns (f state item) Q) :
    Returns (items.foldlM f start) Q := by
  induction items generalizing start with
  | nil => exact pure init
  | cons item rest ih =>
      rw [List.foldlM_cons]
      apply bind (step start item List.mem_cons_self init)
      intro next holds
      apply ih holds
      exact fun state other member =>
        step state other (List.mem_cons_of_mem item member)

end Returns

end Raising

end Lib
