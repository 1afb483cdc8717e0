/-
Module: StingerFx.Lib.NonInterference
Layer: Lib
Purpose: Two-run independence of a machine from hidden inputs. When a relation
  between states absorbs every hidden input on its left side and every visible
  input keeps it and is observed alike on both sides, two runs with the same
  visible inputs give the same observations.
Trusted boundary: none (fully proved)
Main exports: observations, Unwinds, Unwinds.observations_eq
-/
import Mathlib

namespace Lib

universe u v w

variable {S : Type u} {I : Type v} {O : Type w}

/-- What a machine shows along a list of inputs. -/
def observations (next : S → I → S) (observe : S → I → List O) :
    S → List I → List O
  | _, [] => []
  | s, input :: inputs =>
      observe s input ++ observations next observe (next s input) inputs

/-- An unwinding relation for a class of hidden inputs. -/
structure Unwinds (next : S → I → S) (observe : S → I → List O)
    (hidden : I → Bool) (R : S → S → Prop) : Prop where
  absorbs : ∀ {s t input}, hidden input = true → R s t → R (next s input) t
  unseen : ∀ {s input}, hidden input = true → observe s input = []
  keeps : ∀ {s t input}, hidden input = false → R s t →
    R (next s input) (next t input)
  agrees : ∀ {s t input}, hidden input = false → R s t →
    observe s input = observe t input

namespace Unwinds

variable {next : S → I → S} {observe : S → I → List O} {hidden : I → Bool}
  {R : S → S → Prop}

/-- A run shows what the run on its visible inputs alone shows. -/
theorem observations_filter (unwinds : Unwinds next observe hidden R)
    {s t : S} (related : R s t) (inputs : List I) :
    observations next observe s inputs =
      observations next observe t (inputs.filter fun i => !hidden i) := by
  induction inputs generalizing s t with
  | nil => rfl
  | cons input inputs ih =>
      cases secret : hidden input with
      | true =>
          simp only [observations, secret, List.filter_cons, Bool.not_true,
            unwinds.unseen secret, List.nil_append]
          exact ih (unwinds.absorbs secret related)
      | false =>
          simp only [observations, secret, List.filter_cons, Bool.not_false,
            if_true]
          rw [unwinds.agrees secret related, ih (unwinds.keeps secret related)]

/-- Runs with the same visible inputs show the same. -/
theorem observations_eq (unwinds : Unwinds next observe hidden R)
    {s : S} (start : R s s) {left right : List I}
    (same : left.filter (fun i => !hidden i) =
      right.filter (fun i => !hidden i)) :
    observations next observe s left = observations next observe s right := by
  rw [unwinds.observations_filter start left, same,
    ← unwinds.observations_filter start right]

end Unwinds

end Lib
