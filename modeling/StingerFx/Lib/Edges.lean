/-
Module: StingerFx.Lib.Edges
Layer: Lib
Purpose: Alarms with hysteresis over a list of verdicts: a bad verdict carries what
  there is to tell. The risings are the bad verdicts that come first or behind a good
  one; there is at most one more of them than there are good verdicts, in every stretch
  of the list.
Trusted boundary: none (fully proved)
Main exports: risingsFrom, risings, raised, risingsFrom_append, risings_concat,
  length_risingsFrom_le, mem_of_mem_risingsFrom
-/
import Mathlib

namespace Lib

universe u

variable {α : Type u}

/-- The bad verdicts that follow a good one, given whether the one before was bad. -/
def risingsFrom : Bool → List (Option α) → List α
  | _, [] => []
  | _, none :: rest => risingsFrom false rest
  | true, some _ :: rest => risingsFrom true rest
  | false, some a :: rest => a :: risingsFrom true rest

def risings (verdicts : List (Option α)) : List α := risingsFrom false verdicts

/-- The last verdict is bad, given whether the one before the list was. -/
def raisedFrom (before : Bool) (verdicts : List (Option α)) : Bool :=
  (verdicts.getLast?.map Option.isSome).getD before

def raised (verdicts : List (Option α)) : Bool := raisedFrom false verdicts

theorem raisedFrom_cons (before : Bool) (verdict : Option α)
    (rest : List (Option α)) :
    raisedFrom before (verdict :: rest) = raisedFrom verdict.isSome rest := by
  cases rest with
  | nil => rfl
  | cons next rest => rfl

theorem raisedFrom_concat (before : Bool) (verdicts : List (Option α))
    (verdict : Option α) :
    raisedFrom before (verdicts ++ [verdict]) = verdict.isSome := by
  simp [raisedFrom]

theorem risingsFrom_append (before : Bool) (left right : List (Option α)) :
    risingsFrom before (left ++ right) =
      risingsFrom before left ++ risingsFrom (raisedFrom before left) right := by
  induction left generalizing before with
  | nil => rfl
  | cons verdict rest ih =>
      rw [raisedFrom_cons, List.cons_append]
      cases verdict with
      | none => exact ih false
      | some a =>
          cases before with
          | true => exact ih true
          | false => exact congrArg (List.cons a) (ih true)

/-- One more verdict rises when it is bad and the last one was not. -/
theorem risings_concat (verdicts : List (Option α)) (verdict : Option α) :
    risings (verdicts ++ [verdict]) =
      risings verdicts ++ if raised verdicts then [] else verdict.toList := by
  rw [risings, risingsFrom_append]
  change _ ++ risingsFrom (raised verdicts) [verdict] = _
  congr 1
  cases verdict with
  | none => exact (ite_self _).symm
  | some a => cases raised verdicts <;> rfl

/-- In every stretch at most one more rises than there are good verdicts. -/
theorem length_risingsFrom_le (before : Bool) (verdicts : List (Option α)) :
    (risingsFrom before verdicts).length + before.toNat ≤
      verdicts.countP Option.isNone + 1 := by
  induction verdicts generalizing before with
  | nil => exact Nat.add_le_add_left (Bool.toNat_le before) 0
  | cons verdict rest ih =>
      cases verdict with
      | none =>
          have later := ih false
          have one := Bool.toNat_le before
          simp only [risingsFrom, List.countP_cons, Option.isNone_none, Bool.toNat_false]
            at later ⊢
          simp only [if_true]
          omega
      | some a =>
          have later := ih true
          simp only [List.countP_cons, Option.isNone_some, Bool.toNat_true] at later ⊢
          cases before with
          | true => exact later
          | false => exact later

theorem mem_of_mem_risingsFrom {before : Bool} {verdicts : List (Option α)} {a : α}
    (rises : a ∈ risingsFrom before verdicts) : some a ∈ verdicts := by
  induction verdicts generalizing before with
  | nil => cases rises
  | cons verdict rest ih =>
      cases verdict with
      | none => exact List.mem_cons_of_mem _ (ih rises)
      | some first =>
          cases before with
          | true => exact List.mem_cons_of_mem _ (ih rises)
          | false =>
              rcases List.mem_cons.mp rises with same | later
              · rw [same]
                exact List.mem_cons_self
              · exact List.mem_cons_of_mem _ (ih later)

end Lib
