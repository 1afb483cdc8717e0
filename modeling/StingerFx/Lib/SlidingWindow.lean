/-
Module: StingerFx.Lib.SlidingWindow
Layer: Lib
Purpose: Windows over a history that are kept in a deque: new items enter on the
  right, stale ones leave on the left, and a bounded deque drops its oldest. What a
  deque lacks of its history is stale, so in a history that is in order an expired
  deque holds exactly what is recent.
Trusted boundary: none (fully proved)
Main exports: expire, recent, Windowed, Windowed.push, Windowed.bound,
  Windowed.expire, Windowed.expire_before, Windowed.expire_eq_recent
-/
import Mathlib

namespace Lib

section SlidingWindow

variable {α β : Type} [LinearOrder β] {key : α → β}

/-- Leave out, from the left, what lies before a cutoff. -/
def expire (key : α → β) (cutoff : β) (window : List α) : List α :=
  window.dropWhile fun a => decide (key a < cutoff)

/-- What a history has from a cutoff on. -/
def recent (key : α → β) (cutoff : β) (history : List α) : List α :=
  history.filter fun a => decide (cutoff ≤ key a)

/-- The deque is the history without some first items, which are stale. -/
def Windowed (key : α → β) (cutoff : β) (history window : List α) : Prop :=
  ∃ stale, history = stale ++ window ∧ ∀ a ∈ stale, key a < cutoff

variable {cutoff later : β} {history window : List α}

theorem recent_append (front back : List α) :
    recent key cutoff (front ++ back) =
      recent key cutoff front ++ recent key cutoff back :=
  List.filter_append ..

theorem recent_of_stale {stale : List α} (old : ∀ a ∈ stale, key a < cutoff) :
    recent key cutoff stale = [] := by
  apply List.filter_eq_nil_iff.mpr
  intro a member
  simpa using old a member

/-- In order, what is left of a cutoff comes first. -/
theorem expire_of_ordered (ordered : window.Pairwise fun a b => key a ≤ key b) :
    expire key cutoff window = recent key cutoff window := by
  induction window with
  | nil => rfl
  | cons a rest ih =>
      rcases List.pairwise_cons.mp ordered with ⟨first, others⟩
      by_cases stale : key a < cutoff
      · have away : ¬ cutoff ≤ key a := not_le.mpr stale
        have same := ih others
        unfold expire recent at same ⊢
        rw [List.dropWhile_cons_of_pos (by simpa using stale),
          List.filter_cons_of_neg (by simpa using away)]
        exact same
      · have fresh : ∀ b ∈ a :: rest, cutoff ≤ key b := by
          intro b member
          rcases List.mem_cons.mp member with rfl | behind
          · exact not_lt.mp stale
          · exact (not_lt.mp stale).trans (first b behind)
        have whole : recent key cutoff (a :: rest) = a :: rest := by
          apply List.filter_eq_self.mpr
          intro b member
          exact decide_eq_true (fresh b member)
        rw [whole]
        exact List.dropWhile_cons_of_neg (by simpa using stale)

namespace Windowed

theorem refl (cutoff : β) (history : List α) :
    Windowed key cutoff history history :=
  ⟨[], rfl, fun _ member => by cases member⟩

theorem mono (windowed : Windowed key cutoff history window)
    (order : cutoff ≤ later) : Windowed key later history window := by
  rcases windowed with ⟨stale, whole, old⟩
  exact ⟨stale, whole, fun a member => (old a member).trans_le order⟩

/-- An item enters. -/
theorem push (windowed : Windowed key cutoff history window) (a : α) :
    Windowed key cutoff (history ++ [a]) (window ++ [a]) := by
  rcases windowed with ⟨stale, whole, old⟩
  refine ⟨stale, ?_, old⟩
  rw [whole, List.append_assoc]

/-- Both keep their last items only. -/
theorem bound (windowed : Windowed key cutoff history window) (maxlen : Nat) :
    Windowed key cutoff (history.rtake maxlen) (window.rtake maxlen) := by
  rcases windowed with ⟨stale, rfl, old⟩
  rcases Nat.le_total maxlen window.length with full | short
  · refine ⟨[], ?_, fun _ member => by cases member⟩
    have skipped : stale.length + window.length - maxlen =
        stale.length + (window.length - maxlen) := by omega
    simp only [List.rtake, List.length_append, List.nil_append]
    rw [skipped, ← List.drop_drop, List.drop_left]
  · refine ⟨stale.drop (stale.length + window.length - maxlen), ?_, ?_⟩
    · have within : stale.length + window.length - maxlen ≤ stale.length := by omega
      have none_ : window.length - maxlen = 0 := Nat.sub_eq_zero_of_le short
      simp only [List.rtake, List.length_append, none_, List.drop_zero]
      exact List.drop_append_of_le_length within
    · intro a member
      exact old a (List.mem_of_mem_drop member)

/-- Items leave that are stale at an earlier cutoff. -/
theorem expire_before {earlier : β} (windowed : Windowed key cutoff history window)
    (order : earlier ≤ cutoff) :
    Windowed key cutoff history (Lib.expire key earlier window) := by
  rcases windowed with ⟨stale, whole, old⟩
  refine ⟨stale ++ window.takeWhile fun a => decide (key a < earlier), ?_, ?_⟩
  · rw [whole, List.append_assoc, Lib.expire, List.takeWhile_append_dropWhile]
  · intro a member
    rcases List.mem_append.mp member with before | passed
    · exact old a before
    · have young := List.mem_takeWhile_imp passed
      exact (of_decide_eq_true young).trans_le order

/-- Stale items leave. -/
theorem expire (windowed : Windowed key cutoff history window)
    (order : cutoff ≤ later) :
    Windowed key later history (Lib.expire key later window) :=
  (windowed.mono order).expire_before le_rfl

/-- What is left is exactly what the history has from the cutoff on. -/
theorem expire_eq_recent (windowed : Windowed key cutoff history window)
    (ordered : history.Pairwise fun a b => key a ≤ key b)
    (order : cutoff ≤ later) :
    Lib.expire key later window = recent key later history := by
  rcases windowed.mono order with ⟨stale, whole, old⟩
  rw [whole] at ordered ⊢
  rw [recent_append, recent_of_stale old, List.nil_append]
  exact expire_of_ordered (List.pairwise_append.mp ordered).2.1

end Windowed

end SlidingWindow

end Lib
