/-
Module: StingerFx.Lib.Announcements
Layer: Lib
Purpose: Things that are opened once and closed once, and what is announced of it.
  Everything is told once when each thing that was ever opened has one announcement
  of its opening and, when it is no longer held, one of its close; what is held is
  then what the announcements leave open. Opening and closing keep this when an
  announcement goes with them, and the order of the announcements does not matter.
Trusted boundary: none (fully proved)
Main exports: Announcement, ToldOnce, ToldOnce.opens, ToldOnce.closes, ToldOnce.perm,
  ToldOnce.mem_held_iff
-/
import Mathlib

namespace Lib

universe u

inductive Announcement (α : Type u) where
  | opened (a : α)
  | closed (a : α)
deriving Repr, DecidableEq

variable {α : Type u} [DecidableEq α]

/-- How often a thing's opening or close is to be told. -/
def Announcement.due (opened held : Finset α) : Announcement α → Nat
  | .opened a => if a ∈ opened then 1 else 0
  | .closed a => if a ∈ opened ∧ a ∉ held then 1 else 0

/-- Each opening is told once, each close once, and only what was opened is held. -/
structure ToldOnce (opened held : Finset α) (told : List (Announcement α)) : Prop where
  count : ∀ news, told.count news = news.due opened held
  held_opened : held ⊆ opened

namespace ToldOnce

variable {opened held : Finset α} {told : List (Announcement α)} {a : α}

theorem empty : ToldOnce (∅ : Finset α) ∅ [] where
  count := fun news => by cases news <;> simp [Announcement.due]
  held_opened := Finset.Subset.refl _

theorem perm {other : List (Announcement α)} (once : ToldOnce opened held told)
    (same : other.Perm told) : ToldOnce opened held other where
  count := fun news => (same.count_eq news).trans (once.count news)
  held_opened := once.held_opened

/-- One more thing is opened and announced. -/
theorem opens (once : ToldOnce opened held told) (fresh : a ∉ opened) :
    ToldOnce (insert a opened) (insert a held) (told ++ [.opened a]) where
  count := by
    intro news
    rw [List.count_append, once.count]
    cases news with
    | opened other =>
        by_cases same : other = a
        · subst same
          simp [Announcement.due, fresh]
        · simp [Announcement.due, same, Ne.symm same]
    | closed other =>
        by_cases same : other = a
        · subst same
          simp [Announcement.due, fresh]
        · simp [Announcement.due, same]
  held_opened := Finset.insert_subset_insert a once.held_opened

/-- A thing that is held is closed, and its close announced. -/
theorem closes (once : ToldOnce opened held told) (holds : a ∈ held) :
    ToldOnce opened (held.erase a) (told ++ [.closed a]) where
  count := by
    intro news
    rw [List.count_append, once.count]
    cases news with
    | opened other => simp [Announcement.due]
    | closed other =>
        by_cases same : other = a
        · subst same
          simp [Announcement.due, holds, once.held_opened holds]
        · simp [Announcement.due, same, Ne.symm same]
  held_opened := (Finset.erase_subset a held).trans once.held_opened

theorem opened_once (once : ToldOnce opened held told) (was : a ∈ opened) :
    told.count (.opened a) = 1 := by
  rw [once.count, Announcement.due, if_pos was]

theorem closed_once (once : ToldOnce opened held told) (was : a ∈ opened)
    (gone : a ∉ held) : told.count (.closed a) = 1 := by
  rw [once.count, Announcement.due, if_pos ⟨was, gone⟩]

/-- Nothing is told of what was never opened. -/
theorem mem_opened_of_told (once : ToldOnce opened held told)
    (heard : .opened a ∈ told) : a ∈ opened := by
  by_contra never
  have silent := once.count (.opened a)
  rw [Announcement.due, if_neg never] at silent
  exact List.count_eq_zero.mp silent heard

/-- What is held is what was told open and not told closed. -/
theorem mem_held_iff (once : ToldOnce opened held told) :
    a ∈ held ↔ .opened a ∈ told ∧ .closed a ∉ told := by
  constructor
  · intro holds
    have was := once.held_opened holds
    constructor
    · apply List.count_pos_iff.mp
      rw [once.opened_once was]
      exact Nat.one_pos
    · apply List.count_eq_zero.mp
      rw [once.count, Announcement.due, if_neg fun gone => gone.2 holds]
  · rintro ⟨heard, open'⟩
    by_contra gone
    apply open'
    apply List.count_pos_iff.mp
    rw [once.closed_once (once.mem_opened_of_told heard) gone]
    exact Nat.one_pos

end ToldOnce

end Lib
