/-
Module: StingerFx.Lib.KeepLast
Layer: Lib
Purpose: Dropping repeated keys, the last element of each key kept. What is kept of
  two parts one after the other is what the second leaves of the first, then the
  second; dropping early changes nothing, and dropping commutes with every
  selection by the key.
Trusted boundary: none (fully proved)
Main exports: keepLast, keepLast_append, keepLast_absorb, keepLast_append_eq_iff,
  keepLast_filter, keepLast_of_nodup, keepLast_single
-/
import Mathlib

namespace Lib

universe u v

variable {α : Type u} {κ : Type v} [DecidableEq κ] {key : α → κ}

/-- The last element of every key, in the order of the list. -/
def keepLast (key : α → κ) : List α → List α
  | [] => []
  | item :: rest =>
      if key item ∈ rest.map key then keepLast key rest
      else item :: keepLast key rest

theorem keepLast_cons (item : α) (rest : List α) :
    keepLast key (item :: rest) =
      if key item ∈ rest.map key then keepLast key rest
      else item :: keepLast key rest := rfl

theorem keepLast_sublist (items : List α) :
    (keepLast key items).Sublist items := by
  induction items with
  | nil => exact .slnil
  | cons item rest ih =>
      unfold keepLast
      split
      · exact ih.cons item
      · exact ih.cons_cons item

/-- No key is lost. -/
theorem mem_keys_keepLast {items : List α} {k : κ} :
    k ∈ (keepLast key items).map key ↔ k ∈ items.map key := by
  induction items with
  | nil => rfl
  | cons item rest ih =>
      unfold keepLast
      split
      · rename_i again
        rw [ih, List.map_cons, List.mem_cons]
        exact ⟨.inr, fun either => either.elim (fun same => same ▸ again) id⟩
      · rw [List.map_cons, List.map_cons, List.mem_cons, List.mem_cons, ih]

theorem keepLast_nodup (items : List α) :
    ((keepLast key items).map key).Nodup := by
  induction items with
  | nil => exact List.nodup_nil
  | cons item rest ih =>
      unfold keepLast
      split
      · exact ih
      · rename_i new
        rw [List.map_cons, List.nodup_cons, mem_keys_keepLast]
        exact ⟨new, ih⟩

theorem keepLast_of_nodup {items : List α} (distinct : (items.map key).Nodup) :
    keepLast key items = items := by
  induction items with
  | nil => rfl
  | cons item rest ih =>
      obtain ⟨new, distinct⟩ := List.nodup_cons.mp distinct
      unfold keepLast
      rw [if_neg new, ih distinct]

theorem keepLast_append (left right : List α) :
    keepLast key (left ++ right) =
      ((keepLast key left).filter fun item =>
        decide (key item ∉ right.map key)) ++ keepLast key right := by
  induction left with
  | nil => rfl
  | cons item rest ih =>
      have either : key item ∈ (rest ++ right).map key ↔
          key item ∈ rest.map key ∨ key item ∈ right.map key := by
        rw [List.map_append, List.mem_append]
      rw [List.cons_append, keepLast_cons, keepLast_cons, ih]
      by_cases inRest : key item ∈ rest.map key
      · rw [if_pos (either.mpr (.inl inRest)), if_pos inRest]
      · rw [if_neg inRest, List.filter_cons]
        by_cases inRight : key item ∈ right.map key
        · rw [if_pos (either.mpr (.inr inRight))]
          simp [inRight]
        · rw [if_neg fun member => (either.mp member).elim inRest inRight]
          simp [inRight]

/-- Dropping repeated keys of a first part early changes nothing. -/
theorem keepLast_absorb (left right : List α) :
    keepLast key (keepLast key left ++ right) = keepLast key (left ++ right) := by
  rw [keepLast_append, keepLast_append, keepLast_of_nodup (keepLast_nodup left)]

theorem key_not_mem_of_distinct {left right : List α} {item : α}
    (distinct : ((left ++ keepLast key right).map key).Nodup) (inside : item ∈ left) :
    key item ∉ right.map key := by
  intro again
  rw [← mem_keys_keepLast] at again
  rw [List.map_append, List.nodup_append] at distinct
  exact distinct.2.2 (key item) (List.mem_map_of_mem inside) _ again rfl

/-- What comes second changes nothing exactly when it ends what was kept of the
first. -/
theorem keepLast_append_eq_iff {left right : List α} :
    keepLast key (left ++ right) = keepLast key left ↔
      keepLast key right <:+ keepLast key left := by
  rw [keepLast_append]
  constructor
  · intro same
    exact ⟨_, same⟩
  · rintro ⟨before, whole⟩
    have distinct : ((before ++ keepLast key right).map key).Nodup := by
      rw [whole]
      exact keepLast_nodup left
    rw [← whole, List.filter_append]
    have stay : before.filter (fun item => decide (key item ∉ right.map key)) =
        before := by
      apply List.filter_eq_self.mpr
      intro item inside
      simpa using key_not_mem_of_distinct distinct inside
    have go : (keepLast key right).filter
        (fun item => decide (key item ∉ right.map key)) = [] := by
      apply List.filter_eq_nil_iff.mpr
      intro item inside
      have again : key item ∈ right.map key :=
        mem_keys_keepLast.mp (List.mem_map_of_mem inside)
      simpa using again
    rw [stay, go, List.append_nil]

/-- A selection by the key can be made before or after. -/
theorem keepLast_filter {p : α → Bool}
    (byKey : ∀ {one two : α}, key one = key two → p one = p two)
    (items : List α) :
    (keepLast key items).filter p = keepLast key (items.filter p) := by
  induction items with
  | nil => rfl
  | cons item rest ih =>
      rw [keepLast_cons]
      by_cases selected : p item = true
      · have stays : key item ∈ (rest.filter p).map key ↔
            key item ∈ rest.map key := by
          constructor
          · intro member
            obtain ⟨other, kept, same⟩ := List.mem_map.mp member
            exact List.mem_map.mpr ⟨other, (List.mem_filter.mp kept).1, same⟩
          · intro member
            obtain ⟨other, inside, same⟩ := List.mem_map.mp member
            exact List.mem_map.mpr ⟨other,
              List.mem_filter.mpr ⟨inside, (byKey same).trans selected⟩, same⟩
        rw [List.filter_cons_of_pos selected, keepLast_cons]
        simp only [stays]
        split
        · exact ih
        · rw [List.filter_cons_of_pos selected, ih]
      · rw [List.filter_cons_of_neg selected]
        split
        · exact ih
        · rw [List.filter_cons_of_neg selected, ih]

/-- Of elements with one key the last is kept. -/
theorem keepLast_single {items : List α} {k : κ}
    (own : ∀ item ∈ items, key item = k) :
    keepLast key items = items.getLast?.toList := by
  induction items with
  | nil => rfl
  | cons item rest ih =>
      have ownRest : ∀ other ∈ rest, key other = k := fun other member =>
        own other (List.mem_cons_of_mem _ member)
      unfold keepLast
      cases rest with
      | nil => simp [keepLast]
      | cons next later =>
          have again : key item ∈ (next :: later).map key := by
            rw [own item List.mem_cons_self, ← ownRest next List.mem_cons_self]
            exact List.mem_map_of_mem List.mem_cons_self
          rw [if_pos again, ih ownRest, List.getLast?_cons_cons]

end Lib
