/-
Module: StingerFx.Lib.StableMerge
Layer: Lib
Purpose: Stable merge of several feeds by a key. Merging repeatedly takes the
  head with the smallest key, the earlier feed winning ties, which is the nested
  two-way merge. A relation holds along the merged list exactly when it holds
  along every feed and between any two elements in the order the merge puts them.
Trusted boundary: none (fully proved)
Main exports: mergeBy, mergeFeeds, mem_mergeFeeds, pairwise_mergeFeeds_iff,
  split_at_key
-/
import Mathlib

namespace Lib

universe u v

variable {α : Type u} {K : Type v} [LinearOrder K]

/-- Merge of two lists by a key, the left list first among equal keys. -/
def mergeBy (key : α → K) (left right : List α) : List α :=
  left.merge right (fun a b => decide (key a ≤ key b))

/-- Merge of any number of feeds by a key. -/
def mergeFeeds (key : α → K) (feeds : List (List α)) : List α :=
  feeds.foldr (mergeBy key) []

@[simp] theorem mem_mergeBy {key : α → K} {left right : List α} {a : α} :
    a ∈ mergeBy key left right ↔ a ∈ left ∨ a ∈ right := by
  simp [mergeBy, List.mem_merge]

/-- The merge neither loses nor invents elements. -/
theorem mem_mergeFeeds {key : α → K} {feeds : List (List α)} {a : α} :
    a ∈ mergeFeeds key feeds ↔ ∃ feed ∈ feeds, a ∈ feed := by
  induction feeds with
  | nil => simp [mergeFeeds]
  | cons feed feeds ih =>
      have unfolded : mergeFeeds key (feed :: feeds) =
          mergeBy key feed (mergeFeeds key feeds) := rfl
      simp [unfolded, ih]

/-- What the merge decides about two elements of different feeds: the earlier
feed's element comes first unless its key is strictly larger. -/
def MergesAs (key : α → K) (R : α → α → Prop) (left right : List α) : Prop :=
  ∀ a ∈ left, ∀ b ∈ right,
    (key a ≤ key b → R a b) ∧ (key b < key a → R b a)

theorem mergeBy_cons_cons (key : α → K) (a b : α) (as bs : List α) :
    mergeBy key (a :: as) (b :: bs) =
      if key a ≤ key b then a :: mergeBy key as (b :: bs)
      else b :: mergeBy key (a :: as) bs := by
  by_cases h : key a ≤ key b <;> simp [mergeBy, h]

/-- Pairwise relations along a two-way merge of key-sorted lists. -/
theorem pairwise_mergeBy_iff {key : α → K} {R : α → α → Prop} :
    ∀ {left right : List α},
      left.Pairwise (fun a b => key a ≤ key b) →
      right.Pairwise (fun a b => key a ≤ key b) →
      ((mergeBy key left right).Pairwise R ↔
        left.Pairwise R ∧ right.Pairwise R ∧ MergesAs key R left right)
  | [], right, _, _ => by
      simp [mergeBy, MergesAs]
  | a :: as, [], _, _ => by
      simp [mergeBy, MergesAs]
  | a :: as, b :: bs, leftSorted, rightSorted => by
      obtain ⟨leftHead, leftTail⟩ := List.pairwise_cons.mp leftSorted
      obtain ⟨rightHead, rightTail⟩ := List.pairwise_cons.mp rightSorted
      rw [mergeBy_cons_cons]
      by_cases first : key a ≤ key b
      · -- The left head goes first: it precedes everything that remains.
        rw [if_pos first, List.pairwise_cons,
          pairwise_mergeBy_iff leftTail rightSorted]
        constructor
        · rintro ⟨headRel, tailRel, rightRel, cross⟩
          refine ⟨List.pairwise_cons.mpr
            ⟨fun x member => headRel x (mem_mergeBy.mpr (.inl member)), tailRel⟩,
            rightRel, ?_⟩
          intro x xMember y yMember
          rcases List.mem_cons.mp xMember with rfl | xTail
          · have below : key x ≤ key y := by
              rcases List.mem_cons.mp yMember with rfl | yTail
              · exact first
              · exact first.trans (rightHead y yTail)
            exact ⟨fun _ => headRel y (mem_mergeBy.mpr (.inr yMember)),
              fun above => absurd above below.not_gt⟩
          · exact cross x xTail y yMember
        · rintro ⟨leftRel, rightRel, cross⟩
          obtain ⟨headRel, tailRel⟩ := List.pairwise_cons.mp leftRel
          refine ⟨?_, tailRel, rightRel,
            fun x xTail => cross x (List.mem_cons_of_mem _ xTail)⟩
          intro x member
          rcases mem_mergeBy.mp member with xTail | xRight
          · exact headRel x xTail
          · have below : key a ≤ key x := by
              rcases List.mem_cons.mp xRight with rfl | xTail
              · exact first
              · exact first.trans (rightHead x xTail)
            exact (cross a List.mem_cons_self x xRight).1 below
      · -- The right head is strictly smaller than every left element.
        have second : key b < key a := not_le.mp first
        rw [if_neg first, List.pairwise_cons,
          pairwise_mergeBy_iff leftSorted rightTail]
        constructor
        · rintro ⟨headRel, leftRel, tailRel, cross⟩
          refine ⟨leftRel, List.pairwise_cons.mpr
            ⟨fun y member => headRel y (mem_mergeBy.mpr (.inr member)), tailRel⟩,
            ?_⟩
          intro x xMember y yMember
          rcases List.mem_cons.mp yMember with rfl | yTail
          · have above : key y < key x := by
              rcases List.mem_cons.mp xMember with rfl | xTail
              · exact second
              · exact second.trans_le (leftHead x xTail)
            exact ⟨fun below => absurd above below.not_gt,
              fun _ => headRel x (mem_mergeBy.mpr (.inl xMember))⟩
          · exact cross x xMember y yTail
        · rintro ⟨leftRel, rightRel, cross⟩
          obtain ⟨headRel, tailRel⟩ := List.pairwise_cons.mp rightRel
          refine ⟨?_, leftRel, tailRel,
            fun x xMember y yTail =>
              cross x xMember y (List.mem_cons_of_mem _ yTail)⟩
          intro y member
          rcases mem_mergeBy.mp member with yLeft | yTail
          · have above : key b < key y := by
              rcases List.mem_cons.mp yLeft with rfl | yTail
              · exact second
              · exact second.trans_le (leftHead y yTail)
            exact (cross y yLeft b List.mem_cons_self).2 above
          · exact headRel y yTail

theorem sorted_mergeFeeds {key : α → K} {feeds : List (List α)}
    (sorted : ∀ feed ∈ feeds, feed.Pairwise (fun a b => key a ≤ key b)) :
    (mergeFeeds key feeds).Pairwise (fun a b => key a ≤ key b) := by
  induction feeds with
  | nil => exact List.Pairwise.nil
  | cons feed feeds ih =>
      have headSorted := sorted feed List.mem_cons_self
      have tailSorted := ih fun other member =>
        sorted other (List.mem_cons_of_mem _ member)
      exact (pairwise_mergeBy_iff headSorted tailSorted).mpr
        ⟨headSorted, tailSorted, fun a _ b _ => ⟨id, fun h => h.le⟩⟩

/-- A relation holds along the merge of key-sorted feeds exactly when it holds
along each feed and, for any two feeds, in the order the merge imposes. -/
theorem pairwise_mergeFeeds_iff {key : α → K} {R : α → α → Prop}
    {feeds : List (List α)}
    (sorted : ∀ feed ∈ feeds, feed.Pairwise (fun a b => key a ≤ key b)) :
    (mergeFeeds key feeds).Pairwise R ↔
      (∀ feed ∈ feeds, feed.Pairwise R) ∧ feeds.Pairwise (MergesAs key R) := by
  induction feeds with
  | nil => simp [mergeFeeds]
  | cons feed feeds ih =>
      have headSorted := sorted feed List.mem_cons_self
      have tailSorted : ∀ other ∈ feeds,
          other.Pairwise (fun a b => key a ≤ key b) := fun other member =>
        sorted other (List.mem_cons_of_mem _ member)
      have unfolded : mergeFeeds key (feed :: feeds) =
          mergeBy key feed (mergeFeeds key feeds) := rfl
      rw [unfolded, pairwise_mergeBy_iff headSorted (sorted_mergeFeeds tailSorted),
        ih tailSorted, List.forall_mem_cons, List.pairwise_cons]
      have crossing : MergesAs key R feed (mergeFeeds key feeds) ↔
          ∀ other ∈ feeds, MergesAs key R feed other := by
        constructor
        · intro cross other otherMember a aMember b bMember
          exact cross a aMember b
            (mem_mergeFeeds.mpr ⟨other, otherMember, bMember⟩)
        · intro cross a aMember b bMember
          obtain ⟨other, otherMember, inside⟩ := mem_mergeFeeds.mp bMember
          exact cross other otherMember a aMember b inside
      rw [crossing]
      tauto

/-! ### Cutting a sorted list -/

/-- A list in the order of a key, cut at one value of it. -/
theorem split_at_key {key : α → K} {list : List α}
    (sorted : (list.map key).Pairwise (· ≤ ·)) (b : K) :
    list = (list.filter fun x => decide (key x < b)) ++
      (list.filter fun x => decide (key x = b)) ++
        list.filter fun x => decide (b < key x) := by
  induction list with
  | nil => rfl
  | cons x rest ih =>
      rw [List.map_cons, List.pairwise_cons] at sorted
      rcases sorted with ⟨least, sorted⟩
      have later : ∀ y ∈ rest, key x ≤ key y := fun y member =>
        least (key y) (List.mem_map_of_mem member)
      rcases lt_trichotomy (key x) b with below | same | above
      · rw [List.filter_cons_of_pos (by simpa using below),
          List.filter_cons_of_neg (by simpa using below.ne),
          List.filter_cons_of_neg (by simpa using below.le), List.cons_append,
          List.cons_append, ← ih sorted]
      · have none : (rest.filter fun y => decide (key y < b)) = [] := by
          apply List.filter_eq_nil_iff.mpr
          intro y member
          have bound := later y member
          rw [same] at bound
          simpa using bound
        have whole := ih sorted
        rw [none, List.nil_append] at whole
        rw [List.filter_cons_of_neg (by simp [same]),
          List.filter_cons_of_pos (by simpa using same),
          List.filter_cons_of_neg (by simp [same]), none, List.nil_append,
          List.cons_append, ← whole]
      · have beyond : ∀ y ∈ rest, b < key y := fun y member =>
          lt_of_lt_of_le above (later y member)
        have none : (rest.filter fun y => decide (key y < b)) = [] := by
          apply List.filter_eq_nil_iff.mpr
          intro y member
          simpa using (beyond y member).le
        have noneSame : (rest.filter fun y => decide (key y = b)) = [] := by
          apply List.filter_eq_nil_iff.mpr
          intro y member
          simpa using (beyond y member).ne'
        rw [List.filter_cons_of_neg (by simpa using above.le),
          List.filter_cons_of_neg (by simpa using above.ne'),
          List.filter_cons_of_pos (by simpa using above), none, noneSame]
        have all : (rest.filter fun y => decide (b < key y)) = rest := by
          apply List.filter_eq_self.mpr
          intro y member
          simpa using beyond y member
        rw [all]
        rfl

end Lib
