/-
Module: StingerFx.Lib.StableSort
Layer: Lib
Purpose: Lists in the order of a key, read group by group. A stable sort, and a
  stable merge of sorted lists, leave the elements of each key in the order they
  had; and a list in the order of a key is determined by its groups. Two ways of
  producing a sorted list are equal as soon as they agree key by key.
Trusted boundary: none (fully proved)
Main exports: sortBy, sorted_sortBy, groupOf_sortBy, eq_of_groupOf, filter_sortBy,
  groupOf_mergeFeeds, filter_mergeFeeds, filter_cut
-/
import StingerFx.Lib.Groups
import StingerFx.Lib.StableMerge

namespace Lib

universe u v w

variable {α : Type u} {K : Type v} [LinearOrder K] {key : α → K}

/-- Stable sort by a key. -/
def sortBy (key : α → K) (items : List α) : List α :=
  items.insertionSort fun a b => key a ≤ key b

/-- In the order of a key. -/
abbrev SortedBy (key : α → K) (items : List α) : Prop :=
  items.Pairwise fun a b => key a ≤ key b

@[simp] theorem mem_sortBy {items : List α} {item : α} :
    item ∈ sortBy key items ↔ item ∈ items :=
  List.mem_insertionSort _

theorem sortBy_perm (items : List α) : (sortBy key items).Perm items :=
  List.perm_insertionSort _ items

theorem sorted_sortBy (items : List α) : SortedBy key (sortBy key items) := by
  have total : Std.Total fun a b : α => key a ≤ key b :=
    ⟨fun a b => le_total (key a) (key b)⟩
  have transitive : IsTrans α fun a b => key a ≤ key b :=
    ⟨fun _ _ _ => le_trans⟩
  exact List.pairwise_insertionSort _ items

/-- Inserting an element puts it before its own group. -/
theorem groupOf_orderedInsert (item : α) (items : List α) (k : K) :
    groupOf key (items.orderedInsert (fun a b => key a ≤ key b) item) k =
      groupOf key (item :: items) k := by
  induction items with
  | nil => rfl
  | cons first rest ih =>
      rw [List.orderedInsert_cons]
      split
      · rfl
      · rename_i after
        have apart : key first ≠ key item :=
          fun same => after (le_of_eq same.symm)
        unfold groupOf at ih ⊢
        rw [List.filter_cons, ih, List.filter_cons, List.filter_cons,
          List.filter_cons]
        -- one of the two is not in the group of this key
        by_cases own : key item = k
        · have other : key first ≠ k := fun same => apart (same.trans own.symm)
          simp [own, other]
        · simp [own]

/-- Sorting leaves every group as it was. -/
@[simp] theorem groupOf_sortBy (items : List α) (k : K) :
    groupOf key (sortBy key items) k = groupOf key items k := by
  induction items with
  | nil => rfl
  | cons item rest ih =>
      have inserted : groupOf key _ k = groupOf key _ k :=
        groupOf_orderedInsert item (sortBy key rest) k
      unfold sortBy at inserted ih ⊢
      rw [List.insertionSort_cons, inserted]
      unfold groupOf at ih ⊢
      rw [List.filter_cons, List.filter_cons, ih]

theorem mem_groupOf {items : List α} {item : α} {k : K} :
    item ∈ groupOf key items k ↔ item ∈ items ∧ key item = k := by
  simp [groupOf]

/-- A list in the order of a key is determined by its groups. -/
theorem eq_of_groupOf {one two : List α} (oneSorted : SortedBy key one)
    (twoSorted : SortedBy key two)
    (same : ∀ k, groupOf key one k = groupOf key two k) : one = two := by
  induction one generalizing two with
  | nil =>
      cases two with
      | nil => rfl
      | cons b two =>
          have empty := same (key b)
          simp [groupOf] at empty
  | cons a one ih =>
      cases two with
      | nil =>
          have empty := same (key a)
          simp [groupOf] at empty
      | cons b two =>
          obtain ⟨aLeast, oneTail⟩ := List.pairwise_cons.mp oneSorted
          obtain ⟨bLeast, twoTail⟩ := List.pairwise_cons.mp twoSorted
          have below : key b ≤ key a := by
            have inside : a ∈ groupOf key (b :: two) (key a) := by
              rw [← same]
              simp [groupOf]
            rcases List.mem_cons.mp (mem_groupOf.mp inside).1 with rfl | later
            · exact le_rfl
            · exact bLeast a later
          have above : key a ≤ key b := by
            have inside : b ∈ groupOf key (a :: one) (key b) := by
              rw [same]
              simp [groupOf]
            rcases List.mem_cons.mp (mem_groupOf.mp inside).1 with rfl | later
            · exact le_rfl
            · exact aLeast b later
          have keys : key a = key b := le_antisymm above below
          have heads := same (key a)
          unfold groupOf at heads
          rw [List.filter_cons_of_pos (by simp),
            List.filter_cons_of_pos (by simp [keys])] at heads
          obtain ⟨rfl, _⟩ := List.cons.inj heads
          refine congrArg (a :: ·) (ih oneTail twoTail fun k => ?_)
          have whole := same k
          unfold groupOf at whole ⊢
          rw [List.filter_cons, List.filter_cons] at whole
          split at whole
          · exact (List.cons.inj whole).2
          · exact whole

theorem groupOf_flatMap {β : Type w} (items : List β) (f : β → List α) (k : K) :
    groupOf key (items.flatMap f) k =
      items.flatMap fun item => groupOf key (f item) k :=
  List.filter_flatMap

theorem groupOf_filter (p : α → Bool) (items : List α) (k : K) :
    groupOf key (items.filter p) k = (groupOf key items k).filter p :=
  List.filter_comm _ _ items

/-- Sorting and filtering can be exchanged. -/
theorem filter_sortBy (p : α → Bool) (items : List α) :
    (sortBy key items).filter p = sortBy key (items.filter p) := by
  apply eq_of_groupOf ((sorted_sortBy items).filter p) (sorted_sortBy _)
  intro k
  rw [groupOf_filter, groupOf_sortBy, groupOf_sortBy, groupOf_filter]

/-- What is sorted depends on the groups alone. -/
theorem sortBy_congr {one two : List α}
    (same : ∀ k, groupOf key one k = groupOf key two k) :
    sortBy key one = sortBy key two := by
  apply eq_of_groupOf (sorted_sortBy one) (sorted_sortBy two)
  intro k
  rw [groupOf_sortBy, groupOf_sortBy, same k]

/-! ### Merging -/

theorem groupOf_mergeBy {left right : List α} (leftSorted : SortedBy key left)
    (rightSorted : SortedBy key right) (k : K) :
    groupOf key (mergeBy key left right) k =
      groupOf key left k ++ groupOf key right k := by
  induction left generalizing right with
  | nil => simp [mergeBy, groupOf]
  | cons a as ihLeft =>
      obtain ⟨least, leftTail⟩ := List.pairwise_cons.mp leftSorted
      induction right with
      | nil => simp [mergeBy, groupOf]
      | cons b bs ihRight =>
          rw [mergeBy_cons_cons]
          split
          · have rest := ihLeft leftTail rightSorted
            unfold groupOf at rest ⊢
            rw [List.filter_cons, List.filter_cons, rest]
            split <;> rfl
          · rename_i after
            have rest := ihRight (List.pairwise_cons.mp rightSorted).2
            unfold groupOf at rest ⊢
            rw [List.filter_cons, rest, List.filter_cons (x := b)]
            split
            · -- the right head goes first: nothing on the left has its key
              rename_i own
              have none : ((a :: as).filter fun x => decide (key x = k)) = [] := by
                apply List.filter_eq_nil_iff.mpr
                intro x member
                have own : key b = k := by simpa using own
                have later : key a ≤ key x := by
                  rcases List.mem_cons.mp member with rfl | inside
                  · exact le_rfl
                  · exact least x inside
                have above : key b < key x := lt_of_lt_of_le (not_le.mp after) later
                simpa [own] using above.ne'
              rw [none]
              rfl
            · rfl

/-- Along a merge of sorted feeds the group of a key is made of the groups of the
feeds, one after the other. -/
theorem groupOf_mergeFeeds {feeds : List (List α)}
    (sorted : ∀ feed ∈ feeds, SortedBy key feed) (k : K) :
    groupOf key (mergeFeeds key feeds) k =
      feeds.flatMap fun feed => groupOf key feed k := by
  induction feeds with
  | nil => rfl
  | cons feed feeds ih =>
      have tailSorted : ∀ other ∈ feeds, SortedBy key other := fun other member =>
        sorted other (List.mem_cons_of_mem _ member)
      have merged := groupOf_mergeBy (sorted feed List.mem_cons_self)
        (sorted_mergeFeeds tailSorted) k
      rw [List.flatMap_cons, ← ih tailSorted]
      exact merged

/-- The merge rearranges what the feeds hold. -/
theorem mergeFeeds_perm (feeds : List (List α)) :
    (mergeFeeds key feeds).Perm feeds.flatten := by
  induction feeds with
  | nil => exact .refl _
  | cons feed feeds ih =>
      have joined : (mergeFeeds key (feed :: feeds)).Perm
          (feed ++ mergeFeeds key feeds) :=
        List.merge_perm_append _
      exact joined.trans (ih.append_left feed)

/-- Merging what a selection leaves of the feeds. -/
theorem filter_mergeFeeds (p : α → Bool) {feeds : List (List α)}
    (sorted : ∀ feed ∈ feeds, SortedBy key feed) :
    mergeFeeds key (feeds.map (List.filter p)) =
      (mergeFeeds key feeds).filter p := by
  have selectedSorted : ∀ feed ∈ feeds.map (List.filter p), SortedBy key feed := by
    intro feed member
    obtain ⟨whole, inside, rfl⟩ := List.mem_map.mp member
    exact (sorted whole inside).filter p
  apply eq_of_groupOf (sorted_mergeFeeds selectedSorted)
    ((sorted_mergeFeeds sorted).filter p)
  intro k
  rw [groupOf_filter, groupOf_mergeFeeds selectedSorted, groupOf_mergeFeeds sorted,
    List.filter_flatMap, List.flatMap_map]
  congr 1
  funext feed
  exact groupOf_filter p feed k

/-- A window of a sorted list, cut in two. -/
theorem filter_cut {items : List α} (sorted : SortedBy key items) {a m b : K}
    (early : a ≤ m) (late : m ≤ b) :
    (items.filter fun x => decide (a ≤ key x ∧ key x < m)) ++
      (items.filter fun x => decide (m ≤ key x ∧ key x < b)) =
      items.filter fun x => decide (a ≤ key x ∧ key x < b) := by
  have joined : SortedBy key
      ((items.filter fun x => decide (a ≤ key x ∧ key x < m)) ++
        items.filter fun x => decide (m ≤ key x ∧ key x < b)) := by
    apply List.pairwise_append.mpr
    refine ⟨sorted.filter _, sorted.filter _, ?_⟩
    intro x first y second
    have before := of_decide_eq_true (List.mem_filter.mp first).2
    have after := of_decide_eq_true (List.mem_filter.mp second).2
    exact (before.2.trans_le after.1).le
  apply eq_of_groupOf joined (sorted.filter _)
  intro k
  rw [groupOf_append, groupOf_filter, groupOf_filter, groupOf_filter]
  have own : ∀ x ∈ groupOf key items k, key x = k := fun x member =>
    (mem_groupOf.mp member).2
  by_cases side : k < m
  · have second : (groupOf key items k).filter
        (fun x => decide (m ≤ key x ∧ key x < b)) = [] := by
      apply List.filter_eq_nil_iff.mpr
      intro x member
      simp [own x member, side.not_ge]
    rw [second, List.append_nil]
    apply List.filter_congr
    intro x member
    simp [own x member, side, side.trans_le late]
  · have first : (groupOf key items k).filter
        (fun x => decide (a ≤ key x ∧ key x < m)) = [] := by
      apply List.filter_eq_nil_iff.mpr
      intro x member
      simp [own x member, side]
    rw [first, List.nil_append]
    apply List.filter_congr
    intro x member
    have above : m ≤ k := not_lt.mp side
    simp [own x member, above, early.trans above]

end Lib
