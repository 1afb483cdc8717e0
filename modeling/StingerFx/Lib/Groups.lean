/-
Module: StingerFx.Lib.Groups
Layer: Lib
Purpose: Grouping of a list by a key. There is one group for each key that occurs,
  with all the elements of this key in their order. Where the keys come in order,
  one more element either joins the last group or begins a new one, which is what
  a stream can follow: one that gives a summary away when the next group begins gives
  away the summaries of all groups but the last. Groups by a coarser key are made of
  the groups by a finer one, one after the other.
Trusted boundary: none (fully proved)
Main exports: groupOf, groups, groups_snoc, groups_increasing, mem_groups,
  flatMap_groups, groups_coarse, groups_before, groups_rename, groups_forall₂,
  GroupStream, GroupStream.run, GroupStream.run_eq
-/
import Mathlib

namespace Lib

universe u v w

variable {α : Type u} {κ : Type v} [DecidableEq κ] (key : α → κ)

/-- The elements of one key. -/
def groupOf (items : List α) (k : κ) : List α :=
  items.filter fun item => decide (key item = k)

/-- One group for each key that occurs. -/
def groups (items : List α) : List (κ × List α) :=
  (items.map key).dedup.map fun k => (k, groupOf key items k)

variable {key} {items : List α} {item : α} {k : κ}

theorem mem_groups {group : κ × List α} :
    group ∈ groups key items ↔
      (∃ item ∈ items, key item = group.1) ∧
        group.2 = groupOf key items group.1 := by
  obtain ⟨k, members⟩ := group
  constructor
  · intro member
    rcases List.mem_map.mp member with ⟨k', occurs, same⟩
    cases same
    exact ⟨List.mem_map.mp (List.mem_dedup.mp occurs), rfl⟩
  · rintro ⟨occurs, same⟩
    dsimp only at same
    subst same
    exact List.mem_map.mpr
      ⟨k, List.mem_dedup.mpr (List.mem_map.mpr occurs), rfl⟩

theorem groups_keys (items : List α) :
    (groups key items).map Prod.fst = (items.map key).dedup := by
  rw [groups, List.map_map]
  exact List.map_id _

@[simp] theorem groups_nil : groups key [] = [] := rfl

theorem groups_singleton (item : α) :
    groups key [item] = [(key item, [item])] := by
  simp [groups, groupOf]

theorem groupOf_append (one two : List α) (k : κ) :
    groupOf key (one ++ two) k = groupOf key one k ++ groupOf key two k :=
  List.filter_append one two

theorem groupOf_eq_nil (absent : ∀ item ∈ items, key item ≠ k) :
    groupOf key items k = [] := by
  apply List.filter_eq_nil_iff.mpr
  intro item member
  simpa using absent item member

/-- One more element of the key that comes last. -/
theorem dedup_concat_last {keys : List κ} (last : keys.dedup.getLast? = some k) :
    (keys ++ [k]).dedup = keys.dedup := by
  induction keys with
  | nil => cases last
  | cons first rest ih =>
      by_cases again : first ∈ rest
      · rw [List.dedup_cons_of_mem again] at last ⊢
        rw [List.cons_append,
          List.dedup_cons_of_mem (List.mem_append_left _ again), ih last]
      · rw [List.dedup_cons_of_notMem again] at last ⊢
        cases others : rest.dedup with
        | nil =>
            have none : rest = [] := (List.dedup_eq_nil rest).mp others
            rw [others] at last
            cases last
            subst none
            simp
        | cons second later =>
            rw [others, List.getLast?_cons_cons, ← others] at last
            have there : k ∈ rest :=
              List.mem_dedup.mp (List.mem_of_getLast? last)
            have apart : first ∉ rest ++ [k] := by
              intro member
              rcases List.mem_append.mp member with inside | new
              · exact again inside
              · rw [List.mem_singleton.mp new] at again
                exact again there
            rw [List.cons_append, List.dedup_cons_of_notMem apart, ih last,
              others]

/-- An element of a key that has not occurred begins a group. -/
theorem groups_concat_new (new : ∀ other ∈ items, key other ≠ key item) :
    groups key (items ++ [item]) =
      groups key items ++ [(key item, [item])] := by
  have apart : List.Disjoint (items.map key) ([item].map key) := by
    intro k old added
    rcases List.mem_map.mp old with ⟨other, member, rfl⟩
    rcases List.mem_map.mp added with ⟨_, one, same⟩
    rw [List.mem_singleton.mp one] at same
    exact new other member same.symm
  unfold groups
  rw [List.map_append, List.Disjoint.dedup_append apart, List.map_append]
  congr 1
  · apply List.map_congr_left
    intro k occurs
    rcases List.mem_map.mp (List.mem_dedup.mp occurs) with ⟨other, member, rfl⟩
    have fresh : groupOf key [item] (key other) = [] :=
      groupOf_eq_nil fun one here => by
        rw [List.mem_singleton.mp here]
        exact (new other member).symm
    rw [groupOf_append, fresh, List.append_nil]
  · have own : groupOf key (items ++ [item]) (key item) = [item] := by
      rw [groupOf_append, groupOf_eq_nil new, List.nil_append]
      simp [groupOf]
    have one : [key item].dedup = [key item] :=
      (List.nodup_singleton _).dedup
    rw [List.map_singleton, one, List.map_singleton, own]

/-- An element of the last key joins the last group. -/
theorem groups_concat_same {closed : List (κ × List α)} {members : List α}
    (split : groups key items = closed ++ [(k, members)])
    (same : key item = k) :
    groups key (items ++ [item]) = closed ++ [(k, members ++ [item])] := by
  have keys : (groups key items).map Prod.fst = (items.map key).dedup :=
    groups_keys items
  rw [split, List.map_append] at keys
  have last : (items.map key).dedup.getLast? = some k := by
    rw [← keys]
    simp
  have unique : (closed.map Prod.fst ++ [k]).Nodup := by
    have nodup := List.nodup_dedup (items.map key)
    rw [← keys] at nodup
    exact nodup
  have grown : ∀ k', groupOf key (items ++ [item]) k' =
      if k' = k then groupOf key items k' ++ [item]
      else groupOf key items k' := by
    intro k'
    rw [groupOf_append]
    by_cases hit : k' = k
    · simp [hit, groupOf, same]
    · have other : key item ≠ k' := fun h => hit (h.symm.trans same)
      simp [hit, groupOf, other]
  have entries : ∀ group ∈ closed ++ [(k, members)],
      group.2 = groupOf key items group.1 := by
    intro group member
    rw [← split] at member
    exact (mem_groups.mp member).2
  have old : groups key (items ++ [item]) =
      ((items.map key).dedup).map
        fun k' => (k', groupOf key (items ++ [item]) k') := by
    unfold groups
    rw [List.map_append, List.map_singleton, same, dedup_concat_last last]
  rw [old, ← keys, List.map_append, List.map_map]
  congr 1
  · nth_rewrite 2 [← List.map_id closed]
    apply List.map_congr_left
    intro group member
    have apart : group.1 ≠ k := by
      intro hit
      rw [List.nodup_append] at unique
      exact unique.2.2 group.1 (List.mem_map_of_mem member) k
        List.mem_cons_self hit
    have known := entries group (List.mem_append_left _ member)
    simp only [Function.comp_apply, grown, if_neg apart, ← known, id_eq]
  · have known := entries (k, members) (List.mem_append_right _ (by simp))
    dsimp only at known
    simp [grown, ← known]

section Order

variable {κ : Type v} [LinearOrder κ] {key : α → κ} {k : κ}

/-- Where keys come in order, the groups do too. -/
theorem groups_increasing (sorted : (items.map key).Pairwise (· ≤ ·)) :
    ((groups key items).map Prod.fst).Pairwise (· < ·) := by
  rw [groups_keys]
  have weak : (items.map key).dedup.Pairwise (· ≤ ·) :=
    sorted.sublist (List.dedup_sublist _)
  have unique : (items.map key).dedup.Pairwise (· ≠ ·) :=
    List.nodup_dedup _
  exact (weak.and unique).imp fun both => lt_of_le_of_ne both.1 both.2

/-- One more element, in the order of the keys. -/
theorem groups_snoc {closed : List (κ × List α)} {members : List α}
    (sorted : ((items ++ [item]).map key).Pairwise (· ≤ ·))
    (split : groups key items = closed ++ [(k, members)]) :
    key item = k ∧
        groups key (items ++ [item]) = closed ++ [(k, members ++ [item])] ∨
      k < key item ∧
        groups key (items ++ [item]) =
          closed ++ [(k, members)] ++ [(key item, [item])] := by
  rw [List.map_append, List.pairwise_append] at sorted
  rcases sorted with ⟨before, -, bound⟩
  have later : ∀ other ∈ items, key other ≤ key item := fun other member =>
    bound _ (List.mem_map_of_mem member) _ (by simp)
  have last : (k, members) ∈ groups key items := by
    rw [split]
    simp
  rcases (mem_groups.mp last).1 with ⟨witness, there, here⟩
  rcases eq_or_lt_of_le (later witness there) with same | above
  · refine .inl ⟨same.symm.trans here, ?_⟩
    exact groups_concat_same split (same.symm.trans here)
  · dsimp only at here
    rw [here] at above
    refine .inr ⟨above, ?_⟩
    rw [← split]
    apply groups_concat_new
    intro other member same
    -- no key of the list is beyond the last one
    have increasing := groups_increasing before
    rw [split, List.map_append, List.pairwise_append] at increasing
    have occurs : key other ∈ (groups key items).map Prod.fst := by
      rw [groups_keys]
      exact List.mem_dedup.mpr (List.mem_map_of_mem member)
    rw [split, List.map_append] at occurs
    rcases List.mem_append.mp occurs with inside | final
    · have below := increasing.2.2 _ inside k (by simp)
      rw [same] at below
      exact absurd below (lt_asymm above)
    · have equal : key other = k := by simpa using final
      rw [← same, equal] at above
      exact lt_irrefl _ above

end Order

/-! ### Groups of groups -/

section Coarse

variable {α : Type u} {κ : Type v} {γ : Type w}

theorem groups_eq_nil [DecidableEq κ] {key : α → κ} {items : List α} :
    groups key items = [] ↔ items = [] := by
  constructor
  · intro empty
    have keys : (groups key items).map Prod.fst = (items.map key).dedup :=
      groups_keys items
    rw [empty, List.map_nil] at keys
    exact List.map_eq_nil_iff.mp ((List.dedup_eq_nil _).mp keys.symm)
  · rintro rfl
    rfl

/-- What is left of a list after its duplicates are gone has the values that the whole
list has, in the same order. -/
theorem dedup_map_dedup [DecidableEq κ] [DecidableEq γ] (coarse : κ → γ)
    (keys : List κ) : (keys.dedup.map coarse).dedup = (keys.map coarse).dedup := by
  induction keys with
  | nil => rfl
  | cons first rest ih =>
      have occurs : ∀ c, c ∈ rest.dedup.map coarse ↔ c ∈ rest.map coarse := by
        intro c
        simp only [List.mem_map, List.mem_dedup]
      by_cases again : first ∈ rest
      · rw [List.dedup_cons_of_mem again, ih, List.map_cons,
          List.dedup_cons_of_mem (List.mem_map_of_mem again)]
      · rw [List.dedup_cons_of_notMem again, List.map_cons, List.map_cons]
        by_cases seen : coarse first ∈ rest.map coarse
        · rw [List.dedup_cons_of_mem ((occurs _).mpr seen),
            List.dedup_cons_of_mem seen, ih]
        · rw [List.dedup_cons_of_notMem fun member => seen ((occurs _).mp member),
            List.dedup_cons_of_notMem seen, ih]

/-- A test that each part of a list passes as a whole or not at all. -/
theorem filter_flatMap_uniform {β : Type v} {parts : List β} {items : β → List α}
    {whole : β → Bool} {test : α → Bool}
    (uniform : ∀ part ∈ parts, ∀ item ∈ items part, test item = whole part) :
    (parts.flatMap items).filter test = (parts.filter whole).flatMap items := by
  induction parts with
  | nil => rfl
  | cons part parts ih =>
      have rest := ih fun other member =>
        uniform other (List.mem_cons_of_mem _ member)
      have here := uniform part List.mem_cons_self
      rw [List.flatMap_cons, List.filter_append, rest]
      cases passes : whole part with
      | true =>
          rw [List.filter_cons_of_pos passes, List.flatMap_cons,
            List.filter_eq_self.mpr fun item member => (here item member).trans passes]
      | false =>
          rw [List.filter_cons_of_neg (by simp [passes]),
            List.filter_eq_nil_iff.mpr fun item member => by
              simp [(here item member).trans passes], List.nil_append]

/-- Where the keys come in order, the groups are consecutive stretches. -/
theorem flatMap_groups [LinearOrder κ] {key : α → κ} {items : List α}
    (sorted : (items.map key).Pairwise (· ≤ ·)) :
    (groups key items).flatMap Prod.snd = items := by
  induction items using List.reverseRecOn with
  | nil => rfl
  | append_singleton items item ih =>
      have before : (items.map key).Pairwise (· ≤ ·) := by
        rw [List.map_append, List.pairwise_append] at sorted
        exact sorted.1
      have earlier := ih before
      rcases List.eq_nil_or_concat (groups key items) with empty | ⟨closed, last, split⟩
      · rw [groups_eq_nil.mp empty, List.nil_append, groups_singleton]
        rfl
      · obtain ⟨k, members⟩ := last
        rw [List.concat_eq_append] at split
        rw [split] at earlier
        rcases groups_snoc sorted split with ⟨-, grown⟩ | ⟨-, begun⟩
        · rw [grown, ← earlier]
          simp
        · rw [begun, ← earlier]
          simp

/-- The groups of a coarser key are made of those of a finer one. -/
theorem groups_coarse [LinearOrder κ] [DecidableEq γ] {key : α → κ} {items : List α}
    (coarse : κ → γ) (sorted : (items.map key).Pairwise (· ≤ ·)) :
    groups (fun item => coarse (key item)) items =
      (groups (fun group => coarse group.1) (groups key items)).map
        fun big => (big.1, big.2.flatMap Prod.snd) := by
  have keys : (groups key items).map (fun group => coarse group.1) =
      (items.map key).dedup.map coarse := by
    rw [← groups_keys items, List.map_map]
    rfl
  have whole : (items.map fun item => coarse (key item)) =
      (items.map key).map coarse := by
    rw [List.map_map]
    rfl
  rw [groups, whole, ← dedup_map_dedup]
  conv_rhs => rw [groups, keys, List.map_map]
  apply List.map_congr_left
  intro c _
  have parts := flatMap_groups sorted
  have uniform : ∀ group ∈ groups key items, ∀ item ∈ group.2,
      decide (coarse (key item) = c) = decide (coarse group.1 = c) := by
    intro group member item inside
    rw [(mem_groups.mp member).2] at inside
    rw [of_decide_eq_true (List.mem_filter.mp inside).2]
  rw [Function.comp_apply]
  dsimp only
  rw [groupOf, groupOf, ← filter_flatMap_uniform uniform, parts]

/-- The last group is that of the last item. -/
theorem groups_last [LinearOrder κ] {key : α → κ} {items : List α} {item : α}
    (sorted : ((items ++ [item]).map key).Pairwise (· ≤ ·)) :
    ∃ closed members, groups key (items ++ [item]) = closed ++ [(key item, members)] := by
  rcases List.eq_nil_or_concat (groups key items) with empty | ⟨closed, last, split⟩
  · refine ⟨[], [item], ?_⟩
    rw [groups_eq_nil.mp empty, List.nil_append, groups_singleton]
    rfl
  · obtain ⟨k, members⟩ := last
    rw [List.concat_eq_append] at split
    rcases groups_snoc sorted split with ⟨same, grown⟩ | ⟨-, begun⟩
    · exact ⟨closed, members ++ [item], by rw [grown, same]⟩
    · exact ⟨closed ++ [(k, members)], [item], begun⟩

/-- Whatever the next item begins: the groups before that of an item are those that
are closed once it is there. -/
theorem groups_before [LinearOrder κ] {key : α → κ} {items : List α} {item next : α}
    (sorted : ((items ++ [item] ++ [next]).map key).Pairwise (· ≤ ·)) :
    ((groups key (items ++ [item] ++ [next])).dropLast.filter
        fun group => decide (group.1 < key item)) =
      (groups key (items ++ [item])).dropLast := by
  have before : ((items ++ [item]).map key).Pairwise (· ≤ ·) := by
    rw [List.map_append, List.pairwise_append] at sorted
    exact sorted.1
  obtain ⟨closed, members, split⟩ := groups_last before
  have increasing := groups_increasing before
  rw [split, List.map_append, List.pairwise_append] at increasing
  have earlier : (closed.filter fun group => decide (group.1 < key item)) = closed := by
    apply List.filter_eq_self.mpr
    intro group member
    exact decide_eq_true (increasing.2.2 group.1 (List.mem_map_of_mem member) _
      List.mem_cons_self)
  rw [split, List.dropLast_concat]
  rcases groups_snoc sorted split with ⟨-, grown⟩ | ⟨-, begun⟩
  · rw [grown, List.dropLast_concat, earlier]
  · rw [begun, List.dropLast_concat, List.filter_append, earlier,
      List.filter_cons_of_neg (by simp), List.filter_nil, List.append_nil]

/-- Another name for each key. -/
theorem groups_rename [DecidableEq κ] [DecidableEq γ] {key : α → κ} {items : List α}
    {name : κ → γ} (injective : Function.Injective name) :
    groups (fun item => name (key item)) items =
      (groups key items).map fun group => (name group.1, group.2) := by
  have names : (items.map fun item => name (key item)) = (items.map key).map name := by
    rw [List.map_map]
    rfl
  rw [groups, names, List.dedup_map_of_injective injective, groups, List.map_map,
    List.map_map]
  apply List.map_congr_left
  intro k _
  simp only [Function.comp_apply, groupOf, injective.eq_iff]

/-- Lists that agree item by item have groups that do. -/
theorem groups_forall₂ {β : Type w} [DecidableEq κ] {R : α → β → Prop} {keyA : α → κ}
    {keyB : β → κ} {as : List α} {bs : List β}
    (same : ∀ a b, R a b → keyA a = keyB b) (rel : List.Forall₂ R as bs) :
    List.Forall₂ (fun g h => g.1 = h.1 ∧ List.Forall₂ R g.2 h.2)
      (groups keyA as) (groups keyB bs) := by
  have keys : as.map keyA = bs.map keyB := by
    induction rel with
    | nil => rfl
    | cons head tail ih => rw [List.map_cons, List.map_cons, same _ _ head, ih]
  have members : ∀ k, List.Forall₂ R (groupOf keyA as k) (groupOf keyB bs k) := by
    intro k
    apply List.rel_filter (fun a b related => ?_) rel
    dsimp only
    rw [same a b related]
  unfold groups
  rw [keys, List.forall₂_map_left_iff, List.forall₂_map_right_iff, List.forall₂_same]
  exact fun k _ => ⟨rfl, members k⟩

end Coarse

/-! ### Lists that agree -/

/-- Lists that each agree with a third one, item by item. -/
theorem forall₂_meet {α : Type u} {β : Type v} {γ : Type w} {R : α → γ → Prop}
    {Q : β → γ → Prop} {T : α → β → Prop} {as : List α} {bs : List β} {cs : List γ}
    (one : List.Forall₂ R as cs) (two : List.Forall₂ Q bs cs)
    (meets : ∀ a b c, R a c → Q b c → T a b) : List.Forall₂ T as bs := by
  induction one generalizing bs with
  | nil =>
      cases two
      exact .nil
  | cons head tail ih =>
      cases two with
      | cons head' tail' => exact .cons (meets _ _ _ head head') (ih tail')

/-- A function that has a value for each item. -/
theorem forall₂_filterMap {α : Type u} {β : Type v} {γ : Type w} {R : α → β → Prop}
    {S : γ → β → Prop} {f : α → Option γ} {as : List α} {bs : List β}
    (rel : List.Forall₂ R as bs) (value : ∀ a b, R a b → ∃ c, f a = some c ∧ S c b) :
    List.Forall₂ S (as.filterMap f) bs := by
  induction rel with
  | nil => exact .nil
  | cons head tail ih =>
      obtain ⟨c, found, related⟩ := value _ _ head
      rw [List.filterMap_cons_some found]
      exact .cons related ih

/-! ### Summaries in a stream -/

/-- How the items of a group are summarised: by the first one, and by each one that
joins. -/
structure GroupStream (α : Type u) (κ : Type v) (σ : Type w) where
  key : α → κ
  opens : α → σ
  joins : σ → α → σ

namespace GroupStream

variable {α : Type u} {κ : Type v} {σ : Type w}

/-- The summary of some items. -/
def summary (stream : GroupStream α κ σ) : List α → Option σ
  | [] => none
  | first :: rest => some (rest.foldl stream.joins (stream.opens first))

/-- The summary of a group under its key. -/
def summarised (stream : GroupStream α κ σ) (group : κ × List α) : Option (κ × σ) :=
  (stream.summary group.2).map fun total => (group.1, total)

/-- One more item: the group in the making, and the one that it ends. -/
def step [DecidableEq κ] (stream : GroupStream α κ σ) (current : Option (κ × σ))
    (item : α) : Option (κ × σ) × Option (κ × σ) :=
  match current with
  | none => (some (stream.key item, stream.opens item), none)
  | some (k, total) =>
      if stream.key item = k then (some (k, stream.joins total item), none)
      else (some (stream.key item, stream.opens item), some (k, total))

section Step

variable [DecidableEq κ] {stream : GroupStream α κ σ} {item : α} {k : κ} {total : σ}

@[simp] theorem step_none :
    stream.step none item = (some (stream.key item, stream.opens item), none) := rfl

theorem step_same (same : stream.key item = k) :
    stream.step (some (k, total)) item = (some (k, stream.joins total item), none) :=
  if_pos same

theorem step_other (other : stream.key item ≠ k) :
    stream.step (some (k, total)) item =
      (some (stream.key item, stream.opens item), some (k, total)) :=
  if_neg other

end Step

/-- The group in the making after some items, and those that were given away. -/
def run [DecidableEq κ] (stream : GroupStream α κ σ) (items : List α) :
    Option (κ × σ) × List (κ × σ) :=
  items.foldl
    (fun state item =>
      let next := stream.step state.1 item
      (next.1, state.2 ++ next.2.toList))
    (none, [])

theorem run_concat [DecidableEq κ] (stream : GroupStream α κ σ) (items : List α)
    (item : α) :
    stream.run (items ++ [item]) =
      ((stream.step (stream.run items).1 item).1,
        (stream.run items).2 ++ (stream.step (stream.run items).1 item).2.toList) := by
  simp [run]

variable {stream : GroupStream α κ σ} {items : List α}

theorem summary_concat {members : List α} {total : σ} (item : α)
    (known : stream.summary members = some total) :
    stream.summary (members ++ [item]) = some (stream.joins total item) := by
  cases members with
  | nil => cases known
  | cons first rest =>
      cases known
      simp [summary]

variable [LinearOrder κ]

/-- Items in the order of their keys: what was given away are the summaries of all
groups but the last. -/
theorem run_eq (sorted : (items.map stream.key).Pairwise (· ≤ ·)) :
    (stream.run items).1 = (groups stream.key items).getLast?.bind stream.summarised ∧
      (stream.run items).2 =
        (groups stream.key items).dropLast.filterMap stream.summarised := by
  induction items using List.reverseRecOn with
  | nil => exact ⟨rfl, rfl⟩
  | append_singleton items item ih =>
      have before : (items.map stream.key).Pairwise (· ≤ ·) := by
        rw [List.map_append, List.pairwise_append] at sorted
        exact sorted.1
      obtain ⟨current, gone⟩ := ih before
      rw [run_concat]
      rcases List.eq_nil_or_concat (groups stream.key items) with
        empty | ⟨closed, last, split⟩
      · rw [groups_eq_nil.mp empty, List.nil_append, groups_singleton]
        exact ⟨rfl, rfl⟩
      · obtain ⟨k, members⟩ := last
        rw [List.concat_eq_append] at split
        rw [split, List.getLast?_concat] at current
        rw [split, List.dropLast_concat] at gone
        obtain ⟨total, known⟩ : ∃ total, stream.summary members = some total := by
          cases members with
          | nil =>
              have there : (k, []) ∈ groups stream.key items := by
                rw [split]
                simp
              obtain ⟨⟨other, inside, same⟩, none_⟩ := mem_groups.mp there
              have found : other ∈ groupOf stream.key items k :=
                List.mem_filter.mpr ⟨inside, decide_eq_true same⟩
              dsimp only at none_
              rw [← none_] at found
              cases found
          | cons first rest => exact ⟨_, rfl⟩
        have open_ : (stream.run items).1 = some (k, total) := by
          rw [current]
          simp [summarised, known]
        rcases groups_snoc sorted split with ⟨same, grown⟩ | ⟨later, begun⟩
        · rw [grown, open_, step_same same, gone, List.getLast?_concat, List.dropLast_concat]
          constructor
          · simp [summarised, summary_concat item known]
          · simp
        · rw [begun, open_, step_other later.ne', gone, List.getLast?_concat, List.dropLast_concat]
          constructor
          · rfl
          · simp [summarised, known, List.filterMap_append]

end GroupStream

end Lib
