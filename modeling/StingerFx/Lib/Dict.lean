/-
Module: StingerFx.Lib.Dict
Layer: Lib
Purpose: Insertion-ordered dictionaries. The entries keep the order in which
  their keys were first inserted, an assignment to a known key changes the value
  in place, and removing a key frees its position. Key uniqueness is a field of
  the structure, so every operation carries its own well-formedness.
Trusted boundary: none (fully proved)
Main exports: Dict, Dict.get?, Dict.set, Dict.erase, Dict.keysWhere, Dict.sum
-/
import Mathlib

namespace Lib

universe u v w

/-- A dictionary with unique keys in insertion order. -/
@[ext] structure Dict (κ : Type u) (ν : Type v) where
  items : List (κ × ν)
  nodup : (items.map Prod.fst).Nodup
deriving DecidableEq

namespace Dict

variable {κ : Type u} {ν : Type v}

instance [Repr κ] [Repr ν] : Repr (Dict κ ν) := ⟨fun d n => reprPrec d.items n⟩

def empty : Dict κ ν := ⟨[], List.nodup_nil⟩

instance : Inhabited (Dict κ ν) := ⟨empty⟩

def keys (d : Dict κ ν) : List κ := d.items.map Prod.fst

def values (d : Dict κ ν) : List ν := d.items.map Prod.snd

section Lookup

variable [DecidableEq κ]

/-- First entry stored under a key. -/
def lookup (k : κ) : List (κ × ν) → Option ν
  | [] => none
  | entry :: rest => if entry.1 = k then some entry.2 else lookup k rest

def get? (d : Dict κ ν) (k : κ) : Option ν := lookup k d.items

def getD (d : Dict κ ν) (k : κ) (default : ν) : ν := (d.get? k).getD default

def contains (d : Dict κ ν) (k : κ) : Bool := (d.get? k).isSome

/-- Overwrite the entry of a known key in place, append an unknown one. -/
def assign (k : κ) (value : ν) : List (κ × ν) → List (κ × ν)
  | [] => [(k, value)]
  | entry :: rest =>
      if entry.1 = k then (k, value) :: rest else entry :: assign k value rest

theorem mem_keys_assign {k other : κ} {value : ν} {items : List (κ × ν)} :
    other ∈ (assign k value items).map Prod.fst ↔
      other = k ∨ other ∈ items.map Prod.fst := by
  induction items with
  | nil => simp [assign]
  | cons entry rest ih =>
      by_cases hit : entry.1 = k
      · subst hit
        simp [assign]
      · simp only [assign, hit, if_false, List.map_cons, List.mem_cons, ih]
        tauto

theorem nodup_assign {k : κ} {value : ν} {items : List (κ × ν)}
    (unique : (items.map Prod.fst).Nodup) :
    ((assign k value items).map Prod.fst).Nodup := by
  induction items with
  | nil => simp [assign]
  | cons entry rest ih =>
      rw [List.map_cons, List.nodup_cons] at unique
      by_cases hit : entry.1 = k
      · subst hit
        simpa [assign] using unique
      · simp only [assign, hit, if_false, List.map_cons, List.nodup_cons]
        refine ⟨?_, ih unique.2⟩
        rw [mem_keys_assign]
        rintro (same | later)
        · exact hit same
        · exact unique.1 later

def set (d : Dict κ ν) (k : κ) (value : ν) : Dict κ ν :=
  ⟨assign k value d.items, nodup_assign d.nodup⟩

def erase (d : Dict κ ν) (k : κ) : Dict κ ν :=
  ⟨d.items.filter (fun entry => decide (entry.1 ≠ k)),
    d.nodup.sublist (List.filter_sublist.map Prod.fst)⟩

/-! ### Lookups after an update -/

@[simp] theorem get?_empty (k : κ) : (empty : Dict κ ν).get? k = none := rfl

theorem lookup_assign (k other : κ) (value : ν) (items : List (κ × ν)) :
    lookup other (assign k value items) =
      if other = k then some value else lookup other items := by
  induction items with
  | nil =>
      by_cases same : other = k
      · simp [assign, lookup, same]
      · have flipped : k ≠ other := fun h => same h.symm
        simp [assign, lookup, same, flipped]
  | cons entry rest ih =>
      by_cases hit : entry.1 = k
      · by_cases same : other = k
        · simp [assign, lookup, hit, same]
        · have flipped : k ≠ other := fun h => same h.symm
          simp [assign, lookup, hit, same, flipped]
      · by_cases here : entry.1 = other
        · have apart : other ≠ k := fun h => hit (here.trans h)
          simp [assign, lookup, here, apart]
        · simp [assign, lookup, hit, here, ih]

theorem lookup_filter_ne (k other : κ) (items : List (κ × ν)) :
    lookup other (items.filter (fun entry => decide (entry.1 ≠ k))) =
      if other = k then none else lookup other items := by
  induction items with
  | nil => simp [lookup]
  | cons entry rest ih =>
      by_cases hit : entry.1 = k
      · by_cases same : other = k
        · simp [hit, same] at ih ⊢
          exact ih
        · have flipped : k ≠ other := fun h => same h.symm
          simp [lookup, hit, same, flipped] at ih ⊢
          exact ih
      · by_cases here : entry.1 = other
        · have apart : other ≠ k := fun h => hit (here.trans h)
          simp [lookup, here, apart]
        · simp [lookup, hit, here] at ih ⊢
          exact ih

theorem get?_set (d : Dict κ ν) (k other : κ) (value : ν) :
    (d.set k value).get? other =
      if other = k then some value else d.get? other :=
  lookup_assign k other value d.items

theorem contains_set (d : Dict κ ν) (k other : κ) (value : ν) :
    (d.set k value).contains other =
      (decide (other = k) || d.contains other) := by
  unfold contains
  rw [get?_set]
  split
  · rename_i same
    simp [same]
  · rename_i apart
    simp [apart]

theorem get?_erase (d : Dict κ ν) (k other : κ) :
    (d.erase k).get? other = if other = k then none else d.get? other :=
  lookup_filter_ne k other d.items

@[simp] theorem get?_set_self (d : Dict κ ν) (k : κ) (value : ν) :
    (d.set k value).get? k = some value := by
  simp [get?_set]

theorem get?_set_of_ne (d : Dict κ ν) {k other : κ} (value : ν)
    (apart : other ≠ k) : (d.set k value).get? other = d.get? other := by
  simp [get?_set, apart]

@[simp] theorem get?_erase_self (d : Dict κ ν) (k : κ) :
    (d.erase k).get? k = none := by
  simp [get?_erase]

theorem get?_erase_of_ne (d : Dict κ ν) {k other : κ} (apart : other ≠ k) :
    (d.erase k).get? other = d.get? other := by
  simp [get?_erase, apart]

theorem getD_set (d : Dict κ ν) (k other : κ) (value fallback : ν) :
    (d.set k value).getD other fallback =
      if other = k then value else d.getD other fallback := by
  unfold getD
  rw [get?_set]
  split <;> rfl

/-- Remove several keys. -/
def eraseAll (d : Dict κ ν) (ks : List κ) : Dict κ ν := ks.foldl erase d

theorem get?_eraseAll (d : Dict κ ν) (ks : List κ) (k : κ) :
    (d.eraseAll ks).get? k = if k ∈ ks then none else d.get? k := by
  induction ks generalizing d with
  | nil => simp [eraseAll]
  | cons first rest ih =>
      have later : (d.eraseAll (first :: rest)).get? k =
          if k ∈ rest then none else (d.erase first).get? k := ih (d.erase first)
      rw [later, get?_erase]
      by_cases here : k = first
      · simp [here]
      · simp [here]

/-! ### Entries, keys and lookups -/

theorem lookup_eq_some_iff {k : κ} {value : ν} {items : List (κ × ν)}
    (unique : (items.map Prod.fst).Nodup) :
    lookup k items = some value ↔ (k, value) ∈ items := by
  induction items with
  | nil => simp [lookup]
  | cons entry rest ih =>
      rw [List.map_cons, List.nodup_cons] at unique
      by_cases hit : entry.1 = k
      · subst hit
        have absent : (entry.1, value) ∉ rest := fun member =>
          unique.1 (List.mem_map.mpr ⟨_, member, rfl⟩)
        simp [lookup, absent, Prod.ext_iff, eq_comm]
      · have other : (k, value) ≠ entry := fun same => hit (by rw [← same])
        simp [lookup, hit, ih unique.2, other]

theorem get?_eq_some_iff (d : Dict κ ν) {k : κ} {value : ν} :
    d.get? k = some value ↔ (k, value) ∈ d.items :=
  lookup_eq_some_iff d.nodup

theorem get?_isSome_iff (d : Dict κ ν) {k : κ} :
    (d.get? k).isSome ↔ k ∈ d.keys := by
  rw [Option.isSome_iff_exists]
  simp [get?_eq_some_iff, keys]

theorem get?_eq_none_iff (d : Dict κ ν) {k : κ} :
    d.get? k = none ↔ k ∉ d.keys := by
  rw [← d.get?_isSome_iff]
  simp

theorem mem_values_iff (d : Dict κ ν) {value : ν} :
    value ∈ d.values ↔ ∃ k, d.get? k = some value := by
  simp [values, get?_eq_some_iff]

/-- A search among the values for the one named `k`, where every value is named
by its key, is a lookup. -/
theorem find?_values (d : Dict κ ν) {name : ν → κ} {k : κ}
    (named : ∀ {key value}, d.get? key = some value → name value = key) :
    (d.values.find? fun value => decide (name value = k)) = d.get? k := by
  cases stored : d.get? k with
  | none =>
      rw [List.find?_eq_none]
      intro value member
      rcases d.mem_values_iff.mp member with ⟨key, found⟩
      have other : name value ≠ k := by
        intro same
        rw [← same, named found, found] at stored
        cases stored
      simpa using other
  | some value =>
      have member : value ∈ d.values := d.mem_values_iff.mpr ⟨k, stored⟩
      have hit : (d.values.find? fun v => decide (name v = k)).isSome := by
        rw [List.find?_isSome]
        exact ⟨value, member, by simpa using named stored⟩
      obtain ⟨found, first⟩ := Option.isSome_iff_exists.mp hit
      have same : name found = k := by simpa using List.find?_some first
      rcases d.mem_values_iff.mp (List.mem_of_find?_eq_some first) with
        ⟨key, kept⟩
      rw [named kept] at same
      subst same
      rw [first, ← kept, stored]

theorem mem_keys_set (d : Dict κ ν) {k other : κ} {value : ν} :
    other ∈ (d.set k value).keys ↔ other = k ∨ other ∈ d.keys :=
  mem_keys_assign

theorem mem_keys_erase (d : Dict κ ν) {k other : κ} :
    other ∈ (d.erase k).keys ↔ other ≠ k ∧ other ∈ d.keys := by
  rw [← get?_isSome_iff, ← get?_isSome_iff, get?_erase]
  by_cases same : other = k <;> simp [same]

/-! ### Keys by their values -/

/-- The keys whose entries meet a condition. -/
def keysWhere (d : Dict κ ν) (p : κ → ν → Bool) : Finset κ :=
  ((d.items.filter fun entry => p entry.1 entry.2).map Prod.fst).toFinset

theorem mem_keysWhere {d : Dict κ ν} {p : κ → ν → Bool} {k : κ} :
    k ∈ d.keysWhere p ↔ ∃ value, d.get? k = some value ∧ p k value = true := by
  simp [keysWhere, get?_eq_some_iff]

/-! ### Sums over the values

An assignment replaces the share of the old value by the share of the new one;
a removal drops it. -/

variable {M : Type w} [AddCommGroup M]

/-- Sum of a quantity over all stored values. -/
def sum (d : Dict κ ν) (share : ν → M) : M :=
  (d.items.map (fun entry => share entry.2)).sum

omit [DecidableEq κ] in
@[simp] theorem sum_empty (share : ν → M) :
    (empty : Dict κ ν).sum share = 0 := rfl

/-- Share of the value stored under a key, zero for an unknown key. -/
def shareAt (d : Dict κ ν) (k : κ) (share : ν → M) : M :=
  ((d.get? k).map share).getD 0

theorem sum_assign (k : κ) (value : ν) (share : ν → M)
    (items : List (κ × ν)) :
    ((assign k value items).map (fun entry => share entry.2)).sum =
      (items.map (fun entry => share entry.2)).sum + share value -
        ((lookup k items).map share).getD 0 := by
  induction items with
  | nil => simp [assign, lookup]
  | cons entry rest ih =>
      by_cases hit : entry.1 = k
      · simp [assign, lookup, hit]
        abel
      · simp only [assign, lookup, hit, if_false, List.map_cons, List.sum_cons, ih]
        abel

theorem sum_filter_ne (k : κ) (share : ν → M) {items : List (κ × ν)}
    (unique : (items.map Prod.fst).Nodup) :
    ((items.filter (fun entry => decide (entry.1 ≠ k))).map
        (fun entry => share entry.2)).sum =
      (items.map (fun entry => share entry.2)).sum -
        ((lookup k items).map share).getD 0 := by
  induction items with
  | nil => simp [lookup]
  | cons entry rest ih =>
      rw [List.map_cons, List.nodup_cons] at unique
      have tail := ih unique.2
      by_cases hit : entry.1 = k
      · have absent : lookup k rest = none := by
          by_contra found
          obtain ⟨value, stored⟩ := Option.ne_none_iff_exists'.mp found
          have member := (lookup_eq_some_iff unique.2).mp stored
          exact unique.1 (hit ▸ List.mem_map.mpr ⟨_, member, rfl⟩)
        rw [absent] at tail
        simp [lookup, hit] at tail ⊢
        exact tail
      · simp [lookup, hit] at tail ⊢
        rw [tail]
        abel

theorem sum_set (d : Dict κ ν) (k : κ) (value : ν) (share : ν → M) :
    (d.set k value).sum share = d.sum share + share value - d.shareAt k share :=
  sum_assign k value share d.items

theorem sum_erase (d : Dict κ ν) (k : κ) (share : ν → M) :
    (d.erase k).sum share = d.sum share - d.shareAt k share :=
  sum_filter_ne k share d.nodup

theorem shareAt_of_get? {d : Dict κ ν} {k : κ} {value : ν} (share : ν → M)
    (stored : d.get? k = some value) : d.shareAt k share = share value := by
  simp [shareAt, stored]

theorem shareAt_of_fresh {d : Dict κ ν} {k : κ} (share : ν → M)
    (fresh : d.get? k = none) : d.shareAt k share = 0 := by
  simp [shareAt, fresh]

/-! Where no share is negative, a sum grows by at most what comes in. -/

variable [PartialOrder M]

theorem shareAt_nonneg (d : Dict κ ν) (k : κ) {share : ν → M}
    (nonneg : ∀ value, 0 ≤ share value) : 0 ≤ d.shareAt k share := by
  unfold shareAt
  cases d.get? k with
  | none => exact le_rfl
  | some value => exact nonneg value

variable [IsOrderedAddMonoid M]

theorem sum_erase_le (d : Dict κ ν) (k : κ) {share : ν → M}
    (nonneg : ∀ value, 0 ≤ share value) :
    (d.erase k).sum share ≤ d.sum share := by
  rw [sum_erase]
  exact sub_le_self _ (d.shareAt_nonneg k nonneg)

theorem sum_set_le (d : Dict κ ν) (k : κ) (value : ν) {share : ν → M}
    (nonneg : ∀ value, 0 ≤ share value) :
    (d.set k value).sum share ≤ d.sum share + share value := by
  rw [sum_set]
  exact sub_le_self _ (d.shareAt_nonneg k nonneg)

end Lookup

end Dict

end Lib
