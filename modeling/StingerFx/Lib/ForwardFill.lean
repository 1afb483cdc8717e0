/-
Module: StingerFx.Lib.ForwardFill
Layer: Lib
Purpose: Curves of samples as step functions. Between two samples the last value holds.
  A pointer that moves along a sorted curve and a fill of a grid from a dictionary both
  compute it.
Trusted boundary: none (fully proved)
Main exports: lastAt, lastAt_lastAt, Pointer, Pointer.advance, Pointer.advance_eq, fillFrom,
  fillFrom_eq, Dict.ofPairs, deltasOf, deltasOf_sum, sortedUnion, sortedUnion_congr
-/
import StingerFx.Lib.Dict
import StingerFx.Lib.StableSort

namespace Lib

universe u v

section Curves

variable {K : Type u} {V : Type v} [LinearOrder K]

/-- The last value at or before a key, the initial one before all samples. -/
def lastAt (initial : V) (curve : List (K × V)) (t : K) : V :=
  ((curve.filter fun sample => decide (sample.1 ≤ t)).getLast?.map Prod.snd).getD initial

/-- In the order of the keys. -/
abbrev Timed (curve : List (K × V)) : Prop := SortedBy Prod.fst curve

theorem lastAt_cons_of_le {initial : V} {sample : K × V} {rest : List (K × V)} {t : K}
    (reached : sample.1 ≤ t) :
    lastAt initial (sample :: rest) t = lastAt sample.2 rest t := by
  rw [lastAt, List.filter_cons_of_pos (by simpa using reached), List.getLast?_cons, lastAt]
  cases (rest.filter fun sample => decide (sample.1 ≤ t)).getLast? <;> rfl

/-- Before the first sample of a sorted curve. -/
theorem lastAt_of_lt {initial : V} {curve : List (K × V)} {t : K}
    (ahead : ∀ sample ∈ curve, t < sample.1) : lastAt initial curve t = initial := by
  have none : curve.filter (fun sample => decide (sample.1 ≤ t)) = [] :=
    List.filter_eq_nil_iff.mpr fun sample member reached =>
      not_le_of_gt (ahead sample member) (of_decide_eq_true reached)
  rw [lastAt, none]
  rfl

/-- With the first sample all of a sorted curve lies ahead. -/
theorem all_ahead {sample : K × V} {rest : List (K × V)} {t : K}
    (first : ∀ other ∈ rest, sample.1 ≤ other.1) (unreached : ¬ sample.1 ≤ t) :
    ∀ other ∈ sample :: rest, t < other.1 :=
  List.forall_mem_cons.mpr ⟨not_le.mp unreached, fun other member =>
    lt_of_lt_of_le (not_le.mp unreached) (first other member)⟩

/-- Filling goes on from any key: what lies behind it is its value. -/
theorem lastAt_lastAt {initial : V} {curve : List (K × V)} {t later : K}
    (timed : Timed curve) (after : t ≤ later) :
    lastAt (lastAt initial curve t) (curve.filter fun sample => decide (t < sample.1)) later =
      lastAt initial curve later := by
  induction curve generalizing initial with
  | nil => rfl
  | cons sample rest ih =>
      obtain ⟨first, timed⟩ := List.pairwise_cons.mp timed
      by_cases reached : sample.1 ≤ t
      · rw [lastAt_cons_of_le reached, lastAt_cons_of_le (reached.trans after),
          List.filter_cons_of_neg (by simpa using reached), ih timed]
      · have ahead := all_ahead first reached
        rw [lastAt_of_lt ahead, List.filter_eq_self.mpr fun other member =>
          decide_eq_true (ahead other member)]

/-! ### Pointers -/

/-- A position in a curve: the last value and the samples ahead. -/
structure Pointer (K : Type u) (V : Type v) where
  last : V
  ahead : List (K × V)

namespace Pointer

/-- Move past the samples up to a key. -/
def moved (t : K) (last : V) : List (K × V) → Pointer K V
  | [] => ⟨last, []⟩
  | sample :: rest => if sample.1 ≤ t then moved t sample.2 rest else ⟨last, sample :: rest⟩

def advance (t : K) (pointer : Pointer K V) : Pointer K V := moved t pointer.last pointer.ahead

/-- A pointer in a sorted curve stops at the step function. -/
theorem advance_eq {pointer : Pointer K V} (timed : Timed pointer.ahead) (t : K) :
    pointer.advance t =
      ⟨lastAt pointer.last pointer.ahead t,
        pointer.ahead.filter fun sample => decide (t < sample.1)⟩ := by
  obtain ⟨last, ahead⟩ := pointer
  change moved t last ahead = _
  induction ahead generalizing last with
  | nil => rfl
  | cons sample rest ih =>
      obtain ⟨first, timed⟩ := List.pairwise_cons.mp timed
      rw [moved]
      by_cases reached : sample.1 ≤ t
      · rw [if_pos reached, ih _ timed, lastAt_cons_of_le reached,
          List.filter_cons_of_neg (by simpa using reached)]
      · have ahead := all_ahead first reached
        rw [if_neg reached, lastAt_of_lt ahead, List.filter_eq_self.mpr fun other member =>
          decide_eq_true (ahead other member)]

end Pointer

/-! ### Fills from a dictionary -/

/-- The values on a grid, each repeated until the next known one. -/
def fillFrom (values : K → Option V) : V → List K → List V
  | _, [] => []
  | last, t :: rest =>
      let next := (values t).getD last
      next :: fillFrom values next rest

/-- On a grid that holds all its keys, a fill follows the step function. The induction is
on the grid, with the samples that lie ahead. -/
theorem fillFrom_eq {values : K → Option V} {last : V} {grid : List K}
    {ahead : List (K × V)} (increasing : grid.Pairwise (· < ·))
    (timed : ahead.Pairwise fun a b => a.1 < b.1)
    (known : ∀ t ∈ grid, ∀ value, values t = some value ↔ (t, value) ∈ ahead)
    (covered : ∀ sample ∈ ahead, sample.1 ∈ grid) :
    fillFrom values last grid = grid.map (lastAt last ahead) := by
  induction grid generalizing last ahead with
  | nil => rfl
  | cons t rest ih =>
      obtain ⟨first, increasing⟩ := List.pairwise_cons.mp increasing
      obtain ⟨here, later⟩ := List.forall_mem_cons.mp known
      rw [fillFrom, List.map_cons]
      by_cases sampled : ∃ value, (t, value) ∈ ahead
      · -- the sample of this grid point is the first one ahead
        obtain ⟨value, inside⟩ := sampled
        cases ahead with
        | nil => exact absurd inside List.not_mem_nil
        | cons sample more =>
            obtain ⟨next, timedMore⟩ := List.pairwise_cons.mp timed
            have same : sample = (t, value) := by
              rcases List.mem_cons.mp inside with same | further
              · exact same.symm
              · have before : sample.1 < t := next _ further
                rcases List.mem_cons.mp (covered sample List.mem_cons_self) with same | inRest
                · exact absurd before (same ▸ lt_irrefl t)
                · exact absurd before (not_lt_of_gt (first _ inRest))
            subst same
            have coveredMore : ∀ other ∈ more, other.1 ∈ rest := fun other member =>
              (List.mem_cons.mp (covered other (List.mem_cons_of_mem _ member))).resolve_left
                (next other member).ne'
            have knownMore : ∀ u ∈ rest, ∀ v, values u = some v ↔ (u, v) ∈ more := by
              intro u member v
              rw [later u member v, List.mem_cons]
              exact or_iff_right fun equal =>
                (first u member).ne' (congrArg Prod.fst equal)
            rw [(here value).mpr inside, lastAt_cons_of_le le_rfl, lastAt_of_lt next]
            refine congrArg _ ((ih increasing timedMore knownMore coveredMore).trans ?_)
            refine List.map_congr_left fun u member => ?_
            have reached : (t, value).1 ≤ u := (first u member).le
            exact (lastAt_cons_of_le reached).symm
      · have absent : values t = none :=
          Option.eq_none_iff_forall_ne_some.mpr fun value found =>
            sampled ⟨value, (here value).mp found⟩
        have coveredRest : ∀ other ∈ ahead, other.1 ∈ rest := fun other member =>
          (List.mem_cons.mp (covered other member)).resolve_left fun same =>
            sampled ⟨other.2, same ▸ member⟩
        have beyond : ∀ other ∈ ahead, t < other.1 := fun other member =>
          first _ (coveredRest other member)
        rw [absent, lastAt_of_lt beyond]
        exact congrArg _ (ih increasing timed later coveredRest)

end Curves

/-! ### Dictionaries of pairs -/

section Pairs

variable {K : Type u} {V : Type v} [DecidableEq K]

/-- `dict(pairs)`. -/
def Dict.ofPairs (pairs : List (K × V)) : Dict K V :=
  pairs.foldl (fun d pair => d.set pair.1 pair.2) .empty

theorem get?_foldl_set {pairs : List (K × V)} (distinct : (pairs.map Prod.fst).Nodup)
    (d : Dict K V) (t : K) :
    (pairs.foldl (fun d pair => d.set pair.1 pair.2) d).get? t =
      match Dict.lookup t pairs with
      | some value => some value
      | none => d.get? t := by
  induction pairs generalizing d with
  | nil => rfl
  | cons pair rest ih =>
      obtain ⟨apart, distinct⟩ := List.nodup_cons.mp distinct
      rw [List.foldl_cons, ih distinct, Dict.lookup]
      by_cases here : pair.1 = t
      · subst here
        have absent : Dict.lookup pair.1 rest = none := by
          have missing : pair.1 ∉ (Dict.mk rest distinct).keys := apart
          exact (Dict.get?_eq_none_iff _).mpr missing
        rw [absent, if_pos rfl]
        exact Dict.get?_set_self _ _ _
      · rw [if_neg here, Dict.get?_set_of_ne _ _ (Ne.symm here)]

theorem Dict.get?_ofPairs {pairs : List (K × V)} (distinct : (pairs.map Prod.fst).Nodup)
    {t : K} {value : V} : (Dict.ofPairs pairs).get? t = some value ↔ (t, value) ∈ pairs := by
  have found : (Dict.ofPairs pairs).get? t = Dict.lookup t pairs := by
    rw [Dict.ofPairs, get?_foldl_set distinct]
    cases Dict.lookup t pairs <;> rfl
  rw [found]
  exact Dict.lookup_eq_some_iff distinct

end Pairs

/-! ### Differences -/

/-- The differences of neighbours. -/
def deltasOf {V : Type v} [Sub V] (values : List V) : List V :=
  List.zipWith (fun next previous => next - previous) values.tail values

/-- The differences of a sum are the sums of the differences. -/
theorem deltasOf_sum {K : Type u} {V : Type v} {ι : Type*} [AddCommGroup V] (grid : List K)
    (curves : List ι) (value : ι → K → V) :
    deltasOf (grid.map fun t => (curves.map fun curve => value curve t).sum) =
      (List.range (grid.length - 1)).map fun i =>
        (curves.map fun curve => (deltasOf (grid.map (value curve))).getD i 0).sum := by
  refine List.ext_getElem (by simp [deltasOf]) fun i bound within => ?_
  have inside : i + 1 < grid.length := by
    simp only [List.length_map, List.length_range] at within
    omega
  have here : i < grid.length := Nat.lt_of_succ_lt inside
  have each : ∀ curve, (deltasOf (grid.map (value curve))).getD i 0 =
      value curve grid[i + 1] - value curve grid[i] := by
    intro curve
    rw [List.getD_eq_getElem _ _ (by simp [deltasOf]; omega)]
    simp [deltasOf]
  have apart : ∀ first second : ι → V, (curves.map fun curve => first curve - second curve).sum =
      (curves.map first).sum - (curves.map second).sum := by
    intro first second
    have := Multiset.sum_map_sub (m := (curves : Multiset ι)) (f := first) (g := second)
    simpa using this
  simp only [List.getElem_map, List.getElem_range, each, apart]
  simp [deltasOf]

/-! ### Grids -/

section Grids

variable {K : Type u} [LinearOrder K]

/-- `sorted(set(keys))`. -/
def sortedUnion (keys : List K) : List K := sortBy id keys.dedup

theorem mem_sortedUnion {keys : List K} {t : K} : t ∈ sortedUnion keys ↔ t ∈ keys := by
  rw [sortedUnion, mem_sortBy, List.mem_dedup]

theorem sortedUnion_increasing (keys : List K) : (sortedUnion keys).Pairwise (· < ·) := by
  have sorted : SortedBy id (sortedUnion keys) := sorted_sortBy keys.dedup
  have distinct : (sortedUnion keys).Nodup := (sortBy_perm _).nodup_iff.mpr keys.nodup_dedup
  exact (sorted.and distinct).imp fun both => lt_of_le_of_ne both.1 both.2

/-- The order of the keys does not matter. -/
theorem sortedUnion_congr {one two : List K} (same : ∀ t, t ∈ one ↔ t ∈ two) :
    sortedUnion one = sortedUnion two := by
  refine List.Perm.eq_of_pairwise (fun _ _ _ _ below above => absurd above (not_lt_of_gt below))
    (sortedUnion_increasing one) (sortedUnion_increasing two) ?_
  have nodup (keys : List K) : (sortedUnion keys).Nodup :=
    (sortedUnion_increasing keys).imp ne_of_lt
  refine (List.perm_ext_iff_of_nodup (nodup one) (nodup two)).mpr fun t => ?_
  rw [mem_sortedUnion, mem_sortedUnion, same]

end Grids

end Lib
