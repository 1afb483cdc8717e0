/-
Module: StingerFx.Lib.PySorted
Layer: Lib
Purpose: What `sorted` with a key gives when the keys are values of any kind. Real
  numbers are sorted stably, also in reverse; keys without an order raise; and among
  keys one of which is not a number the order of the result is left open.
Trusted boundary: human-reviewed model of the builtin function
Main exports: Sorted, Sorted.Allows, pySorted, pySorted_numbers, SortedBy.head_le, mirror,
  real?_minus
-/
import StingerFx.Lib.PyValue
import StingerFx.Lib.StableSort

namespace Lib

inductive Sorted (α : Type) where
  | list (items : List α)
  | anyOrder (items : List α)
  | raises (error : PyError)
deriving Repr, DecidableEq

/-- The lists that a sort can return. -/
def Sorted.Allows {α : Type} : Sorted α → List α → Prop
  | .list items, out => out = items
  | .anyOrder items, out => out.Perm items
  | .raises _, _ => False

/-- The number that a key is compared by. -/
def sortRank (key : PyValue) : Extended := key.real?.getD ⊥

section Sorting

variable {α : Type}

/-- `sorted(items, key=..., reverse=...)`. One item is never compared. -/
def pySorted (key : α → PyValue) (reverse : Bool) (items : List α) : Sorted α :=
  if items.length ≤ 1 then .list items
  else if items.all fun item => (key item).isReal then
    if items.all fun item => (key item).real?.isSome then
      .list
        (if reverse then sortBy (fun item => OrderDual.toDual (sortRank (key item))) items
        else sortBy (fun item => sortRank (key item)) items)
    else .anyOrder items
  else .raises .type

theorem Sorted.Allows.perm {key : α → PyValue} {reverse : Bool} {items out : List α}
    (allowed : (pySorted key reverse items).Allows out) : out.Perm items := by
  unfold pySorted at allowed
  split at allowed
  · cases allowed
    exact .refl _
  · split at allowed
    · split at allowed
      · cases allowed
        split
        · exact sortBy_perm items
        · exact sortBy_perm items
      · exact allowed
    · cases allowed

theorem pySorted_short {key : α → PyValue} {items : List α} (reverse : Bool)
    (short : items.length ≤ 1) : pySorted key reverse items = .list items :=
  if_pos short

theorem pySorted_raises {key : α → PyValue} {items : List α} (reverse : Bool)
    (several : ¬items.length ≤ 1) (unordered : ∃ item ∈ items, (key item).isReal = false) :
    pySorted key reverse items = .raises .type := by
  obtain ⟨item, member, odd⟩ := unordered
  rw [pySorted, if_neg several, if_neg]
  intro all
  rw [List.all_eq_true.mp all item member] at odd
  cases odd

theorem pySorted_anyOrder {key : α → PyValue} {items : List α} (reverse : Bool)
    (several : ¬items.length ≤ 1) (real : ∀ item ∈ items, (key item).isReal = true)
    (none : ∃ item ∈ items, (key item).real? = none) :
    pySorted key reverse items = .anyOrder items := by
  obtain ⟨item, member, odd⟩ := none
  rw [pySorted, if_neg several, if_pos (List.all_eq_true.mpr real), if_neg]
  intro all
  have number := List.all_eq_true.mp all item member
  rw [odd] at number
  cases number

theorem pySorted_numbers {key : α → PyValue} {items : List α} (reverse : Bool)
    (several : ¬items.length ≤ 1)
    (numbers : ∀ item ∈ items, (key item).real?.isSome = true) :
    pySorted key reverse items = .list
      (if reverse then sortBy (fun item => OrderDual.toDual (sortRank (key item))) items
      else sortBy (fun item => sortRank (key item)) items) := by
  have real : ∀ item ∈ items, (key item).isReal = true := by
    intro item member
    have number := numbers item member
    cases value : key item with
    | int n => rfl
    | bool b => rfl
    | float x => rfl
    | none => rw [value] at number; cases number
    | complex re im => rw [value] at number; cases number
    | func f => rw [value] at number; cases number
    | other className => rw [value] at number; cases number
  rw [pySorted, if_neg several, if_pos (List.all_eq_true.mpr real),
    if_pos (List.all_eq_true.mpr numbers)]

/-- The first of a list in the order of a key has the least one. -/
theorem SortedBy.head_le {K : Type} [LinearOrder K] {rank : α → K} {items : List α}
    {first : α} (sorted : SortedBy rank items) (head : items.head? = some first) :
    ∀ item ∈ items, rank first ≤ rank item := by
  cases items with
  | nil => cases head
  | cons top rest =>
      cases head
      exact List.forall_mem_cons.mpr ⟨le_rfl, (List.pairwise_cons.mp sorted).1⟩

end Sorting

/-! ### Negated numbers -/

/-- The negative of a number. -/
def mirror : Extended → Extended
  | ⊥ => ⊤
  | some ⊤ => ⊥
  | some (some q) => ((-q : ℚ) : WithTop ℚ)

theorem mirror_antitone {x y : Extended} (le : x ≤ y) : mirror y ≤ mirror x := by
  match x, y with
  | ⊥, y => exact le_top
  | some ⊤, y =>
      have same : y = ⊤ := top_le_iff.mp le
      rw [same]
      exact bot_le
  | some (some p), ⊥ => exact absurd le (WithBot.not_coe_le_bot _)
  | some (some p), some ⊤ => exact bot_le
  | some (some p), some (some q) =>
      have less : p ≤ q := WithTop.coe_le_coe.mp (WithBot.coe_le_coe.mp le)
      exact WithBot.coe_le_coe.mpr (WithTop.coe_le_coe.mpr (neg_le_neg less))

theorem real?_minus {a b : PyValue} {x : Extended} (number : a.real? = some x)
    (gives : unary .minus a = .ok b) : b.real? = some (mirror x) := by
  cases a with
  | int n =>
      cases gives
      cases number
      simp [PyValue.real?, mirror]
  | bool v =>
      cases gives
      cases number
      cases v <;> simp [PyValue.real?, mirror]
  | float y =>
      cases gives
      cases y with
      | nan => cases number
      | inf negative => cases negative <;> cases number <;> rfl
      | fin q =>
          cases number
          rfl
  | none => cases gives
  | complex re im => cases number
  | func f => cases gives
  | other className => cases gives

end Lib
