/-
Module: StingerFx.Lib.Visits
Layer: Lib
Purpose: Loops over a list that thread a state and collect what each round gives
  out. When the items have different keys and a round touches only what belongs to
  its own key, every item is met in the state that the loop began with, as far as
  its own key goes; this is the induction rule. Where every round makes one thing and
  only hands the state on, what holds of every turn, whatever the state, holds of
  everything made.
Trusted boundary: none (fully proved)
Main exports: visitAll, visitAll_cons, visitAll_induct, visitAll_absent,
  visitAll_present, foldl_unseen, foldl_pointwise, foldl_keyed_induct, threaded,
  map_threaded, forall_threaded, length_threaded
-/
import Mathlib

namespace Lib

universe u v w

variable {M : Type u} {P : Type v} {E : Type w}

/-- Visit the items in order. -/
def visitAll (visit : M → P → M × List E) : M → List P → M × List E
  | m, [] => (m, [])
  | m, item :: rest =>
      let visited := visit m item
      let later := visitAll visit visited.1 rest
      (later.1, visited.2 ++ later.2)

variable {visit : M → P → M × List E}

theorem visitAll_cons (m : M) (item : P) (rest : List P) :
    visitAll visit m (item :: rest) =
      ((visitAll visit (visit m item).1 rest).1,
        (visit m item).2 ++ (visitAll visit (visit m item).1 rest).2) := rfl

/-- A property of the state and of what was given out holds after the loop if every
round keeps it, where a round may use that its item's share of the state is still
that of the beginning. -/
theorem visitAll_induct {Apart : P → P → Prop} (Same : M → M → P → Prop)
    (Inv : M → List E → Prop) {items : List P} {first : M}
    (unique : items.Pairwise Apart) (refl : ∀ m item, Same m m item)
    (frame : ∀ {first m one two}, Apart one two → Same first m two →
      Same first (visit m one).1 two)
    (keeps : ∀ {m out item}, item ∈ items → Same first m item → Inv m out →
      Inv (visit m item).1 (out ++ (visit m item).2))
    (start : Inv first []) :
    Inv (visitAll visit first items).1 (visitAll visit first items).2 := by
  have general : ∀ (rest : List P) (m : M) (out : List E),
      (∀ item ∈ rest, item ∈ items) → rest.Pairwise Apart →
      (∀ item ∈ rest, Same first m item) → Inv m out →
      Inv (visitAll visit m rest).1 (out ++ (visitAll visit m rest).2) := by
    intro rest
    induction rest with
    | nil =>
        intro m out _ _ _ inv
        simpa [visitAll] using inv
    | cons item rest ih =>
        intro m out inside apart same inv
        rw [List.pairwise_cons] at apart
        rw [visitAll_cons, ← List.append_assoc]
        apply ih
        · exact fun other member => inside other (List.mem_cons_of_mem _ member)
        · exact apart.2
        · intro other member
          exact frame (apart.1 other member)
            (same other (List.mem_cons_of_mem _ member))
        · exact keeps (inside item List.mem_cons_self)
            (same item List.mem_cons_self) inv
  exact general items first [] (fun _ => id) unique
    (fun item _ => refl first item) start

/-! ### What belongs to one key

`seen` is the share of a key in the state, `emitted` the key of what is given out. -/

section Shares

variable {κ : Type*} {V : Type*} [DecidableEq κ] {key : P → κ} {emitted : E → κ}
  (seen : κ → M → V)

/-- A key that no item has keeps its share, and nothing is given out for it. -/
theorem visitAll_absent
    (frame : ∀ m item other, other ≠ key item →
      seen other (visit m item).1 = seen other m)
    (own : ∀ m item, ∀ e ∈ (visit m item).2, emitted e = key item)
    {items : List P} {other : κ} (absent : other ∉ items.map key) (m : M) :
    seen other (visitAll visit m items).1 = seen other m ∧
      (visitAll visit m items).2.filter (fun e => decide (emitted e = other)) =
        [] := by
  induction items generalizing m with
  | nil => exact ⟨rfl, rfl⟩
  | cons item rest ih =>
      rw [List.map_cons, List.mem_cons, not_or] at absent
      obtain ⟨share, none⟩ := ih absent.2 (visit m item).1
      rw [visitAll_cons]
      refine ⟨share.trans (frame m item other absent.1), ?_⟩
      rw [List.filter_append, none, List.append_nil, List.filter_eq_nil_iff]
      intro e member same
      exact absent.1 ((of_decide_eq_true same).symm.trans (own m item e member))

/-- The loop does to the share of an item what one visit does, and gives out for its
key what this visit does. -/
theorem visitAll_present
    (frame : ∀ m item other, other ≠ key item →
      seen other (visit m item).1 = seen other m)
    (own : ∀ m item, ∀ e ∈ (visit m item).2, emitted e = key item)
    {items : List P} (unique : (items.map key).Nodup) {item : P}
    (member : item ∈ items) (first : M) :
    ∃ m, seen (key item) m = seen (key item) first ∧
      seen (key item) (visitAll visit first items).1 =
        seen (key item) (visit m item).1 ∧
      (visitAll visit first items).2.filter
        (fun e => decide (emitted e = key item)) = (visit m item).2 := by
  induction items generalizing first with
  | nil => cases member
  | cons head rest ih =>
      rw [List.map_cons, List.nodup_cons] at unique
      rw [visitAll_cons]
      rcases List.mem_cons.mp member with rfl | later
      · obtain ⟨share, none⟩ :=
          visitAll_absent seen frame own unique.1 (visit first item).1
        refine ⟨first, rfl, share, ?_⟩
        rw [List.filter_append, none, List.append_nil, List.filter_eq_self]
        exact fun e given => decide_eq_true (own first item e given)
      · have apart : key item ≠ key head := by
          intro same
          exact unique.1 (same ▸ List.mem_map_of_mem later)
        obtain ⟨m, before, after, given⟩ := ih unique.2 later (visit first head).1
        have nothing : (visit first head).2.filter
            (fun e => decide (emitted e = key item)) = [] := by
          rw [List.filter_eq_nil_iff]
          intro e inside same
          exact apart ((of_decide_eq_true same).symm.trans (own first head e inside))
        refine ⟨m, before.trans (frame first head (key item) apart), after, ?_⟩
        rw [List.filter_append, nothing, given, List.nil_append]

end Shares

/-! ### Loops over distinct keys

Here a loop only threads a state, of which `seen` is what belongs to a key. -/

section Keys

variable {S : Type u} {κ : Type v} {V : Type w} {round : S → κ → S}

/-- The keys that a loop does not meet are left alone. -/
theorem foldl_unseen (seen : κ → S → V)
    (frame : ∀ s key other, other ≠ key → seen other (round s key) = seen other s)
    {keys : List κ} {other : κ} (absent : other ∉ keys) (s : S) :
    seen other (keys.foldl round s) = seen other s := by
  induction keys generalizing s with
  | nil => rfl
  | cons key keys ih =>
      rw [List.mem_cons, not_or] at absent
      rw [List.foldl_cons, ih absent.2, frame s key other absent.1]

/-- What can only get lost was there before the loop if it is there afterwards. -/
theorem foldl_back {Good : S → Prop}
    (back : ∀ s key, Good (round s key) → Good s) {keys : List κ} {s : S}
    (good : Good (keys.foldl round s)) : Good s := by
  induction keys generalizing s with
  | nil => exact good
  | cons key keys ih => exact back s key (ih good)

/-- After a good loop, what belongs to a key is related to what it was before as one
round relates them. -/
theorem foldl_pointwise [DecidableEq κ] (seen : κ → S → V) (Good : S → Prop)
    {Effect : κ → V → V → Prop}
    (frame : ∀ s key other, other ≠ key → seen other (round s key) = seen other s)
    (back : ∀ s key, Good (round s key) → Good s)
    (effect : ∀ s key, Good (round s key) →
      Effect key (seen key s) (seen key (round s key)))
    {keys : List κ} (unique : keys.Nodup) {key : κ} (member : key ∈ keys) {s : S}
    (good : Good (keys.foldl round s)) :
    Effect key (seen key s) (seen key (keys.foldl round s)) := by
  induction keys generalizing s with
  | nil => cases member
  | cons first rest ih =>
      rw [List.nodup_cons] at unique
      rw [List.foldl_cons] at good ⊢
      by_cases here : key = first
      · subst here
        rw [foldl_unseen seen frame unique.1]
        exact effect s key (foldl_back back good)
      · have later := ih unique.2 ((List.mem_cons.mp member).resolve_left here) good
        rw [frame s first key here] at later
        exact later

/-- A property of the state holds after the loop if every round keeps it, where a
round may use that its key's share of the state is still that of the beginning. -/
theorem foldl_keyed_induct (seen : κ → S → V) (Inv : S → Prop)
    (frame : ∀ s key other, other ≠ key → seen other (round s key) = seen other s)
    {keys : List κ} (unique : keys.Nodup) {s : S}
    (keeps : ∀ m, ∀ key ∈ keys, seen key m = seen key s → Inv m →
      Inv (round m key))
    (start : Inv s) : Inv (keys.foldl round s) := by
  induction keys generalizing s with
  | nil => exact start
  | cons first rest ih =>
      rw [List.nodup_cons] at unique
      apply ih unique.2
      · intro m key member same inv
        have apart : key ≠ first := by
          rintro rfl
          exact unique.1 member
        exact keeps m key (List.mem_cons_of_mem _ member)
          (same.trans (frame s first key apart)) inv
      · exact keeps s first List.mem_cons_self rfl start

end Keys

/-! ### One thing a round -/

section Threaded

variable {α : Type u} {β : Type v} {S : Type w} {make : α → S → β × S}

/-- Make something of every item, with the state that the turn before has left. -/
def threaded (make : α → S → β × S) : List α → S → List β × S
  | [], state => ([], state)
  | item :: rest, state =>
      let made := make item state
      let others := threaded make rest made.2
      (made.1 :: others.1, others.2)

/-- What does not depend on the state is that of the items. -/
theorem map_threaded {γ : Type*} {items : List α} {see : β → γ} {own : α → γ}
    (each : ∀ item ∈ items, ∀ state, see (make item state).1 = own item) (state : S) :
    (threaded make items state).1.map see = items.map own := by
  induction items generalizing state with
  | nil => rfl
  | cons item rest ih =>
      obtain ⟨first, each⟩ := List.forall_mem_cons.mp each
      exact congrArg₂ List.cons (first state) (ih each _)

theorem forall_threaded {items : List α} {holds : β → Prop}
    (each : ∀ item ∈ items, ∀ state, holds (make item state).1) (state : S) :
    ∀ made ∈ (threaded make items state).1, holds made := by
  induction items generalizing state with
  | nil => exact fun _ inside => absurd inside List.not_mem_nil
  | cons item rest ih =>
      obtain ⟨first, each⟩ := List.forall_mem_cons.mp each
      exact List.forall_mem_cons.mpr ⟨first state, ih each _⟩

@[simp] theorem length_threaded (items : List α) (state : S) :
    (threaded make items state).1.length = items.length := by
  induction items generalizing state with
  | nil => rfl
  | cons item rest ih => exact congrArg Nat.succ (ih _)

end Threaded

end Lib
