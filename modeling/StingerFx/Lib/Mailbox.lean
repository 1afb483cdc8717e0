/-
Module: StingerFx.Lib.Mailbox
Layer: Lib
Purpose: Bounded first-in first-out mailboxes with a drop-oldest overflow
  policy. Evicted messages are kept in a history variable that no operation
  reads, so that statements can speak about what was lost.
Trusted boundary: none (fully proved)
Main exports: Mailbox, Mailbox.push, Mailbox.pop?, Mailbox.backlog,
  Mailbox.mem_items_push_of_mem, Mailbox.items_pushAll_sublist,
  Mailbox.items_pushAll
-/
import Mathlib

namespace Lib

universe u

/-- A mailbox of bounded capacity; capacity zero means unbounded. -/
structure Mailbox (α : Type u) where
  capacity : Nat
  items : List α
  lost : List α
deriving Repr, DecidableEq

namespace Mailbox

variable {α : Type u}

def create (capacity : Nat) : Mailbox α := ⟨capacity, [], []⟩

/-- No room for one more message. -/
def full (m : Mailbox α) : Bool :=
  decide (0 < m.capacity ∧ m.capacity ≤ m.items.length)

/-- Append a message, evicting the oldest one when there is no room. -/
def push (m : Mailbox α) (message : α) : Mailbox α :=
  if m.full then
    { m with
      items := m.items.tail ++ [message]
      lost := m.lost ++ m.items.head?.toList }
  else { m with items := m.items ++ [message] }

def pushAll (m : Mailbox α) (messages : List α) : Mailbox α :=
  messages.foldl push m

/-- Take the oldest waiting message. -/
def pop? (m : Mailbox α) : Option (α × Mailbox α) :=
  match m.items with
  | [] => none
  | message :: rest => some (message, { m with items := rest })

/-- Every message that was pushed and not taken: evicted ones, then waiting
ones, in the order of their arrival. -/
def backlog (m : Mailbox α) : List α := m.lost ++ m.items

@[simp] theorem backlog_create (capacity : Nat) :
    (create capacity : Mailbox α).backlog = [] := rfl

/-- Eviction moves a message inside the backlog, so a push always appends. -/
@[simp] theorem backlog_push (m : Mailbox α) (message : α) :
    (m.push message).backlog = m.backlog ++ [message] := by
  unfold push
  split
  · cases waiting : m.items <;> simp [backlog, waiting]
  · simp [backlog]

@[simp] theorem backlog_pushAll (m : Mailbox α) (messages : List α) :
    (m.pushAll messages).backlog = m.backlog ++ messages := by
  induction messages generalizing m with
  | nil => simp [pushAll]
  | cons message rest ih =>
      have unfolded : m.pushAll (message :: rest) =
          (m.push message).pushAll rest := rfl
      rw [unfolded, ih, backlog_push]
      simp

/-- Taking a message removes exactly that message from the backlog. -/
theorem backlog_of_pop? {m after : Mailbox α} {message : α}
    (popped : m.pop? = some (message, after)) :
    ∃ before rest, m.backlog = before ++ message :: rest ∧
      after.backlog = before ++ rest := by
  unfold pop? at popped
  split at popped
  · cases popped
  · rename_i first rest waiting
    cases popped
    exact ⟨m.lost, rest, by simp [backlog, waiting], rfl⟩

/-- What was popped, or still waits. -/
theorem mem_backlog_of_pop? {m after : Mailbox α} {message : α}
    (popped : m.pop? = some (message, after)) {other : α}
    (member : other ∈ m.backlog) : other = message ∨ other ∈ after.backlog := by
  rcases backlog_of_pop? popped with ⟨before, rest, whole, left⟩
  rw [whole] at member
  rw [left]
  rcases List.mem_append.mp member with early | late
  · exact .inr (List.mem_append_left _ early)
  · rcases List.mem_cons.mp late with same | later
    · exact .inl same
    · exact .inr (List.mem_append_right _ later)

theorem mem_backlog_after_pop? {m after : Mailbox α} {message : α}
    (popped : m.pop? = some (message, after)) :
    message ∈ m.backlog ∧ ∀ other ∈ after.backlog, other ∈ m.backlog := by
  rcases backlog_of_pop? popped with ⟨before, rest, whole, left⟩
  rw [whole, left]
  refine ⟨List.mem_append_right _ List.mem_cons_self, ?_⟩
  intro other member
  rcases List.mem_append.mp member with early | late
  · exact List.mem_append_left _ early
  · exact List.mem_append_right _ (List.mem_cons_of_mem _ late)

/-- Waiting messages after a push come from those before it and the new one. -/
theorem items_push_sublist (m : Mailbox α) (message : α) :
    (m.push message).items.Sublist (m.items ++ [message]) := by
  unfold push
  split
  · exact (List.tail_sublist m.items).append (List.Sublist.refl [message])
  · exact List.Sublist.refl _

theorem items_pushAll_sublist (m : Mailbox α) (messages : List α) :
    (m.pushAll messages).items.Sublist (m.items ++ messages) := by
  induction messages generalizing m with
  | nil => simp [pushAll]
  | cons message rest ih =>
      have first := (items_push_sublist m message).append (List.Sublist.refl rest)
      rw [List.append_assoc] at first
      exact (ih (m.push message)).trans first

theorem items_of_pop? {m after : Mailbox α} {message : α}
    (popped : m.pop? = some (message, after)) :
    m.items = message :: after.items := by
  unfold pop? at popped
  split at popped
  · cases popped
  · rename_i first rest waiting
    cases popped
    exact waiting

theorem mem_items_of_push {m : Mailbox α} {message other : α}
    (waiting : other ∈ (m.push message).items) :
    other ∈ m.items ∨ other = message := by
  have source := (m.items_push_sublist message).subset waiting
  simpa using source

theorem mem_items_push (m : Mailbox α) (message : α) :
    message ∈ (m.push message).items := by
  unfold push
  split <;> simp

/-- A waiting message is still there after a push, or was the one to make room. -/
theorem mem_items_push_of_mem {m : Mailbox α} {other : α}
    (waiting : other ∈ m.items) (message : α) :
    other ∈ (m.push message).items ∨
      m.full = true ∧ m.items.head? = some other := by
  cases full : m.full with
  | false =>
      left
      simp only [push, full, Bool.false_eq_true, if_false]
      exact List.mem_append_left _ waiting
  | true =>
      cases line : m.items with
      | nil =>
          rw [line] at waiting
          cases waiting
      | cons first rest =>
          rw [line] at waiting
          rcases List.mem_cons.mp waiting with rfl | later
          · exact .inr ⟨rfl, rfl⟩
          · left
            simp only [push, full, line, if_true, List.tail_cons]
            exact List.mem_append_left _ later

@[simp] theorem capacity_push (m : Mailbox α) (message : α) :
    (m.push message).capacity = m.capacity := by
  unfold push
  split <;> rfl

/-- A bounded mailbox grows up to its capacity. -/
theorem length_items_push {m : Mailbox α} (bounded : 0 < m.capacity)
    (within : m.items.length ≤ m.capacity) (message : α) :
    (m.push message).items.length = min m.capacity (m.items.length + 1) := by
  unfold push
  split
  · rename_i full
    have atCapacity := (of_decide_eq_true full).2
    simp only [List.length_append, List.length_tail, List.length_singleton]
    omega
  · rename_i room
    have below : ¬ m.capacity ≤ m.items.length := by
      intro reached
      exact room (decide_eq_true ⟨bounded, reached⟩)
    simp only [List.length_append, List.length_singleton]
    omega

theorem length_items_pushAll {m : Mailbox α} (bounded : 0 < m.capacity)
    (within : m.items.length ≤ m.capacity) (messages : List α) :
    (m.pushAll messages).items.length =
      min m.capacity (m.items.length + messages.length) := by
  induction messages generalizing m with
  | nil =>
      simp only [pushAll, List.foldl_nil, List.length_nil, Nat.add_zero]
      omega
  | cons message rest ih =>
      have unfolded : m.pushAll (message :: rest) =
          (m.push message).pushAll rest := rfl
      have grown := length_items_push bounded within message
      rw [unfolded, ih (by simpa using bounded) (by simp [grown]), grown,
        capacity_push, List.length_cons]
      omega

@[simp] theorem capacity_pushAll (m : Mailbox α) (messages : List α) :
    (m.pushAll messages).capacity = m.capacity := by
  induction messages generalizing m with
  | nil => rfl
  | cons message rest ih => exact (ih (m.push message)).trans (by simp)

theorem capacity_of_pop? {m after : Mailbox α} {message : α}
    (popped : m.pop? = some (message, after)) :
    after.capacity = m.capacity := by
  unfold pop? at popped
  split at popped
  · cases popped
  · cases popped
    rfl

/-- How many waiting messages make room for some new ones. -/
def overflow (m : Mailbox α) (messages : List α) : Nat :=
  m.items.length + messages.length - m.capacity

theorem items_push {m : Mailbox α} (bounded : 0 < m.capacity)
    (within : m.items.length ≤ m.capacity) (message : α) :
    (m.push message).items =
      (m.items ++ [message]).drop (m.overflow [message]) := by
  unfold push overflow
  split
  · rename_i full
    have atCapacity := (of_decide_eq_true full).2
    have one : m.items.length + [message].length - m.capacity = 1 := by
      simp only [List.length_singleton]
      omega
    cases waiting : m.items with
    | nil =>
        rw [waiting, List.length_nil] at atCapacity
        omega
    | cons first rest =>
        rw [waiting] at one
        rw [one]
        rfl
  · rename_i room
    have below : ¬ m.capacity ≤ m.items.length := by
      intro reached
      exact room (decide_eq_true ⟨bounded, reached⟩)
    have none : m.items.length + [message].length - m.capacity = 0 := by
      simp only [List.length_singleton]
      omega
    rw [none]
    rfl

/-- After a burst the mailbox holds the newest messages, in order. -/
theorem items_pushAll {m : Mailbox α} (bounded : 0 < m.capacity)
    (within : m.items.length ≤ m.capacity) (messages : List α) :
    (m.pushAll messages).items =
      (m.items ++ messages).drop (m.overflow messages) := by
  induction messages generalizing m with
  | nil =>
      have none : m.overflow [] = 0 := by
        simp only [overflow, List.length_nil]
        omega
      simp [pushAll, none]
  | cons message rest ih =>
      have unfolded : m.pushAll (message :: rest) =
          (m.push message).pushAll rest := rfl
      have first := items_push bounded within message
      have grown := length_items_push bounded within message
      have short : m.overflow [message] ≤ (m.items ++ [message]).length := by
        simp only [overflow, List.length_append]
        omega
      have total : m.overflow (message :: rest) =
          m.overflow [message] + (m.push message).overflow rest := by
        simp only [overflow, grown, capacity_push, List.length_cons,
          List.length_nil]
        omega
      rw [unfolded, ih (by simpa using bounded) (by simp [grown]), first,
        ← List.drop_append_of_le_length short, List.drop_drop, total]
      simp

end Mailbox

/-! ### A stretch of a queue -/

section Stretch

variable {α : Type u}

/-- Dropping one element that is not part of a stretch keeps the stretch. -/
theorem stretch_of_drop_one {P : α → Prop} {taken front stretch back : List α}
    {x : α} {waiting : List α} (inside : ∀ y ∈ stretch, P y) (outside : ¬ P x)
    (whole : taken ++ x :: waiting = front ++ stretch ++ back) :
    ∃ front' back', taken ++ waiting = front' ++ stretch ++ back' ∧
      front'.Sublist front := by
  rw [List.append_assoc] at whole
  rcases List.append_eq_append_iff.mp whole with
    ⟨middle, grown, rest⟩ | ⟨middle, grown, rest⟩
  · cases middle with
    | nil =>
        rw [List.append_nil] at grown
        rw [List.nil_append] at rest
        cases stretch with
        | nil =>
            exact ⟨front, waiting, by simp [grown], List.Sublist.refl front⟩
        | cons y others =>
            cases rest
            exact absurd (inside x List.mem_cons_self) outside
    | cons y others =>
        cases rest
        refine ⟨taken ++ others, back, by simp, ?_⟩
        rw [grown]
        exact (List.Sublist.refl taken).append (List.sublist_cons_self x others)
  · rcases List.append_eq_append_iff.mp rest with
      ⟨more, cut, remains⟩ | ⟨more, cut, remains⟩
    · exact ⟨front, more ++ waiting, by simp [grown, cut],
        List.Sublist.refl front⟩
    · cases more with
      | nil =>
          rw [List.append_nil] at cut
          exact ⟨front, waiting, by simp [grown, cut], List.Sublist.refl front⟩
      | cons y others =>
          cases remains
          refine absurd (inside x ?_) outside
          rw [cut]
          exact List.mem_append_right _ List.mem_cons_self

/-- Dropping several, none of them part of the stretch. -/
theorem stretch_of_drop {P : α → Prop} {taken front stretch back : List α}
    {waiting : List α} {count : Nat} (inside : ∀ y ∈ stretch, P y)
    (outside : ∀ y ∈ waiting.take count, ¬ P y)
    (whole : taken ++ waiting = front ++ stretch ++ back) :
    ∃ front' back', taken ++ waiting.drop count = front' ++ stretch ++ back' ∧
      front'.Sublist front := by
  induction count generalizing waiting front back with
  | zero => exact ⟨front, back, whole, List.Sublist.refl front⟩
  | succ count ih =>
      cases waiting with
      | nil => exact ⟨front, back, by simpa using whole, List.Sublist.refl front⟩
      | cons x rest =>
          have first : ¬ P x := outside x List.mem_cons_self
          rcases stretch_of_drop_one inside first whole with
            ⟨front', back', whole', smaller⟩
          have others : ∀ y ∈ rest.take count, ¬ P y := fun y member =>
            outside y (List.mem_cons_of_mem _ member)
          rcases ih others whole' with ⟨front'', back'', whole'', smaller'⟩
          exact ⟨front'', back'', whole'', smaller'.trans smaller⟩

end Stretch

end Lib
