/-
Module: StingerFx.Lib.Ledger
Layer: Lib
Purpose: Amounts booked under keys: their total, and the total of each key that was
  booked at all. The order of booking does not matter, so books that were kept by two
  parties in different orders agree.
Trusted boundary: none (fully proved)
Main exports: Ledger, Ledger.book, Ledger.bookAll, Ledger.ofDict,
  Ledger.bookAll_perm
-/
import StingerFx.Lib.Dict

namespace Lib

universe u v

/-- A total and totals by key; a key that was never booked has none. -/
@[ext] structure Ledger (κ : Type u) (ν : Type v) where
  total : ν
  byKey : κ → Option ν

namespace Ledger

variable {κ : Type u} {ν : Type v} [AddCommMonoid ν]

def empty : Ledger κ ν := ⟨0, fun _ => none⟩

section Book

variable [DecidableEq κ]

/-- Book an amount under a key. -/
def book (l : Ledger κ ν) (entry : κ × ν) : Ledger κ ν where
  total := l.total + entry.2
  byKey := fun k =>
    if k = entry.1 then some ((l.byKey k).getD 0 + entry.2) else l.byKey k

def bookAll (l : Ledger κ ν) (entries : List (κ × ν)) : Ledger κ ν :=
  entries.foldl book l

@[simp] theorem bookAll_nil (l : Ledger κ ν) : l.bookAll [] = l := rfl

theorem bookAll_append (l : Ledger κ ν) (one two : List (κ × ν)) :
    l.bookAll (one ++ two) = (l.bookAll one).bookAll two :=
  List.foldl_append

theorem book_right_comm (l : Ledger κ ν) (a b : κ × ν) :
    (l.book a).book b = (l.book b).book a := by
  ext
  · simp only [book]
    exact add_right_comm _ _ _
  · rename_i k value
    by_cases one : k = a.1
    · subst one
      by_cases two : a.1 = b.1
      · simp [book, two, add_right_comm]
      · simp [book, two]
    · by_cases two : k = b.1
      · subst two
        simp [book, one]
      · simp [book, one, two]

/-- The order of booking does not matter. -/
theorem bookAll_perm {one two : List (κ × ν)} (perm : one.Perm two)
    (l : Ledger κ ν) : l.bookAll one = l.bookAll two :=
  perm.foldl_eq' (fun a _ b _ l => book_right_comm l a b) l

theorem bookAll_total (l : Ledger κ ν) (entries : List (κ × ν)) :
    (l.bookAll entries).total = l.total + (entries.map Prod.snd).sum := by
  induction entries generalizing l with
  | nil => simp
  | cons entry rest ih =>
      have later := ih (l.book entry)
      simp only [bookAll, List.foldl_cons] at later ⊢
      rw [later, List.map_cons, List.sum_cons, ← add_assoc]
      rfl

end Book

/-- The ledger of a running total and a dictionary of totals. -/
def ofDict [DecidableEq κ] (total : ν) (d : Dict κ ν) : Ledger κ ν := ⟨total, d.get?⟩

/-- Adding to the total and to the entry of a key is booking. -/
theorem ofDict_set [DecidableEq κ] (total : ν) (d : Dict κ ν) (k : κ) (amount : ν) :
    ofDict (total + amount) (d.set k (d.getD k 0 + amount)) =
      (ofDict total d).book (k, amount) := by
  ext
  · rfl
  · rename_i other value
    by_cases same : other = k
    · simp [ofDict, book, Dict.getD, same]
    · simp [ofDict, book, Dict.get?_set, same]

end Ledger

end Lib
