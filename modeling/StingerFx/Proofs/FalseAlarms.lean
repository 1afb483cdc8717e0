/-
Module: StingerFx.Proofs.FalseAlarms
Layer: Proofs
Purpose: When the reconciler raises a false alarm, under every interleaving of fills,
  closes, verification tasks and their callbacks. A fill that the broker shows as it
  was filled is reported only when it was not filled completely, since the volume
  of the order is what is compared. A close stops every verification of its ticket
  but those that the callback of another task of the ticket has made the
  reconciler forget.
Trusted boundary: none (fully proved)
Main exports: ShownBy, Overtaken, Settles, Moves.task, TasksTracked, TasksTracked.step,
  no_false_alarm_iff
-/
import StingerFx.Data.Reconciliation

namespace StingerFx

open Lib

/-! ### What is claimed -/

/-- The broker shows the position of a fill, with its filled volume at its price. -/
def ShownBy (positions : List Position) (order : Order) : Prop :=
  ∃ p, positions.find? (fun p => decide (p.ticket = order.ticket)) = some p ∧
    p.volume = order.filledVolume ∧
    ∀ price, order.fillPrice = some price → p.openPrice = price

/-- Since a task was made, the callback of another task of the ticket has run. -/
def Overtaken (task : Nat) (ticket : Ticket) : List TaskEntry → Prop
  | [] => False
  | .made other _ :: earlier => other ≠ task ∧ Overtaken task ticket earlier
  | .calledBack other its :: earlier =>
      (its = ticket ∧ other ≠ task) ∨ Overtaken task ticket earlier

/-- What a task has recorded. -/
def Reconciler.reportsBy (r : Reconciler) (task : Nat) : List ReconciliationRow :=
  (r.rows.filter fun row => decide (row.1 = task)).map Prod.snd

/-! ### What one step does to a task -/

/-- How a task may change: never back to waiting, never back from being done. -/
structure Settles (v v' : Verification) : Prop where
  order : v'.order = v.order
  waits : v'.waiting = true → v.waiting = true
  done : v.isDone = true → v'.isDone = true

theorem Settles.refl (v : Verification) : Settles v v := ⟨rfl, id, id⟩

theorem Verification.cancel_not_waiting (v : Verification) :
    v.cancel.waiting = false := by
  obtain ⟨order, phase⟩ := v
  cases phase <;> rfl

theorem Settles.cancel (v : Verification) : Settles v v.cancel := by
  obtain ⟨order, phase⟩ := v
  cases phase <;> constructor <;> simp [Verification.cancel,
    Verification.isDone, Verification.waiting]

namespace Reconciler

section Steps

variable {settings : ReconcilerSettings} {r r' : Reconciler}
variable {label : ReconcilerLabel} {i : Nat} {v : Verification}

theorem alter_get? (task : Nat) (change : Verification → Verification) :
    (r.alter task change).verifications[i]? =
      if task = i then r.verifications[i]?.map change
      else r.verifications[i]? := by
  simp only [alter, List.getElem?_modify]
  split
  · rfl
  · simp

theorem alter_task {task : Nat} {change : Verification → Verification}
    (found : r.verifications[i]? = some v)
    (settles : task = i → Settles v (change v)) :
    ∃ v', (r.alter task change).verifications[i]? = some v' ∧ Settles v v' := by
  by_cases same : task = i
  · exact ⟨change v, by simp [alter_get?, same, found], settles same⟩
  · exact ⟨v, by simp [alter_get?, same, found], Settles.refl v⟩

theorem cancelKept_task (ticket : Ticket) (found : r.verifications[i]? = some v) :
    ∃ v', (r.cancelKept ticket).verifications[i]? = some v' ∧ Settles v v' := by
  unfold cancelKept
  split
  · exact ⟨v, found, Settles.refl v⟩
  · exact alter_task found fun _ => Settles.cancel v

/-- Cancelling a kept task leaves the other tasks as they are. -/
theorem cancelKept_other {ticket : Ticket} (other : r.tasks.get? ticket ≠ some i) :
    (r.cancelKept ticket).verifications[i]? = r.verifications[i]? := by
  unfold cancelKept
  cases kept : r.tasks.get? ticket with
  | none => rfl
  | some task =>
      have apart : task ≠ i := fun same => other (same ▸ kept)
      simp [alter_get?, apart]

/-- The kept task itself does not wait any more. -/
theorem cancelKept_kept {ticket : Ticket} (kept : r.tasks.get? ticket = some i)
    (found : (r.cancelKept ticket).verifications[i]? = some v) :
    v.waiting = false := by
  simp only [cancelKept, kept, alter_get?, if_true, Option.map_eq_some_iff] at found
  obtain ⟨before, _, rfl⟩ := found
  exact before.cancel_not_waiting

theorem cancelKept_tasks (ticket : Ticket) :
    (r.cancelKept ticket).tasks = r.tasks := by
  unfold cancelKept
  split <;> rfl

theorem cancelKept_length (ticket : Ticket) :
    (r.cancelKept ticket).verifications.length = r.verifications.length := by
  unfold cancelKept
  split
  · rfl
  · simp [alter]

theorem cancelKept_rows (ticket : Ticket) : (r.cancelKept ticket).rows = r.rows := by
  unfold cancelKept
  split <;> rfl

/-- The steps, with the phase that each of them needs. -/
inductive Moves (settings : ReconcilerSettings) (r : Reconciler) :
    ReconcilerLabel → Reconciler → Prop where
  | filled (accountId : AccountId) (order : Order) :
      Moves settings r (.filled accountId order)
        (r.onFilled settings accountId order)
  | closed (accountId : AccountId) (position : Position) :
      Moves settings r (.closed accountId position)
        (r.onClosed settings accountId position)
  | wake {task : Nat} {order : Order}
      (asleep : r.verifications[task]? = some ⟨order, .sleeping⟩) :
      Moves settings r (.wake task) (r.setPhase task .querying)
  | answered {task : Nat} {order : Order} {positions : List Position}
      (asked : r.verifications[task]? = some ⟨order, .querying⟩) :
      Moves settings r (.answered task positions)
        (r.answered settings task order positions)
  | unreachable {task : Nat} {order : Order}
      (asked : r.verifications[task]? = some ⟨order, .querying⟩) :
      Moves settings r (.unreachable task) (r.setPhase task .done)
  | cancelled {task : Nat} {order : Order}
      (stopped : r.verifications[task]? = some ⟨order, .cancelling⟩) :
      Moves settings r (.cancelled task) (r.setPhase task .done)
  | callback {task : Nat} {order : Order}
      (over_ : r.verifications[task]? = some ⟨order, .done⟩) :
      Moves settings r (.callback task) (r.callback task order)

theorem moves_of_next? (step : r.next? settings label = some r') :
    Moves settings r label r' := by
  cases label with
  | filled accountId order =>
      cases step
      exact .filled accountId order
  | closed accountId position =>
      cases step
      exact .closed accountId position
  | wake task | answered task positions | unreachable task | cancelled task
  | callback task =>
      simp only [next?] at step
      split at step
      · cases step
        constructor
        assumption
      · cases step

/-- A step keeps every task, and changes it only as tasks may change. -/
theorem Moves.task (moves : Moves settings r label r')
    (found : r.verifications[i]? = some v) :
    ∃ v', r'.verifications[i]? = some v' ∧ Settles v v' := by
  have same : ∃ v', r.verifications[i]? = some v' ∧ Settles v v' :=
    ⟨v, found, Settles.refl v⟩
  cases moves with
  | filled accountId order =>
      unfold onFilled
      split
      · exact same
      · split
        · exact same
        · obtain ⟨v', kept, settles⟩ := cancelKept_task order.ticket found
          have inside := (List.getElem?_eq_some_iff.mp kept).1
          exact ⟨v', (List.getElem?_append_left inside).trans kept, settles⟩
  | closed accountId position =>
      unfold onClosed
      split
      · exact same
      · exact cancelKept_task position.ticket found
  | wake asleep =>
      apply alter_task found
      rintro rfl
      obtain rfl := Option.some.inj (found.symm.trans asleep)
      exact ⟨rfl, fun _ => rfl, fun done => (by cases done)⟩
  | answered asked =>
      apply alter_task found
      rintro rfl
      exact ⟨rfl, fun waits => (by cases waits), fun _ => rfl⟩
  | unreachable asked =>
      apply alter_task found
      rintro rfl
      exact ⟨rfl, fun waits => (by cases waits), fun _ => rfl⟩
  | cancelled stopped =>
      apply alter_task found
      rintro rfl
      exact ⟨rfl, fun waits => (by cases waits), fun _ => rfl⟩
  | callback over_ =>
      apply alter_task found
      rintro rfl
      exact ⟨rfl, fun waits => (by cases waits), fun _ => rfl⟩

/-- Only the answer of the broker to a task makes it report. -/
theorem Moves.reports (moves : Moves settings r label r')
    (other : ∀ positions, label ≠ .answered i positions) :
    r'.reportsBy i = r.reportsBy i := by
  cases moves with
  | filled accountId order =>
      unfold onFilled
      split
      · rfl
      · split
        · rfl
        · simp only [reportsBy, cancelKept_rows]
  | closed accountId position =>
      unfold onClosed
      split
      · rfl
      · simp only [reportsBy, cancelKept_rows]
  | @answered task order positions asked =>
      have apart : task ≠ i := by
        rintro rfl
        exact other positions rfl
      simp [reportsBy, Reconciler.answered, setPhase, alter, List.filter_append,
        List.filter_map, Function.comp_def, apart]
  | wake | unreachable | cancelled | callback => rfl

end Steps

end Reconciler

/-! ### Tasks that cannot report any more -/

section Stopped

open Reconciler

variable {settings : ReconcilerSettings} {r r' : Reconciler} {i : Nat}

/-- A task that was made and does not wait. -/
def Stopped (r : Reconciler) (i : Nat) : Prop :=
  ∃ v, r.verifications[i]? = some v ∧ v.waiting = false

theorem Stopped.step {label : ReconcilerLabel} (stopped : Stopped r i)
    (moves : Moves settings r label r') :
    Stopped r' i ∧ r'.reportsBy i = r.reportsBy i := by
  obtain ⟨v, found, still⟩ := stopped
  constructor
  · obtain ⟨v', later, settles⟩ := moves.task found
    refine ⟨v', later, ?_⟩
    rw [Bool.eq_false_iff] at still ⊢
    exact fun waits => still (settles.waits waits)
  · apply moves.reports
    rintro positions rfl
    cases moves with
    | answered asked =>
        obtain rfl := Option.some.inj (found.symm.trans asked)
        cases still

/-- In every run from there on, the task records nothing more. -/
theorem Stopped.run {labels : List ReconcilerLabel} (stopped : Stopped r i)
    (run : Run (stepOf? (Reconciler.next? settings)) r labels r') :
    r'.reportsBy i = r.reportsBy i := by
  induction run with
  | refl => rfl
  | step head tail ih =>
      obtain ⟨later, same⟩ := stopped.step (moves_of_next? head)
      exact (ih later).trans same

theorem querying_can_report {order : Order}
    (asked : r.verifications[i]? = some ⟨order, .querying⟩) :
    ∃ r', Run (stepOf? (Reconciler.next? settings)) r [.answered i []] r' ∧
      r'.reportsBy i ≠ [] := by
  have answer : stepOf? (Reconciler.next? settings) r (.answered i [])
      (r.answered settings i order []) := by
    simp only [stepOf?, next?, asked]
  refine ⟨_, .single answer, ?_⟩
  simp [reportsBy, answered, verdict]

/-- A task that waits may still report: the broker may show nothing. -/
theorem waiting_can_report {v : Verification}
    (found : r.verifications[i]? = some v) (waits : v.waiting = true) :
    ∃ labels r', Run (stepOf? (Reconciler.next? settings)) r labels r' ∧
      r'.reportsBy i ≠ [] := by
  obtain ⟨order, phase⟩ := v
  cases phase with
  | sleeping =>
      have wakes : stepOf? (Reconciler.next? settings) r (.wake i)
          (r.setPhase i .querying) := by
        simp only [stepOf?, next?, found]
      have woken : (r.setPhase i .querying).verifications[i]? =
          some ⟨order, .querying⟩ := by
        simp [setPhase, alter_get?, found]
      obtain ⟨r', run, reports⟩ := @querying_can_report settings _ _ _ woken
      exact ⟨_, r', .step wakes run, reports⟩
  | querying =>
      obtain ⟨r', run, reports⟩ := @querying_can_report settings _ _ _ found
      exact ⟨_, r', run, reports⟩
  | cancelling => cases waits
  | done => cases waits
  | calledBack => cases waits

end Stopped

/-! ### Runs -/

section Runs

open Reconciler

variable {settings : ReconcilerSettings} {r r' : Reconciler}

/-- A waiting task is the kept one of its ticket unless it was overtaken, and a task
that is not done has recorded nothing. -/
structure TasksTracked (r : Reconciler) : Prop where
  kept : ∀ i v, r.verifications[i]? = some v → v.waiting = true →
    (r.tasks.get? v.order.ticket = some i ↔
      ¬ Overtaken i v.order.ticket r.log)
  silent : ∀ i, (∀ v, r.verifications[i]? = some v → v.isDone = false) →
    r.reportsBy i = []

theorem tasksTracked_start : TasksTracked .start where
  kept := by
    intro i v found
    cases found
  silent := by
    intro i live
    rfl

/-- What waits after a change of one task that does not start waiting waited before,
and is another task. -/
theorem waiting_setPhase {task i : Nat} {phase : VerifyPhase} {v : Verification}
    (ended : Verification.waiting ⟨v.order, phase⟩ = false)
    (found : (r.setPhase task phase).verifications[i]? = some v)
    (waits : v.waiting = true) :
    task ≠ i ∧ r.verifications[i]? = some v := by
  simp only [setPhase, alter_get?] at found
  split at found
  · obtain ⟨before, _, rfl⟩ := Option.map_eq_some_iff.mp found
    exact absurd waits (by simpa using ended)
  · rename_i apart
    exact ⟨apart, found⟩

theorem TasksTracked.filled (tracked : TasksTracked r) (accountId : AccountId) (order : Order)
    (i : Nat) (v : Verification)
    (found : (r.onFilled settings accountId order).verifications[i]? = some v)
    (waits : v.waiting = true) :
    (r.onFilled settings accountId order).tasks.get? v.order.ticket = some i ↔
      ¬ Overtaken i v.order.ticket (r.onFilled settings accountId order).log := by
  unfold onFilled at found ⊢
  split
  · rename_i foreign
    rw [if_pos foreign] at found
    exact tracked.kept i v found waits
  · rename_i own
    rw [if_neg own] at found
    split
    · rename_i unknown
      rw [if_pos unknown] at found
      exact tracked.kept i v found waits
    · rename_i known
      rw [if_neg known] at found
      dsimp only at found ⊢
      rcases Nat.lt_trichotomy i r.verifications.length with old | new | beyond
      · have inside : i < (r.cancelKept order.ticket).verifications.length := by
          rwa [cancelKept_length]
        rw [List.getElem?_append_left inside] at found
        have apart : r.verifications.length ≠ i := (Nat.ne_of_lt old).symm
        have other : r.tasks.get? order.ticket ≠ some i := by
          intro kept
          rw [cancelKept_kept kept found] at waits
          cases waits
        rw [cancelKept_other other] at found
        have before := tracked.kept i v found waits
        by_cases same : v.order.ticket = order.ticket
        · rw [same] at before ⊢
          have overtaken := fun h => other (before.mpr h)
          simpa [Overtaken, apart] using overtaken
        · rw [cancelKept_tasks, Dict.get?_set_of_ne _ _ same, before]
          simp [Overtaken, apart]
      · subst new
        rw [← cancelKept_length order.ticket, List.getElem?_concat_length] at found
        obtain rfl := Option.some.inj found
        simp [Overtaken]
      · have nothing : (r.cancelKept order.ticket).verifications.length + 1 ≤ i := by
          rw [cancelKept_length]
          exact beyond
        rw [List.getElem?_eq_none (by simpa using nothing)] at found
        cases found

theorem TasksTracked.closed (tracked : TasksTracked r) (accountId : AccountId)
    (position : Position) (i : Nat) (v : Verification)
    (found : (r.onClosed settings accountId position).verifications[i]? = some v)
    (waits : v.waiting = true) :
    (r.onClosed settings accountId position).tasks.get? v.order.ticket = some i ↔
      ¬ Overtaken i v.order.ticket (r.onClosed settings accountId position).log := by
  unfold onClosed at found ⊢
  split
  · rename_i foreign
    rw [if_pos foreign] at found
    exact tracked.kept i v found waits
  · rename_i own
    rw [if_neg own] at found
    dsimp only at found ⊢
    have other : r.tasks.get? position.ticket ≠ some i := by
      intro kept
      rw [cancelKept_kept kept found] at waits
      cases waits
    rw [cancelKept_other other] at found
    have log : (r.cancelKept position.ticket).log = r.log := by
      unfold cancelKept
      split <;> rfl
    rw [log, Dict.get?_erase, ← tracked.kept i v found waits]
    split
    · rename_i same
      rw [same]
      simp [other]
    · rfl

theorem TasksTracked.step {label : ReconcilerLabel} (tracked : TasksTracked r)
    (moves : Moves settings r label r') : TasksTracked r' := by
  constructor
  case silent =>
    intro i live
    have before : ∀ v, r.verifications[i]? = some v → v.isDone = false := by
      intro v found
      obtain ⟨v', later, settles⟩ := moves.task found
      have unfinished := live v' later
      rw [Bool.eq_false_iff] at unfinished ⊢
      exact fun done => unfinished (settles.done done)
    refine (moves.reports ?_).trans (tracked.silent i before)
    rintro positions rfl
    cases moves with
    | answered asked =>
        have done := live ⟨_, .done⟩
          (by simp [answered, setPhase, alter_get?, asked]; rfl)
        cases done
  case kept =>
    intro i v found waits
    cases moves with
    | filled accountId order => exact tracked.filled accountId order i v found waits
    | closed accountId position =>
        exact tracked.closed accountId position i v found waits
    | @wake task order asleep =>
        simp only [setPhase, alter_get?] at found
        split at found
        · rename_i same
          subst same
          obtain ⟨before, was, rfl⟩ := Option.map_eq_some_iff.mp found
          obtain rfl := Option.some.inj (asleep.symm.trans was)
          exact tracked.kept task ⟨order, .sleeping⟩ asleep rfl
        · exact tracked.kept i v found waits
    | answered asked =>
        exact tracked.kept i v (waiting_setPhase rfl found waits).2 waits
    | unreachable asked =>
        exact tracked.kept i v (waiting_setPhase rfl found waits).2 waits
    | cancelled stopped =>
        exact tracked.kept i v (waiting_setPhase rfl found waits).2 waits
    | @callback task order over_ =>
        obtain ⟨apart, was⟩ := waiting_setPhase rfl found waits
        have before := tracked.kept i v was waits
        show (r.tasks.erase order.ticket).get? v.order.ticket = some i ↔ _
        rw [Dict.get?_erase]
        split
        · rename_i same
          simp [callback, Overtaken, same, apart]
        · rename_i differs
          have flipped : order.ticket ≠ v.order.ticket := fun h => differs h.symm
          simpa [callback, Overtaken, flipped] using before

/-- The verdict on a fill that the broker shows as filled: only its volume can differ,
from the volume of the order. -/
theorem verdict_shown {order : Order} {positions : List Position}
    (shown : ShownBy positions order) :
    verdict settings order positions =
      if |order.filledVolume - order.volume| > 1 / 1000000 then
        [.volumeDrift order.volume order.filledVolume]
      else [] := by
  obtain ⟨p, first, volume, price⟩ := shown
  simp only [verdict, first, volume]
  cases paid : order.fillPrice with
  | none => simp only [List.append_nil]
  | some fillPrice =>
      have exact_ : ¬ |p.openPrice - fillPrice| > settings.priceTolerance := by
        simp [price fillPrice paid, settings.priceTolerance_nonneg]
      simp only [exact_, if_false, List.append_nil]

/-- A fill that the broker shows as filled is reported exactly when its volume is not
the volume of the order. -/
theorem TasksTracked.answered_iff (tracked : TasksTracked r) {i : Nat} {v : Verification}
    {positions : List Position} (found : r.verifications[i]? = some v)
    (shown : ShownBy positions v.order)
    (step : r.next? settings (.answered i positions) = some r') :
    r'.reportsBy i = [] ↔ |v.order.filledVolume - v.order.volume| ≤ 1 / 1000000 := by
  cases moves_of_next? step with
  | @answered _ order _ asked =>
      obtain rfl := Option.some.inj (asked.symm.trans found)
      have before : r.reportsBy i = [] := by
        apply tracked.silent
        intro v' same
        obtain rfl := Option.some.inj (asked.symm.trans same)
        rfl
      have reports : (r.answered settings i order positions).reportsBy i =
          r.reportsBy i ++ (verdict settings order positions).map
            fun discrepancy => ⟨order.ticket, order.strategyId, discrepancy⟩ := by
        simp [reportsBy, Reconciler.answered, List.filter_append, List.filter_map,
          Function.comp_def]
      rw [reports, before, List.nil_append, List.map_eq_nil_iff]
      rw [verdict_shown shown, ite_eq_right_iff, ← not_lt]
      simp

/-- A close stops the verifications of its ticket for good, but those that wait and
were overtaken. -/
theorem TasksTracked.closed_iff (tracked : TasksTracked r) {i : Nat} {v : Verification}
    {position : Position} (found : r.verifications[i]? = some v)
    (live : v.isDone = false) (same : v.order.ticket = position.ticket)
    (step : r.next? settings (.closed settings.accountId position) = some r') :
    (∀ labels later, Run (stepOf? (Reconciler.next? settings)) r' labels later →
        later.reportsBy i = []) ↔
      v.phase = .cancelling ∨ ¬ Overtaken i v.order.ticket r.log := by
  have moves := moves_of_next? step
  have tracked' := tracked.step moves
  have silent : r'.reportsBy i = [] := by
    refine (moves.reports (by rintro positions ⟨⟩)).trans (tracked.silent i ?_)
    intro v' again
    obtain rfl := Option.some.inj (found.symm.trans again)
    exact live
  obtain ⟨v', later, settles⟩ := moves.task found
  have quiet : v'.waiting = false →
      ∀ labels later, Run (stepOf? (Reconciler.next? settings)) r' labels later →
        later.reportsBy i = [] := by
    intro still labels last run
    exact (Stopped.run ⟨v', later, still⟩ run).trans silent
  have after : r' = r.onClosed settings settings.accountId position :=
    (Option.some.inj step).symm
  simp only [onClosed, ne_eq, not_true_eq_false, if_false] at after
  cases waits : v.waiting with
  | false =>
      have cancelling : v.phase = .cancelling := by
        obtain ⟨order, phase⟩ := v
        cases phase <;> simp_all [Verification.waiting, Verification.isDone]
      have still : v'.waiting = false := by
        rw [Bool.eq_false_iff] at waits ⊢
        exact fun again => waits (settles.waits again)
      exact iff_of_true (quiet still) (Or.inl cancelling)
  | true =>
      have phase : v.phase ≠ .cancelling := by
        intro cancelling
        simp [Verification.waiting, cancelling] at waits
      have kept := tracked.kept i v found waits
      rw [or_iff_right phase, ← kept, same]
      subst after
      constructor
      · intro never
        by_contra other
        have untouched : (r.cancelKept position.ticket).verifications[i]? = some v :=
          (cancelKept_other other).trans found
        obtain ⟨labels, last, run, reports⟩ :=
          @waiting_can_report settings
            { r.cancelKept position.ticket with
              tasks := r.tasks.erase position.ticket } i v untouched waits
        exact reports (never labels last run)
      · intro is
        exact quiet (cancelKept_kept is later)

/-- In every run, under any interleaving of fills, closes, tasks and callbacks: a
verification to which the broker shows the fill as filled records nothing exactly when
the filled volume is the ordered one up to the tolerance; and a verification of the
ticket that is not done when a close is handled never records anything exactly when it
was cancelled before or no other task of the ticket has run its callback since it was
made. -/
theorem no_false_alarm_iff {labels : List ReconcilerLabel}
    (run : Run (stepOf? (Reconciler.next? settings)) .start labels r) :
    (∀ i v positions r', r.verifications[i]? = some v → ShownBy positions v.order →
      r.next? settings (.answered i positions) = some r' →
      (r'.reportsBy i = [] ↔
        |v.order.filledVolume - v.order.volume| ≤ 1 / 1000000)) ∧
    (∀ i v position r', r.verifications[i]? = some v → v.isDone = false →
      v.order.ticket = position.ticket →
      r.next? settings (.closed settings.accountId position) = some r' →
      ((∀ labels later, Run (stepOf? (Reconciler.next? settings)) r' labels later →
          later.reportsBy i = []) ↔
        v.phase = .cancelling ∨ ¬ Overtaken i v.order.ticket r.log)) := by
  have tracked : TasksTracked r :=
    run.invariant tasksTracked_start fun step tracked =>
      tracked.step (moves_of_next? step)
  constructor
  · intro i v positions r' found shown step
    exact tracked.answered_iff found shown step
  · intro i v position r' found live same step
    exact tracked.closed_iff found live same step

end Runs

/-! ### One order, filled in full or in part -/

section OneOrder

open Reconciler

def mainReconciler : ReconcilerSettings := .standard "main"

/-- An order for one lot, with what was filled of it. -/
def oneLot (status : OrderStatus) (filledVolume : ℚ) : Order where
  ticket := 1
  strategyId := "s1"
  symbol := "EURUSD"
  side := .buy
  type := .market
  volume := 1
  filledVolume := filledVolume
  price := none
  fillPrice := some 2
  sl := none
  tp := none
  status := status
  comment := ""
  magic := 7
  clientOrderId := "c1"
  requestedAt := none
  filledAt := none
  volume_pos := one_quote_pos

/-- The position that the broker shows for it. -/
def heldLot (volume : ℚ) (volume_pos : 0 < volume) : Position where
  ticket := 1
  symbol := "EURUSD"
  side := .buy
  volume := volume
  openPrice := 2
  openTime := 0
  sl := none
  tp := none
  comment := ""
  magic := 7
  volume_pos := volume_pos
  openPrice_pos := two_quote_pos

/-- A fill whose verification awaits the broker. -/
def asked (order : Order) : Reconciler :=
  ⟨Dict.empty.set 1 0, [⟨order, .querying⟩], [], [.made 0 1]⟩

theorem run_asked (status : OrderStatus) (filledVolume : ℚ) :
    Run (stepOf? (Reconciler.next? mainReconciler)) .start
      [.filled "main" (oneLot status filledVolume), .wake 0]
      (asked (oneLot status filledVolume)) :=
  .step rfl (.single rfl)

theorem shown_heldLot (status : OrderStatus) (volume : ℚ) (volume_pos : 0 < volume) :
    ShownBy [heldLot volume volume_pos] (oneLot status volume) := by
  refine ⟨heldLot volume volume_pos, rfl, rfl, ?_⟩
  intro price paid
  exact Option.some.inj paid

theorem no_false_alarm_iff_full_fill :
    ((asked (oneLot .filled 1)).answered mainReconciler 0 (oneLot .filled 1)
        [heldLot 1 one_pos]).reportsBy 0 = [] ∧
      ∀ labels later,
        Run (stepOf? (Reconciler.next? mainReconciler))
          ((asked (oneLot .filled 1)).onClosed mainReconciler "main"
            (heldLot 1 one_pos)) labels later →
        later.reportsBy 0 = [] := by
  have safe := no_false_alarm_iff (run_asked .filled 1)
  constructor
  · apply (safe.1 0 _ [heldLot 1 one_pos] _ rfl (shown_heldLot .filled 1 one_pos) rfl).mpr
    norm_num [oneLot]
  · apply (safe.2 0 _ (heldLot 1 one_pos) _ rfl rfl rfl rfl).mpr
    right
    simp [asked, Overtaken]

/-- A duplicate fill whose first verification is cancelled and has run its callback,
which pops the second one. -/
def forgotten : Reconciler :=
  ⟨Dict.empty,
    [⟨oneLot .filled 1, .calledBack⟩, ⟨oneLot .filled 1, .sleeping⟩], [],
    [.calledBack 0 1, .made 1 1, .made 0 1]⟩

/-- Two false alarms. The broker shows a partial fill with its volume and price, and a
volume drift is recorded; and after a duplicate fill the close of the position does
not stop the verification that waits, which then records a missing position. -/
theorem false_alarms :
    (∃ labels r r', Run (stepOf? (Reconciler.next? mainReconciler)) .start labels r ∧
      ShownBy [heldLot (2 / 5) (by norm_num)] (oneLot .partiallyFilled (2 / 5)) ∧
      r.verifications[0]? = some ⟨oneLot .partiallyFilled (2 / 5), .querying⟩ ∧
      r.next? mainReconciler (.answered 0 [heldLot (2 / 5) (by norm_num)]) =
        some r' ∧
      r'.reportsBy 0 = [⟨1, "s1", .volumeDrift 1 (2 / 5)⟩]) ∧
    (∃ labels r r' later r'',
      Run (stepOf? (Reconciler.next? mainReconciler)) .start labels r ∧
      r.verifications[1]? = some ⟨oneLot .filled 1, .sleeping⟩ ∧
      r.next? mainReconciler (.closed "main" (heldLot 1 one_pos)) = some r' ∧
      Run (stepOf? (Reconciler.next? mainReconciler)) r' later r'' ∧
      r''.reportsBy 1 = [⟨1, "s1", .positionMissing 1 (some 2)⟩]) := by
  constructor
  · refine ⟨_, _, _, run_asked .partiallyFilled (2 / 5), shown_heldLot _ _ _, rfl, rfl, ?_⟩
    decide +kernel
  · have replayed : replay? (fun _ _ => True) (Reconciler.next? mainReconciler) .start
        [.filled "main" (oneLot .filled 1), .filled "main" (oneLot .filled 1),
          .cancelled 0, .callback 0] = some forgotten := by
      decide +kernel
    have run := (run_of_replay? replayed).unguard
    refine ⟨_, forgotten, forgotten, [.wake 1, .answered 1 []], _, run, rfl, ?_,
      .step rfl (.single rfl), ?_⟩
    · decide +kernel
    · decide +kernel

end OneOrder

end StingerFx
