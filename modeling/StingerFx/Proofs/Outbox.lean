/-
Module: StingerFx.Proofs.Outbox
Layer: Proofs
Purpose: Exactly-once placement through the order queue. A client order id that
  reached a broker has a row; the row is pending only while its call is awaited.
  A replay that starts while no selected row is being submitted, and whose rows
  all lead to a broker, therefore places every selected row once and returns
  every acceptance once. A replay that meets a row it cannot place raises, and
  one that starts during a submission places its row again.
Trusted boundary: none (fully proved)
Main exports: OrderQueue.ExactlyOnce, OrderTable.Settles,
  OrderQueue.SafeReplay, OrderQueue.exactly_once_of_safe_replay,
  OrderQueue.unsafe_starts_break_exactly_once
-/
import StingerFx.Brokers.OrderQueue

namespace StingerFx

open Lib

/-! ### What the outbox is for -/

/-- Between two tables every row stays, and a row that is no longer pending
keeps its status. -/
def OrderTable.Settles (t t' : OrderTable) : Prop :=
  ∀ i row, t.rows.get? i = some row →
    ∃ row', t'.rows.get? i = some row' ∧
      row'.clientOrderId = row.clientOrderId ∧
      (row.status ≠ .pending → row'.status = row.status)

namespace ReplayTask

/-- The rows the replay has not come to yet. -/
def todo : ReplayTask → List (RowId × PendingOrderRequestRow)
  | .awaiting _ _ todo _ => todo
  | _ => []

/-- The list handed to the router: none when the replay raised. -/
def result : ReplayTask → List ReplayedOrder
  | .returned replayed => replayed
  | _ => []

def ended : ReplayTask → Prop
  | .returned _ | .raised => True
  | _ => False

end ReplayTask

namespace OrderQueue

variable {β ε : Type} {env : QueueEnv β ε} {q q' : OrderQueue β}

/-- The client order ids that were passed to a broker, once for each call. -/
def placedIds (q : OrderQueue β) : List ClientOrderId :=
  (q.submitted ++ q.resubmitted).map (·.request.clientOrderId)

def flyingRows (q : OrderQueue β) : List RowId :=
  q.inFlight.map Submission.rowId

/-- The outbox in one state: no client order id is placed twice; a replay that
is over has called a broker for every row that leads to one; and each of its
accepted requests is in the returned list exactly once. -/
structure ExactlyOnce (env : QueueEnv β ε) (q : OrderQueue β) : Prop where
  placedOnce : q.placedIds.Nodup
  replayedAll : q.replay.ended → ∀ entry ∈ q.selected,
    entry.2.replayable env = true →
      ∃ call ∈ q.resubmitted, entry.2.request = some call.request
  returnedOnce : q.replay.ended → ∀ order ∈ q.accepted,
    order ∈ q.replay.result ∧
      (q.replay.result.map ReplayedOrder.request).count order.request = 1

/-- A replay starts safely when no row it reads is being submitted and every one
leads to a broker, or when none of them leads to a broker. -/
def SafeReplay (env : QueueEnv β ε) (q : OrderQueue β) :
    QueueLabel β ε → Prop
  | .startReplay =>
      (∀ entry ∈ q.table.pendingRows,
        entry.1 ∉ q.flyingRows ∧ entry.2.replayable env = true) ∨
      ∀ entry ∈ q.table.pendingRows, entry.2.replayable env = false
  | _ => True

instance (q : OrderQueue β) (label : QueueLabel β ε) :
    Decidable (SafeReplay env q label) := by
  cases label <;> unfold SafeReplay <;> infer_instance

/-- Steps of the queue whose replay starts safely. -/
def SafeStep (env : QueueEnv β ε) :
    OrderQueue β → QueueLabel β ε → OrderQueue β → Prop :=
  Guarded (SafeReplay env) (Step env)

/-! ### The invariant -/

/-- Calls and rows agree: a placed id has a row, and a submission in flight has
a pending one. -/
structure Booked (q : OrderQueue β) : Prop where
  placedOnce : q.placedIds.Nodup
  known : ∀ id ∈ q.placedIds, ∃ i row,
    q.table.rows.get? i = some row ∧ row.clientOrderId = id
  flying : ∀ i ∈ q.flyingRows, ∃ row, q.table.rows.get? i = some row ∧
    row.status = .pending ∧ row.clientOrderId ∈ q.placedIds

/-- The rows still to be replayed are untouched since they were read. -/
structure Waiting (env : QueueEnv β ε) (q : OrderQueue β)
    (todo : List (RowId × PendingOrderRequestRow)) : Prop where
  untouched : ∀ entry ∈ todo,
    q.table.rows.get? entry.1 = some entry.2 ∧ entry.2.status = .pending ∧
      entry.1 ∉ q.flyingRows ∧ entry.2.clientOrderId ∉ q.placedIds
  keysOnce : (todo.map Prod.fst).Nodup
  replayable : ∀ entry ∈ todo, entry.2.replayable env = true

/-- Every row read is still to come or was tried, and the results collected so
far are those of the calls made, in their order. -/
structure Progress (q : OrderQueue β)
    (todo : List (RowId × PendingOrderRequestRow))
    (replayed : List ReplayedOrder) (tried : List OrderRequest) : Prop where
  covered : ∀ entry ∈ q.selected, entry ∈ todo ∨
    ∃ call ∈ q.resubmitted, entry.2.request = some call.request
  ordered : (replayed.map ReplayedOrder.request ++ tried).Sublist
    (q.resubmitted.map PlacedOrder.request)
  kept : q.accepted = replayed.filter (·.result.ok)

/-- What the phase of the replay tells. -/
def ReplayInv (env : QueueEnv β ε) (q : OrderQueue β) : ReplayTask → Prop
  | .notStarted =>
      q.resubmitted = [] ∧ q.accepted = [] ∧
        ∀ i row, q.table.rows.get? i = some row → row.status = .pending →
          row.clientOrderId ∈ q.placedIds → i ∈ q.flyingRows
  | .awaiting id req todo replayed =>
      (∃ row, q.table.rows.get? id = some row ∧ row.status = .pending ∧
        row.clientOrderId ∈ q.placedIds) ∧
      id ∉ q.flyingRows ∧ Waiting env q todo ∧ Progress q todo replayed [req]
  | .returned replayed => Progress q [] replayed []
  | .raised =>
      q.accepted = [] ∧ ∀ entry ∈ q.selected, entry.2.replayable env = false

structure Sound (env : QueueEnv β ε) (q : OrderQueue β) : Prop where
  booked : Booked q
  replay : ReplayInv env q q.replay

theorem boot_sound (table : OrderTable) :
    Sound env (boot table : OrderQueue β) where
  booked := ⟨List.nodup_nil, by simp [boot, placedIds],
    by simp [boot, flyingRows]⟩
  replay := ⟨rfl, rfl, by simp [boot, placedIds]⟩

/-- The invariant is what the outbox promises. -/
theorem Sound.exactlyOnce (sound : Sound env q) : ExactlyOnce env q where
  placedOnce := sound.booked.placedOnce
  replayedAll := by
    intro ended entry member replayable
    have phase := sound.replay
    cases replay : q.replay with
    | notStarted => rw [replay] at ended; cases ended
    | awaiting => rw [replay] at ended; cases ended
    | returned replayed =>
        rw [replay] at phase
        exact (phase.covered entry member).resolve_left (by simp)
    | raised =>
        rw [replay] at phase
        rw [phase.2 entry member] at replayable
        cases replayable
  returnedOnce := by
    intro ended order accepted
    have phase := sound.replay
    cases replay : q.replay with
    | notStarted => rw [replay] at ended; cases ended
    | awaiting => rw [replay] at ended; cases ended
    | returned replayed =>
        rw [replay] at phase
        rw [phase.kept] at accepted
        have member : order ∈ replayed := List.mem_of_mem_filter accepted
        have once : (replayed.map ReplayedOrder.request).Nodup := by
          have ids := sound.booked.placedOnce
          unfold placedIds at ids
          rw [List.map_append, List.nodup_append] at ids
          have requests : (q.resubmitted.map PlacedOrder.request).Nodup :=
            List.Nodup.of_map OrderRequest.clientOrderId
              (by rw [List.map_map]; exact ids.2.1)
          exact requests.sublist
            (by simpa using phase.ordered)
        exact ⟨member, List.count_eq_one_of_mem once
          (List.mem_map.mpr ⟨order, member, rfl⟩)⟩
    | raised =>
        rw [replay] at phase
        rw [phase.1] at accepted
        cases accepted

/-! ### What one step keeps -/

/-- Settling a row whose call was made: no other row changes. -/
theorem Booked.settle (booked : Booked q) {now : Time} {context : String}
    {id : RowId} {answer : PlaceAnswer ε}
    (table : q'.table = q.table.settle env now context id answer)
    (placed : q'.placedIds = q.placedIds)
    (flying : ∀ i ∈ q'.flyingRows, i ∈ q.flyingRows ∧ i ≠ id) :
    Booked q' where
  placedOnce := placed ▸ booked.placedOnce
  known := by
    intro key member
    rw [placed] at member
    obtain ⟨i, row, stored, own⟩ := booked.known key member
    rw [table]
    by_cases here : i = id
    · refine ⟨i, row.settle env now context answer, ?_, by simpa using own⟩
      rw [OrderTable.get?_settle, if_pos here, ← here, stored, Option.map_some]
    · exact ⟨i, row, by rw [OrderTable.get?_settle, if_neg here, stored], own⟩
  flying := by
    intro i member
    obtain ⟨before, apart⟩ := flying i member
    obtain ⟨row, stored, pending, own⟩ := booked.flying i before
    refine ⟨row, ?_, pending, placed ▸ own⟩
    rw [table, OrderTable.get?_settle, if_neg apart, stored]

/-- Rows still to be replayed stay untouched when their rows, the submissions in
flight and the placed ids leave them alone. -/
theorem Waiting.frame {todo : List (RowId × PendingOrderRequestRow)}
    (waiting : Waiting env q todo)
    (rows : ∀ entry ∈ todo,
      q'.table.rows.get? entry.1 = q.table.rows.get? entry.1)
    (flying : ∀ entry ∈ todo, entry.1 ∉ q'.flyingRows)
    (placed : ∀ entry ∈ todo, entry.2.clientOrderId ∉ q'.placedIds) :
    Waiting env q' todo where
  untouched := by
    intro entry member
    obtain ⟨stored, pending, -, -⟩ := waiting.untouched entry member
    exact ⟨(rows entry member).trans stored, pending, flying entry member,
      placed entry member⟩
  keysOnce := waiting.keysOnce
  replayable := waiting.replayable

/-- A row whose client order id was placed is none of the rows to come. -/
theorem Waiting.apart {todo : List (RowId × PendingOrderRequestRow)}
    (waiting : Waiting env q todo) {id : RowId} {row : PendingOrderRequestRow}
    (stored : q.table.rows.get? id = some row)
    (placed : row.clientOrderId ∈ q.placedIds)
    {entry : RowId × PendingOrderRequestRow} (member : entry ∈ todo) :
    entry.1 ≠ id := by
  rintro rfl
  obtain ⟨found, -, -, fresh⟩ := waiting.untouched entry member
  rw [stored] at found
  cases found
  exact fresh placed

theorem Waiting.settle {todo : List (RowId × PendingOrderRequestRow)}
    (waiting : Waiting env q todo) {now : Time} {context : String} {id : RowId}
    {answer : PlaceAnswer ε} {row : PendingOrderRequestRow}
    (stored : q.table.rows.get? id = some row)
    (called : row.clientOrderId ∈ q.placedIds)
    (table : q'.table = q.table.settle env now context id answer)
    (placed : q'.placedIds = q.placedIds)
    (flying : ∀ i ∈ q'.flyingRows, i ∈ q.flyingRows) :
    Waiting env q' todo := by
  refine waiting.frame ?_ ?_ ?_
  · intro entry member
    rw [table, OrderTable.get?_settle,
      if_neg (waiting.apart stored called member)]
  · intro entry member later
    exact (waiting.untouched entry member).2.2.1 (flying _ later)
  · intro entry member
    rw [placed]
    exact (waiting.untouched entry member).2.2.2

section Resubmit

variable {id : RowId} {row : PendingOrderRequestRow} {req : OrderRequest}
  {broker : β} {todo : List (RowId × PendingOrderRequestRow)}
  {replayed : List ReplayedOrder}

theorem placedIds_resubmit (valid : row.request = some req) :
    (q.resubmit id req broker todo replayed).placedIds =
      q.placedIds ++ [row.clientOrderId] := by
  simp [placedIds, resubmit, row.request_own req valid]

/-- Calling the broker for an untouched row. -/
theorem Booked.resubmit (booked : Booked q)
    (waiting : Waiting env q ((id, row) :: todo))
    (valid : row.request = some req) :
    Booked (q.resubmit id req broker todo replayed) := by
  obtain ⟨stored, pending, -, fresh⟩ :=
    waiting.untouched _ List.mem_cons_self
  have placed := @placedIds_resubmit _ q id row req broker todo replayed valid
  constructor
  · rw [placed, List.nodup_append]
    refine ⟨booked.placedOnce, List.nodup_singleton _, ?_⟩
    rintro key member _ last rfl
    exact fresh (List.mem_singleton.mp last ▸ member)
  · intro key member
    rw [placed, List.mem_append, List.mem_singleton] at member
    rcases member with before | rfl
    · exact booked.known key before
    · exact ⟨id, row, stored, rfl⟩
  · intro i member
    obtain ⟨other, found, waits, before⟩ := booked.flying i member
    rw [placed]
    exact ⟨other, found, waits, List.mem_append_left _ before⟩

/-- The rows behind the one being called stay untouched. -/
theorem Waiting.resubmit (waiting : Waiting env q ((id, row) :: todo))
    (valid : row.request = some req) :
    Waiting env (q.resubmit id req broker todo replayed) todo := by
  have keysOnce := waiting.keysOnce
  rw [List.map_cons, List.nodup_cons] at keysOnce
  obtain ⟨stored, -, -, -⟩ := waiting.untouched _ List.mem_cons_self
  refine ⟨?_, keysOnce.2, ?_⟩
  · intro other member
    obtain ⟨found, waits, grounded, unplaced⟩ :=
      waiting.untouched other (List.mem_cons_of_mem _ member)
    refine ⟨found, waits, grounded, ?_⟩
    rw [placedIds_resubmit valid, List.mem_append, List.mem_singleton]
    rintro (before | same)
    · exact unplaced before
    · exact keysOnce.1 (List.mem_map.mpr
        ⟨other, member, q.table.distinct found stored same⟩)
  · intro other member
    exact waiting.replayable other (List.mem_cons_of_mem _ member)

theorem Progress.resubmit
    (progress : Progress q ((id, row) :: todo) replayed [])
    (valid : row.request = some req) :
    Progress (q.resubmit id req broker todo replayed) todo replayed [req] where
  covered := by
    intro other member
    rcases progress.covered other member with later | ⟨call, made, own⟩
    · rcases List.mem_cons.mp later with rfl | later
      · exact .inr ⟨⟨broker, req⟩,
          List.mem_append_right _ (List.mem_singleton.mpr rfl), valid⟩
      · exact .inl later
    · exact .inr ⟨call, List.mem_append_left _ made, own⟩
  ordered := by
    have ordered := progress.ordered
    rw [List.append_nil] at ordered
    simpa [OrderQueue.resubmit] using ordered.append (List.Sublist.refl [req])
  kept := progress.kept

/-- Going on with rows that all lead to a broker: the next one is called, or
the replay returns. -/
theorem replayFrom_sound (booked : Booked q) (waiting : Waiting env q todo)
    (progress : Progress q todo replayed []) :
    Sound env (q.replayFrom env replayed todo) := by
  cases todo with
  | nil =>
      exact ⟨⟨booked.placedOnce, booked.known, booked.flying⟩,
        progress.covered, progress.ordered, progress.kept⟩
  | cons entry todo =>
      obtain ⟨id, row⟩ := entry
      obtain ⟨req, broker, valid, next⟩ :=
        replayFrom_replayable q replayed id todo
          (waiting.replayable _ List.mem_cons_self)
      obtain ⟨stored, pending, grounded, -⟩ :=
        waiting.untouched _ List.mem_cons_self
      rw [next]
      have own : row.clientOrderId ∈
          (q.resubmit id req broker todo replayed).placedIds := by
        rw [placedIds_resubmit valid]
        exact List.mem_append_right _ (List.mem_singleton.mpr rfl)
      exact ⟨booked.resubmit waiting valid, ⟨row, stored, pending, own⟩,
        grounded, waiting.resubmit valid, progress.resubmit valid⟩

end Resubmit

/-! ### A submission starts -/

section Book

variable {now : Time} {req : OrderRequest} {broker : β} {id : RowId}
  {table : OrderTable}

theorem placedIds_book :
    (q.book table id broker req).placedIds.Perm
      (req.clientOrderId :: q.placedIds) := by
  simp [placedIds, book, List.perm_middle]

theorem mem_flyingRows_book {i : RowId} :
    i ∈ (q.book table id broker req).flyingRows ↔
      i ∈ q.flyingRows ∨ i = id := by
  simp [flyingRows, book]

/-- Earlier rows keep their place beside the new one. -/
theorem book_keeps (enqueued : q.table.enqueue now req = .ok (id, table))
    {i : RowId} {row : PendingOrderRequestRow}
    (stored : q.table.rows.get? i = some row) :
    i ≠ id ∧ table.rows.get? i = some row := by
  obtain ⟨unused, -, rows⟩ := OrderTable.enqueue_spec enqueued
  have apart : i ≠ id := by
    rintro rfl
    rw [unused] at stored
    cases stored
  exact ⟨apart, by rw [rows, if_neg apart, stored]⟩

theorem book_stores (enqueued : q.table.enqueue now req = .ok (id, table)) :
    table.rows.get? id = some (.create now req) := by
  obtain ⟨-, -, rows⟩ := OrderTable.enqueue_spec enqueued
  rw [rows, if_pos rfl]

theorem Booked.book (booked : Booked q)
    (enqueued : q.table.enqueue now req = .ok (id, table)) :
    Booked (q.book table id broker req) where
  placedOnce := by
    rw [placedIds_book.nodup_iff, List.nodup_cons]
    refine ⟨?_, booked.placedOnce⟩
    intro before
    obtain ⟨i, row, stored, same⟩ := booked.known _ before
    exact (OrderTable.enqueue_spec enqueued).2.1 stored same
  known := by
    intro key member
    rw [placedIds_book.mem_iff, List.mem_cons] at member
    rcases member with rfl | before
    · exact ⟨id, _, book_stores enqueued, rfl⟩
    · obtain ⟨i, row, stored, same⟩ := booked.known key before
      exact ⟨i, row, (book_keeps enqueued stored).2, same⟩
  flying := by
    intro i member
    rcases mem_flyingRows_book.mp member with before | rfl
    · obtain ⟨row, stored, pending, called⟩ := booked.flying i before
      exact ⟨row, (book_keeps enqueued stored).2, pending,
        placedIds_book.mem_iff.mpr (List.mem_cons_of_mem _ called)⟩
    · exact ⟨_, book_stores enqueued, rfl,
        placedIds_book.mem_iff.mpr List.mem_cons_self⟩

theorem Waiting.book {todo : List (RowId × PendingOrderRequestRow)}
    (waiting : Waiting env q todo)
    (enqueued : q.table.enqueue now req = .ok (id, table)) :
    Waiting env (q.book table id broker req) todo := by
  refine waiting.frame ?_ ?_ ?_
  · intro entry member
    obtain ⟨stored, -, -, -⟩ := waiting.untouched entry member
    exact (book_keeps enqueued stored).2.trans stored.symm
  · intro entry member
    obtain ⟨stored, -, grounded, -⟩ := waiting.untouched entry member
    rw [mem_flyingRows_book]
    rintro (before | same)
    · exact grounded before
    · exact (book_keeps enqueued stored).1 same
  · intro entry member
    obtain ⟨stored, -, -, unplaced⟩ := waiting.untouched entry member
    rw [placedIds_book.mem_iff, List.mem_cons]
    rintro (same | before)
    · exact (OrderTable.enqueue_spec enqueued).2.1 stored same
    · exact unplaced before

/-- A submission under a new client order id. -/
theorem Sound.book (sound : Sound env q)
    (enqueued : q.table.enqueue now req = .ok (id, table)) :
    Sound env (q.book table id broker req) := by
  refine ⟨sound.booked.book enqueued, ?_⟩
  have phase := sound.replay
  change ReplayInv env (q.book table id broker req) q.replay
  cases replay : q.replay with
  | notStarted =>
      rw [replay] at phase
      obtain ⟨calls, results, flies⟩ := phase
      refine ⟨calls, results, ?_⟩
      intro i row stored pending called
      rw [mem_flyingRows_book]
      by_cases here : i = id
      · exact .inr here
      · left
        obtain ⟨-, unknown, rows⟩ := OrderTable.enqueue_spec enqueued
        have before : q.table.rows.get? i = some row := by
          rw [← stored]
          exact ((rows i).trans (if_neg here)).symm
        rw [placedIds_book.mem_iff, List.mem_cons] at called
        exact flies i row before pending
          (called.resolve_left (unknown before))
  | awaiting row req todo replayed =>
      rw [replay] at phase
      obtain ⟨⟨row, stored, pending, called⟩, grounded, waiting, progress⟩ :=
        phase
      refine ⟨⟨row, (book_keeps enqueued stored).2, pending,
        placedIds_book.mem_iff.mpr (List.mem_cons_of_mem _ called)⟩, ?_,
        waiting.book enqueued,
        progress.covered, progress.ordered, progress.kept⟩
      rw [mem_flyingRows_book]
      rintro (before | same)
      · exact grounded before
      · exact (book_keeps enqueued stored).1 same
  | returned replayed =>
      rw [replay] at phase
      exact ⟨phase.covered, phase.ordered, phase.kept⟩
  | raised =>
      rw [replay] at phase
      exact phase

end Book

/-! ### A broker answers -/

/-- A submission's broker answers. -/
theorem Sound.finish (sound : Sound env q) {now : Time} {id : RowId}
    {answer : PlaceAnswer ε} (flies : id ∈ q.flyingRows) :
    Sound env (q.finish env now id answer) := by
  obtain ⟨row, stored, -, called⟩ := sound.booked.flying id flies
  have landed : ∀ i,
      i ∈ (q.finish env now id answer).flyingRows ↔
        i ∈ q.flyingRows ∧ i ≠ id := by
    intro i
    simp only [flyingRows, OrderQueue.finish, List.mem_map, List.mem_filter,
      decide_eq_true_eq]
    constructor
    · rintro ⟨sub, ⟨member, apart⟩, rfl⟩
      exact ⟨⟨sub, member, rfl⟩, apart⟩
    · rintro ⟨⟨sub, member, rfl⟩, apart⟩
      exact ⟨sub, ⟨member, apart⟩, rfl⟩
  have waiting : ∀ {todo}, Waiting env q todo →
      Waiting env (q.finish env now id answer) todo :=
    fun waiting => waiting.settle stored called rfl rfl
      fun i member => ((landed i).mp member).1
  refine ⟨sound.booked.settle rfl rfl fun i => (landed i).mp, ?_⟩
  have phase := sound.replay
  change ReplayInv env (q.finish env now id answer) q.replay
  cases replay : q.replay with
  | notStarted =>
      rw [replay] at phase
      obtain ⟨calls, results, flies⟩ := phase
      refine ⟨calls, results, ?_⟩
      intro i row' stored' pending called'
      change (q.table.settle env now "" id answer).rows.get? i = some row'
        at stored'
      rw [OrderTable.get?_settle] at stored'
      rw [landed]
      split at stored'
      · rw [stored, Option.map_some] at stored'
        cases stored'
        exact absurd pending (row.settle_status env now "" answer)
      · rename_i apart
        exact ⟨flies i row' stored' pending called', apart⟩
  | awaiting other req todo replayed =>
      rw [replay] at phase
      obtain ⟨⟨row', stored', pending, called'⟩, grounded, todo_waits,
        progress⟩ := phase
      have apart : other ≠ id := by
        rintro rfl
        exact grounded flies
      refine ⟨⟨row', ?_, pending, called'⟩, ?_, waiting todo_waits,
        progress.covered, progress.ordered, progress.kept⟩
      · exact (OrderTable.get?_settle other).trans
          ((if_neg apart).trans stored')
      · exact fun member => grounded ((landed other).mp member).1
  | returned replayed =>
      rw [replay] at phase
      exact ⟨phase.covered, phase.ordered, phase.kept⟩
  | raised =>
      rw [replay] at phase
      exact phase

/-- The broker of a replayed row answers, and the replay goes on. -/
theorem Sound.collect (sound : Sound env q) {now : Time} {id : RowId}
    {req : OrderRequest} {todo : List (RowId × PendingOrderRequestRow)}
    {replayed : List ReplayedOrder} {answer : PlaceAnswer ε}
    (replay : q.replay = .awaiting id req todo replayed) :
    Sound env (q.collect env now id req todo replayed answer) := by
  have phase := sound.replay
  rw [replay] at phase
  obtain ⟨⟨row, stored, -, called⟩, grounded, waiting, progress⟩ := phase
  have flying : ∀ i ∈ q.flyingRows, i ∈ q.flyingRows ∧ i ≠ id :=
    fun i member => ⟨member, fun same => grounded (same ▸ member)⟩
  unfold OrderQueue.collect
  cases answer with
  | error error =>
      refine replayFrom_sound (sound.booked.settle rfl rfl flying)
        (waiting.settle stored called rfl rfl fun _ member => member)
        ⟨progress.covered, ?_, progress.kept⟩
      rw [List.append_nil]
      exact (List.sublist_append_left _ _).trans progress.ordered
  | ok result =>
      refine replayFrom_sound (sound.booked.settle rfl rfl flying)
        (waiting.settle stored called rfl rfl fun _ member => member)
        ⟨progress.covered, ?_, ?_⟩
      · simpa using progress.ordered
      · dsimp only
        rw [List.filter_append, ← progress.kept]
        cases ok : result.ok with
        | true => simp [ok]
        | false => simp [ok]

/-- A replay that starts safely. -/
theorem Sound.startReplay (sound : Sound env q)
    (replay : q.replay = .notStarted)
    (safe : SafeReplay env q (.startReplay : QueueLabel β ε)) :
    Sound env ({ q with selected := q.table.pendingRows }.replayFrom env []
      q.table.pendingRows) := by
  have phase := sound.replay
  rw [replay] at phase
  obtain ⟨calls, results, flies⟩ := phase
  have progress : Progress { q with selected := q.table.pendingRows }
      q.table.pendingRows [] [] :=
    ⟨fun entry member => .inl member, by simp, by simpa using results⟩
  have booked : Booked { q with selected := q.table.pendingRows } :=
    ⟨sound.booked.placedOnce, sound.booked.known, sound.booked.flying⟩
  rcases safe with good | stuck
  · refine replayFrom_sound booked ⟨?_, q.table.nodup_pendingRows, ?_⟩ progress
    · intro entry member
      obtain ⟨stored, pending⟩ := OrderTable.mem_pendingRows.mp member
      exact ⟨stored, pending, (good entry member).1, fun called =>
        (good entry member).1 (flies _ _ stored pending called)⟩
    · exact fun entry member => (good entry member).2
  · cases rows : q.table.pendingRows with
    | nil =>
        rw [rows] at progress booked
        exact replayFrom_sound booked ⟨by simp, by simp, by simp⟩ progress
    | cons entry rest =>
        obtain ⟨id, row⟩ := entry
        rw [rows] at stuck
        rw [replayFrom_not_replayable _ _ _ _ (stuck _ List.mem_cons_self)]
        exact ⟨⟨booked.placedOnce, booked.known, booked.flying⟩, results, stuck⟩

/-! ### Every step -/

theorem Sound.step {label : QueueLabel β ε} (sound : Sound env q)
    (step : SafeStep env q label q') : Sound env q' := by
  obtain ⟨safe, step⟩ := step
  unfold Step stepOf? at step
  cases label with
  | submit now req broker =>
      simp only [step?] at step
      split at step
      · cases step
        exact sound
      · rename_i enqueued
        cases step
        exact sound.book enqueued
  | submitAnswered now id answer =>
      simp only [step?] at step
      split at step
      · rename_i flies
        cases step
        exact sound.finish flies
      · cases step
  | startReplay =>
      simp only [step?] at step
      split at step
      · rename_i replay
        cases step
        exact sound.startReplay replay safe
      · cases step
  | replayAnswered now answer =>
      simp only [step?] at step
      split at step
      · rename_i replay
        cases step
        exact sound.collect replay
      · cases step

end OrderQueue

/-! ### Statuses settle -/

namespace OrderTable

theorem Settles.refl (t : OrderTable) : t.Settles t :=
  fun _ row stored => ⟨row, stored, rfl, fun _ => rfl⟩

theorem Settles.trans {t t' t'' : OrderTable} (one : t.Settles t')
    (two : t'.Settles t'') : t.Settles t'' := by
  intro i row stored
  obtain ⟨row', stored', own, same⟩ := one i row stored
  obtain ⟨row'', stored'', own', same'⟩ := two i row' stored'
  refine ⟨row'', stored'', own'.trans own, fun settled => ?_⟩
  have status := same settled
  exact (same' (status ▸ settled)).trans status

theorem Settles.enqueue {t t' : OrderTable} {now : Time} {req : OrderRequest}
    {id : RowId} (enqueued : t.enqueue now req = .ok (id, t')) :
    t.Settles t' := by
  obtain ⟨unused, -, rows⟩ := enqueue_spec enqueued
  intro i row stored
  have apart : i ≠ id := by
    rintro rfl
    rw [unused] at stored
    cases stored
  exact ⟨row, by rw [rows, if_neg apart, stored], rfl, fun _ => rfl⟩

/-- Only a pending row is settled. -/
theorem Settles.settle {β ε : Type} {env : QueueEnv β ε} {t : OrderTable}
    {now : Time} {context : String} {id : RowId} {answer : PlaceAnswer ε}
    {pending : PendingOrderRequestRow}
    (found : t.rows.get? id = some pending)
    (waits : pending.status = .pending) :
    t.Settles (t.settle env now context id answer) := by
  intro i row stored
  rw [get?_settle]
  by_cases here : i = id
  · subst here
    rw [stored] at found
    cases found
    refine ⟨_, by rw [if_pos rfl, stored, Option.map_some], by simp, ?_⟩
    exact fun settled => absurd waits settled
  · exact ⟨row, by rw [if_neg here, stored], rfl, fun _ => rfl⟩

end OrderTable

namespace OrderQueue

variable {β ε : Type} {env : QueueEnv β ε} {q q' : OrderQueue β}

theorem replayFrom_table (replayed : List ReplayedOrder)
    (todo : List (RowId × PendingOrderRequestRow)) :
    (q.replayFrom env replayed todo).table = q.table := by
  cases todo with
  | nil => rfl
  | cons entry todo =>
      cases replayable : entry.2.replayable env with
      | true =>
          obtain ⟨req, broker, -, next⟩ :=
            replayFrom_replayable q replayed entry.1 todo replayable
          rw [next]
          rfl
      | false => rw [replayFrom_not_replayable _ _ _ _ replayable]

theorem Sound.settles {label : QueueLabel β ε} (sound : Sound env q)
    (step : Step env q label q') : q.table.Settles q'.table := by
  unfold Step stepOf? at step
  cases label with
  | submit now req broker =>
      simp only [step?] at step
      split at step
      · cases step
        exact .refl _
      · rename_i enqueued
        cases step
        exact .enqueue enqueued
  | submitAnswered now id answer =>
      simp only [step?] at step
      split at step
      · rename_i flies
        cases step
        obtain ⟨row, stored, pending, -⟩ := sound.booked.flying id flies
        exact .settle stored pending
      · cases step
  | startReplay =>
      simp only [step?] at step
      split at step
      · cases step
        rw [replayFrom_table]
        exact .refl _
      · cases step
  | replayAnswered now answer =>
      simp only [step?] at step
      split at step
      · rename_i replay
        cases step
        have phase := sound.replay
        rw [replay] at phase
        obtain ⟨⟨row, stored, pending, -⟩, -⟩ := phase
        unfold OrderQueue.collect
        cases answer with
        | error error =>
            rw [replayFrom_table]
            exact .settle stored pending
        | ok result =>
            rw [replayFrom_table]
            exact .settle stored pending
      · cases step

/-- From a sound state on, the invariant holds and rows only settle. -/
theorem Sound.run {labels : List (QueueLabel β ε)} (sound : Sound env q)
    (run : Run (SafeStep env) q labels q') :
    Sound env q' ∧ q.table.Settles q'.table :=
  run.invariant (P := fun s => Sound env s ∧ q.table.Settles s.table)
    ⟨sound, .refl _⟩
    fun step kept => ⟨kept.1.step step, kept.2.trans (kept.1.settles step.2)⟩

/-! ### Unsafe starts -/

/-- A broker that accepts. -/
def accepting : PlaceAnswer ε := .ok ⟨true, none, .submitted, none, none⟩

theorem step_accepting {id : RowId} {req : OrderRequest}
    {todo : List (RowId × PendingOrderRequestRow)}
    {replayed : List ReplayedOrder}
    (replay : q.replay = .awaiting id req todo replayed) :
    Step env q (.replayAnswered 0 accepting)
      (q.collect env 0 id req todo replayed accepting) := by
  unfold Step stepOf?
  simp only [step?, replay]

/-- A row that leads to a broker is placed and awaited. -/
theorem replayFrom_places {row : PendingOrderRequestRow} (q : OrderQueue β)
    (replayed : List ReplayedOrder) (id : RowId)
    (todo : List (RowId × PendingOrderRequestRow))
    (replayable : row.replayable env = true) :
    ∃ req, (q.replayFrom env replayed ((id, row) :: todo)).replay =
        .awaiting id req todo replayed ∧
      (q.replayFrom env replayed ((id, row) :: todo)).placedIds =
        q.placedIds ++ [row.clientOrderId] := by
  obtain ⟨req, broker, valid, goesOn⟩ :=
    replayFrom_replayable q replayed id todo replayable
  exact ⟨req, by rw [goesOn]; rfl, by rw [goesOn, placedIds_resubmit valid]⟩

/-- If brokers accept whatever is replayed, the replay either raises with an
acceptance behind it, or calls a broker for every row. -/
theorem accepting_run (todo : List (RowId × PendingOrderRequestRow)) :
    ∀ {q : OrderQueue β} {id : RowId} {req : OrderRequest}
      {replayed : List ReplayedOrder},
      q.replay = .awaiting id req todo replayed →
      ∃ further q', Run (Step env) q further q' ∧
        (q'.replay = .raised ∧ q'.accepted ≠ [] ∨
          (∀ entry ∈ todo, entry.2.replayable env = true) ∧
            q'.placedIds =
              q.placedIds ++ todo.map (·.2.clientOrderId)) := by
  induction todo with
  | nil =>
      intro q id req replayed replay
      refine ⟨_, _, .single (step_accepting replay), .inr ⟨by simp, ?_⟩⟩
      exact (List.append_nil _).symm
  | cons entry todo ih =>
      intro q id req replayed replay
      obtain ⟨next, row⟩ := entry
      have answered := @step_accepting _ _ env _ _ _ _ _ replay
      cases replayable : row.replayable env with
      | false =>
          refine ⟨_, _, .single answered, .inl ?_⟩
          unfold OrderQueue.collect accepting
          dsimp only
          rw [replayFrom_not_replayable _ _ _ _ replayable]
          simp
      | true =>
          obtain ⟨req', awaits, called⟩ := replayFrom_places
            { q with
              table := q.table.settle env 0 "replay " id accepting
              accepted := q.accepted ++ [_] } _ next todo replayable
          obtain ⟨further, q', run, outcome⟩ := ih awaits
          refine ⟨_, q', .step answered run, outcome.imp_right ?_⟩
          rintro ⟨rest, placed⟩
          refine ⟨?_, ?_⟩
          · intro other member
            rcases List.mem_cons.mp member with rfl | later
            · exact replayable
            · exact rest other later
          · rw [placed, called, List.append_assoc]
            rfl

/-- A replay that starts unsafely can go wrong. -/
theorem unsafe_replay (sound : Sound env q)
    (replay : q.replay = .notStarted)
    (risky : ¬ SafeReplay env q (.startReplay : QueueLabel β ε)) :
    ∃ further q', Run (Step env) q further q' ∧ ¬ ExactlyOnce env q' := by
  have phase := sound.replay
  rw [replay] at phase
  obtain ⟨calls, -, -⟩ := phase
  have started : Step env q .startReplay
      ({ q with selected := q.table.pendingRows }.replayFrom env []
        q.table.pendingRows) := by
    unfold Step stepOf?
    simp only [step?, replay]
  obtain ⟨unsettled, lively⟩ := not_or.mp risky
  generalize rows : q.table.pendingRows = todo at started unsettled lively
  cases todo with
  | nil => simp at lively
  | cons entry todo =>
      obtain ⟨id, row⟩ := entry
      cases replayable : row.replayable env with
      | false =>
          -- the first row raises, and the lively one is never tried
          rw [replayFrom_not_replayable _ _ _ _ replayable] at started
          refine ⟨_, _, .single started, fun exactly => ?_⟩
          simp only [not_forall, Bool.not_eq_false] at lively
          obtain ⟨other, member, able⟩ := lively
          obtain ⟨call, made, -⟩ :=
            exactly.replayedAll trivial other member able
          change call ∈ q.resubmitted at made
          rw [calls] at made
          cases made
      | true =>
          obtain ⟨req, awaits, placed_first⟩ := replayFrom_places
            { q with selected := _ } _ id todo replayable
          obtain ⟨further, q', run, outcome⟩ := accepting_run todo awaits
          refine ⟨_, q', .step started run, fun exactly => ?_⟩
          rcases outcome with ⟨raised, accepted⟩ | ⟨rest, placed⟩
          · obtain ⟨order, member⟩ := List.exists_mem_of_ne_nil _ accepted
            have listed := (exactly.returnedOnce (by rw [raised]; trivial)
              order member).1
            rw [raised] at listed
            cases listed
          · -- every row leads to a broker, so one of them is in flight
            have able : ∀ entry ∈ (id, row) :: todo,
                entry.2.replayable env = true := by
              intro other member
              rcases List.mem_cons.mp member with rfl | later
              · exact replayable
              · exact rest other later
            simp only [not_forall, not_and_or, not_not] at unsettled
            obtain ⟨other, member, flies | stuck⟩ := unsettled
            · rw [← rows] at member
              obtain ⟨stored, -⟩ := OrderTable.mem_pendingRows.mp member
              obtain ⟨found, same, -, called⟩ :=
                sound.booked.flying _ flies
              rw [stored] at same
              cases same
              have once := exactly.placedOnce
              rw [placed, placed_first, List.append_assoc,
                List.nodup_append] at once
              refine once.2.2 _ called _ ?_ rfl
              rw [rows] at member
              rcases List.mem_cons.mp member with rfl | later
              · exact List.mem_append_left _ (List.mem_singleton.mpr rfl)
              · exact List.mem_append_right _
                  (List.mem_map.mpr ⟨other, later, rfl⟩)
            · exact stuck (able other member)

/-- In every run whose replay starts safely, on any persisted table and for any
answers and exceptions, the outbox places each client order id at most once,
replays and returns what it should, and a settled row never changes its
status. Where the replay would start unsafely, some continuation breaks this. -/
theorem exactly_once_of_safe_replay {table : OrderTable}
    {labels : List (QueueLabel β ε)}
    (run : Run (SafeStep env) (boot table) labels q) :
    ExactlyOnce env q ∧
      (∀ further q', Run (SafeStep env) q further q' →
        q.table.Settles q'.table) ∧
      (q.replay = .notStarted →
        ¬ SafeReplay env q (.startReplay : QueueLabel β ε) →
          ∃ further q', Run (Step env) q further q' ∧
            ¬ ExactlyOnce env q') := by
  have sound := ((boot_sound table).run run).1
  exact ⟨sound.exactlyOnce, fun _ _ later => (sound.run later).2,
    unsafe_replay sound⟩

/-! ### Concrete runs -/

/-- One broker, which serves one strategy. -/
def oneBroker : QueueEnv Unit String where
  brokerLookup := fun strategyId => if strategyId = "s1" then some () else none
  describe := fun text => "RuntimeError: " ++ text
  number := fun _ => "0.01"

def buyRequest (id : ClientOrderId) : OrderRequest where
  strategyId := "s1"
  symbol := "EURUSD"
  side := .buy
  type := .market
  volume := 1 / 10
  price := none
  sl := none
  tp := none
  comment := ""
  magic := 0
  clientOrderId := id
  volume_pos := by norm_num

/-- A row whose payload no longer validates. -/
def unreadableRow : PendingOrderRequestRow :=
  { PendingOrderRequestRow.create 0 (buyRequest "a") with
    request := none
    request_own := fun _ impossible => by cases impossible }

/-- A table left by a crash: an unreadable row, and a good one behind it. -/
def crashedTable : OrderTable :=
  (OrderTable.empty.insert unreadableRow rfl).insert
    (.create 1 (buyRequest "b")) rfl

/-- A table left by a crash with one good row. -/
def pendingTable : OrderTable :=
  OrderTable.empty.insert (.create 1 (buyRequest "b")) rfl

/-- A replay and a submission side by side, with a refused duplicate and an
outage. -/
def quietStartup : List (QueueLabel Unit String) :=
  [.startReplay, .submit 2 (buyRequest "c") (), .replayAnswered 3 accepting,
    .submit 4 (buyRequest "c") (), .submitAnswered 5 2 (.error "outage")]

theorem recovered_row_placed_once :
    ∃ q : OrderQueue Unit, q.placedIds = ["c", "b"] ∧
      ExactlyOnce oneBroker q := by
  have reached :
      (replay? (SafeReplay oneBroker) (step? oneBroker) (boot pendingTable)
        quietStartup).map placedIds = some ["c", "b"] := by
    decide +kernel
  obtain ⟨q, replayed, placed⟩ := Option.map_eq_some_iff.mp reached
  exact ⟨q, placed,
    (exactly_once_of_safe_replay (run_of_replay? replayed)).1⟩

/-- Replaying during a submission places its request twice, and an unreadable
row keeps the row behind it from being replayed. -/
theorem unsafe_starts_break_exactly_once :
    (¬ ∀ (labels : List (QueueLabel Unit String)) (q : OrderQueue Unit),
      Run (Step oneBroker) (boot .empty) labels q → ExactlyOnce oneBroker q) ∧
    ¬ ∀ (labels : List (QueueLabel Unit String)) (q : OrderQueue Unit),
      Run (Step oneBroker) (boot crashedTable) labels q →
        ExactlyOnce oneBroker q := by
  constructor
  · intro claim
    have reached :
        (replay? (fun _ _ => True) (step? oneBroker) (boot .empty)
          [.submit 0 (buyRequest "a") (), .startReplay]).map placedIds =
            some ["a", "a"] := by
      decide +kernel
    obtain ⟨q, replayed, placed⟩ := Option.map_eq_some_iff.mp reached
    have once := (claim _ q (run_of_replay? replayed).unguard).placedOnce
    rw [placed] at once
    exact absurd once (by decide)
  · intro claim
    have run : Run (Step oneBroker) (boot crashedTable) [.startReplay]
        { boot crashedTable with
          selected := crashedTable.pendingRows
          replay := .raised } :=
      .single rfl
    obtain ⟨call, made, -⟩ := (claim _ _ run).replayedAll trivial
      (2, .create 1 (buyRequest "b")) (OrderTable.mem_pendingRows.mpr
        ⟨rfl, rfl⟩) rfl
    cases made

end OrderQueue

end StingerFx
