/-
Module: StingerFx.Brokers.OrderQueue
Layer: Brokers
Purpose: The outbox between the router and the brokers. Every request is written
  to a table before its broker is called and its row is settled afterwards; at
  startup the rows left pending are placed once more. Tasks switch only while a
  broker call is awaited, so a submission is two atomic steps and the replay one
  step more than it makes calls.
Trusted boundary: human-reviewed model of the source's order queue; a stored
  payload that validates is the request the row was written for
Main exports: RowStatus, PendingOrderRequestRow, OrderTable, PlaceAnswer,
  QueueEnv, OrderTable.enqueue, OrderTable.settle, ReplayTask, OrderQueue,
  QueueLabel, OrderQueue.step?, OrderQueue.Step
-/
import StingerFx.Domain
import StingerFx.Lib.Dict
import StingerFx.Lib.Runs

namespace StingerFx

open Lib

/-- Primary key of the table of requests. -/
abbrev RowId := Nat

inductive RowStatus where
  /-- row written, broker call not yet completed -/
  | pending
  /-- broker accepted, ticket recorded -/
  | sent
  /-- broker rejected or call raised -/
  | failed
deriving Repr, DecidableEq

def RowStatus.value : RowStatus → String
  | .pending => "pending"
  | .sent => "sent"
  | .failed => "failed"

/-- A persisted request. `request` is what the stored JSON validates to, `none`
when it does not validate. -/
structure PendingOrderRequestRow where
  clientOrderId : ClientOrderId
  strategyId : StrategyId
  request : Option OrderRequest
  enqueuedAt : Time
  attempts : Nat
  status : RowStatus
  lastError : String
  brokerTicket : Option Ticket
  completedAt : Option Time
  request_own : ∀ req, request = some req → req.clientOrderId = clientOrderId
deriving Repr, DecidableEq

/-- What `place_order` comes back with: a result, or a raised exception. -/
abbrev PlaceAnswer (ε : Type) := Except ε OrderResult

/-- What the queue is constructed with and the renderings its messages need:
`describe` gives an exception as `Type: text`. -/
structure QueueEnv (β ε : Type) where
  brokerLookup : StrategyId → Option β
  describe : ε → String
  number : ℚ → String

namespace PendingOrderRequestRow

/-- The row written before the broker is called. -/
def create (now : Time) (req : OrderRequest) : PendingOrderRequestRow where
  clientOrderId := req.clientOrderId
  strategyId := req.strategyId
  request := some req
  enqueuedAt := now
  attempts := 0
  status := .pending
  lastError := ""
  brokerTicket := none
  completedAt := none
  request_own := fun other same => by cases same; rfl

/-- `text[:500]`. -/
def clip (text : String) : String := String.ofList (text.toList.take 500)

/-- Effect of `_update_status` on the row. -/
def updateStatus (number : ℚ → String) (now : Time) (result : OrderResult)
    (row : PendingOrderRequestRow) : PendingOrderRequestRow :=
  if result.ok then
    { row with
      attempts := row.attempts + 1
      status := .sent
      brokerTicket := result.ticket <|> row.brokerTicket
      completedAt := some now }
  else
    { row with
      attempts := row.attempts + 1
      status := .failed
      lastError := clip ((result.message.map (·.text number)).getD "")
      completedAt := some now }

/-- Effect of `_mark_failed` on the row. -/
def markFailed (now : Time) (error : String) (row : PendingOrderRequestRow) :
    PendingOrderRequestRow :=
  { row with
    attempts := row.attempts + 1
    status := .failed
    lastError := clip error
    completedAt := some now }

/-- Effect of a broker's answer on the row; `context` is put in front of an
exception. -/
def settle {β ε : Type} (env : QueueEnv β ε) (now : Time) (context : String)
    (answer : PlaceAnswer ε) (row : PendingOrderRequestRow) :
    PendingOrderRequestRow :=
  match answer with
  | .error error => row.markFailed now (context ++ env.describe error)
  | .ok result => row.updateStatus env.number now result

/-- Whether the replay gets as far as calling a broker for the row. -/
def replayable {β ε : Type} (env : QueueEnv β ε)
    (row : PendingOrderRequestRow) : Bool :=
  match row.request with
  | none => false
  | some req => (env.brokerLookup req.strategyId).isSome

/-! ### What settling a row changes -/

section Settle

variable {β ε : Type} (env : QueueEnv β ε) (now : Time) (context : String)
  (answer : PlaceAnswer ε) (row : PendingOrderRequestRow)

@[simp] theorem settle_clientOrderId :
    (row.settle env now context answer).clientOrderId = row.clientOrderId := by
  unfold settle updateStatus markFailed
  split
  · rfl
  · split <;> rfl

/-- A settled row is never pending again by itself. -/
theorem settle_status :
    (row.settle env now context answer).status ≠ .pending := by
  unfold settle updateStatus markFailed
  split
  · simp
  · split <;> simp

end Settle

end PendingOrderRequestRow

/-! ### The table -/

/-- The table of requests; the client order id is unique. -/
structure OrderTable where
  rows : Dict RowId PendingOrderRequestRow
  distinct : ∀ {i j : RowId} {a b : PendingOrderRequestRow},
    rows.get? i = some a → rows.get? j = some b →
      a.clientOrderId = b.clientOrderId → i = j

namespace OrderTable

def empty : OrderTable := ⟨.empty, fun stored => by cases stored⟩

/-- The row stored for a client order id. -/
def rowFor (t : OrderTable) (id : ClientOrderId) :
    Option (RowId × PendingOrderRequestRow) :=
  t.rows.items.find? fun entry => decide (entry.2.clientOrderId = id)

/-- The key the store assigns to a new row. -/
def nextId (t : OrderTable) : RowId := t.rows.keys.foldr max 0 + 1

theorem nextId_fresh (t : OrderTable) : t.rows.get? t.nextId = none := by
  rw [Dict.get?_eq_none_iff]
  intro member
  have bound : ∀ (ids : List RowId), ∀ id ∈ ids, id ≤ ids.foldr max 0 := by
    intro ids
    induction ids with
    | nil => simp
    | cons head rest ih =>
        intro id found
        rcases List.mem_cons.mp found with rfl | later
        · exact le_max_left ..
        · exact (ih id later).trans (le_max_right ..)
  exact absurd (bound _ _ member) (Nat.not_succ_le_self _)

theorem rowFor_none {t : OrderTable} {id : ClientOrderId}
    (absent : t.rowFor id = none) {i : RowId} {row : PendingOrderRequestRow}
    (stored : t.rows.get? i = some row) : row.clientOrderId ≠ id := by
  have none := List.find?_eq_none.mp absent (i, row)
    (t.rows.get?_eq_some_iff.mp stored)
  simpa using none

/-- Insert a row whose client order id is new. -/
def insert (t : OrderTable) (row : PendingOrderRequestRow)
    (absent : t.rowFor row.clientOrderId = none) : OrderTable where
  rows := t.rows.set t.nextId row
  distinct := by
    intro i j a b first second same
    rw [Dict.get?_set] at first second
    split at first <;> split at second
    · simp_all
    · cases first
      exact absurd same.symm (rowFor_none absent second)
    · cases second
      exact absurd same (rowFor_none absent first)
    · exact t.distinct first second same

/-- Change the row stored under a key, if there is one. -/
def amend (t : OrderTable) (id : RowId)
    (change : PendingOrderRequestRow → PendingOrderRequestRow)
    (keeps : ∀ row, (change row).clientOrderId = row.clientOrderId) :
    OrderTable :=
  match stored : t.rows.get? id with
  | none => t
  | some row =>
      { rows := t.rows.set id (change row)
        distinct := by
          intro i j a b first second same
          rw [Dict.get?_set] at first second
          split at first <;> split at second
          · simp_all
          · rename_i here _
            cases first
            exact here.trans (t.distinct stored second (by rw [← same, keeps]))
          · rename_i here
            cases second
            exact (t.distinct first stored (by rw [same, keeps])).trans here.symm
          · exact t.distinct first second same }

/-- First part of `submit`: refuse a known client order id, else persist the
request as pending. -/
def enqueue (t : OrderTable) (now : Time) (req : OrderRequest) :
    Except OrderResult (RowId × OrderTable) :=
  match absent : t.rowFor req.clientOrderId with
  | some entry =>
      .error (.refused (.duplicateClientOrderId entry.2.status.value))
  | none => .ok (t.nextId, t.insert (.create now req) absent)

/-- Last part of `submit` and of a replay: write the broker's answer. -/
def settle {β ε : Type} (env : QueueEnv β ε) (t : OrderTable) (now : Time)
    (context : String) (id : RowId) (answer : PlaceAnswer ε) : OrderTable :=
  t.amend id (·.settle env now context answer)
    (PendingOrderRequestRow.settle_clientOrderId env now context answer)

/-- The pending rows in the order of their enqueueing. -/
def pendingRows (t : OrderTable) : List (RowId × PendingOrderRequestRow) :=
  (t.rows.items.filter fun entry =>
      decide (entry.2.status = .pending)).insertionSort
    fun a b => a.2.enqueuedAt ≤ b.2.enqueuedAt

def pendingCount (t : OrderTable) : Nat :=
  (t.rows.items.filter fun entry => decide (entry.2.status = .pending)).length

/-! ### The rows after an operation -/

theorem get?_insert {t : OrderTable} {row : PendingOrderRequestRow}
    {absent : t.rowFor row.clientOrderId = none} (i : RowId) :
    (t.insert row absent).rows.get? i =
      if i = t.nextId then some row else t.rows.get? i :=
  Dict.get?_set ..

theorem get?_amend {t : OrderTable} {id : RowId}
    {change : PendingOrderRequestRow → PendingOrderRequestRow}
    {keeps : ∀ row, (change row).clientOrderId = row.clientOrderId}
    (i : RowId) :
    (t.amend id change keeps).rows.get? i =
      if i = id then (t.rows.get? id).map change else t.rows.get? i := by
  unfold amend
  split
  · rename_i missing
    by_cases same : i = id
    · rw [if_pos same, same, missing, Option.map_none]
    · rw [if_neg same]
  · rename_i row stored
    rw [Dict.get?_set, stored, Option.map_some]

theorem get?_settle {β ε : Type} {env : QueueEnv β ε} {t : OrderTable}
    {now : Time} {context : String} {id : RowId} {answer : PlaceAnswer ε}
    (i : RowId) :
    (t.settle env now context id answer).rows.get? i =
      if i = id then (t.rows.get? id).map (·.settle env now context answer)
      else t.rows.get? i :=
  get?_amend i

/-- A new request gets a new row; nobody had its client order id. -/
theorem enqueue_spec {t t' : OrderTable} {now : Time} {req : OrderRequest}
    {id : RowId} (enqueued : t.enqueue now req = .ok (id, t')) :
    t.rows.get? id = none ∧
      (∀ {i row}, t.rows.get? i = some row →
        row.clientOrderId ≠ req.clientOrderId) ∧
      ∀ i, t'.rows.get? i =
        if i = id then some (.create now req) else t.rows.get? i := by
  unfold enqueue at enqueued
  split at enqueued
  · cases enqueued
  · rename_i absent
    cases enqueued
    exact ⟨t.nextId_fresh, fun stored => rowFor_none absent stored,
      get?_insert⟩

theorem mem_pendingRows {t : OrderTable} {id : RowId}
    {row : PendingOrderRequestRow} :
    (id, row) ∈ t.pendingRows ↔
      t.rows.get? id = some row ∧ row.status = .pending := by
  simp [pendingRows, Dict.get?_eq_some_iff]

theorem nodup_pendingRows (t : OrderTable) :
    (t.pendingRows.map Prod.fst).Nodup := by
  have perm : t.pendingRows.Perm
      (t.rows.items.filter fun entry => decide (entry.2.status = .pending)) :=
    List.perm_insertionSort ..
  exact (perm.map Prod.fst).nodup_iff.mpr
    (t.rows.nodup.sublist (List.filter_sublist.map Prod.fst))

end OrderTable

/-! ### The queue at work -/

/-- One recovered request with the broker's result. -/
structure ReplayedOrder where
  request : OrderRequest
  result : OrderResult
deriving Repr, DecidableEq

/-- A submission whose broker has not answered yet. -/
structure Submission where
  rowId : RowId
  request : OrderRequest

/-- Where `replay_pending_results` stands. -/
inductive ReplayTask where
  | notStarted
  /-- awaiting the broker for one row, with more rows to come -/
  | awaiting (id : RowId) (req : OrderRequest)
      (todo : List (RowId × PendingOrderRequestRow))
      (replayed : List ReplayedOrder)
  | returned (replayed : List ReplayedOrder)
  /-- validating a row or looking up its broker raised -/
  | raised

/-- A call of `place_order`. -/
structure PlacedOrder (β : Type) where
  broker : β
  request : OrderRequest

/-- The queue in one process. The last four fields are history: the calls made
for submissions and for the replay, the rows the replay read, and the replayed
requests that a broker accepted. -/
structure OrderQueue (β : Type) where
  table : OrderTable
  inFlight : List Submission
  replay : ReplayTask
  submitted : List (PlacedOrder β)
  resubmitted : List (PlacedOrder β)
  selected : List (RowId × PendingOrderRequestRow)
  accepted : List ReplayedOrder

/-- One atomic step: a task runs until its next await. -/
inductive QueueLabel (β ε : Type) where
  | submit (now : Time) (req : OrderRequest) (broker : β)
  | submitAnswered (now : Time) (rowId : RowId) (answer : PlaceAnswer ε)
  | startReplay
  | replayAnswered (now : Time) (answer : PlaceAnswer ε)

namespace OrderQueue

variable {β ε : Type}

/-- A process that finds a table. -/
def boot (table : OrderTable) : OrderQueue β where
  table := table
  inFlight := []
  replay := .notStarted
  submitted := []
  resubmitted := []
  selected := []
  accepted := []

/-- A submission persists its request and calls the broker. -/
def book (q : OrderQueue β) (table : OrderTable) (id : RowId) (broker : β)
    (req : OrderRequest) : OrderQueue β :=
  { q with
    table := table
    inFlight := q.inFlight ++ [⟨id, req⟩]
    submitted := q.submitted ++ [⟨broker, req⟩] }

/-- The replay calls the broker for a row. -/
def resubmit (q : OrderQueue β) (id : RowId) (req : OrderRequest) (broker : β)
    (todo : List (RowId × PendingOrderRequestRow))
    (replayed : List ReplayedOrder) : OrderQueue β :=
  { q with
    replay := .awaiting id req todo replayed
    resubmitted := q.resubmitted ++ [⟨broker, req⟩] }

/-- The loop of the replay up to its next broker call. -/
def replayFrom (env : QueueEnv β ε) (q : OrderQueue β)
    (replayed : List ReplayedOrder) :
    List (RowId × PendingOrderRequestRow) → OrderQueue β
  | [] => { q with replay := .returned replayed }
  | (id, row) :: todo =>
      match row.request with
      | none => { q with replay := .raised }
      | some req =>
          match env.brokerLookup req.strategyId with
          | none => { q with replay := .raised }
          | some broker => q.resubmit id req broker todo replayed

/-- The broker of a submission answers. -/
def finish (env : QueueEnv β ε) (q : OrderQueue β) (now : Time) (rowId : RowId)
    (answer : PlaceAnswer ε) : OrderQueue β :=
  { q with
    table := q.table.settle env now "" rowId answer
    inFlight := q.inFlight.filter fun sub => decide (sub.rowId ≠ rowId) }

/-- The broker of a replayed request answers; an exception leaves no result
behind. -/
def collect (env : QueueEnv β ε) (q : OrderQueue β) (now : Time) (id : RowId)
    (req : OrderRequest) (todo : List (RowId × PendingOrderRequestRow))
    (replayed : List ReplayedOrder) (answer : PlaceAnswer ε) : OrderQueue β :=
  let settled :=
    { q with table := q.table.settle env now "replay " id answer }
  match answer with
  | .error _ => settled.replayFrom env replayed todo
  | .ok result =>
      let order : ReplayedOrder := ⟨req, result⟩
      { settled with
        accepted :=
          if result.ok then q.accepted ++ [order] else q.accepted }.replayFrom
        env (replayed ++ [order]) todo

/-- The state after a step, if the step can happen. -/
def step? (env : QueueEnv β ε) (q : OrderQueue β) :
    QueueLabel β ε → Option (OrderQueue β)
  | .submit now req broker =>
      match q.table.enqueue now req with
      | .error _ => some q
      | .ok (rowId, table) => some (q.book table rowId broker req)
  | .submitAnswered now rowId answer =>
      if rowId ∈ q.inFlight.map Submission.rowId then
        some (q.finish env now rowId answer)
      else none
  | .startReplay =>
      match q.replay with
      | .notStarted =>
          let rows := q.table.pendingRows
          some ({ q with selected := rows }.replayFrom env [] rows)
      | _ => none
  | .replayAnswered now answer =>
      match q.replay with
      | .awaiting id req todo replayed =>
          some (q.collect env now id req todo replayed answer)
      | _ => none

def Step (env : QueueEnv β ε) :
    OrderQueue β → QueueLabel β ε → OrderQueue β → Prop :=
  stepOf? (step? env)

/-! ### The replay's next row -/

theorem replayFrom_replayable {env : QueueEnv β ε} {row : PendingOrderRequestRow}
    (q : OrderQueue β) (replayed : List ReplayedOrder) (id : RowId)
    (todo : List (RowId × PendingOrderRequestRow))
    (replayable : row.replayable env = true) :
    ∃ req broker, row.request = some req ∧
      q.replayFrom env replayed ((id, row) :: todo) =
        q.resubmit id req broker todo replayed := by
  unfold PendingOrderRequestRow.replayable at replayable
  cases valid : row.request with
  | none => simp [valid] at replayable
  | some req =>
      simp only [valid, Option.isSome_iff_exists] at replayable
      obtain ⟨broker, found⟩ := replayable
      exact ⟨req, broker, rfl, by simp only [replayFrom, valid, found]⟩

theorem replayFrom_not_replayable {env : QueueEnv β ε} {row : PendingOrderRequestRow}
    (q : OrderQueue β) (replayed : List ReplayedOrder) (id : RowId)
    (todo : List (RowId × PendingOrderRequestRow))
    (stuck : row.replayable env = false) :
    q.replayFrom env replayed ((id, row) :: todo) =
      { q with replay := .raised } := by
  unfold PendingOrderRequestRow.replayable at stuck
  cases valid : row.request with
  | none => simp only [replayFrom, valid]
  | some req =>
      simp only [valid, Option.isSome_eq_false_iff, Option.isNone_iff_eq_none]
        at stuck
      simp only [replayFrom, valid, stuck]

end OrderQueue

end StingerFx
