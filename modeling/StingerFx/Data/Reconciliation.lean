/-
Module: StingerFx.Data.Reconciliation
Layer: Data
Purpose: The check of a fill against the broker some seconds later. Every fill makes
  a verification task, which is kept by ticket; a duplicate fill or a close cancels
  the task that is kept, and each task has a completion callback that runs later.
  The steps are the points at which the event loop can switch.
Trusted boundary: human-reviewed model of the source's `Reconciler`; what the
  broker answers is part of the step
Main exports: ReconcilerSettings, Discrepancy, ReconciliationRow, Verification,
  verdict, Reconciler, ReconcilerLabel, Reconciler.next?
-/
import StingerFx.Domain
import StingerFx.Lib.Dict
import StingerFx.Lib.Runs

namespace StingerFx

open Lib

/-- The account of the reconciler's broker, and `price_tolerance_pips * point`. -/
structure ReconcilerSettings where
  accountId : AccountId
  priceTolerance : ℚ
  priceTolerance_nonneg : 0 ≤ priceTolerance
deriving Repr, DecidableEq

namespace ReconcilerSettings

/-- The tolerance that every reconciler of the engine has. -/
def standard (accountId : AccountId) : ReconcilerSettings where
  accountId := accountId
  priceTolerance := 2 * (1 / 10000)
  priceTolerance_nonneg := by norm_num

end ReconcilerSettings

/-- A mismatch between a fill and the broker. -/
inductive Discrepancy where
  | positionMissing (expected : ℚ) (fillPrice : Option ℚ)
  | volumeDrift (expected actual : ℚ)
  | priceDrift (expected actual tolerance : ℚ)
deriving Repr, DecidableEq

namespace Discrepancy

/-- `mismatch_type`. -/
def type : Discrepancy → String
  | .positionMissing _ _ => "position_missing"
  | .volumeDrift _ _ => "volume_drift"
  | .priceDrift _ _ _ => "price_drift"

def expectedValue : Discrepancy → ℚ
  | .positionMissing expected _ => expected
  | .volumeDrift expected _ => expected
  | .priceDrift expected _ _ => expected

def actualValue : Discrepancy → ℚ
  | .positionMissing _ _ => 0
  | .volumeDrift _ actual => actual
  | .priceDrift _ actual _ => actual

/-- The text, given how a number is rendered and how one with five decimals is. -/
def details (number fiveDecimals : ℚ → String) : Discrepancy → String
  | .positionMissing _ fillPrice =>
      "order filled at " ++ (fillPrice.map number).getD "None" ++
        ", but broker shows no open position"
  | .volumeDrift expected actual =>
      "expected " ++ number expected ++ " lots, broker has " ++ number actual
  | .priceDrift expected actual tolerance =>
      "open_price drift=" ++ fiveDecimals |actual - expected| ++
        " > tolerance=" ++ fiveDecimals tolerance

end Discrepancy

/-- A recorded mismatch, less its time. -/
structure ReconciliationRow where
  ticket : Ticket
  strategyId : StrategyId
  discrepancy : Discrepancy
deriving Repr, DecidableEq

/-- How far a verification task has come. -/
inductive VerifyPhase where
  /-- before the end of the delay, its body begun or not -/
  | sleeping
  /-- awaiting `get_positions` -/
  | querying
  /-- cancelled, the exception not delivered yet -/
  | cancelling
  /-- done, the completion callback not run yet -/
  | done
  /-- done, and the callback has run -/
  | calledBack
deriving Repr, DecidableEq

/-- A task that runs `_verify`. -/
structure Verification where
  order : Order
  phase : VerifyPhase
deriving Repr, DecidableEq

namespace Verification

/-- `task.done()`. -/
def isDone (v : Verification) : Bool :=
  v.phase == .done || v.phase == .calledBack

/-- On its way to a verdict. -/
def waiting (v : Verification) : Bool :=
  v.phase == .sleeping || v.phase == .querying

/-- `task.cancel()`, which leaves a task alone that is done. -/
def cancel (v : Verification) : Verification :=
  if v.isDone then v else { v with phase := .cancelling }

end Verification

/-- What `_verify` records once the broker has answered. -/
def verdict (settings : ReconcilerSettings) (order : Order)
    (positions : List Position) : List Discrepancy :=
  match positions.find? fun p => decide (p.ticket = order.ticket) with
  | none => [.positionMissing order.volume order.fillPrice]
  | some found =>
      (if |found.volume - order.volume| > 1 / 1000000 then
        [.volumeDrift order.volume found.volume]
      else []) ++
      match order.fillPrice with
      | none => []
      | some fillPrice =>
          if |found.openPrice - fillPrice| > settings.priceTolerance then
            [.priceDrift fillPrice found.openPrice settings.priceTolerance]
          else []

/-- Verifications made and callbacks run, each with its number and ticket. -/
inductive TaskEntry where
  | made (task : Nat) (ticket : Ticket)
  | calledBack (task : Nat) (ticket : Ticket)
deriving Repr, DecidableEq

structure Reconciler where
  /-- `_tasks`, with the number of the task -/
  tasks : Dict Ticket Nat
  /-- every task that was made, by its number -/
  verifications : List Verification
  /-- what was recorded, with the number of the task -/
  rows : List (Nat × ReconciliationRow)
  /-- history, the newest entry first; nothing reads it -/
  log : List TaskEntry
deriving DecidableEq

namespace Reconciler

def start : Reconciler := ⟨.empty, [], [], []⟩

/-- Change one task. -/
def alter (r : Reconciler) (task : Nat) (change : Verification → Verification) :
    Reconciler :=
  { r with verifications := r.verifications.modify task change }

def setPhase (r : Reconciler) (task : Nat) (phase : VerifyPhase) : Reconciler :=
  r.alter task fun v => { v with phase := phase }

/-- Cancel the task that is kept for a ticket, if there is one. -/
def cancelKept (r : Reconciler) (ticket : Ticket) : Reconciler :=
  match r.tasks.get? ticket with
  | none => r
  | some task => r.alter task Verification.cancel

/-- `_on_filled`. -/
def onFilled (settings : ReconcilerSettings) (r : Reconciler)
    (accountId : AccountId) (order : Order) : Reconciler :=
  if accountId ≠ settings.accountId then r
  else if order.ticket ≤ 0 then r
  else
    let cleared := r.cancelKept order.ticket
    let task := r.verifications.length
    { cleared with
      tasks := cleared.tasks.set order.ticket task
      verifications := cleared.verifications ++ [⟨order, .sleeping⟩]
      log := .made task order.ticket :: r.log }

/-- `_on_closed`. -/
def onClosed (settings : ReconcilerSettings) (r : Reconciler)
    (accountId : AccountId) (position : Position) : Reconciler :=
  if accountId ≠ settings.accountId then r
  else
    let cleared := r.cancelKept position.ticket
    { cleared with tasks := r.tasks.erase position.ticket }

/-- The broker has answered: `_record` every mismatch, and end. -/
def answered (settings : ReconcilerSettings) (r : Reconciler) (task : Nat)
    (order : Order) (positions : List Position) : Reconciler :=
  { r.setPhase task .done with
    rows := r.rows ++
      (verdict settings order positions).map fun discrepancy =>
        (task, ⟨order.ticket, order.strategyId, discrepancy⟩) }

/-- The completion callback: pop what is kept for the ticket. -/
def callback (r : Reconciler) (task : Nat) (order : Order) : Reconciler :=
  { r.setPhase task .calledBack with
    tasks := r.tasks.erase order.ticket
    log := .calledBack task order.ticket :: r.log }

end Reconciler

inductive ReconcilerLabel where
  | filled (accountId : AccountId) (order : Order)
  | closed (accountId : AccountId) (position : Position)
  /-- the delay of a task is over -/
  | wake (task : Nat)
  | answered (task : Nat) (positions : List Position)
  /-- `get_positions` has raised -/
  | unreachable (task : Nat)
  /-- the cancellation of a task is delivered -/
  | cancelled (task : Nat)
  | callback (task : Nat)
deriving Repr, DecidableEq

/-- The steps of the event loop; a task moves only from the phase it is in. -/
def Reconciler.next? (settings : ReconcilerSettings) (r : Reconciler) :
    ReconcilerLabel → Option Reconciler
  | .filled accountId order => some (r.onFilled settings accountId order)
  | .closed accountId position => some (r.onClosed settings accountId position)
  | .wake task =>
      match r.verifications[task]? with
      | some ⟨_, .sleeping⟩ => some (r.setPhase task .querying)
      | _ => none
  | .answered task positions =>
      match r.verifications[task]? with
      | some ⟨order, .querying⟩ =>
          some (r.answered settings task order positions)
      | _ => none
  | .unreachable task =>
      match r.verifications[task]? with
      | some ⟨_, .querying⟩ => some (r.setPhase task .done)
      | _ => none
  | .cancelled task =>
      match r.verifications[task]? with
      | some ⟨_, .cancelling⟩ => some (r.setPhase task .done)
      | _ => none
  | .callback task =>
      match r.verifications[task]? with
      | some ⟨order, .done⟩ => some (r.callback task order)
      | _ => none

end StingerFx
