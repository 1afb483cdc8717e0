/-
Module: StingerFx.Proofs.CashConservation
Layer: Proofs
Purpose: The balance of the simulated broker and its trade log agree. The
  open side of the commission leaves the balance when a position is created,
  while a trade reports the round turn when the chunk is closed; the difference
  is the commission on the volume that is still open.
Trusted boundary: none (fully proved)
Main exports: Conserved, cash_conservation
-/
import StingerFx.Backtest.BrokerMoves

namespace StingerFx.SimBroker

open Lib

variable {σ : Type}

/-- Net profit of the trade log. -/
def realizedPnl (b : SimBroker σ) : ℚ := (b.trades.map TradeRecord.pnl).sum

/-- Volume of the positions that are open. -/
def openVolume (b : SimBroker σ) : ℚ := b.positions.sum Position.volume

/-- Cash law: what the trade log does not report yet is the open-side commission
of the open volume. -/
def Conserved (cfg : SimConfig σ) (initialBalance : ℚ) (b : SimBroker σ) :
    Prop :=
  b.balance =
    initialBalance + b.realizedPnl - cfg.commissionPerLot * b.openVolume

/-- A trade reports the cash it moves, less the commission of the open side. -/
theorem settle_cash (b : SimBroker σ) (cfg : SimConfig σ) (pos : Position)
    (closeQty closePrice : ℚ) :
    (b.settle cfg pos closeQty closePrice).2 =
      (b.settle cfg pos closeQty closePrice).1.pnl +
        cfg.commissionPerLot * closeQty := by
  simp only [settle]
  ring

@[simp] theorem realizedPnl_book (b : SimBroker σ) (settled : TradeRecord × ℚ)
    (slippage : σ) :
    (b.book settled slippage).realizedPnl = b.realizedPnl + settled.1.pnl := by
  simp [book, realizedPnl]

/-- Opening a position under a fresh ticket adds its volume. -/
theorem openVolume_set_fresh (positions : Dict Ticket Position)
    {ticket : Ticket} (pos : Position)
    (fresh : positions.get? ticket = none) :
    (positions.set ticket pos).sum Position.volume =
      positions.sum Position.volume + pos.volume := by
  rw [Dict.sum_set, Dict.shareAt_of_fresh _ fresh, sub_zero]

/-- Rewriting a position replaces its volume. -/
theorem openVolume_reset (positions : Dict Ticket Position) {ticket : Ticket}
    {pos : Position} (pos' : Position)
    (stored : positions.get? ticket = some pos) :
    (positions.set ticket pos').sum Position.volume =
      positions.sum Position.volume + pos'.volume - pos.volume := by
  rw [Dict.sum_set, Dict.shareAt_of_get? _ stored]

/-- Removing a position removes its volume. -/
theorem openVolume_erase (positions : Dict Ticket Position) {ticket : Ticket}
    {pos : Position} (stored : positions.get? ticket = some pos) :
    (positions.erase ticket).sum Position.volume =
      positions.sum Position.volume - pos.volume := by
  rw [Dict.sum_erase, Dict.shareAt_of_get? _ stored]

namespace Conserved

variable {cfg : SimConfig σ} {placing : Bool} {initialBalance : ℚ}
  {b : SimBroker σ}

/-- A position opened under a fresh ticket pays the open side. -/
theorem openPosition (law : Conserved cfg initialBalance b) (pos : Position)
    (strategyId : StrategyId) (fresh : b.positions.get? pos.ticket = none) :
    Conserved cfg initialBalance (b.openPosition cfg pos strategyId) := by
  have volume : (b.openPosition cfg pos strategyId).openVolume =
      b.openVolume + pos.volume := openVolume_set_fresh b.positions pos fresh
  have log : (b.openPosition cfg pos strategyId).realizedPnl =
      b.realizedPnl := rfl
  have cash : (b.openPosition cfg pos strategyId).balance =
      b.balance - cfg.commissionPerLot * pos.volume := rfl
  unfold Conserved at law ⊢
  rw [volume, log, cash, law]
  ring

/-- A chunk of any sign that leaves a remainder moves cash, log and volume
together. -/
theorem shrinkPosition (law : Conserved cfg initialBalance b)
    {ticket : Ticket} {pos : Position} (chunk closePrice : ℚ) (slippage : σ)
    (smaller : chunk < pos.volume)
    (stored : b.positions.get? ticket = some pos) :
    Conserved cfg initialBalance
      (b.shrinkPosition (b.settle cfg pos chunk closePrice) slippage ticket
        (remainder pos chunk smaller)) := by
  have volume := openVolume_reset b.positions (remainder pos chunk smaller) stored
  have left : (remainder pos chunk smaller).volume = pos.volume - chunk := rfl
  have cash := settle_cash b cfg pos chunk closePrice
  have log := realizedPnl_book b (b.settle cfg pos chunk closePrice) slippage
  unfold Conserved at law ⊢
  change b.balance + (b.settle cfg pos chunk closePrice).2 =
    initialBalance + (b.book (b.settle cfg pos chunk closePrice)
      slippage).realizedPnl - cfg.commissionPerLot *
        (b.positions.set ticket (remainder pos chunk smaller)).sum
          Position.volume
  rw [volume, left, log, cash, law, openVolume]
  ring

theorem removePosition (law : Conserved cfg initialBalance b)
    {ticket : Ticket} {pos : Position} (closePrice : ℚ) (slippage : σ)
    (stored : b.positions.get? ticket = some pos) :
    Conserved cfg initialBalance
      (b.removePosition (b.settle cfg pos pos.volume closePrice) slippage
        ticket) := by
  have volume := openVolume_erase b.positions stored
  have cash := settle_cash b cfg pos pos.volume closePrice
  have log := realizedPnl_book b (b.settle cfg pos pos.volume closePrice)
    slippage
  unfold Conserved at law ⊢
  change b.balance + (b.settle cfg pos pos.volume closePrice).2 =
    initialBalance + (b.book (b.settle cfg pos pos.volume closePrice)
      slippage).realizedPnl - cfg.commissionPerLot *
        (b.positions.erase ticket).sum Position.volume
  rw [volume, log, cash, law, openVolume]
  ring

/-- One move keeps the cash law, given well-kept books: a fresh ticket really is
fresh, and a promoted order's ticket carries no position yet. -/
theorem move {b' : SimBroker σ} {events : List Event}
    (law : Conserved cfg initialBalance b) (kept : BooksKept b)
    (moved : Move cfg placing b events b') : Conserved cfg initialBalance b' := by
  cases moved with
  | quote => exact law
  | burnTicket => exact law
  | park => exact law
  | openMarket pos strategyId ticketed issues =>
      apply openPosition (b := { b with nextTicket := b.nextTicket + 1 }) law
      rw [ticketed]
      exact kept.position_fresh
  | promote ticket pending fillPrice pos waiting built =>
      have fresh : b.positions.get? pos.ticket = none := by
        rw [(buildPosition_ticket built).1]
        exact kept.apart waiting
      exact law.openPosition pos pending.strategyId fresh
  | amendPending => exact law
  | amendPosition ticket pos changes stored =>
      have volume := openVolume_reset b.positions (changes.amendPosition pos)
        stored
      have unchanged : (changes.amendPosition pos).volume = pos.volume := rfl
      rw [unchanged, add_sub_cancel_right] at volume
      unfold Conserved at law ⊢
      rw [law, openVolume, openVolume, volume]
      rfl
  | shrink ticket pos chunk closePrice slippage smaller stored =>
      exact law.shrinkPosition chunk closePrice slippage smaller stored
  | grow ticket pos chunk closePrice slippage smaller stored =>
      exact law.shrinkPosition chunk closePrice slippage smaller stored
  | close ticket pos closePrice slippage stored =>
      exact law.removePosition closePrice slippage stored
  | cancel => exact law

theorem moves {b' : SimBroker σ} {events : List Event}
    (law : Conserved cfg initialBalance b) (kept : BooksKept b)
    (moved : Moves cfg placing b events b') : Conserved cfg initialBalance b' :=
  (moved.invariant (P := fun s => Conserved cfg initialBalance s ∧ BooksKept s)
    ⟨law, kept⟩ fun head held => ⟨held.1.move held.2 head, held.2.move head⟩).1

end Conserved

theorem conserved_create (cfg : SimConfig σ) (initialBalance : ℚ)
    (slippage : σ) (now : Time) :
    Conserved cfg initialBalance (create initialBalance slippage now) := by
  simp [Conserved, create, realizedPnl, openVolume]

/-- At every point of every run, the balance is the initial balance plus the net
profit of the trade log, less the open-side commission of what is open; with no
position open, initial plus net profit is the balance. -/
theorem cash_conservation (cfg : SimConfig σ) (initialBalance : ℚ)
    (slippage : σ) (now : Time) (ops : List BrokerOp) :
    let b := run cfg (create initialBalance slippage now) ops
    b.balance =
        initialBalance + (b.trades.map TradeRecord.pnl).sum -
          cfg.commissionPerLot * (b.getPositions.map Position.volume).sum ∧
      (b.getPositions = [] →
        b.balance = initialBalance + (b.trades.map TradeRecord.pnl).sum) := by
  intro b
  have kept := booksKept_create initialBalance slippage now
  have law : Conserved cfg initialBalance b := by
    rcases run_moves cfg (create initialBalance slippage now) ops with
      ⟨events, moved⟩
    exact (conserved_create cfg initialBalance slippage now).moves kept moved
  have volume : (b.getPositions.map Position.volume).sum = b.openVolume := by
    simp [getPositions, Dict.values, openVolume, Dict.sum, Function.comp_def]
  constructor
  · rw [volume]
    exact law
  · intro flat
    rw [flat] at volume
    unfold Conserved at law
    rw [law, ← volume, realizedPnl]
    simp

end StingerFx.SimBroker
