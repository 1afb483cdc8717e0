/-
Module: StingerFx.Proofs.PartialCloses
Layer: Proofs
Purpose: Closing in chunks costs what closing at once costs. Each chunk is settled
  from the position that the chunk before left, but a settlement reads only what a
  partial close keeps, and everything it books is proportional to the volume; so the
  books after the last chunk are those of one full close.
Trusted boundary: none (fully proved)
Main exports: Stateless, closeChunks, ClosedInPart, partial_closing_linear
-/
import StingerFx.Backtest.BrokerMoves

namespace StingerFx

open Lib

variable {σ : Type}

/-! ### Stateless slippage -/

/-- The fill price depends on the quote and the side alone. -/
def Stateless (slippage : SlippageModel σ) : Prop :=
  ∀ one other side bid ask,
    (slippage one side bid ask).1 = (slippage other side bid ask).1

theorem fixedPipsModel_stateless (pips point : ℚ) :
    Stateless (fixedPipsModel pips point : SlippageModel σ) :=
  fun _ _ _ _ _ => rfl

theorem spreadModel_stateless : Stateless (spreadModel : SlippageModel σ) :=
  fun _ _ _ _ _ => rfl

namespace SimBroker

/-! ### A settlement is proportional to its volume -/

section Settlements

variable (b : SimBroker σ) (cfg : SimConfig σ) (pos : Position) (price : ℚ)

/-- What a settlement books for each unit of volume. -/
structure UnitSettlement where
  pnl : ℚ
  fees : ℚ
  swap : ℚ
  cash : ℚ

def unitSettlement : UnitSettlement :=
  let settled := b.settle cfg pos 1 price
  ⟨settled.1.pnl, settled.1.fees, settled.1.swap, settled.2⟩

theorem settle_pnl (qty : ℚ) :
    (b.settle cfg pos qty price).1.pnl =
      (b.unitSettlement cfg pos price).pnl * qty := by
  simp only [settle, unitSettlement]
  ring

theorem settle_fees (qty : ℚ) :
    (b.settle cfg pos qty price).1.fees =
      (b.unitSettlement cfg pos price).fees * qty := by
  simp only [settle, unitSettlement]
  ring

theorem settle_swap (qty : ℚ) :
    (b.settle cfg pos qty price).1.swap =
      (b.unitSettlement cfg pos price).swap * qty := by
  simp only [settle, unitSettlement]
  ring

theorem settle_cash_unit (qty : ℚ) :
    (b.settle cfg pos qty price).2 =
      (b.unitSettlement cfg pos price).cash * qty := by
  simp only [settle, unitSettlement]
  ring

/-- A quantity that is proportional to the volume adds up over chunks. -/
theorem sum_of_proportional {f : ℚ → ℚ} {rate : ℚ}
    (proportional : ∀ qty, f qty = rate * qty) (chunks : List ℚ) :
    (chunks.map f).sum = f chunks.sum := by
  induction chunks with
  | nil => rw [List.map_nil, List.sum_nil, proportional, mul_zero]
  | cons chunk chunks ih =>
      rw [List.map_cons, List.sum_cons, List.sum_cons, ih, proportional,
        proportional, proportional, mul_add]

end Settlements

/-! ### Chunk by chunk -/

/-- Close chunks of a position one after the other. -/
def closeChunks (cfg : SimConfig σ) (ticket : Ticket) (b : SimBroker σ)
    (chunks : List ℚ) : SimBroker σ :=
  chunks.foldl
    (fun b chunk => (b.closePosition cfg ticket (some chunk)).broker) b

theorem closeChunks_append (cfg : SimConfig σ) (ticket : Ticket)
    (b : SimBroker σ) (chunks : List ℚ) (chunk : ℚ) :
    closeChunks cfg ticket b (chunks ++ [chunk]) =
      ((closeChunks cfg ticket b chunks).closePosition cfg ticket
        (some chunk)).broker := by
  rw [closeChunks, List.foldl_append]
  rfl

/-- The broker after some chunks of a position: what is left of it, the records of
the chunks, and the cash they moved; clock and quote are as before. -/
structure ClosedInPart (cfg : SimConfig σ) (before : SimBroker σ)
    (ticket : Ticket) (pos : Position) (price : ℚ) (chunks : List ℚ)
    (b : SimBroker σ) : Prop where
  left : ∃ smaller : chunks.sum < pos.volume,
    b.positions.get? ticket = some (remainder pos chunks.sum smaller)
  time : b.simTime = before.simTime
  quotes : b.quotes = before.quotes
  records : b.trades = before.trades ++
    chunks.map fun chunk => (before.settle cfg pos chunk price).1
  balance : b.balance = before.balance +
    (chunks.map fun chunk => (before.settle cfg pos chunk price).2).sum

section Chunks

variable {cfg : SimConfig σ} {before b : SimBroker σ} {ticket : Ticket}
variable {pos : Position} {mid price : ℚ} {chunks : List ℚ}

theorem closedInPart_nil (stored : before.positions.get? ticket = some pos) :
    ClosedInPart cfg before ticket pos price [] before where
  left := by
    refine ⟨pos.volume_pos, stored.trans ?_⟩
    simp only [remainder, List.sum_nil, sub_zero]
  time := rfl
  quotes := rfl
  records := (List.append_nil _).symm
  balance := (add_zero _).symm

/-- A settlement of what is left reads the clock and what a partial close keeps. -/
theorem settle_left (time : b.simTime = before.simTime) {closed : ℚ}
    (smaller : closed < pos.volume) (qty : ℚ) :
    b.settle cfg (remainder pos closed smaller) qty price =
      before.settle cfg pos qty price := by
  simp only [settle, remainder, time]

/-- The price of every chunk is that of the first: the quote is the same and the
model remembers nothing that matters. -/
theorem closePriceFor_left (stateless : Stateless cfg.slippageFn)
    (quotes : b.quotes = before.quotes) {closed : ℚ}
    (smaller : closed < pos.volume) :
    (b.closePriceFor cfg (remainder pos closed smaller) mid).1 =
      (before.closePriceFor cfg pos mid).1 := by
  obtain ⟨-, bids, asks⟩ : b.lastPrice = before.lastPrice ∧
      b.lastBid = before.lastBid ∧ b.lastAsk = before.lastAsk := by
    simpa only [SimBroker.quotes, Prod.mk.injEq] using quotes
  simp only [closePriceFor, bids, asks]
  exact stateless _ _ _ _ _

namespace ClosedInPart

theorem quoted (part : ClosedInPart cfg before ticket pos price chunks b)
    (quoted : before.lastPrice.get? pos.symbol = some mid) :
    b.lastPrice.get? pos.symbol = some mid := by
  have same : b.lastPrice = before.lastPrice := congrArg Prod.fst part.quotes
  rw [same]
  exact quoted

/-- One more chunk that leaves something. -/
theorem closeChunk (stateless : Stateless cfg.slippageFn)
    (quoted : before.lastPrice.get? pos.symbol = some mid)
    (part : ClosedInPart cfg before ticket pos
      (before.closePriceFor cfg pos mid).1 chunks b)
    {chunk : ℚ} (positive : 0 < chunk)
    (leaves : (chunks ++ [chunk]).sum < pos.volume) :
    ClosedInPart cfg before ticket pos (before.closePriceFor cfg pos mid).1
      (chunks ++ [chunk]) (b.closePosition cfg ticket (some chunk)).broker := by
  obtain ⟨smaller, stored⟩ := part.left
  have added : (chunks ++ [chunk]).sum = chunks.sum + chunk := by
    rw [List.sum_append, List.sum_singleton]
  have partly : chunk < (remainder pos chunks.sum smaller).volume := by
    rw [added] at leaves
    exact lt_sub_iff_add_lt'.mpr leaves
  have price : (b.closePriceFor cfg (remainder pos chunks.sum smaller) mid).1 =
      (before.closePriceFor cfg pos mid).1 :=
    closePriceFor_left stateless part.quotes smaller
  have closed : (b.closePosition cfg ticket (some chunk)).broker =
      b.shrinkPosition
        (before.settle cfg pos chunk (before.closePriceFor cfg pos mid).1)
        (b.closePriceFor cfg (remainder pos chunks.sum smaller) mid).2 ticket
        (remainder (remainder pos chunks.sum smaller) chunk partly) := by
    have market : b.lastPrice.get? (remainder pos chunks.sum smaller).symbol =
        some mid := part.quoted quoted
    simp only [closePosition, stored, market, dif_pos partly, closePartly,
      if_pos positive, settle_left part.time, price]
  rw [closed]
  exact
    { left := by
        refine ⟨leaves, (Dict.get?_set_self _ _ _).trans ?_⟩
        simp only [remainder, added, sub_sub]
      time := part.time
      quotes := part.quotes
      records := by
        rw [List.map_append, ← List.append_assoc, ← part.records]
        rfl
      balance := by
        rw [List.map_append, List.sum_append, ← add_assoc, ← part.balance,
          List.map_singleton, List.sum_singleton]
        rfl }

/-- The chunk that takes all that is left. -/
theorem closeRest (stateless : Stateless cfg.slippageFn)
    (quoted : before.lastPrice.get? pos.symbol = some mid)
    (part : ClosedInPart cfg before ticket pos
      (before.closePriceFor cfg pos mid).1 chunks b)
    {last : ℚ} (whole : chunks.sum + last = pos.volume)
    (request : Option ℚ) (enough : ∀ volume ∈ request, last ≤ volume) :
    let price := (before.closePriceFor cfg pos mid).1
    let closed := (b.closePosition cfg ticket request).broker
    closed.positions.get? ticket = none ∧
      closed.trades = before.trades ++
        (chunks ++ [last]).map (fun chunk =>
          (before.settle cfg pos chunk price).1) ∧
      closed.balance = before.balance +
        ((chunks ++ [last]).map fun chunk =>
          (before.settle cfg pos chunk price).2).sum := by
  intro price closed
  obtain ⟨smaller, stored⟩ := part.left
  have rest : (remainder pos chunks.sum smaller).volume = last :=
    sub_eq_iff_eq_add'.mpr whole.symm
  have fully : b.closePosition cfg ticket request =
      b.closeFully cfg ticket (remainder pos chunks.sum smaller) mid := by
    have market : b.lastPrice.get? (remainder pos chunks.sum smaller).symbol =
        some mid := part.quoted quoted
    cases request with
    | none => simp only [closePosition, stored, market]
    | some volume =>
        have covers : ¬volume < (remainder pos chunks.sum smaller).volume := by
          rw [rest]
          exact not_lt.mpr (enough volume rfl)
        simp only [closePosition, stored, market, dif_neg covers]
  have removed : closed =
      b.removePosition (before.settle cfg pos last price)
        (b.closePriceFor cfg (remainder pos chunks.sum smaller) mid).2
        ticket := by
    simp only [closed, fully, closeFully, settle_left part.time, rest,
      closePriceFor_left stateless part.quotes smaller, price]
  rw [removed]
  refine ⟨Dict.get?_erase_self _ _, ?_, ?_⟩
  · rw [List.map_append, ← List.append_assoc, ← part.records]
    rfl
  · rw [List.map_append, List.sum_append, ← add_assoc, ← part.balance,
      List.map_singleton, List.sum_singleton]
    rfl

end ClosedInPart

/-- Every run of chunks that leaves something. -/
theorem closedInPart_of_chunks (stateless : Stateless cfg.slippageFn)
    (stored : before.positions.get? ticket = some pos)
    (quoted : before.lastPrice.get? pos.symbol = some mid)
    (positive : ∀ chunk ∈ chunks, 0 < chunk)
    (leaves : chunks.sum < pos.volume) :
    ClosedInPart cfg before ticket pos (before.closePriceFor cfg pos mid).1
      chunks (closeChunks cfg ticket before chunks) := by
  induction chunks using List.reverseRecOn with
  | nil => exact closedInPart_nil stored
  | append_singleton chunks chunk ih =>
      have chunk_pos : 0 < chunk :=
        positive chunk (List.mem_append_right _ (List.mem_singleton_self _))
      have earlier : chunks.sum < pos.volume := by
        rw [List.sum_append, List.sum_singleton] at leaves
        linarith
      have part := ih
        (fun other member => positive other (List.mem_append_left _ member))
        earlier
      rw [closeChunks_append]
      exact part.closeChunk stateless quoted chunk_pos leaves

end Chunks

/-- A position closed in positive chunks at one time and one quote, the last one in
full, leaves the balance of one full close, and its trade records add up to the
record of that close; after every part of the chunks the rest of the volume is
open. -/
theorem partial_closing_linear (cfg : SimConfig σ)
    (stateless : Stateless cfg.slippageFn) (b : SimBroker σ) (ticket : Ticket)
    {pos : Position} {mid : ℚ} (stored : b.positions.get? ticket = some pos)
    (quoted : b.lastPrice.get? pos.symbol = some mid) (chunks : List ℚ)
    (last : ℚ) (positive : ∀ chunk ∈ chunks, 0 < chunk) (last_pos : 0 < last)
    (whole : chunks.sum + last = pos.volume) (request : Option ℚ)
    (enough : ∀ volume ∈ request, last ≤ volume) :
    let inChunks := ((closeChunks cfg ticket b chunks).closePosition cfg ticket
      request).broker
    let atOnce := (b.closePosition cfg ticket none).broker
    inChunks.balance = atOnce.balance ∧
    (∃ records record, inChunks.trades = b.trades ++ records ∧
      atOnce.trades = b.trades ++ [record] ∧
      records.map TradeRecord.volume = chunks ++ [last] ∧
      (records.map TradeRecord.pnl).sum = record.pnl ∧
      (records.map TradeRecord.fees).sum = record.fees ∧
      (records.map TradeRecord.swap).sum = record.swap) ∧
    (∀ done rest, chunks = done ++ rest → ∃ remaining,
      (closeChunks cfg ticket b done).positions.get? ticket = some remaining ∧
        remaining.volume = pos.volume - done.sum) ∧
    inChunks.positions.get? ticket = none ∧
    atOnce.positions.get? ticket = none := by
  intro inChunks atOnce
  have total : (chunks ++ [last]).sum = pos.volume := by
    rw [List.sum_append, List.sum_singleton, whole]
  have leaves : chunks.sum < pos.volume := by linarith
  obtain ⟨goneInChunks, recordsInChunks, balanceInChunks⟩ :=
    (closedInPart_of_chunks stateless stored quoted positive leaves).closeRest
      stateless quoted whole request enough
  obtain ⟨goneAtOnce, recordAtOnce, balanceAtOnce⟩ :=
    (closedInPart_nil stored).closeRest stateless quoted
      (zero_add pos.volume) none (fun _ none => by cases none)
  rw [List.nil_append, List.map_singleton] at recordAtOnce balanceAtOnce
  rw [List.sum_singleton] at balanceAtOnce
  refine ⟨?_, ⟨_, _, recordsInChunks, recordAtOnce, ?_, ?_, ?_, ?_⟩, ?_,
    goneInChunks, goneAtOnce⟩
  · rw [balanceInChunks, balanceAtOnce,
      sum_of_proportional (settle_cash_unit b cfg pos _), total]
  · rw [List.map_map]
    exact List.map_id _
  · rw [List.map_map]
    exact (sum_of_proportional (settle_pnl b cfg pos _) _).trans
      (by rw [total])
  · rw [List.map_map]
    exact (sum_of_proportional (settle_fees b cfg pos _) _).trans
      (by rw [total])
  · rw [List.map_map]
    exact (sum_of_proportional (settle_swap b cfg pos _) _).trans
      (by rw [total])
  · rintro done rest rfl
    have rest_nonneg : 0 ≤ rest.sum := by
      apply List.sum_nonneg
      exact fun chunk member =>
        (positive chunk (List.mem_append_right _ member)).le
    have earlier : done.sum < pos.volume := by
      rw [List.sum_append] at leaves
      linarith
    obtain ⟨smaller, left⟩ := (closedInPart_of_chunks stateless stored quoted
      (fun chunk member => positive chunk (List.mem_append_left _ member))
      earlier).left
    exact ⟨_, left, rfl⟩

/-- A lot of gold, quoted with a spread, under commission and swap. -/
def goldLot : Position where
  ticket := 1
  symbol := "XAUUSD"
  side := .sell
  volume := 1
  openPrice := 2000
  openTime := 0
  sl := none
  tp := none
  comment := ""
  magic := 0
  volume_pos := one_quote_pos
  openPrice_pos := by decide

def goldBroker : SimBroker Unit :=
  ({ SimBroker.create 10000 () (2 * Time.usPerDay) with
      positions := Dict.empty.set 1 goldLot }).setMarketTick "XAUUSD" 1990 1991

def costlyConfig : SimConfig Unit :=
  { SimConfig.plain with commissionPerLot := 3, swapShortPerLot := -2 }

/-- The lot in chunks of 0.3, 0.2 and 0.5. -/
theorem partial_closing_linear_three :
    ((closeChunks costlyConfig 1 goldBroker [3 / 10, 1 / 5]).closePosition
        costlyConfig 1 none).broker.balance =
      (goldBroker.closePosition costlyConfig 1 none).broker.balance :=
  (partial_closing_linear costlyConfig spreadModel_stateless goldBroker 1
    (show goldBroker.positions.get? 1 = some goldLot by decide +kernel)
    (show goldBroker.lastPrice.get? "XAUUSD" = some 1990 by decide +kernel)
    [3 / 10, 1 / 5] (1 / 2) (by decide +kernel) (by norm_num)
    (by decide +kernel) none (fun _ none => by cases none)).1

end SimBroker

end StingerFx
