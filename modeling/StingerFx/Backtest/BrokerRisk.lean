/-
Module: StingerFx.Backtest.BrokerRisk
Layer: Backtest
Purpose: Money between prices and stops. What the open positions and the resting
  orders of the simulated broker have at risk together, and what each broker call
  adds to it: a placement its own order, everything else nothing, as long as
  orders that fire open at their own price and stops stay where they are.
Trusted boundary: none (fully proved)
Main exports: stopRisk, SimBroker.openRisk, SimBroker.restingRisk,
  SimBroker.Stopped, SimBroker.Grown, SimBroker.AtOwnPrice,
  SimBroker.perform_grown
-/
import StingerFx.Backtest.BrokerMoves

namespace StingerFx

open Lib

variable {σ : Type}

/-! ### Risk of the books -/

/-- Money lost between a price and a stop. -/
def stopRisk (cfg : SimConfig σ) (symbol : Symbol) (volume : ℚ)
    (price sl : Option ℚ) : ℚ :=
  match price, sl with
  | some price, some sl => |price - sl| * volume * cfg.contractSizeFor symbol
  | _, _ => 0

def Position.stopRisk (cfg : SimConfig σ) (pos : Position) : ℚ :=
  StingerFx.stopRisk cfg pos.symbol pos.volume (some pos.openPrice) pos.sl

def Order.stopRisk (cfg : SimConfig σ) (order : Order) : ℚ :=
  StingerFx.stopRisk cfg order.symbol order.volume order.price order.sl

namespace SimBroker

def openRisk (cfg : SimConfig σ) (b : SimBroker σ) : ℚ :=
  b.positions.sum (Position.stopRisk cfg)

def restingRisk (cfg : SimConfig σ) (b : SimBroker σ) : ℚ :=
  b.pending.sum (Order.stopRisk cfg)

/-- A stop that bounds a loss. -/
def Usable : Option ℚ → Prop
  | none => False
  | some stop => 0 < stop

instance (sl : Option ℚ) : Decidable (Usable sl) := by
  unfold Usable
  split <;> infer_instance

end SimBroker

section Shares

variable {cfg : SimConfig σ}

theorem stopRisk_nonneg (sized : ∀ symbol, 0 < cfg.contractSizeFor symbol)
    {volume : ℚ} (positive : 0 < volume) (symbol : Symbol) (price sl : Option ℚ) :
    0 ≤ stopRisk cfg symbol volume price sl := by
  unfold stopRisk
  split
  · exact mul_nonneg (mul_nonneg (abs_nonneg _) positive.le) (sized symbol).le
  · exact le_rfl

/-- A smaller chunk has no more at risk. -/
theorem stopRisk_mono (sized : ∀ symbol, 0 < cfg.contractSizeFor symbol)
    {small large : ℚ} (order : small ≤ large) (symbol : Symbol)
    (price sl : Option ℚ) :
    stopRisk cfg symbol small price sl ≤ stopRisk cfg symbol large price sl := by
  unfold stopRisk
  split
  · apply mul_le_mul_of_nonneg_right _ (sized symbol).le
    exact mul_le_mul_of_nonneg_left order (abs_nonneg _)
  · exact le_rfl

end Shares

/-! ### Broker calls and the risk of the books -/

namespace SimBroker

variable {cfg : SimConfig σ} {b b' : SimBroker σ}

theorem position_nonneg (sized : ∀ symbol, 0 < cfg.contractSizeFor symbol)
    (pos : Position) : 0 ≤ pos.stopRisk cfg :=
  stopRisk_nonneg sized pos.volume_pos _ _ _

theorem order_nonneg (sized : ∀ symbol, 0 < cfg.contractSizeFor symbol)
    (order : Order) : 0 ≤ order.stopRisk cfg :=
  stopRisk_nonneg sized order.volume_pos _ _ _

/-- Everything open or resting has a stop that bounds its loss. -/
structure Stopped (b : SimBroker σ) : Prop where
  positions : ∀ {ticket pos}, b.positions.get? ticket = some pos → Usable pos.sl
  pending : ∀ {ticket order}, b.pending.get? ticket = some order →
    Usable order.sl

/-- The books have at most so much more at risk, and still have stops. -/
structure Grown (cfg : SimConfig σ) (more : ℚ) (b b' : SimBroker σ) : Prop where
  risk : b'.openRisk cfg + b'.restingRisk cfg ≤
    b.openRisk cfg + b.restingRisk cfg + more
  stopped : b.Stopped → b'.Stopped

theorem Grown.refl (b : SimBroker σ) : Grown cfg 0 b b where
  risk := (add_zero _).ge
  stopped := id

theorem Grown.trans {middle : SimBroker σ} {one two : ℚ}
    (first : Grown cfg one b middle) (second : Grown cfg two middle b') :
    Grown cfg (one + two) b b' where
  risk := by
    have before := first.risk
    have after := second.risk
    linarith
  stopped := second.stopped ∘ first.stopped

/-- The same books. -/
theorem Grown.same (positions : b'.positions = b.positions)
    (pending : b'.pending = b.pending) : Grown cfg 0 b b' where
  risk := by
    unfold openRisk restingRisk
    rw [positions, pending, add_zero]
  stopped := fun stopped =>
    ⟨by rw [positions]; exact stopped.positions,
      by rw [pending]; exact stopped.pending⟩

theorem Grown.wider {one two : ℚ} (grown : Grown cfg one b b')
    (order : one ≤ two) : Grown cfg two b b' where
  risk := grown.risk.trans (by linarith)
  stopped := grown.stopped

/-- A pending order opens at its own price. -/
theorem promotePending_grown (sized : ∀ symbol, 0 < cfg.contractSizeFor symbol)
    {ticket : Ticket} {pending : Order} {fillPrice : ℚ}
    (waiting : b.pending.get? ticket = some pending)
    (atPrice : pending.price = some fillPrice) :
    Grown cfg 0 b (b.promotePending cfg ticket pending fillPrice).broker := by
  unfold promotePending
  split
  · exact .refl b
  · rename_i pos built
    rcases buildPosition_ticket built with
      ⟨named, symbol, -, volume, price, sl, -⟩
    have same : pos.stopRisk cfg = pending.stopRisk cfg := by
      unfold Position.stopRisk Order.stopRisk
      rw [symbol, volume, price, sl, atPrice]
    refine ⟨?_, fun stopped => ⟨?_, ?_⟩⟩
    · have opened := b.positions.sum_set_le pos.ticket pos
        (position_nonneg sized)
      have left := b.pending.sum_erase ticket (Order.stopRisk cfg)
      rw [Dict.shareAt_of_get? _ waiting] at left
      unfold openRisk restingRisk openPosition
      dsimp only
      rw [left]
      linarith
    · intro key found there
      dsimp only [openPosition] at there
      rw [Dict.get?_set] at there
      split at there
      · cases there
        rw [sl]
        exact stopped.pending waiting
      · exact stopped.positions there
    · intro key found there
      dsimp only at there
      rw [Dict.get?_erase] at there
      split at there
      · cases there
      · exact stopped.pending there

/-- Every order that fires in the pass opens at its own price. -/
def PromotesAtPrice (cfg : SimConfig σ) (fires : Order → Bool)
    (fillPrice : Order → σ → ℚ × σ) :
    List (Ticket × Order) → SimBroker σ → Prop
  | [], _ => True
  | (ticket, pending) :: rest, b =>
      if fires pending then
        let fill := fillPrice pending b.slippageState
        let priced := { b with slippageState := fill.2 }
        pending.price = some fill.1 ∧
          PromotesAtPrice cfg fires fillPrice rest
            (priced.promotePending cfg ticket pending fill.1).broker
      else PromotesAtPrice cfg fires fillPrice rest b

theorem promoteAll_grown (sized : ∀ symbol, 0 < cfg.contractSizeFor symbol)
    (fires : Order → Bool) (fillPrice : Order → σ → ℚ × σ)
    (listing : List (Ticket × Order)) (b : SimBroker σ)
    (unique : (listing.map Prod.fst).Nodup)
    (waiting : ∀ entry ∈ listing, b.pending.get? entry.1 = some entry.2)
    (priced : PromotesAtPrice cfg fires fillPrice listing b) :
    Grown cfg 0 b (promoteAll cfg fires fillPrice listing b).broker := by
  induction listing generalizing b with
  | nil => exact .refl b
  | cons entry rest ih =>
      obtain ⟨ticket, pending⟩ := entry
      rw [List.map_cons, List.nodup_cons] at unique
      have headWaits := waiting _ List.mem_cons_self
      have restWaits : ∀ entry ∈ rest, b.pending.get? entry.1 = some entry.2 :=
        fun entry member => waiting entry (List.mem_cons_of_mem _ member)
      unfold promoteAll
      unfold PromotesAtPrice at priced
      split
      · rename_i fired
        rw [if_pos fired] at priced
        dsimp only at priced ⊢
        generalize fillPrice pending b.slippageState = fill at priced ⊢
        have quoted : Grown cfg 0 b { b with slippageState := fill.2 } :=
          .same rfl rfl
        have promoted := quoted.trans
          (promotePending_grown (b := { b with slippageState := fill.2 }) sized
            headWaits priced.1)
        rw [add_zero] at promoted
        split
        · exact promoted
        · have later := promoted.trans (ih _ unique.2 (by
            intro entry member
            have apart : entry.1 ≠ ticket := fun same =>
              unique.1 (same ▸ List.mem_map.mpr ⟨entry, member, rfl⟩)
            rw [promotePending_pending cfg _ ticket entry.1 pending _ apart]
            exact restWaits entry member) priced.2)
          rw [add_zero] at later
          exact later
      · rename_i quiet
        rw [if_neg quiet] at priced
        exact ih b unique.2 restWaits priced

theorem closePosition_grown (sized : ∀ symbol, 0 < cfg.contractSizeFor symbol)
    (b : SimBroker σ) (ticket : Ticket) (volume : Option ℚ)
    (positive : ∀ chunk ∈ volume, 0 < chunk) :
    Grown cfg 0 b (b.closePosition cfg ticket volume).broker := by
  have fully : ∀ (pos : Position) (mid : ℚ),
      Grown cfg 0 b (b.closeFully cfg ticket pos mid).broker := by
    intro pos mid
    refine ⟨?_, fun stopped => ⟨?_, stopped.pending⟩⟩
    · have less := b.positions.sum_erase_le ticket
        (position_nonneg sized)
      have total : (b.positions.erase ticket).sum (Position.stopRisk cfg) +
          b.restingRisk cfg ≤ b.openRisk cfg + b.restingRisk cfg + 0 := by
        unfold openRisk
        linarith
      exact total
    · intro key found there
      have there' : (b.positions.erase ticket).get? key = some found := there
      rw [Dict.get?_erase] at there'
      split at there'
      · cases there'
      · exact stopped.positions there'
  unfold closePosition
  split
  · exact .refl b
  · rename_i pos stored
    split
    · exact .refl b
    · rename_i mid _
      split
      · exact fully pos mid
      · rename_i chunk
        split
        · rename_i smaller
          have some_ : 0 < chunk := positive chunk rfl
          unfold closePartly
          dsimp only
          rw [if_pos some_]
          refine ⟨?_, fun stopped => ⟨?_, stopped.pending⟩⟩
          · have changed := b.positions.sum_set ticket
              (remainder pos chunk smaller) (Position.stopRisk cfg)
            rw [Dict.shareAt_of_get? _ stored] at changed
            have less : (remainder pos chunk smaller).stopRisk cfg ≤
                pos.stopRisk cfg :=
              stopRisk_mono sized (sub_le_self _ some_.le) _ _ _
            have total : (b.positions.set ticket
                (remainder pos chunk smaller)).sum (Position.stopRisk cfg) +
                b.restingRisk cfg ≤ b.openRisk cfg + b.restingRisk cfg + 0 := by
              rw [changed]
              unfold openRisk
              linarith
            exact total
          · intro key found there
            have there' : (b.positions.set ticket
                (remainder pos chunk smaller)).get? key = some found := there
            rw [Dict.get?_set] at there'
            split at there'
            · cases there'
              have kept : (remainder pos chunk smaller).sl = pos.sl := rfl
              rw [kept]
              exact stopped.positions stored
            · exact stopped.positions there'
        · exact fully pos mid

theorem cancelOrder_grown (sized : ∀ symbol, 0 < cfg.contractSizeFor symbol)
    (b : SimBroker σ) (ticket : Ticket) :
    Grown cfg 0 b (b.cancelOrder ticket).broker := by
  unfold cancelOrder
  split
  · exact .refl b
  · refine ⟨?_, fun stopped => ⟨stopped.positions, ?_⟩⟩
    · have less := b.pending.sum_erase_le ticket
        (order_nonneg sized)
      have total : b.openRisk cfg + (b.pending.erase ticket).sum
          (Order.stopRisk cfg) ≤ b.openRisk cfg + b.restingRisk cfg + 0 := by
        unfold restingRisk
        linarith
      exact total
    · intro key found there
      dsimp only at there
      rw [Dict.get?_erase] at there
      split at there
      · cases there
      · exact stopped.pending there

/-- A placement adds at most the risk of the order at its reference price. -/
theorem placeOrder_grown (sized : ∀ symbol, 0 < cfg.contractSizeFor symbol)
    {req : OrderRequest} {reference : Option ℚ} (b : SimBroker σ)
    (stop : Usable req.sl)
    (market : req.type = .market → ∀ bid ∈ b.lastBid.get? req.symbol,
      ∀ ask ∈ b.lastAsk.get? req.symbol,
        reference = some (cfg.slippageFn b.slippageState req.side bid ask).1)
    (resting : req.type ≠ .market → ∀ price ∈ req.price,
      reference = some price) :
    Grown cfg (stopRisk cfg req.symbol req.volume reference req.sl) b
      (b.placeOrder cfg req).broker := by
  have nonneg := stopRisk_nonneg sized req.volume_pos req.symbol reference req.sl
  unfold placeOrder
  split
  · rename_i bid ask hasBid hasAsk
    split
    · rename_i other
      split
      · exact (Grown.refl b).wider nonneg
      · rename_i price hasPrice
        have same : (b.pendingOrder req).stopRisk cfg =
            stopRisk cfg req.symbol req.volume reference req.sl := by
          rw [resting other price hasPrice]
          unfold Order.stopRisk pendingOrder
          dsimp only
          rw [hasPrice]
        refine ⟨?_, fun stopped => ⟨stopped.positions, ?_⟩⟩
        · have more := b.pending.sum_set_le b.nextTicket (b.pendingOrder req)
            (order_nonneg sized)
          have total : b.openRisk cfg + (b.pending.set b.nextTicket
              (b.pendingOrder req)).sum (Order.stopRisk cfg) ≤
                b.openRisk cfg + b.restingRisk cfg +
                  stopRisk cfg req.symbol req.volume reference req.sl := by
            rw [← same]
            unfold restingRisk
            linarith
          exact total
        · intro key found there
          have there' : (b.pending.set b.nextTicket (b.pendingOrder req)).get?
              key = some found := there
          rw [Dict.get?_set] at there'
          split at there'
          · cases there'
            exact stop
          · exact stopped.pending there'
    · rename_i isMarket
      have reference' := market (not_not.mp isMarket) bid hasBid ask hasAsk
      unfold fillMarket
      dsimp only
      split
      · have same : Grown cfg 0 b { b with
            slippageState := (cfg.slippageFn b.slippageState req.side bid ask).2
            nextTicket := b.nextTicket + 1 } := .same rfl rfl
        exact same.wider nonneg
      · rename_i pos built
        rcases buildPosition_ticket built with
          ⟨named, symbol, -, volume, price, sl, -⟩
        have same : pos.stopRisk cfg =
            stopRisk cfg req.symbol req.volume reference req.sl := by
          unfold Position.stopRisk
          rw [symbol, volume, price, sl, reference']
        refine ⟨?_, fun stopped => ⟨?_, stopped.pending⟩⟩
        · have more := b.positions.sum_set_le pos.ticket pos
            (position_nonneg sized)
          have total : (b.positions.set pos.ticket pos).sum
              (Position.stopRisk cfg) + b.restingRisk cfg ≤
                b.openRisk cfg + b.restingRisk cfg +
                  stopRisk cfg req.symbol req.volume reference req.sl := by
            rw [← same]
            unfold openRisk
            linarith
          exact total
        · intro key found there
          have there' : (b.positions.set pos.ticket pos).get? key =
              some found := there
          rw [Dict.get?_set] at there'
          split at there'
          · cases there'
            rw [sl]
            exact stop
          · exact stopped.positions there'
  · exact (Grown.refl b).wider nonneg

/-- A modification that moves only the target. -/
theorem modifyOrder_grown (b : SimBroker σ) (ticket : Ticket)
    {changes : OrderChanges} (stop : changes.sl = none)
    (price : changes.price = none) (volume : changes.volume = none) :
    Grown cfg 0 b (b.modifyOrder ticket changes).broker := by
  unfold modifyOrder
  split
  · rename_i pending waiting
    have amended : changes.amendOrder pending =
        some { pending with tp := changes.tp <|> pending.tp } := by
      unfold OrderChanges.amendOrder
      rw [stop, price, volume]
      rfl
    rw [amended]
    refine ⟨?_, fun stopped => ⟨stopped.positions, ?_⟩⟩
    · have changed := b.pending.sum_set ticket
        { pending with tp := changes.tp <|> pending.tp } (Order.stopRisk cfg)
      rw [Dict.shareAt_of_get? _ waiting] at changed
      have total : b.openRisk cfg + (b.pending.set ticket
          { pending with tp := changes.tp <|> pending.tp }).sum
            (Order.stopRisk cfg) ≤ b.openRisk cfg + b.restingRisk cfg + 0 := by
        rw [changed]
        unfold restingRisk Order.stopRisk
        linarith
      exact total
    · intro key found there
      have there' : (b.pending.set ticket
          { pending with tp := changes.tp <|> pending.tp }).get? key =
            some found := there
      rw [Dict.get?_set] at there'
      split at there'
      · cases there'
        have bounded : Usable pending.sl := stopped.pending waiting
        exact bounded
      · exact stopped.pending there'
  · split
    · exact .refl b
    · rename_i pos stored
      have kept : (changes.amendPosition pos).sl = pos.sl := by
        unfold OrderChanges.amendPosition
        rw [stop]
        rfl
      refine ⟨?_, fun stopped => ⟨?_, stopped.pending⟩⟩
      · have changed := b.positions.sum_set ticket (changes.amendPosition pos)
          (Position.stopRisk cfg)
        rw [Dict.shareAt_of_get? _ stored] at changed
        have same : (changes.amendPosition pos).stopRisk cfg =
            pos.stopRisk cfg := by
          unfold Position.stopRisk
          rw [kept]
          rfl
        have total : (b.positions.set ticket (changes.amendPosition pos)).sum
            (Position.stopRisk cfg) + b.restingRisk cfg ≤
              b.openRisk cfg + b.restingRisk cfg + 0 := by
          rw [changed, same]
          unfold openRisk
          linarith
        exact total
      · intro key found there
        have there' : (b.positions.set ticket (changes.amendPosition pos)).get?
            key = some found := there
        rw [Dict.get?_set] at there'
        split at there'
        · cases there'
          rw [kept]
          exact stopped.positions stored
        · exact stopped.positions there'

/-- Orders that fire open at their own price, stops stay where they are, and a
chunk that is closed has a volume. -/
def AtOwnPrice (cfg : SimConfig σ) (b : SimBroker σ) : BrokerOp → Prop
  | .checkPending symbol bid ask =>
      PromotesAtPrice cfg (firesOnTick symbol bid ask)
        (tickFillPrice cfg bid ask) b.pending.items b
  | .checkPendingBar symbol barHigh barLow =>
      PromotesAtPrice cfg (firesOnBar symbol barHigh barLow) (barFillPrice cfg)
        b.pending.items b
  | .modifyOrder _ changes =>
      changes.sl = none ∧ changes.price = none ∧ changes.volume = none
  | .closePosition _ volume => ∀ chunk ∈ volume, 0 < chunk
  | _ => True

instance PromotesAtPrice.decide (fires : Order → Bool)
    (fillPrice : Order → σ → ℚ × σ) :
    ∀ (listing : List (Ticket × Order)) (b : SimBroker σ),
      Decidable (PromotesAtPrice cfg fires fillPrice listing b)
  | [], _ => instDecidableTrue
  | (ticket, pending) :: rest, b =>
      if fired : fires pending then
        have := PromotesAtPrice.decide fires fillPrice rest
          ({ b with slippageState := (fillPrice pending b.slippageState).2 }
            |>.promotePending cfg ticket pending
              (fillPrice pending b.slippageState).1).broker
        decidable_of_iff (pending.price =
            some (fillPrice pending b.slippageState).1 ∧
          PromotesAtPrice cfg fires fillPrice rest
            ({ b with slippageState := (fillPrice pending b.slippageState).2 }
              |>.promotePending cfg ticket pending
                (fillPrice pending b.slippageState).1).broker)
          (by simp only [PromotesAtPrice, fired, if_true])
      else
        have := PromotesAtPrice.decide fires fillPrice rest b
        decidable_of_iff (PromotesAtPrice cfg fires fillPrice rest b)
          (by simp only [PromotesAtPrice, fired, Bool.false_eq_true, if_false])

instance (op : BrokerOp) : Decidable (b.AtOwnPrice cfg op) := by
  cases op <;> unfold AtOwnPrice <;> infer_instance

/-- Beside a placement, no operation has more at risk. -/
theorem perform_grown (sized : ∀ symbol, 0 < cfg.contractSizeFor symbol)
    (b : SimBroker σ) {op : BrokerOp} (notPlacing : op.places = false)
    (own : b.AtOwnPrice cfg op) : Grown cfg 0 b (perform cfg b op).1 := by
  cases op with
  | setMarket symbol price => exact .same rfl rfl
  | setMarketTick symbol bid ask => exact .same rfl rfl
  | advanceClock t => exact .same rfl rfl
  | placeOrder req => cases notPlacing
  | checkPending symbol bid ask =>
      exact promoteAll_grown sized _ _ _ b b.pending.nodup b.pending_items_wait
        own
  | checkPendingBar symbol barHigh barLow =>
      exact promoteAll_grown sized _ _ _ b b.pending.nodup b.pending_items_wait
        own
  | modifyOrder ticket changes =>
      exact modifyOrder_grown b ticket own.1 own.2.1 own.2.2
  | closePosition ticket volume => exact closePosition_grown sized b ticket volume own
  | cancelOrder ticket => exact cancelOrder_grown sized b ticket

end SimBroker

end StingerFx
