/-
Module: StingerFx.Proofs.BarExits
Layer: Proofs
Purpose: Prices at which stops and targets are left. In both replay modes an exit is
  detected on one price and executed at the market price stored last. On ticks the
  two are the same price, so a stop is left at or beyond its level. On bars they
  are the bar's extreme and its close, so the exit keeps to its level exactly when
  the close does.
Trusted boundary: none (fully proved)
Main exports: ConsistentExit, BarExitsConsistent, CloseConfirms,
  tick_exits_consistent, bar_exits_consistent_iff, recovered_bar_beats_stop
-/
import StingerFx.Backtest.Replay
import StingerFx.Backtest.BrokerMoves

namespace StingerFx

open Lib

variable {σ : Type}

/-! ### Exit prices -/

namespace SimBroker

/-- All three stored prices of a symbol agree. -/
def PricedAt (b : SimBroker σ) (symbol : Symbol) (price : ℚ) : Prop :=
  b.lastPrice.get? symbol = some price ∧ b.lastBid.get? symbol = some price ∧
    b.lastAsk.get? symbol = some price

theorem PricedAt.congr {b b' : SimBroker σ} {symbol : Symbol} {price : ℚ}
    (priced : b.PricedAt symbol price) (same : b'.quotes = b.quotes) :
    b'.PricedAt symbol price := by
  rcases Prod.mk.inj same with ⟨lastPrice, rest⟩
  rcases Prod.mk.inj rest with ⟨lastBid, lastAsk⟩
  unfold PricedAt
  rw [lastPrice, lastBid, lastAsk]
  exact priced

theorem setMarket_pricedAt (b : SimBroker σ) (symbol : Symbol) (price : ℚ) :
    (b.setMarket symbol price).PricedAt symbol price :=
  ⟨Dict.get?_set_self _ _ _, Dict.get?_set_self _ _ _, Dict.get?_set_self _ _ _⟩

/-- A full close at the stored price, by a model that adds nothing to it. -/
theorem closePosition_at {cfg : SimConfig σ}
    (exact : AddsNothingAtZeroSpread cfg.slippageFn) {b : SimBroker σ}
    {pos : Position} {price : ℚ}
    (stored : b.positions.get? pos.ticket = some pos)
    (priced : b.PricedAt pos.symbol price) :
    ∃ slippage,
      (b.closePosition cfg pos.ticket none).broker =
          b.removePosition (b.settle cfg pos pos.volume price) slippage
            pos.ticket ∧
        (b.closePosition cfg pos.ticket none).events =
          b.closeEvents pos.ticket pos
            (b.settle cfg pos pos.volume price).1.pnl price := by
  have left : (b.closePriceFor cfg pos price).1 = price := by
    unfold closePriceFor Dict.getD
    rw [priced.2.1, priced.2.2]
    exact exact _ _ price
  unfold closePosition
  rw [stored]
  dsimp only
  rw [priced.1]
  refine ⟨(b.closePriceFor cfg pos price).2, ?_, ?_⟩
  · simp only [closeFully, left]
  · simp only [closeFully, left]

/-- What settling a position yields depends on the broker's clock only. -/
theorem settle_congr {cfg : SimConfig σ} {b b' : SimBroker σ} {pos : Position}
    {quantity price : ℚ} (same : b'.simTime = b.simTime) :
    b'.settle cfg pos quantity price = b.settle cfg pos quantity price := by
  unfold settle
  rw [same]

/-- Closing listed positions publishes one close for each, at the stored price. -/
theorem closeListed_closes {cfg : SimConfig σ}
    (exact : AddsNothingAtZeroSpread cfg.slippageFn) {symbol : Symbol} {price : ℚ}
    (pos : Position) (pnl : ℚ) (accountId : AccountId) (closePrice : ℚ) :
    ∀ (listed : List Position) (b : SimBroker σ),
      (∀ pos ∈ listed, b.positions.get? pos.ticket = some pos ∧
        pos.symbol = symbol) →
      (listed.map Position.ticket).Nodup → b.PricedAt symbol price →
      (Event.positionClosed pos pnl accountId closePrice ∈
          (b.closeListed cfg listed).2 ↔
        pos ∈ listed ∧ pnl = (b.settle cfg pos pos.volume price).1.pnl ∧
          accountId = b.accountId ∧ closePrice = price)
  | [], b, _, _, _ => by simp [closeListed]
  | head :: rest, b, stored, unique, priced => by
      rcases stored head List.mem_cons_self with ⟨headStored, headSymbol⟩
      rcases List.nodup_cons.mp unique with ⟨apart, restUnique⟩
      rcases closePosition_at exact headStored (headSymbol ▸ priced) with
        ⟨slippage, broker, events⟩
      have quotes := closePosition_quotes cfg b head.ticket none
      have restStored : ∀ pos ∈ rest,
          (b.closePosition cfg head.ticket none).broker.positions.get?
            pos.ticket = some pos ∧ pos.symbol = symbol := by
        intro other member
        rcases stored other (List.mem_cons_of_mem _ member) with
          ⟨otherStored, otherSymbol⟩
        have differ : other.ticket ≠ head.ticket := fun same =>
          apart (same ▸ List.mem_map_of_mem member)
        refine ⟨?_, otherSymbol⟩
        rw [broker]
        exact (Dict.get?_erase_of_ne _ differ).trans otherStored
      have later := closeListed_closes exact pos pnl accountId closePrice rest
        (b.closePosition cfg head.ticket none).broker restStored restUnique
        (priced.congr quotes)
      have clock : (b.closePosition cfg head.ticket none).broker.simTime =
          b.simTime := by
        rw [broker]
        rfl
      have account : (b.closePosition cfg head.ticket none).broker.accountId =
          b.accountId := by
        rw [broker]
        rfl
      rw [settle_congr clock, account] at later
      unfold closeListed
      rw [List.mem_append, later, events]
      simp only [closeEvents, List.mem_cons, Event.positionClosed.injEq,
        reduceCtorEq, List.not_mem_nil, or_false]
      constructor
      · rintro (⟨rfl, rfl, rfl, rfl⟩ | ⟨member, figures⟩)
        · exact ⟨.inl rfl, rfl, rfl, rfl⟩
        · exact ⟨.inr member, figures⟩
      · rintro ⟨rfl | member, rfl, rfl, rfl⟩
        · exact .inl ⟨rfl, rfl, rfl, rfl⟩
        · exact .inr ⟨member, rfl, rfl, rfl⟩

end SimBroker

/-! ### Levels -/

/-- At a stop or worse, for the holder of a position of this side. -/
def BeyondStop : Side → (price level : ℚ) → Prop
  | .buy, price, level => price ≤ level
  | .sell, price, level => level ≤ price

/-- At a target or better. -/
def BeyondTarget : Side → (price level : ℚ) → Prop
  | .buy, price, level => level ≤ price
  | .sell, price, level => price ≤ level

/-- A price that keeps to the level for which a position is left: the stop, or
the target when the stop was not reached. -/
def KeepsToLevel (pos : Position) (high low price : ℚ) : Prop :=
  (SimBroker.stopReached pos high low = true →
      ∀ sl ∈ pos.sl, BeyondStop pos.side price sl) ∧
    (SimBroker.stopReached pos high low = false →
      SimBroker.targetReached pos high low = true →
        ∀ tp ∈ pos.tp, BeyondTarget pos.side price tp)

/-- The price keeps to the level, and a stop-out books no more than at the stop. -/
def ConsistentExit (cfg : SimConfig σ) (b : SimBroker σ) (pos : Position)
    (high low price pnl : ℚ) : Prop :=
  KeepsToLevel pos high low price ∧
    (SimBroker.stopReached pos high low = true → ∀ sl ∈ pos.sl,
      0 < cfg.contractSizeFor pos.symbol →
        pnl ≤ (b.settle cfg pos pos.volume sl).1.pnl)

/-- At or beyond the stop, a position is worth no more than at the stop. -/
theorem pnl_le_of_beyondStop {cfg : SimConfig σ} {b : SimBroker σ}
    {pos : Position} {price sl : ℚ} (size : 0 < cfg.contractSizeFor pos.symbol)
    (beyond : BeyondStop pos.side price sl) :
    (b.settle cfg pos pos.volume price).1.pnl ≤
      (b.settle cfg pos pos.volume sl).1.pnl := by
  have weight : 0 ≤ pos.volume * cfg.contractSizeFor pos.symbol :=
    (mul_pos pos.volume_pos size).le
  have move : (price - pos.openPrice) * pos.side.sign ≤
      (sl - pos.openPrice) * pos.side.sign := by
    cases side : pos.side with
    | buy =>
        rw [side] at beyond
        have below : price ≤ sl := beyond
        simp only [Side.sign]
        linarith
    | sell =>
        rw [side] at beyond
        have above : sl ≤ price := beyond
        simp only [Side.sign]
        linarith
  have gross := mul_le_mul_of_nonneg_right move weight
  simp only [SimBroker.settle]
  linarith

theorem KeepsToLevel.consistent {cfg : SimConfig σ} {b : SimBroker σ}
    {pos : Position} {high low price : ℚ}
    (keeps : KeepsToLevel pos high low price) :
    ConsistentExit cfg b pos high low price
      (b.settle cfg pos pos.volume price).1.pnl :=
  ⟨keeps, fun stopped sl level size =>
    pnl_le_of_beyondStop size (keeps.1 stopped sl level)⟩

/-! ### Tick mode -/

/-- What the exits of a tick publish. -/
def tickExits (cfg : SimConfig σ) (b : SimBroker σ) (tick : Tick) : List Event :=
  let quoted := (b.advanceClock tick.time).setMarketTick tick.symbol tick.bid
    tick.ask
  (quoted.closeListed cfg
    (quoted.checkSlTpTick tick.symbol tick.bid tick.ask)).2

/-- A level that one price reaches is kept by that price. -/
theorem keepsToLevel_self (pos : Position) (price : ℚ) :
    KeepsToLevel pos price price price := by
  unfold KeepsToLevel SimBroker.stopReached SimBroker.targetReached BeyondStop
    BeyondTarget
  constructor
  · intro stopped sl level
    rw [Option.mem_def] at level
    cases side : pos.side <;> simpa [side, level] using stopped
  · intro _ reached tp level
    rw [Option.mem_def] at level
    cases side : pos.side <;> simpa [side, level] using reached

/-- The positions that a broker lists are stored under their own tickets, one
each. -/
theorem SimBroker.BooksKept.listed {b : SimBroker σ} (kept : b.BooksKept)
    (symbol : Symbol) (exits : Position → Bool) :
    (∀ pos ∈ b.positions.values.filter (fun pos =>
        decide (pos.symbol = symbol) && exits pos),
      b.positions.get? pos.ticket = some pos ∧ pos.symbol = symbol) ∧
    ((b.positions.values.filter (fun pos =>
        decide (pos.symbol = symbol) && exits pos)).map
          Position.ticket).Nodup := by
  constructor
  · intro pos member
    rcases List.mem_filter.mp member with ⟨value, chosen⟩
    rcases b.positions.mem_values_iff.mp value with ⟨ticket, stored⟩
    have own := (kept.position_ticket stored).1
    rcases Bool.and_eq_true_iff.mp chosen with ⟨same, -⟩
    rw [own]
    exact ⟨stored, of_decide_eq_true same⟩
  · have tickets : b.positions.values.map Position.ticket = b.positions.keys := by
      unfold Dict.values Dict.keys
      rw [List.map_map]
      apply List.map_congr_left
      intro entry member
      exact (kept.position_ticket
        ((b.positions.get?_eq_some_iff).mpr member)).1
    have unique : (b.positions.values.map Position.ticket).Nodup := by
      rw [tickets]
      exact b.positions.nodup
    exact unique.sublist (List.filter_sublist.map _)

/-- On a tick without a spread, every exit keeps to its level. -/
theorem tick_exits_consistent {cfg : SimConfig σ}
    (exact : AddsNothingAtZeroSpread cfg.slippageFn) {b : SimBroker σ}
    (kept : b.BooksKept) {tick : Tick} (level : tick.ask = tick.bid)
    {pos : Position} {pnl : ℚ} {accountId : AccountId} {closePrice : ℚ}
    (closed : Event.positionClosed pos pnl accountId closePrice ∈
      tickExits cfg b tick) :
    ConsistentExit cfg (b.advanceClock tick.time) pos tick.bid tick.bid
      closePrice pnl := by
  unfold tickExits at closed
  rw [level] at closed
  dsimp only at closed
  have quoted : ((b.advanceClock tick.time).setMarketTick tick.symbol tick.bid
      tick.bid).BooksKept := kept.congr rfl rfl rfl rfl
  rcases quoted.listed tick.symbol fun pos =>
    SimBroker.stopReached pos (SimBroker.exitQuote pos tick.bid tick.bid)
        (SimBroker.exitQuote pos tick.bid tick.bid) ||
      SimBroker.targetReached pos (SimBroker.exitQuote pos tick.bid tick.bid)
        (SimBroker.exitQuote pos tick.bid tick.bid) with ⟨stored, unique⟩
  have priced : ((b.advanceClock tick.time).setMarketTick tick.symbol tick.bid
      tick.bid).PricedAt tick.symbol tick.bid :=
    ⟨Dict.get?_set_self _ _ _, Dict.get?_set_self _ _ _,
      Dict.get?_set_self _ _ _⟩
  have closes := (SimBroker.closeListed_closes exact pos pnl accountId
    closePrice _ _ stored unique priced).mp closed
  rcases closes with ⟨-, rfl, -, rfl⟩
  exact (keepsToLevel_self pos tick.bid).consistent

/-! ### Bar mode -/

/-- What the exits of a bar publish. -/
def barExits (cfg : SimConfig σ) (b : SimBroker σ) (bar : Bar) : List Event :=
  let quoted := (b.advanceClock bar.time).setMarket bar.symbol bar.close
  (quoted.closeListed cfg (quoted.checkSlTp bar.symbol bar.high bar.low)).2

/-- They are what the replay publishes when it exits stops. -/
theorem exitStops_events (cfg : SimConfig σ) (s : ReplayState σ) (bar : Bar) :
    ((s.quote bar).exitStops cfg bar).events =
      s.events ++ barExits cfg s.broker bar := rfl

def BarExitsConsistent (cfg : SimConfig σ) (b : SimBroker σ) (bar : Bar) :
    Prop :=
  ∀ pos pnl accountId closePrice,
    Event.positionClosed pos pnl accountId closePrice ∈ barExits cfg b bar →
      ConsistentExit cfg (b.advanceClock bar.time) pos bar.high bar.low
        closePrice pnl

/-- For every position on the bar's symbol, the bar closes at or beyond the level
at which it is left. -/
def CloseConfirms (b : SimBroker σ) (bar : Bar) : Prop :=
  ∀ pos ∈ b.getPositions, pos.symbol = bar.symbol →
    KeepsToLevel pos bar.high bar.low bar.close

/-- Exactly the positions whose stop or target the bar reaches are closed, at the
bar's close. -/
theorem barExits_closes {cfg : SimConfig σ}
    (exact : AddsNothingAtZeroSpread cfg.slippageFn) {b : SimBroker σ}
    (kept : b.BooksKept) (bar : Bar) (pos : Position) (pnl : ℚ)
    (accountId : AccountId) (closePrice : ℚ) :
    Event.positionClosed pos pnl accountId closePrice ∈ barExits cfg b bar ↔
      (pos ∈ b.getPositions ∧ pos.symbol = bar.symbol ∧
        (SimBroker.stopReached pos bar.high bar.low ||
          SimBroker.targetReached pos bar.high bar.low) = true) ∧
      pnl = ((b.advanceClock bar.time).settle cfg pos pos.volume
        bar.close).1.pnl ∧ accountId = b.accountId ∧ closePrice = bar.close := by
  have quoted : ((b.advanceClock bar.time).setMarket bar.symbol
      bar.close).BooksKept := kept.congr rfl rfl rfl rfl
  rcases quoted.listed bar.symbol fun pos =>
    SimBroker.stopReached pos bar.high bar.low ||
      SimBroker.targetReached pos bar.high bar.low with ⟨stored, unique⟩
  have closes := SimBroker.closeListed_closes exact pos pnl accountId closePrice
    _ _ stored unique (SimBroker.setMarket_pricedAt _ bar.symbol bar.close)
  have listed : pos ∈ ((b.advanceClock bar.time).setMarket bar.symbol
      bar.close).positions.values.filter (fun pos =>
        decide (pos.symbol = bar.symbol) &&
          (SimBroker.stopReached pos bar.high bar.low ||
            SimBroker.targetReached pos bar.high bar.low)) ↔
      pos ∈ b.getPositions ∧ pos.symbol = bar.symbol ∧
        (SimBroker.stopReached pos bar.high bar.low ||
          SimBroker.targetReached pos bar.high bar.low) = true := by
    rw [List.mem_filter, Bool.and_eq_true, decide_eq_true_eq]
    exact Iff.rfl
  rw [listed] at closes
  exact closes

/-- The exits of a bar are consistent exactly when its close confirms them. -/
theorem barExits_consistent_iff {cfg : SimConfig σ}
    (exact : AddsNothingAtZeroSpread cfg.slippageFn) {b : SimBroker σ}
    (kept : b.BooksKept) (bar : Bar) :
    BarExitsConsistent cfg b bar ↔ CloseConfirms b bar := by
  constructor
  · intro consistent pos member symbol
    cases reached : SimBroker.stopReached pos bar.high bar.low ||
        SimBroker.targetReached pos bar.high bar.low with
    | true =>
        have closed := (barExits_closes exact kept bar pos _ _ _).mpr
          ⟨⟨member, symbol, reached⟩, rfl, rfl, rfl⟩
        exact (consistent pos _ _ _ closed).1
    | false =>
        rcases Bool.or_eq_false_iff.mp reached with ⟨noStop, noTarget⟩
        constructor
        · intro stopped
          rw [noStop] at stopped
          cases stopped
        · intro _ target
          rw [noTarget] at target
          cases target
  · intro confirms pos pnl accountId closePrice closed
    rcases (barExits_closes exact kept bar pos pnl accountId closePrice).mp
      closed with ⟨⟨member, symbol, -⟩, rfl, -, rfl⟩
    exact (confirms pos member symbol).consistent

/-! ### Along a replay -/

namespace ReplayState

variable (cfg : SimConfig σ) {s : ReplayState σ}

theorem react_kept (kept : s.broker.BooksKept) (reaction : Reaction σ) :
    (s.react cfg reaction).broker.BooksKept := by
  unfold react
  generalize reaction s.events s.broker = calls
  induction calls generalizing s with
  | nil => exact kept
  | cons first rest ih =>
      exact ih (kept.moves
        (SimBroker.perform_moves cfg s.broker first.op).widen)

theorem takeUp_kept (kept : s.broker.BooksKept) (bar : Bar) :
    (s.takeUp cfg bar).1.broker.BooksKept := by
  have closing : ∀ (listed : List Position) (b : SimBroker σ), b.BooksKept →
      (b.closeListed cfg listed).1.BooksKept := by
    intro listed
    induction listed with
    | nil => exact fun b kept => kept
    | cons pos rest ih =>
        intro b kept
        exact ih _ (kept.moves
          (SimBroker.closePosition_moves cfg b pos.ticket none).widen)
  have quoted : (s.quote bar).broker.BooksKept := kept.congr rfl rfl rfl rfl
  have exited : ((s.quote bar).exitStops cfg bar).broker.BooksKept :=
    closing _ _ quoted
  exact exited.moves
    (SimBroker.checkPendingBar_moves cfg _ bar.symbol bar.high bar.low).widen

end ReplayState

/-- The books stay well kept throughout a replay. -/
theorem replayLoop_kept (cfg : SimConfig σ) (reaction : Reaction σ) :
    ∀ (bars : List Bar) (s : ReplayState σ), s.broker.BooksKept →
      (replayLoop cfg reaction bars s).1.broker.BooksKept
  | [], _, kept => kept
  | bar :: bars, s, kept => by
      have waited := ReplayState.react_kept cfg kept reaction
      have taken := ReplayState.takeUp_kept cfg waited bar
      unfold replayLoop
      dsimp only
      split
      · exact waited
      · split
        · exact taken
        · apply replayLoop_kept cfg reaction bars
          have delivered : (((s.react cfg reaction).takeUp cfg bar).1.deliver
              bar).broker.BooksKept := taken
          exact ReplayState.react_kept cfg delivered reaction

/-- The broker as a replay from a fresh one finds it after some bars. -/
def brokerAfter (cfg : SimConfig σ) (reaction : Reaction σ) (initialBalance : ℚ)
    (slippage : σ) (start : Time) (earlier : List Bar) : SimBroker σ :=
  ((replayLoop cfg reaction earlier
    (.start start (.create initialBalance slippage start))).1.react cfg
      reaction).broker

/-- With a model that adds nothing at zero spread, whatever the strategies did
before, the exits of the next bar keep to their levels if and only if the bar
closes at or beyond the level of every position it exits. -/
theorem bar_exits_consistent_iff {cfg : SimConfig σ}
    (exact : AddsNothingAtZeroSpread cfg.slippageFn) (reaction : Reaction σ)
    (initialBalance : ℚ) (slippage : σ) (start : Time) (earlier : List Bar)
    (bar : Bar) :
    BarExitsConsistent cfg
        (brokerAfter cfg reaction initialBalance slippage start earlier) bar ↔
      CloseConfirms
        (brokerAfter cfg reaction initialBalance slippage start earlier) bar := by
  apply barExits_consistent_iff exact
  apply ReplayState.react_kept
  apply replayLoop_kept
  exact SimBroker.booksKept_create initialBalance slippage start

/-! ### A bar that recovers -/

/-- A bar that opens at 2, falls to 1 and closes at a given price. -/
def dippingBar (close : ℚ) (above : 1 ≤ close) (below : close ≤ 2) : Bar where
  symbol := "EURUSD"
  timeframe := .m1
  time := Time.usPerMinute
  openPrice := 2
  high := 2
  low := 1
  close := close
  tickVolume := 3
  low_pos := one_quote_pos
  low_le_open := by norm_num
  open_le_high := le_rfl
  low_le_close := above
  close_le_high := below

/-- The bar at whose close the position is opened. -/
def entryBar : Bar where
  symbol := "EURUSD"
  timeframe := .m1
  time := 0
  openPrice := 2
  high := 2
  low := 2
  close := 2
  tickVolume := 1
  low_pos := two_quote_pos
  low_le_open := le_rfl
  open_le_high := le_rfl
  low_le_close := le_rfl
  close_le_high := le_rfl

/-- A buy with its stop at 1.5. -/
def guardedBuy : OrderRequest where
  strategyId := "trend"
  symbol := "EURUSD"
  side := .buy
  type := .market
  volume := 1
  price := none
  sl := some (3 / 2)
  tp := none
  comment := ""
  magic := 0
  clientOrderId := "a"
  volume_pos := one_quote_pos

/-- Buy once, on the first bar. -/
def buyOnce : Reaction Unit := fun events _ =>
  match events with
  | [.bar _] => [.placeOrder guardedBuy]
  | _ => []

def afterEntry : SimBroker Unit := brokerAfter .plain buyOnce 1000 () 0 [entryBar]

theorem afterEntry_positions :
    afterEntry.getPositions.map (fun pos => (pos.side, pos.sl, pos.tp)) =
      [(.buy, some (3 / 2), none)] := by
  decide +kernel

/-- Where the bar closes at its low, the stop-out keeps to the stop. -/
theorem falling_bar_keeps_to_stop :
    BarExitsConsistent .plain
      (brokerAfter .plain buyOnce 1000 () 0 [entryBar])
      (dippingBar 1 (by norm_num) (by norm_num)) := by
  refine (bar_exits_consistent_iff spreadModel_addsNothing buyOnce 1000 () 0
    [entryBar] (dippingBar 1 (by norm_num) (by norm_num))).mpr ?_
  intro pos member _
  have figures := List.mem_map_of_mem (f := fun pos : Position =>
    (pos.side, pos.sl, pos.tp)) member
  have known : (pos.side, pos.sl, pos.tp) = (.buy, some (3 / 2), none) :=
    List.mem_singleton.mp (afterEntry_positions ▸ figures)
  rcases Prod.mk.inj known with ⟨side, levels⟩
  rcases Prod.mk.inj levels with ⟨sl, tp⟩
  constructor
  · intro _ level stored
    rw [sl, Option.mem_some] at stored
    rw [side, ← stored]
    change (1 : ℚ) ≤ 3 / 2
    norm_num
  · intro _ _ level stored
    rw [tp] at stored
    cases stored

/-- Not every stop-out keeps to its stop: a bar that falls through the stop and
recovers leaves the position at its close, above the stop. -/
theorem recovered_bar_beats_stop :
    ¬ ∀ (cfg : SimConfig Unit) (reaction : Reaction Unit) (initialBalance : ℚ)
        (start : Time) (earlier : List Bar) (bar : Bar),
        AddsNothingAtZeroSpread cfg.slippageFn →
        BarExitsConsistent cfg
          (brokerAfter cfg reaction initialBalance () start earlier) bar := by
  intro claim
  have consistent := claim .plain buyOnce 1000 0 [entryBar]
    (dippingBar 2 (by norm_num) le_rfl) spreadModel_addsNothing
  have closed :
      ((barExits .plain afterEntry (dippingBar 2 (by norm_num) le_rfl)).map
        fun event => match event with
          | .positionClosed pos _ _ closePrice =>
              some (pos.side, pos.sl, closePrice)
          | _ => none) = [some (.buy, some (3 / 2), 2), none] := by
    decide +kernel
  rcases List.map_eq_cons_iff.mp closed with ⟨event, rest, events, shape, -⟩
  have published : event ∈
      barExits .plain afterEntry (dippingBar 2 (by norm_num) le_rfl) := by
    rw [events]
    exact List.mem_cons_self
  cases event with
  | positionClosed pos pnl accountId closePrice =>
      rcases Prod.mk.inj (Option.some.inj shape) with ⟨side, levels⟩
      rcases Prod.mk.inj levels with ⟨sl, price⟩
      have exit := consistent pos pnl accountId closePrice published
      have reached : SimBroker.stopReached pos 2 1 = true := by
        unfold SimBroker.stopReached
        rw [side, sl]
        exact decide_eq_true (by norm_num : (1 : ℚ) ≤ 3 / 2)
      have beyond := exit.1.1 reached (3 / 2) sl
      rw [side, price] at beyond
      have above : (2 : ℚ) ≤ 3 / 2 := beyond
      norm_num at above
  | _ => cases shape

end StingerFx
