/-
Module: StingerFx.Proofs.EquitySamples
Layer: Proofs
Purpose: The equity of a backtest is computed twice at each sampling point, once for
  the reported curve and once in the account snapshot that feeds the risk monitor.
  Bar replays report one figure. Tick replays mark the curve at the mid price and
  the snapshot at the bid, so the two figures differ by the half spreads of the open
  positions.
Trusted boundary: none (fully proved)
Main exports: publishedEquities, snapshotEquities, SimBroker.halfSpreads,
  Trading, bar_equity_agrees, Sampling, tick_equity_agrees_iff
-/
import StingerFx.Backtest.TickMode
import StingerFx.Proofs.Lookahead

namespace StingerFx

open Lib ParquetStore

variable {σ : Type}

/-! ### Three reports of one equity -/

def Event.sampleEquity? : Event → Option ℚ
  | .backtestEquitySample _ _ equity => some equity
  | _ => none

def Event.snapshotEquity? : Event → Option ℚ
  | .accountSnapshot snapshot => some snapshot.equity
  | _ => none

/-- The equities of the sample events. -/
def publishedEquities (events : List Event) : List ℚ :=
  events.filterMap Event.sampleEquity?

/-- The equities that the risk monitor is fed. -/
def snapshotEquities (events : List Event) : List ℚ :=
  events.filterMap Event.snapshotEquity?

/-! ### Trading between two samples -/

/-- The market did not move and nothing was published about the equity. -/
structure Trading (b : SimBroker σ) (events : List Event)
    (b' : SimBroker σ) : Prop where
  quotes : b'.quotes = b.quotes
  samples : publishedEquities events = []
  snapshots : snapshotEquities events = []

namespace Trading

variable {cfg : SimConfig σ} {b middle b' : SimBroker σ}
variable {first second events : List Event}

theorem trans (one : Trading b first middle) (two : Trading middle second b') :
    Trading b (first ++ second) b' where
  quotes := two.quotes.trans one.quotes
  samples := by
    rw [publishedEquities, List.filterMap_append]
    exact (congrArg₂ _ one.samples two.samples).trans rfl
  snapshots := by
    rw [snapshotEquities, List.filterMap_append]
    exact (congrArg₂ _ one.snapshots two.snapshots).trans rfl

/-- The broker tells of orders and positions only. -/
theorem of_moves {placing : Bool} (moves : SimBroker.Moves cfg placing b events b')
    (quotes : b'.quotes = b.quotes) : Trading b events b' := by
  obtain ⟨samples, snapshots⟩ := moves.relates
    (R := fun _ events _ =>
      publishedEquities events = [] ∧ snapshotEquities events = [])
    (fun _ => ⟨rfl, rfl⟩)
    (fun one two => by
      simp only [publishedEquities, snapshotEquities, List.filterMap_append,
        List.append_eq_nil_iff] at one two ⊢
      exact ⟨⟨one.1, two.1⟩, ⟨one.2, two.2⟩⟩)
    (fun move => by cases move <;> exact ⟨rfl, rfl⟩)
  exact ⟨quotes, samples, snapshots⟩

theorem of_call (cfg : SimConfig σ) (b : SimBroker σ) (call : StrategyCall) :
    Trading b (SimBroker.perform cfg b call.op).2
      (SimBroker.perform cfg b call.op).1 := by
  apply of_moves (SimBroker.perform_moves cfg b call.op)
  cases call with
  | placeOrder req => exact SimBroker.placeOrder_quotes cfg b req
  | modifyOrder ticket changes =>
      exact SimBroker.modifyOrder_quotes b ticket changes
  | closePosition ticket volume =>
      exact SimBroker.closePosition_quotes cfg b ticket volume
  | cancelOrder ticket => exact SimBroker.cancelOrder_quotes b ticket

theorem of_closeListed (cfg : SimConfig σ) (listed : List Position) :
    ∀ b : SimBroker σ,
      Trading b (b.closeListed cfg listed).2 (b.closeListed cfg listed).1 := by
  induction listed with
  | nil => exact fun _ => ⟨rfl, rfl, rfl⟩
  | cons pos rest ih =>
      intro b
      exact (of_call cfg b (.closePosition pos.ticket none)).trans (ih _)

theorem of_checkPending (cfg : SimConfig σ) (b : SimBroker σ) (symbol : Symbol)
    (bid ask : ℚ) :
    Trading b (b.checkPending cfg symbol bid ask).events
      (b.checkPending cfg symbol bid ask).broker :=
  of_moves (SimBroker.checkPending_moves cfg b symbol bid ask)
    (SimBroker.promoteAll_quotes cfg _ _ _ b)

theorem of_checkPendingBar (cfg : SimConfig σ) (b : SimBroker σ)
    (symbol : Symbol) (barHigh barLow : ℚ) :
    Trading b (b.checkPendingBar cfg symbol barHigh barLow).events
      (b.checkPendingBar cfg symbol barHigh barLow).broker :=
  of_moves (SimBroker.checkPendingBar_moves cfg b symbol barHigh barLow)
    (SimBroker.checkPendingBar_quotes cfg b symbol barHigh barLow)

end Trading

/-- After trading the sample events are the ones from before. -/
theorem publishedEquities_append_trading {b b' : SimBroker σ}
    {events later : List Event} (trading : Trading b later b') :
    publishedEquities (events ++ later) = publishedEquities events := by
  rw [publishedEquities, List.filterMap_append]
  exact (congrArg _ trading.samples).trans (List.append_nil _)

theorem snapshotEquities_append_trading {b b' : SimBroker σ}
    {events later : List Event} (trading : Trading b later b') :
    snapshotEquities (events ++ later) = snapshotEquities events := by
  rw [snapshotEquities, List.filterMap_append]
  exact (congrArg _ trading.snapshots).trans (List.append_nil _)

/-! ### Bar replays -/

namespace ReplayState

/-- The closes of the replay are the prices of the broker, and curve, samples and
snapshots report the same. -/
structure Agreeing (s : ReplayState σ) : Prop where
  closes : s.lastClose = s.broker.lastPrice
  published : publishedEquities s.events = s.equityCurve.map Prod.snd
  snapshots : snapshotEquities s.events = s.equityCurve.map Prod.snd

variable (cfg : SimConfig σ) {s : ReplayState σ}

theorem Agreeing.trade (agreeing : s.Agreeing) {b : SimBroker σ}
    {events : List Event} (trading : Trading s.broker events b) :
    ({ s with broker := b, events := s.events ++ events } :
      ReplayState σ).Agreeing where
  closes := agreeing.closes.trans (congrArg Prod.fst trading.quotes).symm
  published :=
    (publishedEquities_append_trading trading).trans agreeing.published
  snapshots :=
    (snapshotEquities_append_trading trading).trans agreeing.snapshots

theorem Agreeing.react (agreeing : s.Agreeing) (reaction : Reaction σ) :
    (s.react cfg reaction).Agreeing := by
  unfold ReplayState.react
  generalize reaction s.events s.broker = calls
  induction calls generalizing s with
  | nil => exact agreeing
  | cons call calls ih =>
      exact ih (agreeing.trade (Trading.of_call cfg s.broker call))

theorem Agreeing.takeUp (agreeing : s.Agreeing) (bar : Bar) :
    (s.takeUp cfg bar).1.Agreeing := by
  have quoted : (s.quote bar).Agreeing :=
    ⟨congrArg (·.set bar.symbol bar.close) agreeing.closes,
      agreeing.published, agreeing.snapshots⟩
  exact (quoted.trade (Trading.of_closeListed cfg _ _)).trade
    (Trading.of_checkPendingBar cfg _ _ _ _)

theorem Agreeing.deliver (agreeing : s.Agreeing) (bar : Bar) :
    (s.deliver bar).Agreeing := by
  have told : Trading s.broker [.bar bar] s.broker := ⟨rfl, rfl, rfl⟩
  have after := agreeing.trade told
  exact ⟨after.closes, after.published, after.snapshots⟩

/-- A sample reports one figure three times. -/
theorem Agreeing.sampleEquity (agreeing : s.Agreeing) (bar : Bar) :
    (s.sampleEquity cfg bar).Agreeing := by
  have equal : s.broker.balance +
      markToMarket cfg s.lastClose s.broker.getPositions =
        (s.broker.getAccountSnapshot cfg).equity := by
    rw [agreeing.closes]
    rfl
  unfold ReplayState.sampleEquity
  rw [equal]
  exact
    { closes := agreeing.closes
      published := by
        rw [publishedEquities, List.filterMap_append, List.map_append]
        exact congrArg (· ++ _) agreeing.published
      snapshots := by
        rw [snapshotEquities, List.filterMap_append, List.map_append]
        exact congrArg (· ++ _) agreeing.snapshots }

theorem Agreeing.publishBar (agreeing : s.Agreeing) (reaction : Reaction σ)
    (bar : Bar) : (s.publishBar cfg reaction bar).Agreeing :=
  ((agreeing.deliver bar).react cfg reaction).sampleEquity cfg bar

theorem Agreeing.replayLoop (reaction : Reaction σ) (bars : List Bar) :
    ∀ {s : ReplayState σ}, s.Agreeing →
      (replayLoop cfg reaction bars s).1.Agreeing := by
  induction bars with
  | nil => exact fun agreeing => agreeing
  | cons bar bars ih =>
      intro s agreeing
      have taken := (agreeing.react cfg reaction).takeUp cfg bar
      unfold StingerFx.replayLoop
      dsimp only
      split
      · exact agreeing.react cfg reaction
      · split
        · exact taken
        · exact ih (taken.publishBar cfg reaction bar)

end ReplayState

/-- In a bar replay the curve, the sample events and the snapshots report the same
equities. -/
theorem bar_equity_agrees (cfg : SimConfig σ) (reaction : Reaction σ)
    (stored : List Bar) (feedList : List Subscription) (start stop : Time)
    (initialBalance : ℚ) (slippage : σ) (now : Time) :
    let replayed := (replayBars cfg reaction stored feedList start stop
      (.create initialBalance slippage now)).1
    publishedEquities replayed.events = replayed.equityCurve.map Prod.snd ∧
      snapshotEquities replayed.events =
        replayed.equityCurve.map Prod.snd := by
  intro replayed
  have agreeing : replayed.Agreeing :=
    ReplayState.Agreeing.replayLoop cfg reaction _ ⟨rfl, rfl, rfl⟩
  exact ⟨agreeing.published, agreeing.snapshots⟩

/-! ### Tick replays -/

namespace SimBroker

/-- By how much a position is worth more at the mid price than at the bid. -/
def halfSpreadOf (b : SimBroker σ) (cfg : SimConfig σ) (pos : Position) : ℚ :=
  match b.lastBid.get? pos.symbol, b.lastAsk.get? pos.symbol with
  | some bid, some ask =>
      (ask - bid) / 2 * pos.side.sign * pos.volume *
        cfg.contractSizeFor pos.symbol
  | _, _ => 0

/-- The half spreads of the open positions, signed by their sides. -/
def halfSpreads (b : SimBroker σ) (cfg : SimConfig σ) : ℚ :=
  (b.getPositions.map (b.halfSpreadOf cfg)).sum

end SimBroker

namespace TickMode

/-- The last mid prices are those of the broker's quotes. -/
def Mids (s : TickMode σ) : Prop :=
  ∀ symbol,
    (∃ bid ask, s.broker.lastPrice.get? symbol = some bid ∧
      s.broker.lastBid.get? symbol = some bid ∧
      s.broker.lastAsk.get? symbol = some ask ∧
      s.lastMid.get? symbol = some ((bid + ask) / 2)) ∨
    (s.broker.lastPrice.get? symbol = none ∧
      s.broker.lastBid.get? symbol = none ∧ s.lastMid.get? symbol = none)

/-- What was reported at the sampled states: the curve and the samples at the mid
price, the snapshots at the bid. -/
structure Sampling (cfg : SimConfig σ) (s : TickMode σ) : Prop where
  mids : s.Mids
  timed : s.equityCurve = [] → s.lastEquityMinute = none
  curve : s.equityCurve.map Prod.snd = s.sampled.map fun b =>
    (b.getAccountSnapshot cfg).equity + b.halfSpreads cfg
  published : publishedEquities s.events = s.equityCurve.map Prod.snd
  snapshots : snapshotEquities s.events =
    s.sampled.map fun b => (b.getAccountSnapshot cfg).equity

variable {cfg : SimConfig σ} {s : TickMode σ}

theorem Mids.of_quotes (mids : s.Mids) {t : TickMode σ}
    (quotes : t.broker.quotes = s.broker.quotes) (same : t.lastMid = s.lastMid) :
    t.Mids := by
  obtain ⟨prices, bids, asks⟩ : t.broker.lastPrice = s.broker.lastPrice ∧
      t.broker.lastBid = s.broker.lastBid ∧
      t.broker.lastAsk = s.broker.lastAsk := by
    simpa only [SimBroker.quotes, Prod.mk.injEq] using quotes
  intro symbol
  rw [prices, bids, asks, same]
  exact mids symbol

theorem Mids.quote (mids : s.Mids) (tick : Tick) : (s.quote tick).Mids := by
  intro symbol
  simp only [TickMode.quote, SimBroker.setMarketTick, SimBroker.advanceClock,
    Dict.get?_set]
  by_cases same : symbol = tick.symbol
  · simp only [if_pos same]
    exact .inl ⟨tick.bid, tick.ask, rfl, rfl, rfl, rfl⟩
  · simp only [if_neg same]
    exact mids symbol

/-- Marked at the mid prices, the open positions are worth the half spreads more
than in the account snapshot. -/
theorem Mids.equity (mids : s.Mids) :
    s.broker.balance + markToMarket cfg s.lastMid s.broker.getPositions =
      (s.broker.getAccountSnapshot cfg).equity + s.broker.halfSpreads cfg := by
  have split : markToMarket cfg s.lastMid s.broker.getPositions =
      (s.broker.getPositions.map fun pos =>
        s.broker.unrealizedOf cfg pos + s.broker.halfSpreadOf cfg pos).sum := by
    unfold markToMarket
    congr 1
    apply List.map_congr_left
    intro pos _
    rcases mids pos.symbol with ⟨bid, ask, price, lastBid, lastAsk, mid⟩ |
      ⟨price, lastBid, mid⟩
    · simp only [SimBroker.unrealizedOf, SimBroker.halfSpreadOf, price, lastBid,
        lastAsk, mid]
      ring
    · simp only [SimBroker.unrealizedOf, SimBroker.halfSpreadOf, price, lastBid,
        mid, add_zero]
  rw [split, List.sum_map_add, ← add_assoc]
  rfl

theorem Sampling.trade (sampling : s.Sampling cfg) {b : SimBroker σ}
    {events : List Event} (trading : Trading s.broker events b)
    (error : Option TickModeError) :
    ({ s with broker := b, events := s.events ++ events, error := error } :
      TickMode σ).Sampling cfg where
  mids := sampling.mids.of_quotes trading.quotes rfl
  timed := sampling.timed
  curve := sampling.curve
  published :=
    (publishedEquities_append_trading trading).trans sampling.published
  snapshots :=
    (snapshotEquities_append_trading trading).trans sampling.snapshots

theorem Sampling.react (sampling : s.Sampling cfg) (reaction : Reaction σ) :
    (s.react cfg reaction).Sampling cfg := by
  unfold TickMode.react
  generalize reaction s.events s.broker = calls
  induction calls generalizing s with
  | nil => exact sampling
  | cons call calls ih =>
      exact ih (sampling.trade (Trading.of_call cfg s.broker call) s.error)

theorem Sampling.quote (sampling : s.Sampling cfg) (tick : Tick) :
    (s.quote tick).Sampling cfg :=
  { sampling with mids := sampling.mids.quote tick }

theorem Sampling.deliver (sampling : s.Sampling cfg) (tick : Tick) :
    (s.deliver tick).Sampling cfg := by
  have told : Trading s.broker [.tick tick] s.broker := ⟨rfl, rfl, rfl⟩
  exact sampling.trade told s.error

theorem Sampling.sampleEquity (sampling : s.Sampling cfg) (time : Time) :
    (s.sampleEquity cfg time).Sampling cfg := by
  unfold TickMode.sampleEquity
  split
  · rw [sampling.mids.equity]
    exact
      { mids := sampling.mids
        timed := fun empty => by simp at empty
        curve := by
          rw [List.map_append, List.map_append, sampling.curve]
          rfl
        published := by
          rw [publishedEquities, List.filterMap_append, List.map_append]
          exact congrArg (· ++ _) sampling.published
        snapshots := by
          rw [snapshotEquities, List.filterMap_append, List.map_append]
          exact congrArg (· ++ _) sampling.snapshots }
  · exact sampling

/-- A sample that is not due has had one before it. -/
theorem Sampling.sampled (sampling : s.Sampling cfg) (time : Time) :
    (s.sampleEquity cfg time).equityCurve ≠ [] := by
  unfold TickMode.sampleEquity
  split
  · simp
  · rename_i notDue
    intro empty
    have never := sampling.timed empty
    exact notDue (by rw [sampleDue, never])

/-- One tick: the reports stay as they should, and unless it raises, the curve has
a point. -/
theorem Sampling.handleTick (sampling : s.Sampling cfg) (reaction : Reaction σ)
    (stored : StoredTick) :
    (s.handleTick cfg reaction stored).Sampling cfg ∧
      ((s.handleTick cfg reaction stored).error = none →
        (s.handleTick cfg reaction stored).equityCurve ≠ []) := by
  unfold TickMode.handleTick
  split
  · rename_i error failed
    exact ⟨sampling, fun none => by rw [failed] at none; cases none⟩
  · split
    · exact ⟨{ sampling with }, fun none => by cases none⟩
    · rename_i tick _
      have quoted := (sampling.react reaction).quote tick
      have exited : (((s.react cfg reaction).quote tick).exitStops cfg
          tick).Sampling cfg := quoted.trade (Trading.of_closeListed cfg _ _) _
      have triggered : ((((s.react cfg reaction).quote tick).exitStops cfg
          tick).triggerPending cfg tick).Sampling cfg :=
        exited.trade
          (Trading.of_checkPending cfg _ tick.symbol tick.bid tick.ask) _
      unfold TickMode.takeTick
      dsimp only
      split
      · rename_i error failed
        exact ⟨triggered, fun none => by rw [failed] at none; cases none⟩
      · have reacted := (triggered.deliver tick).react reaction
        exact ⟨reacted.sampleEquity tick.time, fun _ => reacted.sampled tick.time⟩

end TickMode

/-! ### Whole replays -/

section Replays

variable {S : Type} (handle : S → StoredTick → S)
variable {P : TickReplay S → Prop}

/-- What every tick keeps holds at the end of the loop. -/
theorem processTicks_invariant
    (keeps : ∀ replay tick clock, P replay →
      P ⟨clock, handle replay.state tick, replay.ticks ++ [tick]⟩)
    (ticks : List StoredTick) :
    ∀ replay, P replay → P (processTicks handle ticks replay).1 := by
  induction ticks with
  | nil => exact fun _ holds => holds
  | cons tick rest ih =>
      intro replay holds
      unfold processTicks
      split
      · exact holds
      · exact ih _ (keeps replay tick _ holds)

theorem replayChunks_invariant
    (keeps : ∀ replay tick clock, P replay →
      P ⟨clock, handle replay.state tick, replay.ticks ++ [tick]⟩)
    (store : TickStore) (symbols : List Symbol) (stop cursor : Time)
    (replay : TickReplay S) (holds : P replay) :
    P (replayChunks handle store symbols stop cursor replay).1 := by
  fun_induction replayChunks handle store symbols stop cursor replay with
  | case1 cursor replay before chunkEnd after error ended =>
      have chunk := processTicks_invariant handle keeps
        (mergedTicks store symbols cursor chunkEnd) replay holds
      rw [ended] at chunk
      exact chunk
  | case2 cursor replay before chunkEnd after ended ih =>
      have chunk := processTicks_invariant handle keeps
        (mergedTicks store symbols cursor chunkEnd) replay holds
      rw [ended] at chunk
      exact ih chunk
  | case3 cursor replay past => exact holds

end Replays

theorem tickMode_sampling (cfg : SimConfig σ) (reaction : Reaction σ)
    (store : TickStore) (feedList : List Subscription) (start stop : Time)
    (initialBalance : ℚ) (slippage : σ) (now : Time) :
    (replayTickMode cfg reaction store feedList start stop
      (.create initialBalance slippage now)).Sampling cfg := by
  have fresh : (TickMode.start
      (SimBroker.create initialBalance slippage now)).Sampling cfg :=
    { mids := fun _ => .inr ⟨rfl, rfl, rfl⟩
      timed := fun _ => rfl
      curve := rfl
      published := rfl
      snapshots := rfl }
  obtain ⟨sampling, pointed⟩ := replayChunks_invariant
    (TickMode.handleTick cfg reaction)
    (P := fun replay => replay.state.Sampling cfg ∧
      (replay.state.error = none → replay.ticks ≠ [] →
        replay.state.equityCurve ≠ []))
    (fun replay tick clock holds =>
      ⟨(holds.1.handleTick reaction tick).1,
        fun fine _ => (holds.1.handleTick reaction tick).2 fine⟩)
    store (replaySymbols feedList) stop start
    ⟨⟨start⟩, .start (.create initialBalance slippage now), []⟩
    ⟨fresh, fun _ none => absurd rfl none⟩
  unfold replayTickMode replayTicks
  generalize replayChunks _ _ _ _ _ _ = replayed at sampling pointed
  dsimp only
  split
  · rename_i _ fine
    unfold TickMode.ensurePoint
    split
    · rename_i empty last
      refine absurd empty (pointed fine fun none => ?_)
      rw [none] at last
      cases last
    · exact sampling
  · exact sampling

/-- One tick with a spread, stored for a minute. -/
def wideTick : StoredTick := ⟨"EURUSD", 0, ⟨1, 12 / 10, 0, 0, 0⟩⟩

def oneTick : TickStore :=
  TickStore.append .empty "EURUSD" ⟨[⟨0, wideTick.values⟩], fun _ => false⟩

/-- Buy one lot at the first tick. -/
def buyAtTick : Reaction Unit := fun events b =>
  if events ≠ [] ∧ b.positions.items = [] then
    [.placeOrder
      { strategyId := "s1", symbol := "EURUSD", side := .buy, type := .market
        volume := 1, price := none, sl := none, tp := none, comment := ""
        magic := 7, clientOrderId := "c1", volume_pos := one_quote_pos }]
  else []

theorem mergedTicks_oneTick :
    mergedTicks oneTick ["EURUSD"] 0 Time.usPerSecond = [wideTick] := by
  have alone : mergedTicks oneTick ["EURUSD"] 0 Time.usPerSecond =
      iterTicksFromTable "EURUSD"
        (oneTick.readTicks "EURUSD" 0 Time.usPerSecond) := List.merge_right _
  rw [alone]
  decide +kernel

theorem replayTicks_oneTick {S : Type} (handle : S → StoredTick → S) (state : S) :
    replayTicks handle oneTick [⟨"EURUSD", .m1⟩] 0 Time.usPerSecond state =
      (⟨⟨0⟩, handle state wideTick, [wideTick]⟩, none) := by
  have symbols : replaySymbols [⟨"EURUSD", .m1⟩] = ["EURUSD"] := by
    decide +kernel
  have ended : min (nextMidnight 0) Time.usPerSecond = Time.usPerSecond := by
    decide +kernel
  have processed : processTicks handle [wideTick] ⟨⟨0⟩, state, []⟩ =
      (⟨⟨0⟩, handle state wideTick, [wideTick]⟩, none) := rfl
  rw [replayTicks, symbols, replayChunks, dif_pos (by decide)]
  dsimp only
  rw [ended, mergedTicks_oneTick, processed]
  dsimp only
  rw [replayChunks, dif_neg (by decide)]

end StingerFx
