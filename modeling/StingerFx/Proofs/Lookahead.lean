/-
Module: StingerFx.Proofs.Lookahead
Layer: Proofs
Purpose: When the bar replay looks ahead. Feeds are merged by open time while a bar
  carries prices up to its close, so a long bar can reach the strategies before a
  shorter one that closes earlier. Exactly the feeds whose merge by open time is
  also a merge by close time are free of it.
Trusted boundary: none (fully proved)
Main exports: NoLookahead, MergesInCloseOrder, replay_no_lookahead_iff,
  one_timeframe_mergesInCloseOrder, hourly_bar_looks_ahead
-/
import StingerFx.Backtest.Replay
import StingerFx.Backtest.BrokerMoves

namespace StingerFx

open Lib

variable {σ : Type}

/-! ### What looking ahead means -/

/-- The broker has a price for a symbol, as a mark, a bid or an ask. -/
def SimBroker.Stores (b : SimBroker σ) (symbol : Symbol) (price : ℚ) : Prop :=
  b.lastPrice.get? symbol = some price ∨ b.lastBid.get? symbol = some price ∨
    b.lastAsk.get? symbol = some price

/-- When a bar is delivered, no bar delivered before it closes later, and every
stored price is the close of a delivered bar that does not close later. -/
def NoLookahead (deliveries : List (Delivery σ)) : Prop :=
  ∀ before delivery after, deliveries = before ++ delivery :: after →
    (∀ earlier ∈ before, earlier.bar.closeTime ≤ delivery.bar.closeTime) ∧
      ∀ symbol price, delivery.broker.Stores symbol price →
        ∃ source ∈ before ++ [delivery], source.bar.symbol = symbol ∧
          source.bar.close = price ∧
            source.bar.closeTime ≤ delivery.bar.closeTime

/-- Of any two bars of different feeds, the one that opens first, the earlier feed
winning ties, does not close later. -/
def MergesInCloseOrder (feeds : List (List Bar)) : Prop :=
  feeds.Pairwise (MergesAs Bar.time fun a b => a.closeTime ≤ b.closeTime)

/-! ### Stored prices -/

/-- The last close of every symbol. -/
def lastCloses (bars : List Bar) : Dict Symbol ℚ :=
  bars.foldl (fun closes bar => closes.set bar.symbol bar.close) .empty

theorem lastCloses_append (bars : List Bar) (bar : Bar) :
    lastCloses (bars ++ [bar]) = (lastCloses bars).set bar.symbol bar.close := by
  simp [lastCloses]

/-- A last close is the close of one of the bars. -/
theorem lastCloses_source {bars : List Bar} {symbol : Symbol} {price : ℚ}
    (stored : (lastCloses bars).get? symbol = some price) :
    ∃ bar ∈ bars, bar.symbol = symbol ∧ bar.close = price := by
  induction bars using List.reverseRecOn with
  | nil => cases stored
  | append_singleton bars bar ih =>
      rw [lastCloses_append, Dict.get?_set] at stored
      split at stored
      · rename_i same
        cases stored
        exact ⟨bar, List.mem_append_right _ List.mem_cons_self, same.symm, rfl⟩
      · rcases ih stored with ⟨source, member, found⟩
        exact ⟨source, List.mem_append_left _ member, found⟩

/-- All three price tables hold the last closes of some bars. -/
def SimBroker.QuotedBy (b : SimBroker σ) (bars : List Bar) : Prop :=
  b.quotes = (lastCloses bars, lastCloses bars, lastCloses bars)

theorem SimBroker.QuotedBy.source {b : SimBroker σ} {bars : List Bar}
    (quoted : b.QuotedBy bars) {symbol : Symbol} {price : ℚ}
    (stores : b.Stores symbol price) :
    ∃ bar ∈ bars, bar.symbol = symbol ∧ bar.close = price := by
  rcases Prod.mk.inj quoted with ⟨lastPrice, rest⟩
  rcases Prod.mk.inj rest with ⟨lastBid, lastAsk⟩
  unfold SimBroker.Stores at stores
  rw [lastPrice, lastBid, lastAsk] at stores
  rcases stores with stored | stored | stored <;> exact lastCloses_source stored

/-- Every delivery finds the last closes of what was delivered up to it. -/
def DeliveriesQuoted (deliveries : List (Delivery σ)) : Prop :=
  ∀ before delivery after, deliveries = before ++ delivery :: after →
    delivery.broker.QuotedBy ((before ++ [delivery]).map Delivery.bar)

theorem split_append_singleton {α : Type} {xs before after : List α} {x y : α}
    (whole : xs ++ [x] = before ++ y :: after) :
    (before = xs ∧ y = x) ∨
      ∃ earlier, after = earlier ++ [x] ∧ xs = before ++ y :: earlier := by
  rcases List.eq_nil_or_concat after with rfl | ⟨earlier, last, rfl⟩
  · rcases List.append_inj' whole rfl with ⟨same, singleton⟩
    exact .inl ⟨same.symm, (List.cons.inj singleton).1.symm⟩
  · rw [List.concat_eq_append] at whole ⊢
    rw [← List.cons_append, ← List.append_assoc] at whole
    rcases List.append_inj' whole rfl with ⟨same, singleton⟩
    refine .inr ⟨earlier, ?_, same⟩
    rw [(List.cons.inj singleton).1]

theorem DeliveriesQuoted.append {deliveries : List (Delivery σ)}
    (quoted : DeliveriesQuoted deliveries) {delivery : Delivery σ}
    (last : delivery.broker.QuotedBy
      ((deliveries ++ [delivery]).map Delivery.bar)) :
    DeliveriesQuoted (deliveries ++ [delivery]) := by
  intro before found after whole
  rcases split_append_singleton whole with ⟨rfl, rfl⟩ | ⟨earlier, -, old⟩
  · exact last
  · exact quoted before found earlier old

/-- With the stored prices accounted for, looking ahead is a matter of order. -/
theorem noLookahead_iff {deliveries : List (Delivery σ)}
    (quoted : DeliveriesQuoted deliveries) :
    NoLookahead deliveries ↔
      (deliveries.map Delivery.bar).Pairwise
        fun a b => a.closeTime ≤ b.closeTime := by
  rw [List.pairwise_map]
  constructor
  · intro clean
    clear quoted
    induction deliveries using List.reverseRecOn with
    | nil => exact List.Pairwise.nil
    | append_singleton deliveries delivery ih =>
        rw [List.pairwise_append]
        refine ⟨ih ?_, List.pairwise_singleton _ _, ?_⟩
        · intro before found after whole
          apply clean before found (after ++ [delivery])
          rw [whole, List.append_assoc, List.cons_append]
        · intro earlier member later last
          rw [List.mem_singleton.mp last]
          exact (clean deliveries delivery [] rfl).1 earlier member
  · intro ordered before delivery after whole
    rw [whole, List.pairwise_append] at ordered
    rcases ordered with ⟨-, -, across⟩
    have earlier : ∀ source ∈ before,
        source.bar.closeTime ≤ delivery.bar.closeTime :=
      fun source member => across source member delivery List.mem_cons_self
    refine ⟨earlier, ?_⟩
    intro symbol price stores
    rcases (quoted before delivery after whole).source stores with
      ⟨bar, member, sameSymbol, sameClose⟩
    rcases List.mem_map.mp member with ⟨source, inside, rfl⟩
    refine ⟨source, inside, sameSymbol, sameClose, ?_⟩
    rcases List.mem_append.mp inside with old | own
    · exact earlier source old
    · rw [List.mem_singleton.mp own]

/-! ### The loop -/

namespace ReplayState

variable (cfg : SimConfig σ) (s : ReplayState σ)

/-- Strategy calls move neither the clock, the market nor the deliveries. -/
theorem call_frame (strategyCall : StrategyCall) :
    (call cfg s strategyCall).clock = s.clock ∧
      (call cfg s strategyCall).broker.quotes = s.broker.quotes ∧
      (call cfg s strategyCall).deliveries = s.deliveries := by
  refine ⟨rfl, ?_, rfl⟩
  cases strategyCall with
  | placeOrder req => exact SimBroker.placeOrder_quotes cfg s.broker req
  | modifyOrder ticket changes =>
      exact SimBroker.modifyOrder_quotes s.broker ticket changes
  | closePosition ticket volume =>
      exact SimBroker.closePosition_quotes cfg s.broker ticket volume
  | cancelOrder ticket => exact SimBroker.cancelOrder_quotes s.broker ticket

theorem react_frame (reaction : Reaction σ) :
    (s.react cfg reaction).clock = s.clock ∧
      (s.react cfg reaction).broker.quotes = s.broker.quotes ∧
      (s.react cfg reaction).deliveries = s.deliveries := by
  unfold react
  generalize reaction s.events s.broker = calls
  induction calls generalizing s with
  | nil => exact ⟨rfl, rfl, rfl⟩
  | cons first rest ih =>
      rcases ih (call cfg s first) with ⟨clock, quotes, deliveries⟩
      rcases call_frame cfg s first with ⟨clock', quotes', deliveries'⟩
      rw [List.foldl_cons]
      exact ⟨clock.trans clock', quotes.trans quotes',
        deliveries.trans deliveries'⟩

end ReplayState

theorem SimBroker.closeListed_quotes (cfg : SimConfig σ) :
    ∀ (listed : List Position) (b : SimBroker σ),
      (b.closeListed cfg listed).1.quotes = b.quotes
  | [], _ => rfl
  | pos :: rest, b =>
      (closeListed_quotes cfg rest _).trans
        (closePosition_quotes cfg b pos.ticket none)

/-- Taking up a bar delivers nothing and leaves its close as the last one. -/
theorem ReplayState.takeUp_spec (cfg : SimConfig σ) (s : ReplayState σ)
    (bar : Bar) {bars : List Bar} (quoted : s.broker.QuotedBy bars) :
    (s.takeUp cfg bar).1.deliveries = s.deliveries ∧
      (s.takeUp cfg bar).1.broker.QuotedBy (bars ++ [bar]) := by
  refine ⟨rfl, ?_⟩
  have same : (s.takeUp cfg bar).1.broker.quotes = (s.quote bar).broker.quotes :=
    (SimBroker.checkPendingBar_quotes cfg _ _ _ _).trans
      (SimBroker.closeListed_quotes cfg _ _)
  rcases Prod.mk.inj quoted with ⟨lastPrice, rest⟩
  rcases Prod.mk.inj rest with ⟨lastBid, lastAsk⟩
  unfold SimBroker.QuotedBy
  rw [same, lastCloses_append]
  simp only [SimBroker.quotes, ReplayState.quote, SimBroker.setMarket,
    SimBroker.advanceClock, lastPrice, lastBid, lastAsk]

/-- Publishing a bar delivers it with the broker as it is. -/
theorem ReplayState.publishBar_spec (cfg : SimConfig σ) (reaction : Reaction σ)
    (s : ReplayState σ) (bar : Bar) :
    (s.publishBar cfg reaction bar).deliveries =
        s.deliveries ++ [⟨bar, s.broker⟩] ∧
      (s.publishBar cfg reaction bar).broker.quotes = s.broker.quotes := by
  rcases (s.deliver bar).react_frame cfg reaction with ⟨-, quotes, deliveries⟩
  exact ⟨deliveries, quotes⟩

/-- The deliveries account for the prices, up to the present ones. -/
structure Accounted (s : ReplayState σ) : Prop where
  quoted : DeliveriesQuoted s.deliveries
  current : s.broker.QuotedBy (s.deliveries.map Delivery.bar)

theorem Accounted.react {s : ReplayState σ} (accounted : Accounted s)
    (cfg : SimConfig σ) (reaction : Reaction σ) :
    Accounted (s.react cfg reaction) := by
  rcases s.react_frame cfg reaction with ⟨-, quotes, deliveries⟩
  constructor
  · rw [deliveries]
    exact accounted.quoted
  · rw [deliveries]
    exact quotes.trans accounted.current

theorem Accounted.publishBar {s : ReplayState σ} {bar : Bar}
    (quoted : DeliveriesQuoted s.deliveries)
    (market : s.broker.QuotedBy (s.deliveries.map Delivery.bar ++ [bar]))
    (cfg : SimConfig σ) (reaction : Reaction σ) :
    Accounted (s.publishBar cfg reaction bar) := by
  rcases s.publishBar_spec cfg reaction bar with ⟨deliveries, quotes⟩
  have bars : (s.deliveries ++ [(⟨bar, s.broker⟩ : Delivery σ)]).map
      Delivery.bar = s.deliveries.map Delivery.bar ++ [bar] := List.map_append
  constructor
  · rw [deliveries]
    apply quoted.append
    rw [bars]
    exact market
  · rw [deliveries, bars]
    exact quotes.trans market

/-- The loop delivers a first part of its bars, and all of them unless it ends
early; whatever it delivers finds the last closes. -/
theorem replayLoop_spec (cfg : SimConfig σ) (reaction : Reaction σ) :
    ∀ (bars : List Bar) (s : ReplayState σ), Accounted s →
      DeliveriesQuoted (replayLoop cfg reaction bars s).1.deliveries ∧
        ∃ delivered rest, bars = delivered ++ rest ∧
          (replayLoop cfg reaction bars s).1.deliveries.map Delivery.bar =
            s.deliveries.map Delivery.bar ++ delivered ∧
          ((replayLoop cfg reaction bars s).2 = none → rest = [])
  | [], _, accounted =>
      ⟨accounted.quoted, [], [], rfl, (List.append_nil _).symm, fun _ => rfl⟩
  | bar :: bars, s, accounted => by
      have waits := accounted.react cfg reaction
      rcases s.react_frame cfg reaction with ⟨-, -, unchanged⟩
      rcases ReplayState.takeUp_spec cfg (s.react cfg reaction) bar
        waits.current with ⟨kept, market⟩
      rw [unchanged] at kept market
      unfold replayLoop
      dsimp only
      split
      · refine ⟨waits.quoted, [], bar :: bars, rfl, ?_, fun done => by cases done⟩
        rw [unchanged, List.append_nil]
      · split
        · refine ⟨?_, [], bar :: bars, rfl, ?_, fun done => by cases done⟩
          · rw [kept]
            exact accounted.quoted
          · rw [kept, List.append_nil]
        · generalize (s.react cfg reaction).takeUp cfg bar = taken
            at kept market ⊢
          have quoted : DeliveriesQuoted taken.1.deliveries := by
            rw [kept]
            exact accounted.quoted
          rw [← kept] at market
          have next := Accounted.publishBar quoted market cfg reaction
          rcases replayLoop_spec cfg reaction bars _ next with
            ⟨quotedEnd, delivered, rest, split, names, complete⟩
          refine ⟨quotedEnd, bar :: delivered, rest, ?_, ?_, complete⟩
          · rw [split, List.cons_append]
          · rw [names, (taken.1.publishBar_spec cfg reaction bar).1, kept]
            simp

/-! ### A replay without strategies -/

/-- No position and no pending order. -/
def SimBroker.Flat (b : SimBroker σ) : Prop :=
  b.positions = .empty ∧ b.pending = .empty

def idle : Reaction σ := fun _ _ => []

theorem react_idle (s : ReplayState σ) (cfg : SimConfig σ) :
    s.react cfg idle = s := rfl

/-- Without positions and orders, a bar changes the market only. -/
theorem takeUp_flat (cfg : SimConfig σ) {s : ReplayState σ} (bar : Bar)
    (flat : s.broker.Flat) :
    (s.takeUp cfg bar).1.broker.Flat ∧ (s.takeUp cfg bar).2 = .ok [] ∧
      (s.takeUp cfg bar).1.clock = bar.time := by
  have positions : (s.quote bar).broker.positions = .empty := flat.1
  have pending : (s.quote bar).broker.pending = .empty := flat.2
  have nothing : (s.quote bar).broker.checkSlTp bar.symbol bar.high bar.low =
      [] := by
    unfold SimBroker.checkSlTp
    rw [positions]
    rfl
  have exited : ((s.quote bar).exitStops cfg bar).broker =
      (s.quote bar).broker := by
    unfold ReplayState.exitStops
    rw [nothing]
    rfl
  have checked : ((s.quote bar).exitStops cfg bar).broker.checkPendingBar cfg
      bar.symbol bar.high bar.low = (s.quote bar).broker.returns [] := by
    rw [exited]
    unfold SimBroker.checkPendingBar
    rw [pending]
    rfl
  unfold ReplayState.takeUp
  dsimp only
  rw [checked]
  exact ⟨⟨positions, pending⟩, rfl, rfl⟩

/-- Such a replay goes through, as long as time does not run backwards. -/
theorem replayLoop_idle (cfg : SimConfig σ) :
    ∀ (bars : List Bar) (s : ReplayState σ), s.broker.Flat →
      (∀ bar ∈ bars, s.clock ≤ bar.time) →
      bars.Pairwise (fun a b => a.time ≤ b.time) →
      (replayLoop cfg idle bars s).2 = none
  | [], _, _, _, _ => rfl
  | bar :: bars, s, flat, later, sorted => by
      rcases List.pairwise_cons.mp sorted with ⟨first, rest⟩
      rcases takeUp_flat cfg bar flat with ⟨flatNext, succeeds, clock⟩
      have forward : ¬ bar.time < s.clock :=
        not_lt.mpr (later bar List.mem_cons_self)
      unfold replayLoop
      dsimp only
      rw [react_idle, if_neg forward, succeeds]
      refine replayLoop_idle cfg bars
        ((s.takeUp cfg bar).1.publishBar cfg idle bar) flatNext ?_ rest
      intro other member
      have same : ((s.takeUp cfg bar).1.publishBar cfg idle bar).clock =
          bar.time := clock
      rw [same]
      exact first other member

/-! ### The feeds -/

theorem iterBars_sorted (stored : List Bar) (start stop : Time)
    (sub : Subscription) :
    (iterBars stored start stop sub).Pairwise (fun a b => a.time ≤ b.time) := by
  have total : Std.Total fun a b : Bar => a.time ≤ b.time :=
    ⟨fun a b => le_total a.time b.time⟩
  have transitive : IsTrans Bar fun a b => a.time ≤ b.time :=
    ⟨fun _ _ _ one two => le_trans one two⟩
  exact List.pairwise_insertionSort _ _

theorem mem_iterBars {stored : List Bar} {start stop : Time}
    {sub : Subscription} {bar : Bar} :
    bar ∈ iterBars stored start stop sub ↔
      bar ∈ stored ∧ bar.symbol = sub.symbol ∧
        bar.timeframe = sub.timeframe ∧ start ≤ bar.time ∧ bar.time < stop := by
  simp [iterBars, List.mem_insertionSort]

/-- Bars of one timeframe close in the order in which they open. -/
theorem closeTime_le {a b : Bar} (sameFrame : a.timeframe = b.timeframe)
    (opens : a.time ≤ b.time) : a.closeTime ≤ b.closeTime := by
  unfold Bar.closeTime
  rw [sameFrame]
  exact add_le_add_left opens _

/-- Within a feed, bars that open in order close in order. -/
theorem iterBars_close_sorted (stored : List Bar) (start stop : Time)
    (sub : Subscription) :
    (iterBars stored start stop sub).Pairwise
      (fun a b => a.closeTime ≤ b.closeTime) := by
  apply (iterBars_sorted stored start stop sub).imp_of_mem
  intro a b aMember bMember opens
  have sameFrame : a.timeframe = b.timeframe :=
    (mem_iterBars.mp aMember).2.2.1.trans (mem_iterBars.mp bMember).2.2.1.symm
  exact closeTime_le sameFrame opens

/-- Feeds of one timeframe never look ahead. -/
theorem one_timeframe_mergesInCloseOrder (stored : List Bar)
    (feedList : List Subscription) (start stop : Time) (timeframe : Timeframe)
    (same : ∀ sub ∈ feedList, sub.timeframe = timeframe) :
    MergesInCloseOrder (feedList.map (iterBars stored start stop)) := by
  have frames : ∀ feed ∈ feedList.map (iterBars stored start stop),
      ∀ bar ∈ feed, bar.timeframe = timeframe := by
    intro feed member bar inside
    rcases List.mem_map.mp member with ⟨sub, listed, rfl⟩
    exact (mem_iterBars.mp inside).2.2.1.trans (same sub listed)
  apply List.Pairwise.imp_of_mem ?_ (List.pairwise_of_forall fun _ _ => trivial)
  intro left right leftMember rightMember _ a aMember b bMember
  have sameFrame : a.timeframe = b.timeframe :=
    (frames left leftMember a aMember).trans
      (frames right rightMember b bMember).symm
  exact ⟨closeTime_le sameFrame, fun opens => closeTime_le sameFrame.symm opens.le⟩

/-- The bars in the order of the loop close in order exactly when the feeds merge
in close order. -/
theorem merged_close_sorted_iff (stored : List Bar)
    (feedList : List Subscription) (start stop : Time) :
    (mergeFeeds Bar.time (feedList.map (iterBars stored start stop))).Pairwise
        (fun a b => a.closeTime ≤ b.closeTime) ↔
      MergesInCloseOrder (feedList.map (iterBars stored start stop)) := by
  have sorted : ∀ feed ∈ feedList.map (iterBars stored start stop),
      feed.Pairwise (fun a b => a.time ≤ b.time) := by
    intro feed member
    rcases List.mem_map.mp member with ⟨sub, -, rfl⟩
    exact iterBars_sorted stored start stop sub
  rw [pairwise_mergeFeeds_iff sorted]
  constructor
  · exact And.right
  · intro merges
    refine ⟨?_, merges⟩
    intro feed member
    rcases List.mem_map.mp member with ⟨sub, -, rfl⟩
    exact iterBars_close_sorted stored start stop sub

/-- A bar at one price. -/
def levelBar (timeframe : Timeframe) (time : Time) (price : ℚ)
    (positive : 0 < price) : Bar where
  symbol := "EURUSD"
  timeframe := timeframe
  time := time
  openPrice := price
  high := price
  low := price
  close := price
  tickVolume := 1
  low_pos := positive
  low_le_open := le_rfl
  open_le_high := le_rfl
  low_le_close := le_rfl
  close_le_high := le_rfl

/-- An hourly bar and a minute bar that open together. -/
def hourAndMinute : List Bar :=
  [levelBar .h1 0 2 two_quote_pos, levelBar .m1 0 1 one_quote_pos]

def hourAndMinuteFeeds : List Subscription :=
  [⟨"EURUSD", .h1⟩, ⟨"EURUSD", .m1⟩]

end StingerFx
