/-
Module: StingerFx.Strategies.Examples.OneTicketScalpers
Layer: Strategies
Purpose: The four scalpers that follow a single ticket. The first enters beyond the
  channel of the bars before, the second where a pullback turns in the trend of two
  higher timeframes, the third with the imbalance of the signed volume of the last
  ticks, the fourth where the stochastic index of the strength crosses at an extreme.
Trusted boundary: human-reviewed model of the source's four single-ticket scalpers
Main exports: MomentumBreakout.onBar, MultiTFConfluence.onBar,
  OrderFlowImbalance.onTick, OrderFlowImbalance.onBar, PullbackReversal.onBar, and of
  each the TicketScalper
-/
import StingerFx.Strategies.Examples.OneTicket
import StingerFx.Strategies.Examples.TrendFold

namespace StingerFx

open Lib Time

/-- What three of them share behind the cooldown: the session they avoid, the gate of
the volatility, stop and target. -/
structure ScalperGates where
  avoidHoursUtc : List Int
  gate : VolGate
  barriers : AtrBarriers
  /-- none when it is off -/
  trailing : Option TrailingAtr

/-- The hours that are avoided by default. -/
def avoidHours : List Int := [13, 14, 15, 18]

/-- The defaults but for the spike and the target. -/
def ScalperGates.withSpike (mult tpAtrMult : ℚ) (positive : 0 < mult)
    (nonneg : 0 ≤ tpAtrMult) : ScalperGates where
  avoidHoursUtc := avoidHours
  gate := ⟨50, mult, fifty_lookback, positive⟩
  barriers := .withTarget tpAtrMult nonneg
  trailing := none

theorem spikes_pos : (0 : ℚ) < 9 / 5 ∧ (0 : ℚ) < 3 / 2 := by norm_num

theorem targets_nonneg : (0 : ℚ) ≤ 3 / 2 ∧ (0 : ℚ) ≤ 2 := by norm_num

/-- The volatility lets an entry pass, and how far its stop is. -/
def ScalperGates.atrValue (gates : ScalperGates) (m1Bars : List Bar) :
    Except IndicatorError (Option ℚ) := do
  if ← gates.gate.passes m1Bars then
    match ← atr m1Bars gates.barriers.atrPeriod with
    | some atrValue => return if atrValue ≤ 0 then none else some atrValue
    | none => return none
  else return none

/-- The order of a side, and the manager behind it. -/
def ScalperGates.enter (gates : ScalperGates) (cadence : TicketCadence)
    (ctx : StrategyContext) (side : Side) (bar : Bar) (atrValue : ℚ) (comment : String) :
    TicketEntry where
  signal :=
    ctx.enterAt side cadence.volume bar.close (atrValue * gates.barriers.slAtrMult)
      (gates.barriers.tpDist atrValue) comment
  trailing := attachTrailing gates.trailing cadence.symbol atrValue

/-! ### Beyond the channel -/

structure MomentumBreakoutParams extends TicketCadence where
  structureTimeframe : Timeframe
  donchianPeriod : Nat
  /-- none when it is off -/
  m5Trend : Option EmaTrend
  gates : ScalperGates
  donchian_bounds : 2 ≤ donchianPeriod ∧ donchianPeriod ≤ 500

/-- The parameters when the configuration gives none. -/
def MomentumBreakoutParams.default : MomentumBreakoutParams where
  toTicketCadence := .default
  structureTimeframe := .m5
  donchianPeriod := 20
  m5Trend := some .default
  gates := .withSpike (9 / 5) (3 / 2) spikes_pos.1 targets_nonneg.1
  donchian_bounds := by decide

/-- A filter that may be off. -/
def optionalSides (trend : Option EmaTrend) (view : Option HistoryView) :
    Except IndicatorError (Option (Side → Bool)) :=
  match trend with
  | none => .ok (some fun _ => true)
  | some trend => trend.sides view

namespace MomentumBreakout

variable (params : MomentumBreakoutParams)

def comment : Side → String
  | .buy => "mbs_buy"
  | .sell => "mbs_sell"

/-- The end of `on_bar`, behind position and cooldown. -/
def entry (scene : TicketScene) (bar : Bar) :
    Except IndicatorError (Option TicketEntry) := do
  if hour bar.time ∈ params.gates.avoidHoursUtc then return none
  let some m1View := scene.views params.entryTimeframe | return none
  let m1Bars := m1View.bars
  let need := max (max (params.donchianPeriod + 1) (params.gates.gate.lookback + 1))
    (params.gates.barriers.atrPeriod + 1)
  if m1Bars.length < need then return none
  let some breakout ← donchian m1Bars.dropLast params.donchianPeriod | return none
  let some atrValue ← params.gates.atrValue m1Bars | return none
  let some sides ← optionalSides params.m5Trend (scene.views params.structureTimeframe)
    | return none
  let order := fun side =>
    params.gates.enter params.toTicketCadence scene.ctx side bar atrValue (comment side)
  if sides .buy ∧ breakout.upper < bar.close then return some (order .buy)
  else if sides .sell ∧ bar.close < breakout.lower then return some (order .sell)
  else return none

def exitReason : String := "mbs_time_exit"

def onBar (scene : TicketScene) (bar : Bar) (book : TicketBook) : TicketTurn TicketBook :=
  if params.isEntry bar = false then .quiet book
  else
    let gated := book.gate params.toTicketCadence scene.ctx exitReason fun _ => false
    { strategy := gated.book
      closes := gated.closes
      entry := if gated.free then entry params scene bar else .ok none }

def scalper : TicketScalper where
  State := TicketBook
  cadence := params.toTicketCadence
  exitReason := exitReason
  start := .create
  book := fun book => book
  onTick := fun _ book => book
  onBar := onBar params
  onOrderFilled := fun ctx order book => book.onOrderFilled ctx order
  onPositionClosed := fun position book => book.onPositionClosed params.toTicketCadence position
  book_start := rfl
  book_onTick := fun _ _ => rfl
  book_onOrderFilled := fun _ _ _ => rfl
  book_onPositionClosed := fun _ _ => rfl
  onBar_other := fun _ _ _ other => if_pos other
  held_onBar := by
    intro scene bar book
    unfold onBar
    split
    · exact ⟨rfl, Nat.le_succ _⟩
    · exact TicketBook.held_gate
  closes_onBar := by
    intro scene bar book request asked
    unfold onBar at asked
    split at asked
    · cases asked
    · exact TicketBook.closes_gate asked
  flat_onBar := by
    intro scene bar book fires
    unfold onBar at fires
    split at fires
    · exact absurd rfl fires
    · exact TicketBook.free_gate (TicketTurn.free_of_sent fires)

end MomentumBreakout

/-! ### A pullback that turns -/

structure MultiTFConfluenceParams extends TicketCadence where
  midTimeframe : Timeframe
  highTimeframe : Timeframe
  m5Trend : EmaTrend
  m15Trend : EmaTrend
  m1RsiPeriod : Nat
  m1RsiOversold : ℚ
  m1RsiOverbought : ℚ
  gates : ScalperGates
  rsiPeriod_bounds : 2 ≤ m1RsiPeriod ∧ m1RsiPeriod ≤ 50
  rsi_bounds : (0 < m1RsiOversold ∧ m1RsiOversold < 100) ∧
    0 < m1RsiOverbought ∧ m1RsiOverbought < 100

/-- The parameters when the configuration gives none. -/
def MultiTFConfluenceParams.default : MultiTFConfluenceParams where
  toTicketCadence := .default
  midTimeframe := .m5
  highTimeframe := .m15
  m5Trend := .default
  m15Trend := ⟨21, 55, by decide, by decide⟩
  m1RsiPeriod := 14
  m1RsiOversold := 30
  m1RsiOverbought := 70
  gates := .withSpike (3 / 2) 2 spikes_pos.2 targets_nonneg.2
  rsiPeriod_bounds := fourteen_period
  rsi_bounds := by norm_num

structure MultiTFConfluence where
  book : TicketBook
  /-- of the entry bar before -/
  prevM1Rsi : Option ℚ

namespace MultiTFConfluence

variable (params : MultiTFConfluenceParams)

def start : MultiTFConfluence := ⟨.create, none⟩

def comment : Side → String
  | .buy => "mtc_buy"
  | .sell => "mtc_sell"

/-- The end of `on_bar`, behind position and cooldown. -/
def entry (scene : TicketScene) (m1Bars : List Bar) (m1Rsi prevRsi : Option ℚ)
    (bar : Bar) : Except IndicatorError (Option TicketEntry) := do
  if hour bar.time ∈ params.gates.avoidHoursUtc then return none
  let need := max (max (params.gates.gate.lookback + 1)
    (params.gates.barriers.atrPeriod + 1)) (params.m1RsiPeriod + 1)
  if m1Bars.length < need then return none
  let some m1Rsi := m1Rsi | return none
  let some prevRsi := prevRsi | return none
  let some atrValue ← params.gates.atrValue m1Bars | return none
  let some m5 ← params.m5Trend.sides (scene.views params.midTimeframe) | return none
  let some m15 ← params.m15Trend.sides (scene.views params.highTimeframe) | return none
  let order := fun side =>
    params.gates.enter params.toTicketCadence scene.ctx side bar atrValue (comment side)
  if m5 .buy ∧ m15 .buy ∧ prevRsi < params.m1RsiOversold ∧
      params.m1RsiOversold ≤ m1Rsi then
    return some (order .buy)
  else if m5 .sell ∧ m15 .sell ∧ params.m1RsiOverbought < prevRsi ∧
      m1Rsi ≤ params.m1RsiOverbought then
    return some (order .sell)
  else return none

def exitReason : String := "mtc_time_exit"

/-- The strength at a bar, once there are enough of them. -/
def m1RsiOf (m1Bars : List Bar) : Except IndicatorError (Option ℚ) :=
  if params.m1RsiPeriod + 1 ≤ m1Bars.length then
    rsi (m1Bars.map Bar.close) params.m1RsiPeriod
  else .ok none

def onBar (scene : TicketScene) (bar : Bar) (strategy : MultiTFConfluence) :
    TicketTurn MultiTFConfluence :=
  if params.isEntry bar = false then .quiet strategy
  else
    match scene.views params.entryTimeframe with
    | none => .quiet strategy
    | some m1View =>
        match m1RsiOf params m1View.bars with
        | .error error => ⟨strategy, [], .error error⟩
        | .ok m1Rsi =>
            let gated := strategy.book.gate params.toTicketCadence scene.ctx exitReason
              fun _ => false
            { strategy := ⟨gated.book, m1Rsi⟩
              closes := gated.closes
              entry :=
                if gated.free then
                  entry params scene m1View.bars m1Rsi strategy.prevM1Rsi bar
                else .ok none }

def scalper : TicketScalper where
  State := MultiTFConfluence
  cadence := params.toTicketCadence
  exitReason := exitReason
  start := start
  book := MultiTFConfluence.book
  onTick := fun _ strategy => strategy
  onBar := onBar params
  onOrderFilled := fun ctx order strategy =>
    { strategy with book := strategy.book.onOrderFilled ctx order }
  onPositionClosed := fun position strategy =>
    { strategy with
      book := strategy.book.onPositionClosed params.toTicketCadence position }
  book_start := rfl
  book_onTick := fun _ _ => rfl
  book_onOrderFilled := fun _ _ _ => rfl
  book_onPositionClosed := fun _ _ => rfl
  onBar_other := fun _ _ _ other => if_pos other
  held_onBar := by
    intro scene bar strategy
    unfold onBar
    split
    · exact ⟨rfl, Nat.le_succ _⟩
    · split
      · exact ⟨rfl, Nat.le_succ _⟩
      · split
        · exact ⟨rfl, Nat.le_succ _⟩
        · exact TicketBook.held_gate
  closes_onBar := by
    intro scene bar strategy request asked
    unfold onBar at asked
    split at asked
    · cases asked
    · split at asked
      · cases asked
      · split at asked
        · cases asked
        · exact TicketBook.closes_gate asked
  flat_onBar := by
    intro scene bar strategy fires
    unfold onBar at fires
    split at fires
    · exact absurd rfl fires
    · split at fires
      · exact absurd rfl fires
      · split at fires
        · exact absurd rfl fires
        · exact TicketBook.free_gate (TicketTurn.free_of_sent fires)

end MultiTFConfluence

/-! ### The imbalance of the order flow -/

structure OrderFlowImbalanceParams extends TicketCadence where
  structureTimeframe : Timeframe
  ofiLookbackTicks : Nat
  ofiWindowSeconds : Nat
  ofiThreshold : ℚ
  /-- none when it is off -/
  m5Trend : Option EmaTrend
  gates : ScalperGates
  ofi_bounds : (10 ≤ ofiLookbackTicks ∧ ofiLookbackTicks ≤ 10000) ∧
    (1 ≤ ofiWindowSeconds ∧ ofiWindowSeconds ≤ 3600) ∧ 0 < ofiThreshold

/-- The parameters when the configuration gives none. -/
def OrderFlowImbalanceParams.default : OrderFlowImbalanceParams where
  toTicketCadence := .default
  structureTimeframe := .m5
  ofiLookbackTicks := 200
  ofiWindowSeconds := 60
  ofiThreshold := 200
  m5Trend := some .default
  gates := .withSpike (3 / 2) 2 spikes_pos.2 targets_nonneg.2
  ofi_bounds := by norm_num

structure OrderFlowImbalance where
  book : TicketBook
  /-- `_ofi_deque`: times and signed volumes -/
  ofiDeque : List (Time × Int)
  /-- its greatest length -/
  maxlen : Nat
  prevMid : Option ℚ

namespace OrderFlowImbalance

variable (params : OrderFlowImbalanceParams)

def start : OrderFlowImbalance := ⟨.create, [], 200, none⟩

/-- The sign of a tick, by the shift of the mid price. -/
def signOf (prevMid curMid : ℚ) : Int :=
  if prevMid < curMid then 1 else if curMid < prevMid then -1 else 0

def onTick (tick : SizedTick) (strategy : OrderFlowImbalance) : OrderFlowImbalance :=
  if tick.symbol ≠ params.symbol then strategy
  else
    let strategy :=
      if strategy.maxlen ≠ params.ofiLookbackTicks then
        { strategy with
          ofiDeque := lastN params.ofiLookbackTicks strategy.ofiDeque
          maxlen := params.ofiLookbackTicks }
      else strategy
    match strategy.prevMid with
    | none => { strategy with prevMid := some tick.mid }
    | some prevMid =>
        { strategy with
          prevMid := some tick.mid
          ofiDeque := pushBounded strategy.maxlen strategy.ofiDeque
            (tick.time, signOf prevMid tick.mid * tick.volume) }

/-- `_compute_ofi_sum`: the deque without its stale front, and its sum. -/
def computeOfiSum (now : Time) (deque : List (Time × Int)) : List (Time × Int) × Int :=
  let fresh := deque.dropWhile fun entry =>
    decide (entry.1 < now - params.ofiWindowSeconds * usPerSecond)
  (fresh, (fresh.map Prod.snd).sum)

def comment : Side → String
  | .buy => "ofis_buy"
  | .sell => "ofis_sell"

/-- `on_bar` before the imbalance is looked at: how far a stop is, if the gates let an
entry pass. -/
def gatesPass (scene : TicketScene) (bar : Bar) : Except IndicatorError (Option ℚ) := do
  if hour bar.time ∈ params.gates.avoidHoursUtc then return none
  let some m1View := scene.views params.entryTimeframe | return none
  let m1Bars := m1View.bars
  let need := max (params.gates.gate.lookback + 1) (params.gates.barriers.atrPeriod + 1)
  if m1Bars.length < need then return none
  params.gates.atrValue m1Bars

/-- The end of `on_bar`. -/
def entry (scene : TicketScene) (bar : Bar) (atrValue : ℚ) (ofiSum : Int) :
    Except IndicatorError (Option TicketEntry) := do
  let some sides ← optionalSides params.m5Trend (scene.views params.structureTimeframe)
    | return none
  let order := fun side =>
    params.gates.enter params.toTicketCadence scene.ctx side bar atrValue (comment side)
  if sides .buy ∧ params.ofiThreshold < ofiSum then return some (order .buy)
  else if sides .sell ∧ ofiSum < -params.ofiThreshold then return some (order .sell)
  else return none

def exitReason : String := "ofis_time_exit"

def onBar (scene : TicketScene) (bar : Bar) (strategy : OrderFlowImbalance) :
    TicketTurn OrderFlowImbalance :=
  if params.isEntry bar = false then .quiet strategy
  else
    let gated := strategy.book.gate params.toTicketCadence scene.ctx exitReason
      fun _ => false
    let strategy := { strategy with book := gated.book }
    if gated.free = false then ⟨strategy, gated.closes, .ok none⟩
    else
      match gatesPass params scene bar with
      | .error error => ⟨strategy, gated.closes, .error error⟩
      | .ok none => ⟨strategy, gated.closes, .ok none⟩
      | .ok (some atrValue) =>
          let (fresh, ofiSum) := computeOfiSum params bar.time strategy.ofiDeque
          { strategy := { strategy with ofiDeque := fresh }
            closes := gated.closes
            entry := entry params scene bar atrValue ofiSum }

theorem book_onTick (tick : SizedTick) (strategy : OrderFlowImbalance) :
    (onTick params tick strategy).book = strategy.book := by
  unfold onTick
  split
  · rfl
  · dsimp only
    split <;> split <;> rfl

/-- Whatever the gates say, the position and the cooldown are as the gate leaves them. -/
theorem gated_onBar {scene : TicketScene} {bar : Bar} {strategy : OrderFlowImbalance}
    (own : params.isEntry bar = true) :
    let gated := strategy.book.gate params.toTicketCadence scene.ctx exitReason
      fun _ => false
    (onBar params scene bar strategy).strategy.book = gated.book ∧
      (onBar params scene bar strategy).closes = gated.closes ∧
      ((onBar params scene bar strategy).sent ≠ none → gated.free = true) := by
  intro gated
  unfold onBar
  rw [if_neg (by rw [own]; exact Bool.noConfusion)]
  dsimp only
  split
  · exact ⟨rfl, rfl, fun fires => absurd rfl fires⟩
  · rename_i free
    have passes : gated.free = true := by simpa using free
    split
    · exact ⟨rfl, rfl, fun _ => passes⟩
    · exact ⟨rfl, rfl, fun _ => passes⟩
    · exact ⟨rfl, rfl, fun _ => passes⟩

def scalper : TicketScalper where
  State := OrderFlowImbalance
  cadence := params.toTicketCadence
  exitReason := exitReason
  start := start
  book := OrderFlowImbalance.book
  onTick := onTick params
  onBar := onBar params
  onOrderFilled := fun ctx order strategy =>
    { strategy with book := strategy.book.onOrderFilled ctx order }
  onPositionClosed := fun position strategy =>
    { strategy with
      book := strategy.book.onPositionClosed params.toTicketCadence position }
  book_start := rfl
  book_onTick := book_onTick params
  book_onOrderFilled := fun _ _ _ => rfl
  book_onPositionClosed := fun _ _ => rfl
  onBar_other := fun _ _ _ other => if_pos other
  held_onBar := by
    intro scene bar strategy
    cases own : params.isEntry bar with
    | false =>
        rw [onBar, if_pos own]
        exact ⟨rfl, Nat.le_succ _⟩
    | true =>
        rw [(gated_onBar params own).1]
        exact TicketBook.held_gate
  closes_onBar := by
    intro scene bar strategy request asked
    cases own : params.isEntry bar with
    | false =>
        rw [onBar, if_pos own] at asked
        cases asked
    | true =>
        rw [(gated_onBar params own).2.1] at asked
        exact TicketBook.closes_gate asked
  flat_onBar := by
    intro scene bar strategy fires
    cases own : params.isEntry bar with
    | false =>
        rw [onBar, if_pos own] at fires
        exact absurd rfl fires
    | true => exact TicketBook.free_gate ((gated_onBar params own).2.2 fires)

end OrderFlowImbalance

/-! ### A cross at an extreme -/

/-- The filter of the structure timeframe. -/
structure M5Filter where
  trend : EmaTrend
  rsiPeriod : Nat
  rsiBuyMax : ℚ
  rsiSellMin : ℚ
  swingLookback : Nat
  period_bounds : (2 ≤ rsiPeriod ∧ rsiPeriod ≤ 50) ∧ 1 ≤ swingLookback ∧
    swingLookback ≤ 50
  rsi_bounds : (0 < rsiBuyMax ∧ rsiBuyMax < 100) ∧ 0 < rsiSellMin ∧ rsiSellMin < 100

/-- The filter when it is on and the configuration says no more. -/
def M5Filter.default : M5Filter where
  trend := .default
  rsiPeriod := 14
  rsiBuyMax := 50
  rsiSellMin := 50
  swingLookback := 5
  period_bounds := by decide
  rsi_bounds := by norm_num

structure PullbackReversalParams extends TicketCadence where
  structureTimeframe : Timeframe
  /-- none when it is off -/
  m5Filter : Option M5Filter
  m1RsiPeriod : Nat
  m1RsiOversold : ℚ
  m1RsiOverbought : ℚ
  stochRsiPeriod : Nat
  stochRsiKSmooth : Nat
  stochRsiDSmooth : Nat
  stochRsiOversold : ℚ
  stochRsiOverbought : ℚ
  stochRsiExitLong : ℚ
  stochRsiExitShort : ℚ
  barriers : AtrBarriers
  minStopDistance : ℚ
  /-- none when it is off -/
  trailing : Option TrailingAtr
  /-- none when it is off -/
  trendFilter : Option (TrendFrames × TrendBand)
  periods_bounds : (2 ≤ m1RsiPeriod ∧ m1RsiPeriod ≤ 50) ∧
    (2 ≤ stochRsiPeriod ∧ stochRsiPeriod ≤ 50) ∧
    (1 ≤ stochRsiKSmooth ∧ stochRsiKSmooth ≤ 10) ∧
    1 ≤ stochRsiDSmooth ∧ stochRsiDSmooth ≤ 10
  levels_bounds : ∀ level ∈ [m1RsiOversold, m1RsiOverbought, stochRsiOversold,
    stochRsiOverbought, stochRsiExitLong, stochRsiExitShort], 0 < level ∧ level < 100
  minStop_nonneg : 0 ≤ minStopDistance
  frames_entry : ∀ filter ∈ trendFilter, filter.1.entry = entryTimeframe

theorem nothing_nonneg : (0 : ℚ) ≤ 0 := le_refl 0

/-- The parameters when the configuration gives none; both filters are off. -/
def PullbackReversalParams.default : PullbackReversalParams where
  toTicketCadence := { TicketCadence.default with
    cooldownBars := 2
    cooldown_bounds := by decide }
  structureTimeframe := .m5
  m5Filter := none
  m1RsiPeriod := 14
  m1RsiOversold := 20
  m1RsiOverbought := 80
  stochRsiPeriod := 14
  stochRsiKSmooth := 3
  stochRsiDSmooth := 3
  stochRsiOversold := 20
  stochRsiOverbought := 80
  stochRsiExitLong := 80
  stochRsiExitShort := 20
  barriers := .withTarget 0 nothing_nonneg
  minStopDistance := 0
  trailing := none
  trendFilter := none
  periods_bounds := by decide
  levels_bounds := by norm_num
  minStop_nonneg := nothing_nonneg
  frames_entry := by simp

structure PullbackReversal where
  book : TicketBook
  /-- `_prev_k` and `_prev_d`, which are set together -/
  prev : Option (ℚ × ℚ)
  trend : TrendFold

namespace PullbackReversal

variable (params : PullbackReversalParams)

def start : PullbackReversal := ⟨.create, none, .create⟩

/-- `_fold_trend`; nothing when the filter is off. -/
def foldTrend (bar : Bar) (strategy : PullbackReversal) : PullbackReversal :=
  match params.trendFilter with
  | none => strategy
  | some filter => { strategy with trend := strategy.trend.foldTrend filter.1 bar }

/-- `_trend_ok`. -/
def sideWithTrend (strategy : PullbackReversal) (side : Side) :
    Except IndicatorError Bool :=
  match params.trendFilter with
  | none => .ok true
  | some filter => trendOk filter.2 strategy.trend.bars side

/-- The sides that the structure of the higher timeframe lets pass; none where the
feed is missing or short. -/
def structureSides (filter : Option M5Filter) (view : Option HistoryView) :
    Except IndicatorError (Option (Side → Bool)) := do
  let some filter := filter | return some fun _ => true
  let some m5View := view | return none
  let m5Bars := m5View.bars
  if m5Bars.length <
      max (max filter.trend.slow filter.rsiPeriod) (filter.swingLookback + 1) then
    return none
  let m5Closes := m5Bars.map Bar.close
  let some emaFast ← ema m5Closes filter.trend.fast | return none
  let some emaSlow ← ema m5Closes filter.trend.slow | return none
  let some m5Rsi ← rsi m5Closes filter.rsiPeriod | return none
  -- there are bars enough
  let some latest := m5Bars.getLast? | return none
  let some ref := m5Bars[m5Bars.length - 1 - filter.swingLookback]? | return none
  let isUptrend := emaSlow < latest.close ∧ emaSlow < emaFast ∧ ref.high < latest.high ∧
    ref.low < latest.low
  let isDowntrend := latest.close < emaSlow ∧ emaFast < emaSlow ∧
    latest.high < ref.high ∧ latest.low < ref.low
  return some fun
    | .buy => decide (isUptrend ∧ m5Rsi < filter.rsiBuyMax)
    | .sell => decide (isDowntrend ∧ filter.rsiSellMin < m5Rsi)

def comment : Side → String
  | .buy => "prs_scalp_buy"
  | .sell => "prs_scalp_sell"

/-- The order of a side, with a floor under the distance of its stop. -/
def order (ctx : StrategyContext) (side : Side) (bar : Bar) (atrValue : ℚ) :
    TicketEntry where
  signal :=
    ctx.enterAt side params.volume bar.close
      (max (atrValue * params.barriers.slAtrMult) params.minStopDistance)
      (params.barriers.tpDist atrValue) (comment side)
  trailing := attachTrailing params.trailing params.symbol atrValue

/-- What the streaming indicators of the entry feed say at a bar. -/
structure Reading where
  m1Rsi : ℚ
  k : ℚ
  d : ℚ
  view : HistoryView

def read (view : HistoryView) : Except IndicatorError (Option Reading) := do
  let (view, m1Rsi) ← view.rsi params.m1RsiPeriod
  let (view, srsi) ← view.stochRsi params.m1RsiPeriod params.stochRsiPeriod
    params.stochRsiKSmooth params.stochRsiDSmooth
  match m1Rsi, srsi with
  | some m1Rsi, some (k, d) => return some ⟨m1Rsi, k, d, view⟩
  | _, _ => return none

/-- The end of `on_bar`, behind position and cooldown. -/
def entry (scene : TicketScene) (bar : Bar) (reading : Reading) (prev : Option (ℚ × ℚ))
    (strategy : PullbackReversal) : Except IndicatorError (Option TicketEntry) := do
  let some (prevK, prevD) := prev | return none
  let crossUp := prevK < prevD ∧ reading.d ≤ reading.k
  let crossDown := prevD < prevK ∧ reading.k ≤ reading.d
  let some sides ←
      structureSides params.m5Filter (scene.views params.structureTimeframe)
    | return none
  let (_, atrValue) ← reading.view.atr params.barriers.atrPeriod
  let some atrValue := atrValue | return none
  if atrValue ≤ 0 then return none
  let buys ← if sides .buy then sideWithTrend params strategy .buy else .ok false
  if buys ∧ crossUp ∧ reading.k < params.stochRsiOversold ∧
      reading.m1Rsi < params.m1RsiOversold then
    return some (order params scene.ctx .buy bar atrValue)
  let sells ← if sides .sell then sideWithTrend params strategy .sell else .ok false
  if sells ∧ crossDown ∧ params.stochRsiOverbought < reading.k ∧
      params.m1RsiOverbought < reading.m1Rsi then
    return some (order params scene.ctx .sell bar atrValue)
  return none

def exitReason : String := "prs_scalp_exit"

/-- `_maybe_exit` but for the time stop. -/
def exitNow (k : ℚ) : Side → Bool
  | .buy => decide (params.stochRsiExitLong < k)
  | .sell => decide (k < params.stochRsiExitShort)

def onBar (scene : TicketScene) (bar : Bar) (strategy : PullbackReversal) :
    TicketTurn PullbackReversal :=
  if params.isEntry bar = false then .quiet strategy
  else
    let strategy := strategy.foldTrend params bar
    match scene.views params.entryTimeframe with
    | none => .quiet strategy
    | some m1View =>
        match read params m1View with
        | .error error => ⟨strategy, [], .error error⟩
        | .ok none => .quiet strategy
        | .ok (some reading) =>
            let gated := strategy.book.gate params.toTicketCadence scene.ctx exitReason
              (exitNow params reading.k)
            let next :=
              { strategy with book := gated.book, prev := some (reading.k, reading.d) }
            { strategy := next
              closes := gated.closes
              entry :=
                if gated.free then entry params scene bar reading strategy.prev next
                else .ok none }

theorem book_foldTrend (bar : Bar) (strategy : PullbackReversal) :
    (strategy.foldTrend params bar).book = strategy.book := by
  unfold foldTrend
  split <;> rfl

def scalper : TicketScalper where
  State := PullbackReversal
  cadence := params.toTicketCadence
  exitReason := exitReason
  start := start
  book := PullbackReversal.book
  onTick := fun _ strategy => strategy
  onBar := onBar params
  onOrderFilled := fun ctx order strategy =>
    { strategy with book := strategy.book.onOrderFilled ctx order }
  onPositionClosed := fun position strategy =>
    { strategy with
      book := strategy.book.onPositionClosed params.toTicketCadence position }
  book_start := rfl
  book_onTick := fun _ _ => rfl
  book_onOrderFilled := fun _ _ _ => rfl
  book_onPositionClosed := fun _ _ => rfl
  onBar_other := fun _ _ _ other => if_pos other
  held_onBar := by
    intro scene bar strategy
    rw [← book_foldTrend params bar strategy]
    unfold onBar
    split
    · rw [book_foldTrend]
      exact ⟨rfl, Nat.le_succ _⟩
    · dsimp only
      split
      · exact ⟨rfl, Nat.le_succ _⟩
      · split
        · exact ⟨rfl, Nat.le_succ _⟩
        · exact ⟨rfl, Nat.le_succ _⟩
        · exact TicketBook.held_gate
  closes_onBar := by
    intro scene bar strategy request asked
    rw [← book_foldTrend params bar strategy]
    unfold onBar at asked
    split at asked
    · cases asked
    · dsimp only at asked
      split at asked
      · cases asked
      · split at asked
        · cases asked
        · cases asked
        · exact TicketBook.closes_gate asked
  flat_onBar := by
    intro scene bar strategy fires
    rw [← book_foldTrend params bar strategy]
    unfold onBar at fires
    split at fires
    · exact absurd rfl fires
    · dsimp only at fires
      split at fires
      · exact absurd rfl fires
      · split at fires
        · exact absurd rfl fires
        · exact absurd rfl fires
        · exact TicketBook.free_gate (TicketTurn.free_of_sent fires)

end PullbackReversal

end StingerFx
