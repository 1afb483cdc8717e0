/-
Module: StingerFx.Strategies.Examples.VwapPullbackContinuation
Layer: Strategies
Purpose: The strategy that joins a trend at its pullback to the volume-weighted
  average price. The trend is read from the regime bars, the average and its slope
  from the structure bars, and the order is sent when an entry bar rejects the
  pullback.
Trusted boundary: human-reviewed model of the source's pullback strategy and of its
  trending filter
Main exports: TrendingFilter, VwapPullbackContinuationParams, isBullishRejection,
  isBearishRejection, VwapPullbackContinuation, VwapPullbackContinuation.onBar,
  VwapPullbackContinuation.scalper
-/
import StingerFx.Strategies.Examples.SessionScalper

namespace StingerFx

open Lib Time

/-- The filter of trending markets, with the arguments that its constructor
accepts. -/
structure TrendingFilter where
  adxPeriod : Nat
  threshold : ℚ
  filter_bounds : 1 < adxPeriod ∧ 0 < threshold
deriving Repr

/-- `allows`; without enough bars it does not. -/
def TrendingFilter.allows (filter : TrendingFilter) (bars : List Bar) :
    Except IndicatorError Bool := do
  match ← adx bars filter.adxPeriod with
  | none => return false
  | some result => return decide (filter.threshold ≤ result.adx)

inductive VpcTpMode where
  | prevExtreme
  | fixedR
  | trailing
deriving Repr, DecidableEq

/-- The parameters, within the bounds that validation checks. -/
structure VwapPullbackContinuationParams extends ScalperCadence where
  regimeTimeframe : Timeframe
  adxPeriod : Nat
  minAdx : ℚ
  emaFast : Nat
  emaSlow : Nat
  vwapSlopeLookback : Nat
  vwapSlopeMinAtr : ℚ
  pullbackZoneAtr : ℚ
  rejectionWickRatio : ℚ
  atrPeriod : Nat
  minAtr : ℚ
  swingLookback : Nat
  stopBufferAtr : ℚ
  tpMode : VpcTpMode
  prevExtremeLookback : Nat
  takeProfitR : ℚ
  minRr : ℚ
  trailing : TrailingAtr
  useSessionFilter : Bool
  adx_bounds : 5 ≤ adxPeriod ∧ adxPeriod ≤ 50 ∧ 0 < minAdx
  emaFast_bounds : 2 ≤ emaFast ∧ emaFast ≤ 200
  emaSlow_bounds : 5 ≤ emaSlow ∧ emaSlow ≤ 500
  slope_bounds : 1 ≤ vwapSlopeLookback ∧ vwapSlopeLookback ≤ 50 ∧ 0 ≤ vwapSlopeMinAtr
  pullback_bounds : 0 < pullbackZoneAtr ∧ 1 < rejectionWickRatio
  atrPeriod_bounds : 5 ≤ atrPeriod ∧ atrPeriod ≤ 50 ∧ 0 < minAtr
  swing_bounds : 3 ≤ swingLookback ∧ swingLookback ≤ 100 ∧ 0 < stopBufferAtr
  prevExtreme_bounds : 5 ≤ prevExtremeLookback ∧ prevExtremeLookback ≤ 200
  reward_bounds : 0 < takeProfitR ∧ 0 < minRr
deriving Repr

/-- The parameters when the configuration gives none. -/
def VwapPullbackContinuationParams.default : VwapPullbackContinuationParams where
  symbol := "XAUUSD"
  entryTimeframe := .m1
  structureTimeframe := .m5
  sessionStartHourUtc := 8
  sessionEndHourUtc := 21
  volume := 1 / 100
  maxHoldBars := 12
  cooldownBars := 5
  maxTradesPerSession := 6
  regimeTimeframe := .m15
  adxPeriod := 14
  minAdx := 18
  emaFast := 8
  emaSlow := 21
  vwapSlopeLookback := 5
  vwapSlopeMinAtr := 5 / 100
  pullbackZoneAtr := 1 / 2
  rejectionWickRatio := 2
  atrPeriod := 14
  minAtr := 1 / 10
  swingLookback := 10
  stopBufferAtr := 3 / 10
  tpMode := .prevExtreme
  prevExtremeLookback := 20
  takeProfitR := 3 / 2
  minRr := 1
  trailing := ⟨3 / 2, 1, 1 / 100, by norm_num⟩
  useSessionFilter := true
  sessionEnd_bounds := by decide
  cadence_bounds := by norm_num
  adx_bounds := by norm_num
  emaFast_bounds := by decide
  emaSlow_bounds := by decide
  slope_bounds := by norm_num
  pullback_bounds := by norm_num
  atrPeriod_bounds := by norm_num
  swing_bounds := by norm_num
  prevExtreme_bounds := by decide
  reward_bounds := by norm_num

/-! ### Rejection candles -/

def lowerWick (bar : Bar) : ℚ := min bar.openPrice bar.close - bar.low

def upperWick (bar : Bar) : ℚ := bar.high - max bar.openPrice bar.close

/-- A wick that is long against the body and longer than the one opposite. -/
def isRejection (bar : Bar) (wick opposite ratio : ℚ) : Bool :=
  let body := |bar.close - bar.openPrice|
  decide (¬ body ≤ 0 ∧ ratio * body ≤ wick ∧ opposite < wick)

def isBullishRejection (bar : Bar) (ratio : ℚ) : Bool :=
  isRejection bar (lowerWick bar) (upperWick bar) ratio

def isBearishRejection (bar : Bar) (ratio : ℚ) : Bool :=
  isRejection bar (upperWick bar) (lowerWick bar) ratio

structure VwapPullbackContinuation where
  book : SessionBook
  /-- made at the start -/
  trendingFilter : TrendingFilter

namespace VwapPullbackContinuation

variable (params : VwapPullbackContinuationParams)

/-- A new instance behind `on_start`. -/
def start : VwapPullbackContinuation where
  book := .create
  trendingFilter :=
    { adxPeriod := params.adxPeriod
      threshold := params.minAdx
      filter_bounds := ⟨Nat.lt_of_lt_of_le (by decide) params.adx_bounds.1,
        params.adx_bounds.2.2⟩ }

/-- The structure bars that an entry needs, but for the last. -/
def neededM5 : Nat :=
  max (max params.swingLookback params.prevExtremeLookback)
    (max (params.vwapSlopeLookback + 2) (params.atrPeriod + 1))

/-- The side of the regime bars' averages. -/
def bias (m15Bars : List Bar) : Except IndicatorError (Option Side) := do
  let closes := m15Bars.map Bar.close
  match ← ema closes params.emaFast, ← ema closes params.emaSlow with
  | some fast, some slow =>
      if slow < fast then return some .buy
      else if fast < slow then return some .sell
      else return none
  | _, _ => return none

/-- The average price of the closed structure bars, when its slope goes with the
side. -/
def slopingVwap (side : Side) (closedM5 : List Bar) (atrValue : ℚ) : Option ℚ :=
  if closedM5.length ≤ params.vwapSlopeLookback then none
  else
    match vwapSession closedM5,
        vwapSession (closedM5.take (closedM5.length - params.vwapSlopeLookback)) with
    | some vwapNow, some vwapThen =>
        let slope := vwapNow - vwapThen
        if |slope| < params.vwapSlopeMinAtr * atrValue then none
        else
          match side with
          | .buy => if slope < 0 then none else some vwapNow
          | .sell => if 0 < slope then none else some vwapNow
    | _, _ => none

/-- A pullback into the zone, on the right side of the average, that was rejected. -/
def pulledBack (side : Side) (bar : Bar) (vwapNow atrValue : ℚ) : Bool :=
  let dist := bar.close - vwapNow
  match side with
  | .buy =>
      decide (0 ≤ dist ∧ dist ≤ params.pullbackZoneAtr * atrValue) &&
        isBullishRejection bar params.rejectionWickRatio
  | .sell =>
      decide (dist ≤ 0 ∧ -dist ≤ params.pullbackZoneAtr * atrValue) &&
        isBearishRejection bar params.rejectionWickRatio

/-- The stop beyond the last swing; the window is not empty. -/
def stop? (side : Side) (closedM5 : List Bar) (atrValue : ℚ) : Option ℚ :=
  let window := lastN params.swingLookback closedM5
  match side with
  | .buy => (window.map Bar.low).min?.map fun swing =>
      swing - params.stopBufferAtr * atrValue
  | .sell => (window.map Bar.high).max?.map fun swing =>
      swing + params.stopBufferAtr * atrValue

/-- `_compute_tp`. -/
def computeTp (side : Side) (entry sl : ℚ) (closedM5 : List Bar) :
    Except IndicatorError (Option ℚ) :=
  match params.tpMode with
  | .trailing | .fixedR => .ok (riskTarget entry sl side params.takeProfitR)
  | .prevExtreme => do
      let channels ← donchian (lastN params.prevExtremeLookback closedM5)
        params.prevExtremeLookback
      return channels.map fun channels =>
        match side with
        | .buy => channels.upper
        | .sell => channels.lower

def entryComment : Side → String
  | .buy => "vwap_pullback_long"
  | .sell => "vwap_pullback_short"

/-- The order of a pullback that was found. -/
def enter (ctx : StrategyContext) (side : Side) (bar : Bar) (sl : ℚ) (tp : Option ℚ)
    (atrValue : ℚ) : Except ScalperError (List ScalperEntry) :=
  if rrOk bar.close sl tp side params.minRr = false then .ok []
  else
    match params.tpMode with
    | .trailing => do
        let manager ← params.trailing.manager params.symbol atrValue
        return [⟨ctx.enter side params.volume sl none (entryComment side), some manager⟩]
    | .prevExtreme | .fixedR =>
        .ok [⟨ctx.enter side params.volume sl tp (entryComment side), none⟩]

/-- What `on_bar` reads from the bars: the side and the range of the structure bars,
when the market trends and is not dead. -/
def regime (filter : TrendingFilter) (m5Bars m15Bars : List Bar) :
    Except IndicatorError (Option (Side × ℚ)) := do
  if ← filter.allows m15Bars then
    match ← bias params m15Bars, ← StingerFx.atr m5Bars params.atrPeriod with
    | some side, some atrValue =>
        if atrValue < params.minAtr then return none else return some (side, atrValue)
    | _, _ => return none
  else return none

/-- The end of `on_bar`, once the book lets an order pass. -/
def pullback (filter : TrendingFilter) (scene : ScalperScene) (bar : Bar) :
    Except ScalperError (List ScalperEntry) :=
  match scene.history params.structureTimeframe,
      scene.history params.regimeTimeframe with
  | some m5Bars, some m15Bars =>
      if m5Bars.length < neededM5 params + 1 then .ok []
      else if m15Bars.length < max (2 * params.adxPeriod) (params.emaSlow + 1) then
        .ok []
      else
        match regime params filter m5Bars m15Bars with
        | .error error => .error (.indicator error)
        | .ok none => .ok []
        | .ok (some (side, atrValue)) =>
            let closedM5 := m5Bars.dropLast
            match slopingVwap params side closedM5 atrValue,
                stop? params side closedM5 atrValue with
            | some vwapNow, some sl =>
                if pulledBack params side bar vwapNow atrValue = false then .ok []
                else
                  match computeTp params side bar.close sl closedM5 with
                  | .error error => .error (.indicator error)
                  | .ok tp => enter params scene.ctx side bar sl tp atrValue
            | _, _ => .ok []
  | _, _ => .ok []

def exitReason : String := "vwap_pullback_time_exit"

def onBar (strategy : VwapPullbackContinuation) (scene : ScalperScene) (bar : Bar) :
    ScalperTurn VwapPullbackContinuation :=
  if params.isEntry bar = false then .idle strategy
  else
    let book := strategy.book.nextBar params.toScalperCadence bar.time
    let strategy := { strategy with book := book }
    let closes := book.timeExits params.toScalperCadence scene.ctx exitReason
    if (params.useSessionFilter && !params.inSession bar.time) ∨
        book.mayEnter params.toScalperCadence scene.positions = false then
      ⟨strategy, closes, .ok []⟩
    else ⟨strategy, closes, pullback params strategy.trendingFilter scene bar⟩

/-! ### A session strategy -/

variable {params} {strategy : VwapPullbackContinuation} {scene : ScalperScene}
variable {bar : Bar} {entries : List ScalperEntry} {entry : ScalperEntry}

/-- What `enter` sends. -/
theorem enter_sent {side : Side} {sl atrValue : ℚ} {tp : Option ℚ}
    (sent : enter params scene.ctx side bar sl tp atrValue = .ok entries)
    (member : entry ∈ entries) :
    rrOk bar.close sl tp side params.minRr = true ∧
      ∃ tp, entry.signal =
        scene.ctx.enter side params.volume sl tp (entryComment side) := by
  unfold enter at sent
  split at sent
  · cases sent
    cases member
  · rename_i worth
    refine ⟨by simpa using worth, ?_⟩
    split at sent
    · cases made : params.trailing.manager params.symbol atrValue with
      | error error =>
          rw [made] at sent
          cases sent
      | ok manager =>
          rw [made] at sent
          cases sent
          rw [List.mem_singleton.mp member]
          exact ⟨none, rfl⟩
    all_goals
      cases sent
      rw [List.mem_singleton.mp member]
      exact ⟨_, rfl⟩

/-- What is sent, is sent by `enter`. -/
theorem pullback_cases {filter : TrendingFilter}
    (sent : pullback params filter scene bar = .ok entries) :
    entries = [] ∨ ∃ side sl tp atrValue,
      enter params scene.ctx side bar sl tp atrValue = .ok entries := by
  unfold pullback at sent
  split at sent
  · split at sent
    · cases sent
      exact .inl rfl
    · split at sent
      · cases sent
        exact .inl rfl
      · split at sent
        · cases sent
        · cases sent
          exact .inl rfl
        · rename_i side atrValue _
          dsimp only at sent
          split at sent
          · split at sent
            · cases sent
              exact .inl rfl
            · split at sent
              · cases sent
              · exact .inr ⟨_, _, _, _, sent⟩
          · cases sent
            exact .inl rfl
  · cases sent
    exact .inl rfl

/-- What `on_bar` does at an entry bar. -/
theorem onBar_cases (own : params.isEntry bar = true) :
    (onBar params strategy scene bar).strategy.book =
        strategy.book.nextBar params.toScalperCadence bar.time ∧
      (onBar params strategy scene bar).closes =
        (strategy.book.nextBar params.toScalperCadence bar.time).timeExits
          params.toScalperCadence scene.ctx exitReason ∧
      ((onBar params strategy scene bar).sent = [] ∨
        ((strategy.book.nextBar params.toScalperCadence bar.time).mayEnter
            params.toScalperCadence scene.positions = true ∧
          (onBar params strategy scene bar).entries =
            pullback params strategy.trendingFilter scene bar)) := by
  unfold onBar
  rw [if_neg (by simp [own])]
  dsimp only
  split
  · exact ⟨rfl, rfl, .inl rfl⟩
  · rename_i gates
    have may := (not_or.mp gates).2
    rw [Bool.not_eq_false] at may
    exact ⟨rfl, rfl, .inr ⟨may, rfl⟩⟩

theorem onBar_symbol (member : entry ∈ (onBar params strategy scene bar).sent) :
    entry.signal.symbol = scene.ctx.symbol := by
  cases own : params.isEntry bar with
  | false =>
      unfold onBar at member
      rw [if_pos own] at member
      cases member
  | true =>
      rcases (onBar_cases own).2.2 with none_ | ⟨-, tried⟩
      · rw [none_] at member
        cases member
      · rw [ScalperTurn.sent, tried] at member
        cases ends : pullback params strategy.trendingFilter scene bar with
        | error error =>
            rw [ends] at member
            cases member
        | ok entries =>
            rw [ends] at member
            rcases pullback_cases ends with nothing | ⟨side, sl, tp, atrValue, entered⟩
            · rw [nothing] at member
              cases member
            · obtain ⟨tp, signal⟩ := (enter_sent entered member).2
              rw [signal, StrategyContext.enter_symbol]

/-- The strategy with some parameters. -/
def scalper (params : VwapPullbackContinuationParams) : SessionScalper where
  State := VwapPullbackContinuation
  cadence := params.toScalperCadence
  exitReason := exitReason
  start := start params
  book := book
  onBar scene bar strategy := onBar params strategy scene bar
  onOrderFilled ctx order strategy :=
    { strategy with book := strategy.book.onOrderFilled ctx order }
  onPositionClosed position strategy :=
    { strategy with book := strategy.book.onPositionClosed position }
  book_start := rfl
  book_onOrderFilled _ _ _ := rfl
  book_onPositionClosed _ _ := rfl
  onBar_other _ _ _ other := if_pos other
  book_onBar _ _ _ own := (onBar_cases own).1
  closes_onBar _ _ _ own := (onBar_cases own).2.1
  mayEnter_onBar scene bar strategy sent := by
    cases own : params.isEntry bar with
    | false =>
        unfold onBar at sent
        rw [if_pos own] at sent
        exact absurd rfl sent
    | true =>
        rcases (onBar_cases own).2.2 with none_ | ⟨may, -⟩
        · exact absurd none_ sent
        · exact may
  symbol_onBar _ _ _ _ := onBar_symbol

end VwapPullbackContinuation

end StingerFx
