/-
Module: StingerFx.Strategies.Examples.LiquiditySweepReversal
Layer: Strategies
Purpose: The strategy that fades a sweep of a quiet market's range. Its orders go
  against a bar that reached beyond the channel of the structure bars and closed
  inside of it again. A bar that did so on both sides makes it send both orders,
  unless the first is a position before the second is looked at.
Trusted boundary: human-reviewed model of the source's liquidity sweep strategy
Main exports: LiquiditySweepReversalParams, LiquiditySweepReversal,
  LiquiditySweepReversal.onBar, LiquiditySweepReversal.scalper
-/
import StingerFx.Strategies.Examples.SessionScalper

namespace StingerFx

open Lib Time

inductive LsrTpMode where
  | mid
  | vwap
  | fixedR
deriving Repr, DecidableEq

/-- The parameters, within the bounds that validation checks. -/
structure LiquiditySweepReversalParams extends ScalperCadence where
  regimeTimeframe : Timeframe
  rangeLookbackBars : Nat
  minRangeAtr : ℚ
  maxRangeAtr : ℚ
  adxPeriod : Nat
  maxAdx : ℚ
  atrPeriod : Nat
  sweepBufferAtr : ℚ
  reentryBufferAtr : ℚ
  stopBufferAtr : ℚ
  tpMode : LsrTpMode
  takeProfitR : ℚ
  minRr : ℚ
  useSessionFilter : Bool
  lookback_bounds : 10 ≤ rangeLookbackBars ∧ rangeLookbackBars ≤ 200
  range_bounds : 0 < minRangeAtr ∧ 0 < maxRangeAtr
  adx_bounds : 5 ≤ adxPeriod ∧ adxPeriod ≤ 50 ∧ 0 < maxAdx
  atrPeriod_bounds : 5 ≤ atrPeriod ∧ atrPeriod ≤ 50
  buffers_bounds : 0 ≤ sweepBufferAtr ∧ 0 ≤ reentryBufferAtr ∧ 0 < stopBufferAtr
  reward_bounds : 0 < takeProfitR ∧ 0 < minRr
deriving Repr

/-- The parameters when the configuration gives none. -/
def LiquiditySweepReversalParams.default : LiquiditySweepReversalParams where
  symbol := "XAUUSD"
  entryTimeframe := .m1
  structureTimeframe := .m5
  sessionStartHourUtc := 0
  sessionEndHourUtc := 16
  volume := 1 / 100
  maxHoldBars := 8
  cooldownBars := 5
  maxTradesPerSession := 4
  regimeTimeframe := .m15
  rangeLookbackBars := 36
  minRangeAtr := 4 / 5
  maxRangeAtr := 4
  adxPeriod := 14
  maxAdx := 22
  atrPeriod := 14
  sweepBufferAtr := 8 / 100
  reentryBufferAtr := 3 / 100
  stopBufferAtr := 12 / 100
  tpMode := .mid
  takeProfitR := 6 / 5
  minRr := 4 / 5
  useSessionFilter := true
  sessionEnd_bounds := sixteen_sessionEnd
  cadence_bounds := by norm_num
  lookback_bounds := by decide
  range_bounds := by norm_num
  adx_bounds := by norm_num
  atrPeriod_bounds := fourteen_atrPeriod
  buffers_bounds := by norm_num
  reward_bounds := by norm_num

structure LiquiditySweepReversal where
  book : SessionBook

namespace LiquiditySweepReversal

variable (params : LiquiditySweepReversalParams)

def start : LiquiditySweepReversal := ⟨.create⟩

/-- `_compute_tp`. -/
def computeTp (side : Side) (entry sl : ℚ) (channels : DonchianChannels)
    (m5Bars : List Bar) (barTime : Time) : Option ℚ :=
  match params.tpMode with
  | .mid => some channels.middle
  | .fixedR => riskTarget entry sl side params.takeProfitR
  | .vwap =>
      let boundary := sessionStart barTime params.sessionStartHourUtc
      let sessionBars := m5Bars.filter fun bar => decide (boundary ≤ bar.time)
      some ((vwapSession sessionBars).getD channels.middle)

/-- What `on_bar` has found before it looks for a sweep. -/
structure Setup where
  channels : DonchianChannels
  atrValue : ℚ
  m5Bars : List Bar
deriving Repr, DecidableEq

/-- A bar that swept an end of the channel and came back. -/
def swept (setup : Setup) (side : Side) (bar : Bar) : Bool :=
  let sweepBuf := params.sweepBufferAtr * setup.atrValue
  let reentryBuf := params.reentryBufferAtr * setup.atrValue
  match side with
  | .sell =>
      decide (setup.channels.upper + sweepBuf ≤ bar.high ∧
        bar.close ≤ setup.channels.upper - reentryBuf)
  | .buy =>
      decide (bar.low ≤ setup.channels.lower - sweepBuf ∧
        setup.channels.lower + reentryBuf ≤ bar.close)

/-- The stop of an entry, beyond the sweep. -/
def stop (setup : Setup) (side : Side) (bar : Bar) : ℚ :=
  let stopBuf := params.stopBufferAtr * setup.atrValue
  match side with
  | .sell => bar.high + stopBuf
  | .buy => bar.low - stopBuf

def entryComment : Side → String
  | .buy => "sweep_reversal_long"
  | .sell => "sweep_reversal_short"

/-- `_maybe_enter_short` and `_maybe_enter_long`. -/
def maybeEnter (ctx : StrategyContext) (setup : Setup) (side : Side) (bar : Bar) :
    List ScalperEntry :=
  if swept params setup side bar = false then []
  else
    let entry := bar.close
    let sl := stop params setup side bar
    let tp := computeTp params side entry sl setup.channels setup.m5Bars bar.time
    if rrOk entry sl tp side params.minRr = false then []
    else [⟨ctx.enter side params.volume sl tp (entryComment side), none⟩]

/-- From the bars to the setup, when the market is quiet and the range of the right
size. The last structure bar is not part of the channel. -/
def setup? (scene : ScalperScene) : Except IndicatorError (Option Setup) :=
  match scene.history params.structureTimeframe,
      scene.history params.regimeTimeframe with
  | some m5Bars, some m15Bars =>
      if m5Bars.length < params.rangeLookbackBars + 1 then .ok none
      else if m15Bars.length < 2 * params.adxPeriod then .ok none
      else do
        match ← adx m15Bars params.adxPeriod with
        | none => return none
        | some adxResult =>
            if params.maxAdx < adxResult.adx then return none
            else
              let structureWindow := lastN params.rangeLookbackBars m5Bars.dropLast
              match ← donchian structureWindow params.rangeLookbackBars,
                  ← StingerFx.atr m5Bars params.atrPeriod with
              | some channels, some atrValue =>
                  let rangeWidth := channels.upper - channels.lower
                  if atrValue ≤ 0 then return none
                  else if rangeWidth < params.minRangeAtr * atrValue then return none
                  else if params.maxRangeAtr * atrValue < rangeWidth then return none
                  else return some ⟨channels, atrValue, m5Bars⟩
              | _, _ => return none
  | _, _ => .ok none

/-- The end of `on_bar`: the short side first, and the long side where the symbol has
still no position. -/
def reversal (scene : ScalperScene) (setup : Setup) (bar : Bar) : List ScalperEntry :=
  let short := maybeEnter params scene.ctx setup .sell bar
  let positions := if short.isEmpty then scene.positions else scene.positionsLater
  if (forSymbol positions params.symbol).isEmpty then
    short ++ maybeEnter params scene.ctx setup .buy bar
  else short

def exitReason : String := "sweep_reversal_time_exit"

def onBar (strategy : LiquiditySweepReversal) (scene : ScalperScene) (bar : Bar) :
    ScalperTurn LiquiditySweepReversal :=
  if params.isEntry bar = false then .idle strategy
  else
    let book := strategy.book.nextBar params.toScalperCadence bar.time
    let closes := book.timeExits params.toScalperCadence scene.ctx exitReason
    if (params.useSessionFilter && !params.inSession bar.time) ∨
        book.mayEnter params.toScalperCadence scene.positions = false then
      ⟨⟨book⟩, closes, .ok []⟩
    else
      match setup? params scene with
      | .error error => ⟨⟨book⟩, closes, .error (.indicator error)⟩
      | .ok none => ⟨⟨book⟩, closes, .ok []⟩
      | .ok (some setup) => ⟨⟨book⟩, closes, .ok (reversal params scene setup bar)⟩

/-! ### A session strategy -/

variable {params} {strategy : LiquiditySweepReversal} {scene : ScalperScene}
variable {bar : Bar} {setup : Setup} {entry : ScalperEntry}

/-- What one side sends: an order whose reward is worth its risk, against a sweep. -/
theorem maybeEnter_sent {side : Side}
    (member : entry ∈ maybeEnter params scene.ctx setup side bar) :
    let sl := stop params setup side bar
    swept params setup side bar = true ∧
      rrOk bar.close sl
        (computeTp params side bar.close sl setup.channels setup.m5Bars bar.time) side
          params.minRr = true ∧
      ∃ tp, entry.signal =
        scene.ctx.enter side params.volume sl tp (entryComment side) := by
  unfold maybeEnter at member
  split at member
  · cases member
  · rename_i reached
    dsimp only at member
    split at member
    · cases member
    · rename_i worth
      refine ⟨by simpa using reached, by simpa using worth, ?_⟩
      rw [List.mem_singleton.mp member]
      exact ⟨_, rfl⟩

/-- The short order, and the long one behind it or not. -/
theorem reversal_cases :
    reversal params scene setup bar =
        maybeEnter params scene.ctx setup .sell bar ++
          maybeEnter params scene.ctx setup .buy bar ∨
      reversal params scene setup bar =
        maybeEnter params scene.ctx setup .sell bar := by
  unfold reversal
  dsimp only
  generalize (if (maybeEnter params scene.ctx setup .sell bar).isEmpty then
    scene.positions else scene.positionsLater) = positions
  split
  · exact .inl rfl
  · exact .inr rfl

theorem mem_reversal (member : entry ∈ reversal params scene setup bar) :
    ∃ side, entry ∈ maybeEnter params scene.ctx setup side bar := by
  rcases @reversal_cases params scene bar setup with both | short
  · rw [both] at member
    rcases List.mem_append.mp member with short | long
    · exact ⟨.sell, short⟩
    · exact ⟨.buy, long⟩
  · rw [short] at member
    exact ⟨.sell, member⟩

/-- What `on_bar` does at an entry bar. -/
theorem onBar_cases (own : params.isEntry bar = true) :
    (onBar params strategy scene bar).strategy.book =
        strategy.book.nextBar params.toScalperCadence bar.time ∧
      (onBar params strategy scene bar).closes =
        (strategy.book.nextBar params.toScalperCadence bar.time).timeExits
          params.toScalperCadence scene.ctx exitReason ∧
      ((onBar params strategy scene bar).sent = [] ∨
        ((strategy.book.nextBar params.toScalperCadence bar.time).mayEnter
            params.toScalperCadence scene.positions = true ∧
          ∃ setup, (onBar params strategy scene bar).sent =
            reversal params scene setup bar)) := by
  unfold onBar
  rw [if_neg (by simp [own])]
  dsimp only
  split
  · exact ⟨rfl, rfl, .inl rfl⟩
  · rename_i gates
    have may := (not_or.mp gates).2
    rw [Bool.not_eq_false] at may
    split
    · exact ⟨rfl, rfl, .inl rfl⟩
    · exact ⟨rfl, rfl, .inl rfl⟩
    · rename_i setup _
      exact ⟨rfl, rfl, .inr ⟨may, setup, rfl⟩⟩

/-- The strategy with some parameters. -/
def scalper (params : LiquiditySweepReversalParams) : SessionScalper where
  State := LiquiditySweepReversal
  cadence := params.toScalperCadence
  exitReason := exitReason
  start := start
  book := book
  onBar scene bar strategy := onBar params strategy scene bar
  onOrderFilled ctx order strategy := ⟨strategy.book.onOrderFilled ctx order⟩
  onPositionClosed position strategy := ⟨strategy.book.onPositionClosed position⟩
  book_start := rfl
  book_onOrderFilled _ _ _ := rfl
  book_onPositionClosed _ _ := rfl
  onBar_other _ _ _ other := if_pos other
  book_onBar _ _ _ own := (onBar_cases own).1
  closes_onBar _ _ _ own := (onBar_cases own).2.1
  mayEnter_onBar scene bar strategy sent := by
    cases own : params.isEntry bar with
    | false =>
        unfold onBar at sent
        rw [if_pos own] at sent
        exact absurd rfl sent
    | true =>
        rcases (onBar_cases own).2.2 with none_ | ⟨may, -⟩
        · exact absurd none_ sent
        · exact may
  symbol_onBar scene bar strategy entry member := by
    cases own : params.isEntry bar with
    | false =>
        unfold onBar at member
        rw [if_pos own] at member
        cases member
    | true =>
        rcases (onBar_cases own).2.2 with none_ | ⟨-, setup, sent⟩
        · rw [none_] at member
          cases member
        · rw [sent] at member
          obtain ⟨side, tried⟩ := mem_reversal member
          obtain ⟨tp, signal⟩ := (maybeEnter_sent tried).2.2
          rw [signal, StrategyContext.enter_symbol]

end LiquiditySweepReversal

end StingerFx
