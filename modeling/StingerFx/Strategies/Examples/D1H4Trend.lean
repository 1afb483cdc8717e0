/-
Module: StingerFx.Strategies.Examples.D1H4Trend
Layer: Strategies
Purpose: The daily trend strategy. It folds H1 bars into H4 and D1 bars, enters on a
  breakout of the H4 channel inside a daily trend, and keeps a chandelier stop for
  its position that it commits in memory and saves in a file. When the first H4 bar
  after a start is complete it settles what the file said at the start against the
  positions of its view.
Trusted boundary: human-reviewed model of the source's trend strategy. A hook that
  raises stops where it is; what it has changed by then stays changed
Main exports: D1H4TrendParams, D1H4TrendStrategy, D1H4TrendStrategy.start,
  StoreAccess, StoreSite, TrendWork, TrendTurn, TrendHook, TrendHook.run
-/
import StingerFx.Strategies.Aggregation
import StingerFx.Strategies.Context
import StingerFx.Strategies.Indicators.Channels
import StingerFx.Strategies.Indicators.Incremental
import StingerFx.Strategies.Indicators.Wilder
import StingerFx.Strategies.Managers.Stops
import StingerFx.Strategies.StateStore

namespace StingerFx

def h4Cap : Nat := 512
def d1Cap : Nat := 512

/-- The parameters, within the bounds that validation checks. -/
structure D1H4TrendParams where
  symbol : Symbol
  dailyAnchorHour : Fin 24
  weekOpenHour : Fin 24
  weekCloseHour : Nat
  sessionBreakHours : List Nat
  d1FastEma : Nat
  d1SlowEma : Nat
  d1SlopeLookback : Nat
  d1AdxLength : Nat
  d1LongAdxMin : ℚ
  d1ShortAdxMin : ℚ
  d1ExitEma : Nat
  h4FastEma : Nat
  h4SlowEma : Nat
  breakoutLookback : Nat
  atrLength : Nat
  initialStopAtr : ℚ
  maxBreakoutAtr : ℚ
  maxChannelBreakoutAtr : ℚ
  chandelierLookback : Nat
  chandelierAtr : ℚ
  allowShort : Bool
  volume : ℚ
  weekCloseHour_bounds : 1 ≤ weekCloseHour ∧ weekCloseHour ≤ 24
  d1Emas_bounds : 1 ≤ d1FastEma ∧ 2 ≤ d1SlowEma ∧ 1 ≤ d1ExitEma
  d1Lengths_bounds : 1 ≤ d1SlopeLookback ∧ 2 ≤ d1AdxLength
  d1AdxMins_nonneg : 0 ≤ d1LongAdxMin ∧ 0 ≤ d1ShortAdxMin
  h4Emas_bounds : 1 ≤ h4FastEma ∧ 2 ≤ h4SlowEma
  h4Lengths_bounds : 1 ≤ breakoutLookback ∧ 2 ≤ atrLength
  entryFactors_pos : 0 < initialStopAtr ∧ 0 < maxBreakoutAtr ∧ 0 < maxChannelBreakoutAtr
  chandelier_bounds : 1 ≤ chandelierLookback ∧ 0 < chandelierAtr
  volume_pos : 0 < volume
deriving Repr

/-- The parameters when the configuration gives none. -/
def D1H4TrendParams.default : D1H4TrendParams where
  symbol := "XAUUSD"
  dailyAnchorHour := 0
  weekOpenHour := 22
  weekCloseHour := 22
  sessionBreakHours := []
  d1FastEma := 30
  d1SlowEma := 150
  d1SlopeLookback := 3
  d1AdxLength := 14
  d1LongAdxMin := 15
  d1ShortAdxMin := 20
  d1ExitEma := 50
  h4FastEma := 10
  h4SlowEma := 30
  breakoutLookback := 15
  atrLength := 14
  initialStopAtr := 5 / 2
  maxBreakoutAtr := 5 / 2
  maxChannelBreakoutAtr := 5 / 2
  chandelierLookback := 22
  chandelierAtr := 3
  allowShort := true
  volume := 1 / 100
  weekCloseHour_bounds := by decide
  d1Emas_bounds := by decide
  d1Lengths_bounds := by decide
  d1AdxMins_nonneg := by norm_num
  h4Emas_bounds := by decide
  h4Lengths_bounds := by decide
  entryFactors_pos := by norm_num
  chandelier_bounds := by norm_num
  volume_pos := by positivity

structure D1H4TrendStrategy where
  agg : MultiTimeframeAggregator
  h4 : List Bar
  d1 : List Bar
  /-- the position it manages -/
  state : Option PositionState
  /-- what the file said at the start, until it is settled -/
  loaded : Option PositionState
  reconciled : Bool
  /-- an exit is asked for, and the position is not closed yet -/
  pendingExit : Bool
  /-- the initial stop of the order that was sent -/
  entryStop : Option ℚ
  lastEvalH4 : Option Time

namespace D1H4TrendStrategy

/-- `_ingest`: feed a bar, and the H4 bar that it completes. -/
def ingest (strategy : D1H4TrendStrategy) (bar : Bar) :
    D1H4TrendStrategy × Option Bar :=
  let fed := strategy.agg.feed bar
  ({ strategy with
      agg := fed.1
      d1 := fed.2.2.elim strategy.d1 (pushBounded d1Cap strategy.d1)
      h4 := fed.2.1.elim strategy.h4 (pushBounded h4Cap strategy.h4) },
    fed.2.1)

/-- `on_start` of a new instance: what it read from the file, and the bars that the
primary history already has. -/
def start (params : D1H4TrendParams) (loaded : Option PositionState)
    (history : List Bar) : D1H4TrendStrategy :=
  let calendar : ForexWeekCalendar :=
    ⟨params.weekOpenHour, params.weekCloseHour, params.sessionBreakHours⟩
  history.foldl (fun strategy bar => (strategy.ingest bar).1)
    { agg := .create params.symbol params.dailyAnchorHour calendar.session
      h4 := []
      d1 := []
      state := none
      loaded := loaded
      reconciled := false
      pendingExit := false
      entryStop := none
      lastEvalH4 := none }

/-! ### Signals -/

variable (strategy : D1H4TrendStrategy) (params : D1H4TrendParams)

/-- `_d1_regime`: the side of the daily trend, if there is one. -/
def d1Regime : Except IndicatorError (Option Side) :=
  let closes := strategy.d1.map Bar.close
  if closes.length < params.d1SlowEma + params.d1SlopeLookback + 1 then .ok none
  else do
    let fast ← ema closes params.d1FastEma
    let slow ← ema closes params.d1SlowEma
    let slowPrev ← ema (closes.take (closes.length - params.d1SlopeLookback))
      params.d1SlowEma
    let adxRes ← adx strategy.d1 params.d1AdxLength
    match fast, slow, slowPrev, adxRes, closes.getLast? with
    | some fast, some slow, some slowPrev, some adxRes, some close =>
        if slow < close ∧ slow < fast ∧ slowPrev < slow ∧
            params.d1LongAdxMin ≤ adxRes.adx then
          return some .buy
        else if params.allowShort ∧ close < slow ∧ fast < slow ∧ slow < slowPrev ∧
            params.d1ShortAdxMin ≤ adxRes.adx then
          return some .sell
        else return none
    | _, _, _, _, _ => return none

/-- `_chandelier_stop`. -/
def chandelierStop (isLong : Bool) : Except IndicatorError (Option ℚ) :=
  let bars := strategy.h4
  if bars.length < max params.chandelierLookback (params.atrLength + 1) then .ok none
  else do
    let atrV ← StingerFx.atr bars params.atrLength
    let window := lastN params.chandelierLookback bars
    match atrV, (window.map Bar.high).max?, (window.map Bar.low).min? with
    | some atrV, some high, some low =>
        if atrV ≤ 0 then return none
        else if isLong then return some (high - atrV * params.chandelierAtr)
        else return some (low + atrV * params.chandelierAtr)
    | _, _, _ => return none

/-- `_regime_exit`. -/
def regimeExit (isLong : Bool) : Except IndicatorError Bool := do
  let d1Closes := strategy.d1.map Bar.close
  let exitEma ← ema d1Closes params.d1ExitEma
  match exitEma, d1Closes.getLast? with
  | some exitEma, some close =>
      return decide (if isLong then close < exitEma else exitEma < close)
  | _, _ => return false

/-- The side and the initial stop of the entry that `_maybe_enter` finds at a
complete H4 bar. -/
def entry (lastPrice : Option ℚ) (h4 : Bar) :
    Except IndicatorError (Option (Side × ℚ)) := do
  let some side ← strategy.d1Regime params | return none
  -- the breakout bar itself is the last one
  let prior := strategy.h4.dropLast
  if prior.length < max params.breakoutLookback (params.atrLength + 1) then return none
  let dc ← donchian prior params.breakoutLookback
  let atrPrev ← StingerFx.atr prior params.atrLength
  match dc, atrPrev, prior.getLast? with
  | some dc, some atrPrev, some prev =>
      if atrPrev ≤ 0 then return none
      let h4Closes := strategy.h4.map Bar.close
      let h4Fast ← ema h4Closes params.h4FastEma
      let h4Slow ← ema h4Closes params.h4SlowEma
      match h4Fast, h4Slow with
      | some h4Fast, some h4Slow =>
          if atrPrev * params.maxBreakoutAtr < trueRange prev.close h4 then return none
          let entry := lastPrice.getD h4.close
          match side with
          | .buy =>
              if ¬ (h4Slow < h4Fast ∧ dc.upper < h4.close) then return none
              else if atrPrev * params.maxChannelBreakoutAtr < h4.close - dc.upper then
                return none
              else return some (.buy, entry - atrPrev * params.initialStopAtr)
          | .sell =>
              if ¬ (h4Fast < h4Slow ∧ h4.close < dc.lower) then return none
              else if atrPrev * params.maxChannelBreakoutAtr < dc.lower - h4.close then
                return none
              else return some (.sell, entry + atrPrev * params.initialStopAtr)
      | _, _ => return none
  | _, _, _ => return none

end D1H4TrendStrategy

/-! ### What a hook changes -/

/-- How an access of the file ends. -/
structure StoreAccess where
  read : ReadResult
  write : WriteResult
  /-- the engine goes down right behind it -/
  down : Bool
deriving Repr, DecidableEq

/-- Where the hooks access the file; none of them comes twice to one place. -/
inductive StoreSite where
  | reconcileClear
  | reconcileAdopt
  | flatClear
  | manageAdopt
  | setStop
  | filled
  | closed
deriving Repr, DecidableEq

/-- A stop of a position that was committed. -/
structure StopCommit where
  ticket : Ticket
  stop : ℚ
deriving Repr, DecidableEq

def PositionState.commit (state : PositionState) : StopCommit :=
  ⟨state.ticket, state.chandelierStop⟩

/-- What a hook works on, and what it asks for. -/
structure TrendWork where
  strategy : D1H4TrendStrategy
  store : JsonFileStateStore
  signals : List Signal
  moves : List ModifyOrderRequest
  closes : List ClosePositionRequest
  /-- every state that was set in memory; nothing reads it -/
  committed : List StopCommit
  /-- every state that was written to the file; nothing reads it -/
  stored : List StopCommit

/-- The work of a hook, to its end or to where it raises. -/
abbrev TrendTurn := Except TrendWork TrendWork

namespace TrendWork

variable (w : TrendWork)

/-- `self._state = state`. -/
def commit (state : PositionState) : TrendWork :=
  { w with
    strategy := { w.strategy with state := some state }
    committed := w.committed ++ [state.commit] }

/-- The work once `self._store.save(state)` has tried to write. -/
def written (state : PositionState) (access : StoreAccess) : TrendWork :=
  { w with
    store := w.store.save state access.read access.write
    stored :=
      if access.write = .replaced then w.stored ++ [state.commit] else w.stored }

def save (state : PositionState) (access : StoreAccess) : TrendTurn :=
  if access.write = .raises ∨ access.down then .error (w.written state access)
  else .ok (w.written state access)

/-- The work once `self._store.clear(strategy_id)` has tried to write. -/
def cleared (strategyId : StrategyId) (access : StoreAccess) : TrendWork :=
  { w with store := w.store.clear strategyId access.read access.write }

/-- Without an entry nothing is written. -/
def clear (strategyId : StrategyId) (access : StoreAccess) : TrendTurn :=
  if (access.write = .raises ∧
      (w.store.readAll access.read).get? strategyId ≠ none) ∨ access.down then
    .error (w.cleared strategyId access)
  else .ok (w.cleared strategyId access)

/-- An indicator raises. -/
def reading {α : Type} (value : Except IndicatorError α) (next : α → TrendTurn) :
    TrendTurn :=
  match value with
  | .error _ => .error w
  | .ok a => next a

end TrendWork

/-! ### Hooks -/

/-- What the hooks of a strategy see. -/
structure TrendScene where
  ctx : StrategyContext
  params : D1H4TrendParams
  /-- `ctx.position.all()` -/
  positions : List Position
  disk : StoreSite → StoreAccess

namespace TrendScene

variable (scene : TrendScene)

/-- `ctx.position.for_symbol(params.symbol)`. -/
def own : List Position :=
  forSymbol scene.positions scene.params.symbol

/-- The state of a position that the strategy finds, with the position's stop. -/
def adopted (position : Position) : PositionState where
  strategyId := scene.ctx.strategyId
  symbol := position.symbol
  side := position.side
  entryPrice := position.openPrice
  ticket := position.ticket
  chandelierStop := position.sl.getD position.openPrice

/-- `_adopt_position`. -/
def adoptPosition (position : Position) (site : StoreSite) (w : TrendWork) :
    TrendTurn :=
  let w := w.commit (scene.adopted position)
  let w := { w with strategy := { w.strategy with pendingExit := false } }
  w.save (scene.adopted position) (scene.disk site)

/-- `_set_stop`. -/
def setStop (state : PositionState) (stop : ℚ) (w : TrendWork) : TrendTurn :=
  let state := { state with chandelierStop := stop }
  (w.commit state).save state (scene.disk .setStop)

/-- `_clear_state`. -/
def clearState (site : StoreSite) (w : TrendWork) : TrendTurn :=
  let w :=
    { w with
      strategy :=
        { w.strategy with state := none, pendingExit := false, entryStop := none } }
  w.clear scene.ctx.strategyId (scene.disk site)

/-- A state that was loaded and matches nothing is cleared from the file. -/
def dropLoaded (w : TrendWork) : TrendTurn :=
  if w.strategy.loaded = none then .ok w
  else w.clear scene.ctx.strategyId (scene.disk .reconcileClear)

/-- A position without a valid state is managed with a fresh stop. -/
def adoptFirst (w : TrendWork) : TrendTurn :=
  match scene.own with
  | [] => .ok w
  | position :: _ => scene.adoptPosition position .reconcileAdopt w

/-- The loaded state counts, or it is stale. -/
def settleLoaded (w : TrendWork) : TrendTurn :=
  match reconcile w.strategy.loaded scene.own scene.ctx.strategyId
    scene.params.symbol with
  | some restored => .ok (w.commit restored)
  | none => do
      let w ← scene.dropLoaded w
      scene.adoptFirst { w with strategy := { w.strategy with state := none } }

/-- `_reconcile_startup`, once for each start. -/
def reconcileStartup (w : TrendWork) : TrendTurn :=
  if w.strategy.reconciled then .ok w
  else do
    let w ←
      scene.settleLoaded
        { w with strategy := { w.strategy with reconciled := true } }
    .ok { w with strategy := { w.strategy with loaded := none } }

/-- `_maybe_enter`. -/
def maybeEnter (h4 : Bar) (w : TrendWork) : TrendTurn :=
  w.reading (w.strategy.entry scene.params scene.ctx.lastPrice h4) fun
    | none => .ok w
    | some (side, stop) =>
        let signal :=
          match side with
          | .buy => scene.ctx.buy scene.params.volume (some stop) none "d1h4_long"
          | .sell => scene.ctx.sell scene.params.volume (some stop) none "d1h4_short"
        .ok
          { w with
            strategy := { w.strategy with entryStop := some stop }
            signals := w.signals ++ [signal] }

/-- The stop of a state, or a tighter one. -/
def ratcheted (state : PositionState) (newStop : ℚ) : ℚ :=
  match state.side with
  | .buy => max state.chandelierStop newStop
  | .sell => min state.chandelierStop newStop

/-- The ratchet of `_manage_open`: a stop that gets tighter is committed and sent. -/
def ratchet (position : Position) (state : PositionState) (newStop : Option ℚ)
    (w : TrendWork) : TrendTurn :=
  match newStop with
  | none => .ok w
  | some newStop =>
      if ratcheted state newStop = state.chandelierStop then .ok w
      else do
        let w ← scene.setStop state (ratcheted state newStop) w
        .ok
          { w with
            moves :=
              w.moves ++
                (scene.ctx.moveStop position.ticket (some (ratcheted state newStop))
                  none "d1h4_chandelier").toList }

/-- Why `_manage_open` exits, if it does; an exit that did not complete is asked for
again. -/
def exitReason (strategy : D1H4TrendStrategy) (h4 : Bar) (isLong : Bool) (stop : ℚ) :
    Except IndicatorError (Option String) :=
  if strategy.pendingExit then .ok (some "d1h4_retry")
  else do
    if ← strategy.regimeExit scene.params isLong then
      return some "d1h4_regime_exit"
    else if (isLong ∧ h4.close < stop) ∨ (¬ isLong ∧ stop < h4.close) then
      return some "d1h4_chandelier_exit"
    else return none

/-- The exit of `_manage_open`. -/
def exitOpen (h4 : Bar) (position : Position) (isLong : Bool) (stop : ℚ)
    (w : TrendWork) : TrendTurn :=
  w.reading (scene.exitReason w.strategy h4 isLong stop) fun
    | none => .ok w
    | some reason =>
        .ok
          { w with
            strategy := { w.strategy with pendingExit := true }
            closes := w.closes ++ [scene.ctx.close position.ticket reason] }

/-- The state tracks the position. -/
def trackPosition (position : Position) (w : TrendWork) : TrendTurn :=
  if w.strategy.state.map PositionState.ticket = some position.ticket then .ok w
  else scene.adoptPosition position .manageAdopt w

/-- `_manage_open`. -/
def manageOpen (h4 : Bar) (position : Position) (w : TrendWork) : TrendTurn := do
  let w ← scene.trackPosition position w
  match w.strategy.state with
  -- the assertion; not reached
  | none => .error w
  | some state =>
      let isLong := decide (state.side = .buy)
      w.reading (w.strategy.chandelierStop scene.params isLong) fun newStop => do
        let w ← scene.ratchet position state newStop w
        match w.strategy.state with
        -- not reached: a stop stays a stop
        | none => .error w
        | some state => scene.exitOpen h4 position isLong state.chandelierStop w

/-- A state of a position that is gone is dropped. -/
def dropStale (w : TrendWork) : TrendTurn :=
  if w.strategy.state = none ∧ w.strategy.pendingExit = false then .ok w
  else scene.clearState .flatClear w

/-- `_evaluate`. -/
def evaluate (h4 : Bar) (w : TrendWork) : TrendTurn :=
  match scene.own with
  | position :: _ => scene.manageOpen h4 position w
  | [] => do
      let w ← scene.dropStale w
      scene.maybeEnter h4 w

/-- The H4 bar at which `on_bar` evaluates: one that is new and complete. -/
def evaluated (strategy : D1H4TrendStrategy) (bar : Bar) : Option Bar :=
  if bar.symbol ≠ scene.params.symbol ∨ bar.timeframe ≠ .h1 then none
  else
    match (strategy.ingest bar).2 with
    | none => none
    | some newH4 =>
        if ∃ last ∈ strategy.lastEvalH4, newH4.time ≤ last then none else some newH4

def onBar (bar : Bar) (w : TrendWork) : TrendTurn :=
  if bar.symbol ≠ scene.params.symbol ∨ bar.timeframe ≠ .h1 then .ok w
  else
    let w' := { w with strategy := (w.strategy.ingest bar).1 }
    match scene.evaluated w.strategy bar with
    | none => .ok w'
    | some newH4 => do
        let w ←
          scene.reconcileStartup
            { w' with
              strategy := { w'.strategy with lastEvalH4 := some newH4.time } }
        scene.evaluate newH4 w

/-- The state of an order that was filled. -/
def filledState (strategy : D1H4TrendStrategy) (order : Order) : PositionState where
  strategyId := scene.ctx.strategyId
  symbol := order.symbol
  side := order.side
  entryPrice := order.fillPrice.getD 0
  ticket := order.ticket
  chandelierStop := (order.sl.or strategy.entryStop).getD (order.fillPrice.getD 0)

def onOrderFilled (order : Order) (w : TrendWork) : TrendTurn :=
  if order.strategyId ≠ scene.ctx.strategyId ∨ order.ticket = 0 then .ok w
  else
    let state := scene.filledState w.strategy order
    let w := w.commit state
    let w :=
      { w with
        strategy := { w.strategy with pendingExit := false, entryStop := none } }
    w.save state (scene.disk .filled)

def onPositionClosed (position : Position) (w : TrendWork) : TrendTurn :=
  if w.strategy.state.map PositionState.ticket = some position.ticket then
    scene.clearState .closed w
  else .ok w

end TrendScene

/-- A hook that waits for the reload lock. -/
inductive TrendHook where
  | bar (h1 : Bar)
  | filled (order : Order)
  | closed (position : Position)
deriving Repr, DecidableEq

/-- A hook takes its turn. -/
def TrendHook.run (scene : TrendScene) (w : TrendWork) : TrendHook → TrendTurn
  | .bar h1 => scene.onBar h1 w
  | .filled order => scene.onOrderFilled order w
  | .closed position => scene.onPositionClosed position w

end StingerFx
