/-
Module: StingerFx.Strategies.Examples.OneTicket
Layer: Strategies
Purpose: What the four scalpers that follow a single ticket share: the ticket of the
  last fill, the bars since, and the cooldown behind its close; the distances of stop
  and target, the gate of the volatility and the trend of two averages. Around such a
  strategy stands everything that can happen to it: bars, fills, closes and orders
  that come to nothing, in any order.
Trusted boundary: human-reviewed model of what the source's four single-ticket
  scalpers have in common; the broker uses no ticket twice
Main exports: TicketCadence, TicketBook, TicketScene, TicketTurn, AtrBarriers,
  VolGate, EmaTrend, TicketScalper, TicketDesk, TicketLabel, TicketDesk.step?,
  TicketDesk.Step
-/
import StingerFx.Lib.Runs
import StingerFx.Strategies.Examples.SessionScalper
import StingerFx.Strategies.HistoryView

namespace StingerFx

open Lib Time

/-- The parameters that the four have in common, within the bounds that validation
checks. -/
structure TicketCadence where
  symbol : Symbol
  entryTimeframe : Timeframe
  volume : ℚ
  maxHoldBars : Nat
  cooldownBars : Nat
  volume_pos : 0 < volume
  hold_bounds : 1 ≤ maxHoldBars ∧ maxHoldBars ≤ 10000
  cooldown_bounds : cooldownBars ≤ 10000

/-! The defaults that they have in common are within their bounds. -/

theorem hundredth_pos : (0 : ℚ) < 1 / 100 := by norm_num

theorem thirty_hold : 1 ≤ 30 ∧ 30 ≤ 10000 := by decide

theorem five_cooldown : 5 ≤ 10000 := by decide

theorem fourteen_period : 2 ≤ 14 ∧ 14 ≤ 50 := by decide

theorem fifty_lookback : 2 ≤ 50 ∧ 50 ≤ 500 := by decide

theorem twenty_fast : 2 ≤ 20 ∧ 20 ≤ 200 := by decide

theorem fifty_slow : 5 ≤ 50 ∧ 50 ≤ 400 := by decide

def TicketCadence.default : TicketCadence where
  symbol := "XAUUSD"
  entryTimeframe := .m1
  volume := 1 / 100
  maxHoldBars := 30
  cooldownBars := 5
  volume_pos := hundredth_pos
  hold_bounds := thirty_hold
  cooldown_bounds := five_cooldown

/-- A bar of the entry feed; the hooks ignore all others. -/
def TicketCadence.isEntry (cadence : TicketCadence) (bar : Bar) : Bool :=
  decide (bar.symbol = cadence.symbol ∧ bar.timeframe = cadence.entryTimeframe)

/-- What a strategy remembers of its position. -/
structure TicketBook where
  /-- `_open_ticket` and `_open_side`, which are set and reset together -/
  held : Option (Ticket × Side)
  openBars : Nat
  cooldownLeft : Nat
deriving Repr, DecidableEq

namespace TicketBook

def create : TicketBook := ⟨none, 0, 0⟩

variable (book : TicketBook)

/-- The ticket that it follows. -/
def ticket : Option Ticket := book.held.map Prod.fst

def onOrderFilled (ctx : StrategyContext) (order : Order) : TicketBook :=
  if order.strategyId = ctx.strategyId ∧ order.ticket ≠ 0 then
    { book with held := some (order.ticket, order.side), openBars := 0 }
  else book

def onPositionClosed (cadence : TicketCadence) (position : Position) : TicketBook :=
  if book.ticket = some position.ticket then ⟨none, 0, cadence.cooldownBars⟩ else book

/-- What `on_bar` does before it looks for an entry: a position is closed when it is
held too long, or when the strategy has another reason, and otherwise the cooldown
runs. -/
structure Gated where
  book : TicketBook
  closes : List ClosePositionRequest
  /-- an entry may follow -/
  free : Bool

def gate (cadence : TicketCadence) (ctx : StrategyContext) (reason : String)
    (exitNow : Side → Bool) : Gated :=
  match book.held with
  | some (ticket, side) =>
      { book := { book with openBars := book.openBars + 1 }
        closes :=
          if exitNow side ∨ cadence.maxHoldBars ≤ book.openBars + 1 then
            [ctx.close ticket reason]
          else []
        free := false }
  | none =>
      if 0 < book.cooldownLeft then
        ⟨{ book with cooldownLeft := book.cooldownLeft - 1 }, [], false⟩
      else ⟨book, [], true⟩

variable {book} {cadence : TicketCadence} {ctx : StrategyContext} {reason : String}
variable {exitNow : Side → Bool}

theorem held_gate :
    (book.gate cadence ctx reason exitNow).book.held = book.held ∧
      book.cooldownLeft ≤
        (book.gate cadence ctx reason exitNow).book.cooldownLeft + 1 := by
  unfold gate
  split
  · exact ⟨rfl, Nat.le_succ _⟩
  · split
    · exact ⟨rfl, by dsimp only; omega⟩
    · exact ⟨rfl, Nat.le_succ _⟩

theorem closes_gate {request : ClosePositionRequest}
    (asked : request ∈ (book.gate cadence ctx reason exitNow).closes) :
    book.ticket = some request.ticket := by
  unfold gate at asked
  split at asked
  · rename_i ticket side held
    dsimp only at asked
    split at asked
    · rw [List.mem_singleton.mp asked, TicketBook.ticket, held]
      rfl
    · cases asked
  · split at asked <;> cases asked

theorem free_gate (free : (book.gate cadence ctx reason exitNow).free = true) :
    book.held = none ∧ book.cooldownLeft = 0 := by
  unfold gate at free
  split at free
  · cases free
  · rename_i flat
    split at free
    · cases free
    · rename_i cool
      exact ⟨flat, Nat.eq_zero_of_not_pos cool⟩

end TicketBook

/-- A tick with its volume, which only one hook reads. -/
structure SizedTick extends Tick where
  volume : Int

def SizedTick.mid (tick : SizedTick) : ℚ := (tick.bid + tick.ask) / 2

/-- What a hook sees. -/
structure TicketScene where
  ctx : StrategyContext
  /-- `ctx.history_for(params.symbol, timeframe)` -/
  views : Timeframe → Option HistoryView

/-- An order that a hook sends, and the manager that it attaches behind it. -/
structure TicketEntry where
  signal : Signal
  trailing : Option (Except StopManagerError TrailingStopManager)

/-- What `on_bar` leaves behind: the strategy, the closes that it asks for, and the
order that it sends, unless it raises before. -/
structure TicketTurn (σ : Type) where
  strategy : σ
  closes : List ClosePositionRequest
  entry : Except IndicatorError (Option TicketEntry)

namespace TicketTurn

variable {σ : Type}

/-- The order that is sent. -/
def sent (turn : TicketTurn σ) : Option Signal :=
  match turn.entry with
  | .ok entry => entry.map TicketEntry.signal
  | .error _ => none

/-- A hook that sends nothing. -/
def quiet (strategy : σ) : TicketTurn σ := ⟨strategy, [], .ok none⟩

/-- What is sent behind a gate shows that the gate is open. -/
theorem free_of_sent {strategy : σ} {closes : List ClosePositionRequest} {free : Bool}
    {entry : Except IndicatorError (Option TicketEntry)}
    (fires : TicketTurn.sent
      ⟨strategy, closes, if free then entry else .ok none⟩ ≠ none) :
    free = true := by
  cases free with
  | false => exact absurd rfl fires
  | true => rfl

end TicketTurn

/-! ### Shared gates -/

/-- Stop and target in multiples of the average true range. -/
structure AtrBarriers where
  atrPeriod : Nat
  slAtrMult : ℚ
  /-- 0 for no target -/
  tpAtrMult : ℚ
  atrPeriod_bounds : 2 ≤ atrPeriod ∧ atrPeriod ≤ 50
  mult_bounds : 0 < slAtrMult ∧ 0 ≤ tpAtrMult

/-- The defaults but for the target. -/
def AtrBarriers.withTarget (tpAtrMult : ℚ) (nonneg : 0 ≤ tpAtrMult) : AtrBarriers where
  atrPeriod := 14
  slAtrMult := 1
  tpAtrMult := tpAtrMult
  atrPeriod_bounds := fourteen_period
  mult_bounds := ⟨one_quote_pos, nonneg⟩

/-- `tp_dist`. -/
def AtrBarriers.tpDist (barriers : AtrBarriers) (atrValue : ℚ) : Option ℚ :=
  if 0 < barriers.tpAtrMult then some (atrValue * barriers.tpAtrMult) else none

/-- The order of an entry at the close of a bar. -/
def StrategyContext.enterAt (ctx : StrategyContext) (side : Side)
    (volume entry slDist : ℚ) (tpDist : Option ℚ) (comment : String) : Signal :=
  match side with
  | .buy =>
      ctx.enter .buy volume (entry - slDist) (tpDist.map fun d => entry + d) comment
  | .sell =>
      ctx.enter .sell volume (entry + slDist) (tpDist.map fun d => entry - d) comment

/-- `_attach_trailing_if_enabled`; none when it is off. -/
def attachTrailing (trailing : Option TrailingAtr) (symbol : Symbol) (atrValue : ℚ) :
    Option (Except StopManagerError TrailingStopManager) :=
  trailing.map fun trailing =>
    TrailingStopManager.create (trailing.distanceAtr * atrValue / trailing.point)
      (trailing.activateAtr * atrValue / trailing.point) (some symbol) trailing.point

/-- `sma`. -/
def sma (values : List ℚ) (period : Nat) : Except IndicatorError (Option ℚ) :=
  if period = 0 then .error (.value "period must be > 0")
  else if values.length < period then .ok none
  else do
    let mean ← quotient (lastN period values).sum period
    return some mean

/-- `_true_range_series`. -/
def trueRangeSeries : List Bar → List ℚ
  | [] => []
  | first :: rest => trueRanges first.close rest

/-- The parameters of the volatility gate. -/
structure VolGate where
  lookback : Nat
  mult : ℚ
  lookback_bounds : 2 ≤ lookback ∧ lookback ≤ 500
  mult_pos : 0 < mult

/-- The true range of the last bar is no spike above the mean of those before it. -/
def VolGate.passes (gate : VolGate) (bars : List Bar) : Except IndicatorError Bool :=
  let trSeries := trueRangeSeries bars
  if trSeries.length < gate.lookback + 1 then .ok false
  else do
    match trSeries.getLast?,
        ← sma (lastN (gate.lookback + 1) trSeries).dropLast gate.lookback with
    | some trNow, some trBaseline =>
        return decide (0 < trBaseline ∧ trNow ≤ gate.mult * trBaseline)
    | _, _ => return false

/-- Two averages of a feed of a higher timeframe. -/
structure EmaTrend where
  fast : Nat
  slow : Nat
  fast_bounds : 2 ≤ fast ∧ fast ≤ 200
  slow_bounds : 5 ≤ slow ∧ slow ≤ 400

def EmaTrend.default : EmaTrend := ⟨20, 50, twenty_fast, fifty_slow⟩

/-- Whether the fast average of a feed lets a side pass; none where the feed is
missing or short. -/
def EmaTrend.sides (trend : EmaTrend) (view : Option HistoryView) :
    Except IndicatorError (Option (Side → Bool)) :=
  match view with
  | none => .ok none
  | some view =>
      if view.bars.length < trend.slow then .ok none
      else do
        let closes := view.bars.map Bar.close
        match ← ema closes trend.fast, ← ema closes trend.slow with
        | some emaFast, some emaSlow =>
            return some fun
              | .buy => decide (emaSlow < emaFast)
              | .sell => decide (emaFast < emaSlow)
        | _, _ => return none

/-! ### A strategy that follows one ticket -/

structure TicketScalper where
  State : Type
  cadence : TicketCadence
  /-- why it closes -/
  exitReason : String
  start : State
  book : State → TicketBook
  onTick : SizedTick → State → State
  onBar : TicketScene → Bar → State → TicketTurn State
  onOrderFilled : StrategyContext → Order → State → State
  onPositionClosed : Position → State → State
  book_start : book start = .create
  book_onTick : ∀ tick state, book (onTick tick state) = book state
  book_onOrderFilled : ∀ ctx order state,
    book (onOrderFilled ctx order state) = (book state).onOrderFilled ctx order
  book_onPositionClosed : ∀ position state,
    book (onPositionClosed position state) =
      (book state).onPositionClosed cadence position
  onBar_other : ∀ scene bar state, cadence.isEntry bar = false →
    onBar scene bar state = .quiet state
  /-- a bar does not change what is held, and takes one off the cooldown at most -/
  held_onBar : ∀ scene bar state,
    (book (onBar scene bar state).strategy).held = (book state).held ∧
      (book state).cooldownLeft ≤
        (book (onBar scene bar state).strategy).cooldownLeft + 1
  closes_onBar : ∀ scene bar state, ∀ request ∈ (onBar scene bar state).closes,
    (book state).ticket = some request.ticket
  flat_onBar : ∀ scene bar state, (onBar scene bar state).sent ≠ none →
    (book state).held = none ∧ (book state).cooldownLeft = 0

structure TicketDesk (scalper : TicketScalper) where
  id : StrategyId
  strategy : scalper.State
  /-- the orders whose fill hook can still come -/
  orders : List Signal
  /-- the tickets whose fill hook has run -/
  filled : List Ticket
  /-- what the last hook asked to close; nothing reads it -/
  closes : List ClosePositionRequest
  /-- the orders that were sent; nothing reads it -/
  sent : Nat
  /-- those that were sent while another one was under way; nothing reads it -/
  overlapped : Nat
  /-- the tickets that another fill displaced; nothing reads it -/
  lost : List Ticket
  /-- the entry bars since the last close of a ticket that was held; nothing reads
  it -/
  sinceClose : Option Nat
  /-- these at each order that was sent behind one; nothing reads it -/
  gaps : List Nat

inductive TicketLabel where
  | tick (tick : SizedTick)
  | bar (scene : TicketScene) (bar : Bar)
  | filled (index : Nat) (ctx : StrategyContext) (order : Order)
  /-- the fill of an order will not reach the strategy -/
  | missed (index : Nat)
  | closed (position : Position)

namespace TicketDesk

variable {scalper : TicketScalper}

def boot (scalper : TicketScalper) (id : StrategyId) : TicketDesk scalper where
  id := id
  strategy := scalper.start
  orders := []
  filled := []
  closes := []
  sent := 0
  overlapped := 0
  lost := []
  sinceClose := none
  gaps := []

/-- The desk behind a turn of `on_bar`. -/
def turned (s : TicketDesk scalper) (bar : Bar) (turn : TicketTurn scalper.State) :
    TicketDesk scalper :=
  { s with
    strategy := turn.strategy
    closes := turn.closes
    sinceClose :=
      if scalper.cadence.isEntry bar then s.sinceClose.map fun bars => bars + 1
      else s.sinceClose }

/-- An order is sent. -/
def sends (s : TicketDesk scalper) (signal : Signal) : TicketDesk scalper :=
  { s with
    orders := s.orders ++ [signal]
    sent := s.sent + 1
    overlapped := if s.orders = [] then s.overlapped else s.overlapped + 1
    gaps := s.sinceClose.toList ++ s.gaps }

/-- The fill of one of the strategy's own orders, with a ticket that is new. -/
def FillOf (s : TicketDesk scalper) (ctx : StrategyContext) (order : Order) : Prop :=
  ctx.strategyId = s.id ∧ order.strategyId = s.id ∧ order.ticket ≠ 0 ∧
    order.ticket ∉ s.filled

instance (s : TicketDesk scalper) (ctx : StrategyContext) (order : Order) :
    Decidable (s.FillOf ctx order) := by
  unfold FillOf
  infer_instance

/-- The state after a step, if the step can happen. -/
def step? (s : TicketDesk scalper) : TicketLabel → Option (TicketDesk scalper)
  | .tick tick =>
      some { s with strategy := scalper.onTick tick s.strategy, closes := [] }
  | .bar scene bar =>
      let turn := scalper.onBar scene bar s.strategy
      match turn.sent with
      | none => some (s.turned bar turn)
      | some signal => some ((s.turned bar turn).sends signal)
  | .filled index ctx order =>
      if index < s.orders.length ∧ s.FillOf ctx order then
        some
          { s with
            strategy := scalper.onOrderFilled ctx order s.strategy
            orders := s.orders.eraseIdx index
            filled := order.ticket :: s.filled
            closes := []
            lost := (scalper.book s.strategy).ticket.toList ++ s.lost }
      else none
  | .missed index =>
      if index < s.orders.length then some { s with orders := s.orders.eraseIdx index }
      else none
  | .closed position =>
      some
        { s with
          strategy := scalper.onPositionClosed position s.strategy
          closes := []
          sinceClose :=
            if (scalper.book s.strategy).ticket = some position.ticket then some 0
            else s.sinceClose }

def Step : TicketDesk scalper → TicketLabel → TicketDesk scalper → Prop :=
  stepOf? step?

end TicketDesk

end StingerFx
