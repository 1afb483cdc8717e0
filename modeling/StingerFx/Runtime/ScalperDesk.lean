/-
Module: StingerFx.Runtime.ScalperDesk
Layer: Runtime
Purpose: The runner of a session strategy and everything that can happen to it. Bars
  and position events come in any order and their hooks wait for the reload lock; an
  order that was sent is under way until the runner handles its fill, or until its
  fill can no longer come: it was refused or lost, or the runner ignored it.
Trusted boundary: human-reviewed model of the source's strategy runner; the broker
  uses no ticket twice, and a ticket stays on its symbol
Main exports: ScalperHook, ScalperDesk, ScalperLabel, ScalperDesk.boot,
  ScalperDesk.step?, ScalperDesk.Step
-/
import StingerFx.Lib.Runs
import StingerFx.Strategies.Examples.SessionScalper
import StingerFx.Strategies.Runner

namespace StingerFx

open Lib

/-- A hook that waits for the reload lock. -/
inductive ScalperHook where
  | bar (bar : Bar)
  | filled (order : Order)
  | closed (position : Position)
deriving Repr, DecidableEq

structure ScalperDesk (scalper : SessionScalper) where
  runner : PositionRunner
  /-- hooks that wait for the lock, oldest first -/
  hooks : List ScalperHook
  strategy : scalper.State
  /-- the orders under way -/
  orders : List Signal
  /-- the tickets whose fill the runner has seen -/
  filled : List Ticket
  /-- the hooks that took their turn, the newest first; nothing reads it -/
  ran : List ScalperHook
  /-- what the last hook asked to close; nothing reads it -/
  closes : List ClosePositionRequest
  /-- the orders that were sent in this session; nothing reads it -/
  sent : Nat
  /-- the orders that came to nothing in this session; nothing reads it -/
  missed : Nat
  /-- the most that was unsettled when an order of this session was sent: other
  orders under way and close hooks that waited; nothing reads it -/
  unsettled : Nat

inductive ScalperLabel where
  /-- the runner handles a bar -/
  | bar (bar : Bar)
  /-- the runner handles the fill of an order under way -/
  | filled (index : Nat) (order : Order)
  /-- the fill of an order will not come -/
  | missed (index : Nat)
  /-- the runner handles another event of its positions -/
  | event (event : PositionEvent)
  /-- the runner is paused, resumed, stopped or quarantined -/
  | flags (flags : RunnerFlags)
  /-- the oldest hook that waits takes its turn -/
  | turn (now : Time) (lastPrice : Option ℚ) (positionsLater : List Position)
      (history : Timeframe → Option (List Bar))

namespace ScalperDesk

variable {scalper : SessionScalper}

def boot (scalper : SessionScalper) (id : StrategyId) (magic : Int) :
    ScalperDesk scalper where
  runner := .start id magic
  hooks := []
  strategy := scalper.start
  orders := []
  filled := []
  ran := []
  closes := []
  sent := 0
  missed := 0
  unsettled := 0

/-- The hook that the runner queues once its view has an event. -/
def hookOf (runner : PositionRunner) (event : PositionEvent) : List ScalperHook :=
  if runner.flags.active then
    match event with
    | .filled order =>
        if order.strategyId = runner.id ∧ order.trackRaises = false then
          [.filled order]
        else []
    | .closed position => if position.magic = runner.magic then [.closed position] else []
    | .modified _ | .partialClosed _ => []
  else []

/-- What a hook sees at its turn. -/
def scene (s : ScalperDesk scalper) (now : Time) (lastPrice : Option ℚ)
    (positionsLater : List Position) (history : Timeframe → Option (List Bar)) :
    ScalperScene where
  ctx := ⟨s.runner.id, scalper.cadence.symbol, now, lastPrice⟩
  positions := s.runner.positions
  positionsLater := positionsLater
  history := history

/-- The close hooks that wait. -/
def closing (hooks : List ScalperHook) : Nat :=
  hooks.countP fun
    | .closed _ => true
    | _ => false

/-- The strategy behind a turn of `on_bar`; in a new session the counts start
again. -/
def rolledOver (s : ScalperDesk scalper) (turn : ScalperTurn scalper.State) :
    ScalperDesk scalper :=
  let same := (scalper.book turn.strategy).sessionKey =
    (scalper.book s.strategy).sessionKey
  { s with
    strategy := turn.strategy
    closes := turn.closes
    sent := if same then s.sent else 0
    missed := if same then s.missed else 0
    unsettled := if same then s.unsettled else 0 }

/-- Some orders are sent. -/
def sends (s : ScalperDesk scalper) (signals : List Signal) : ScalperDesk scalper :=
  { s with
    orders := s.orders ++ signals
    sent := s.sent + signals.length
    unsettled :=
      max s.unsettled
        (if signals = [] then 0
        else s.orders.length + (signals.length - 1) + closing s.hooks) }

/-- A hook takes its turn. -/
def run (s : ScalperDesk scalper) (scene : ScalperScene) :
    ScalperHook → ScalperDesk scalper
  | .bar bar =>
      let turn := scalper.onBar scene bar s.strategy
      (s.rolledOver turn).sends (turn.sent.map ScalperEntry.signal)
  | .filled order =>
      { s with
        strategy := scalper.onOrderFilled scene.ctx order s.strategy
        closes := [] }
  | .closed position =>
      { s with
        strategy := scalper.onPositionClosed position s.strategy
        closes := [] }

/-- The fill of one of the strategy's own orders, with a ticket that is new. -/
def FillOf (s : ScalperDesk scalper) (sent : Signal) (order : Order) : Prop :=
  order.strategyId = s.runner.id ∧ order.magic = s.runner.magic ∧
    order.symbol = sent.symbol ∧ order.ticket ∉ s.filled

instance (s : ScalperDesk scalper) (sent : Signal) (order : Order) :
    Decidable (s.FillOf sent order) := by
  unfold FillOf
  infer_instance

/-- An event of a position, not a fill, that leaves its ticket on its symbol. -/
def EventOf (s : ScalperDesk scalper) : PositionEvent → Prop
  | .filled _ => False
  | .modified position | .partialClosed position | .closed position =>
      ∀ known ∈ s.runner.positions, known.ticket = position.ticket →
        known.symbol = position.symbol

instance (s : ScalperDesk scalper) (event : PositionEvent) :
    Decidable (s.EventOf event) := by
  unfold EventOf
  split <;> infer_instance

/-- The state after a step, if the step can happen. -/
def step? (s : ScalperDesk scalper) : ScalperLabel → Option (ScalperDesk scalper)
  | .bar bar =>
      if s.runner.flags.active then some { s with hooks := s.hooks ++ [.bar bar] }
      else none
  | .filled index order =>
      match s.orders[index]? with
      | none => none
      | some sent =>
          if s.FillOf sent order then
            let tracked := s.runner.flags.active ∧ order.opened?.isSome
            some
              { s with
                runner := s.runner.handle (.filled order)
                hooks := s.hooks ++ hookOf s.runner (.filled order)
                orders := s.orders.eraseIdx index
                filled := order.ticket :: s.filled
                missed := if tracked then s.missed else s.missed + 1 }
          else none
  | .missed index =>
      if index < s.orders.length then
        some { s with orders := s.orders.eraseIdx index, missed := s.missed + 1 }
      else none
  | .event event =>
      if s.EventOf event then
        some
          { s with
            runner := s.runner.handle event
            hooks := s.hooks ++ hookOf s.runner event }
      else none
  | .flags flags => some { s with runner := { s.runner with flags := flags } }
  | .turn now lastPrice positionsLater history =>
      match s.hooks with
      | [] => none
      | hook :: hooks =>
          some
            ({ s with hooks := hooks, ran := hook :: s.ran }.run
              (s.scene now lastPrice positionsLater history) hook)

def Step : ScalperDesk scalper → ScalperLabel → ScalperDesk scalper → Prop :=
  stepOf? step?

end ScalperDesk

end StingerFx
