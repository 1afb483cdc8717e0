/-
Module: StingerFx.Backtest.Mt5Tester
Layer: Backtest
Purpose: The driver of the MT5 Strategy Tester and the expert advisor inside of it.
  The advisor asks with every tick over a request socket and applies the action in
  the reply; the driver queues an order for every signal of the strategy and sends
  one of them with each reply. A request socket that has asked must be answered
  before it can ask again.
Trusted boundary: human-reviewed model of the source's tester driver and its MQL5
  advisor; ZeroMQ's request and reply sockets; the number texts of Python and MQL5
  are parameters
Main exports: jsonField, ShimDeal, applyAction, Mt5Tester, Mt5Tester.signalSink?,
  Mt5Tester.actionEntries, TesterLink, TesterLink.Step
-/
import StingerFx.Domain
import StingerFx.Lib.FlatJson
import StingerFx.Lib.Runs

namespace StingerFx

open Lib

/-! ### The expert advisor -/

def actionKey : List Char := ['a', 'c', 't', 'i', 'o', 'n']
def volumeKey : List Char := ['v', 'o', 'l', 'u', 'm', 'e']
def slKey : List Char := ['s', 'l']
def tpKey : List Char := ['t', 'p']

def noneText : List Char := ['N', 'O', 'N', 'E']
def buyText : List Char := ['B', 'U', 'Y']
def sellText : List Char := ['S', 'E', 'L', 'L']
def closeText : List Char := ['C', 'L', 'O', 'S', 'E']

def shimDefaultVolume : ℚ := 1 / 100

/-- The value after the first occurrence of a quoted key; empty when there is
none. -/
def jsonField (body key : List Char) : List Char :=
  match findText (quoted key) body with
  | none => []
  | some found =>
      match found.dropWhile fun c => decide (c ≠ ':') with
      | [] => []
      | _ :: value =>
          (value.dropWhile fun c => decide (c = ' ' ∨ c = quoteMark)).takeWhile
            fun c => decide (c ≠ quoteMark ∧ c ≠ ',' ∧ c ≠ closeBrace)

/-- What the advisor asks of its terminal, on the symbol of its chart. -/
inductive ShimDeal where
  | order (side : Side) (volume sl tp : ℚ)
  | closeAll
deriving Repr, DecidableEq

/-- What a reply makes the advisor do. -/
def applyAction (stringToDouble : List Char → ℚ) (body : List Char) :
    Option ShimDeal :=
  let action := jsonField body actionKey
  if action = [] ∨ action = noneText then none
  else
    let asked := stringToDouble (jsonField body volumeKey)
    let volume := if asked ≤ 0 then shimDefaultVolume else asked
    let slText := jsonField body slKey
    let tpText := jsonField body tpKey
    let sl := if slText = [] then 0 else stringToDouble slText
    let tp := if tpText = [] then 0 else stringToDouble tpText
    if action = buyText then some (.order .buy volume sl tp)
    else if action = sellText then some (.order .sell volume sl tp)
    else if action = closeText then some .closeAll
    else none

/-! ### The driver -/

/-- A driver with its strategy, and how numbers become text and are read again. -/
structure Mt5Tester where
  strategyId : StrategyId
  magic : Int
  /-- the text of a number in `json.dumps` -/
  number : ℚ → List Char
  stringToDouble : List Char → ℚ

namespace Mt5Tester

variable (tester : Mt5Tester)

/-- The order that a signal becomes, always at the market; building it raises when
the volume is negative. -/
def signalSink? (signal : Signal) : Option OrderRequest :=
  let volume := (truthy signal.suggestedVolume).getD (1 / 100)
  if positive : 0 < volume then
    some
      { strategyId := tester.strategyId
        symbol := signal.symbol
        side := signal.side
        type := .market
        volume := volume
        price := none
        sl := signal.suggestedSl
        tp := signal.suggestedTp
        comment := signal.comment
        magic := tester.magic
        clientOrderId := ""
        volume_pos := positive }
  else none

def actionText : Side → List Char
  | .buy => buyText
  | .sell => sellText

/-- The reply for the order that is taken from the queue, if there is one. -/
def actionEntries : Option OrderRequest → List (List Char × FlatValue)
  | none => [(actionKey, .text noneText)]
  | some request =>
      [(actionKey, .text (actionText request.side)),
        (volumeKey, .number (tester.number request.volume))] ++
        (request.sl.map fun sl => (slKey, FlatValue.number (tester.number sl))).toList ++
        (request.tp.map fun tp => (tpKey, FlatValue.number (tester.number tp))).toList

end Mt5Tester

/-! ### Both ends of the socket -/

inductive ShimState where
  | ready
  /-- inside `OnTick`, until the reply is there -/
  | awaiting
  /-- a reply did not come in time; the socket refuses to send -/
  | wedged
deriving Repr, DecidableEq

structure TesterLink where
  shim : ShimState
  /-- the tick on its way to the driver -/
  asked : Option Tick
  /-- the driver has taken the tick and not replied yet -/
  serving : Bool
  /-- the reply on its way to the advisor -/
  reply : Option (List Char)
  pendingOrders : List OrderRequest
  /-- the driver's loop has ended with an exception -/
  failed : Bool
  /-- every order that was queued; nothing reads it -/
  signalled : List OrderRequest
  /-- what the advisor did; nothing reads it -/
  executed : List ShimDeal
deriving Repr, DecidableEq

inductive TesterLabel where
  /-- a tick arrives in the tester -/
  | onTick (tick : Tick)
  /-- the driver receives the tick -/
  | recv
  /-- the strategy signals -/
  | signal (signal : Signal)
  /-- the driver replies -/
  | send
  /-- the driver raises on the tick -/
  | raises
  /-- the advisor receives the reply -/
  | applies
  /-- the advisor gives up waiting for the reply -/
  | timeout
deriving Repr, DecidableEq

namespace TesterLink

def start : TesterLink := ⟨.ready, none, false, none, [], false, [], []⟩

variable (tester : Mt5Tester)

def step? (s : TesterLink) : TesterLabel → Option TesterLink
  | .onTick tick =>
      match s.shim with
      | .ready => some { s with shim := .awaiting, asked := some tick }
      | .awaiting => none
      -- `zmq_send` fails, and `OnTick` returns
      | .wedged => some s
  | .recv =>
      if s.asked.isSome ∧ s.failed = false then
        some { s with asked := none, serving := true }
      else none
  | .signal signal =>
      match tester.signalSink? signal with
      | none => some s
      | some request =>
          some
            { s with
              pendingOrders := s.pendingOrders ++ [request]
              signalled := s.signalled ++ [request] }
  | .send =>
      if s.serving then
        some
          { s with
            serving := false
            reply := some (dumps (tester.actionEntries s.pendingOrders.head?))
            pendingOrders := s.pendingOrders.tail }
      else none
  | .raises =>
      if s.serving then some { s with serving := false, failed := true } else none
  | .applies =>
      match s.shim, s.reply with
      | .awaiting, some body =>
          some
            { s with
              shim := .ready
              reply := none
              executed := s.executed ++
                (applyAction tester.stringToDouble body).toList }
      | _, _ => none
  | .timeout =>
      match s.shim with
      | .awaiting => some { s with shim := .wedged }
      | _ => none

def Step : TesterLink → TesterLabel → TesterLink → Prop :=
  stepOf? (step? tester)

end TesterLink

end StingerFx
