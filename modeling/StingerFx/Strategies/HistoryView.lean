/-
Module: StingerFx.Strategies.HistoryView
Layer: Strategies
Purpose: The rolling buffer of one feed with its streaming indicators. A bar that is
  not closed or not newer than the last is dropped; an indicator is made at its
  first request and fed the buffer, and from then on every bar that is taken.
Trusted boundary: human-reviewed model of the source's history view
Main exports: IndicatorKey, Indicator, Indicator.create, Indicator.update,
  HistoryView, HistoryView.appendBar, HistoryView.incremental, HistoryView.rsi,
  HistoryView.atr, HistoryView.stochRsi, ViewEvent, HistoryView.run
-/
import StingerFx.Lib.Dict
import StingerFx.Strategies.Indicators.Incremental

namespace StingerFx

open Lib

/-- The key of a streaming indicator: its kind and its periods. -/
inductive IndicatorKey where
  | rsi (period : Nat)
  | atr (period : Nat)
  | stoch (rsiPeriod stochPeriod kSmooth dSmooth : Nat)
deriving Repr, DecidableEq

inductive Indicator where
  | rsi (inst : IncrementalRSI)
  | atr (inst : IncrementalATR)
  | stoch (inst : IncrementalStochRSI)
deriving Repr, DecidableEq

namespace Indicator

/-- The factory of a key. -/
def create : IndicatorKey → Except IndicatorError Indicator
  | .rsi period => (IncrementalRSI.create period).map .rsi
  | .atr period => (IncrementalATR.create period).map .atr
  | .stoch rsiPeriod stochPeriod kSmooth dSmooth =>
      (IncrementalStochRSI.create rsiPeriod stochPeriod kSmooth dSmooth).map .stoch

/-- The updater of an instance. -/
def update (bar : Bar) : Indicator → Except IndicatorError Indicator
  | .rsi inst => (inst.update bar.close).map fun result => .rsi result.1
  | .atr inst => (inst.update bar).map .atr
  | .stoch inst => (inst.update bar.close).map .stoch

/-- A new instance that is fed some bars. -/
def backFilled (key : IndicatorKey) (bars : List Bar) :
    Except IndicatorError Indicator := do
  let inst ← create key
  bars.foldlM (fun inst bar => inst.update bar) inst

end Indicator

structure HistoryView where
  capacity : Nat
  bars : List Bar
  inc : Dict IndicatorKey Indicator

namespace HistoryView

def create (capacity : Nat) : HistoryView := ⟨capacity, [], .empty⟩

/-- `for _inst, update in self._inc.values(): update(bar)`. -/
def updateAll (bar : Bar) (inc : Dict IndicatorKey Indicator) :
    Except IndicatorError (Dict IndicatorKey Indicator) :=
  inc.items.foldlM
    (fun inc entry => (entry.2.update bar).map fun inst => inc.set entry.1 inst) inc

/-- `append_bar`. -/
def appendBar (view : HistoryView) (isClosed : Bool) (bar : Bar) :
    Except IndicatorError HistoryView :=
  if isClosed = false then .ok view
  else if view.bars.getLast?.any fun last => decide (bar.time ≤ last.time) then
    .ok view
  else do
    let inc ← updateAll bar view.inc
    return { view with bars := pushBounded view.capacity view.bars bar, inc := inc }

/-- `_incremental`. -/
def incremental (view : HistoryView) (key : IndicatorKey) :
    Except IndicatorError (HistoryView × Indicator) :=
  match view.inc.get? key with
  | some inst => .ok (view, inst)
  | none => do
      let inst ← Indicator.backFilled key view.bars
      return ({ view with inc := view.inc.set key inst }, inst)

/-- The value of the RSI instance; an entry under an RSI key is one. -/
def rsi (view : HistoryView) (period : Nat) :
    Except IndicatorError (HistoryView × Option ℚ) :=
  (view.incremental (.rsi period)).map fun
    | (view, .rsi inst) => (view, inst.value)
    | (view, _) => (view, none)

def atr (view : HistoryView) (period : Nat) :
    Except IndicatorError (HistoryView × Option ℚ) :=
  (view.incremental (.atr period)).map fun
    | (view, .atr inst) => (view, inst.value)
    | (view, _) => (view, none)

def stochRsi (view : HistoryView) (rsiPeriod stochPeriod kSmooth dSmooth : Nat) :
    Except IndicatorError (HistoryView × Option (ℚ × ℚ)) :=
  (view.incremental (.stoch rsiPeriod stochPeriod kSmooth dSmooth)).map fun
    | (view, .stoch inst) => (view, inst.value)
    | (view, _) => (view, none)

end HistoryView

/-- What happens to a view: the runner offers a bar, or the strategy asks for an
indicator. -/
inductive ViewEvent where
  | offer (isClosed : Bool) (bar : Bar)
  | ask (key : IndicatorKey)
deriving Repr, DecidableEq

namespace HistoryView

def step (view : HistoryView) : ViewEvent → Except IndicatorError HistoryView
  | .offer isClosed bar => view.appendBar isClosed bar
  | .ask key =>
      match view.incremental key with
      | .ok (next, _) => .ok next
      -- periods that are not valid: the request raises and leaves the view alone
      | .error _ => .ok view

def run (view : HistoryView) (events : List ViewEvent) :
    Except IndicatorError HistoryView :=
  events.foldlM step view

end HistoryView

end StingerFx
