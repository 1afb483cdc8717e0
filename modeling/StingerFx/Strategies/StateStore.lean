/-
Module: StingerFx.Strategies.StateStore
Layer: Strategies
Purpose: Where strategies keep the state of the position they hold: a store in
  memory, and one JSON file that several strategies share. Every change of the file
  reads all of it, changes one entry and writes all of it back. After a restart a
  stored state counts only if it matches an open position.
Trusted boundary: human-reviewed model of the source's state stores; the file holds
  the entries that were written last, and how an access to it ends is given from
  outside
Main exports: PositionState, InMemoryStateStore, ReadResult, WriteResult,
  JsonFileStateStore, StoreCall, JsonFileStateStore.call, InMemoryStateStore.call,
  PositionState.Matches, reconcile
-/
import StingerFx.Domain
import StingerFx.Lib.Dict

namespace StingerFx

open Lib

structure PositionState where
  strategyId : StrategyId
  symbol : Symbol
  side : Side
  entryPrice : ℚ
  ticket : Ticket
  chandelierStop : ℚ
deriving Repr, DecidableEq

/-- How reading the file ends. An error is logged. -/
inductive ReadResult where
  | fine
  | fails
deriving Repr, DecidableEq

/-- How writing the file ends. -/
inductive WriteResult where
  | replaced
  /-- logged; the file is as before -/
  | fails
  /-- no temporary file can be made; the file is as before -/
  | raises
deriving Repr, DecidableEq

/-- What strategies ask a store for. -/
inductive StoreCall where
  | save (state : PositionState) (read : ReadResult) (write : WriteResult)
  | clear (strategyId : StrategyId) (read : ReadResult) (write : WriteResult)
  | load (strategyId : StrategyId) (read : ReadResult)
deriving Repr, DecidableEq

structure InMemoryStateStore where
  states : Dict StrategyId PositionState
deriving DecidableEq

namespace InMemoryStateStore

def create : InMemoryStateStore := ⟨.empty⟩

def load (store : InMemoryStateStore) (strategyId : StrategyId) :
    Option PositionState :=
  store.states.get? strategyId

def save (store : InMemoryStateStore) (state : PositionState) : InMemoryStateStore :=
  ⟨store.states.set state.strategyId state⟩

def clear (store : InMemoryStateStore) (strategyId : StrategyId) :
    InMemoryStateStore :=
  ⟨store.states.erase strategyId⟩

/-- The store after a call. -/
def call (store : InMemoryStateStore) : StoreCall → InMemoryStateStore
  | .save state _ _ => store.save state
  | .clear strategyId _ _ => store.clear strategyId
  | .load _ _ => store

end InMemoryStateStore

structure JsonFileStateStore where
  /-- the entries of the file; a file that does not exist has none -/
  file : Dict StrategyId PositionState
deriving DecidableEq

namespace JsonFileStateStore

def create : JsonFileStateStore := ⟨.empty⟩

/-- `_read_all`: without a readable file there is no state. -/
def readAll (store : JsonFileStateStore) : ReadResult → Dict StrategyId PositionState
  | .fine => store.file
  | .fails => .empty

/-- `_write_all`. -/
def writeAll (store : JsonFileStateStore) (data : Dict StrategyId PositionState) :
    WriteResult → JsonFileStateStore
  | .replaced => ⟨data⟩
  | .fails | .raises => store

def load (store : JsonFileStateStore) (strategyId : StrategyId) (read : ReadResult) :
    Option PositionState :=
  (store.readAll read).get? strategyId

def save (store : JsonFileStateStore) (state : PositionState) (read : ReadResult)
    (write : WriteResult) : JsonFileStateStore :=
  store.writeAll ((store.readAll read).set state.strategyId state) write

/-- `clear`: an entry that is not there is not written away. -/
def clear (store : JsonFileStateStore) (strategyId : StrategyId) (read : ReadResult)
    (write : WriteResult) : JsonFileStateStore :=
  if (store.readAll read).get? strategyId = none then store
  else store.writeAll ((store.readAll read).erase strategyId) write

/-- The store after a call. -/
def call (store : JsonFileStateStore) : StoreCall → JsonFileStateStore
  | .save state read write => store.save state read write
  | .clear strategyId read write => store.clear strategyId read write
  | .load _ _ => store

end JsonFileStateStore

/-! ### After a restart -/

/-- `1e-6`. -/
def entryTolerance : ℚ := 1 / 1000000

/-- A state is of a position with its ticket, symbol, side and entry price. -/
def PositionState.Matches (state : PositionState) (symbol : Symbol)
    (pos : Position) : Prop :=
  pos.ticket = state.ticket ∧ pos.symbol = symbol ∧ pos.side = state.side ∧
    |pos.openPrice - state.entryPrice| ≤ entryTolerance

instance (state : PositionState) (symbol : Symbol) (pos : Position) :
    Decidable (state.Matches symbol pos) := by
  unfold PositionState.Matches
  infer_instance

/-- The persisted state, if it still matches an open position. -/
def reconcile (persisted : Option PositionState) (positions : List Position)
    (strategyId : StrategyId) (symbol : Symbol) : Option PositionState :=
  match persisted with
  | none => none
  | some state =>
      if state.strategyId ≠ strategyId ∨ state.symbol ≠ symbol then none
      else if ∃ pos ∈ positions, state.Matches symbol pos then some state
      else none

end StingerFx
