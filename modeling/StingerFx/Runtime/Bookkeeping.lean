/-
Module: StingerFx.Runtime.Bookkeeping
Layer: Runtime
Purpose: The risk monitor behind the queues of its subscriptions, fed by whatever
  a pool of brokers can report. A position is filled once, closed in parts any
  number of times and closed at most once; a close may be delivered twice. Which
  queue is served next is open.
Trusted boundary: human-reviewed model of the source's event subscriptions
Main exports: PositionKey, Bookkeeping, BookLabel, Bookkeeping.step?,
  Bookkeeping.Step, Bookkeeping.boot, Bookkeeping.AllHandled
-/
import StingerFx.Runtime.TradingSystem

namespace StingerFx

open Lib

/-- Account and ticket of a position. -/
abbrev PositionKey := AccountId × Ticket

instance positionKey_lawful : LawfulBEq PositionKey := inferInstance

def FillMessage.key (fill : FillMessage) : PositionKey :=
  (fill.accountId, fill.order.ticket)

def CloseMessage.key (close : CloseMessage) : PositionKey :=
  (close.accountId, close.position.ticket)

/-- What the brokers did, what waits, and the monitor. -/
structure Bookkeeping where
  monitor : RiskMonitor
  /-- every position that was filled, with its order -/
  opened : Dict PositionKey Order
  /-- the close events, each once -/
  closeEvents : List CloseMessage
  partialEvents : List PartialMessage
  redelivered : List PositionKey
  fills : Mailbox FillMessage
  closes : Mailbox CloseMessage
  partials : Mailbox PartialMessage
  /-- what the monitor has handled; no handler reads these two -/
  seenFills : List PositionKey
  seenCloses : List CloseMessage

/-- One event of a broker, or one event handled by the monitor. -/
inductive BookLabel where
  | fill (order : Order) (accountId : AccountId)
  | partialClose (position : Position) (realizedPnl : ℚ) (accountId : AccountId)
  | close (position : Position) (realizedPnl : ℚ) (accountId : AccountId)
  /-- a close event is published once more -/
  | redeliver (close : CloseMessage)
  | handleFilled
  | handlePartialClosed (now : Time)
  | handleClosed (now : Time)
  | handleSnapshot (snap : AccountSnapshot)
  | checkSignal (now : Time) (signal : Signal)
deriving DecidableEq

/-- Whatever the monitor books in a step, it books on a given day. -/
def BookLabel.Within (day : Int) : BookLabel → Prop
  | .handlePartialClosed now | .handleClosed now | .checkSignal now _ =>
      Time.date now = day
  | _ => True

namespace Bookkeeping

def boot (cfg : RiskConfig) : Bookkeeping where
  monitor := .create cfg
  opened := .empty
  closeEvents := []
  partialEvents := []
  redelivered := []
  fills := .create busQueueSize
  closes := .create busQueueSize
  partials := .create busQueueSize
  seenFills := []
  seenCloses := []

/-- The order behind a position that is still open. -/
def openOrder? (s : Bookkeeping) (key : PositionKey) : Option Order :=
  if key ∈ s.closeEvents.map CloseMessage.key then none
  else s.opened.get? key

/-- Whether a broker can report on a position: it is open, on this symbol. -/
def holds (s : Bookkeeping) (accountId : AccountId) (position : Position) :
    Bool :=
  match s.openOrder? (accountId, position.ticket) with
  | none => false
  | some order => decide (order.symbol = position.symbol)

/-- The state after a step, if the step can happen. -/
def step? (s : Bookkeeping) : BookLabel → Option Bookkeeping
  | .fill order accountId =>
      if s.opened.contains (accountId, order.ticket) then none
      else
        some
          { s with
            opened := s.opened.set (accountId, order.ticket) order
            fills := s.fills.push ⟨order, accountId⟩ }
  | .partialClose position realizedPnl accountId =>
      if s.holds accountId position then
        some
          { s with
            partialEvents := s.partialEvents ++ [⟨position, realizedPnl⟩]
            partials := s.partials.push ⟨position, realizedPnl⟩ }
      else none
  | .close position realizedPnl accountId =>
      if s.holds accountId position then
        some
          { s with
            closeEvents := s.closeEvents ++ [⟨position, realizedPnl, accountId⟩]
            closes := s.closes.push ⟨position, realizedPnl, accountId⟩ }
      else none
  | .redeliver close =>
      if close ∈ s.closeEvents ∧ close.key ∉ s.redelivered then
        some
          { s with
            redelivered := close.key :: s.redelivered
            closes := s.closes.push close }
      else none
  | .handleFilled =>
      match s.fills.pop? with
      | none => none
      | some (fill, rest) =>
          some
            { s with
              monitor := s.monitor.onFilled fill.order fill.accountId
              fills := rest
              seenFills := fill.key :: s.seenFills }
  | .handlePartialClosed now =>
      match s.partials.pop? with
      | none => none
      | some (chunk, rest) =>
          some
            { s with
              monitor :=
                s.monitor.onPartialClosed now chunk.position chunk.realizedPnl
              partials := rest }
  | .handleClosed now =>
      match s.closes.pop? with
      | none => none
      | some (close, rest) =>
          some
            { s with
              monitor :=
                s.monitor.onClosed now close.position close.realizedPnl
                  close.accountId
              closes := rest
              seenCloses := close :: s.seenCloses }
  | .handleSnapshot snap =>
      some { s with monitor := (s.monitor.onSnapshot snap).1 }
  | .checkSignal now signal =>
      some { s with monitor := (s.monitor.checkSignal now signal).2 }

def Step : Bookkeeping → BookLabel → Bookkeeping → Prop := stepOf? step?

/-- Every event that was published has been handled. -/
def AllHandled (s : Bookkeeping) : Prop :=
  s.fills.backlog = [] ∧ s.closes.backlog = [] ∧ s.partials.backlog = []

end Bookkeeping

end StingerFx
