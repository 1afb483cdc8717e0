/-
Module: StingerFx.Runtime.PositionTracking
Layer: Runtime
Purpose: An account and the runner of one strategy on it. A call of the router
  changes the account first and publishes its event later; a modify call reads the
  position again in between, a close call has read it before. The runner's four
  consumers run in any order.
Trusted boundary: human-reviewed model of the source's router, broker and runner
Main exports: BrokerJob, PositionTracking, TrackingLabel, PositionTracking.boot,
  PositionTracking.step?, PositionTracking.Step
-/
import StingerFx.Lib.Runs
import StingerFx.Strategies.Runner

namespace StingerFx

open Lib

/-- A call that has changed the account and has not published yet. -/
inductive BrokerJob where
  | publish (event : PositionEvent)
  /-- `handle_modify` before it reads the position again -/
  | reread (read : Position)
deriving Repr, DecidableEq

namespace BrokerJob

def ticket : BrokerJob → Ticket
  | .publish event => event.ticket
  | .reread read => read.ticket

def magic : BrokerJob → Int
  | .publish event => event.magic
  | .reread read => read.magic

end BrokerJob

structure PositionTracking where
  /-- the broker's open positions, of all strategies -/
  account : Dict Ticket Position
  /-- the magic of every ticket so far; the broker uses no ticket twice -/
  opened : Dict Ticket Int
  jobs : List BrokerJob
  runner : PositionRunner

inductive TrackingLabel where
  /-- the broker fills an order with a position -/
  | fill (order : Order) (position : Position)
  /-- the broker takes new stops; `read` is what the router had read before -/
  | modify (read : Position) (sl tp : Option ℚ)
  /-- the broker closes a chunk of a position -/
  | reduce (read : Position) (chunk : ℚ)
  | close (read : Position)
  /-- a modify call reads the position again -/
  | reread (index : Nat)
  | publish (index : Nat)
  /-- the consumer of one queue goes on -/
  | handle (kind : EventKind)
  | pause (paused : Bool)
  /-- hooks have raised too often -/
  | quarantine
  /-- the class is replaced: the old runner is stopped, a new one is started -/
  | replace
  /-- the engine goes down with all its tasks and comes up again -/
  | restart
deriving Repr, DecidableEq

namespace PositionTracking

def boot (id : StrategyId) (magic : Int) : PositionTracking where
  account := .empty
  opened := .empty
  jobs := []
  runner := .start id magic

/-- The position that an earlier reading was of, if it is still open. -/
def current? (s : PositionTracking) (read : Position) : Option Position :=
  (s.account.get? read.ticket).filter fun p => decide (p.magic = read.magic)

/-- A position after a chunk of it is closed. -/
def remaining? (position : Position) (chunk : ℚ) : Option Position :=
  if volume_pos : 0 < position.volume - chunk then
    some
      { position with
        volume := position.volume - chunk
        volume_pos := volume_pos }
  else none

/-- The state after a step, if the step can happen. -/
def step? (s : PositionTracking) : TrackingLabel → Option PositionTracking
  | .fill order position =>
      if position.ticket = order.ticket ∧ position.magic = order.magic ∧
          s.opened.get? order.ticket = none then
        some
          { s with
            account := s.account.set order.ticket position
            opened := s.opened.set order.ticket order.magic
            jobs := s.jobs ++ [.publish (.filled order)] }
      else none
  | .modify read sl tp =>
      match s.current? read with
      | none => none
      | some position =>
          some
            { s with
              account :=
                s.account.set read.ticket { position with sl := sl, tp := tp }
              jobs := s.jobs ++ [.reread read] }
  | .reduce read chunk =>
      match s.current? read with
      | none => none
      | some position =>
          match remaining? position chunk, remaining? read chunk with
          | some kept, some told =>
              some
                { s with
                  account := s.account.set read.ticket kept
                  jobs := s.jobs ++ [.publish (.partialClosed told)] }
          | _, _ => none
  | .close read =>
      match s.current? read with
      | none => none
      | some _ =>
          some
            { s with
              account := s.account.erase read.ticket
              jobs := s.jobs ++ [.publish (.closed read)] }
  | .reread index =>
      match s.jobs[index]? with
      | some (.reread read) =>
          let updated := (s.account.get? read.ticket).getD read
          some
            { s with
              jobs := s.jobs.set index (.publish (.modified updated)) }
      | some (.publish _) | none => none
  | .publish index =>
      match s.jobs[index]? with
      | some (.publish event) =>
          some
            { s with
              jobs := s.jobs.eraseIdx index
              runner :=
                { s.runner with
                  waiting := receivePosition s.runner.waiting event } }
      | some (.reread _) | none => none
  | .handle kind =>
      match takeKind kind s.runner.waiting with
      | none => none
      | some (event, rest) =>
          some { s with runner := { s.runner with waiting := rest }.handle event }
  | .pause paused =>
      some
        { s with
          runner :=
            { s.runner with flags := { s.runner.flags with paused := paused } } }
  | .quarantine =>
      some
        { s with
          runner :=
            { s.runner with
              flags := { s.runner.flags with quarantined := true } } }
  | .replace =>
      some { s with runner := .start s.runner.id s.runner.magic }
  | .restart =>
      some { s with jobs := [], runner := .start s.runner.id s.runner.magic }

def Step : PositionTracking → TrackingLabel → PositionTracking → Prop :=
  stepOf? step?

end PositionTracking

end StingerFx
