/-
Module: StingerFx.Risk.Mirror
Layer: Risk
Purpose: The risk monitor beside the row that mirrors its durable state. Events,
  questions and operator resets come in any order; the monitor writes the row when
  a handler says that something durable has changed, and after every reset.
Trusted boundary: human-reviewed model of when the source's monitor saves; the
  saves succeed here
Main exports: MirrorCall, MirroredMonitor, MirroredMonitor.start,
  MirroredMonitor.next
-/
import StingerFx.Risk.Monitor

namespace StingerFx

/-- What is asked of a monitor. -/
inductive MirrorCall where
  | handle (now : Time) (input : RiskMonitor.RiskInput)
  | checkSignal (now : Time) (signal : Signal)
  | resetKillSwitch
  | resetProfitLock

structure MirroredMonitor where
  monitor : RiskMonitor
  /-- the stored row -/
  row : Option RiskStateRow
  /-- the calls, the newest first; nothing reads it -/
  history : List MirrorCall

namespace MirroredMonitor

/-- A fresh monitor in front of whatever is stored. -/
def start (cfg : RiskConfig) (row : Option RiskStateRow) : MirroredMonitor where
  monitor := .create cfg
  row := row
  history := []

/-- The monitor after a call, and the row, saved when the call says so. -/
def save (d : MirroredMonitor) (call : MirrorCall) (monitor : RiskMonitor)
    (persists : Bool) : MirroredMonitor where
  monitor := monitor
  row := if persists then monitor.persistState true d.row else d.row
  history := call :: d.history

def next (d : MirroredMonitor) (call : MirrorCall) : MirroredMonitor :=
  match call with
  | .handle now input =>
      d.save call (d.monitor.handle now input).1 (d.monitor.handle now input).2
  | .checkSignal now signal => d.save call (d.monitor.checkSignal now signal).2 false
  | .resetKillSwitch => d.save call d.monitor.resetKillSwitch true
  | .resetProfitLock => d.save call d.monitor.resetProfitLock true

end MirroredMonitor

end StingerFx
