/-
Module: StingerFx.Runtime.Startup
Layer: Runtime
Purpose: The engine between its start and the restoration of the risk state. One
  task replays the order outbox and then rehydrates the monitor, awaiting broker
  calls on the way; whenever it is suspended, the scheduler may publish account
  snapshots and the monitor's consumers may handle what waits for them. Tasks
  switch at awaits only.
Trusted boundary: human-reviewed model of the source's startup sequence
Main exports: StartupPhase, EngineState, EngineLabel, EngineState.step?,
  EngineState.Step, EngineState.boot
-/
import StingerFx.Core.EventBus
import StingerFx.Risk.Monitor
import StingerFx.Lib.Runs

namespace StingerFx

open Lib

/-- Where the starting task stands. -/
inductive StartupPhase where
  /-- before `engine.start` -/
  | booting
  /-- awaiting a broker call, with more awaits to come before the restoration -/
  | suspended (further : Nat)
  /-- about to rehydrate, without another await -/
  | rehydrating
  | running
  /-- gathering the inputs raised; startup goes on with blank state -/
  | unrestored
deriving Repr, DecidableEq

/-- Other tasks run only while the starting task is suspended. -/
def StartupPhase.yields : StartupPhase → Bool
  | .booting | .rehydrating => false
  | .suspended _ | .running | .unrestored => true

/-- The operator's console and the config watcher come up after the
restoration. -/
def StartupPhase.attended : StartupPhase → Bool
  | .running | .unrestored => true
  | .booting | .suspended _ | .rehydrating => false

/-- What the runtime gathers for `rehydrate`; `loads` tells whether reading the
stored row works. -/
structure Rehydration where
  now : Time
  openPositions : List RiskMonitor.LivePosition
  dailyRealizedPnl : ℚ
  dailyPnlBySymbol : Dict Symbol ℚ
  loads : Bool

structure EngineState where
  phase : StartupPhase
  monitor : RiskMonitor
  row : Option RiskStateRow
  snapshots : Mailbox AccountSnapshot

/-- One atomic step of some task. `saves` tells whether writing the row works. -/
inductive EngineLabel where
  | start (awaits : Nat)
  | resume
  | rehydrate (data : Rehydration)
  | rehydrateFails
  | publishSnapshot (snap : AccountSnapshot)
  | handleSnapshot (saves : Bool)
  | handleFilled (order : Order) (accountId : AccountId)
  | handleClosed (now : Time) (position : Position) (realizedPnl : ℚ)
      (accountId : AccountId)
  | handlePartialClosed (now : Time) (position : Position) (realizedPnl : ℚ)
  | checkSignal (now : Time) (signal : Signal)
  | updateConfig (cfg : RiskConfig)
  | resetKillSwitch (saves : Bool)
  | resetProfitLock (saves : Bool)

namespace EngineState

/-- A fresh process in front of a stored row. -/
def boot (cfg : RiskConfig) (row : Option RiskStateRow) : EngineState where
  phase := .booting
  monitor := .create cfg
  row := row
  snapshots := .create busQueueSize

/-- Replace the monitor, saving its durable state when it asks for it. -/
def save (s : EngineState) (monitor : RiskMonitor) (persists saves : Bool) :
    EngineState :=
  { s with
    monitor := monitor
    row := if persists then monitor.persistState saves s.row else s.row }

/-- The starting task goes on until its next await. -/
def advance (s : EngineState) : Nat → EngineState
  | 0 => { s with phase := .rehydrating }
  | further + 1 => { s with phase := .suspended further }

def restore (s : EngineState) (data : Rehydration) : EngineState :=
  { s with
    phase := .running
    monitor :=
      s.monitor.rehydrate data.now data.openPositions data.dailyRealizedPnl
        data.dailyPnlBySymbol (if data.loads then s.row else none) }

/-- The consumer of the snapshot subscription handles the oldest message. -/
def consumeSnapshot (s : EngineState) (saves : Bool) : Option EngineState :=
  match s.snapshots.pop? with
  | none => none
  | some (snap, rest) =>
      let handled := s.monitor.onSnapshot snap
      some { s.save handled.1 handled.2 saves with snapshots := rest }

/-- A step of the starting task. -/
def startupStep? (s : EngineState) : EngineLabel → Option EngineState
  | .start awaits => if s.phase = .booting then some (s.advance awaits) else none
  | .resume =>
      match s.phase with
      | .suspended further => some (s.advance further)
      | _ => none
  | .rehydrate data =>
      if s.phase = .rehydrating then some (s.restore data) else none
  | .rehydrateFails =>
      if s.phase = .rehydrating then some { s with phase := .unrestored }
      else none
  | _ => none

/-- A step of any other task. -/
def otherStep? (s : EngineState) : EngineLabel → Option EngineState
  | .publishSnapshot snap => some { s with snapshots := s.snapshots.push snap }
  | .handleSnapshot saves => s.consumeSnapshot saves
  | .handleFilled order accountId =>
      some { s with monitor := s.monitor.onFilled order accountId }
  | .handleClosed now position realizedPnl accountId =>
      some
        { s with
          monitor := s.monitor.onClosed now position realizedPnl accountId }
  | .handlePartialClosed now position realizedPnl =>
      some
        { s with monitor := s.monitor.onPartialClosed now position realizedPnl }
  | .checkSignal now signal =>
      some { s with monitor := (s.monitor.checkSignal now signal).2 }
  | .updateConfig cfg =>
      if s.phase.attended then
        some { s with monitor := s.monitor.updateConfig cfg }
      else none
  | .resetKillSwitch saves =>
      if s.phase.attended then some (s.save s.monitor.resetKillSwitch true saves)
      else none
  | .resetProfitLock saves =>
      if s.phase.attended then some (s.save s.monitor.resetProfitLock true saves)
      else none
  | _ => none

/-- The state after a step, if the step can happen. -/
def step? (s : EngineState) (label : EngineLabel) : Option EngineState :=
  match s.startupStep? label with
  | some s' => some s'
  | none => if s.phase.yields then s.otherStep? label else none

def Step : EngineState → EngineLabel → EngineState → Prop := stepOf? step?

/-! ### What a step can do -/

/-- A step either moves the starting task, or keeps its phase while another task
runs. -/
theorem step_cases {s s' : EngineState} {label : EngineLabel}
    (step : Step s label s') :
    s.startupStep? label = some s' ∨
      s.phase.yields = true ∧ s.otherStep? label = some s' := by
  unfold Step stepOf? step? at step
  split at step
  · rename_i found
    exact .inl (found.trans step)
  · split at step
    · rename_i yields
      exact .inr ⟨yields, step⟩
    · cases step

/-- The starting task leaves the stored row alone, and the monitor too until it
rehydrates. -/
theorem startupStep_cases {s s' : EngineState} {label : EngineLabel}
    (step : s.startupStep? label = some s') :
    (∃ awaits, s.phase.attended = false ∧ s' = s.advance awaits) ∨
      (∃ data, label = .rehydrate data ∧ s.phase = .rehydrating ∧
        s' = s.restore data) ∨
      s' = { s with phase := .unrestored } := by
  cases label with
  | start awaits =>
      simp only [startupStep?] at step
      split at step
      · rename_i booting
        cases step
        exact .inl ⟨awaits, by rw [booting]; rfl, rfl⟩
      · cases step
  | resume =>
      simp only [startupStep?] at step
      split at step
      · rename_i further suspended
        cases step
        exact .inl ⟨further, by rw [suspended]; rfl, rfl⟩
      · cases step
  | rehydrate data =>
      simp only [startupStep?] at step
      split at step
      · rename_i rehydrating
        cases step
        exact .inr (.inl ⟨data, rfl, rehydrating, rfl⟩)
      · cases step
  | rehydrateFails =>
      simp only [startupStep?] at step
      split at step
      · cases step
        exact .inr (.inr rfl)
      · cases step
  | _ => cases step

end EngineState

end StingerFx
