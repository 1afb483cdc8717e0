/-
Module: StingerFx.Proofs.KillSwitchRestart
Layer: Proofs
Purpose: A tripped kill switch across a restart. Reading the stored row before
  anything writes it brings the switch back and nothing but the operator's reset
  clears it; a snapshot handled before that read overwrites the row with the
  blank memory of the new process and the switch is lost.
Trusted boundary: none (fully proved)
Main exports: TrippedFrom, Survives, RowReadFirst, kill_switch_survives_restart,
  early_snapshot_loses_kill_switch
-/
import StingerFx.Runtime.Startup

namespace StingerFx

open Lib

/-- The switch is tripped and drawdown is measured from at least a peak. -/
def TrippedFrom (peak : ℚ) (row : RiskStateRow) : Prop :=
  row.killSwitchTripped = true ∧ ∃ p, row.peakEquity = some p ∧ peak ≤ p

namespace RiskMonitor

variable {m : RiskMonitor} {peak : ℚ}

/-- Figures of a snapshot can only raise the peak. -/
theorem trippedFrom_takeFigures (snap : AccountSnapshot)
    (tripped : TrippedFrom peak m.toRow) :
    TrippedFrom peak (m.takeFigures snap).toRow := by
  rcases tripped with ⟨switch, p, stored, below⟩
  refine ⟨switch, ?_⟩
  have known : m.peakEquity = some p := stored
  cases higher : m.newPeak snap with
  | false => exact ⟨p, by simp [toRow, takeFigures, higher, known], below⟩
  | true =>
      refine ⟨snap.equity, by simp [toRow, takeFigures, higher], ?_⟩
      simp only [newPeak, known, decide_eq_true_eq] at higher
      exact below.trans higher.le

theorem trippedFrom_runProfitLock (equity : ℚ)
    (tripped : TrippedFrom peak m.toRow) :
    TrippedFrom peak (m.runProfitLock equity).1.toRow := by
  rcases m.runProfitLock_eq equity with ⟨opened, high, locked, same⟩
  rw [same]
  exact ⟨tripped.1, tripped.2⟩

/-- A snapshot never clears the switch and never lowers the peak. -/
theorem trippedFrom_onSnapshot (snap : AccountSnapshot)
    (tripped : TrippedFrom peak m.toRow) :
    TrippedFrom peak (m.onSnapshot snap).1.toRow := by
  have anchored : TrippedFrom peak ((m.takeFigures snap).anchorDay snap).toRow := by
    rcases (m.takeFigures snap).anchorDay_eq snap with
      ⟨openingBalance, needs, same⟩
    rw [same]
    exact trippedFrom_takeFigures snap tripped
  unfold onSnapshot
  apply trippedFrom_runProfitLock
  split
  · exact ⟨rfl, anchored.2⟩
  · exact anchored

theorem trippedFrom_resetProfitLock (tripped : TrippedFrom peak m.toRow) :
    TrippedFrom peak m.resetProfitLock.toRow :=
  ⟨tripped.1, tripped.2⟩

end RiskMonitor

/-- The switch is tripped in memory and in the stored row, both measuring from
at least a peak. -/
def Survives (peak : ℚ) (s : EngineState) : Prop :=
  TrippedFrom peak s.monitor.toRow ∧
    ∃ row, s.row = some row ∧ TrippedFrom peak row

/-- The operator's reset of the kill switch. -/
def EngineLabel.resetsKillSwitch : EngineLabel → Bool
  | .resetKillSwitch _ => true
  | _ => false

namespace EngineState

/-- Handling the oldest waiting snapshot now would write the stored row. -/
def overwrites (s : EngineState) (saves : Bool) : Bool :=
  match s.snapshots.pop? with
  | none => false
  | some (snap, _) => (s.monitor.onSnapshot snap).2 && saves

/-- The stored row is read, successfully, before any snapshot overwrites it. -/
def RowReadFirst (s : EngineState) : EngineLabel → Prop
  | .handleSnapshot saves =>
      s.phase.attended = false → s.overwrites saves = false
  | .rehydrate data => data.loads = true
  | _ => True

instance (s : EngineState) (label : EngineLabel) :
    Decidable (s.RowReadFirst label) :=
  match label with
  | .handleSnapshot saves =>
      inferInstanceAs
        (Decidable (s.phase.attended = false → s.overwrites saves = false))
  | .rehydrate data => inferInstanceAs (Decidable (data.loads = true))
  | .start _ | .resume | .rehydrateFails | .publishSnapshot _
  | .handleFilled _ _ | .handleClosed _ _ _ _ | .handlePartialClosed _ _ _
  | .checkSignal _ _ | .updateConfig _ | .resetKillSwitch _
  | .resetProfitLock _ => isTrue trivial

variable {peak : ℚ} {stored : RiskStateRow}

/-- What holds on the way: the row is untouched until it has been read, and the
switch survives from then on. -/
structure Guarding (peak : ℚ) (stored : RiskStateRow) (s : EngineState) :
    Prop where
  unread : s.phase.attended = false → s.row = some stored
  survived : s.phase = .running → Survives peak s

namespace Guarding

variable {s s' : EngineState}

/-- A step that keeps the phase and the row concerns only the memory. -/
theorem sameRow (held : Guarding peak stored s) (phase : s'.phase = s.phase)
    (row : s'.row = s.row)
    (memory : TrippedFrom peak s.monitor.toRow →
      TrippedFrom peak s'.monitor.toRow) :
    Guarding peak stored s' where
  unread := by
    intro unattended
    rw [phase] at unattended
    exact row.trans (held.unread unattended)
  survived := by
    intro running
    rw [phase] at running
    rcases held.survived running with ⟨inMemory, inRow⟩
    exact ⟨memory inMemory, by rw [row]; exact inRow⟩

/-- Saving the memory: harmless once the switch is back, and before that as long
as nothing is written. -/
theorem save (held : Guarding peak stored s) {monitor : RiskMonitor}
    {persists saves : Bool}
    (memory : TrippedFrom peak s.monitor.toRow → TrippedFrom peak monitor.toRow)
    (silent : s.phase.attended = false → (persists && saves) = false) :
    Guarding peak stored (s.save monitor persists saves) where
  unread := by
    intro unattended
    have row := held.unread unattended
    have nothing := silent unattended
    unfold EngineState.save RiskMonitor.persistState
    cases persists <;> cases saves <;> first | exact row | cases nothing
  survived := by
    intro running
    rcases held.survived running with ⟨inMemory, inRow⟩
    refine ⟨memory inMemory, ?_⟩
    unfold EngineState.save RiskMonitor.persistState
    cases persists with
    | false => exact inRow
    | true =>
        cases saves with
        | false => exact inRow
        | true => exact ⟨monitor.toRow, rfl, memory inMemory⟩

theorem consumeSnapshot (held : Guarding peak stored s) {saves : Bool}
    (consumed : s.consumeSnapshot saves = some s')
    (guard : s.phase.attended = false → s.overwrites saves = false) :
    Guarding peak stored s' := by
  unfold EngineState.consumeSnapshot at consumed
  unfold overwrites at guard
  cases popped : s.snapshots.pop? with
  | none => rw [popped] at consumed; cases consumed
  | some taken =>
      rcases taken with ⟨snap, rest⟩
      rw [popped] at consumed guard
      cases consumed
      have saved : Guarding peak stored
          (s.save (s.monitor.onSnapshot snap).1 (s.monitor.onSnapshot snap).2
            saves) :=
        held.save (RiskMonitor.trippedFrom_onSnapshot snap) guard
      exact saved.sameRow rfl rfl id

/-- The starting task: it reads the row, which nothing has written so far. -/
theorem startup (held : Guarding peak stored s) {label : EngineLabel}
    (step : s.startupStep? label = some s') (guard : RowReadFirst s label)
    (tripped : TrippedFrom peak stored) : Guarding peak stored s' := by
  rcases startupStep_cases step with
    ⟨awaits, unattended, rfl⟩ | ⟨data, rfl, rehydrating, rfl⟩ | rfl
  · have row := held.unread unattended
    cases awaits with
    | zero => exact ⟨fun _ => row, fun running => (by cases running)⟩
    | succ further => exact ⟨fun _ => row, fun running => (by cases running)⟩
  · have loads : data.loads = true := guard
    have row : s.row = some stored := held.unread (by rw [rehydrating]; rfl)
    have memory : (s.restore data).monitor.toRow = stored := by
      simp only [restore, loads, row]
      exact RiskMonitor.rehydrate_toRow _ _ _ _ _ stored
    exact ⟨fun unattended => (by cases unattended),
      fun _ => ⟨by rw [memory]; exact tripped, stored, row, tripped⟩⟩
  · exact ⟨fun unattended => (by cases unattended),
      fun running => (by cases running)⟩

theorem other (held : Guarding peak stored s) {label : EngineLabel}
    (step : s.otherStep? label = some s') (guard : RowReadFirst s label)
    (noReset : label.resetsKillSwitch = false) : Guarding peak stored s' := by
  cases label with
  | publishSnapshot snap =>
      cases step
      exact held.sameRow rfl rfl id
  | handleSnapshot saves => exact held.consumeSnapshot step guard
  | handleFilled order accountId =>
      cases step
      exact held.sameRow rfl rfl id
  | handleClosed now position realizedPnl accountId =>
      cases step
      refine held.sameRow rfl rfl ?_
      intro memory
      rw [RiskMonitor.onClosed, RiskMonitor.bookPnl_toRow]
      exact memory
  | handlePartialClosed now position realizedPnl =>
      cases step
      refine held.sameRow rfl rfl ?_
      intro memory
      rw [RiskMonitor.onPartialClosed, RiskMonitor.bookPnl_toRow]
      exact memory
  | checkSignal now signal =>
      cases step
      refine held.sameRow rfl rfl ?_
      intro memory
      rw [RiskMonitor.checkSignal_toRow]
      exact memory
  | updateConfig cfg =>
      simp only [otherStep?] at step
      split at step
      · cases step
        exact held.sameRow rfl rfl id
      · cases step
  | resetKillSwitch saves => cases noReset
  | resetProfitLock saves =>
      simp only [otherStep?] at step
      split at step
      · rename_i attended
        cases step
        apply held.save RiskMonitor.trippedFrom_resetProfitLock
        intro unattended
        rw [attended] at unattended
        cases unattended
      · cases step
  | _ => cases step

/-- One guarded step that is not the operator's reset. -/
theorem step (held : Guarding peak stored s) {label : EngineLabel}
    (step : Step s label s') (guard : RowReadFirst s label)
    (noReset : label.resetsKillSwitch = false)
    (tripped : TrippedFrom peak stored) : Guarding peak stored s' := by
  rcases step_cases step with starting | ⟨-, other⟩
  · exact held.startup starting guard tripped
  · exact held.other other guard noReset

/-- A run without the operator's reset. -/
theorem run (held : Guarding peak stored s) {labels : List EngineLabel}
    (run : Run (Guarded RowReadFirst Step) s labels s')
    (noReset : ∀ label ∈ labels, label.resetsKillSwitch = false)
    (tripped : TrippedFrom peak stored) : Guarding peak stored s' := by
  induction run with
  | refl => exact held
  | step head tail ih =>
      have first := noReset _ List.mem_cons_self
      have later := held.step head.2 head.1 first tripped
      exact ih later fun label member =>
        noReset label (List.mem_cons_of_mem _ member)

end Guarding

/-- Whatever else happens in between, a switch stored as tripped is tripped again
once the monitor is rehydrated, in memory and in the row, until the operator
resets it, provided the row is read before a snapshot overwrites it. -/
theorem kill_switch_survives_restart {cfg : RiskConfig} {row : RiskStateRow}
    {peak : ℚ} {labels : List EngineLabel} {s : EngineState}
    (run : Run (Guarded RowReadFirst Step) (boot cfg (some row)) labels s)
    (stored : row.killSwitchTripped = true ∧ row.peakEquity = some peak)
    (noReset : ∀ label ∈ labels, label.resetsKillSwitch = false)
    (restored : s.phase = .running) : Survives peak s := by
  have tripped : TrippedFrom peak row := ⟨stored.1, peak, stored.2, le_rfl⟩
  have start : Guarding peak row (boot cfg (some row)) :=
    ⟨fun _ => rfl, fun running => (by cases running)⟩
  exact (start.run run noReset tripped).survived restored

/-! ### The run that loses the switch -/

/-- Startup data without positions or trades. -/
def quietRehydration : Rehydration := ⟨0, [], 0, .empty, true⟩

/-- The account after the drawdown that tripped the switch. -/
def restartSnapshot : AccountSnapshot := ⟨"default", 0, 700, 700, 700, 0⟩

def trippedRow : RiskStateRow := ⟨some 1000, true, false⟩

/-- The row is read first, the snapshot is handled afterwards. -/
def orderlyStartup : List EngineLabel :=
  [.start 1, .publishSnapshot restartSnapshot, .resume,
    .rehydrate quietRehydration, .handleSnapshot true]

/-- The scheduler's first snapshot is handled while the starting task awaits a
broker call. -/
def hastyStartup : List EngineLabel :=
  [.start 1, .publishSnapshot restartSnapshot, .handleSnapshot true, .resume,
    .rehydrate quietRehydration]

/-- The orderly startup keeps the switch. -/
theorem orderly_startup_keeps_kill_switch :
    ∃ s : EngineState, s.phase = .running ∧ Survives 1000 s := by
  have reached :
      (replay? RowReadFirst step? (boot default (some trippedRow))
        orderlyStartup).map phase = some .running := by
    decide +kernel
  rcases Option.map_eq_some_iff.mp reached with ⟨s, replayed, running⟩
  exact ⟨s, running,
    kill_switch_survives_restart (run_of_replay? replayed) ⟨rfl, rfl⟩
      (by decide) running⟩

/-- Without that proviso the switch can be lost: a snapshot handled before the
row is read overwrites it with the blank memory of the new process. -/
theorem early_snapshot_loses_kill_switch :
    ¬ ∀ (cfg : RiskConfig) (row : RiskStateRow) (peak : ℚ)
        (labels : List EngineLabel) (s : EngineState),
        Run Step (boot cfg (some row)) labels s →
        row.killSwitchTripped = true ∧ row.peakEquity = some peak →
        (∀ label ∈ labels, label.resetsKillSwitch = false) →
        s.phase = .running → Survives peak s := by
  intro claim
  have reached :
      (replay? (fun _ _ => True) step? (boot default (some trippedRow))
        hastyStartup).map (fun s => (s.phase, s.monitor.killSwitchTripped)) =
          some (.running, false) := by
    decide +kernel
  rcases Option.map_eq_some_iff.mp reached with ⟨s, replayed, outcome⟩
  rcases Prod.mk.inj outcome with ⟨running, untripped⟩
  have survives := claim default trippedRow 1000 hastyStartup s
    (run_of_replay? replayed).unguard ⟨rfl, rfl⟩ (by decide) running
  have tripped : s.monitor.killSwitchTripped = true := survives.1.1
  rw [untripped] at tripped
  cases tripped

end EngineState

end StingerFx
