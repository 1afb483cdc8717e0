/-
Module: StingerFx.Proofs.SwitchHistory
Layer: Proofs
Purpose: The kill switch and the profit lock read off the history. Each is observed
  through the equities since its own last reset: the peak is their maximum, a switch
  is tripped when some snapshot among them met its trip condition, and the stored row
  equals the memory after every snapshot and every reset.
Trusted boundary: none (fully proved)
Main exports: killSample, lockSample, DrawdownReached, GivenBack, SwitchState,
  RiskMonitor.switchState, FollowsHistory, FollowsHistory.step,
  switches_follow_history
-/
import StingerFx.Lib.Runs
import StingerFx.Lib.Watermark
import StingerFx.Risk.Mirror

namespace StingerFx

open Lib

/-! ### The two switches as observers of the equity -/

/-- What the kill switch takes from a call. -/
def killSample : MirrorCall → Sample ℚ
  | .handle _ (.snapshot snap) => .value snap.equity
  | .resetKillSwitch => .reset
  | _ => .other

/-- What the profit lock takes from a call. -/
def lockSample : MirrorCall → Sample ℚ
  | .handle _ (.snapshot snap) => .value snap.equity
  | .resetProfitLock => .reset
  | _ => .other

/-- The newest equity of a window is at least a percentage below the highest. -/
def DrawdownReached (limitPct : ℚ) (window : List ℚ) : Prop :=
  ∃ equity peak, window.head? = some equity ∧ window.max? = some peak ∧
    limitPct ≤ (peak - equity) / peak * 100

/-- The highest equity of a window has reached the arm level of the first, and the
newest has given back more than a percentage of the gain. -/
def GivenBack (pl : ProfitLockConfig) (window : List ℚ) : Prop :=
  ∃ equity opened high, window.head? = some equity ∧
    window.getLast? = some opened ∧ window.max? = some high ∧
    opened * (1 + pl.activatePct / 100) ≤ high ∧
    equity < high - (high - opened) * pl.givebackPct / 100

/-- A call that handles a snapshot, or a reset. -/
def MirrorCall.durable : MirrorCall → Bool
  | .handle _ (.snapshot _) | .resetKillSwitch | .resetProfitLock => true
  | _ => false

/-- Snapshots show a positive equity. -/
def PositiveEquity (_ : MirroredMonitor) (call : MirrorCall) : Prop :=
  ∀ equity, killSample call = .value equity → 0 < equity

/-! ### What each operation does to the switches -/

/-- What the two switches consist of. -/
structure SwitchState where
  currentEquity : Option ℚ
  peakEquity : Option ℚ
  killSwitchTripped : Bool
  plOpenEquity : Option ℚ
  plHighEquity : Option ℚ
  profitLockTripped : Bool

namespace RiskMonitor

def switchState (m : RiskMonitor) : SwitchState where
  currentEquity := m.currentEquity
  peakEquity := m.peakEquity
  killSwitchTripped := m.killSwitchTripped
  plOpenEquity := m.plOpenEquity
  plHighEquity := m.plHighEquity
  profitLockTripped := m.profitLockTripped

variable (m : RiskMonitor)

theorem maybeRollDaily_switchState (now : Time) :
    (m.maybeRollDaily now).switchState = m.switchState := by
  unfold maybeRollDaily
  split <;> rfl

theorem bookPnl_switchState (now : Time) (symbol : Symbol) (pnl : ℚ) :
    (m.bookPnl now symbol pnl).switchState = m.switchState :=
  m.maybeRollDaily_switchState now

theorem checkSignal_switchState (now : Time) (signal : Signal) :
    (m.checkSignal now signal).2.switchState = m.switchState := by
  obtain same | rolled := m.checkSignal_state now signal
  · rw [same]
  · rw [rolled]
    exact m.maybeRollDaily_switchState now

/-- The memory that the row mirrors is part of the switches. -/
theorem toRow_of_switchState {m other : RiskMonitor}
    (same : m.switchState = other.switchState) : m.toRow = other.toRow := by
  simp only [switchState, SwitchState.mk.injEq] at same
  simp only [toRow, same]

/-! ### A snapshot -/

section Snapshot

variable (snap : AccountSnapshot)

/-- The running maximum with one more equity. -/
theorem takeFigures_peak :
    (m.takeFigures snap).peakEquity =
      some (m.peakEquity.elim snap.equity (max snap.equity)) := by
  cases known : m.peakEquity with
  | none => simp [takeFigures, newPeak, known]
  | some peak =>
      by_cases higher : peak < snap.equity
      · simp [takeFigures, newPeak, known, higher, max_eq_left higher.le]
      · simp [takeFigures, newPeak, known, higher, max_eq_right (not_lt.mp higher)]

/-- The part of a snapshot before the profit lock. -/
theorem onSnapshot_switched :
    ∃ switched : RiskMonitor,
      (m.onSnapshot snap).1 = (switched.runProfitLock snap.equity).1 ∧
      (m.onSnapshot snap).2 = (m.newPeak snap ||
        ((m.takeFigures snap).anchorDay snap).killSwitchTrips ||
          (switched.runProfitLock snap.equity).2) ∧
      switched.cfg = m.cfg ∧
      switched.switchState =
        { m.switchState with
          currentEquity := some snap.equity
          peakEquity := (m.takeFigures snap).peakEquity
          killSwitchTripped := m.killSwitchTripped ||
            ((m.takeFigures snap).anchorDay snap).killSwitchTrips } := by
  obtain ⟨balance, needs, anchored⟩ := (m.takeFigures snap).anchorDay_eq snap
  refine ⟨_, rfl, rfl, ?_, ?_⟩
  · split
    · rw [anchored]
      rfl
    · rw [anchored]
      rfl
  · split
    · rename_i trips
      rw [trips, Bool.or_true, anchored]
      rfl
    · rename_i still
      rw [Bool.not_eq_true] at still
      rw [still, Bool.or_false, anchored]
      rfl

/-- The kill switch trips on the drawdown from the running maximum. -/
theorem killSwitchTrips_iff (on : 0 < m.cfg.killSwitchDrawdownPct)
    (positive : 0 < snap.equity) :
    ((m.takeFigures snap).anchorDay snap).killSwitchTrips = true ↔
      m.killSwitchTripped = false ∧
        ∃ peak, (m.takeFigures snap).peakEquity = some peak ∧
          m.cfg.killSwitchDrawdownPct ≤ (peak - snap.equity) / peak * 100 := by
  obtain ⟨balance, needs, anchored⟩ := (m.takeFigures snap).anchorDay_eq snap
  have peak := m.takeFigures_peak snap
  have above : snap.equity ≤ m.peakEquity.elim snap.equity (max snap.equity) := by
    cases m.peakEquity with
    | none => exact le_refl snap.equity
    | some peak => exact le_max_left snap.equity peak
  generalize m.peakEquity.elim snap.equity (max snap.equity) = high at peak above
  have over_ : 0 < high := positive.trans_le above
  have drawdown : ((m.takeFigures snap).anchorDay snap).drawdownPct =
      max 0 ((high - snap.equity) / high * 100) := by
    have current : (m.takeFigures snap).currentEquity = some snap.equity := rfl
    rw [anchored]
    simp only [drawdownPct, peak, current, not_le.mpr over_, if_false]
  have cfg : ((m.takeFigures snap).anchorDay snap).cfg = m.cfg := by
    rw [anchored]
    rfl
  have tripped : ((m.takeFigures snap).anchorDay snap).killSwitchTripped =
      m.killSwitchTripped := by
    rw [anchored]
    rfl
  have limit : m.cfg.killSwitchDrawdownPct ≤
      max 0 ((high - snap.equity) / high * 100) ↔
      m.cfg.killSwitchDrawdownPct ≤ (high - snap.equity) / high * 100 := by
    rw [le_max_iff, or_iff_right (not_le.mpr on)]
  simp [killSwitchTrips, cfg, tripped, drawdown, on, peak, limit]

end Snapshot

/-! ### The profit lock -/

section Lock

variable (equity : ℚ)

/-- Opening and high of the profit lock with one more equity. -/
theorem trackProfit_switchState (agree : m.plOpenEquity = none → m.plHighEquity = none) :
    (m.trackProfit equity).switchState =
      { m.switchState with
        plOpenEquity := some (m.plOpenEquity.getD equity)
        plHighEquity := some (m.plHighEquity.elim equity (max equity)) } := by
  cases opened : m.plOpenEquity with
  | none =>
      have high := agree opened
      simp [trackProfit, switchState, opened, high]
  | some first =>
      cases high : m.plHighEquity with
      | none => simp [trackProfit, switchState, opened, high]
      | some peak =>
          by_cases higher : peak < equity
          · simp [trackProfit, switchState, opened, high, higher, max_eq_left higher.le]
          · simp [trackProfit, switchState, opened, high, higher,
              max_eq_right (not_lt.mp higher)]

/-- The trip condition of the profit lock at an equity. -/
def giveback (pl : ProfitLockConfig) (opened high equity : ℚ) : Bool :=
  decide (opened * (1 + pl.activatePct / 100) ≤ high) &&
    decide (equity < high - (high - opened) * pl.givebackPct / 100)

/-- The profit lock on a snapshot: the trip is a new one. -/
theorem runProfitLock_switchState (on : m.cfg.profitLock.enabled = true)
    (agree : m.plOpenEquity = none → m.plHighEquity = none) :
    let opened := m.plOpenEquity.getD equity
    let high := m.plHighEquity.elim equity (max equity)
    let reached := giveback m.cfg.profitLock opened high equity
    (m.runProfitLock equity).1.switchState =
        { m.switchState with
          plOpenEquity := some opened
          plHighEquity := some high
          profitLockTripped := m.profitLockTripped || reached } ∧
      (m.runProfitLock equity).2 = (!m.profitLockTripped && reached) ∧
      (m.runProfitLock equity).1.cfg = m.cfg := by
  intro opened high reached
  have tracked := m.trackProfit_switchState equity agree
  have cfg : (m.trackProfit equity).cfg = m.cfg := by
    unfold trackProfit
    split
    · rfl
    · rfl
    · split <;> rfl
  have same := tracked
  simp only [switchState, SwitchState.mk.injEq] at same
  obtain ⟨_, _, _, hasOpened, hasHigh, locked⟩ := same
  have trips : (m.trackProfit equity).profitLockTrips equity =
      (!m.profitLockTripped && reached) := by
    simp only [profitLockTrips, hasOpened, hasHigh, locked, cfg]
    rw [Bool.and_assoc]
    rfl
  simp only [runProfitLock, on, if_true, trips]
  cases now : (!m.profitLockTripped && reached) with
  | true =>
      obtain ⟨_, reached'⟩ := Bool.and_eq_true_iff.mp now
      refine ⟨?_, rfl, cfg⟩
      rw [reached', Bool.or_true]
      simp only [if_true, switchState, SwitchState.mk.injEq] at tracked ⊢
      simp [tracked, opened, high]
  | false =>
      have unchanged : (m.profitLockTripped || reached) = m.profitLockTripped := by
        cases held : m.profitLockTripped with
        | true => rfl
        | false => simpa [held] using now
      refine ⟨?_, rfl, cfg⟩
      rw [unchanged]
      exact tracked

end Lock

/-- A snapshot on both switches, with the figures of the switches alone. -/
theorem onSnapshot_switchState (snap : AccountSnapshot)
    (on : m.cfg.profitLock.enabled = true)
    (agree : m.plOpenEquity = none → m.plHighEquity = none) :
    let trips := ((m.takeFigures snap).anchorDay snap).killSwitchTrips
    let opened := m.plOpenEquity.getD snap.equity
    let high := m.plHighEquity.elim snap.equity (max snap.equity)
    let reached := giveback m.cfg.profitLock opened high snap.equity
    (m.onSnapshot snap).1.switchState =
        { currentEquity := some snap.equity
          peakEquity := (m.takeFigures snap).peakEquity
          killSwitchTripped := m.killSwitchTripped || trips
          plOpenEquity := some opened
          plHighEquity := some high
          profitLockTripped := m.profitLockTripped || reached } ∧
      (m.onSnapshot snap).2 =
        (m.newPeak snap || trips || (!m.profitLockTripped && reached)) := by
  intro trips opened high reached
  obtain ⟨switched, is, saves, cfg, figures⟩ := m.onSnapshot_switched snap
  have same := figures
  simp only [switchState, SwitchState.mk.injEq] at same
  obtain ⟨_, _, _, hasOpened, hasHigh, locked⟩ := same
  obtain ⟨ran, now, _⟩ := switched.runProfitLock_switchState snap.equity
    (by rw [cfg]; exact on) (by rw [hasOpened, hasHigh]; exact agree)
  rw [hasOpened, hasHigh, locked, cfg] at ran
  rw [hasOpened, hasHigh, locked, cfg] at now
  constructor
  · rw [is, ran, figures]
  · rw [saves, now]

/-- A snapshot that saves nothing has changed nothing durable. -/
theorem onSnapshot_unsaved (snap : AccountSnapshot)
    (on : m.cfg.profitLock.enabled = true)
    (agree : m.plOpenEquity = none → m.plHighEquity = none)
    (unsaved : (m.onSnapshot snap).2 = false) :
    (m.onSnapshot snap).1.toRow = m.toRow := by
  obtain ⟨after, saves⟩ := m.onSnapshot_switchState snap on agree
  rw [saves] at unsaved
  simp only [Bool.or_eq_false_iff] at unsaved
  obtain ⟨⟨noPeak, noTrip⟩, noLock⟩ := unsaved
  simp only [switchState, SwitchState.mk.injEq] at after
  obtain ⟨_, peak, killed, _, _, locked⟩ := after
  have samePeak : (m.takeFigures snap).peakEquity = m.peakEquity := by
    simp [takeFigures, noPeak]
  rw [samePeak] at peak
  rw [noTrip, Bool.or_false] at killed
  have sameLock : (m.onSnapshot snap).1.profitLockTripped = m.profitLockTripped := by
    rw [locked]
    cases held : m.profitLockTripped with
    | true => rfl
    | false => simpa [held] using noLock
  simp only [toRow, peak, killed, sameLock]

end RiskMonitor

/-! ### The invariant -/

section Runs

variable {cfg : RiskConfig} {d : MirroredMonitor} {call : MirrorCall}

/-- The switches are what the history says. -/
structure FollowsHistory (cfg : RiskConfig) (d : MirroredMonitor) : Prop where
  config : d.monitor.cfg = cfg
  currentKill : d.monitor.currentEquity = lastValue (d.history.map killSample)
  currentLock : d.monitor.currentEquity = lastValue (d.history.map lockSample)
  peak : d.monitor.peakEquity = (windowSince (d.history.map killSample)).max?
  killed : d.monitor.killSwitchTripped = true ↔
    SinceReset (DrawdownReached cfg.killSwitchDrawdownPct)
      (d.history.map killSample)
  opened : d.monitor.plOpenEquity =
    (windowSince (d.history.map lockSample)).getLast?
  high : d.monitor.plHighEquity = (windowSince (d.history.map lockSample)).max?
  locked : d.monitor.profitLockTripped = true ↔
    SinceReset (GivenBack cfg.profitLock) (d.history.map lockSample)
  mirrored : (∃ past ∈ d.history, past.durable = true) →
    d.row = some d.monitor.toRow

theorem followsHistory_start (cfg : RiskConfig) (row : Option RiskStateRow) :
    FollowsHistory cfg (.start cfg row) where
  config := rfl
  currentKill := rfl
  currentLock := rfl
  peak := rfl
  killed := by simp [MirroredMonitor.start, RiskMonitor.create, SinceReset]
  opened := rfl
  high := rfl
  locked := by simp [MirroredMonitor.start, RiskMonitor.create, SinceReset]
  mirrored := by
    rintro ⟨past, inside, _⟩
    cases inside

namespace FollowsHistory

/-- A call that neither switch observes. -/
theorem quiet (follows : FollowsHistory cfg d) {monitor : RiskMonitor}
    (kill : killSample call = .other) (lock : lockSample call = .other)
    (fleeting : call.durable = false) (config : monitor.cfg = d.monitor.cfg)
    (same : monitor.switchState = d.monitor.switchState) :
    FollowsHistory cfg (d.save call monitor false) := by
  have rows := RiskMonitor.toRow_of_switchState same
  simp only [RiskMonitor.switchState, SwitchState.mk.injEq] at same
  obtain ⟨current, peak, killed, opened, high, locked⟩ := same
  constructor
  case config => exact config.trans follows.config
  case currentKill =>
    simpa [MirroredMonitor.save, kill, current, lastValue] using follows.currentKill
  case currentLock =>
    simpa [MirroredMonitor.save, lock, current, lastValue] using follows.currentLock
  case peak =>
    simpa [MirroredMonitor.save, kill, peak, windowSince] using follows.peak
  case killed =>
    simpa [MirroredMonitor.save, kill, killed, SinceReset] using follows.killed
  case opened =>
    simpa [MirroredMonitor.save, lock, opened, windowSince] using follows.opened
  case high =>
    simpa [MirroredMonitor.save, lock, high, windowSince] using follows.high
  case locked =>
    simpa [MirroredMonitor.save, lock, locked, SinceReset] using follows.locked
  case mirrored =>
    rintro ⟨past, inside, durable⟩
    rcases List.mem_cons.mp inside with rfl | old
    · rw [fleeting] at durable
      cases durable
    · rw [MirroredMonitor.save, rows]
      exact follows.mirrored ⟨past, old, durable⟩

/-- Opening and high of the profit lock are known together. -/
theorem agree (follows : FollowsHistory cfg d) (unknown : d.monitor.plOpenEquity = none) :
    d.monitor.plHighEquity = none := by
  rw [follows.opened, List.getLast?_eq_none_iff] at unknown
  rw [follows.high, unknown]
  rfl

/-- The operator's reset of the kill switch. -/
theorem resetKill (follows : FollowsHistory cfg d) :
    FollowsHistory cfg (d.next .resetKillSwitch) where
  config := follows.config
  currentKill := follows.currentKill
  currentLock := follows.currentLock
  peak := by
    have rebased := @reset_figure ℚ ℚ (d.history.map killSample) List.max? id rfl
      fun _ => rfl
    rw [Option.map_id, id, ← follows.currentKill, ← follows.peak] at rebased
    exact rebased.symm
  killed := by simp [MirroredMonitor.next, MirroredMonitor.save,
    RiskMonitor.resetKillSwitch, killSample, SinceReset]
  opened := follows.opened
  high := follows.high
  locked := follows.locked
  mirrored := fun _ => rfl

/-- The operator's reset of the profit lock. -/
theorem resetLock (follows : FollowsHistory cfg d) :
    FollowsHistory cfg (d.next .resetProfitLock) where
  config := follows.config
  currentKill := follows.currentKill
  currentLock := follows.currentLock
  peak := follows.peak
  killed := follows.killed
  opened := by
    have rebased := @reset_figure ℚ ℚ (d.history.map lockSample) List.getLast? id rfl
      fun _ => rfl
    rw [Option.map_id, id, ← follows.currentLock, ← follows.opened] at rebased
    exact rebased.symm
  high := by
    have rebased := @reset_figure ℚ ℚ (d.history.map lockSample) List.max? id rfl
      fun _ => rfl
    rw [Option.map_id, id, ← follows.currentLock, ← follows.high] at rebased
    exact rebased.symm
  locked := by simp [MirroredMonitor.next, MirroredMonitor.save,
    RiskMonitor.resetProfitLock, lockSample, SinceReset]
  mirrored := fun _ => rfl

end FollowsHistory

theorem killSample_fleeting (fleeting : call.durable = false) :
    killSample call = .other := by
  cases call with
  | handle now input =>
      cases input with
      | snapshot snap => cases fleeting
      | filled | closed | partialClosed => rfl
  | checkSignal => rfl
  | resetKillSwitch | resetProfitLock => cases fleeting

/-- Without a durable call nothing has been observed. -/
theorem windowSince_fleeting {history : List MirrorCall}
    (fleeting : ∀ past ∈ history, past.durable = false) :
    windowSince (history.map killSample) = [] := by
  induction history with
  | nil => rfl
  | cons call earlier ih =>
      have before := ih fun past old => fleeting past (List.mem_cons_of_mem _ old)
      have other := killSample_fleeting (fleeting call List.mem_cons_self)
      rw [List.map_cons, other]
      exact before

theorem drawdownReached_cons {limitPct equity : ℚ} {window : List ℚ} :
    DrawdownReached limitPct (equity :: window) ↔
      ∃ peak, (equity :: window).max? = some peak ∧
        limitPct ≤ (peak - equity) / peak * 100 := by
  constructor
  · rintro ⟨newest, peak, is, highest, reached⟩
    obtain rfl := Option.some.inj is
    exact ⟨peak, highest, reached⟩
  · rintro ⟨peak, highest, reached⟩
    exact ⟨equity, peak, rfl, highest, reached⟩

theorem givenBack_cons {pl : ProfitLockConfig} {equity : ℚ} {window : List ℚ} :
    GivenBack pl (equity :: window) ↔
      RiskMonitor.giveback pl (window.getLast?.getD equity)
        (window.max?.elim equity (max equity)) equity = true := by
  simp [GivenBack, RiskMonitor.giveback, List.getLast?_cons]

/-- A snapshot adds its equity to both windows. -/
theorem FollowsHistory.snapshot (follows : FollowsHistory cfg d)
    (killOn : 0 < cfg.killSwitchDrawdownPct) (lockOn : cfg.profitLock.enabled = true)
    (now : Time) (snap : AccountSnapshot) (positive : 0 < snap.equity) :
    FollowsHistory cfg (d.next (.handle now (.snapshot snap))) := by
  have lockOn' : d.monitor.cfg.profitLock.enabled = true := by
    rw [follows.config]
    exact lockOn
  obtain ⟨after, _⟩ := d.monitor.onSnapshot_switchState snap lockOn' follows.agree
  have maximum := d.monitor.takeFigures_peak snap
  simp only [RiskMonitor.switchState, SwitchState.mk.injEq] at after
  obtain ⟨current, peak, killed, opened, high, locked⟩ := after
  have highest : (d.monitor.takeFigures snap).peakEquity =
      (snap.equity :: windowSince (d.history.map killSample)).max? := by
    rw [maximum, List.max?_cons, follows.peak]
  constructor
  case config => exact (d.monitor.onSnapshot_cfg snap).trans follows.config
  case currentKill => exact current
  case currentLock => exact current
  case peak => exact peak.trans highest
  case killed =>
    show (d.monitor.onSnapshot snap).1.killSwitchTripped = true ↔
      DrawdownReached _ (snap.equity :: _) ∨ SinceReset _ _
    have trips := d.monitor.killSwitchTrips_iff snap
      (by rw [follows.config]; exact killOn) positive
    rw [follows.config, highest, ← drawdownReached_cons] at trips
    rw [killed, Bool.or_eq_true, trips, ← follows.killed]
    cases d.monitor.killSwitchTripped <;> simp
  case opened =>
    show _ = (snap.equity :: windowSince (d.history.map lockSample)).getLast?
    rw [List.getLast?_cons, ← follows.opened]
    exact opened
  case high =>
    show _ = (snap.equity :: windowSince (d.history.map lockSample)).max?
    rw [List.max?_cons, ← follows.high]
    exact high
  case locked =>
    show (d.monitor.onSnapshot snap).1.profitLockTripped = true ↔
      GivenBack _ (snap.equity :: _) ∨ SinceReset _ _
    rw [locked, Bool.or_eq_true, follows.config, follows.opened, follows.high,
      ← givenBack_cons, ← follows.locked]
    exact or_comm
  case mirrored =>
    intro _
    show (if (d.monitor.onSnapshot snap).2 then
      (d.monitor.onSnapshot snap).1.persistState true d.row else d.row) =
        some (d.monitor.onSnapshot snap).1.toRow
    cases saves : (d.monitor.onSnapshot snap).2 with
    | true => rfl
    | false =>
        have unsaved := d.monitor.onSnapshot_unsaved snap lockOn' follows.agree saves
        rw [unsaved]
        apply follows.mirrored
        by_contra nothing
        have unseen := windowSince_fleeting fun past inside =>
          Bool.eq_false_iff.mpr fun durable => nothing ⟨past, inside, durable⟩
        have fresh : d.monitor.peakEquity = none := by
          rw [follows.peak, unseen]
          rfl
        have first : d.monitor.newPeak snap = true := by
          simp [RiskMonitor.newPeak, fresh]
        simp [RiskMonitor.onSnapshot, first] at saves

theorem FollowsHistory.step (follows : FollowsHistory cfg d)
    (killOn : 0 < cfg.killSwitchDrawdownPct) (lockOn : cfg.profitLock.enabled = true)
    (positive : PositiveEquity d call) : FollowsHistory cfg (d.next call) := by
  cases call with
  | handle now input =>
      cases input with
      | snapshot snap => exact follows.snapshot killOn lockOn now snap (positive _ rfl)
      | filled order accountId => exact follows.quiet rfl rfl rfl rfl rfl
      | closed position pnl accountId =>
          apply follows.quiet rfl rfl rfl
          · exact RiskMonitor.bookPnl_cfg _ now _ _
          · exact RiskMonitor.bookPnl_switchState _ now position.symbol pnl
      | partialClosed position pnl =>
          apply follows.quiet rfl rfl rfl
          · exact RiskMonitor.bookPnl_cfg _ now _ _
          · exact RiskMonitor.bookPnl_switchState _ now position.symbol pnl
  | checkSignal now signal =>
      apply follows.quiet rfl rfl rfl
      · exact d.monitor.checkSignal_cfg now signal
      · exact d.monitor.checkSignal_switchState now signal
  | resetKillSwitch => exact follows.resetKill
  | resetProfitLock => exact follows.resetLock

/-- A tripped switch rejects every signal. -/
theorem checkSignal_of_tripped {m : RiskMonitor}
    (tripped : m.killSwitchTripped = true ∨ m.profitLockTripped = true) (now : Time)
    (signal : Signal) : (m.checkSignal now signal).1.allowed = false := by
  cases killed : m.killSwitchTripped with
  | true => simp [RiskMonitor.checkSignal, killed, RiskVerdict.reject]
  | false =>
      obtain killed' | locked := tripped
      · exact absurd killed' (by simp [killed])
      · simp [RiskMonitor.checkSignal, killed, locked, RiskVerdict.reject]

end Runs

/-! ### A fall by thirty percent -/

/-- The defaults, with the profit lock enabled. -/
def lockedConfig : RiskConfig :=
  { (default : RiskConfig) with
    profitLock := { (default : ProfitLockConfig) with enabled := true } }

def equitySnapshot (time : Time) (equity : ℚ) : MirrorCall :=
  .handle time (.snapshot ⟨"main", time, 100, equity, equity, 0⟩)

theorem positive_equitySnapshot (d : MirroredMonitor) (time : Time) {equity : ℚ}
    (positive : 0 < equity) : PositiveEquity d (equitySnapshot time equity) := by
  intro observed is
  cases is
  exact positive

end StingerFx
