/-
Module: StingerFx.Proofs.AccountIsolation
Layer: Proofs
Purpose: What the snapshots of other accounts tell a strategy. Every account's
  snapshot writes the one equity, peak, balance and margin of the shared
  monitor. A strategy's verdicts and volumes are therefore independent of other
  accounts if and only if no rule that reads these figures is switched on; each
  such rule has a pair of runs that tells the accounts apart.
Trusted boundary: none (fully proved)
Main exports: PoolInput, Isolated, OwnDrawdown, SnapshotBlind,
  isolated_iff_snapshot_blind, default_config_mixes_accounts
-/
import StingerFx.Execution.OrderRouter
import StingerFx.Lib.NonInterference

namespace StingerFx

open Lib

/-! ### Two runs of a shared monitor -/

/-- What reaches the monitor of a pool: an event, or a signal with what its own
broker tells the router. -/
inductive PoolInput (β : Type) where
  | event (now : Time) (input : RiskMonitor.RiskInput)
  | signal (now : Time) (asked : Signal) (info : Option SymbolInfo)
      (cache : Dict Symbol ℚ) (b : β)

/-- The monitor's verdict, the volume, and the verdict of the exposure cap. -/
abbrev Verdicts := Option RiskReason × ℚ × Option DecisionReason

namespace PoolInput

variable {β ε : Type}

def next (m : RiskMonitor) : PoolInput β → RiskMonitor
  | .event now input => (m.handle now input).1
  | .signal now asked _ _ _ => (m.checkSignal now asked).2

/-- What the router makes of a signal of one strategy. -/
def verdicts (port : BrokerPort β ε) (strategyId : StrategyId)
    (m : RiskMonitor) : PoolInput β → List Verdicts
  | .event _ _ => []
  | .signal now asked info cache b =>
      if asked.strategyId = strategyId then
        let volume := resolveVolume (some m) asked info
        let checked := m.checkSignal now asked
        [(checked.1.reason, volume,
          (checkAggregateRisk port checked.2 cache asked volume info b).2.2)]
      else []

/-- A snapshot of another account. -/
def foreign (accountId : AccountId) : PoolInput β → Bool
  | .event _ (.snapshot snap) => decide (snap.accountId ≠ accountId)
  | _ => false

/-- The snapshots of one account. -/
def snapshotOf (accountId : AccountId) : PoolInput β → Option AccountSnapshot
  | .event _ (.snapshot snap) =>
      if snap.accountId = accountId then some snap else none
  | _ => none

end PoolInput

/-- Two runs that differ in snapshots of other accounts only have the same
verdicts and volumes. -/
def Isolated (cfg : RiskConfig) : Prop :=
  ∀ {β ε : Type} (port : BrokerPort β ε) (accountId : AccountId)
    (strategyId : StrategyId) (left right : List (PoolInput β)),
    left.filter (fun input => !input.foreign accountId) =
        right.filter (fun input => !input.foreign accountId) →
      observations PoolInput.next (PoolInput.verdicts port strategyId)
          (.create cfg) left =
        observations PoolInput.next (PoolInput.verdicts port strategyId)
          (.create cfg) right

/-- The kill switch trips only when one account fell by the limit from a peak of
its own. -/
def OwnDrawdown (cfg : RiskConfig) : Prop :=
  ∀ {β : Type} (inputs : List (PoolInput β)),
    (inputs.foldl PoolInput.next (.create cfg)).killSwitchTripped = true →
      ∃ accountId high low,
        [high, low].Sublist
          (inputs.filterMap (PoolInput.snapshotOf accountId)) ∧
        0 < high.equity ∧
        cfg.killSwitchDrawdownPct ≤
          (high.equity - low.equity) / high.equity * 100

/-- No rule that reads a snapshot's figures is on. -/
structure SnapshotBlind (cfg : RiskConfig) : Prop where
  killSwitch : cfg.killSwitchDrawdownPct = 0
  dailyLoss : cfg.maxDailyLossPct = 0
  profitLock : cfg.profitLock.enabled = false
  marginFloor : cfg.marginFloor.enabled = true →
    cfg.marginFloor.minMarginLevelPct = 0 ∧ cfg.marginFloor.minFreeMargin = 0
  sizing : cfg.positionSizing.enabled = false
  aggregate : cfg.maxAggregateRiskPct = 0

/-! ### A blind monitor -/

/-- Monitors that differ in snapshot figures only. The daily windows may differ
while nothing is booked in them. -/
structure Alike (cfg : RiskConfig) (m n : RiskMonitor) : Prop where
  left : m.cfg = cfg
  right : n.cfg = cfg
  books : m.books = n.books
  pnl : m.dailyRealizedPnl = n.dailyRealizedPnl
  bySymbol : m.dailyPnlBySymbol = n.dailyPnlBySymbol
  killSwitch : m.killSwitchTripped = n.killSwitchTripped
  profitLock : m.profitLockTripped = n.profitLockTripped
  window : m.dailyAnchorDate.map Time.date = n.dailyAnchorDate.map Time.date ∨
    m.dailyRealizedPnl = 0 ∧ m.dailyPnlBySymbol = .empty
  unanchored : m.dailyAnchorDate = none →
    m.dailyRealizedPnl = 0 ∧ m.dailyPnlBySymbol = .empty

namespace RiskMonitor

variable {cfg : RiskConfig} {m n : RiskMonitor}

/-- A blind monitor keeps its switches on a snapshot. -/
theorem onSnapshot_switches (blind : SnapshotBlind cfg) (own : m.cfg = cfg)
    (snap : AccountSnapshot) :
    (m.onSnapshot snap).1.killSwitchTripped = m.killSwitchTripped ∧
      (m.onSnapshot snap).1.profitLockTripped = m.profitLockTripped := by
  rcases (m.takeFigures snap).anchorDay_eq snap with ⟨balance, needs, anchored⟩
  have quiet : ((m.takeFigures snap).anchorDay snap).killSwitchTrips = false := by
    rw [anchored]
    simp [killSwitchTrips, takeFigures, own, blind.killSwitch]
  unfold onSnapshot
  dsimp only
  rw [quiet, anchored]
  unfold runProfitLock
  simp [takeFigures, own, blind.profitLock]

/-- The books and the profit of the day survive a snapshot. -/
theorem onSnapshot_day (snap : AccountSnapshot) :
    (m.onSnapshot snap).1.dailyRealizedPnl = m.dailyRealizedPnl ∧
      (m.onSnapshot snap).1.dailyPnlBySymbol = m.dailyPnlBySymbol ∧
      (m.onSnapshot snap).1.dailyAnchorDate =
        (m.dailyAnchorDate <|> some snap.time) := by
  rcases m.onSnapshot_eq snap with ⟨_, _, _, _, _, _, _, same⟩
  rw [same]
  exact ⟨rfl, rfl, rfl⟩

theorem anchorStale_eq (m : RiskMonitor) (now : Time) :
    m.anchorStale now =
      decide (m.dailyAnchorDate.map Time.date ≠ some (Time.date now)) := by
  unfold anchorStale
  cases m.dailyAnchorDate with
  | none => simp
  | some anchor => simp [eq_comm]

/-- A rolled window is that of the current day. -/
theorem maybeRollDaily_date (m : RiskMonitor) (now : Time) :
    (m.maybeRollDaily now).dailyAnchorDate.map Time.date =
      some (Time.date now) := by
  unfold maybeRollDaily
  rw [anchorStale_eq]
  split
  · rfl
  · rename_i fresh
    simpa using fresh

theorem maybeRollDaily_pnl (m : RiskMonitor) (now : Time) :
    (m.maybeRollDaily now).dailyRealizedPnl =
        (if m.anchorStale now then 0 else m.dailyRealizedPnl) ∧
      (m.maybeRollDaily now).dailyPnlBySymbol =
        (if m.anchorStale now then .empty else m.dailyPnlBySymbol) := by
  unfold maybeRollDaily
  split <;> exact ⟨rfl, rfl⟩

theorem maybeRollDaily_switches (m : RiskMonitor) (now : Time) :
    (m.maybeRollDaily now).killSwitchTripped = m.killSwitchTripped ∧
      (m.maybeRollDaily now).profitLockTripped = m.profitLockTripped := by
  unfold maybeRollDaily
  split <;> exact ⟨rfl, rfl⟩

end RiskMonitor

namespace Alike

variable {cfg : RiskConfig} {m n : RiskMonitor}

theorem refl_create (cfg : RiskConfig) :
    Alike cfg (.create cfg) (.create cfg) :=
  ⟨rfl, rfl, rfl, rfl, rfl, rfl, rfl, .inl rfl, fun _ => ⟨rfl, rfl⟩⟩

/-- A foreign snapshot on the left. -/
theorem absorbs (blind : SnapshotBlind cfg) (alike : Alike cfg m n)
    (snap : AccountSnapshot) : Alike cfg (m.onSnapshot snap).1 n := by
  obtain ⟨killSwitch, profitLock⟩ :=
    RiskMonitor.onSnapshot_switches blind alike.left snap
  obtain ⟨pnl, bySymbol, anchor⟩ := m.onSnapshot_day snap
  refine ⟨(m.onSnapshot_cfg snap).trans alike.left, alike.right,
    (m.onSnapshot_books snap).trans alike.books, pnl.trans alike.pnl,
    bySymbol.trans alike.bySymbol, killSwitch.trans alike.killSwitch,
    profitLock.trans alike.profitLock, ?_, ?_⟩
  · rw [pnl, bySymbol, anchor]
    cases anchored : m.dailyAnchorDate with
    | none => exact .inr (alike.unanchored anchored)
    | some day =>
        have window := alike.window
        rw [anchored] at window
        exact window
  · intro none
    rw [anchor] at none
    cases anchored : m.dailyAnchorDate <;> rw [anchored] at none <;> cases none

/-- A snapshot that both sides see. -/
theorem snapshot (blind : SnapshotBlind cfg) (alike : Alike cfg m n)
    (snap : AccountSnapshot) :
    Alike cfg (m.onSnapshot snap).1 (n.onSnapshot snap).1 := by
  obtain ⟨killSwitch, profitLock⟩ :=
    RiskMonitor.onSnapshot_switches blind alike.right snap
  obtain ⟨pnl, bySymbol, anchor⟩ := n.onSnapshot_day snap
  have one := alike.absorbs blind snap
  refine ⟨one.left, (n.onSnapshot_cfg snap).trans alike.right,
    one.books.trans (n.onSnapshot_books snap).symm, one.pnl.trans pnl.symm,
    one.bySymbol.trans bySymbol.symm, one.killSwitch.trans killSwitch.symm,
    one.profitLock.trans profitLock.symm, ?_, one.unanchored⟩
  obtain ⟨left_pnl, left_bySymbol, left_anchor⟩ := m.onSnapshot_day snap
  rw [left_pnl, left_bySymbol, left_anchor, anchor]
  rcases alike.window with same | idle
  · left
    cases left : m.dailyAnchorDate <;> cases right : n.dailyAnchorDate <;>
      rw [left, right] at same
    · cases same
    · cases same
    · exact same
  · exact .inr idle

/-- A day that starts, or goes on, on both sides. -/
theorem roll (alike : Alike cfg m n) (now : Time) :
    Alike cfg (m.maybeRollDaily now) (n.maybeRollDaily now) := by
  have dates : (m.maybeRollDaily now).dailyAnchorDate.map Time.date =
      (n.maybeRollDaily now).dailyAnchorDate.map Time.date := by
    rw [m.maybeRollDaily_date, n.maybeRollDaily_date]
  obtain ⟨left_kill, left_lock⟩ := m.maybeRollDaily_switches now
  obtain ⟨right_kill, right_lock⟩ := n.maybeRollDaily_switches now
  obtain ⟨left_pnl, left_bySymbol⟩ := m.maybeRollDaily_pnl now
  obtain ⟨right_pnl, right_bySymbol⟩ := n.maybeRollDaily_pnl now
  refine ⟨(m.maybeRollDaily_cfg now).trans alike.left,
    (n.maybeRollDaily_cfg now).trans alike.right, ?_, ?_, ?_, ?_, ?_,
    .inl dates, ?_⟩
  · rw [m.maybeRollDaily_books, n.maybeRollDaily_books, alike.books]
  · rw [left_pnl, right_pnl]
    rcases alike.window with same | ⟨pnl, -⟩
    · rw [m.anchorStale_eq, n.anchorStale_eq, same, alike.pnl]
    · rw [← alike.pnl, pnl, ite_self, ite_self]
  · rw [left_bySymbol, right_bySymbol]
    rcases alike.window with same | ⟨-, bySymbol⟩
    · rw [m.anchorStale_eq, n.anchorStale_eq, same, alike.bySymbol]
    · rw [← alike.bySymbol, bySymbol, ite_self, ite_self]
  · rw [left_kill, right_kill, alike.killSwitch]
  · rw [left_lock, right_lock, alike.profitLock]
  · intro none
    have date := m.maybeRollDaily_date now
    rw [none] at date
    cases date

/-- Booking on both sides. -/
theorem bookPnl (alike : Alike cfg m n) (now : Time) (symbol : Symbol)
    (pnl : ℚ) : Alike cfg (m.bookPnl now symbol pnl) (n.bookPnl now symbol pnl) := by
  have rolled := alike.roll now
  refine ⟨rolled.left, rolled.right, rolled.books, ?_, ?_, rolled.killSwitch,
    rolled.profitLock, .inl ?_, ?_⟩
  · exact congrArg (· + pnl) rolled.pnl
  · exact congrArg (fun d : Dict Symbol ℚ => d.set symbol (d.getD symbol 0 + pnl))
      rolled.bySymbol
  · exact (m.maybeRollDaily_date now).trans (n.maybeRollDaily_date now).symm
  · intro none
    have date := m.maybeRollDaily_date now
    change (m.maybeRollDaily now).dailyAnchorDate = _ at none
    rw [none] at date
    cases date

/-- A fill or a close changes the books by the books alone. -/
theorem filled (alike : Alike cfg m n) (order : Order) (accountId : AccountId) :
    Alike cfg (m.onFilled order accountId) (n.onFilled order accountId) := by
  have books := alike.books
  simp only [RiskMonitor.books, Prod.mk.injEq] at books
  obtain ⟨strategies, symbols, tickets⟩ := books
  refine ⟨alike.left, alike.right, ?_, alike.pnl, alike.bySymbol,
    alike.killSwitch, alike.profitLock, alike.window, alike.unanchored⟩
  simp only [RiskMonitor.books, RiskMonitor.onFilled, strategies, symbols,
    tickets]

theorem release (alike : Alike cfg m n) (position : Position)
    (accountId : AccountId) :
    Alike cfg (m.release position accountId) (n.release position accountId) := by
  have books := alike.books
  simp only [RiskMonitor.books, Prod.mk.injEq] at books
  obtain ⟨strategies, symbols, tickets⟩ := books
  refine ⟨alike.left, alike.right, ?_, alike.pnl, alike.bySymbol,
    alike.killSwitch, alike.profitLock, alike.window, alike.unanchored⟩
  simp only [RiskMonitor.books, RiskMonitor.release, strategies, symbols,
    tickets]

/-- A blind monitor's limits read nothing but the books and the profit. -/
theorem limitReason_eq (blind : SnapshotBlind cfg) (alike : Alike cfg m n)
    (signal : Signal) : m.limitReason signal = n.limitReason signal := by
  have books := alike.books
  simp only [RiskMonitor.books, Prod.mk.injEq] at books
  obtain ⟨strategies, symbols, -⟩ := books
  have noLoss : ∀ r : RiskMonitor, r.cfg = cfg → r.dailyLossReason = none := by
    intro r own
    simp [RiskMonitor.dailyLossReason, own, blind.dailyLoss]
  have noFloor : ∀ r : RiskMonitor, r.cfg = cfg → r.marginFloorReason = none := by
    intro r own
    unfold RiskMonitor.marginFloorReason
    split
    · rename_i enabled
      obtain ⟨level, free⟩ := blind.marginFloor (own ▸ enabled)
      unfold RiskMonitor.marginLevelReason RiskMonitor.freeMarginReason
      rw [own, level, free]
      cases r.currentMarginLevel <;> cases r.currentFreeMargin <;> simp
    · rfl
  have cap : m.strategyCapReason signal.strategyId =
      n.strategyCapReason signal.strategyId := by
    simp only [RiskMonitor.strategyCapReason, alike.left, alike.right,
      strategies]
  have symbolCap : m.symbolCapReason signal.symbol =
      n.symbolCapReason signal.symbol := by
    simp only [RiskMonitor.symbolCapReason, alike.left, alike.right, symbols]
  have symbolLoss : m.symbolLossReason signal.symbol =
      n.symbolLossReason signal.symbol := by
    simp only [RiskMonitor.symbolLossReason, alike.left, alike.right,
      alike.bySymbol]
  unfold RiskMonitor.limitReason
  rw [cap, symbolCap, symbolLoss, noLoss m alike.left, noLoss n alike.right,
    noFloor m alike.left, noFloor n alike.right]

/-- The gate gives one verdict on both sides. -/
theorem checkSignal (blind : SnapshotBlind cfg) (alike : Alike cfg m n)
    (now : Time) (signal : Signal) :
    (m.checkSignal now signal).1 = (n.checkSignal now signal).1 ∧
      Alike cfg (m.checkSignal now signal).2 (n.checkSignal now signal).2 := by
  have rolled := alike.roll now
  have limits := rolled.limitReason_eq blind signal
  unfold RiskMonitor.checkSignal
  rw [alike.killSwitch, alike.profitLock]
  split
  · exact ⟨rfl, alike⟩
  · split
    · exact ⟨rfl, alike⟩
    · dsimp only
      rw [limits]
      split
      · exact ⟨rfl, rolled⟩
      · exact ⟨rfl, rolled⟩

/-- Without sizing the volume is the strategy's own. -/
theorem resolveVolume_eq (blind : SnapshotBlind cfg) (own : m.cfg = cfg)
    (signal : Signal) (info : Option SymbolInfo) :
    resolveVolume (some m) signal info = fixedVolume signal := by
  unfold resolveVolume
  simp [own, blind.sizing]

theorem checkAggregateRisk_eq {β ε : Type} (port : BrokerPort β ε)
    (blind : SnapshotBlind cfg) (own : m.cfg = cfg) (cache : Dict Symbol ℚ)
    (signal : Signal) (volume : ℚ) (info : Option SymbolInfo) (b : β) :
    checkAggregateRisk port m cache signal volume info b = (b, cache, none) := by
  unfold checkAggregateRisk
  simp [own, blind.aggregate]

end Alike

/-- Alikeness absorbs foreign snapshots, survives what both runs see, and shows
the same verdicts. -/
theorem alike_unwinds {β ε : Type} {cfg : RiskConfig}
    (blind : SnapshotBlind cfg) (port : BrokerPort β ε) (accountId : AccountId)
    (strategyId : StrategyId) :
    Unwinds PoolInput.next (PoolInput.verdicts port strategyId)
      (PoolInput.foreign accountId) (Alike cfg) where
  absorbs := by
    intro m n input foreign alike
    cases input with
    | signal => cases foreign
    | event now input =>
        cases input with
        | snapshot snap => exact alike.absorbs blind snap
        | _ => cases foreign
  unseen := by
    intro m input foreign
    cases input with
    | signal => cases foreign
    | event => rfl
  keeps := by
    intro m n input seen alike
    cases input with
    | signal now asked info cache b => exact (alike.checkSignal blind now asked).2
    | event now input =>
        cases input with
        | filled order account => exact alike.filled order account
        | closed position pnl account =>
            exact (alike.release position account).bookPnl now position.symbol pnl
        | partialClosed position pnl =>
            exact alike.bookPnl now position.symbol pnl
        | snapshot snap => exact alike.snapshot blind snap
  agrees := by
    intro m n input seen alike
    cases input with
    | event => rfl
    | signal now asked info cache b =>
        obtain ⟨verdict, after⟩ := alike.checkSignal blind now asked
        simp only [PoolInput.verdicts, verdict,
          Alike.resolveVolume_eq blind alike.left,
          Alike.resolveVolume_eq blind alike.right,
          Alike.checkAggregateRisk_eq port blind after.left,
          Alike.checkAggregateRisk_eq port blind after.right]

theorem SnapshotBlind.isolated {cfg : RiskConfig} (blind : SnapshotBlind cfg) :
    Isolated cfg := fun port accountId strategyId _ _ same =>
  (alike_unwinds blind port accountId strategyId).observations_eq
    (Alike.refl_create cfg) same

theorem next_untripped {β : Type} {cfg : RiskConfig}
    (blind : SnapshotBlind cfg) (input : PoolInput β) {m : RiskMonitor}
    (own : m.cfg = cfg) (off : m.killSwitchTripped = false) :
    (PoolInput.next m input).cfg = cfg ∧
      (PoolInput.next m input).killSwitchTripped = false := by
  have booked : ∀ (r : RiskMonitor) (now : Time) (symbol : Symbol) (pnl : ℚ),
      (r.bookPnl now symbol pnl).killSwitchTripped = r.killSwitchTripped :=
    fun r now _ _ => (r.maybeRollDaily_switches now).1
  cases input with
  | signal now asked info cache b =>
      refine ⟨(m.checkSignal_cfg now asked).trans own, ?_⟩
      have kept := congrArg RiskStateRow.killSwitchTripped
        (m.checkSignal_toRow now asked)
      exact kept.trans off
  | event now input =>
      cases input with
      | filled order account => exact ⟨own, off⟩
      | closed position pnl account =>
          exact ⟨(RiskMonitor.bookPnl_cfg _ _ _ _).trans own,
            (booked _ _ _ _).trans off⟩
      | partialClosed position pnl =>
          exact ⟨(RiskMonitor.bookPnl_cfg _ _ _ _).trans own,
            (booked _ _ _ _).trans off⟩
      | snapshot snap =>
          exact ⟨(m.onSnapshot_cfg snap).trans own,
            (RiskMonitor.onSnapshot_switches blind own snap).1.trans off⟩

/-- A blind monitor never trips. -/
theorem SnapshotBlind.ownDrawdown {cfg : RiskConfig}
    (blind : SnapshotBlind cfg) : OwnDrawdown cfg := by
  intro β inputs tripped
  have untripped : ∀ (inputs : List (PoolInput β)) (m : RiskMonitor),
      m.cfg = cfg → m.killSwitchTripped = false →
        (inputs.foldl PoolInput.next m).killSwitchTripped = false := by
    intro inputs
    induction inputs with
    | nil => exact fun m own off => off
    | cons input inputs ih =>
        intro m own off
        obtain ⟨own', off'⟩ := next_untripped blind input own off
        exact ih _ own' off'
  rw [untripped inputs _ rfl rfl] at tripped
  cases tripped

/-! ### A pair of runs for every rule -/

namespace RiskMonitor

variable (m : RiskMonitor)

/-- The peak and the kill switch after a snapshot. -/
theorem onSnapshot_peak (snap : AccountSnapshot) :
    (m.onSnapshot snap).1.peakEquity = (m.takeFigures snap).peakEquity ∧
      (m.onSnapshot snap).1.killSwitchTripped =
        (m.killSwitchTripped || (m.takeFigures snap).killSwitchTrips) := by
  rcases m.onSnapshot_anchored snap with ⟨opened, high, locked, same⟩
  rcases (m.takeFigures snap).anchorDay_eq snap with ⟨balance, needs, anchored⟩
  rw [same, anchored]
  exact ⟨rfl, rfl⟩

/-- A drop from the peak by the limit trips the kill switch. -/
theorem onSnapshot_trips {peak : ℚ} (snap : AccountSnapshot)
    (high : m.peakEquity = some peak) (positive : 0 < peak)
    (below : snap.equity ≤ peak) (on : 0 < m.cfg.killSwitchDrawdownPct)
    (drop : m.cfg.killSwitchDrawdownPct ≤
      (peak - snap.equity) / peak * 100) :
    (m.onSnapshot snap).1.killSwitchTripped = true := by
  have kept : (m.takeFigures snap).peakEquity = some peak := by
    simp [takeFigures, newPeak, high, below]
  have deep : m.cfg.killSwitchDrawdownPct ≤ (m.takeFigures snap).drawdownPct := by
    unfold drawdownPct
    rw [kept]
    dsimp only [takeFigures]
    rw [if_neg (not_le.mpr positive)]
    exact le_max_of_le_right drop
  rw [(m.onSnapshot_peak snap).2]
  cases already : m.killSwitchTripped with
  | true => rfl
  | false =>
      have off : (m.takeFigures snap).killSwitchTripped = false := already
      have cfg : (m.takeFigures snap).cfg = m.cfg := rfl
      simp [killSwitchTrips, off, cfg, on, deep]

/-- All that the profit lock reads and writes. -/
def profit : ProfitLockConfig × Option ℚ × Option ℚ × Bool :=
  (m.cfg.profitLock, m.plOpenEquity, m.plHighEquity, m.profitLockTripped)

theorem profit_eq {m n : RiskMonitor} :
    m.profit = n.profit ↔ m.cfg.profitLock = n.cfg.profitLock ∧
      m.plOpenEquity = n.plOpenEquity ∧ m.plHighEquity = n.plHighEquity ∧
      m.profitLockTripped = n.profitLockTripped := by
  simp only [profit, Prod.mk.injEq]

theorem trackProfit_congr {m n : RiskMonitor} (same : m.profit = n.profit)
    (equity : ℚ) : (m.trackProfit equity).profit = (n.trackProfit equity).profit := by
  obtain ⟨cfg, opened, high, locked⟩ := profit_eq.mp same
  unfold trackProfit
  rw [opened, high]
  split
  · exact profit_eq.mpr ⟨cfg, rfl, rfl, locked⟩
  · exact profit_eq.mpr ⟨cfg, rfl, rfl, locked⟩
  · split
    · exact profit_eq.mpr ⟨cfg, rfl, rfl, locked⟩
    · exact same

theorem runProfitLock_congr {m n : RiskMonitor} (same : m.profit = n.profit)
    (equity : ℚ) :
    (m.runProfitLock equity).1.profit = (n.runProfitLock equity).1.profit := by
  have tracked := trackProfit_congr same equity
  obtain ⟨cfg, opened, high, locked⟩ := profit_eq.mp tracked
  have trips : (m.trackProfit equity).profitLockTrips equity =
      (n.trackProfit equity).profitLockTrips equity := by
    unfold profitLockTrips
    rw [cfg, opened, high, locked]
  unfold runProfitLock
  rw [(profit_eq.mp same).1]
  split
  · dsimp only
    rw [trips]
    split
    · exact profit_eq.mpr ⟨cfg, opened, high, rfl⟩
    · exact tracked
  · exact same

/-- The profit lock after a snapshot. -/
theorem onSnapshot_profit (snap : AccountSnapshot) :
    (m.onSnapshot snap).1.profit = (m.runProfitLock snap.equity).1.profit := by
  rcases (m.takeFigures snap).anchorDay_eq snap with ⟨balance, needs, anchored⟩
  unfold onSnapshot
  dsimp only
  rw [anchored]
  refine runProfitLock_congr ?_ snap.equity
  split <;> rfl

/-- A snapshot moves the session-open equity and the high-watermark. -/
theorem onSnapshot_tracks (enabled : m.cfg.profitLock.enabled = true)
    (snap : AccountSnapshot) :
    (m.onSnapshot snap).1.plOpenEquity =
        (m.trackProfit snap.equity).plOpenEquity ∧
      (m.onSnapshot snap).1.plHighEquity =
        (m.trackProfit snap.equity).plHighEquity := by
  obtain ⟨-, opened, high, -⟩ := profit_eq.mp (m.onSnapshot_profit snap)
  rw [opened, high]
  unfold runProfitLock
  rw [if_pos enabled]
  dsimp only
  split <;> exact ⟨rfl, rfl⟩

/-- Giving back a gain that armed the lock trips it. -/
theorem onSnapshot_locks {opened high : ℚ} (snap : AccountSnapshot)
    (enabled : m.cfg.profitLock.enabled = true)
    (open_known : m.plOpenEquity = some opened)
    (high_known : m.plHighEquity = some high) (below : snap.equity ≤ high)
    (armed : opened * (1 + m.cfg.profitLock.activatePct / 100) ≤ high)
    (given : snap.equity <
      high - (high - opened) * m.cfg.profitLock.givebackPct / 100) :
    (m.onSnapshot snap).1.profitLockTripped = true := by
  have tracked : m.trackProfit snap.equity = m := by
    simp [trackProfit, open_known, high_known, below]
  have locked : (m.runProfitLock snap.equity).1.profitLockTripped = true := by
    unfold runProfitLock
    rw [if_pos enabled]
    dsimp only
    rw [tracked]
    cases already : m.profitLockTripped with
    | true => split <;> simp [already]
    | false =>
        simp [profitLockTrips, open_known, high_known, already, armed, given]
  rw [(profit_eq.mp (m.onSnapshot_profit snap)).2.2.2, locked]

/-- A tripped switch refuses every signal. -/
theorem checkSignal_tripped (now : Time) (signal : Signal)
    (tripped : m.killSwitchTripped = true ∨ m.profitLockTripped = true) :
    (m.checkSignal now signal).1.reason ≠ none := by
  unfold checkSignal
  rcases tripped with killed | locked
  · simp [killed, RiskVerdict.reject]
  · rw [locked]
    split <;> simp [RiskVerdict.reject]

/-- Without figures and open positions nothing refuses a signal. -/
theorem checkSignal_unmeasured (now : Time) (signal : Signal)
    (unkilled : m.killSwitchTripped = false)
    (unlocked : m.profitLockTripped = false)
    (strategies : (m.maybeRollDaily now).openPositions = .empty)
    (symbols : (m.maybeRollDaily now).openPositionsBySymbol = .empty)
    (balance : (m.maybeRollDaily now).dailyOpeningBalance = 0)
    (level : (m.maybeRollDaily now).currentMarginLevel = none)
    (free : (m.maybeRollDaily now).currentFreeMargin = none)
    (pnl : (m.maybeRollDaily now).dailyPnlBySymbol.getD signal.symbol 0 = 0) :
    (m.checkSignal now signal).1.reason = none := by
  have noCap : (m.maybeRollDaily now).strategyCapReason signal.strategyId =
      none := by
    simp [strategyCapReason, strategies, Dict.getD]
    omega
  have noLoss : (m.maybeRollDaily now).dailyLossReason = none := by
    simp [dailyLossReason, balance]
  have noFloor : (m.maybeRollDaily now).marginFloorReason = none := by
    simp [marginFloorReason, marginLevelReason, freeMarginReason, level, free]
  have noSymbolCap : (m.maybeRollDaily now).symbolCapReason signal.symbol =
      none := by
    unfold symbolCapReason
    split
    · rfl
    · simp [symbols, Dict.getD]
      omega
  have noSymbolLoss : (m.maybeRollDaily now).symbolLossReason signal.symbol =
      none := by
    unfold symbolLossReason
    split
    · rfl
    · simp [pnl]
  have none : (m.maybeRollDaily now).limitReason signal = none := by
    simp [limitReason, noCap, noLoss, noFloor, noSymbolCap, noSymbolLoss]
  simp [checkSignal, unkilled, unlocked, none, RiskVerdict.allow]

/-- A limit that is hit refuses a signal too. -/
theorem checkSignal_limited (now : Time) (signal : Signal)
    (limited : (m.maybeRollDaily now).dailyLossReason ≠ none ∨
      (m.maybeRollDaily now).marginFloorReason ≠ none) :
    (m.checkSignal now signal).1.reason ≠ none := by
  have hit : (m.maybeRollDaily now).limitReason signal ≠ none := by
    unfold limitReason
    simp only [ne_eq, Option.orElse_eq_none, not_and_or]
    tauto
  unfold checkSignal
  split
  · simp [RiskVerdict.reject]
  · split
    · simp [RiskVerdict.reject]
    · dsimp only
      split
      · simp [RiskVerdict.reject]
      · rename_i none
        exact absurd none hit

end RiskMonitor

/-! ### Telling accounts apart -/

/-- The figures of an account that the probing strategy does not trade on. -/
def otherFigures (balance equity freeMargin marginLevel : ℚ) :
    AccountSnapshot where
  accountId := "other"
  time := 0
  balance := balance
  equity := equity
  freeMargin := freeMargin
  marginLevel := marginLevel

def otherAccount (balance equity freeMargin marginLevel : ℚ) :
    RiskMonitor.RiskInput :=
  .snapshot (otherFigures balance equity freeMargin marginLevel)

def probePosition : Position where
  ticket := 1
  symbol := "USDJPY"
  side := .buy
  volume := 1
  openPrice := 1
  openTime := 0
  sl := none
  tp := none
  comment := ""
  magic := 0
  volume_pos := one_quote_pos
  openPrice_pos := one_quote_pos

/-- A signal with everything that sizing and the exposure cap read. -/
def probeSignal (volume : ℚ) : Signal where
  strategyId := "probe"
  time := 0
  symbol := "EURUSD"
  side := .buy
  suggestedVolume := some volume
  suggestedSl := some 1
  suggestedTp := none
  orderType := .market
  suggestedPrice := none
  entryRefPrice := some 2
  comment := ""

def probeInfo : SymbolInfo where
  symbol := "EURUSD"
  contractSize := 1
  volumeMin := 1
  volumeMax := 2
  volumeStep := 1
  spread := 0
  contractSize_pos := one_quote_pos
  volumeMin_pos := one_quote_pos
  volumeMax_pos := two_quote_pos
  volumeStep_pos := one_quote_pos

/-- A broker without positions. -/
def flatPort : BrokerPort Unit Unit where
  accountId := fun _ => "own"
  getSymbolInfo := fun b _ => (b, some probeInfo)
  getPositions := fun b => (b, some [])
  placeOrder := fun b _ => ⟨b, [], .error ()⟩

/-- The monitor after events of one instant. -/
def monitorAfter (cfg : RiskConfig) (events : List RiskMonitor.RiskInput) :
    RiskMonitor :=
  events.foldl (fun m input => (m.handle 0 input).1) (.create cfg)

/-- What the router makes of the probing signal. -/
def probeVerdicts (m : RiskMonitor) (volume : ℚ) : Verdicts :=
  let asked := probeSignal volume
  let size := resolveVolume (some m) asked (some probeInfo)
  let checked := m.checkSignal 0 asked
  (checked.1.reason, size,
    (checkAggregateRisk flatPort checked.2 .empty asked size (some probeInfo)
      ()).2.2)

theorem probeVerdicts_volume (m : RiskMonitor) (volume : ℚ) :
    (probeVerdicts m volume).2.1 =
      resolveVolume (some m) (probeSignal volume) (some probeInfo) := by
  unfold probeVerdicts
  rfl

theorem monitorAfter_single (cfg : RiskConfig) (snap : AccountSnapshot) :
    monitorAfter cfg [.snapshot snap] =
      ((RiskMonitor.create cfg).onSnapshot snap).1 := by
  unfold monitorAfter
  rfl

def ownEvent : RiskMonitor.RiskInput → Bool
  | .snapshot snap => decide (snap.accountId = "own")
  | _ => true

/-- An isolated monitor answers a probe alike after any foreign snapshots. -/
theorem Isolated.probe {cfg : RiskConfig} (isolated : Isolated cfg)
    (left right : List RiskMonitor.RiskInput)
    (same : left.filter ownEvent = right.filter ownEvent) (volume : ℚ) :
    probeVerdicts (monitorAfter cfg left) volume =
      probeVerdicts (monitorAfter cfg right) volume := by
  have observed : ∀ (events : List RiskMonitor.RiskInput) (m : RiskMonitor),
      observations PoolInput.next (PoolInput.verdicts flatPort "probe") m
          (events.map (PoolInput.event 0) ++
            [.signal 0 (probeSignal volume) (some probeInfo) .empty ()]) =
        [probeVerdicts
          (events.foldl (fun m input => (m.handle 0 input).1) m) volume] := by
    intro events
    induction events with
    | nil => exact fun m => rfl
    | cons input events ih => exact fun m => ih _
  have visible : ∀ events : List RiskMonitor.RiskInput,
      (events.map (PoolInput.event 0) ++
          [PoolInput.signal 0 (probeSignal volume) (some probeInfo) .empty
            ()]).filter (fun input => !input.foreign "own") =
        (events.filter ownEvent).map (PoolInput.event 0) ++
          [.signal 0 (probeSignal volume) (some probeInfo) .empty ()] := by
    intro events
    induction events with
    | nil => rfl
    | cons input events ih =>
        have head : (!(PoolInput.event (β := Unit) 0 input).foreign "own") =
            ownEvent input := by
          cases input <;> simp [PoolInput.foreign, ownEvent]
        simp only [List.map_cons, List.cons_append, List.filter_cons, head, ih]
        split <;> rfl
  have equal := isolated flatPort "own" "probe"
    (left.map (PoolInput.event 0) ++
      [.signal 0 (probeSignal volume) (some probeInfo) .empty ()])
    (right.map (PoolInput.event 0) ++
      [.signal 0 (probeSignal volume) (some probeInfo) .empty ()])
    (by rw [visible, visible, same])
  rw [observed, observed] at equal
  exact (List.cons.inj equal).1

/-- Without any snapshot a probe is allowed. -/
theorem probe_allowed (cfg : RiskConfig) (pnl volume : ℚ) :
    (probeVerdicts (monitorAfter cfg []) volume).1 = none ∧
      (probeVerdicts (monitorAfter cfg [.partialClosed probePosition pnl])
        volume).1 = none :=
  ⟨RiskMonitor.checkSignal_unmeasured _ _ _ rfl rfl rfl rfl rfl rfl rfl rfl,
    RiskMonitor.checkSignal_unmeasured _ _ _ rfl rfl rfl rfl rfl rfl rfl rfl⟩

theorem fixedVolume_probe {volume : ℚ} (nonzero : volume ≠ 0) :
    fixedVolume (probeSignal volume) = volume := by
  simp [fixedVolume, truthy, probeSignal, Option.filter, nonzero]

/-- Without an equity the volume is the strategy's own. -/
theorem resolveVolume_unmeasured {m : RiskMonitor}
    (unknown : m.currentEquity = none) (signal : Signal)
    (info : Option SymbolInfo) :
    resolveVolume (some m) signal info = fixedVolume signal := by
  unfold resolveVolume
  dsimp only
  rw [unknown]
  split
  · split
    · rename_i impossible
      cases impossible
    · rfl
  · rfl

/-- The probe sized by an equity. -/
theorem resolveVolume_probe {m : RiskMonitor} {equity : ℚ} (volume : ℚ)
    (on : m.cfg.positionSizing.enabled = true)
    (known : m.currentEquity = some equity)
    (sized : 0 < sizeByRisk equity m.cfg.positionSizing.riskPerTradePct 2 1 1 1
      2 1) :
    resolveVolume (some m) (probeSignal volume) (some probeInfo) =
      sizeByRisk equity m.cfg.positionSizing.riskPerTradePct 2 1 1 1 2 1 := by
  unfold resolveVolume
  dsimp only
  rw [if_pos on, known]
  exact if_neg (not_le.mpr sized)

/-- The probe capped by an equity of one unit. -/
theorem checkAggregateRisk_probe {m : RiskMonitor} {volume size : ℚ}
    (on : 0 < m.cfg.maxAggregateRiskPct) (known : m.currentEquity = some 1)
    (large : m.cfg.maxAggregateRiskPct < size) :
    (checkAggregateRisk flatPort m .empty (probeSignal volume) size
      (some probeInfo) ()).2.2 ≠ none := by
  have risk : positionRisk 2 (some 1) size 1 = size := by
    norm_num [positionRisk]
  have entry : truthy (some 2) = some (2 : ℚ) := by
    simp [truthy, Option.filter]
  have flat : ∀ sizes, aggregateOpenRisk [] sizes = 0 := fun _ => rfl
  unfold checkAggregateRisk
  dsimp only [probeSignal, probeInfo, flatPort]
  rw [if_neg (not_le.mpr on), known, entry]
  change (ite ((1 : ℚ) ≤ 0) _ _ :
    Unit × Dict Symbol ℚ × Option DecisionReason).2.2 ≠ none
  rw [if_neg (by norm_num)]
  change aggregateReason m.cfg.maxAggregateRiskPct 1
    (positionRisk 2 (some 1) size 1) [] _ ≠ none
  unfold aggregateReason
  dsimp only
  rw [flat, risk, if_pos (by linarith)]
  exact Option.some_ne_none _

/-- Two percent of a hundred units of risk buy two lots. -/
theorem sizeByRisk_two {riskPct : ℚ} (positive : 0 < riskPct) :
    sizeByRisk (200 / riskPct) riskPct 2 1 1 1 2 1 = 2 := by
  have amount : 200 / riskPct * riskPct / 100 = 2 := by
    rw [div_mul_cancel₀ _ positive.ne']
    norm_num
  unfold sizeByRisk
  dsimp only
  rw [amount]
  norm_num

namespace Isolated

variable {cfg : RiskConfig}

/-- Another account's drawdown trips the kill switch. -/
theorem killSwitch_off (isolated : Isolated cfg) :
    cfg.killSwitchDrawdownPct = 0 := by
  by_contra on
  have positive : 0 < cfg.killSwitchDrawdownPct :=
    lt_of_le_of_ne cfg.killSwitchDrawdownPct_nonneg (Ne.symm on)
  have same := congrArg Prod.fst (isolated.probe [] [otherAccount 0 1 0 0,
    otherAccount 0 (-cfg.killSwitchDrawdownPct) 0 0] rfl 1)
  rw [(probe_allowed cfg 0 1).1] at same
  refine RiskMonitor.checkSignal_tripped _ 0 _ (.inl ?_) same.symm
  have peak := ((RiskMonitor.create cfg).onSnapshot_peak
    (otherFigures 0 1 0 0)).1
  have own := (RiskMonitor.create cfg).onSnapshot_cfg (otherFigures 0 1 0 0)
  change (RiskMonitor.onSnapshot ((RiskMonitor.create cfg).onSnapshot
    (otherFigures 0 1 0 0)).1 (otherFigures 0
      (-cfg.killSwitchDrawdownPct) 0 0)).1.killSwitchTripped = true
  generalize ((RiskMonitor.create cfg).onSnapshot
    (otherFigures 0 1 0 0)).1 = first at peak own
  change first.cfg = cfg at own
  refine first.onSnapshot_trips _ peak one_pos ?_ (own ▸ positive) ?_
  · change -cfg.killSwitchDrawdownPct ≤ 1
    linarith
  · rw [own]
    change cfg.killSwitchDrawdownPct ≤
      (1 - -cfg.killSwitchDrawdownPct) / 1 * 100
    linarith

/-- Another account's balance arms the daily-loss limit. -/
theorem dailyLoss_off (isolated : Isolated cfg) : cfg.maxDailyLossPct = 0 := by
  by_contra on
  have positive : 0 < cfg.maxDailyLossPct :=
    lt_of_le_of_ne cfg.maxDailyLossPct_nonneg (Ne.symm on)
  have same := congrArg Prod.fst (isolated.probe
    [.partialClosed probePosition (-cfg.maxDailyLossPct)]
    [otherAccount 100 0 0 0,
      .partialClosed probePosition (-cfg.maxDailyLossPct)] rfl 1)
  rw [(probe_allowed cfg _ 1).2] at same
  refine RiskMonitor.checkSignal_limited _ 0 _ (.inl ?_) same.symm
  have balance := (RiskMonitor.create cfg).onSnapshot_openingBalance
    (otherFigures 100 0 0 0)
  have own := (RiskMonitor.create cfg).onSnapshot_cfg (otherFigures 100 0 0 0)
  obtain ⟨pnl, -, anchor⟩ := RiskMonitor.onSnapshot_day (m := .create cfg)
    (otherFigures 100 0 0 0)
  change (((((RiskMonitor.create cfg).onSnapshot
    (otherFigures 100 0 0 0)).1.bookPnl 0 "USDJPY"
      (-cfg.maxDailyLossPct)).maybeRollDaily 0).dailyLossReason) ≠ none
  generalize ((RiskMonitor.create cfg).onSnapshot
    (otherFigures 100 0 0 0)).1 = first at balance own pnl anchor
  change first.dailyAnchorDate = some 0 at anchor
  change first.dailyOpeningBalance = 100 at balance
  change first.dailyRealizedPnl = 0 at pnl
  change first.cfg = cfg at own
  have sameDay : first.maybeRollDaily 0 = first := by
    simp [RiskMonitor.maybeRollDaily, RiskMonitor.anchorStale, anchor]
  have booked : (first.bookPnl 0 "USDJPY" (-cfg.maxDailyLossPct)).maybeRollDaily
      0 = first.bookPnl 0 "USDJPY" (-cfg.maxDailyLossPct) := by
    simp [RiskMonitor.maybeRollDaily, RiskMonitor.anchorStale,
      RiskMonitor.bookPnl, anchor]
  have loss : (first.bookPnl 0 "USDJPY" (-cfg.maxDailyLossPct)).dailyLossPct =
      cfg.maxDailyLossPct := by
    unfold RiskMonitor.dailyLossPct RiskMonitor.bookPnl
    dsimp only
    rw [sameDay, pnl, balance, zero_add, neg_neg, max_eq_right positive.le]
    ring
  rw [booked]
  have armed : (first.bookPnl 0 "USDJPY"
      (-cfg.maxDailyLossPct)).dailyOpeningBalance = 100 := by
    unfold RiskMonitor.bookPnl
    rw [sameDay]
    exact balance
  simp [RiskMonitor.dailyLossReason, loss, armed, own, positive]

/-- Another account's margin trips the floor. -/
theorem marginFloor_off (isolated : Isolated cfg)
    (enabled : cfg.marginFloor.enabled = true) :
    cfg.marginFloor.minMarginLevelPct = 0 ∧
      cfg.marginFloor.minFreeMargin = 0 := by
  by_contra on
  have same := congrArg Prod.fst (isolated.probe []
    [otherAccount 0 0 (-1) (cfg.marginFloor.minMarginLevelPct / 2)] rfl 1)
  rw [(probe_allowed cfg 0 1).1] at same
  refine RiskMonitor.checkSignal_limited _ 0 _ (.inr ?_) same.symm
  obtain ⟨_, _, _, _, _, _, _, taken⟩ := (RiskMonitor.create cfg).onSnapshot_eq
    (otherFigures 0 0 (-1) (cfg.marginFloor.minMarginLevelPct / 2))
  change ((((RiskMonitor.create cfg).onSnapshot (otherFigures 0 0 (-1)
    (cfg.marginFloor.minMarginLevelPct / 2))).1.maybeRollDaily
      0).marginFloorReason) ≠ none
  rw [taken]
  have level := cfg.marginFloor.minMarginLevelPct_nonneg
  have free := cfg.marginFloor.minFreeMargin_nonneg
  have rolled : ∀ r : RiskMonitor,
      (r.maybeRollDaily 0).marginFloorReason = r.marginFloorReason := by
    intro r
    unfold RiskMonitor.maybeRollDaily
    split <;> rfl
  rw [rolled]
  intro blank
  simp only [RiskMonitor.marginFloorReason, RiskMonitor.marginLevelReason,
    RiskMonitor.freeMarginReason, RiskMonitor.create, otherFigures, enabled,
    if_true, Option.orElse_eq_none] at blank
  obtain ⟨noLevel, noFree⟩ := blank
  refine on ⟨?_, ?_⟩
  · by_contra apart
    have thin := lt_of_le_of_ne level (Ne.symm apart)
    cases ite_eq_right_iff.mp noLevel
      ⟨thin, by linarith, by linarith⟩
  · by_contra apart
    have floor := lt_of_le_of_ne free (Ne.symm apart)
    cases ite_eq_right_iff.mp noFree ⟨floor, by linarith⟩

/-- Another account's gain and loss trip the profit lock. -/
theorem profitLock_off (isolated : Isolated cfg) :
    cfg.profitLock.enabled = false := by
  by_contra on
  rw [Bool.not_eq_false] at on
  have same := congrArg Prod.fst (isolated.probe []
    [otherAccount 0 1 0 0,
      otherAccount 0 (1 + cfg.profitLock.activatePct / 100) 0 0,
      otherAccount 0 0 0 0] rfl 1)
  rw [(probe_allowed cfg 0 1).1] at same
  refine RiskMonitor.checkSignal_tripped _ 0 _ (.inr ?_) same.symm
  have activate := cfg.profitLock.activatePct_pos
  have giveback := cfg.profitLock.givebackPct_le
  change (RiskMonitor.onSnapshot (RiskMonitor.onSnapshot
    (RiskMonitor.onSnapshot (.create cfg) (otherFigures 0 1 0 0)).1
    (otherFigures 0 (1 + cfg.profitLock.activatePct / 100) 0 0)).1
    (otherFigures 0 0 0 0)).1.profitLockTripped = true
  -- the first snapshot opens the session, the second one arms the lock
  have own := (RiskMonitor.create cfg).onSnapshot_cfg (otherFigures 0 1 0 0)
  obtain ⟨opened, high⟩ := RiskMonitor.onSnapshot_tracks (.create cfg) on
    (otherFigures 0 1 0 0)
  generalize (RiskMonitor.onSnapshot (.create cfg)
    (otherFigures 0 1 0 0)).1 = first at own opened high
  change first.cfg = cfg at own
  change first.plOpenEquity = some 1 at opened
  change first.plHighEquity = some 1 at high
  have gain : 1 < 1 + cfg.profitLock.activatePct / 100 := by linarith
  have tracked : first.trackProfit (1 + cfg.profitLock.activatePct / 100) =
      { first with
        plHighEquity := some (1 + cfg.profitLock.activatePct / 100) } := by
    simp [RiskMonitor.trackProfit, opened, high, activate]
  have own' := (first.onSnapshot_cfg
    (otherFigures 0 (1 + cfg.profitLock.activatePct / 100) 0 0)).trans own
  obtain ⟨opened', high'⟩ := first.onSnapshot_tracks (own ▸ on)
    (otherFigures 0 (1 + cfg.profitLock.activatePct / 100) 0 0)
  simp only [otherFigures, tracked, opened] at opened' high'
  refine RiskMonitor.onSnapshot_locks _ _ (by rw [own']; exact on) opened'
    high' ?_ ?_ ?_
  · change (0 : ℚ) ≤ _
    linarith
  · rw [own', one_mul]
  · rw [own']
    change (0 : ℚ) < _
    have share : cfg.profitLock.activatePct / 100 *
        cfg.profitLock.givebackPct / 100 ≤ cfg.profitLock.activatePct / 100 := by
      rw [mul_div_assoc]
      exact mul_le_of_le_one_right (by positivity) (by linarith)
    linarith

/-- Another account's equity sizes the order. -/
theorem sizing_off (isolated : Isolated cfg) :
    cfg.positionSizing.enabled = false := by
  by_contra on
  rw [Bool.not_eq_false] at on
  have same := congrArg (fun verdicts => verdicts.2.1) (isolated.probe []
    [otherAccount 0 (200 / cfg.positionSizing.riskPerTradePct) 0 0] rfl 1)
  have positive := cfg.positionSizing.riskPerTradePct_pos
  obtain ⟨_, _, _, _, _, _, _, taken⟩ := (RiskMonitor.create cfg).onSnapshot_eq
    (otherFigures 0 (200 / cfg.positionSizing.riskPerTradePct) 0 0)
  have alone : (probeVerdicts (monitorAfter cfg []) 1).2.1 = 1 := by
    rw [probeVerdicts_volume, resolveVolume_unmeasured rfl,
      fixedVolume_probe one_ne_zero]
  have sized : (probeVerdicts (monitorAfter cfg [otherAccount 0
      (200 / cfg.positionSizing.riskPerTradePct) 0 0]) 1).2.1 = 2 := by
    have two := sizeByRisk_two positive
    rw [probeVerdicts_volume, otherAccount, monitorAfter_single, taken]
    refine (resolveVolume_probe 1 on rfl ?_).trans two
    exact lt_of_lt_of_eq two_pos two.symm
  rw [alone, sized] at same
  norm_num at same

/-- Another account's equity caps the open risk. -/
theorem aggregate_off (isolated : Isolated cfg) :
    cfg.maxAggregateRiskPct = 0 := by
  by_contra on
  have positive : 0 < cfg.maxAggregateRiskPct :=
    lt_of_le_of_ne cfg.maxAggregateRiskPct_nonneg (Ne.symm on)
  have same := congrArg (fun verdicts => verdicts.2.2) (isolated.probe []
    [otherAccount 0 1 0 0] rfl (cfg.maxAggregateRiskPct + 1))
  have unsized := isolated.sizing_off
  obtain ⟨_, _, _, _, _, _, _, taken⟩ := (RiskMonitor.create cfg).onSnapshot_eq
    (otherFigures 0 1 0 0)
  have alone : (probeVerdicts (monitorAfter cfg [])
      (cfg.maxAggregateRiskPct + 1)).2.2 = none := by
    unfold probeVerdicts checkAggregateRisk
    dsimp only
    rw [RiskMonitor.checkSignal_currentEquity]
    split
    · rfl
    · split
      · rename_i impossible
        cases impossible
      · rfl
  have capped : (probeVerdicts (monitorAfter cfg [otherAccount 0 1 0 0])
      (cfg.maxAggregateRiskPct + 1)).2.2 ≠ none := by
    rw [otherAccount, monitorAfter_single]
    have own := (RiskMonitor.create cfg).onSnapshot_cfg (otherFigures 0 1 0 0)
    have equity : ((RiskMonitor.create cfg).onSnapshot
        (otherFigures 0 1 0 0)).1.currentEquity = some 1 := by
      rw [taken]
      rfl
    generalize ((RiskMonitor.create cfg).onSnapshot
      (otherFigures 0 1 0 0)).1 = m at own equity
    change m.cfg = cfg at own
    have size : resolveVolume (some m)
        (probeSignal (cfg.maxAggregateRiskPct + 1)) (some probeInfo) =
          cfg.maxAggregateRiskPct + 1 := by
      unfold resolveVolume
      simp only [own, unsized]
      exact fixedVolume_probe (by linarith)
    unfold probeVerdicts
    dsimp only
    rw [size]
    refine checkAggregateRisk_probe ?_ ?_ ?_
    · rw [RiskMonitor.checkSignal_cfg, own]
      exact positive
    · rw [RiskMonitor.checkSignal_currentEquity, equity]
    · rw [RiskMonitor.checkSignal_cfg, own]
      linarith
  rw [alone] at same
  exact capped same.symm

end Isolated

/-- A strategy's verdicts and volumes are independent of other accounts, and the
kill switch trips on an account's own drawdown only, exactly when no rule that
reads a snapshot's figures is on. -/
theorem isolated_iff_snapshot_blind (cfg : RiskConfig) :
    (Isolated cfg ∧ OwnDrawdown cfg) ↔ SnapshotBlind cfg := by
  constructor
  · rintro ⟨isolated, -⟩
    exact
      { killSwitch := isolated.killSwitch_off
        dailyLoss := isolated.dailyLoss_off
        profitLock := isolated.profitLock_off
        marginFloor := isolated.marginFloor_off
        sizing := isolated.sizing_off
        aggregate := isolated.aggregate_off }
  · exact fun blind => ⟨blind.isolated, blind.ownDrawdown⟩

/-- The figures of the probing strategy's own account. -/
def smallAccount : AccountSnapshot :=
  { otherFigures 1000 1000 1000 0 with accountId := "own" }

/-- With the default limits a small account beside a large one trips the kill
switch, although neither lost anything. -/
theorem default_config_mixes_accounts :
    ¬ Isolated default ∧ ¬ OwnDrawdown default := by
  constructor
  · intro isolated
    have same := congrArg Prod.fst (isolated.probe [.snapshot smallAccount]
      [otherAccount 10000 10000 10000 0, .snapshot smallAccount] rfl 1)
    have alone : (probeVerdicts (monitorAfter default
        [.snapshot smallAccount]) 1).1 = none := by
      decide +kernel
    have beside : (probeVerdicts (monitorAfter default
        [otherAccount 10000 10000 10000 0, .snapshot smallAccount]) 1).1 =
          some .killSwitchTripped := by
      decide +kernel
    rw [alone, beside] at same
    cases same
  · intro own
    have tripped : (List.foldl PoolInput.next (.create default)
        ([.event 0 (otherAccount 10000 10000 10000 0),
          .event 0 (.snapshot smallAccount)] :
            List (PoolInput Unit))).killSwitchTripped = true := by
      decide +kernel
    obtain ⟨accountId, high, low, found, -⟩ := own _ tripped
    have two := found.length_le
    simp only [List.filterMap_cons, List.filterMap_nil, PoolInput.snapshotOf,
      otherAccount, otherFigures, smallAccount] at two
    by_cases other : "other" = accountId
    · subst other
      simp at two
    · by_cases own : "own" = accountId
      · subst own
        simp at two
      · simp [other, own] at two

end StingerFx
