/-
Module: StingerFx.Risk.Monitor
Layer: Risk
Purpose: The risk monitor: its caches, the four event handlers, the gate that
  the router asks before an order, restart and operator resets. The handlers
  are plain functions of the monitor; the current instant is an argument, and
  a handler that saves the durable state says so in its result.
Trusted boundary: human-reviewed model of the source's risk monitor
Main exports: RiskMonitor, RiskInput, RiskMonitor.handle, checkSignal,
  onFilled, onClosed, onPartialClosed, onSnapshot, rehydrate, resetKillSwitch,
  resetProfitLock, RiskStateRow, persistState
-/
import StingerFx.Core.Events
import StingerFx.Risk.Config

namespace StingerFx

open Lib

structure RiskVerdict where
  allowed : Bool
  reason : Option RiskReason
deriving Repr, DecidableEq

namespace RiskVerdict

def allow : RiskVerdict := ⟨true, none⟩

def reject (reason : RiskReason) : RiskVerdict := ⟨false, some reason⟩

end RiskVerdict

/-- The single persisted row. -/
structure RiskStateRow where
  peakEquity : Option ℚ
  killSwitchTripped : Bool
  profitLockTripped : Bool
deriving Repr, DecidableEq

structure RiskMonitor where
  cfg : RiskConfig
  needsOpeningBalance : Bool
  openPositions : Dict StrategyId Int
  ticketToStrategy : Dict (AccountId × Ticket) StrategyId
  openPositionsBySymbol : Dict Symbol Int
  dailyAnchorDate : Option Time
  dailyOpeningBalance : ℚ
  dailyRealizedPnl : ℚ
  dailyPnlBySymbol : Dict Symbol ℚ
  peakEquity : Option ℚ
  currentEquity : Option ℚ
  currentBalance : Option ℚ
  killSwitchTripped : Bool
  currentMarginLevel : Option ℚ
  currentFreeMargin : Option ℚ
  plOpenEquity : Option ℚ
  plHighEquity : Option ℚ
  profitLockTripped : Bool

namespace RiskMonitor

def create (cfg : RiskConfig) : RiskMonitor where
  cfg := cfg
  needsOpeningBalance := false
  openPositions := .empty
  ticketToStrategy := .empty
  openPositionsBySymbol := .empty
  dailyAnchorDate := none
  dailyOpeningBalance := 0
  dailyRealizedPnl := 0
  dailyPnlBySymbol := .empty
  peakEquity := none
  currentEquity := none
  currentBalance := none
  killSwitchTripped := false
  currentMarginLevel := none
  currentFreeMargin := none
  plOpenEquity := none
  plHighEquity := none
  profitLockTripped := false

def updateConfig (m : RiskMonitor) (cfg : RiskConfig) : RiskMonitor :=
  { m with cfg := cfg }

/-! ### Durable state -/

/-- The row that a save would write. -/
def toRow (m : RiskMonitor) : RiskStateRow :=
  ⟨m.peakEquity, m.killSwitchTripped, m.profitLockTripped⟩

/-- Save the durable state; a failing save leaves the row as it was. -/
def persistState (m : RiskMonitor) (saves : Bool) (row : Option RiskStateRow) :
    Option RiskStateRow :=
  if saves then some m.toRow else row

/-- Operator reset of the kill switch; the drawdown peak is rebased. -/
def resetKillSwitch (m : RiskMonitor) : RiskMonitor :=
  { m with
    killSwitchTripped := false
    peakEquity := m.currentEquity <|> m.peakEquity }

/-- Operator reset of the profit lock. -/
def resetProfitLock (m : RiskMonitor) : RiskMonitor :=
  { m with
    profitLockTripped := false
    plOpenEquity := m.currentEquity <|> m.plOpenEquity
    plHighEquity := m.currentEquity <|> m.plHighEquity }

/-- A position reported by the brokers at startup. -/
structure LivePosition where
  strategyId : Option StrategyId
  symbol : Symbol
  ticket : Ticket
  accountId : AccountId
deriving Repr, DecidableEq

def increment {κ : Type} [DecidableEq κ] (counters : Dict κ Int) (k : κ) :
    Dict κ Int :=
  counters.set k (counters.getD k 0 + 1)

/-- Count one live position. -/
def countLive (m : RiskMonitor) (live : LivePosition) : RiskMonitor :=
  let bySymbol := increment m.openPositionsBySymbol live.symbol
  match live.strategyId with
  | none => { m with openPositionsBySymbol := bySymbol }
  | some sid =>
      { m with
        openPositionsBySymbol := bySymbol
        openPositions := increment m.openPositions sid
        ticketToStrategy :=
          m.ticketToStrategy.set (live.accountId, live.ticket) sid }

/-- Take over what the stored row says; no row leaves the memory as it is. -/
def adoptRow (m : RiskMonitor) : Option RiskStateRow → RiskMonitor
  | none => m
  | some row =>
      { m with
        peakEquity := row.peakEquity
        killSwitchTripped := row.killSwitchTripped
        profitLockTripped := row.profitLockTripped }

/-- Rebuild the memory after a restart. `loaded` is what reading the stored row
gave, `none` also when the read failed. -/
def rehydrate (m : RiskMonitor) (now : Time) (openPositions : List LivePosition)
    (dailyRealizedPnl : ℚ) (dailyPnlBySymbol : Dict Symbol ℚ)
    (loaded : Option RiskStateRow) : RiskMonitor :=
  let cleared :=
    { m with
      openPositions := .empty
      openPositionsBySymbol := .empty
      ticketToStrategy := .empty }
  let counted := openPositions.foldl countLive cleared
  { counted with
    dailyRealizedPnl := dailyRealizedPnl
    dailyPnlBySymbol := dailyPnlBySymbol
    dailyAnchorDate := some now
    needsOpeningBalance := true }.adoptRow loaded

/-! ### The gate -/

def drawdownPct (m : RiskMonitor) : ℚ :=
  match m.peakEquity, m.currentEquity with
  | some peak, some equity =>
      if peak ≤ 0 then 0 else max 0 ((peak - equity) / peak * 100)
  | _, _ => 0

/-- Whether the daily window is that of another day, or of none. -/
def anchorStale (m : RiskMonitor) (now : Time) : Bool :=
  match m.dailyAnchorDate with
  | none => true
  | some anchor => decide (Time.date now ≠ Time.date anchor)

/-- Start a new daily window when the date has changed. -/
def maybeRollDaily (m : RiskMonitor) (now : Time) : RiskMonitor :=
  if m.anchorStale now then
    { m with
      dailyAnchorDate := some now
      dailyOpeningBalance := m.currentBalance.getD m.dailyOpeningBalance
      dailyRealizedPnl := 0
      dailyPnlBySymbol := .empty }
  else m

/-- Per-strategy cap on open positions. -/
def strategyCapReason (m : RiskMonitor) (strategyId : StrategyId) :
    Option RiskReason :=
  let cap := m.cfg.maxOpenPositionsPerStrategy
  let openN := m.openPositions.getD strategyId 0
  if 0 < cap ∧ (cap : Int) ≤ openN then
    some (.maxOpenPositionsPerStrategy cap strategyId openN)
  else none

/-- Realized loss of the day in percent of its opening balance. -/
def dailyLossPct (m : RiskMonitor) : ℚ :=
  max 0 (-m.dailyRealizedPnl) / m.dailyOpeningBalance * 100

def dailyLossReason (m : RiskMonitor) : Option RiskReason :=
  if 0 < m.cfg.maxDailyLossPct ∧ 0 < m.dailyOpeningBalance ∧
      m.cfg.maxDailyLossPct ≤ m.dailyLossPct then
    some (.maxDailyLossPct m.cfg.maxDailyLossPct m.dailyLossPct)
  else none

def marginLevelReason (m : RiskMonitor) : Option RiskReason :=
  match m.currentMarginLevel with
  | none => none
  | some level =>
      let floor := m.cfg.marginFloor.minMarginLevelPct
      if 0 < floor ∧ 0 < level ∧ level < floor then
        some (.minMarginLevelPct floor level)
      else none

def freeMarginReason (m : RiskMonitor) : Option RiskReason :=
  match m.currentFreeMargin with
  | none => none
  | some free =>
      let floor := m.cfg.marginFloor.minFreeMargin
      if 0 < floor ∧ free < floor then some (.minFreeMargin floor free)
      else none

/-- Margin floor; skipped before the first snapshot. -/
def marginFloorReason (m : RiskMonitor) : Option RiskReason :=
  if m.cfg.marginFloor.enabled then m.marginLevelReason <|> m.freeMarginReason
  else none

/-- Per-symbol cap on open positions. -/
def symbolCapReason (m : RiskMonitor) (symbol : Symbol) : Option RiskReason :=
  match m.cfg.perSymbol.get? symbol with
  | none => none
  | some symCfg =>
      let openN := m.openPositionsBySymbol.getD symbol 0
      if 0 < symCfg.maxOpenPositions ∧ (symCfg.maxOpenPositions : Int) ≤ openN
      then some (.symbolMaxOpenPositions symCfg.maxOpenPositions symbol openN)
      else none

def symbolLossReason (m : RiskMonitor) (symbol : Symbol) : Option RiskReason :=
  match m.cfg.perSymbol.get? symbol with
  | none => none
  | some symCfg =>
      let loss := max 0 (-m.dailyPnlBySymbol.getD symbol 0)
      if 0 < symCfg.maxDailyLossUsd ∧ symCfg.maxDailyLossUsd ≤ loss then
        some (.symbolMaxDailyLossUsd symCfg.maxDailyLossUsd symbol loss)
      else none

/-- The limits that are checked once neither switch is tripped, in the order of
the source. -/
def limitReason (m : RiskMonitor) (signal : Signal) : Option RiskReason :=
  m.strategyCapReason signal.strategyId <|> m.dailyLossReason <|>
    m.marginFloorReason <|> m.symbolCapReason signal.symbol <|>
      m.symbolLossReason signal.symbol

/-- Whether a signal is allowed now. Asking may start a new daily window. -/
def checkSignal (m : RiskMonitor) (now : Time) (signal : Signal) :
    RiskVerdict × RiskMonitor :=
  if m.killSwitchTripped then (.reject .killSwitchTripped, m)
  else if m.profitLockTripped then (.reject .profitLockTripped, m)
  else
    let rolled := m.maybeRollDaily now
    match rolled.limitReason signal with
    | some reason => (.reject reason, rolled)
    | none => (.allow, rolled)

/-! ### Event handlers -/

/-- Lower a counter, unless it is already at zero. -/
def decrement {κ : Type} [DecidableEq κ] (counters : Dict κ Int) (k : κ) :
    Dict κ Int :=
  if 0 < counters.getD k 0 then counters.set k (counters.getD k 0 - 1)
  else counters

def onFilled (m : RiskMonitor) (order : Order) (accountId : AccountId) :
    RiskMonitor :=
  { m with
    openPositions := increment m.openPositions order.strategyId
    openPositionsBySymbol := increment m.openPositionsBySymbol order.symbol
    ticketToStrategy :=
      if order.ticket ≠ 0 then
        m.ticketToStrategy.set (accountId, order.ticket) order.strategyId
      else m.ticketToStrategy }

/-- Add realized profit to the day, in total and for a symbol. -/
def bookPnl (m : RiskMonitor) (now : Time) (symbol : Symbol) (pnl : ℚ) :
    RiskMonitor :=
  let rolled := m.maybeRollDaily now
  { rolled with
    dailyRealizedPnl := rolled.dailyRealizedPnl + pnl
    dailyPnlBySymbol :=
      rolled.dailyPnlBySymbol.set symbol
        (rolled.dailyPnlBySymbol.getD symbol 0 + pnl) }

/-- Release the ticket and the counters of a closed position. -/
def release (m : RiskMonitor) (position : Position) (accountId : AccountId) :
    RiskMonitor :=
  { m with
    ticketToStrategy := m.ticketToStrategy.erase (accountId, position.ticket)
    openPositions :=
      match m.ticketToStrategy.get? (accountId, position.ticket) with
      | some sid => decrement m.openPositions sid
      -- a close without a known fill touches no strategy's counter
      | none => m.openPositions
    openPositionsBySymbol := decrement m.openPositionsBySymbol position.symbol }

def onClosed (m : RiskMonitor) (now : Time) (position : Position)
    (realizedPnl : ℚ) (accountId : AccountId) : RiskMonitor :=
  (m.release position accountId).bookPnl now position.symbol realizedPnl

/-- A partial close counts profit and leaves the position counters alone. -/
def onPartialClosed (m : RiskMonitor) (now : Time) (position : Position)
    (realizedPnl : ℚ) : RiskMonitor :=
  m.bookPnl now position.symbol realizedPnl

/-- Whether a snapshot is a new equity peak. -/
def newPeak (m : RiskMonitor) (snap : AccountSnapshot) : Bool :=
  match m.peakEquity with
  | none => true
  | some peak => decide (peak < snap.equity)

/-- Figures of the snapshot, and the peak it may set. -/
def takeFigures (m : RiskMonitor) (snap : AccountSnapshot) : RiskMonitor :=
  { m with
    currentEquity := some snap.equity
    currentBalance := some snap.balance
    currentMarginLevel := some snap.marginLevel
    currentFreeMargin := some snap.freeMargin
    peakEquity := if m.newPeak snap then some snap.equity else m.peakEquity }

/-- Anchor the daily window on the first snapshot, or recover the opening
balance after a restart. -/
def anchorDay (m : RiskMonitor) (snap : AccountSnapshot) : RiskMonitor :=
  match m.dailyAnchorDate with
  | none =>
      { m with
        dailyAnchorDate := some snap.time
        dailyOpeningBalance := snap.balance }
  | some _ =>
      if m.needsOpeningBalance then
        { m with
          dailyOpeningBalance := snap.balance - m.dailyRealizedPnl
          needsOpeningBalance := false }
      else m

/-- Whether the kill switch trips now. -/
def killSwitchTrips (m : RiskMonitor) : Bool :=
  decide (0 < m.cfg.killSwitchDrawdownPct) && !m.killSwitchTripped &&
    decide (m.cfg.killSwitchDrawdownPct ≤ m.drawdownPct)

/-- Session-open equity and high-watermark of the profit lock. -/
def trackProfit (m : RiskMonitor) (equity : ℚ) : RiskMonitor :=
  match m.plOpenEquity, m.plHighEquity with
  | none, _ =>
      { m with plOpenEquity := some equity, plHighEquity := some equity }
  | some _, none => { m with plHighEquity := some equity }
  | some _, some high =>
      if high < equity then { m with plHighEquity := some equity } else m

/-- Whether the profit lock trips at an equity. -/
def profitLockTrips (m : RiskMonitor) (equity : ℚ) : Bool :=
  let pl := m.cfg.profitLock
  match m.plOpenEquity, m.plHighEquity with
  | some opened, some high =>
      !m.profitLockTripped && decide (opened * (1 + pl.activatePct / 100) ≤ high) &&
        decide (equity < high - (high - opened) * pl.givebackPct / 100)
  | _, _ => false

/-- Run the profit lock on a snapshot; the flag says whether it tripped now. -/
def runProfitLock (m : RiskMonitor) (equity : ℚ) : RiskMonitor × Bool :=
  if m.cfg.profitLock.enabled then
    let tracked := m.trackProfit equity
    if tracked.profitLockTrips equity then
      ({ tracked with profitLockTripped := true }, true)
    else (tracked, false)
  else (m, false)

/-- Handle an account snapshot; the flag says whether the durable state is
saved. -/
def onSnapshot (m : RiskMonitor) (snap : AccountSnapshot) : RiskMonitor × Bool :=
  let peakChanged := m.newPeak snap
  let anchored := (m.takeFigures snap).anchorDay snap
  let trippedNow := anchored.killSwitchTrips
  let switched :=
    if trippedNow then { anchored with killSwitchTripped := true } else anchored
  let locked := switched.runProfitLock snap.equity
  (locked.1, peakChanged || trippedNow || locked.2)

/-- An event as one of the monitor's four subscriptions delivers it. -/
inductive RiskInput where
  | filled (order : Order) (accountId : AccountId)
  | closed (position : Position) (realizedPnl : ℚ) (accountId : AccountId)
  | partialClosed (position : Position) (realizedPnl : ℚ)
  | snapshot (snap : AccountSnapshot)
deriving Repr, DecidableEq

/-- The monitor after one delivery, and whether it saves its durable state. -/
def handle (m : RiskMonitor) (now : Time) : RiskInput → RiskMonitor × Bool
  | .filled order accountId => (m.onFilled order accountId, false)
  | .closed position realizedPnl accountId =>
      (m.onClosed now position realizedPnl accountId, false)
  | .partialClosed position realizedPnl =>
      (m.onPartialClosed now position realizedPnl, false)
  | .snapshot snap => m.onSnapshot snap

/-! ### Counters -/

section Counters

variable {κ : Type} [DecidableEq κ] (counters : Dict κ Int) (k other : κ)

theorem getD_increment :
    (increment counters k).getD other 0 =
      counters.getD other 0 + if other = k then 1 else 0 := by
  unfold increment
  rw [Dict.getD_set]
  split
  · rename_i same
    rw [same]
  · rw [add_zero]

theorem getD_decrement_of_ne (apart : other ≠ k) :
    (decrement counters k).getD other 0 = counters.getD other 0 := by
  unfold decrement
  split
  · rw [Dict.getD_set, if_neg apart]
  · rfl

/-- A lowered counter stops at zero. -/
theorem getD_decrement_self :
    (decrement counters k).getD k 0 =
      if 0 < counters.getD k 0 then counters.getD k 0 - 1
      else counters.getD k 0 := by
  unfold decrement
  split
  · rw [Dict.getD_set, if_pos rfl]
  · rfl

end Counters

/-! ### What each operation leaves alone -/

/-- The position books: both counters and the ticket map. -/
def books (m : RiskMonitor) :
    Dict StrategyId Int × Dict Symbol Int × Dict (AccountId × Ticket) StrategyId :=
  (m.openPositions, m.openPositionsBySymbol, m.ticketToStrategy)

section Frames

variable (m : RiskMonitor) (now : Time)

@[simp] theorem maybeRollDaily_cfg : (m.maybeRollDaily now).cfg = m.cfg := by
  unfold maybeRollDaily
  split <;> rfl

/-- The daily window touches neither the books nor what is durable. -/
@[simp] theorem maybeRollDaily_books :
    (m.maybeRollDaily now).books = m.books := by
  unfold maybeRollDaily
  split <;> rfl

@[simp] theorem maybeRollDaily_toRow : (m.maybeRollDaily now).toRow = m.toRow := by
  unfold maybeRollDaily
  split <;> rfl

@[simp] theorem bookPnl_cfg (symbol : Symbol) (pnl : ℚ) :
    (m.bookPnl now symbol pnl).cfg = m.cfg :=
  m.maybeRollDaily_cfg now

@[simp] theorem bookPnl_books (symbol : Symbol) (pnl : ℚ) :
    (m.bookPnl now symbol pnl).books = m.books :=
  m.maybeRollDaily_books now

@[simp] theorem bookPnl_toRow (symbol : Symbol) (pnl : ℚ) :
    (m.bookPnl now symbol pnl).toRow = m.toRow :=
  m.maybeRollDaily_toRow now

/-- Anchoring touches the daily window only, and moves no anchor. -/
theorem anchorDay_eq (snap : AccountSnapshot) :
    ∃ openingBalance needs,
      m.anchorDay snap =
        { m with
          dailyAnchorDate := m.dailyAnchorDate <|> some snap.time
          dailyOpeningBalance := openingBalance
          needsOpeningBalance := needs } := by
  unfold anchorDay
  split
  · rename_i unanchored
    rw [unanchored]
    exact ⟨snap.balance, m.needsOpeningBalance, rfl⟩
  · rename_i anchor anchored
    have same : (m.dailyAnchorDate <|> some snap.time) = m.dailyAnchorDate := by
      rw [anchored]
      rfl
    rw [same]
    split
    · exact ⟨snap.balance - m.dailyRealizedPnl, false, rfl⟩
    · exact ⟨m.dailyOpeningBalance, m.needsOpeningBalance, rfl⟩

/-- The profit lock touches its own fields only. -/
theorem runProfitLock_eq (equity : ℚ) :
    ∃ opened high locked,
      (m.runProfitLock equity).1 =
        { m with
          plOpenEquity := opened
          plHighEquity := high
          profitLockTripped := locked } := by
  have tracked : ∃ opened high, m.trackProfit equity =
      { m with plOpenEquity := opened, plHighEquity := high } := by
    unfold trackProfit
    split
    · exact ⟨_, _, rfl⟩
    · exact ⟨_, _, rfl⟩
    · split
      · exact ⟨_, _, rfl⟩
      · exact ⟨m.plOpenEquity, m.plHighEquity, rfl⟩
  rcases tracked with ⟨opened, high, tracked⟩
  unfold runProfitLock
  split
  · dsimp only
    rw [tracked]
    split
    · exact ⟨opened, high, true, rfl⟩
    · exact ⟨opened, high, m.profitLockTripped, rfl⟩
  · exact ⟨m.plOpenEquity, m.plHighEquity, m.profitLockTripped, rfl⟩

/-- A snapshot's figures are taken, the day is anchored, and the switches may
trip. -/
theorem onSnapshot_anchored (snap : AccountSnapshot) :
    ∃ opened high locked,
      (m.onSnapshot snap).1 =
        { (m.takeFigures snap).anchorDay snap with
          killSwitchTripped := m.killSwitchTripped ||
            ((m.takeFigures snap).anchorDay snap).killSwitchTrips
          plOpenEquity := opened
          plHighEquity := high
          profitLockTripped := locked } := by
  rcases (m.takeFigures snap).anchorDay_eq snap with ⟨balance, needs, anchored⟩
  have kept : ((m.takeFigures snap).anchorDay snap).killSwitchTripped =
      m.killSwitchTripped := by
    rw [anchored]
    rfl
  unfold onSnapshot
  dsimp only
  rw [← kept]
  generalize (m.takeFigures snap).anchorDay snap = day
  cases trips : day.killSwitchTrips with
  | true =>
      rcases runProfitLock_eq { day with killSwitchTripped := true }
        snap.equity with ⟨opened, high, locked, ran⟩
      rw [if_pos rfl, ran, Bool.or_true]
      exact ⟨opened, high, locked, rfl⟩
  | false =>
      rcases day.runProfitLock_eq snap.equity with ⟨opened, high, locked, ran⟩
      rw [if_neg Bool.false_ne_true, ran, Bool.or_false]
      exact ⟨opened, high, locked, rfl⟩

/-- All that a snapshot may change. -/
theorem onSnapshot_eq (snap : AccountSnapshot) :
    ∃ peak openingBalance needs tripped opened high locked,
      (m.onSnapshot snap).1 =
        { m with
          currentEquity := some snap.equity
          currentBalance := some snap.balance
          currentMarginLevel := some snap.marginLevel
          currentFreeMargin := some snap.freeMargin
          peakEquity := peak
          dailyAnchorDate := m.dailyAnchorDate <|> some snap.time
          dailyOpeningBalance := openingBalance
          needsOpeningBalance := needs
          killSwitchTripped := tripped
          plOpenEquity := opened
          plHighEquity := high
          profitLockTripped := locked } := by
  rcases m.onSnapshot_anchored snap with ⟨opened, high, locked, same⟩
  rcases (m.takeFigures snap).anchorDay_eq snap with
    ⟨openingBalance, needs, anchored⟩
  rw [anchored] at same
  exact ⟨_, openingBalance, needs, _, opened, high, locked, same⟩

/-- The opening balance after a snapshot. -/
theorem onSnapshot_openingBalance (snap : AccountSnapshot) :
    (m.onSnapshot snap).1.dailyOpeningBalance =
      (m.anchorDay snap).dailyOpeningBalance := by
  rcases m.onSnapshot_anchored snap with ⟨opened, high, locked, same⟩
  rw [same]
  unfold anchorDay takeFigures
  dsimp only
  split
  · rfl
  · split <;> rfl

theorem onSnapshot_cfg (snap : AccountSnapshot) :
    (m.onSnapshot snap).1.cfg = m.cfg := by
  rcases m.onSnapshot_eq snap with ⟨_, _, _, _, _, _, _, same⟩
  rw [same]

/-- Snapshots never touch the position books. -/
theorem onSnapshot_books (snap : AccountSnapshot) :
    (m.onSnapshot snap).1.books = m.books := by
  rcases m.onSnapshot_eq snap with ⟨_, _, _, _, _, _, _, same⟩
  rw [same]
  rfl

/-- Asking starts a new daily window, or changes nothing. -/
theorem checkSignal_state (signal : Signal) :
    (m.checkSignal now signal).2 = m ∨
      (m.checkSignal now signal).2 = m.maybeRollDaily now := by
  unfold checkSignal
  split
  · exact .inl rfl
  · split
    · exact .inl rfl
    · right
      dsimp only
      split <;> rfl

theorem checkSignal_cfg (signal : Signal) :
    (m.checkSignal now signal).2.cfg = m.cfg := by
  rcases m.checkSignal_state now signal with same | rolled
  · rw [same]
  · rw [rolled, maybeRollDaily_cfg]

/-- Asking never touches the position books. -/
theorem checkSignal_books (signal : Signal) :
    (m.checkSignal now signal).2.books = m.books := by
  rcases m.checkSignal_state now signal with same | rolled
  · rw [same]
  · rw [rolled, maybeRollDaily_books]

theorem checkSignal_toRow (signal : Signal) :
    (m.checkSignal now signal).2.toRow = m.toRow := by
  rcases m.checkSignal_state now signal with same | rolled
  · rw [same]
  · rw [rolled, maybeRollDaily_toRow]

/-- Asking changes no figure of a snapshot. -/
theorem checkSignal_currentEquity (signal : Signal) :
    (m.checkSignal now signal).2.currentEquity = m.currentEquity := by
  rcases m.checkSignal_state now signal with same | rolled
  · rw [same]
  · rw [rolled]
    unfold maybeRollDaily
    split <;> rfl

/-- A restart that finds a row has exactly what the row says. -/
theorem rehydrate_toRow (openPositions : List LivePosition) (pnl : ℚ)
    (bySymbol : Dict Symbol ℚ) (row : RiskStateRow) :
    (m.rehydrate now openPositions pnl bySymbol (some row)).toRow = row := rfl

end Frames

end RiskMonitor

end StingerFx
