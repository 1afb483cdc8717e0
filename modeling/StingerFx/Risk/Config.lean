/-
Module: StingerFx.Risk.Config
Layer: Risk
Purpose: The risk section of the application config. Every bound that the
  config models validate is a field of the structure, so a config that exists
  has passed its checks; the `Inhabited` instances are the source's defaults.
Trusted boundary: human-reviewed model of the source's config models
Main exports: SymbolRiskConfig, MarginFloorConfig, ProfitLockConfig,
  PositionSizingConfig, TradingFilterConfig, RiskConfig
-/
import StingerFx.Domain
import StingerFx.Lib.Dict

namespace StingerFx

open Lib

/-- Per-symbol overrides; zero switches a limit off. -/
structure SymbolRiskConfig where
  maxOpenPositions : Nat
  maxDailyLossUsd : ℚ
  maxDailyLossUsd_nonneg : 0 ≤ maxDailyLossUsd
deriving Repr

instance : Inhabited SymbolRiskConfig :=
  ⟨{ maxOpenPositions := 0
     maxDailyLossUsd := 0
     maxDailyLossUsd_nonneg := le_rfl }⟩

/-- Risk-based position sizing. -/
structure PositionSizingConfig where
  enabled : Bool
  riskPerTradePct : ℚ
  riskPerTradePct_pos : 0 < riskPerTradePct
  riskPerTradePct_le : riskPerTradePct ≤ 100
deriving Repr

instance : Inhabited PositionSizingConfig :=
  ⟨{ enabled := false
     riskPerTradePct := 1
     riskPerTradePct_pos := one_quote_pos
     riskPerTradePct_le := by norm_num }⟩

/-- A window during which no new order may be placed. -/
structure NewsBlackout where
  start : Time
  stop : Time
  ordered : start < stop
deriving Repr, DecidableEq

/-- Pre-trade guard against bad-fill conditions. -/
structure TradingFilterConfig where
  enabled : Bool
  maxSpreadPoints : Nat
  sessionStartHourUtc : Option Nat
  sessionEndHourUtc : Option Nat
  blockRollover : Bool
  rolloverHourUtc : Nat
  rolloverBlockMinutes : Nat
  newsBlackouts : List NewsBlackout
  sessionStart_le : ∀ hour ∈ sessionStartHourUtc, hour ≤ 23
  sessionEnd_range : ∀ hour ∈ sessionEndHourUtc, 1 ≤ hour ∧ hour ≤ 24
  session_pair : sessionStartHourUtc.isNone = sessionEndHourUtc.isNone
  rolloverHour_le : rolloverHourUtc ≤ 23

instance : Inhabited TradingFilterConfig :=
  ⟨{ enabled := false
     maxSpreadPoints := 0
     sessionStartHourUtc := none
     sessionEndHourUtc := none
     blockRollover := false
     rolloverHourUtc := 21
     rolloverBlockMinutes := 5
     newsBlackouts := []
     sessionStart_le := by intro hour member; cases member
     sessionEnd_range := by intro hour member; cases member
     session_pair := rfl
     rolloverHour_le := by decide }⟩

/-- Lock in gains: arm at a gain, trip when too much of it is given back. -/
structure ProfitLockConfig where
  enabled : Bool
  activatePct : ℚ
  givebackPct : ℚ
  activatePct_pos : 0 < activatePct
  givebackPct_pos : 0 < givebackPct
  givebackPct_le : givebackPct ≤ 100
deriving Repr

instance : Inhabited ProfitLockConfig :=
  ⟨{ enabled := false
     activatePct := 5
     givebackPct := 50
     activatePct_pos := by norm_num
     givebackPct_pos := by norm_num
     givebackPct_le := by norm_num }⟩

/-- Refuse new orders when the margin headroom runs thin. -/
structure MarginFloorConfig where
  enabled : Bool
  minMarginLevelPct : ℚ
  minFreeMargin : ℚ
  minMarginLevelPct_nonneg : 0 ≤ minMarginLevelPct
  minFreeMargin_nonneg : 0 ≤ minFreeMargin
deriving Repr

instance : Inhabited MarginFloorConfig :=
  ⟨{ enabled := false
     minMarginLevelPct := 0
     minFreeMargin := 0
     minMarginLevelPct_nonneg := le_rfl
     minFreeMargin_nonneg := le_rfl }⟩

structure RiskConfig where
  maxOpenPositionsPerStrategy : Nat
  maxDailyLossPct : ℚ
  killSwitchDrawdownPct : ℚ
  perSymbol : Dict Symbol SymbolRiskConfig
  positionSizing : PositionSizingConfig
  tradingFilter : TradingFilterConfig
  profitLock : ProfitLockConfig
  marginFloor : MarginFloorConfig
  maxAggregateRiskPct : ℚ
  maxDailyLossPct_nonneg : 0 ≤ maxDailyLossPct
  killSwitchDrawdownPct_nonneg : 0 ≤ killSwitchDrawdownPct
  maxAggregateRiskPct_nonneg : 0 ≤ maxAggregateRiskPct

instance : Inhabited RiskConfig :=
  ⟨{ maxOpenPositionsPerStrategy := 5
     maxDailyLossPct := 5
     killSwitchDrawdownPct := 20
     perSymbol := .empty
     positionSizing := default
     tradingFilter := default
     profitLock := default
     marginFloor := default
     maxAggregateRiskPct := 0
     maxDailyLossPct_nonneg := by norm_num
     killSwitchDrawdownPct_nonneg := by norm_num
     maxAggregateRiskPct_nonneg := le_rfl }⟩

end StingerFx
