/-
Module: StingerFx.Proofs.TradingWindows
Layer: Proofs
Purpose: The trading filter against its specification. An order may proceed exactly
  when the spread is bearable, the instant lies in the daily session, keeps its
  distance from every rollover there is, and lies in no blackout.
Trusted boundary: none (fully proved)
Main exports: InSession, TradingFilterConfig.Permits, minutesToRollover_isLeast,
  evaluateTradingFilter_permits, evaluateTradingFilter_eq_none_iff
-/
import StingerFx.Execution.OrderRouter
import StingerFx.Proofs.SwapNights

namespace StingerFx

open Lib Time

/-! ### The specification -/

/-- From one hour of a day up to another one; from the first up to midnight and from
midnight up to the second when they come in the other order. -/
def InSession (start stop : Nat) (t : Time) : Prop :=
  ∃ day : Int,
    if start ≤ stop then
      day * usPerDay + start * usPerHour ≤ t ∧ t < day * usPerDay + stop * usPerHour
    else
      (day * usPerDay + start * usPerHour ≤ t ∧ t < (day + 1) * usPerDay) ∨
        (day * usPerDay ≤ t ∧ t < day * usPerDay + stop * usPerHour)

/-- What an order needs. -/
structure TradingFilterConfig.Permits (cfg : TradingFilterConfig) (now : Time)
    (spreadPoints : Option Int) : Prop where
  /-- unknown, unlimited or within the limit -/
  spread : ∀ points ∈ spreadPoints, cfg.maxSpreadPoints = 0 ∨ points ≤ cfg.maxSpreadPoints
  /-- unrestricted when a bound is not set -/
  session : ∀ start ∈ cfg.sessionStartHourUtc, ∀ stop ∈ cfg.sessionEndHourUtc,
    InSession start stop now
  /-- of all days, past and future -/
  rollover : cfg.blockRollover = true → ∀ at_, IsRollover cfg.rolloverHourUtc at_ →
    cfg.rolloverBlockMinutes * usPerMinute < |now - at_|
  news : ∀ window ∈ cfg.newsBlackouts, ¬ (window.start ≤ now ∧ now < window.stop)

/-! ### The parts of the filter -/

theorem spreadReason_eq_none_iff (cfg : TradingFilterConfig) (spreadPoints : Option Int) :
    spreadReason cfg spreadPoints = none ↔
      ∀ points ∈ spreadPoints,
        cfg.maxSpreadPoints = 0 ∨ points ≤ cfg.maxSpreadPoints := by
  cases spreadPoints with
  | none => simp [spreadReason]
  | some points =>
      simp only [spreadReason, ite_eq_right_iff, reduceCtorEq, Option.mem_some_iff,
        forall_eq', imp_false, not_and_or]
      omega

/-- The hour of an instant decides: the bounds are whole hours. -/
theorem hourInSession_iff {start stop : Nat} (begin_ : start ≤ 23) (end_ : stop ≤ 24)
    (t : Time) : hourInSession (hour t) start stop = true ↔ InSession start stop t := by
  have perHour : usPerHour = 3600000000 := rfl
  have perDay : usPerDay = 86400000000 := rfl
  simp only [hourInSession, InSession, hour, perHour, perDay, Nat.cast_le]
  dsimp only [Time] at *
  split
  · rename_i order
    simp only [decide_eq_true_eq]
    constructor
    · intro within
      exact ⟨t / 86400000000, by omega, by omega⟩
    · rintro ⟨day, above, below⟩
      omega
  · rename_i wraps
    simp only [decide_eq_true_eq]
    constructor
    · intro within
      exact ⟨t / 86400000000, by omega⟩
    · rintro ⟨day, evening | morning⟩
      · omega
      · omega

theorem sessionReason_eq_none_iff (cfg : TradingFilterConfig) (now : Time) :
    sessionReason cfg now = none ↔
      ∀ start ∈ cfg.sessionStartHourUtc, ∀ stop ∈ cfg.sessionEndHourUtc,
        InSession start stop now := by
  have begins := cfg.sessionStart_le
  have ends := cfg.sessionEnd_range
  cases startHour : cfg.sessionStartHourUtc with
  | none => simp [sessionReason, startHour]
  | some start =>
      cases stopHour : cfg.sessionEndHourUtc with
      | none => simp [sessionReason, startHour, stopHour]
      | some stop =>
          have inside := hourInSession_iff (begins start startHour) (ends stop stopHour).2 now
          simp only [sessionReason, startHour, stopHour, ite_eq_left_iff, reduceCtorEq,
            Option.mem_some_iff, forall_eq', ← inside, imp_false, not_not]

/-- The three candidates have the nearest of all rollovers among them. -/
theorem minutesToRollover_isLeast (now : Time) {rolloverHour : Nat}
    (clock : rolloverHour ≤ 23) :
    IsLeast {minutes : ℚ | ∃ at_, IsRollover rolloverHour at_ ∧
      minutes = ((|now - at_| : ℤ) : ℚ) / usPerMinute}
      (minutesToRollover now rolloverHour) := by
  have perHour : usPerHour = 3600000000 := rfl
  have perDay : usPerDay = 86400000000 := rfl
  have low : 0 ≤ (rolloverHour : ℤ) * usPerHour := by
    rw [perHour]
    omega
  have high : (rolloverHour : ℤ) * usPerHour < usPerDay := by
    rw [perHour, perDay]
    omega
  have perMinute : (0 : ℚ) < usPerMinute := by decide +kernel
  have least := Recurs.nearest low high now
  set base := now / usPerDay * usPerDay + rolloverHour * usPerHour with base_eq
  have minutes : minutesToRollover now rolloverHour =
      ((min |now - (base - usPerDay)|
        (min |now - base| |now - (base + usPerDay)|) : ℤ) : ℚ) / usPerMinute := by
    have start : atHour now rolloverHour = base := rfl
    have yesterday : base + -1 * usPerDay = base - usPerDay := by ring
    have today : base + 0 * usPerDay = base := by ring
    have tomorrow : base + 1 * usPerDay = base + usPerDay := by ring
    simp only [minutesToRollover, start, yesterday, today, tomorrow]
    push_cast
    rfl
  rw [minutes]
  constructor
  · obtain ⟨at_, recurs, same⟩ := least.1
    exact ⟨at_, recurs, by rw [same]⟩
  · rintro other ⟨at_, recurs, rfl⟩
    have nearer := least.2 ⟨at_, recurs, rfl⟩
    exact div_le_div_of_nonneg_right (Int.cast_le.mpr nearer) perMinute.le

theorem rolloverReason_eq_none_iff (cfg : TradingFilterConfig) (now : Time) :
    rolloverReason cfg now = none ↔
      (cfg.blockRollover = true → ∀ at_, IsRollover cfg.rolloverHourUtc at_ →
        cfg.rolloverBlockMinutes * usPerMinute < |now - at_|) := by
  have perMinute : (0 : ℚ) < usPerMinute := by decide +kernel
  have least := minutesToRollover_isLeast now cfg.rolloverHour_le
  have far : ∀ at_, (cfg.rolloverBlockMinutes : ℚ) < ((|now - at_| : ℤ) : ℚ) / usPerMinute ↔
      cfg.rolloverBlockMinutes * usPerMinute < |now - at_| := by
    intro at_
    rw [lt_div_iff₀ perMinute]
    exact_mod_cast Iff.rfl
  simp only [rolloverReason, ite_eq_right_iff, reduceCtorEq, imp_false, not_and, not_le]
  refine imp_congr_right fun _ => ?_
  constructor
  · intro nearest at_ rollover
    exact (far at_).mp (nearest.trans_le (least.2 ⟨at_, rollover, rfl⟩))
  · intro all
    obtain ⟨at_, rollover, same⟩ := least.1
    rw [same]
    exact (far at_).mpr (all at_ rollover)

theorem newsReason_eq_none_iff (cfg : TradingFilterConfig) (now : Time) :
    newsReason cfg now = none ↔
      ∀ window ∈ cfg.newsBlackouts, ¬ (window.start ≤ now ∧ now < window.stop) := by
  rw [newsReason, Option.map_eq_none_iff, List.find?_eq_none]
  simp only [decide_eq_true_eq]

/-! ### The filter -/

/-- A filter that is off lets all pass. -/
theorem evaluateTradingFilter_permits (cfg : TradingFilterConfig) (now : Time)
    (spreadPoints : Option Int) :
    evaluateTradingFilter cfg now spreadPoints = none ↔
      (cfg.enabled = true → cfg.Permits now spreadPoints) := by
  unfold evaluateTradingFilter
  split
  · rename_i enabled
    simp only [Option.orElse_eq_none, enabled, forall_const]
    rw [spreadReason_eq_none_iff, sessionReason_eq_none_iff, rolloverReason_eq_none_iff,
      newsReason_eq_none_iff]
    constructor
    · rintro ⟨spread, session, rollover, news⟩
      exact ⟨spread, session, rollover, news⟩
    · intro permits
      exact ⟨permits.spread, permits.session, permits.rollover, permits.news⟩
  · rename_i off
    exact iff_of_true rfl fun enabled => absurd enabled off

/-- For every configuration, instant and spread; the router asks for the time of the
signal and the spread of its symbol. -/
theorem evaluateTradingFilter_eq_none_iff :
    (∀ (cfg : TradingFilterConfig) (now : Time) (spreadPoints : Option Int),
      evaluateTradingFilter cfg now spreadPoints = none ↔
        (cfg.enabled = true → cfg.Permits now spreadPoints)) ∧
    (∀ (risk : Option RiskMonitor) (signal : Signal) (info : Option SymbolInfo),
      filterReason risk signal info = none ↔
        ∀ monitor ∈ risk, monitor.cfg.tradingFilter.enabled = true →
          monitor.cfg.tradingFilter.Permits signal.time (info.map SymbolInfo.spread)) := by
  refine ⟨evaluateTradingFilter_permits, ?_⟩
  intro risk signal info
  cases risk with
  | none => exact iff_of_true rfl fun _ absent => by cases absent
  | some monitor =>
      simp only [filterReason, Option.mem_some_iff, forall_eq']
      exact evaluateTradingFilter_permits _ _ _

end StingerFx
