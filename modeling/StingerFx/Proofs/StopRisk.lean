/-
Module: StingerFx.Proofs.StopRisk
Layer: Proofs
Purpose: What the router measures in front of an order, against what the simulated
  broker books at the stop. A lot size from a risk budget stays inside the budget
  and cannot be a step larger; the open risk is the loss of all stops together,
  plus what stops beyond the entry lock in, less what has no contract size.
Trusted boundary: none (fully proved)
Main exports: TradeRecord.gross, SimBroker.lossAt, sizeByRisk_safe_maximal,
  LocksProfit, lockedIn, unmeasured, openRisk_is_stop_loss_iff
-/
import StingerFx.Execution.PreTrade
import StingerFx.Backtest.SimBroker

namespace StingerFx

open Lib

variable {σ : Type}

/-! ### What a close at a price books -/

/-- The profit of a trade before its costs. -/
def TradeRecord.gross (trade : TradeRecord) : ℚ :=
  trade.pnl + trade.fees - trade.swap

namespace SimBroker

/-- The gross loss that is booked when a volume of a position is closed at a
price. -/
def lossAt (b : SimBroker σ) (cfg : SimConfig σ) (pos : Position)
    (volume price : ℚ) : ℚ :=
  -(b.settle cfg pos volume price).1.gross

theorem lossAt_eq (b : SimBroker σ) (cfg : SimConfig σ) (pos : Position)
    (volume price : ℚ) :
    b.lossAt cfg pos volume price =
      (pos.openPrice - price) * pos.side.sign * volume *
        cfg.contractSizeFor pos.symbol := by
  simp only [lossAt, TradeRecord.gross, settle]
  ring

end SimBroker

/-- The stop is on the losing side of the entry. -/
def LosingStop (pos : Position) (sl : ℚ) : Prop :=
  (sl - pos.openPrice) * pos.side.sign < 0

instance (pos : Position) (sl : ℚ) : Decidable (LosingStop pos sl) :=
  inferInstanceAs (Decidable (_ < _))

theorem LosingStop.distance {pos : Position} {sl : ℚ}
    (losing : LosingStop pos sl) :
    |pos.openPrice - sl| = (pos.openPrice - sl) * pos.side.sign := by
  unfold LosingStop at losing
  cases side : pos.side with
  | buy =>
      rw [side, Side.sign, mul_one] at losing
      rw [Side.sign, mul_one, abs_of_pos (by linarith)]
  | sell =>
      rw [side, Side.sign] at losing
      rw [Side.sign, abs_of_neg (by linarith)]
      ring

theorem LosingStop.apart {pos : Position} {sl : ℚ}
    (losing : LosingStop pos sl) : 0 < |pos.openPrice - sl| := by
  rw [losing.distance]
  unfold LosingStop at losing
  linarith

/-! ### Sizing -/

section Sizing

variable {entry sl contractSize volumeMin volumeMax volumeStep : ℚ}

/-- The size on the grid of the step, before the limits of the symbol. -/
def steppedVolume (equity riskPct entry sl contractSize volumeStep : ℚ) : ℚ :=
  ⌊equity * riskPct / 100 / (|entry - sl| * contractSize) / volumeStep⌋ *
    volumeStep

theorem sizeByRisk_eq {equity riskPct : ℚ} (equity_pos : 0 < equity) (riskPct_pos : 0 < riskPct)
    (apart : 0 < |entry - sl|) (size_pos : 0 < contractSize)
    (step_pos : 0 < volumeStep) :
    sizeByRisk equity riskPct entry sl contractSize volumeMin volumeMax
        volumeStep =
      let stepped :=
        steppedVolume equity riskPct entry sl contractSize volumeStep
      if stepped < volumeMin then 0 else min stepped volumeMax := by
  have budget_pos : 0 < equity * riskPct / 100 := by positivity
  have sizable : ¬(|entry - sl| ≤ 0 ∨ contractSize ≤ 0 ∨
      equity * riskPct / 100 ≤ 0 ∨ volumeStep ≤ 0) := by
    rintro (h | h | h | h) <;> linarith
  rw [sizeByRisk, if_neg sizable]
  rfl

/-- A multiple of the step fits the budget exactly when it is at most the stepped
size. -/
theorem fits_iff_le_stepped (equity riskPct : ℚ) (apart : 0 < |entry - sl|)
    (size_pos : 0 < contractSize) (step_pos : 0 < volumeStep) (k : ℤ) :
    |entry - sl| * (k * volumeStep) * contractSize ≤ equity * riskPct / 100 ↔
      k * volumeStep ≤
        steppedVolume equity riskPct entry sl contractSize volumeStep := by
  have unit_pos : 0 < |entry - sl| * contractSize := mul_pos apart size_pos
  rw [steppedVolume, mul_le_mul_iff_of_pos_right step_pos, Int.cast_le,
    Int.le_floor, le_div_iff₀ step_pos, le_div_iff₀ unit_pos]
  constructor <;> intro fits <;> linarith

/-- The stepped size fits, and one step more does not. -/
theorem stepped_is_largest (equity riskPct : ℚ) (apart : 0 < |entry - sl|)
    (size_pos : 0 < contractSize) (step_pos : 0 < volumeStep) :
    let stepped := steppedVolume equity riskPct entry sl contractSize volumeStep
    |entry - sl| * stepped * contractSize ≤ equity * riskPct / 100 ∧
      equity * riskPct / 100 <
        |entry - sl| * (stepped + volumeStep) * contractSize := by
  intro stepped
  constructor
  · exact (fits_iff_le_stepped _ _ apart size_pos step_pos _).mpr le_rfl
  · have next : stepped + volumeStep =
        ((⌊equity * riskPct / 100 / (|entry - sl| * contractSize) /
          volumeStep⌋ + 1 : ℤ) : ℚ) * volumeStep := by
      push_cast
      rw [add_mul, one_mul]
      rfl
    rw [next, ← not_le, fits_iff_le_stepped _ _ apart size_pos step_pos, ← next]
    exact not_le.mpr (lt_add_of_pos_right _ step_pos)

end Sizing

/-- A long position of one lot, entered at 2000. -/
def longWithStop (sl : ℚ) : Position where
  ticket := 1
  symbol := "XAUUSD"
  side := .buy
  volume := 1
  openPrice := 2000
  openTime := 0
  sl := some sl
  tp := none
  comment := ""
  magic := 0
  volume_pos := one_quote_pos
  openPrice_pos := by norm_num

def goldSizes : Dict Symbol ℚ := Dict.empty.set "XAUUSD" 100

def goldConfig : SimConfig Unit :=
  { SimConfig.plain with symbolContractSizes := goldSizes }

/-- A size from a risk budget lies within the limits of the symbol and on the grid
of the step or at its upper end; the loss booked at the stop stays in the budget,
and a step more would leave it. Nothing is sized only when no size of the grid from
the lower limit on stays in the budget. -/
theorem sizeByRisk_safe_maximal (b : SimBroker σ) (cfg : SimConfig σ)
    (pos : Position) (equity riskPct sl volumeMin volumeMax volumeStep : ℚ)
    (equity_pos : 0 < equity) (riskPct_pos : 0 < riskPct)
    (losing : LosingStop pos sl)
    (size_pos : 0 < cfg.contractSizeFor pos.symbol)
    (step_pos : 0 < volumeStep) (min_pos : 0 < volumeMin)
    (min_le_max : volumeMin ≤ volumeMax) :
    let v := sizeByRisk equity riskPct pos.openPrice sl
      (cfg.contractSizeFor pos.symbol) volumeMin volumeMax volumeStep
    let budget := equity * riskPct / 100
    (0 < v →
      volumeMin ≤ v ∧ v ≤ volumeMax ∧
      ((∃ k : ℤ, v = k * volumeStep) ∨ v = volumeMax) ∧
      b.lossAt cfg pos v sl ≤ budget ∧
      (v < volumeMax → budget < b.lossAt cfg pos (v + volumeStep) sl)) ∧
    (v = 0 → ∀ k : ℤ, volumeMin ≤ k * volumeStep →
      budget < b.lossAt cfg pos (k * volumeStep) sl) ∧
    0 ≤ v := by
  intro v budget
  have apart := losing.apart
  have loss : ∀ volume, b.lossAt cfg pos volume sl =
      |pos.openPrice - sl| * volume * cfg.contractSizeFor pos.symbol := by
    intro volume
    rw [b.lossAt_eq, losing.distance]
  have sized : v = _ := sizeByRisk_eq equity_pos riskPct_pos apart size_pos step_pos
  have largest := stepped_is_largest equity riskPct apart size_pos step_pos
  have fits := fits_iff_le_stepped equity riskPct apart size_pos step_pos
  have grid : ∃ k : ℤ, steppedVolume equity riskPct pos.openPrice sl
      (cfg.contractSizeFor pos.symbol) volumeStep = k * volumeStep := ⟨_, rfl⟩
  dsimp only at sized largest
  generalize steppedVolume equity riskPct pos.openPrice sl
    (cfg.contractSizeFor pos.symbol) volumeStep = stepped
      at sized largest fits grid
  by_cases small : stepped < volumeMin
  · rw [if_pos small] at sized
    refine ⟨fun some => absurd sized some.ne', fun _ k least => ?_, sized.ge⟩
    rw [loss, ← not_le, fits]
    exact fun below => absurd (least.trans below) (not_le.mpr small)
  · rw [if_neg small] at sized
    have least := not_lt.mp small
    have positive : 0 < v := sized ▸ lt_min (min_pos.trans_le least)
      (min_pos.trans_le min_le_max)
    refine ⟨fun _ => ⟨?_, ?_, ?_, ?_, ?_⟩, fun none => absurd none positive.ne',
      positive.le⟩
    · exact sized ▸ le_min least min_le_max
    · exact sized ▸ min_le_right _ _
    · rcases min_choice stepped volumeMax with lower | upper
      · exact .inl (by rw [sized, lower]; exact grid)
      · exact .inr (sized.trans upper)
    · calc b.lossAt cfg pos v sl
          = |pos.openPrice - sl| * v * cfg.contractSizeFor pos.symbol := loss v
        _ ≤ |pos.openPrice - sl| * stepped *
              cfg.contractSizeFor pos.symbol := by
            have capped : v ≤ stepped := sized ▸ min_le_left _ _
            gcongr
        _ ≤ budget := largest.1
    · intro below
      have uncapped : v = stepped := by
        rcases min_choice stepped volumeMax with lower | upper
        · exact sized.trans lower
        · exact absurd (sized.trans upper) below.ne
      rw [loss, uncapped]
      exact largest.2

/-- One percent of 10000 at a stop ten away: 0.1 lots of 100. -/
theorem sizeByRisk_safe_maximal_long :
    sizeByRisk 10000 1 2000 1990 100 (1 / 100) 100 (1 / 100) = 1 / 10 ∧
      (SimBroker.create 10000 () 0).lossAt goldConfig (longWithStop 1990)
        (1 / 10) 1990 ≤ 10000 * 1 / 100 := by
  have sized : sizeByRisk 10000 1 2000 1990 100 (1 / 100) 100 (1 / 100) =
      1 / 10 := by decide +kernel
  have contract : goldConfig.contractSizeFor "XAUUSD" = 100 := by decide +kernel
  have safe := (sizeByRisk_safe_maximal (.create 10000 () 0) goldConfig
    (longWithStop 1990) 10000 1 1990 (1 / 100) 100 (1 / 100) (by norm_num)
    (by norm_num) (by decide +kernel) (by decide +kernel) (by norm_num)
    (by norm_num) (by norm_num)).1
  dsimp only [longWithStop] at safe
  rw [contract, sized] at safe
  exact ⟨sized, (safe (by norm_num)).2.2.2.1⟩

/-! ### Open risk -/

/-- A stop that closes the position with a profit. -/
def LocksProfit (pos : Position) : Prop :=
  ∃ sl ∈ pos.sl, 0 < (sl - pos.openPrice) * pos.side.sign

/-- What a close at the stop loses, if it loses. -/
def SimBroker.stopLoss (b : SimBroker σ) (cfg : SimConfig σ)
    (pos : Position) : ℚ :=
  match pos.sl with
  | none => 0
  | some sl => max 0 (b.lossAt cfg pos pos.volume sl)

/-- The profit that a stop beyond the entry locks in, where the map has a contract
size for it. -/
def lockedIn (contractSizes : Dict Symbol ℚ) (pos : Position) : ℚ :=
  match contractSizes.get? pos.symbol, pos.sl with
  | some size, some sl =>
      max 0 ((sl - pos.openPrice) * pos.side.sign) * pos.volume * size
  | _, _ => 0

/-- The loss at the stop of a position without a contract size in the map. -/
def unmeasured (b : SimBroker σ) (cfg : SimConfig σ)
    (contractSizes : Dict Symbol ℚ) (pos : Position) : ℚ :=
  match contractSizes.get? pos.symbol with
  | some _ => 0
  | none => b.stopLoss cfg pos

section OpenRisk

variable {b : SimBroker σ} {cfg : SimConfig σ} {pos : Position}
variable {contractSizes : Dict Symbol ℚ} {positions : List Position}

/-- A stop that can be measured: there is one, with a price. -/
def UsableStop (pos : Position) : Prop := ∃ sl ∈ pos.sl, 0 < sl

/-- The distance to the stop splits into what it loses and what it locks in. -/
theorem stop_distance (pos : Position) (sl : ℚ) :
    |pos.openPrice - sl| =
      max 0 ((pos.openPrice - sl) * pos.side.sign) +
        max 0 ((sl - pos.openPrice) * pos.side.sign) := by
  have split : ∀ x : ℚ, |x| = max 0 x + max 0 (-x) := by
    intro x
    rcases le_total 0 x with up | down
    · rw [abs_of_nonneg up, max_eq_right up, max_eq_left (by linarith), add_zero]
    · rw [abs_of_nonpos down, max_eq_left down, max_eq_right (by linarith),
        zero_add]
  cases pos.side with
  | buy =>
      have swapped : (sl - pos.openPrice) * Side.buy.sign =
          -((pos.openPrice - sl) * Side.buy.sign) := by ring
      rw [swapped, ← split, Side.sign, mul_one]
  | sell =>
      have swapped : (sl - pos.openPrice) * Side.sell.sign =
          -((pos.openPrice - sl) * Side.sell.sign) := by ring
      rw [swapped, ← split, Side.sign, mul_neg_one, abs_neg]

theorem openRiskOf_eq (usable : UsableStop pos)
    (positive : ∀ symbol, ∀ size ∈ contractSizes.get? symbol, 0 < size)
    (configured : cfg.symbolContractSizes = contractSizes) :
    openRiskOf contractSizes pos + unmeasured b cfg contractSizes pos =
      b.stopLoss cfg pos + lockedIn contractSizes pos := by
  obtain ⟨sl, stop, sl_pos⟩ := usable
  replace stop : pos.sl = some sl := stop
  cases known : contractSizes.get? pos.symbol with
  | none => simp only [openRiskOf, unmeasured, lockedIn, known, zero_add, add_zero]
  | some size =>
      have size_pos := positive _ _ known
      have contract : cfg.contractSizeFor pos.symbol = size := by
        rw [SimConfig.contractSizeFor, configured, Dict.getD, known]
        rfl
      have scaled : ∀ gain : ℚ, max 0 gain * pos.volume * size =
          max 0 (gain * pos.volume * size) := by
        intro gain
        rw [max_mul_of_nonneg _ _ pos.volume_pos.le,
          max_mul_of_nonneg _ _ size_pos.le, zero_mul, zero_mul]
      have loss : b.stopLoss cfg pos =
          max 0 ((pos.openPrice - sl) * pos.side.sign) * pos.volume * size := by
        rw [SimBroker.stopLoss, stop]
        dsimp only
        rw [SimBroker.lossAt_eq, contract, scaled]
      have risk : openRiskOf contractSizes pos =
          |pos.openPrice - sl| * pos.volume * size := by
        simp only [openRiskOf, known, if_neg (not_le.mpr size_pos), positionRisk,
          stop, if_neg (not_le.mpr sl_pos)]
      simp only [risk, loss, unmeasured, lockedIn, known, stop, stop_distance]
      ring

theorem lockedIn_nonneg
    (positive : ∀ symbol, ∀ size ∈ contractSizes.get? symbol, 0 < size)
    (pos : Position) : 0 ≤ lockedIn contractSizes pos := by
  unfold lockedIn
  split
  · rename_i size sl known _
    have size_pos := positive _ _ known
    have volume_pos := pos.volume_pos
    positivity
  · exact le_rfl

theorem lockedIn_eq_zero_iff (usable : UsableStop pos) {size : ℚ}
    (known : contractSizes.get? pos.symbol = some size) (size_pos : 0 < size) :
    lockedIn contractSizes pos = 0 ↔ ¬LocksProfit pos := by
  obtain ⟨sl, stop, -⟩ := usable
  replace stop : pos.sl = some sl := stop
  have scale_pos : 0 < pos.volume * size := mul_pos pos.volume_pos size_pos
  simp only [lockedIn, known, stop, LocksProfit, Option.mem_def,
    Option.some.injEq, exists_eq_left', mul_assoc, mul_eq_zero,
    scale_pos.ne', or_false, max_eq_left_iff, not_lt]

end OpenRisk

/-- The open risk is the sum of the losses at the stops if and only if what stops
beyond the entry lock in and what cannot be measured weigh each other out. Where the
map knows every symbol, that is when no stop locks in a profit. -/
theorem openRisk_is_stop_loss_iff (b : SimBroker σ) (cfg : SimConfig σ)
    (positions : List Position) (contractSizes : Dict Symbol ℚ)
    (usable : ∀ pos ∈ positions, UsableStop pos)
    (positive : ∀ symbol, ∀ size ∈ contractSizes.get? symbol, 0 < size)
    (configured : cfg.symbolContractSizes = contractSizes) :
    (aggregateOpenRisk positions contractSizes =
        (positions.map (b.stopLoss cfg)).sum ↔
      (positions.map (lockedIn contractSizes)).sum =
        (positions.map (unmeasured b cfg contractSizes)).sum) ∧
    ((∀ pos ∈ positions, ∃ size, contractSizes.get? pos.symbol = some size) →
      (aggregateOpenRisk positions contractSizes =
          (positions.map (b.stopLoss cfg)).sum ↔
        ∀ pos ∈ positions, ¬LocksProfit pos)) := by
  have total : aggregateOpenRisk positions contractSizes +
      (positions.map (unmeasured b cfg contractSizes)).sum =
      (positions.map (b.stopLoss cfg)).sum +
        (positions.map (lockedIn contractSizes)).sum := by
    rw [aggregateOpenRisk, ← List.sum_map_add, ← List.sum_map_add]
    congr 1
    apply List.map_congr_left
    exact fun pos member => openRiskOf_eq (usable pos member) positive configured
  have exact_iff : aggregateOpenRisk positions contractSizes =
        (positions.map (b.stopLoss cfg)).sum ↔
      (positions.map (lockedIn contractSizes)).sum =
        (positions.map (unmeasured b cfg contractSizes)).sum := by
    constructor <;> intro equal <;> linarith
  refine ⟨exact_iff, fun known => ?_⟩
  have measured : (positions.map (unmeasured b cfg contractSizes)).sum = 0 := by
    apply List.sum_eq_zero
    intro share member
    obtain ⟨pos, listed, rfl⟩ := List.mem_map.mp member
    obtain ⟨size, found⟩ := known pos listed
    simp only [unmeasured, found]
  rw [exact_iff, measured]
  constructor
  · intro nothing pos listed
    obtain ⟨size, found⟩ := known pos listed
    apply (lockedIn_eq_zero_iff (usable pos listed) found
      (positive _ _ found)).mp
    apply List.all_zero_of_le_zero_le_of_sum_eq_zero _ nothing
    · exact List.mem_map_of_mem listed
    · intro share member
      obtain ⟨pos, _, rfl⟩ := List.mem_map.mp member
      exact lockedIn_nonneg positive pos
  · intro none
    apply List.sum_eq_zero
    intro share member
    obtain ⟨pos, listed, rfl⟩ := List.mem_map.mp member
    obtain ⟨size, found⟩ := known pos listed
    exact (lockedIn_eq_zero_iff (usable pos listed) found
      (positive _ _ found)).mpr (none pos listed)

theorem goldSizes_positive :
    ∀ symbol, ∀ size ∈ goldSizes.get? symbol, 0 < size := by
  intro symbol size known
  rw [goldSizes, Dict.get?_set] at known
  split at known
  · cases known
    norm_num
  · cases known

/-- A stop ten under the entry: what is measured is what would be lost. -/
theorem openRisk_is_stop_loss_iff_losing :
    aggregateOpenRisk [longWithStop 1990] goldSizes =
      ([longWithStop 1990].map
        ((SimBroker.create 0 () 0).stopLoss goldConfig)).sum := by
  apply ((openRisk_is_stop_loss_iff (.create 0 () 0) goldConfig
    [longWithStop 1990] goldSizes ?_ goldSizes_positive rfl).2 ?_).mpr
  · intro pos member
    cases List.mem_singleton.mp member
    rintro ⟨sl, stop, locks⟩
    cases stop
    exact absurd locks (by decide +kernel)
  · intro pos member
    cases List.mem_singleton.mp member
    exact ⟨1990, rfl, by norm_num⟩
  · intro pos member
    cases List.mem_singleton.mp member
    exact ⟨100, by decide +kernel⟩

/-- A stop ten above the entry of a long position cannot lose, and 1000 are measured
for it. -/
theorem locked_profit_counted_as_risk :
    UsableStop (longWithStop 2010) ∧
      aggregateOpenRisk [longWithStop 2010] goldSizes = 1000 ∧
      ([longWithStop 2010].map
        ((SimBroker.create 0 () 0).stopLoss goldConfig)).sum = 0 := by
  refine ⟨⟨2010, rfl, by norm_num⟩, ?_, ?_⟩ <;> decide +kernel

end StingerFx
