/-
Module: StingerFx.Backtest.Slippage
Layer: Backtest
Purpose: Slippage models of the simulated broker. A model turns the current
  quote into a fill price and may carry state of its own, as the closures of the
  source do: the volatility model remembers the last bids it was asked about.
Trusted boundary: human-reviewed model of the source's slippage module
Main exports: SlippageModel, fixedPipsModel, spreadModel, volatilityModel,
  AddsNothingAtZeroSpread
-/
import StingerFx.Domain

namespace StingerFx

/-- A fill-price function with its own state. -/
abbrev SlippageModel (σ : Type) := σ → Side → (bid ask : ℚ) → ℚ × σ

section Models

variable {σ : Type}

/-- A constant number of pips around the mid price, adverse to the taker. -/
def fixedPipsModel (pips point : ℚ) : SlippageModel σ :=
  fun state side bid ask =>
    let delta := pips * point
    let mid := (bid + ask) / 2
    (match side with
      | .buy => mid + delta
      | .sell => mid - delta, state)

/-- Buys fill at the ask, sells at the bid. -/
def spreadModel : SlippageModel σ :=
  fun state side bid ask =>
    (match side with
      | .buy => ask
      | .sell => bid, state)

end Models

/-- Largest minus smallest of the remembered bids. -/
def bidRange : List ℚ → ℚ
  | [] => 0
  | bid :: bids => bids.foldl max bid - bids.foldl min bid

/-- Slippage scaled by the range of the last `window` bids. -/
def volatilityModel (factor point : ℚ) (window : Nat) :
    SlippageModel (List ℚ) :=
  fun bids side bid ask =>
    let appended := bids ++ [bid]
    -- `deque(maxlen=window)` drops from the left
    let bids := appended.drop (appended.length - window)
    let spread := ask - bid
    let recentRange := if 1 < bids.length then bidRange bids else spread
    let extra := factor * max recentRange point
    let mid := (bid + ask) / 2
    (match side with
      | .buy => mid + extra
      | .sell => mid - extra, bids)

/-- The model fills at the quote itself whenever bid and ask coincide. -/
def AddsNothingAtZeroSpread {σ : Type} (slippage : SlippageModel σ) : Prop :=
  ∀ state side price, (slippage state side price price).1 = price

theorem spreadModel_addsNothing {σ : Type} :
    AddsNothingAtZeroSpread (spreadModel : SlippageModel σ) := by
  intro state side price
  cases side <;> rfl

theorem fixedPipsModel_addsNothing_iff {σ : Type} [Nonempty σ]
    (pips point : ℚ) :
    AddsNothingAtZeroSpread (fixedPipsModel pips point : SlippageModel σ) ↔
      pips * point = 0 := by
  constructor
  · intro nothing
    have atZero := nothing (Classical.arbitrary σ) .buy 0
    simpa [fixedPipsModel] using atZero
  · intro zero state side price
    cases side <;> simp [fixedPipsModel, zero]

end StingerFx
