/-
Module: StingerFx.Strategies.Indicators.Psar
Layer: Strategies
Purpose: The parabolic stop-and-reverse: one value and a trend carried from bar to
  bar, with the extreme point of the trend and an acceleration that grows with each
  new extreme. A bar that crosses the value ends the trend.
Trusted boundary: human-reviewed model of the source's psar module
Main exports: Trend, SarParams, SarState, sarSeed, tentativeSar, sarStep, sarLoop,
  PsarResult, psar
-/
import StingerFx.Strategies.Indicators.Smoothing

namespace StingerFx

/-- The direction of a trend. -/
inductive Trend where
  | up
  | down
deriving Repr, DecidableEq

/-- Acceleration: its start, its growth at a new extreme, and its cap. -/
structure SarParams where
  afStart : ℚ
  afStep : ℚ
  afMax : ℚ
deriving Repr, DecidableEq

namespace SarParams

/-- The default parameters. -/
def default : SarParams := ⟨2 / 100, 2 / 100, 20 / 100⟩

/-- The checks in front of the computation. -/
def check (p : SarParams) : Except IndicatorError Unit :=
  if p.afStart ≤ 0 ∨ p.afStep ≤ 0 ∨ p.afMax ≤ 0 then
    .error (.value "all AF parameters must be > 0")
  else if p.afMax < p.afStart then
    .error (.value "af_start must be <= af_max")
  else .ok ()

end SarParams

/-- What the loop carries: `ep` is the extreme point of the trend. -/
structure SarState where
  trend : Trend
  sar : ℚ
  ep : ℚ
  af : ℚ
deriving Repr, DecidableEq

/-- Direction and values from the first two bars. -/
def sarSeed (p : SarParams) (first second : Bar) : SarState :=
  if first.close ≤ second.close then ⟨.up, first.low, first.high, p.afStart⟩
  else ⟨.down, first.high, first.low, p.afStart⟩

/-- The value before the current bar is looked at: it moves towards the extreme
point but stays behind the last two bars. -/
def tentativeSar (s : SarState) (twoPrev prev : Bar) : ℚ :=
  let newSar := s.sar + s.af * (s.ep - s.sar)
  match s.trend with
  | .up => min (min newSar prev.low) twoPrev.low
  | .down => max (max newSar prev.high) twoPrev.high

def sarStep (p : SarParams) (twoPrev prev curr : Bar) (s : SarState) :
    SarState :=
  let newSar := tentativeSar s twoPrev prev
  match s.trend with
  | .up =>
      -- the trend flips: the value jumps to the old extreme
      if curr.low < newSar then ⟨.down, s.ep, curr.low, p.afStart⟩
      else if s.ep < curr.high then
        ⟨.up, newSar, curr.high, min (s.af + p.afStep) p.afMax⟩
      else { s with sar := newSar }
  | .down =>
      if newSar < curr.high then ⟨.up, s.ep, curr.high, p.afStart⟩
      else if curr.low < s.ep then
        ⟨.down, newSar, curr.low, min (s.af + p.afStep) p.afMax⟩
      else { s with sar := newSar }

/-- The loop, with the two bars before the current one. -/
def sarLoop (p : SarParams) : Bar → Bar → List Bar → SarState → SarState
  | _, _, [], s => s
  | twoPrev, prev, curr :: rest, s =>
      sarLoop p prev curr rest (sarStep p twoPrev prev curr s)

structure PsarResult where
  value : ℚ
  trend : Trend
deriving Repr, DecidableEq

/-- The state after all bars. The first bar stands for the bar before it. -/
def sarState (p : SarParams) : List Bar → Option SarState
  | first :: second :: rest =>
      some (sarLoop p first first (second :: rest) (sarSeed p first second))
  | _ => none

def psar (bars : List Bar) (p : SarParams) :
    Except IndicatorError (Option PsarResult) :=
  match p.check with
  | .error error => .error error
  | .ok _ =>
      if bars.length < 3 then .ok none
      else .ok ((sarState p bars).map fun s => ⟨s.sar, s.trend⟩)

end StingerFx
