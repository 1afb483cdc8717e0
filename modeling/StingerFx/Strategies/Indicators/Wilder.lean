/-
Module: StingerFx.Strategies.Indicators.Wilder
Layer: Strategies
Purpose: The indicators that rest on Wilder's smoothing: RSI at the end of a series
  and at every index of it, average true range, and the directional index. Every
  division is one that raises at zero.
Trusted boundary: human-reviewed model of the source's rsi, atr and adx modules
Main exports: smoothMean, Averages, rsiValue, rsi, rsiSeries, trueRange,
  trueRanges, atr, DirectionalMove, Smoothed, Directional, AdxState, ADXResult, adx
-/
import StingerFx.Strategies.Indicators.Smoothing

namespace StingerFx

/-- The smoothing of one more value: `(mean * (period - 1) + x) / period`. -/
def smoothMean (period : Nat) (mean x : ℚ) : Except IndicatorError ℚ :=
  quotient (mean * ((period : ℚ) - 1) + x) period

/-! ### RSI -/

/-- `values[i] - values[i - 1]`, from index one on. -/
def deltas (values : List ℚ) : List ℚ :=
  values.tail.zipWith (· - ·) values

/-- `avg_gain` and `avg_loss`. -/
structure Averages where
  gain : ℚ
  loss : ℚ
deriving Repr, DecidableEq

/-- One change in the sums that seed the averages. -/
def seedStep (sums : Averages) (delta : ℚ) : Averages :=
  if 0 ≤ delta then { sums with gain := sums.gain + delta }
  else { sums with loss := sums.loss - delta }

def seedAverages (period : Nat) (changes : List ℚ) :
    Except IndicatorError Averages := do
  let sums := (changes.take period).foldl seedStep ⟨0, 0⟩
  let gain ← quotient sums.gain period
  let loss ← quotient sums.loss period
  return ⟨gain, loss⟩

def smoothAverages (period : Nat) (averages : Averages) (delta : ℚ) :
    Except IndicatorError Averages := do
  let gain ← smoothMean period averages.gain (max delta 0)
  let loss ← smoothMean period averages.loss (max (-delta) 0)
  return ⟨gain, loss⟩

def rsiValue (averages : Averages) : Except IndicatorError ℚ :=
  if averages.loss = 0 then .ok 100
  else do
    let rs ← quotient averages.gain averages.loss
    let rest ← quotient 100 (1 + rs)
    return 100 - rest

def rsi (values : List ℚ) (period : Nat) : Except IndicatorError (Option ℚ) :=
  if period = 0 then .error (.value "period must be > 0")
  else if values.length ≤ period then .ok none
  else do
    let changes := deltas (wilderTail values period)
    let seed ← seedAverages period changes
    let averages ← (changes.drop period).foldlM (smoothAverages period) seed
    let value ← rsiValue averages
    return some value

/-- The loop of `rsi_series` behind its first value. -/
def rsiSeriesFrom (period : Nat) (averages : Averages) :
    List ℚ → Except IndicatorError (List ℚ)
  | [] => .ok []
  | delta :: rest => do
      let next ← smoothAverages period averages delta
      let value ← rsiValue next
      let later ← rsiSeriesFrom period next rest
      return value :: later

def rsiSeries (values : List ℚ) (period : Nat) :
    Except IndicatorError (List ℚ) :=
  if period = 0 then .error (.value "period must be > 0")
  else if values.length ≤ period then .ok []
  else do
    let seed ← seedAverages period (deltas values)
    let first ← rsiValue seed
    let later ← rsiSeriesFrom period seed ((deltas values).drop period)
    return first :: later

/-! ### Average true range -/

def trueRange (prevClose : ℚ) (bar : Bar) : ℚ :=
  max (max (bar.high - bar.low) |bar.high - prevClose|) |bar.low - prevClose|

/-- The true ranges of bars behind one that closed at `prevClose`. -/
def trueRanges (prevClose : ℚ) : List Bar → List ℚ
  | [] => []
  | bar :: rest => trueRange prevClose bar :: trueRanges bar.close rest

def atr (bars : List Bar) (period : Nat) : Except IndicatorError (Option ℚ) :=
  if period = 0 then .error (.value "period must be > 0")
  else if bars.length ≤ period then .ok none
  else
    match wilderTail bars period with
    -- not reached: the slice of a list that is not empty is not empty
    | [] => .ok none
    | first :: rest =>
        let trs := trueRanges first.close rest
        if trs.length < period then .ok none
        else do
          let mean ← quotient (trs.take period).sum period
          let out ← (trs.drop period).foldlM (smoothMean period) mean
          return some out

/-! ### Directional index -/

/-- True range and directional movement of a bar against the bar before it. -/
structure DirectionalMove where
  tr : ℚ
  plusDm : ℚ
  minusDm : ℚ
deriving Repr, DecidableEq

def directionalMove (prev curr : Bar) : DirectionalMove :=
  let up := curr.high - prev.high
  let down := prev.low - curr.low
  { tr := trueRange prev.close curr
    plusDm := if down < up ∧ 0 < up then up else 0
    minusDm := if up < down ∧ 0 < down then down else 0 }

def directionalMoves (bars : List Bar) : List DirectionalMove :=
  bars.zipWith directionalMove bars.tail

/-- The three smoothed sums. -/
structure Smoothed where
  tr : ℚ
  plus : ℚ
  minus : ℚ
deriving Repr, DecidableEq

def Smoothed.seed (moves : List DirectionalMove) : Smoothed where
  tr := (moves.map DirectionalMove.tr).sum
  plus := (moves.map DirectionalMove.plusDm).sum
  minus := (moves.map DirectionalMove.minusDm).sum

/-- `x - x / period + new`, for each of the sums. -/
def Smoothed.next (period : Nat) (sums : Smoothed) (move : DirectionalMove) :
    Except IndicatorError Smoothed := do
  let tr ← quotient sums.tr period
  let plus ← quotient sums.plus period
  let minus ← quotient sums.minus period
  return ⟨sums.tr - tr + move.tr, sums.plus - plus + move.plusDm,
    sums.minus - minus + move.minusDm⟩

/-- The directional indicators of a bar and their index. -/
structure Directional where
  plusDi : ℚ
  minusDi : ℚ
  dx : ℚ
deriving Repr, DecidableEq

def Smoothed.directional (sums : Smoothed) :
    Except IndicatorError Directional := do
  let plusDi ← quotient (100 * sums.plus) sums.tr
  let minusDi ← quotient (100 * sums.minus) sums.tr
  let diSum := plusDi + minusDi
  let dx ← if 0 < diSum then quotient (100 * |plusDi - minusDi|) diSum
    else .ok 0
  return ⟨plusDi, minusDi, dx⟩

/-- What the loop carries: the indicators of the last bar that had a range. -/
structure AdxState where
  sums : Smoothed
  plusDi : ℚ
  minusDi : ℚ
  dxs : List ℚ
deriving Repr, DecidableEq

def AdxState.step (period : Nat) (s : AdxState) (move : DirectionalMove) :
    Except IndicatorError AdxState := do
  let sums ← s.sums.next period move
  if sums.tr = 0 then return { s with sums := sums }
  else
    let d ← sums.directional
    return ⟨sums, d.plusDi, d.minusDi, s.dxs ++ [d.dx]⟩

structure ADXResult where
  adx : ℚ
  plusDi : ℚ
  minusDi : ℚ
deriving Repr, DecidableEq

/-- The smoothed index, once there are enough values. -/
def AdxState.result (period : Nat) (s : AdxState) :
    Except IndicatorError (Option ADXResult) :=
  if s.dxs.length < period then .ok none
  else do
    let mean ← quotient (s.dxs.take period).sum period
    let adxVal ← (s.dxs.drop period).foldlM (smoothMean period) mean
    return some ⟨adxVal, s.plusDi, s.minusDi⟩

def adx (bars : List Bar) (period : Nat) :
    Except IndicatorError (Option ADXResult) :=
  if period ≤ 1 then .error (.value "period must be > 1")
  else if bars.length < 2 * period then .ok none
  else
    let moves := directionalMoves bars
    let sums := Smoothed.seed (moves.take period)
    if sums.tr = 0 then .ok none
    else do
      let d ← sums.directional
      let last ← (moves.drop period).foldlM (AdxState.step period)
        ⟨sums, d.plusDi, d.minusDi, [d.dx]⟩
      last.result period

end StingerFx
