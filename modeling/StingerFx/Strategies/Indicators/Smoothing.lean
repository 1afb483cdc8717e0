/-
Module: StingerFx.Strategies.Indicators.Smoothing
Layer: Strategies
Purpose: What the indicators share: their exceptions, a division that raises at
  zero, and the trailing slice that bounds the input of Wilder smoothing.
Trusted boundary: human-reviewed model of the source's smoothing helpers
Main exports: IndicatorError, quotient, wilderTailFactor, wilderTail
-/
import StingerFx.Domain

namespace StingerFx

/-- Exceptions of the indicators. -/
inductive IndicatorError where
  | value (message : String)
  | zeroDivision
deriving Repr, DecidableEq

/-- Division of numbers. -/
def quotient (a b : ℚ) : Except IndicatorError ℚ :=
  if b = 0 then .error .zeroDivision else .ok (a / b)

theorem quotient_of_ne {a b : ℚ} (ne : b ≠ 0) : quotient a b = .ok (a / b) :=
  if_neg ne

def wilderTailFactor : Nat := 50

/-- The last `n` elements: `seq[-n:]`. -/
def lastN {α : Type} (n : Nat) (items : List α) : List α :=
  items.drop (items.length - n)

/-- The trailing slice that smoothing looks at, the whole sequence when it is short
enough. -/
def wilderTail {α : Type} (items : List α) (period : Nat) : List α :=
  let cap := period * wilderTailFactor
  if cap < items.length then lastN cap items else items

theorem wilderTail_of_le {α : Type} {items : List α} {period : Nat}
    (short : items.length ≤ period * wilderTailFactor) :
    wilderTail items period = items :=
  if_neg (not_lt.mpr short)

end StingerFx
