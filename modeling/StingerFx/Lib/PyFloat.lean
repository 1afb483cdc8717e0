/-
Module: StingerFx.Lib.PyFloat
Layer: Lib
Purpose: Floating-point numbers as Python has them. Sums, products and quotients are
  the exact ones rounded to the nearest double, ties to even; what the C library
  computes is a parameter.
Trusted boundary: human-reviewed model of double arithmetic. A zero has no sign: the
  two zeros are equal, and no exception tells them apart
Main exports: PyFloat, Extended, halfEven, PyFloat.nearest, PyFloat.ofInt, PyFloat.add,
  PyFloat.sub, PyFloat.mul, PyFloat.div, PyFloat.rem, PyFloat.floorDiv, Libm,
  Libm.least
-/
import Mathlib

namespace Lib

inductive PyFloat where
  | nan
  | inf (negative : Bool)
  | fin (q : ℚ)
deriving Repr, DecidableEq

/-- The rationals with both infinities. -/
abbrev Extended := WithBot (WithTop ℚ)

/-- The nearest integer, a tie to the even one. -/
def halfEven (q : ℚ) : ℤ :=
  let rest := q - ⌊q⌋
  if rest < 1 / 2 then ⌊q⌋
  else if 1 / 2 < rest then ⌊q⌋ + 1
  else if ⌊q⌋ % 2 = 0 then ⌊q⌋
  else ⌊q⌋ + 1

namespace PyFloat

/-! ### Rounding -/

/-- The greatest power of two that is at most a positive number, as its exponent. -/
def exponent (q : ℚ) : ℤ :=
  let estimate : ℤ := (q.num.natAbs.log2 : ℤ) - (q.den.log2 : ℤ)
  if q < 2 ^ estimate then estimate - 1 else estimate

/-- The distance of the doubles around a number: 53 binary digits, and none below
`2 ** -1074`. -/
def unit (q : ℚ) : ℚ := 2 ^ max (exponent |q| - 52) (-1074)

/-- Doubles are smaller than this. -/
def bound : ℚ := 2 ^ 1024

/-- The nearest double. -/
def nearest (q : ℚ) : PyFloat :=
  if q = 0 then .fin 0
  else
    let rounded := halfEven (q / unit q) * unit q
    if bound ≤ |rounded| then .inf (decide (q < 0)) else .fin rounded

/-- `float(n)` of an integer that is not too large. -/
def ofInt (n : ℤ) : Option PyFloat :=
  match nearest n with
  | .fin q => some (.fin q)
  | .inf _ | .nan => none

/-! ### Order -/

/-- The number, unless it is none. -/
def value? : PyFloat → Option Extended
  | .nan => none
  | .inf true => some ⊥
  | .inf false => some ⊤
  | .fin q => some ((q : WithTop ℚ) : Extended)

def isZero (x : PyFloat) : Bool := decide (x = .fin 0)

def isNegative : PyFloat → Bool
  | .nan => false
  | .inf negative => negative
  | .fin q => decide (q < 0)

/-- An odd whole number. -/
def isOdd : PyFloat → Bool
  | .fin q => decide (q.den = 1 ∧ q.num % 2 = 1)
  | .nan | .inf _ => false

/-! ### Arithmetic -/

def neg : PyFloat → PyFloat
  | .nan => .nan
  | .inf negative => .inf (!negative)
  | .fin q => .fin (-q)

def abs : PyFloat → PyFloat
  | .nan => .nan
  | .inf _ => .inf false
  | .fin q => .fin |q|

def add : PyFloat → PyFloat → PyFloat
  | .nan, _ | _, .nan => .nan
  | .inf a, .inf b => if a = b then .inf a else .nan
  | .inf a, .fin _ | .fin _, .inf a => .inf a
  | .fin p, .fin q => nearest (p + q)

def sub (x y : PyFloat) : PyFloat := x.add y.neg

def mul (x y : PyFloat) : PyFloat :=
  match x, y with
  | .nan, _ | _, .nan => .nan
  | .fin p, .fin q => nearest (p * q)
  | x, y =>
      if x.isZero || y.isZero then .nan else .inf (x.isNegative != y.isNegative)

/-- The quotient; by zero it is infinite. -/
def div (x y : PyFloat) : PyFloat :=
  match x, y with
  | .nan, _ | _, .nan | .inf _, .inf _ => .nan
  | .inf a, .fin q => .inf (a != decide (q < 0))
  | .fin _, .inf _ => .fin 0
  | .fin p, .fin q =>
      if q = 0 then (if p = 0 then .nan else .inf (decide (p < 0)))
      else nearest (p / q)

/-- `fmod`: the remainder of the division that rounds towards zero, which is exact. -/
def fmod : PyFloat → PyFloat → PyFloat
  | .nan, _ | _, .nan | .inf _, _ => .nan
  | .fin p, .inf _ => .fin p
  | .fin p, .fin q =>
      if q = 0 then .nan
      else .fin (p - q * (if 0 ≤ p / q then ⌊p / q⌋ else ⌈p / q⌉))

/-- `x % y` for `y` other than zero: the remainder has the sign of `y`. -/
def rem (x y : PyFloat) : PyFloat :=
  let mod := fmod x y
  if mod.isZero then .fin 0
  else if y.isNegative != mod.isNegative then mod.add y
  else mod

def floor : PyFloat → PyFloat
  | .nan => .nan
  | .inf negative => .inf negative
  | .fin q => .fin ⌊q⌋

/-- The number is above one half. -/
def aboveHalf : PyFloat → Bool
  | .nan => false
  | .inf negative => !negative
  | .fin q => decide (1 / 2 < q)

/-- `x // y` for `y` other than zero. -/
def floorDiv (x y : PyFloat) : PyFloat :=
  let mod := fmod x y
  let quotient := (x.sub mod).div y
  let quotient :=
    if !mod.isZero && y.isNegative != mod.isNegative then quotient.sub (.fin 1)
    else quotient
  if quotient.isZero then .fin 0
  else if (quotient.sub quotient.floor).aboveHalf then quotient.floor.add (.fin 1)
  else quotient.floor

end PyFloat

/-! ### The C library -/

/-- What the C library computes for finite numbers. An infinite result reports that
the exact one is too large. -/
structure Libm where
  /-- of a positive base other than one -/
  pow : ℚ → ℚ → PyFloat
  exp : ℚ → PyFloat
  /-- of a positive number -/
  log : ℚ → ℚ
  /-- of a number that is not negative -/
  sqrt : ℚ → ℚ
  hypot : ℚ → ℚ → PyFloat
  /-- of a base other than zero; nothing if a part is too large -/
  complexPow : PyFloat × PyFloat → PyFloat × PyFloat → Option (PyFloat × PyFloat)

/-- A library that is right for the exponential of zero, the logarithm of one, the
roots of both, the length of a real number and powers with exponent one. -/
def Libm.least : Libm where
  pow base _ := .nearest base
  exp _ := .fin 1
  log _ := 0
  sqrt q := q
  hypot re _ := .nearest |re|
  complexPow base _ := some base

end Lib
