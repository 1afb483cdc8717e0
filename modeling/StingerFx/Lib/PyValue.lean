/-
Module: StingerFx.Lib.PyValue
Layer: Lib
Purpose: Values of a Python expression over numbers, and what its operators and some
  builtin functions make of them: which result, or which exception. Integers have any
  size, booleans are integers, and a negative number has complex powers.
Trusted boundary: human-reviewed model of the language's operators
Main exports: PyBuiltin, PyValue, PyError, ArithOp, PyValue.truth, arith, Negation,
  unary, CompareOp, compare, callBuiltin
-/
import StingerFx.Lib.PyFloat

namespace Lib

inductive PyBuiltin where
  | abs
  | min
  | max
  | round
  | sqrt
  | log
  | exp
  | floor
  | ceil
deriving Repr, DecidableEq

inductive PyValue where
  | int (n : ℤ)
  | float (x : PyFloat)
  | bool (b : Bool)
  | none
  | complex (re im : PyFloat)
  | func (f : PyBuiltin)
  /-- an object of another class -/
  | other (className : String)
deriving Repr, DecidableEq

/-- Exceptions of operators and functions. -/
inductive PyError where
  | zeroDivision
  | type
  | value
  | overflow
deriving Repr, DecidableEq

namespace PyValue

/-! ### Numbers -/

/-- An integer; a boolean is one. -/
def integer? : PyValue → Option ℤ
  | .int n => some n
  | .bool b => some (if b then 1 else 0)
  | .float _ | .none | .complex _ _ | .func _ | .other _ => Option.none

def isReal : PyValue → Bool
  | .int _ | .bool _ | .float _ => true
  | .none | .complex _ _ | .func _ | .other _ => false

def isNumber : PyValue → Bool
  | .int _ | .bool _ | .float _ | .complex _ _ => true
  | .none | .func _ | .other _ => false

/-- A real number as it is, unless it is none. -/
def real? : PyValue → Option Extended
  | .int n => some (((n : ℚ) : WithTop ℚ) : Extended)
  | .bool b => some (((if b then 1 else 0 : ℚ) : WithTop ℚ) : Extended)
  | .float x => x.value?
  | .none | .complex _ _ | .func _ | .other _ => Option.none

/-- Conversion to a float, as by the operators and the C library. -/
def toFloat : PyValue → Except PyError PyFloat
  | .int n =>
      match PyFloat.ofInt n with
      | some x => .ok x
      | Option.none => .error .overflow
  | .bool b => .ok (.fin (if b then 1 else 0))
  | .float x => .ok x
  | .none | .complex _ _ | .func _ | .other _ => .error .type

def toComplex : PyValue → Except PyError (PyFloat × PyFloat)
  | .complex re im => .ok (re, im)
  | value => value.toFloat.map fun x => (x, .fin 0)

def truth : PyValue → Bool
  | .int n => decide (n ≠ 0)
  | .float x => !x.isZero
  | .bool b => b
  | .none => false
  | .complex re im => !(re.isZero && im.isZero)
  | .func _ | .other _ => true

end PyValue

/-! ### Arithmetic -/

inductive ArithOp where
  | add
  | sub
  | mult
  | div
  | floorDiv
  | mod
  | pow
deriving Repr, DecidableEq

section Arithmetic

variable (lib : Libm)

def floatResult (x : PyFloat) : Except PyError PyValue := .ok (.float x)

def complexResult (z : PyFloat × PyFloat) : Except PyError PyValue :=
  .ok (.complex z.1 z.2)

/-- A result that must be finite. -/
def finiteResult : PyFloat → Except PyError PyValue
  | .fin q => floatResult (.fin q)
  | .inf _ | .nan => .error .overflow

def complexPow (a b : PyFloat × PyFloat) : Except PyError PyValue :=
  if b = (.fin 0, .fin 0) then complexResult (.fin 1, .fin 0)
  else if a = (.fin 0, .fin 0) then
    if b.2.isZero && !b.1.isNegative then complexResult (.fin 0, .fin 0)
    else .error .zeroDivision
  else
    match lib.complexPow a b with
    | some z => complexResult z
    | none => .error .overflow

/-- `float.__pow__`. A negative base with a fractional exponent is left to the complex
power. -/
def floatPow (x y : PyFloat) : Except PyError PyValue :=
  match x, y with
  | _, .fin 0 => floatResult (.fin 1)
  | .nan, _ => floatResult .nan
  | x, .nan => floatResult (if x = .fin 1 then .fin 1 else .nan)
  | .inf _, .inf toNegative => floatResult (if toNegative then .fin 0 else .inf false)
  | .fin p, .inf toNegative =>
      if |p| = 1 then floatResult (.fin 1)
      else
        floatResult (if toNegative = decide (1 < |p|) then .fin 0 else .inf false)
  | .inf negative, .fin q =>
      if 0 < q then floatResult (.inf (negative && (PyFloat.fin q).isOdd))
      else floatResult (.fin 0)
  | .fin p, .fin q =>
      if p = 0 then
        if q < 0 then .error .zeroDivision else floatResult (.fin 0)
      else if p < 0 ∧ q.den ≠ 1 then
        complexPow lib (.fin p, .fin 0) (.fin q, .fin 0)
      else
        let power := if |p| = 1 then .fin 1 else lib.pow |p| q
        finiteResult
          (if p < 0 ∧ (PyFloat.fin q).isOdd = true then power.neg else power)

def intOp (op : ArithOp) (m n : ℤ) : Except PyError PyValue :=
  match op with
  | .add => .ok (.int (m + n))
  | .sub => .ok (.int (m - n))
  | .mult => .ok (.int (m * n))
  | .div =>
      if n = 0 then .error .zeroDivision else finiteResult (.nearest ((m : ℚ) / n))
  | .floorDiv => if n = 0 then .error .zeroDivision else .ok (.int (Int.fdiv m n))
  | .mod => if n = 0 then .error .zeroDivision else .ok (.int (Int.fmod m n))
  | .pow =>
      if 0 ≤ n then .ok (.int (m ^ n.toNat))
      else do
        let x ← (PyValue.int m).toFloat
        let y ← (PyValue.int n).toFloat
        floatPow lib x y

def floatOp (op : ArithOp) (x y : PyFloat) : Except PyError PyValue :=
  match op with
  | .add => floatResult (x.add y)
  | .sub => floatResult (x.sub y)
  | .mult => floatResult (x.mul y)
  | .div => if y.isZero then .error .zeroDivision else floatResult (x.div y)
  | .floorDiv => if y.isZero then .error .zeroDivision else floatResult (x.floorDiv y)
  | .mod => if y.isZero then .error .zeroDivision else floatResult (x.rem y)
  | .pow => floatPow lib x y

/-- The quotient of complex numbers, by the part of the divisor that is larger. -/
def complexDiv (a b : PyFloat × PyFloat) : PyFloat × PyFloat :=
  match b.1.abs.value?, b.2.abs.value? with
  | some re, some im =>
      if im ≤ re then
        let ratio := b.2.div b.1
        let denominator := b.1.add (b.2.mul ratio)
        ((a.1.add (a.2.mul ratio)).div denominator,
          (a.2.sub (a.1.mul ratio)).div denominator)
      else
        let ratio := b.1.div b.2
        let denominator := (b.1.mul ratio).add b.2
        (((a.1.mul ratio).add a.2).div denominator,
          ((a.2.mul ratio).sub a.1).div denominator)
  | _, _ => (.nan, .nan)

def complexOp (op : ArithOp) (a b : PyFloat × PyFloat) : Except PyError PyValue :=
  match op with
  | .add => complexResult (a.1.add b.1, a.2.add b.2)
  | .sub => complexResult (a.1.sub b.1, a.2.sub b.2)
  | .mult =>
      complexResult
        ((a.1.mul b.1).sub (a.2.mul b.2), (a.1.mul b.2).add (a.2.mul b.1))
  | .div =>
      if b.1.isZero && b.2.isZero then .error .zeroDivision
      else complexResult (complexDiv a b)
  | .floorDiv | .mod => .error .type
  | .pow => complexPow lib a b

/-- A binary operator on operands that are not both integers. -/
def widerArith (op : ArithOp) (a b : PyValue) : Except PyError PyValue :=
  if a.isReal && b.isReal then do
    let x ← a.toFloat
    let y ← b.toFloat
    floatOp lib op x y
  else if a.isNumber && b.isNumber then
    -- told before a number is converted
    if op = .floorDiv ∨ op = .mod then .error .type
    else do
      let x ← a.toComplex
      let y ← b.toComplex
      complexOp lib op x y
  else .error .type

/-- A binary operator, by the wider class of the operands. -/
def arith (op : ArithOp) (a b : PyValue) : Except PyError PyValue :=
  match a.integer?, b.integer? with
  | some m, some n => intOp lib op m n
  | _, _ => widerArith lib op a b

end Arithmetic

inductive Negation where
  | minus
  | plus
  | not
deriving Repr, DecidableEq

/-- A unary operator. -/
def unary (op : Negation) (a : PyValue) : Except PyError PyValue :=
  match op, a with
  | .not, a => .ok (.bool !a.truth)
  | .minus, .int n => .ok (.int (-n))
  | .minus, .bool b => .ok (.int (if b then -1 else 0))
  | .minus, .float x => .ok (.float x.neg)
  | .minus, .complex re im => .ok (.complex re.neg im.neg)
  | .plus, .int n => .ok (.int n)
  | .plus, .bool b => .ok (.int (if b then 1 else 0))
  | .plus, .float x => .ok (.float x)
  | .plus, .complex re im => .ok (.complex re im)
  | .minus, .none | .minus, .func _ | .minus, .other _ => .error .type
  | .plus, .none | .plus, .func _ | .plus, .other _ => .error .type

/-! ### Comparison -/

inductive CompareOp where
  | eq
  | notEq
  | lt
  | ltE
  | gt
  | gtE
deriving Repr, DecidableEq

/-- Numbers are compared exactly; one that is not a number equals nothing. -/
def sameReal (a b : PyValue) : Bool :=
  match a.real?, b.real? with
  | some x, some y => decide (x = y)
  | _, _ => false

def pyEq : PyValue → PyValue → Bool
  | .none, .none => true
  | .func f, .func g => decide (f = g)
  | .complex a b, .complex c d =>
      sameReal (.float a) (.float c) && sameReal (.float b) (.float d)
  | .complex re im, b => im.isZero && sameReal (.float re) b
  | a, .complex re im => im.isZero && sameReal a (.float re)
  | a, b => sameReal a b

/-- Only real numbers have an order. -/
def ordered (test : Extended → Extended → Bool) (a b : PyValue) :
    Except PyError Bool :=
  if a.isReal && b.isReal then
    match a.real?, b.real? with
    | some x, some y => .ok (test x y)
    | _, _ => .ok false
  else .error .type

def compare (op : CompareOp) (a b : PyValue) : Except PyError Bool :=
  match op with
  | .eq => .ok (pyEq a b)
  | .notEq => .ok !(pyEq a b)
  | .lt => ordered (fun x y => decide (x < y)) a b
  | .ltE => ordered (fun x y => decide (x ≤ y)) a b
  | .gt => ordered (fun x y => decide (y < x)) a b
  | .gtE => ordered (fun x y => decide (y ≤ x)) a b

/-! ### Builtin functions -/

section Builtins

variable (lib : Libm)

def pyAbs : PyValue → Except PyError PyValue
  | .int n => .ok (.int |n|)
  | .bool b => .ok (.int (if b then 1 else 0))
  | .float x => floatResult x.abs
  | .complex (.fin p) (.fin q) => finiteResult (lib.hypot p q)
  | .complex (.inf _) _ | .complex _ (.inf _) => floatResult (.inf false)
  | .complex _ _ => floatResult .nan
  | .none | .func _ | .other _ => .error .type

/-- The first value that none of the others goes beyond. One argument alone would have
to be iterable. -/
def extremum (beyond : CompareOp) : List PyValue → Except PyError PyValue
  | [] | [_] => .error .type
  | first :: rest =>
      rest.foldlM
        (fun best item => do
          let better ← compare beyond item best
          return if better then item else best) first

/-- `round(x)`. -/
def roundWhole : PyValue → Except PyError PyValue
  | .int n => .ok (.int n)
  | .bool b => .ok (.int (if b then 1 else 0))
  | .float (.fin q) => .ok (.int (halfEven q))
  | .float (.inf _) => .error .overflow
  | .float .nan => .error .value
  | .none | .complex _ _ | .func _ | .other _ => .error .type

/-- `round(x, digits)`. -/
def roundDigits (x : PyValue) (digits : ℤ) : Except PyError PyValue :=
  let rounded (q : ℚ) : ℚ := halfEven (q * 10 ^ digits) / 10 ^ digits
  match x with
  | .int n => .ok (.int (if 0 ≤ digits then n else ⌊rounded n⌋))
  | .bool b =>
      let n : ℤ := if b then 1 else 0
      .ok (.int (if 0 ≤ digits then n else ⌊rounded n⌋))
  | .float (.fin q) => finiteResult (.nearest (rounded q))
  | .float x => floatResult x
  | .none | .complex _ _ | .func _ | .other _ => .error .type

def pyRound : List PyValue → Except PyError PyValue
  | [x] | [x, .none] => roundWhole x
  | [x, digits] =>
      match digits.integer? with
      | some n => roundDigits x n
      | none => .error .type
  | _ => .error .type

def pySqrt (x : PyValue) : Except PyError PyValue := do
  match ← x.toFloat with
  | .nan => floatResult .nan
  | .inf negative => if negative then .error .value else floatResult (.inf false)
  | .fin q => if q < 0 then .error .value else floatResult (.fin (lib.sqrt q))

/-- The natural logarithm; of an integer of any size. -/
def logarithm (x : PyValue) : Except PyError PyFloat :=
  match x.integer? with
  | some n => if n ≤ 0 then .error .value else .ok (.fin (lib.log n))
  | none => do
      match ← x.toFloat with
      | .nan => return .nan
      | .inf negative => if negative then .error .value else return .inf false
      | .fin q => if q ≤ 0 then .error .value else return .fin (lib.log q)

def pyLog : List PyValue → Except PyError PyValue
  | [x] => (logarithm lib x).map .float
  | [x, base] => do
      let numerator ← logarithm lib x
      let denominator ← logarithm lib base
      floatOp lib .div numerator denominator
  | _ => .error .type

def pyExp (x : PyValue) : Except PyError PyValue := do
  match ← x.toFloat with
  | .nan => floatResult .nan
  | .inf negative => floatResult (if negative then .fin 0 else .inf false)
  | .fin q => finiteResult (lib.exp q)

/-- `floor` and `ceil`, by the one for rationals. -/
def whole (towards : ℚ → ℤ) : PyValue → Except PyError PyValue
  | .int n => .ok (.int n)
  | .bool b => .ok (.int (if b then 1 else 0))
  | .float (.fin q) => .ok (.int (towards q))
  | .float (.inf _) => .error .overflow
  | .float .nan => .error .value
  | .none | .complex _ _ | .func _ | .other _ => .error .type

/-- A function of one argument. -/
def oneArgument (f : PyValue → Except PyError PyValue) :
    List PyValue → Except PyError PyValue
  | [x] => f x
  | _ => .error .type

def callBuiltin (f : PyBuiltin) (args : List PyValue) : Except PyError PyValue :=
  match f with
  | .abs => oneArgument (pyAbs lib) args
  | .min => extremum .lt args
  | .max => extremum .gt args
  | .round => pyRound args
  | .sqrt => oneArgument (pySqrt lib) args
  | .log => pyLog lib args
  | .exp => oneArgument (pyExp lib) args
  | .floor => oneArgument (whole fun q => ⌊q⌋) args
  | .ceil => oneArgument (whole fun q => ⌈q⌉) args

end Builtins

end Lib
