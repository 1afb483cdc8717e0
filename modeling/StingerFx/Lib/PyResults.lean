/-
Module: StingerFx.Lib.PyResults
Layer: Lib
Purpose: What operators and functions on numbers can end in: which operands they
  overflow for, and when a result is a complex number.
Trusted boundary: none (fully proved)
Main exports: PyFloat.isFinite, PyValue.tooLarge, OutOfRange, CallOutOfRange, Widens,
  arith_overflow_iff, callBuiltin_overflow_iff, NumberWhere, numberWhere_arith,
  callBuiltin_isReal
-/
import StingerFx.Lib.PyValue

namespace Lib

def PyFloat.isFinite : PyFloat → Bool
  | .fin _ => true
  | .nan | .inf _ => false

namespace PyValue

/-- An integer for which there is no float. -/
def tooLarge : PyValue → Bool
  | .int n => (PyFloat.ofInt n).isNone
  | .float _ | .bool _ | .none | .complex _ _ | .func _ | .other _ => false

def isComplex : PyValue → Bool
  | .complex _ _ => true
  | .int _ | .float _ | .bool _ | .none | .func _ | .other _ => false

def isInfinite : PyValue → Bool
  | .float (.inf _) => true
  | _ => false

end PyValue

section Ranges

variable (lib : Libm)

/-- Complex numbers whose power is not in range. -/
def ComplexPowerTooLarge (a b : PyFloat × PyFloat) : Prop :=
  b ≠ (.fin 0, .fin 0) ∧ a ≠ (.fin 0, .fin 0) ∧ lib.complexPow a b = none

/-- Floats whose power is not in range. -/
def PowerTooLarge (x y : PyFloat) : Prop :=
  ∃ p q, x = .fin p ∧ y = .fin q ∧ p ≠ 0 ∧ q ≠ 0 ∧
    if p < 0 ∧ q.den ≠ 1 then lib.complexPow (.fin p, .fin 0) (.fin q, .fin 0) = none
    else |p| ≠ 1 ∧ (lib.pow |p| q).isFinite = false

/-- Real operands for which a power of floats overflows. -/
def FloatPowerTooLarge (a b : PyValue) : Prop :=
  ∃ x y, a.toFloat = .ok x ∧ b.toFloat = .ok y ∧ PowerTooLarge lib x y

/-- Operands, not both integers, for which an operator overflows. -/
def WiderOutOfRange (op : ArithOp) (a b : PyValue) : Prop :=
  if a.isReal && b.isReal then
    a.tooLarge = true ∨ b.tooLarge = true ∨ (op = .pow ∧ FloatPowerTooLarge lib a b)
  else
    a.isNumber = true ∧ b.isNumber = true ∧ op ≠ .floorDiv ∧ op ≠ .mod ∧
      (a.tooLarge = true ∨ b.tooLarge = true ∨
        (op = .pow ∧ ∃ z w, a.toComplex = .ok z ∧ b.toComplex = .ok w ∧
          ComplexPowerTooLarge lib z w))

/-- Operands for which an operator overflows: a quotient of integers or a power that is
no float, or an integer that has to become a float and is too large for one. -/
def OutOfRange (op : ArithOp) (a b : PyValue) : Prop :=
  match a.integer?, b.integer? with
  | some m, some n =>
      (op = .div ∧ n ≠ 0 ∧ (PyFloat.nearest ((m : ℚ) / n)).isFinite = false) ∨
        (op = .pow ∧ n < 0 ∧
          ((PyValue.int m).tooLarge = true ∨ (PyValue.int n).tooLarge = true ∨
            FloatPowerTooLarge lib (.int m) (.int n)))
  | _, _ => WiderOutOfRange lib op a b

/-- Arguments for which a function overflows. -/
def CallOutOfRange (f : PyBuiltin) (args : List PyValue) : Prop :=
  match f, args with
  | .abs, [.complex (.fin p) (.fin q)] => (lib.hypot p q).isFinite = false
  | .round, [x] | .round, [x, .none] => x.isInfinite = true
  | .round, [.float (.fin q), digits] =>
      ∃ n, digits.integer? = some n ∧
        (PyFloat.nearest (halfEven (q * 10 ^ n) / 10 ^ n)).isFinite = false
  | .sqrt, [x] => x.tooLarge = true
  | .exp, [x] =>
      x.tooLarge = true ∨ ∃ q, x.toFloat = .ok (.fin q) ∧ (lib.exp q).isFinite = false
  | .floor, [x] | .ceil, [x] => x.isInfinite = true
  | _, _ => False

/-- Operands whose result is a complex number: one of them is, or a negative number is
raised to a fractional power. -/
def Widens (op : ArithOp) (a b : PyValue) : Prop :=
  a.isComplex = true ∨ b.isComplex = true ∨
    (op = .pow ∧ ∃ p q, a.toFloat = .ok (.fin p) ∧ b.toFloat = .ok (.fin q) ∧
      p < 0 ∧ q.den ≠ 1)

end Ranges

/-! ### Steps that can fail -/

section Steps

variable {ε α β : Type}

theorem bind_eq_ok_iff {outcome : Except ε α} {next : α → Except ε β} {result : β} :
    (outcome >>= next) = .ok result ↔ ∃ a, outcome = .ok a ∧ next a = .ok result := by
  cases outcome with
  | ok a => exact ⟨fun gives => ⟨a, rfl, gives⟩, fun ⟨b, same, gives⟩ => by cases same; exact gives⟩
  | error e => exact ⟨fun gives => (by cases gives), fun ⟨b, same, _⟩ => (by cases same)⟩

theorem bind_eq_error_iff {outcome : Except ε α} {next : α → Except ε β} {e : ε} :
    (outcome >>= next) = .error e ↔
      outcome = .error e ∨ ∃ a, outcome = .ok a ∧ next a = .error e := by
  cases outcome with
  | ok a =>
      constructor
      · exact fun gives => .inr ⟨a, rfl, gives⟩
      · rintro (same | ⟨b, same, gives⟩)
        · cases same
        · cases same
          exact gives
  | error cause =>
      constructor
      · intro same
        cases same
        exact .inl rfl
      · rintro (same | ⟨b, same, gives⟩)
        · cases same
          rfl
        · cases same

end Steps

/-! ### Conversions -/

theorem toFloat_overflow_iff (a : PyValue) :
    a.toFloat = .error .overflow ↔ a.tooLarge = true := by
  cases a with
  | int n =>
      rw [PyValue.toFloat, PyValue.tooLarge]
      cases PyFloat.ofInt n <;> simp
  | _ => simp [PyValue.toFloat, PyValue.tooLarge]

theorem toComplex_overflow_iff (a : PyValue) :
    a.toComplex = .error .overflow ↔ a.tooLarge = true := by
  rw [← toFloat_overflow_iff]
  cases a with
  | complex re im => simp [PyValue.toComplex, PyValue.toFloat]
  | int n =>
      rw [PyValue.toComplex]
      · cases (PyValue.int n).toFloat <;> simp [Except.map]
      · simp
  | _ => simp [PyValue.toComplex, PyValue.toFloat, Except.map]

theorem finiteResult_overflow_iff (x : PyFloat) :
    finiteResult x = .error .overflow ↔ x.isFinite = false := by
  cases x <;> simp [finiteResult, floatResult, PyFloat.isFinite]

theorem isFinite_neg (x : PyFloat) : x.neg.isFinite = x.isFinite := by
  cases x <;> rfl

/-! ### Overflows -/

section Overflows

variable (lib : Libm)

theorem complexPow_overflow_iff (a b : PyFloat × PyFloat) :
    complexPow lib a b = .error .overflow ↔ ComplexPowerTooLarge lib a b := by
  unfold complexPow ComplexPowerTooLarge
  by_cases atZero : b = (.fin 0, .fin 0)
  · simp [atZero, complexResult]
  · by_cases base : a = (.fin 0, .fin 0)
    · rw [if_neg atZero, if_pos base]
      split <;> simp [base, complexResult]
    · rw [if_neg atZero, if_neg base]
      cases lib.complexPow a b <;> simp [atZero, base, complexResult]

theorem floatPow_overflow_iff (x y : PyFloat) :
    floatPow lib x y = .error .overflow ↔ PowerTooLarge lib x y := by
  unfold floatPow
  split
  · simp [floatResult, PowerTooLarge]
  · simp [floatResult, PowerTooLarge]
  · simp [floatResult, PowerTooLarge]
  · simp [floatResult, PowerTooLarge]
  · split <;> simp [floatResult, PowerTooLarge]
  · split <;> simp [floatResult, PowerTooLarge]
  · rename_i p q zero
    have other : q ≠ 0 := zero
    unfold PowerTooLarge
    by_cases none : p = 0
    · rw [if_pos none]
      split <;> simp [floatResult, none]
    · rw [if_neg none]
      by_cases widens : p < 0 ∧ q.den ≠ 1
      · rw [if_pos widens, complexPow_overflow_iff]
        simp [ComplexPowerTooLarge, other, none, widens]
      · rw [if_neg widens, finiteResult_overflow_iff]
        by_cases one : |p| = 1
        · rw [if_pos one]
          split <;> simp [PyFloat.isFinite, PyFloat.neg, widens, one]
        · rw [if_neg one]
          split <;> simp [isFinite_neg, widens, one, none, other]

/-- A division that only fails by zero. -/
theorem divided_ne_overflow (zero : Prop) [Decidable zero] (value : PyValue) :
    (if zero then .error .zeroDivision else .ok value : Except PyError PyValue) ≠
      .error .overflow := by
  split <;> simp

theorem floatOp_overflow_iff (op : ArithOp) (x y : PyFloat) :
    floatOp lib op x y = .error .overflow ↔ op = .pow ∧ PowerTooLarge lib x y := by
  cases op with
  | pow => simp [floatOp, floatPow_overflow_iff]
  | add => simp [floatOp, floatResult]
  | sub => simp [floatOp, floatResult]
  | mult => simp [floatOp, floatResult]
  | div => exact iff_of_false (divided_ne_overflow _ _) (by simp)
  | floorDiv => exact iff_of_false (divided_ne_overflow _ _) (by simp)
  | mod => exact iff_of_false (divided_ne_overflow _ _) (by simp)

theorem complexOp_overflow_iff (op : ArithOp) (a b : PyFloat × PyFloat) :
    complexOp lib op a b = .error .overflow ↔
      op = .pow ∧ ComplexPowerTooLarge lib a b := by
  cases op with
  | pow => simp [complexOp, complexPow_overflow_iff]
  | add => simp [complexOp, complexResult]
  | sub => simp [complexOp, complexResult]
  | mult => simp [complexOp, complexResult]
  | div => exact iff_of_false (divided_ne_overflow _ _) (by simp)
  | floorDiv => simp [complexOp]
  | mod => simp [complexOp]

theorem toFloat_real {a : PyValue} (real : a.isReal = true) :
    a.tooLarge = true ∨ ∃ x, a.toFloat = .ok x := by
  cases a with
  | int n =>
      rw [PyValue.tooLarge, PyValue.toFloat]
      cases PyFloat.ofInt n <;> simp
  | float x => exact .inr ⟨x, rfl⟩
  | bool b => exact .inr ⟨_, rfl⟩
  | none => cases real
  | complex re im => cases real
  | func f => cases real
  | other className => cases real

/-- Two real numbers that become floats first. -/
theorem converted_overflow_iff {a b : PyValue} (real : a.isReal = true)
    (next : PyFloat → PyFloat → Except PyError PyValue) :
    (do let x ← a.toFloat; let y ← b.toFloat; next x y) = .error .overflow ↔
      a.tooLarge = true ∨ b.tooLarge = true ∨
        ∃ x y, a.toFloat = .ok x ∧ b.toFloat = .ok y ∧ next x y = .error .overflow := by
  simp only [bind_eq_error_iff, toFloat_overflow_iff]
  constructor
  · rintro (first | ⟨x, atA, second | ⟨y, atB, fails⟩⟩)
    · exact .inl first
    · exact .inr (.inl second)
    · exact .inr (.inr ⟨x, y, atA, atB, fails⟩)
  · rintro (first | second | ⟨x, y, atA, atB, fails⟩)
    · exact .inl first
    · rcases toFloat_real real with first | ⟨x, atA⟩
      · exact .inl first
      · exact .inr ⟨x, atA, .inl second⟩
    · exact .inr ⟨x, atA, .inr ⟨y, atB, fails⟩⟩

theorem intOp_overflow_iff (op : ArithOp) (m n : ℤ) :
    intOp lib op m n = .error .overflow ↔
      (op = .div ∧ n ≠ 0 ∧ (PyFloat.nearest ((m : ℚ) / n)).isFinite = false) ∨
        (op = .pow ∧ n < 0 ∧
          ((PyValue.int m).tooLarge = true ∨ (PyValue.int n).tooLarge = true ∨
            FloatPowerTooLarge lib (.int m) (.int n))) := by
  cases op with
  | add => simp [intOp]
  | sub => simp [intOp]
  | mult => simp [intOp]
  | div =>
      unfold intOp
      by_cases zero : n = 0
      · simp [zero]
      · simp [zero, finiteResult_overflow_iff]
  | floorDiv => exact iff_of_false (divided_ne_overflow _ _) (by simp)
  | mod => exact iff_of_false (divided_ne_overflow _ _) (by simp)
  | pow =>
      by_cases positive : 0 ≤ n
      · simp [intOp, positive]
      · have power := converted_overflow_iff (a := .int m) (b := .int n) rfl (floatPow lib)
        simp only [floatPow_overflow_iff] at power
        simp only [intOp, positive, if_false, power, FloatPowerTooLarge]
        simp [not_le.mp positive]

theorem toComplex_number {a : PyValue} (number : a.isNumber = true) :
    a.tooLarge = true ∨ ∃ z, a.toComplex = .ok z := by
  cases a with
  | complex re im => exact .inr ⟨_, rfl⟩
  | int n =>
      rcases toFloat_real (a := .int n) rfl with large | ⟨x, converted⟩
      · exact .inl large
      · exact .inr ⟨(x, .fin 0), congrArg (Except.map fun x => (x, PyFloat.fin 0)) converted⟩
  | float x => exact .inr ⟨_, rfl⟩
  | bool b => exact .inr ⟨_, rfl⟩
  | none => cases number
  | func f => cases number
  | other className => cases number

theorem complex_converted_overflow_iff (op : ArithOp) {a b : PyValue}
    (number : a.isNumber = true) :
    (do let x ← a.toComplex; let y ← b.toComplex; complexOp lib op x y) =
        .error .overflow ↔
      a.tooLarge = true ∨ b.tooLarge = true ∨
        (op = .pow ∧ ∃ z w, a.toComplex = .ok z ∧ b.toComplex = .ok w ∧
          ComplexPowerTooLarge lib z w) := by
  simp only [bind_eq_error_iff, toComplex_overflow_iff, complexOp_overflow_iff]
  constructor
  · rintro (first | ⟨x, atA, second | ⟨y, atB, power, large⟩⟩)
    · exact .inl first
    · exact .inr (.inl second)
    · exact .inr (.inr ⟨power, x, y, atA, atB, large⟩)
  · rintro (first | second | ⟨power, x, y, atA, atB, large⟩)
    · exact .inl first
    · rcases toComplex_number number with first | ⟨x, atA⟩
      · exact .inl first
      · exact .inr ⟨x, atA, .inl second⟩
    · exact .inr ⟨x, atA, .inr ⟨y, atB, power, large⟩⟩

theorem widerArith_overflow_iff (op : ArithOp) (a b : PyValue) :
    widerArith lib op a b = .error .overflow ↔ WiderOutOfRange lib op a b := by
  unfold widerArith WiderOutOfRange
  by_cases real : (a.isReal && b.isReal) = true
  · obtain ⟨first, -⟩ := Bool.and_eq_true _ _ ▸ real
    rw [if_pos real, if_pos real, converted_overflow_iff first]
    simp only [floatOp_overflow_iff, FloatPowerTooLarge]
    constructor
    · rintro (large | large | ⟨x, y, atA, atB, power, large⟩)
      · exact .inl large
      · exact .inr (.inl large)
      · exact .inr (.inr ⟨power, x, y, atA, atB, large⟩)
    · rintro (large | large | ⟨power, x, y, atA, atB, large⟩)
      · exact .inl large
      · exact .inr (.inl large)
      · exact .inr (.inr ⟨x, y, atA, atB, power, large⟩)
  · rw [if_neg real, if_neg real]
    by_cases numbers : (a.isNumber && b.isNumber) = true
    · obtain ⟨first, second⟩ := Bool.and_eq_true _ _ ▸ numbers
      rw [if_pos numbers]
      by_cases undefined : op = .floorDiv ∨ op = .mod
      · rw [if_pos undefined]
        exact iff_of_false (by simp) fun held =>
          undefined.elim held.2.2.1 held.2.2.2.1
      · rw [if_neg undefined, complex_converted_overflow_iff lib op first]
        obtain ⟨notFloor, notMod⟩ := not_or.mp undefined
        exact ⟨fun large => ⟨first, second, notFloor, notMod, large⟩,
          fun held => held.2.2.2.2⟩
    · rw [if_neg numbers]
      rw [Bool.and_eq_true] at numbers
      exact iff_of_false (by simp) fun held => numbers ⟨held.1, held.2.1⟩

/-- An operator overflows for the operands that are out of its range. -/
theorem arith_overflow_iff (op : ArithOp) (a b : PyValue) :
    arith lib op a b = .error .overflow ↔ OutOfRange lib op a b := by
  unfold arith OutOfRange
  cases a.integer? with
  | none => exact widerArith_overflow_iff lib op a b
  | some m =>
      cases b.integer? with
      | none => exact widerArith_overflow_iff lib op a b
      | some n => exact intOp_overflow_iff lib op m n

/-! ### Overflows of functions -/

theorem compare_ne_overflow (op : CompareOp) (a b : PyValue) :
    compare op a b ≠ .error .overflow := by
  have known (test : Extended → Extended → Bool) :
      ordered test a b ≠ .error .overflow := by
    unfold ordered
    split
    · split <;> simp
    · simp
  cases op with
  | eq => simp [compare]
  | notEq => simp [compare]
  | lt => exact known _
  | ltE => exact known _
  | gt => exact known _
  | gtE => exact known _

/-- The induction is on the arguments that are still to be compared. -/
theorem extremum_ne_overflow (beyond : CompareOp) (args : List PyValue) :
    extremum beyond args ≠ .error .overflow := by
  have folded (rest : List PyValue) (best : PyValue) :
      rest.foldlM (fun best item => do
        let better ← compare beyond item best
        return if better then item else best) best ≠ .error .overflow := by
    induction rest generalizing best with
    | nil =>
        intro same
        cases same
    | cons item rest ih =>
        rw [List.foldlM_cons]
        intro fails
        rcases bind_eq_error_iff.mp fails with early | ⟨next, -, late⟩
        · rcases bind_eq_error_iff.mp early with compared | ⟨better, -, kept⟩
          · exact compare_ne_overflow _ _ _ compared
          · cases kept
        · exact ih next late
  match args with
  | [] => simp [extremum]
  | [x] => simp [extremum]
  | first :: second :: rest => exact folded (second :: rest) first

theorem logarithm_ne_overflow (x : PyValue) : logarithm lib x ≠ .error .overflow := by
  unfold logarithm
  split
  · split <;> simp
  · rename_i wide
    intro fails
    rcases bind_eq_error_iff.mp fails with large | ⟨y, -, late⟩
    · -- only an integer is too large
      rw [toFloat_overflow_iff] at large
      cases x with
      | int n => cases wide
      | _ => cases large
    · cases y with
      | nan => cases late
      | inf negative => cases negative <;> cases late
      | fin q =>
          simp only at late
          split at late <;> cases late

theorem pyLog_ne_overflow (args : List PyValue) : pyLog lib args ≠ .error .overflow := by
  match args with
  | [] => simp [pyLog]
  | [x] =>
      intro fails
      refine logarithm_ne_overflow lib x ?_
      rw [pyLog] at fails
      cases outcome : logarithm lib x with
      | ok y =>
          rw [outcome] at fails
          cases fails
      | error cause =>
          rw [outcome] at fails
          cases fails
          rfl
  | [x, base] =>
      intro fails
      rcases bind_eq_error_iff.mp fails with above | ⟨y, -, fails⟩
      · exact logarithm_ne_overflow lib x above
      · rcases bind_eq_error_iff.mp fails with below | ⟨z, -, fails⟩
        · exact logarithm_ne_overflow lib base below
        · cases ((floatOp_overflow_iff lib .div y z).mp fails).1
  | x :: base :: more :: rest => simp [pyLog]

theorem roundWhole_overflow_iff (x : PyValue) :
    roundWhole x = .error .overflow ↔ x.isInfinite = true := by
  cases x with
  | float x => cases x <;> simp [roundWhole, PyValue.isInfinite]
  | _ => simp [roundWhole, PyValue.isInfinite]

theorem whole_overflow_iff (towards : ℚ → ℤ) (x : PyValue) :
    whole towards x = .error .overflow ↔ x.isInfinite = true := by
  cases x with
  | float x => cases x <;> simp [whole, PyValue.isInfinite]
  | _ => simp [whole, PyValue.isInfinite]

theorem roundDigits_overflow_iff (x : PyValue) (n : ℤ) :
    roundDigits x n = .error .overflow ↔
      ∃ q, x = .float (.fin q) ∧
        (PyFloat.nearest (halfEven (q * 10 ^ n) / 10 ^ n)).isFinite = false := by
  cases x with
  | float x => cases x <;> simp [roundDigits, floatResult, finiteResult_overflow_iff]
  | _ => simp [roundDigits]

theorem pyAbs_overflow_iff (x : PyValue) :
    pyAbs lib x = .error .overflow ↔ CallOutOfRange lib .abs [x] := by
  cases x with
  | complex re im =>
      cases re <;> cases im <;>
        simp [pyAbs, CallOutOfRange, floatResult, finiteResult_overflow_iff]
  | _ => simp [pyAbs, CallOutOfRange, floatResult]

theorem pySqrt_overflow_iff (x : PyValue) :
    pySqrt lib x = .error .overflow ↔ x.tooLarge = true := by
  rw [← toFloat_overflow_iff]
  constructor
  · intro fails
    rcases bind_eq_error_iff.mp fails with large | ⟨y, -, late⟩
    · exact large
    · cases y with
      | nan => cases late
      | inf negative => cases negative <;> cases late
      | fin q =>
          simp only at late
          split at late <;> cases late
  · exact fun large => bind_eq_error_iff.mpr (.inl large)

theorem pyExp_overflow_iff (x : PyValue) :
    pyExp lib x = .error .overflow ↔ CallOutOfRange lib .exp [x] := by
  change _ ↔ x.tooLarge = true ∨
    ∃ q, x.toFloat = .ok (.fin q) ∧ (lib.exp q).isFinite = false
  rw [← toFloat_overflow_iff, pyExp, bind_eq_error_iff]
  refine or_congr_right ?_
  constructor
  · rintro ⟨y, converted, late⟩
    cases y with
    | nan => cases late
    | inf negative => cases late
    | fin q => exact ⟨q, converted, (finiteResult_overflow_iff _).mp late⟩
  · rintro ⟨q, converted, large⟩
    exact ⟨.fin q, converted, (finiteResult_overflow_iff _).mpr large⟩

theorem pyRound_overflow_iff (args : List PyValue) :
    pyRound args = .error .overflow ↔ CallOutOfRange lib .round args := by
  match args with
  | [] => simp [pyRound, CallOutOfRange]
  | [x] => exact roundWhole_overflow_iff x
  | [x, digits] =>
      by_cases whole : digits = .none
      · subst whole
        exact roundWhole_overflow_iff x
      · rw [pyRound]
        · cases given : digits.integer? with
          | none =>
              refine iff_of_false (by simp) ?_
              unfold CallOutOfRange
              split <;> simp_all
          | some n =>
              rw [roundDigits_overflow_iff]
              unfold CallOutOfRange
              split <;> simp_all
        · exact whole
  | x :: y :: z :: rest => simp [pyRound, CallOutOfRange]

/-- A function of one argument is out of range for no other number of them. -/
theorem oneArgument_overflow_iff {f : PyBuiltin}
    {function : PyValue → Except PyError PyValue}
    (single : ∀ x, function x = .error .overflow ↔ CallOutOfRange lib f [x])
    (none : ¬CallOutOfRange lib f []) (more : ∀ x y rest, ¬CallOutOfRange lib f (x :: y :: rest))
    (args : List PyValue) :
    oneArgument function args = .error .overflow ↔ CallOutOfRange lib f args := by
  match args with
  | [] => exact iff_of_false (by simp [oneArgument]) none
  | [x] => exact single x
  | x :: y :: rest => exact iff_of_false (by simp [oneArgument]) (more x y rest)

/-- A function overflows for the arguments that are out of its range. -/
theorem callBuiltin_overflow_iff (f : PyBuiltin) (args : List PyValue) :
    callBuiltin lib f args = .error .overflow ↔ CallOutOfRange lib f args := by
  cases f with
  | abs =>
      exact oneArgument_overflow_iff lib (pyAbs_overflow_iff lib) (by simp [CallOutOfRange])
        (by simp [CallOutOfRange]) args
  | min => exact iff_of_false (extremum_ne_overflow _ _) (by simp [CallOutOfRange])
  | max => exact iff_of_false (extremum_ne_overflow _ _) (by simp [CallOutOfRange])
  | round => exact pyRound_overflow_iff lib args
  | sqrt =>
      exact oneArgument_overflow_iff lib (pySqrt_overflow_iff lib) (by simp [CallOutOfRange])
        (by simp [CallOutOfRange]) args
  | log => exact iff_of_false (pyLog_ne_overflow lib args) (by simp [CallOutOfRange])
  | exp =>
      exact oneArgument_overflow_iff lib (pyExp_overflow_iff lib) (by simp [CallOutOfRange])
        (by simp [CallOutOfRange]) args
  | floor =>
      exact oneArgument_overflow_iff lib (whole_overflow_iff _) (by simp [CallOutOfRange])
        (by simp [CallOutOfRange]) args
  | ceil =>
      exact oneArgument_overflow_iff lib (whole_overflow_iff _) (by simp [CallOutOfRange])
        (by simp [CallOutOfRange]) args

end Overflows

/-! ### Results -/

theorem halfEven_intCast (n : ℤ) : halfEven n = n := by
  unfold halfEven
  rw [Int.floor_intCast, sub_self]
  exact if_pos (by norm_num)

/-- Rounded, an integer is one. -/
theorem nearest_intCast_den (n : ℤ) {q : ℚ} (rounded : PyFloat.nearest n = .fin q) :
    q.den = 1 := by
  have integral (z : ℤ) (same : q = z) : q.den = 1 := by
    rw [same]
    exact Rat.den_intCast z
  unfold PyFloat.nearest at rounded
  split at rounded
  · cases rounded
    rfl
  · simp only at rounded
    split at rounded
    · cases rounded
    · have same := PyFloat.fin.inj rounded
      obtain ⟨e, unit⟩ : ∃ e : ℤ, PyFloat.unit n = 2 ^ e := ⟨_, rfl⟩
      rw [unit] at same
      rcases le_total 0 e with positive | negative
      · -- doubles that are that large are multiples of a power of two
        obtain ⟨k, rfl⟩ := Int.eq_ofNat_of_zero_le positive
        refine integral (halfEven (n / 2 ^ (k : ℤ)) * 2 ^ k) ?_
        rw [← same]
        push_cast
        rw [zpow_natCast]
      · obtain ⟨k, whole⟩ := Int.eq_ofNat_of_zero_le (Int.neg_nonneg_of_nonpos negative)
        have exponent : e = -(k : ℤ) := by omega
        have scaled : (n : ℚ) / 2 ^ e = ((n * 2 ^ k : ℤ) : ℚ) := by
          rw [exponent, zpow_neg, zpow_natCast, div_inv_eq_mul]
          push_cast
          rfl
        refine integral n ?_
        rw [← same, scaled, halfEven_intCast, ← scaled]
        exact div_mul_cancel₀ _ (by positivity)

theorem toFloat_integer_den {a : PyValue} {n : ℤ} {q : ℚ} (whole : a.integer? = some n)
    (converted : a.toFloat = .ok (.fin q)) : q.den = 1 := by
  cases a with
  | int m =>
      rw [PyValue.toFloat, PyFloat.ofInt] at converted
      cases rounded : PyFloat.nearest m with
      | fin p =>
          rw [rounded] at converted
          cases converted
          exact nearest_intCast_den m rounded
      | inf negative =>
          rw [rounded] at converted
          cases converted
      | nan =>
          rw [rounded] at converted
          cases converted
  | bool b => cases b <;> cases converted <;> rfl
  | float x => cases whole
  | none => cases whole
  | complex re im => cases whole
  | func f => cases whole
  | other className => cases whole

/-- A number, which is complex in the one case. -/
def NumberWhere (widens : Prop) (value : PyValue) : Prop :=
  value.isNumber = true ∧ (value.isComplex = true ↔ widens)

section Results

variable {lib : Libm} {value : PyValue} {widens : Prop}

theorem NumberWhere.complex {a : PyFloat × PyFloat} (here : widens)
    (gives : complexResult a = .ok value) : NumberWhere widens value := by
  cases gives
  exact ⟨rfl, fun _ => here, fun _ => rfl⟩

theorem NumberWhere.float {x : PyFloat} (never : ¬widens)
    (gives : floatResult x = .ok value) : NumberWhere widens value := by
  cases gives
  exact ⟨rfl, fun same => (by cases same), fun here => absurd here never⟩

theorem NumberWhere.int {n : ℤ} (never : ¬widens) : NumberWhere widens (.int n) :=
  ⟨rfl, fun same => (by cases same), fun here => absurd here never⟩

theorem NumberWhere.finite {x : PyFloat} (never : ¬widens)
    (gives : finiteResult x = .ok value) : NumberWhere widens value := by
  cases x with
  | fin q => exact .float never gives
  | inf negative => cases gives
  | nan => cases gives

theorem NumberWhere.complexPow {a b : PyFloat × PyFloat} (here : widens)
    (gives : complexPow lib a b = .ok value) : NumberWhere widens value := by
  unfold Lib.complexPow at gives
  split at gives
  · exact .complex here gives
  · split at gives
    · split at gives
      · exact .complex here gives
      · cases gives
    · split at gives
      · exact .complex here gives
      · cases gives

/-- A division by something other than zero. -/
theorem NumberWhere.divided {zero : Prop} [Decidable zero]
    {outcome : Except PyError PyValue}
    (later : outcome = .ok value → NumberWhere widens value)
    (gives : (if zero then .error .zeroDivision else outcome) = .ok value) :
    NumberWhere widens value := by
  split at gives
  · cases gives
  · exact later gives

theorem numberWhere_floatPow {x y : PyFloat} (gives : floatPow lib x y = .ok value) :
    NumberWhere (∃ p q, x = .fin p ∧ y = .fin q ∧ p < 0 ∧ q.den ≠ 1) value := by
  unfold floatPow at gives
  split at gives
  · refine .float ?_ gives
    rintro ⟨p, q, -, same, -, fractional⟩
    cases same
    exact fractional rfl
  · exact .float (by simp) gives
  · exact .float (by simp) gives
  · exact .float (by simp) gives
  · split at gives <;> exact .float (by simp) gives
  · split at gives <;> exact .float (by simp) gives
  · rename_i p q other
    by_cases widens : p < 0 ∧ q.den ≠ 1
    · rw [if_neg widens.1.ne, if_pos widens] at gives
      exact .complexPow ⟨p, q, rfl, rfl, widens⟩ gives
    · have never : ¬∃ p' q', PyFloat.fin p = .fin p' ∧ PyFloat.fin q = .fin q' ∧
          p' < 0 ∧ q'.den ≠ 1 := by
        rintro ⟨_, _, same, alike, both⟩
        cases same
        cases alike
        exact widens both
      split at gives
      · split at gives
        · cases gives
        · exact .float never gives
      · exact .finite never gives

theorem numberWhere_floatOp {op : ArithOp} {x y : PyFloat}
    (gives : floatOp lib op x y = .ok value) :
    NumberWhere (op = .pow ∧ ∃ p q, x = .fin p ∧ y = .fin q ∧ p < 0 ∧ q.den ≠ 1) value := by
  cases op with
  | add => exact .float (by simp) gives
  | sub => exact .float (by simp) gives
  | mult => exact .float (by simp) gives
  | div => exact .divided (.float (by simp)) gives
  | floorDiv => exact .divided (.float (by simp)) gives
  | mod => exact .divided (.float (by simp)) gives
  | pow =>
      obtain ⟨number, complex⟩ := numberWhere_floatPow gives
      exact ⟨number, complex.trans ⟨fun here => ⟨rfl, here⟩, fun here => here.2⟩⟩

theorem numberWhere_complexOp {op : ArithOp} {a b : PyFloat × PyFloat} (here : widens)
    (gives : complexOp lib op a b = .ok value) : NumberWhere widens value := by
  cases op with
  | add => exact .complex here gives
  | sub => exact .complex here gives
  | mult => exact .complex here gives
  | div => exact .divided (.complex here) gives
  | floorDiv => cases gives
  | mod => cases gives
  | pow => exact .complexPow here gives

theorem numberWhere_intOp {op : ArithOp} {m n : ℤ} (gives : intOp lib op m n = .ok value)
    (never : ¬widens) : NumberWhere widens value := by
  have whole {k : ℤ} (gives : (.ok (.int k) : Except PyError PyValue) = .ok value) :
      NumberWhere widens value := by
    cases gives
    exact .int never
  cases op with
  | add => exact whole gives
  | sub => exact whole gives
  | mult => exact whole gives
  | div => exact .divided (.finite never) gives
  | floorDiv => exact .divided whole gives
  | mod => exact .divided whole gives
  | pow =>
      simp only [intOp] at gives
      split at gives
      · exact whole gives
      · obtain ⟨x, -, gives⟩ := bind_eq_ok_iff.mp gives
        obtain ⟨y, converted, gives⟩ := bind_eq_ok_iff.mp gives
        obtain ⟨number, complex⟩ := numberWhere_floatPow gives
        refine ⟨number, fun wide => ?_, fun here => absurd here never⟩
        obtain ⟨p, q, -, rfl, -, fractional⟩ := complex.mp wide
        exact absurd (toFloat_integer_den rfl converted) fractional

theorem isComplex_of_number {a : PyValue} (number : a.isNumber = true)
    (wide : a.isReal = false) : a.isComplex = true := by
  cases a with
  | complex re im => rfl
  | int n => cases wide
  | float x => cases wide
  | bool b => cases wide
  | none => cases number
  | func f => cases number
  | other className => cases number

theorem not_isComplex {a : PyValue} (real : a.isReal = true) : a.isComplex = false := by
  cases a with
  | complex re im => cases real
  | _ => rfl

theorem isReal_of_integer {a : PyValue} {n : ℤ} (whole : a.integer? = some n) :
    a.isReal = true := by
  cases a with
  | int m => rfl
  | bool b => rfl
  | float x => cases whole
  | none => cases whole
  | complex re im => cases whole
  | func f => cases whole
  | other className => cases whole

theorem numberWhere_widerArith {op : ArithOp} {a b : PyValue}
    (gives : widerArith lib op a b = .ok value) : NumberWhere (Widens op a b) value := by
  unfold widerArith at gives
  by_cases real : (a.isReal && b.isReal) = true
  · rw [if_pos real] at gives
    obtain ⟨first, second⟩ := Bool.and_eq_true _ _ ▸ real
    obtain ⟨x, atA, gives⟩ := bind_eq_ok_iff.mp gives
    obtain ⟨y, atB, gives⟩ := bind_eq_ok_iff.mp gives
    obtain ⟨number, complex⟩ := numberWhere_floatOp gives
    refine ⟨number, complex.trans ?_⟩
    simp [Widens, not_isComplex first, not_isComplex second, atA, atB]
  · rw [if_neg real] at gives
    split at gives
    · rename_i numbers
      obtain ⟨first, second⟩ := Bool.and_eq_true _ _ ▸ numbers
      have wide : Widens op a b := by
        rw [Bool.and_eq_true, not_and_or, Bool.not_eq_true, Bool.not_eq_true] at real
        rcases real with atA | atB
        · exact .inl (isComplex_of_number first atA)
        · exact .inr (.inl (isComplex_of_number second atB))
      split at gives
      · cases gives
      · obtain ⟨z, -, gives⟩ := bind_eq_ok_iff.mp gives
        obtain ⟨w, -, gives⟩ := bind_eq_ok_iff.mp gives
        exact numberWhere_complexOp wide gives
    · cases gives

/-- The result of an operator is a number, complex only where it widens. -/
theorem numberWhere_arith {op : ArithOp} {a b : PyValue}
    (gives : arith lib op a b = .ok value) : NumberWhere (Widens op a b) value := by
  unfold arith at gives
  cases first : a.integer? with
  | none =>
      rw [first] at gives
      exact numberWhere_widerArith gives
  | some m =>
      cases second : b.integer? with
      | none =>
          rw [first, second] at gives
          exact numberWhere_widerArith gives
      | some n =>
          rw [first, second] at gives
          refine numberWhere_intOp gives ?_
          rintro (wide | wide | ⟨-, p, q, -, converted, -, fractional⟩)
          · rw [not_isComplex (isReal_of_integer first)] at wide
            cases wide
          · rw [not_isComplex (isReal_of_integer second)] at wide
            cases wide
          · exact fractional (toFloat_integer_den second converted)

/-! ### Results of functions -/

theorem isReal_floatResult {x : PyFloat} (gives : floatResult x = .ok value) :
    value.isReal = true := by
  cases gives
  rfl

theorem isReal_finiteResult {x : PyFloat} (gives : finiteResult x = .ok value) :
    value.isReal = true := by
  cases x with
  | fin q => exact isReal_floatResult gives
  | inf negative => cases gives
  | nan => cases gives

theorem isReal_of_ordered {test : Extended → Extended → Bool} {a b : PyValue}
    {holds : Bool} (gives : ordered test a b = .ok holds) :
    a.isReal = true ∧ b.isReal = true := by
  unfold ordered at gives
  split at gives
  · rename_i both
    exact Bool.and_eq_true _ _ ▸ both
  · cases gives

/-- The induction is on the arguments that are still to be compared. -/
theorem isReal_foldlM {beyond : CompareOp} (rest : List PyValue) {best : PyValue}
    (real : best.isReal = true)
    (known : ∀ a b holds, compare beyond a b = .ok holds → a.isReal = true)
    (gives : (rest.foldlM (fun best item => do
      let better ← compare beyond item best
      return if better then item else best) best) = .ok value) : value.isReal = true := by
  induction rest generalizing best with
  | nil =>
      cases gives
      exact real
  | cons item rest ih =>
      rw [List.foldlM_cons] at gives
      obtain ⟨next, first, gives⟩ := bind_eq_ok_iff.mp gives
      obtain ⟨better, compared, kept⟩ := bind_eq_ok_iff.mp first
      refine ih ?_ gives
      cases kept
      split
      · exact known _ _ _ compared
      · exact real

theorem isReal_extremum {beyond : CompareOp} {args : List PyValue}
    (known : ∀ a b holds, compare beyond a b = .ok holds →
      a.isReal = true ∧ b.isReal = true)
    (gives : extremum beyond args = .ok value) : value.isReal = true := by
  match args with
  | [] => cases gives
  | [x] => cases gives
  | first :: second :: rest =>
      have both : first.isReal = true := by
        simp only [extremum, List.foldlM_cons] at gives
        obtain ⟨next, here, -⟩ := bind_eq_ok_iff.mp gives
        obtain ⟨better, compared, -⟩ := bind_eq_ok_iff.mp here
        exact (known _ _ _ compared).2
      exact isReal_foldlM (second :: rest) both (fun a b holds same =>
        (known a b holds same).1) gives

theorem isReal_pyAbs {x : PyValue} (gives : pyAbs lib x = .ok value) :
    value.isReal = true := by
  cases x with
  | int n =>
      cases gives
      rfl
  | bool b =>
      cases gives
      rfl
  | float x => exact isReal_floatResult gives
  | complex re im =>
      cases re with
      | fin p =>
          cases im with
          | fin q => exact isReal_finiteResult gives
          | inf negative => exact isReal_floatResult gives
          | nan => exact isReal_floatResult gives
      | inf negative => exact isReal_floatResult gives
      | nan => cases im <;> exact isReal_floatResult gives
  | none => cases gives
  | func f => cases gives
  | other className => cases gives

theorem isReal_roundWhole {x : PyValue} (gives : roundWhole x = .ok value) :
    value.isReal = true := by
  unfold roundWhole at gives
  split at gives <;> cases gives <;> rfl

theorem isReal_roundDigits {x : PyValue} {n : ℤ} (gives : roundDigits x n = .ok value) :
    value.isReal = true := by
  cases x with
  | int m =>
      cases gives
      rfl
  | bool b =>
      cases gives
      rfl
  | float x =>
      cases x with
      | fin q => exact isReal_finiteResult gives
      | inf negative => exact isReal_floatResult gives
      | nan => exact isReal_floatResult gives
  | none => cases gives
  | complex re im => cases gives
  | func f => cases gives
  | other className => cases gives

theorem isReal_pyRound {args : List PyValue} (gives : pyRound args = .ok value) :
    value.isReal = true := by
  unfold pyRound at gives
  split at gives
  · exact isReal_roundWhole gives
  · exact isReal_roundWhole gives
  · split at gives
    · exact isReal_roundDigits gives
    · cases gives
  · cases gives

theorem isReal_pySqrt {x : PyValue} (gives : pySqrt lib x = .ok value) :
    value.isReal = true := by
  obtain ⟨y, -, gives⟩ := bind_eq_ok_iff.mp gives
  cases y with
  | nan => exact isReal_floatResult gives
  | inf negative =>
      cases negative with
      | true => cases gives
      | false => exact isReal_floatResult gives
  | fin q =>
      simp only at gives
      split at gives
      · cases gives
      · exact isReal_floatResult gives

theorem isReal_pyLog {args : List PyValue} (gives : pyLog lib args = .ok value) :
    value.isReal = true := by
  match args with
  | [] => cases gives
  | [x] =>
      rw [pyLog] at gives
      cases outcome : logarithm lib x with
      | ok y =>
          rw [outcome] at gives
          cases gives
          rfl
      | error cause =>
          rw [outcome] at gives
          cases gives
  | [x, base] =>
      obtain ⟨y, -, gives⟩ := bind_eq_ok_iff.mp gives
      obtain ⟨z, -, gives⟩ := bind_eq_ok_iff.mp gives
      change (if z.isZero then _ else floatResult _) = _ at gives
      split at gives
      · cases gives
      · exact isReal_floatResult gives
  | x :: base :: more :: rest => cases gives

theorem isReal_pyExp {x : PyValue} (gives : pyExp lib x = .ok value) :
    value.isReal = true := by
  obtain ⟨y, -, gives⟩ := bind_eq_ok_iff.mp gives
  cases y with
  | nan => exact isReal_floatResult gives
  | inf negative => exact isReal_floatResult gives
  | fin q => exact isReal_finiteResult gives

theorem isReal_whole {towards : ℚ → ℤ} {x : PyValue} (gives : whole towards x = .ok value) :
    value.isReal = true := by
  unfold whole at gives
  split at gives <;> cases gives <;> rfl

theorem isReal_oneArgument {function : PyValue → Except PyError PyValue}
    (single : ∀ x, function x = .ok value → value.isReal = true) {args : List PyValue}
    (gives : oneArgument function args = .ok value) : value.isReal = true := by
  match args with
  | [] => cases gives
  | [x] => exact single x gives
  | x :: y :: rest => cases gives

/-- The result of a function is a real number. -/
theorem callBuiltin_isReal {f : PyBuiltin} {args : List PyValue}
    (gives : callBuiltin lib f args = .ok value) : value.isReal = true := by
  cases f with
  | abs => exact isReal_oneArgument (fun _ => isReal_pyAbs) gives
  | min =>
      refine isReal_extremum (fun a b holds (less : compare .lt a b = .ok holds) => ?_) gives
      exact isReal_of_ordered less
  | max =>
      refine isReal_extremum (fun a b holds (more : compare .gt a b = .ok holds) => ?_) gives
      exact isReal_of_ordered more
  | round => exact isReal_pyRound gives
  | sqrt => exact isReal_oneArgument (fun _ => isReal_pySqrt) gives
  | log => exact isReal_pyLog gives
  | exp => exact isReal_oneArgument (fun _ => isReal_pyExp) gives
  | floor => exact isReal_oneArgument (fun _ => isReal_whole) gives
  | ceil => exact isReal_oneArgument (fun _ => isReal_whole) gives

end Results

end Lib
