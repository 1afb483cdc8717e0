/-
Module: StingerFx.Proofs.MetricContainment
Layer: Proofs
Purpose: What can leave the evaluation of a metric expression besides numbers and its
  own errors. An operation out of range raises an exception that is not caught, a bare
  function name gives the function, and a negative number raised to a fractional power
  is a complex number.
Trusted boundary: none (fully proved)
Main exports: Gives, Overflows, EndsInFunction, Widened, evalNode_ok_iff,
  evalNode_overflow_iff, Contained, MetricExpression.contained_iff,
  MetricExpression.overflow_escapes
-/
import StingerFx.Lib.PyResults
import StingerFx.Proofs.MetricChecks

namespace StingerFx

open Lib

/-! ### Values of an expression and of its parts -/

section Semantics

variable (lib : Libm) (scope : Dict String PyValue)

mutual

/-- An expression has a value. -/
def Gives : PyNode → PyValue → Prop
  | .constant constant, value => value = constant.value
  | .name id, value =>
      match safeFunction? id with
      | some function => value = .func function
      | none => scope.get? id = some value
  | .binOp left op right, value =>
      ∃ a, Gives left a ∧ ∃ b, Gives right b ∧
        ∃ function, binOps op = some function ∧ arith lib function a b = .ok value
  | .unaryOp op operand, value =>
      ∃ a, Gives operand a ∧
        ∃ function, unaryOps op = some function ∧ unary function a = .ok value
  | .boolOp op values, value =>
      ∃ evaluated, GivesAll values evaluated ∧ value = combine op evaluated
  | .compare left ops comparators, value =>
      ∃ current, Gives left current ∧ GivesChain current ops comparators value
  | .ifExp test body orelse, value =>
      ∃ condition, Gives test condition ∧
        if condition.truth then Gives body value else Gives orelse value
  | .call func args _, value =>
      ∃ id function, func = .name id ∧ safeFunction? id = some function ∧
        ∃ evaluated, GivesAll args evaluated ∧ callBuiltin lib function evaluated = .ok value
  | .other _ _, _ => False

def GivesAll : List PyNode → List PyValue → Prop
  | [], values => values = []
  | first :: rest, values =>
      ∃ value, Gives first value ∧ ∃ others, GivesAll rest others ∧
        values = value :: others

/-- A comparison of several operands, up to the first that does not hold. -/
def GivesChain (current : PyValue) : List CmpOperator → List PyNode → PyValue → Prop
  | [], [], value => value = .bool true
  | op :: ops, comparator :: comparators, value =>
      ∃ right, Gives comparator right ∧
        ∃ function, cmpOps op = some function ∧
          ((compare function current right = .ok true ∧
              GivesChain right ops comparators value) ∨
            (compare function current right = .ok false ∧ value = .bool false))
  | _, _, _ => False

end

mutual

/-- An evaluation comes to an operation that is out of range. -/
def Overflows : PyNode → Prop
  | .constant _ | .name _ | .other _ _ => False
  | .binOp left op right =>
      Overflows left ∨ ∃ a, Gives lib scope left a ∧
        (Overflows right ∨ ∃ b, Gives lib scope right b ∧
          ∃ function, binOps op = some function ∧ OutOfRange lib function a b)
  | .unaryOp _ operand => Overflows operand
  | .boolOp _ values => OverflowsIn values
  | .compare left ops comparators =>
      Overflows left ∨ ∃ current, Gives lib scope left current ∧
        OverflowsChain current ops comparators
  | .ifExp test body orelse =>
      Overflows test ∨ ∃ condition, Gives lib scope test condition ∧
        if condition.truth then Overflows body else Overflows orelse
  | .call func args _ =>
      ∃ id function, func = .name id ∧ safeFunction? id = some function ∧
        (OverflowsIn args ∨ ∃ evaluated, GivesAll lib scope args evaluated ∧
          CallOutOfRange lib function evaluated)

def OverflowsIn : List PyNode → Prop
  | [] => False
  | first :: rest => Overflows first ∨ ∃ value, Gives lib scope first value ∧ OverflowsIn rest

def OverflowsChain (current : PyValue) : List CmpOperator → List PyNode → Prop
  | op :: ops, comparator :: comparators =>
      Overflows comparator ∨ ∃ right, Gives lib scope comparator right ∧
        ∃ function, cmpOps op = some function ∧
          compare function current right = .ok true ∧ OverflowsChain right ops comparators
  | _, _ => False

end

/-- The value is the one of a function's name. -/
def EndsInFunction : PyNode → Prop
  | .name id => (safeFunction? id).isSome = true
  | .ifExp test body orelse =>
      ∃ condition, Gives lib scope test condition ∧
        if condition.truth then EndsInFunction body else EndsInFunction orelse
  | .constant _ | .binOp _ _ _ | .unaryOp _ _ | .boolOp _ _ | .compare _ _ _
  | .call _ _ _ | .other _ _ => False

/-- A negative number is raised to a fractional power, and operators carry the result
to the value. -/
def Widened : PyNode → Prop
  | .binOp left op right =>
      Widened left ∨ Widened right ∨
        (op = .pow ∧ ∃ a b p q, Gives lib scope left a ∧ Gives lib scope right b ∧
          a.toFloat = .ok (.fin p) ∧ b.toFloat = .ok (.fin q) ∧ p < 0 ∧ q.den ≠ 1)
  | .unaryOp op operand => op ≠ .not ∧ Widened operand
  | .ifExp test body orelse =>
      ∃ condition, Gives lib scope test condition ∧
        if condition.truth then Widened body else Widened orelse
  | .constant _ | .name _ | .boolOp _ _ | .compare _ _ _ | .call _ _ _
  | .other _ _ => False

end Semantics

/-! ### The evaluator has these values -/

section Values

variable {lib : Libm} {scope : Dict String PyValue}

theorem ok_eq_iff {ε α : Type} {a b : α} : (.ok a : Except ε α) = .ok b ↔ b = a :=
  ⟨fun same => (Except.ok.inj same).symm, fun same => congrArg _ same.symm⟩

theorem calling_ok_iff {α : Type} {outcome : Except PyError α} {value : α} :
    calling outcome = .ok value ↔ outcome = .ok value := by
  cases outcome <;> simp [calling, Except.mapError]

theorem calling_overflow_iff {α : Type} {outcome : Except PyError α} :
    calling outcome = .error (.python .overflow) ↔ outcome = .error .overflow := by
  cases outcome <;> simp [calling, Except.mapError]

theorem applyBinary_ok_iff {op : BinOperator} {a b value : PyValue} :
    applyBinary lib op a b = .ok value ↔
      ∃ function, binOps op = some function ∧ arith lib function a b = .ok value := by
  rw [applyBinary]
  cases binOps op <;> simp [calling_ok_iff]

theorem applyUnary_ok_iff {op : UnaryOperator} {a value : PyValue} :
    applyUnary op a = .ok value ↔
      ∃ function, unaryOps op = some function ∧ unary function a = .ok value := by
  rw [applyUnary]
  cases unaryOps op <;> simp [calling_ok_iff]

theorem applyComparator_ok_iff {op : CmpOperator} {a b : PyValue} {holds : Bool} :
    applyComparator op a b = .ok holds ↔
      ∃ function, cmpOps op = some function ∧ compare function a b = .ok holds := by
  rw [applyComparator]
  cases cmpOps op <;> simp [calling_ok_iff]

theorem evalNodes_ok_iff {nodes : List PyNode} {values : List PyValue}
    (each : ∀ node ∈ nodes, ∀ value,
      evalNode lib scope node = .ok value ↔ Gives lib scope node value) :
    evalNodes lib scope nodes = .ok values ↔ GivesAll lib scope nodes values := by
  induction nodes generalizing values with
  | nil =>
      rw [evalNodes, GivesAll]
      exact ok_eq_iff
  | cons first rest ih =>
      obtain ⟨here, later⟩ := List.forall_mem_cons.mp each
      simp only [evalNodes, GivesAll, bind_eq_ok_iff, here, ih later]
      refine exists_congr fun value => and_congr_right fun _ => ?_
      refine exists_congr fun others => and_congr_right fun _ => ?_
      exact ok_eq_iff

theorem evalChain_ok_iff {comparators : List PyNode} {value : PyValue}
    (each : ∀ node ∈ comparators, ∀ value,
      evalNode lib scope node = .ok value ↔ Gives lib scope node value)
    (current : PyValue) (ops : List CmpOperator) :
    evalChain lib scope current ops comparators = .ok value ↔
      GivesChain lib scope current ops comparators value := by
  induction comparators generalizing current ops with
  | nil =>
      cases ops with
      | nil =>
          rw [evalChain, GivesChain]
          exact ok_eq_iff
      | cons op ops => simp [evalChain, GivesChain]
  | cons first rest ih =>
      cases ops with
      | nil => simp [evalChain, GivesChain]
      | cons op ops =>
          obtain ⟨here, later⟩ := List.forall_mem_cons.mp each
          simp only [evalChain, GivesChain, bind_eq_ok_iff, here, applyComparator_ok_iff]
          refine exists_congr fun right => and_congr_right fun _ => ?_
          constructor
          · rintro ⟨holds, ⟨function, known, compared⟩, gives⟩
            refine ⟨function, known, ?_⟩
            cases holds with
            | true => exact .inl ⟨compared, (ih later right ops).mp gives⟩
            | false => exact .inr ⟨compared, (Except.ok.inj gives).symm⟩
          · rintro ⟨function, known, ⟨compared, gives⟩ | ⟨compared, rfl⟩⟩
            · exact ⟨true, ⟨function, known, compared⟩, (ih later right ops).mpr gives⟩
            · exact ⟨false, ⟨function, known, compared⟩, rfl⟩

/-- The evaluator computes the value of an expression. -/
theorem evalNode_ok_iff (tree : PyNode) (value : PyValue) :
    evalNode lib scope tree = .ok value ↔ Gives lib scope tree value := by
  induction tree using PyNode.induct generalizing value with
  | constant constant =>
      rw [evalNode, Gives]
      exact ok_eq_iff
  | name id =>
      rw [evalNode, Gives, evalName]
      cases safeFunction? id with
      | some function =>
          exact ok_eq_iff
      | none => cases scope.get? id <;> simp
  | binOp left op right one two =>
      simp only [evalNode, Gives, bind_eq_ok_iff, one, two, applyBinary_ok_iff]
  | unaryOp op operand one =>
      simp only [evalNode, Gives, bind_eq_ok_iff, one, applyUnary_ok_iff]
  | boolOp op values all =>
      simp only [evalNode, Gives, bind_eq_ok_iff, evalNodes_ok_iff all]
      refine exists_congr fun evaluated => and_congr_right fun _ => ?_
      exact ok_eq_iff
  | compare left ops comparators one all =>
      simp only [evalNode, Gives, bind_eq_ok_iff, one, evalChain_ok_iff all]
  | ifExp test body orelse one two three =>
      simp only [evalNode, Gives, bind_eq_ok_iff, one]
      refine exists_congr fun condition => and_congr_right fun _ => ?_
      split
      · exact two value
      · exact three value
  | call func args keywords _ all =>
      rw [Gives]
      cases func with
      | name id =>
          rw [evalNode]
          cases known : safeFunction? id with
          | none => simp [known]
          | some function =>
              simp [known, bind_eq_ok_iff, evalNodes_ok_iff all, calling_ok_iff]
      | _ => simp [evalNode]
  | other className children => simp [evalNode, Gives]

end Values

/-! ### The evaluator overflows there -/

section Overflow

variable {lib : Libm} {scope : Dict String PyValue}

theorem applyBinary_overflow_iff {op : BinOperator} {a b : PyValue} :
    applyBinary lib op a b = .error (.python .overflow) ↔
      ∃ function, binOps op = some function ∧ OutOfRange lib function a b := by
  rw [applyBinary]
  cases binOps op <;> simp [calling_overflow_iff, arith_overflow_iff]

theorem unary_ne_overflow (op : Negation) (a : PyValue) : unary op a ≠ .error .overflow := by
  cases op <;> cases a <;> simp [unary]

theorem applyUnary_ne_overflow (op : UnaryOperator) (a : PyValue) :
    applyUnary op a ≠ .error (.python .overflow) := by
  rw [applyUnary]
  cases unaryOps op with
  | none => simp
  | some function => exact mt calling_overflow_iff.mp (unary_ne_overflow function a)

theorem applyComparator_ne_overflow (op : CmpOperator) (a b : PyValue) :
    applyComparator op a b ≠ .error (.python .overflow) := by
  rw [applyComparator]
  cases cmpOps op with
  | none => simp
  | some function => exact mt calling_overflow_iff.mp (compare_ne_overflow function a b)

theorem evalNodes_overflow_iff {nodes : List PyNode}
    (each : ∀ node ∈ nodes,
      evalNode lib scope node = .error (.python .overflow) ↔ Overflows lib scope node) :
    evalNodes lib scope nodes = .error (.python .overflow) ↔ OverflowsIn lib scope nodes := by
  induction nodes with
  | nil => simp [evalNodes, OverflowsIn]
  | cons first rest ih =>
      obtain ⟨here, later⟩ := List.forall_mem_cons.mp each
      simp only [evalNodes, OverflowsIn, bind_eq_error_iff, here, ih later, evalNode_ok_iff]
      refine or_congr_right (exists_congr fun value => and_congr_right fun _ => ?_)
      apply or_iff_left
      rintro ⟨_, _, same⟩
      cases same

theorem evalChain_overflow_iff {comparators : List PyNode}
    (each : ∀ node ∈ comparators,
      evalNode lib scope node = .error (.python .overflow) ↔ Overflows lib scope node)
    (current : PyValue) (ops : List CmpOperator) :
    evalChain lib scope current ops comparators = .error (.python .overflow) ↔
      OverflowsChain lib scope current ops comparators := by
  induction comparators generalizing current ops with
  | nil => cases ops <;> simp [evalChain, OverflowsChain]
  | cons first rest ih =>
      cases ops with
      | nil => simp [evalChain, OverflowsChain]
      | cons op ops =>
          obtain ⟨here, later⟩ := List.forall_mem_cons.mp each
          simp only [evalChain, OverflowsChain, bind_eq_error_iff, here, evalNode_ok_iff,
            applyComparator_ok_iff, applyComparator_ne_overflow, false_or]
          refine or_congr_right (exists_congr fun right => and_congr_right fun _ => ?_)
          constructor
          · rintro ⟨holds, ⟨function, known, compared⟩, fails⟩
            cases holds with
            | true => exact ⟨function, known, compared, (ih later right ops).mp fails⟩
            | false => cases fails
          · rintro ⟨function, known, compared, fails⟩
            exact ⟨true, ⟨function, known, compared⟩, (ih later right ops).mpr fails⟩

/-- The evaluator raises an overflow where an operation it comes to is out of range. -/
theorem evalNode_overflow_iff (tree : PyNode) :
    evalNode lib scope tree = .error (.python .overflow) ↔ Overflows lib scope tree := by
  induction tree using PyNode.induct with
  | constant constant => simp [evalNode, Overflows]
  | name id =>
      rw [evalNode, Overflows, evalName]
      cases safeFunction? id with
      | some function => simp
      | none => cases scope.get? id <;> simp
  | binOp left op right one two =>
      simp only [evalNode, Overflows, bind_eq_error_iff, one, two, evalNode_ok_iff,
        applyBinary_overflow_iff]
  | unaryOp op operand one =>
      simp only [evalNode, Overflows, bind_eq_error_iff, one]
      apply or_iff_left
      rintro ⟨_, _, fails⟩
      exact applyUnary_ne_overflow _ _ fails
  | boolOp op values all =>
      simp only [evalNode, Overflows, bind_eq_error_iff, evalNodes_overflow_iff all]
      apply or_iff_left
      rintro ⟨_, _, same⟩
      cases same
  | compare left ops comparators one all =>
      simp only [evalNode, Overflows, bind_eq_error_iff, one, evalNode_ok_iff,
        evalChain_overflow_iff all]
  | ifExp test body orelse one two three =>
      simp only [evalNode, Overflows, bind_eq_error_iff, one, evalNode_ok_iff]
      refine or_congr_right (exists_congr fun condition => and_congr_right fun _ => ?_)
      split
      · exact two
      · exact three
  | call func args keywords _ all =>
      rw [Overflows]
      cases func with
      | name id =>
          rw [evalNode]
          cases known : safeFunction? id with
          | none => simp [known]
          | some function =>
              simp [known, bind_eq_error_iff, evalNodes_overflow_iff all,
                calling_overflow_iff, callBuiltin_overflow_iff,
                evalNodes_ok_iff fun node _ => evalNode_ok_iff node]
      | _ => simp [evalNode]
  | other className children => simp [evalNode, Overflows]

end Overflow

/-! ### Kinds of values -/

/-- A number that is real, a boolean among them, or `None`. -/
def IsPlain (value : PyValue) : Prop := value.isReal = true ∨ value = .none

def isFunction : PyValue → Bool
  | .func _ => true
  | .int _ | .float _ | .bool _ | .none | .complex _ _ | .other _ => false

section Kinds

variable {lib : Libm} {scope : Dict String PyValue} {tree : PyNode} {value : PyValue}

theorem Gives.unique {other : PyValue} (one : Gives lib scope tree value)
    (two : Gives lib scope tree other) : value = other := by
  have first := (evalNode_ok_iff tree value).mpr one
  have second := (evalNode_ok_iff tree other).mpr two
  exact Except.ok.inj (first.symm.trans second)

/-- The kind of a value is the one that the tree tells. -/
structure Classified (lib : Libm) (scope : Dict String PyValue) (tree : PyNode)
    (value : PyValue) : Prop where
  complex : value.isComplex = true ↔ Widened lib scope tree
  function : isFunction value = true ↔ EndsInFunction lib scope tree
  known : value.isNumber = true ∨ value = .none ∨ isFunction value = true

theorem IsPlain.not_complex (isPlain : IsPlain value) : value.isComplex = false := by
  rcases isPlain with real | rfl
  · exact not_isComplex real
  · rfl

theorem IsPlain.not_function (isPlain : IsPlain value) : isFunction value = false := by
  cases value with
  | func f => rcases isPlain with real | same <;> contradiction
  | _ => rfl

theorem isNumber_of_isReal (real : value.isReal = true) : value.isNumber = true := by
  cases value with
  | int n => rfl
  | float x => rfl
  | bool b => rfl
  | none => cases real
  | complex re im => cases real
  | func f => cases real
  | other className => cases real

theorem IsPlain.classified (isPlain : IsPlain value) (narrow : ¬Widened lib scope tree)
    (called : ¬EndsInFunction lib scope tree) : Classified lib scope tree value where
  complex := iff_of_false (by simp [isPlain.not_complex]) narrow
  function := iff_of_false (by simp [isPlain.not_function]) called
  known := isPlain.imp isNumber_of_isReal .inl

theorem not_function_of_number (number : value.isNumber = true) :
    isFunction value = false := by
  cases value with
  | func f => cases number
  | _ => rfl

theorem numberWhere_unary {op : Negation} {a : PyValue} (gives : unary op a = .ok value) :
    NumberWhere (op ≠ .not ∧ a.isComplex = true) value := by
  cases op with
  | not =>
      cases gives
      exact ⟨rfl, iff_of_false (by simp [PyValue.isComplex]) (by simp)⟩
  | minus =>
      cases a <;> cases gives <;> exact ⟨rfl, by simp [PyValue.isComplex]⟩
  | plus =>
      cases a <;> cases gives <;> exact ⟨rfl, by simp [PyValue.isComplex]⟩

theorem combine_isReal (op : BoolOperator) (values : List PyValue) :
    (combine op values).isReal = true := by
  cases op <;> rfl

theorem GivesChain.isReal {comparators : List PyNode} {current : PyValue}
    {ops : List CmpOperator} (gives : GivesChain lib scope current ops comparators value) :
    value.isReal = true := by
  induction comparators generalizing current ops with
  | nil =>
      cases ops with
      | nil =>
          cases gives
          rfl
      | cons op ops => cases gives
  | cons first rest ih =>
      cases ops with
      | nil => cases gives
      | cons op ops =>
          obtain ⟨right, -, function, -, ⟨-, later⟩ | ⟨-, rfl⟩⟩ := gives
          · exact ih later
          · rfl

theorem binOps_pow_iff {op : BinOperator} {function : ArithOp}
    (known : binOps op = some function) : function = .pow ↔ op = .pow := by
  cases op <;> cases known <;> simp

theorem unaryOps_not_iff {op : UnaryOperator} {function : Negation}
    (known : unaryOps op = some function) : function = .not ↔ op = .not := by
  cases op <;> cases known <;> simp

/-- A condition has one truth. -/
theorem taken_iff {test : PyNode} {condition : PyValue} {taken : Bool} {body orelse : Prop}
    (atTest : Gives lib scope test condition) (truth : condition.truth = taken) :
    (∃ other, Gives lib scope test other ∧ if other.truth then body else orelse) ↔
      if taken then body else orelse := by
  rw [← truth]
  constructor
  · rintro ⟨other, isTest, held⟩
    rwa [← isTest.unique atTest]
  · exact fun held => ⟨condition, atTest, held⟩

/-- The induction is on the tree; an accepted one has no constants of other kinds. -/
theorem Gives.classified (passes : Passes tree)
    (numbers : ∀ id value, scope.get? id = some value → IsPlain value)
    (gives : Gives lib scope tree value) : Classified lib scope tree value := by
  induction tree using PyNode.induct generalizing value with
  | constant constant =>
      have accepted := passes.here
      rw [Gives] at gives
      subst gives
      cases constant with
      | int n => exact IsPlain.classified (.inl rfl) not_false not_false
      | float x => exact IsPlain.classified (.inl rfl) not_false not_false
      | bool b => exact IsPlain.classified (.inl rfl) not_false not_false
      | none => exact IsPlain.classified (.inr rfl) not_false not_false
      | complex re im => cases accepted
      | str text => cases accepted
      | bytes => cases accepted
      | ellipsis => cases accepted
  | name id =>
      rw [Gives] at gives
      cases known : safeFunction? id with
      | some function =>
          rw [known] at gives
          subst gives
          refine ⟨iff_of_false (by simp [PyValue.isComplex]) not_false, ?_, .inr (.inr rfl)⟩
          simp [EndsInFunction, known, isFunction]
      | none =>
          rw [known] at gives
          refine (numbers id value gives).classified not_false ?_
          simp [EndsInFunction, known]
  | binOp left op right one two =>
      obtain ⟨a, atLeft, b, atRight, function, known, gives⟩ := gives
      obtain ⟨number, complex⟩ := numberWhere_arith gives
      have first := (one (passes.child List.mem_cons_self) atLeft).complex
      have second := (two (passes.child (List.mem_cons_of_mem _ (List.mem_cons_of_mem _
        List.mem_cons_self))) atRight).complex
      refine ⟨complex.trans ?_, iff_of_false ?_ not_false, .inl number⟩
      · refine or_congr first (or_congr second (and_congr (binOps_pow_iff known) ?_))
        constructor
        · rintro ⟨p, q, base, exponent, widens⟩
          exact ⟨a, b, p, q, atLeft, atRight, base, exponent, widens⟩
        · rintro ⟨a', b', p, q, isLeft, isRight, base, exponent, widens⟩
          rw [isLeft.unique atLeft] at base
          rw [isRight.unique atRight] at exponent
          exact ⟨p, q, base, exponent, widens⟩
      · simp [not_function_of_number number]
  | unaryOp op operand one =>
      obtain ⟨a, below, function, known, gives⟩ := gives
      obtain ⟨number, complex⟩ := numberWhere_unary gives
      have inside := (one (passes.child (List.mem_cons_of_mem _ List.mem_cons_self))
        below).complex
      refine ⟨complex.trans ?_, iff_of_false ?_ not_false, .inl number⟩
      · exact and_congr (not_congr (unaryOps_not_iff known)) inside
      · simp [not_function_of_number number]
  | boolOp op values all =>
      obtain ⟨evaluated, -, rfl⟩ := gives
      exact IsPlain.classified (.inl (combine_isReal op evaluated)) not_false not_false
  | compare left ops comparators one all =>
      obtain ⟨current, -, gives⟩ := gives
      exact IsPlain.classified (.inl gives.isReal) not_false not_false
  | ifExp test body orelse one two three =>
      obtain ⟨condition, atTest, gives⟩ := gives
      cases taken : condition.truth with
      | true =>
          rw [taken] at gives
          have inside := two (passes.child (List.mem_cons_of_mem _ List.mem_cons_self)) gives
          refine ⟨inside.complex.trans ?_, inside.function.trans ?_, inside.known⟩
          · exact (taken_iff atTest taken).symm
          · exact (taken_iff atTest taken).symm
      | false =>
          rw [taken] at gives
          have inside := three (passes.child (List.mem_cons_of_mem _
            (List.mem_cons_of_mem _ List.mem_cons_self))) gives
          refine ⟨inside.complex.trans ?_, inside.function.trans ?_, inside.known⟩
          · exact (taken_iff atTest taken).symm
          · exact (taken_iff atTest taken).symm
  | call func args keywords _ all =>
      obtain ⟨id, function, -, -, evaluated, -, gives⟩ := gives
      exact IsPlain.classified (.inl (callBuiltin_isReal gives)) not_false not_false
  | other className children => cases gives

theorem Classified.isPlain (kind : Classified lib scope tree value)
    (uncalled : ¬isFunction value = true) (real : ¬value.isComplex = true) :
    IsPlain value := by
  rcases kind.known with number | none | function
  · by_contra other
    refine real (isComplex_of_number number ?_)
    exact Bool.eq_false_iff.mpr fun isReal => other (.inl isReal)
  · exact .inr none
  · exact absurd function uncalled

theorem gives_of_endsInFunction (ends : EndsInFunction lib scope tree) :
    ∃ function, Gives lib scope tree (.func function) := by
  induction tree using PyNode.induct with
  | name id =>
      obtain ⟨function, known⟩ := Option.isSome_iff_exists.mp ends
      exact ⟨function, by rw [Gives, known]⟩
  | ifExp test body orelse _ two three =>
      obtain ⟨condition, atTest, ends⟩ := ends
      cases taken : condition.truth with
      | true =>
          rw [taken] at ends
          obtain ⟨function, gives⟩ := two ends
          exact ⟨function, condition, atTest, by rwa [taken]⟩
      | false =>
          rw [taken] at ends
          obtain ⟨function, gives⟩ := three ends
          exact ⟨function, condition, atTest, by rwa [taken]⟩
  | constant constant => cases ends
  | binOp left op right => cases ends
  | unaryOp op operand => cases ends
  | boolOp op values => cases ends
  | compare left ops comparators => cases ends
  | call func args keywords => cases ends
  | other className children => cases ends

end Kinds

/-! ### What leaves an evaluation -/

/-- A plain value or an error of the language of metrics. -/
def Contained (outcome : Except EvalError PyValue) : Prop :=
  (∃ value, outcome = .ok value ∧ IsPlain value) ∨
    ∃ error, outcome = .error (.dsl error)

/-- The exceptions that are caught. -/
theorem contained_error_iff {names : String → Prop} {source : String} {error : EvalError}
    (foreseen : Foreseen names (.error error : Except EvalError PyValue)) :
    Contained (.error (MetricExpression.caught source error)) ↔
      error ≠ .python .overflow := by
  rcases foreseen error rfl with ⟨name, -, rfl⟩ | ⟨cause, rfl⟩
  · simp [Contained, MetricExpression.caught]
  · cases cause <;> simp [Contained, MetricExpression.caught]

/-- For every accepted expression and every scope of numbers, booleans and `None`: what
leaves the evaluation is contained, unless it comes to an operation out of range, ends
in the name of a function, or ends in a number that a fractional power of a negative
one has made complex. -/
theorem MetricExpression.contained_iff (lib : Libm) (expr : MetricExpression)
    (scope : Dict String PyValue) (plainly : ∀ value ∈ scope.values, IsPlain value) :
    Contained (expr.evaluate lib scope) ↔
      ¬Overflows lib scope expr.tree ∧ ¬EndsInFunction lib scope expr.tree ∧
        ¬(Widened lib scope expr.tree ∧ ∃ value, Gives lib scope expr.tree value) := by
  have numbers : ∀ id value, scope.get? id = some value → IsPlain value :=
    fun id value stored => plainly value (scope.mem_values_iff.mpr ⟨id, stored⟩)
  have foreseen := evalNode_foreseen lib scope expr.passes
  rw [← evalNode_overflow_iff, evaluate]
  cases outcome : evalNode lib scope expr.tree with
  | ok value =>
      have gives := (evalNode_ok_iff expr.tree value).mp outcome
      have kind := gives.classified expr.passes numbers
      have narrow : (Widened lib scope expr.tree ∧ ∃ value, Gives lib scope expr.tree value) ↔
          value.isComplex = true :=
        ⟨fun held => kind.complex.mpr held.1, fun wide => ⟨kind.complex.mp wide, value, gives⟩⟩
      rw [narrow, ← kind.function]
      constructor
      · rintro (⟨same, here, isPlain⟩ | ⟨error, fails⟩)
        · cases here
          refine ⟨?_, ?_, ?_⟩
          · intro same
            cases same
          · simp [isPlain.not_function]
          · simp [isPlain.not_complex]
        · cases fails
      · rintro ⟨-, uncalled, real⟩
        exact .inl ⟨value, rfl, kind.isPlain uncalled real⟩
  | error error =>
      rw [outcome] at foreseen
      have nothing : ¬∃ value, Gives lib scope expr.tree value := by
        rintro ⟨value, gives⟩
        rw [(evalNode_ok_iff expr.tree value).mpr gives] at outcome
        cases outcome
      have called : ¬EndsInFunction lib scope expr.tree := fun ends =>
        nothing ((gives_of_endsInFunction ends).imp' .func fun _ gives => gives)
      refine (contained_error_iff foreseen).trans ?_
      constructor
      · exact fun other => ⟨fun same => other (Except.error.inj same), called,
          fun held => nothing held.2⟩
      · exact fun held same => held.1 (congrArg _ same)

theorem perTrade_contained :
    let scope := (Dict.empty.set "net_pnl" (.float (.fin 90))).set "trades" (.int 4)
    Contained (perTrade.evaluate .least scope) ↔
      ¬Overflows .least scope perTrade.tree ∧ ¬EndsInFunction .least scope perTrade.tree ∧
        ¬(Widened .least scope perTrade.tree ∧ ∃ value, Gives .least scope perTrade.tree value) :=
  perTrade.contained_iff .least _ (by
    change ∀ value ∈ [PyValue.float (.fin 90), PyValue.int 4], IsPlain value
    exact List.forall_mem_cons.mpr ⟨.inl rfl, List.forall_mem_singleton.mpr (.inl rfl)⟩)

/-- `1.5 * trades ** 700` -/
def weightedTrades : MetricExpression where
  source := "1.5 * trades ** 700"
  tree :=
    .binOp (.constant (.float (.fin (3 / 2)))) .mult
      (.binOp (.name "trades") .pow (.constant (.int 700)))
  accepted := by decide

/-- With ten trades the integer is too large for a float. -/
theorem MetricExpression.overflow_escapes :
    ¬∀ lib (expr : MetricExpression) (scope : Dict String PyValue),
      (∀ value ∈ scope.values, IsPlain value) → Contained (expr.evaluate lib scope) := by
  intro claimed
  have held := claimed .least weightedTrades (Dict.empty.set "trades" (.int 10)) (by
    change ∀ value ∈ [PyValue.int 10], IsPlain value
    exact List.forall_mem_singleton.mpr (.inl rfl))
  have fails : weightedTrades.evaluate .least (Dict.empty.set "trades" (.int 10)) =
      .error (.python .overflow) := by
    decide +kernel
  rw [fails] at held
  rcases held with ⟨value, same, -⟩ | ⟨error, same⟩
  · cases same
  · cases same

end StingerFx
